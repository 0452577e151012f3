import LesChat.Http.HttpApiLaws
import LesChat.Service.NodeRuns
import LesChat.Sync.SyncService

/-! A sync round: a peer answers with its summary, and is sent the messages it has no mark for. -/

namespace LesChat

open Foundation

section Summary

variable {order : IterationOrder} {database : Database}

/-- Origins without NUL bytes keep their marks in the `origins` object, whatever its order. -/
theorem originsJson_get? (terminated : ∀ entry ∈ sequenceSummary database, 0 ∉ entry.1)
    {origin : Bytes} (own : 0 ∉ origin) :
    (originsJson order (sequenceSummary database)).get? (cString origin) =
      (database.sequences.get? origin).map fun last => .int (Int64.ofNat last).toInt := by
  let member := fun entry : Bytes × Nat => (cString entry.1, Json.int (Int64.ofNat entry.2).toInt)
  have arranged := order.complete (sequenceSummary database)
  -- The keys are the origins as they are, so no entry overwrites another.
  have keys : ((order.arrange (sequenceSummary database)).map member).map Prod.fst =
      (order.arrange (sequenceSummary database)).map Prod.fst := by
    rw [List.map_map]
    refine List.map_congr_left fun entry inSummary => ?_
    exact cString_of_noNul (terminated entry (arranged.mem_iff.mp inSummary))
  have distinct : (((order.arrange (sequenceSummary database)).map member).map Prod.fst).Nodup := by
    rw [keys, (arranged.map Prod.fst).nodup_iff]
    exact database.sequences.unique
  rw [cString_of_noNul own, originsJson, jsonObject_of_nodup distinct]
  change Keyed.lookup _ origin = _
  cases mark : database.sequences.get? origin with
  | none =>
    rw [Option.map_none, Keyed.lookup_eq_none_iff, keys, (arranged.map Prod.fst).mem_iff]
    exact (Keyed.lookup_eq_none_iff _ _).mp mark
  | some last =>
    have stored := (database.sequences.mem_entries_iff origin last).mpr mark
    refine Keyed.lookup_of_mem distinct (List.mem_map.mpr ⟨(origin, last), ?_, ?_⟩)
    · exact arranged.mem_iff.mpr stored
    · simp only [member, cString_of_noNul own]

/-- The mark a summary has for an origin without NUL bytes is the one it was built from. -/
theorem summaryLast_originsJson (terminated : ∀ entry ∈ sequenceSummary database, 0 ∉ entry.1)
    {message : ChatMessage} (bounded : database.sequences.value message.origin ≤ maxInt64)
    (own : 0 ∉ message.origin) :
    summaryLast (originsJson order (sequenceSummary database)) message =
      database.sequences.value message.origin := by
  -- The mark is written as the number it is, and an origin without one counts as zero.
  rw [summaryLast, originsJson_get? terminated own]
  cases mark : database.sequences.get? message.origin with
  | none => simp [Marks.value, mark]
  | some value =>
    simp only [Marks.value, mark, Option.getD_some] at bounded
    simp only [Option.map_some, jsonGetInt64, Int64.ofIntClamp_toInt]
    rw [toInt_ofNat_of_le bounded]
    simp [Marks.value, mark]

/-- A summary leaves a message out exactly when its mark is below the sequence of the message. -/
theorem isMissing_originsJson (consistent : database.Consistent)
    (terminated : ∀ entry ∈ sequenceSummary database, 0 ∉ entry.1) {message : ChatMessage}
    (own : 0 ∉ message.origin) :
    isMissing (originsJson order (sequenceSummary database)) message =
      decide (database.sequences.value message.origin < message.sequence) := by
  -- The summary says what the mark of the origin is.
  rw [isMissing, summaryLast_originsJson terminated (consistent.mark_le message.origin) own]

end Summary

section Ingest

variable (library : JsonC) (results : Nat → AddResults)

/-- No `add` throws while the messages of a batch are ingested one after the other. -/
def AddsReturn : List ChatMessage → Nat → MessageService → Prop
  | [], _, _ => True
  | message :: rest, index, service =>
    (∃ inserted, (ingestSync library (results index) message service).1 = .ok inserted) ∧
      AddsReturn rest (index + 1) (ingestSync library (results index) message service).2

variable {library results}

/-- Where every SQLite call succeeds, no `add` of a message in range throws. -/
theorem addsReturn_clean {messages : List ChatMessage} {index : Nat}
    (clean : ∀ offset < messages.length, (results (index + offset)).first = {})
    (inRange : ∀ message ∈ messages, message.sequence ≤ maxInt64)
    (service : MessageService) : AddsReturn library results messages index service := by
  -- The induction follows the batch, whose first call is the one at the index.
  induction messages generalizing index service with
  | nil => trivial
  | cons message rest ih =>
    have later : ∀ offset < rest.length, (results (index + 1 + offset)).first = {} := by
      intro offset below
      have next := clean (offset + 1) (by simpa using below)
      rwa [show index + (offset + 1) = index + 1 + offset by omega] at next
    refine ⟨?_, ih later (fun other member => inRange other (by simp [member])) _⟩
    rw [ingestSync_result]
    exact add_returns (clean 0 (by simp)) (inRange message (by simp)) service.store

/-- Messages apart from each other and from every row are all accepted, when no `add` throws. -/
theorem ingestItems_apart {messages : List ChatMessage} {index accepted : Nat}
    {service : MessageService}
    (parsed : ∀ message ∈ messages, parseMessage (messageToJson message) = some message)
    (returns : AddsReturn library results messages index service)
    (distinct : messages.Pairwise Apart)
    (apart : ∀ row ∈ service.store.database.rows, ∀ message ∈ messages, Apart row message) :
    (ingestItems library results (messages.map messageToJson) index accepted service).1 =
        acceptedResponse (accepted + messages.length) ∧
      (ingestItems library results (messages.map messageToJson) index accepted
        service).2.store.database.committed = service.store.database.committed ++ messages := by
  -- The induction follows the batch: each message becomes a row, and the rest stay apart from it.
  induction messages generalizing index accepted service with
  | nil => simp [ingestItems]
  | cons message rest ih =>
    obtain ⟨⟨inserted, returned⟩, later⟩ := returns
    obtain ⟨first, others⟩ := List.pairwise_cons.mp distinct
    have added := add_added (results index) message service.store
    rw [← ingestSync_result library, returned, ← ingestSync_store library] at added
    have new := added.inserted_of_apart fun row member => apart row member message (by simp)
    subst new
    have committed := added.committed_eq
    rw [if_pos rfl] at committed
    obtain ⟨answer, after⟩ := @ih (index + 1) (accepted + 1)
      (ingestSync library (results index) message service).2
      (fun other member => parsed other (by simp [member])) later others (by
        intro row member other inRest
        rcases added.mem_rows member with old | same
        · exact apart row old other (by simp [inRest])
        · rw [same]
          exact first other inRest)
    have step : ingestItems library results ((message :: rest).map messageToJson) index accepted
        service = ingestItems library results (rest.map messageToJson) (index + 1) (accepted + 1)
          (ingestSync library (results index) message service).2 := by
      rw [List.map_cons, ingestItems, parsed message (by simp)]
      cases call : ingestSync library (results index) message service with
      | mk outcome next =>
        rw [call] at returned
        simp only at returned
        subst returned
        simp [call]
    have total : accepted + 1 + rest.length = accepted + (message :: rest).length := by
      rw [List.length_cons]
      omega
    rw [step, answer, after, committed, total, List.append_assoc, List.singleton_append]
    exact ⟨rfl, rfl⟩

/-- A batch within the limits, of messages apart from each other and from every row, is taken whole. -/
theorem syncMessages_apart (lawful : library.Lawful) {messages : List ChatMessage}
    {service : MessageService} (few : messages.length ≤ maxSyncBatchMessages)
    (small : (serializeJson library (batchJson (messages.map messageToJson))).length ≤
      maxSyncRequestBytes)
    (parsed : ∀ message ∈ messages, parseMessage (messageToJson message) = some message)
    (returns : AddsReturn library results messages 0 service)
    (distinct : messages.Pairwise Apart)
    (apart : ∀ row ∈ service.store.database.rows, ∀ message ∈ messages, Apart row message) :
    let handled := syncMessages library results
      (jsonRequest (serializeJson library (batchJson (messages.map messageToJson)))) service
    handled.1 = acceptedResponse messages.length ∧
      handled.2.store.database.committed = service.store.database.committed ++ messages := by
  intro handled
  -- The request gets through to the loop with the items it was made from.
  have reading := readJsonObject_serializeJson lawful (plain_batchJson messages)
    (by rw [batchJson_eq]; rfl) small true (errorBody "invalid_sync_messages")
  obtain ⟨answer, after⟩ := @ingestItems_apart library results messages 0 0 service parsed returns
    distinct apart
  have all : handled = ingestItems library results (messages.map messageToJson) 0 0 service := by
    simp only [handled, syncMessages, reading]
    rw [batchItems_batchJson (by rwa [List.length_map])]
  rw [all, answer, after, Nat.zero_add]
  exact ⟨rfl, rfl⟩

end Ingest

/--
What a sync round depends on besides the two stores.

The peer answers some request for its summary, and is then sent a batch.
-/
structure SyncRound where
  /-- The request the peer answers. -/
  request : HttpRequest
  /-- The order the peer iterates its summary in. -/
  order : IterationOrder
  /-- How the calls of the peer's `add` end, for each item of the batch. -/
  results : Nat → AddResults

namespace SyncRound

variable (library : JsonC) (round : SyncRound) (messages : List ChatMessage) (peer : MessageService)

/-- The peer's answer. -/
def answer : HttpResponse := syncSummary library round.order round.request peer

/-- What `send_missing` makes of the answer. -/
def batch : Except String (Option Bytes) :=
  sendMissing library messages (round.answer library peer).body

/-- The peer after the round. -/
def after : MessageService :=
  match round.batch library messages peer with
  | .ok (some batch) => (syncMessages library round.results (jsonRequest batch) peer).2
  -- Nothing is posted: the summary was not understood, or leaves nothing out.
  | _ => peer

/-- A round in which the summary is answered, the batch fits its limit, and no `add` throws. -/
structure Succeeds : Prop where
  /-- The peer answers with its summary. -/
  answered : (round.answer library peer).status = 200
  /-- The batch is within the limit of its request. -/
  small : ∀ batch, round.batch library messages peer = .ok (some batch) →
    batch.length ≤ maxSyncRequestBytes
  /-- The peer's `add` returns for every message of the batch. -/
  returns : AddsReturn library round.results
    (missingMessages library messages (round.answer library peer).body) 0 peer

end SyncRound

/-- A round succeeds when the summary is answered, the batch fits, and every SQLite call succeeds. -/
theorem SyncRound.succeeds_clean {library : JsonC} {round : SyncRound} {messages : List ChatMessage}
    {peer : MessageService} (clean : ∀ index, (round.results index).first = {})
    (inRange : ∀ message ∈ messages, message.sequence ≤ maxInt64)
    (answered : (round.answer library peer).status = 200)
    (small : ((round.batch library messages peer).toOption.bind id).all
      (fun batch => batch.length ≤ maxSyncRequestBytes) = true) :
    round.Succeeds library messages peer where
  answered := answered
  small := by
    -- The batch that was checked is the one that is sent.
    intro batch sent
    rw [sent] at small
    simpa [Except.toOption] using small
  returns := addsReturn_clean (fun offset _ => clean (0 + offset))
    (fun message member => inRange message (mem_of_mem_missingMessages member)) peer

/-- The messages whose sequences exceed the marks of a peer's file. -/
def outstanding (messages : List ChatMessage) (database : Database) : List ChatMessage :=
  messages.filter fun message => database.sequences.value message.origin < message.sequence

/-- A summary request that is answered with success is answered with the summary. -/
theorem syncSummary_answered {library : JsonC} {order : IterationOrder} {request : HttpRequest}
    {peer : MessageService} (answered : (syncSummary library order request peer).status = 200) :
    syncSummary library order request peer =
      okResponse (synchronize library order peer.store.database) := by
  -- Every other answer has a status of its own.
  unfold syncSummary at answered ⊢
  cases reading : readJsonObject library request maxRequestBytes true
      (errorBody "invalid_sync_summary") with
  | error response =>
    rw [reading] at answered
    rcases readJsonObject_status library reading with rfl | rfl | rfl <;>
      simp [unsupportedMediaType, requestTooLarge, payloadTooLarge, badRequest] at answered
  | ok parsed =>
    simp only [reading] at answered ⊢
    split
    · rfl
    · rename_i refused
      rw [if_neg refused] at answered
      simp [badRequest] at answered

section Batch

variable {library : JsonC} {round : SyncRound} {messages : List ChatMessage}
  {peer : MessageService}

/-- An answered summary leaves out the outstanding messages, as many as fit one batch. -/
theorem SyncRound.missingMessages_answer (lawful : library.Lawful)
    (answered : (round.answer library peer).status = 200)
    (consistent : peer.store.database.Consistent)
    (terminated : ∀ entry ∈ sequenceSummary peer.store.database, 0 ∉ entry.1)
    (own : ∀ message ∈ messages, 0 ∉ message.origin) :
    messages.filter (isMissing (originsJson round.order
      (sequenceSummary peer.store.database))) = outstanding messages peer.store.database ∧
    missingMessages library messages (round.answer library peer).body =
      (outstanding messages peer.store.database).take maxSyncBatchMessages := by
  -- The names of the answer are C strings, so each mark is found under its origin.
  have same : messages.filter (isMissing (originsJson round.order
      (sequenceSummary peer.store.database))) = outstanding messages peer.store.database :=
    List.filter_congr fun message member =>
      isMissing_originsJson consistent terminated (own message member)
  refine ⟨same, ?_⟩
  rw [SyncRound.answer, syncSummary_answered answered, okResponse, synchronize,
    missingMessages_summaryJson lawful, same]

/-- An answered summary is followed by a batch of outstanding messages, or there are none. -/
theorem SyncRound.batch_answer (lawful : library.Lawful)
    (answered : (round.answer library peer).status = 200)
    (consistent : peer.store.database.Consistent)
    (terminated : ∀ entry ∈ sequenceSummary peer.store.database, 0 ∉ entry.1)
    (own : ∀ message ∈ messages, 0 ∉ message.origin) :
    round.batch library messages peer =
      .ok (if outstanding messages peer.store.database = [] then none
        else some (serializeJson library (batchJson
          (((outstanding messages peer.store.database).take maxSyncBatchMessages).map
            messageToJson)))) := by
  obtain ⟨same, _⟩ := SyncRound.missingMessages_answer lawful answered consistent terminated own
  have sent := sendMissing_summaryJson lawful round.order (sequenceSummary peer.store.database)
    messages
  simp only [same] at sent
  rw [SyncRound.batch, SyncRound.answer, syncSummary_answered answered, okResponse, synchronize,
    sent]
  -- Cutting the batch at its limit leaves something of anything.
  have cut : (outstanding messages peer.store.database).take maxSyncBatchMessages = [] ↔
      outstanding messages peer.store.database = [] := by
    simp [List.take_eq_nil_iff, maxSyncBatchMessages]
  simp only [cut]

end Batch

end LesChat
