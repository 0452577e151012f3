import LesChat.Http.HttpApi
import LesChat.Message.Encoding

/-! The sync service: the summary it posts, and the batch it answers a peer's summary with. -/

namespace LesChat

open Foundation

section Service

variable (library : JsonC)

/-- The payload `synchronize` posts to every active peer. -/
def synchronize (order : IterationOrder) (database : Database) : Bytes :=
  serializeJson library (summaryJson order (sequenceSummary database))

/-- The mark a summary has for the origin of a message, zero when it has none. -/
def summaryLast (origins : Json) (message : ChatMessage) : Nat :=
  match origins.get? (cString message.origin) with
  -- A number that is not positive counts as zero.
  | some (.int value) => (jsonGetInt64 (.int value)).toInt.toNat
  | _ => 0

/-- Whether a summary leaves a message out. -/
def isMissing (origins : Json) (message : ChatMessage) : Bool :=
  message.sequence > summaryLast origins message

/-- The loop of `send_missing` over the stored messages, with a number of items added before. -/
def collectMissing (origins : Json) : List ChatMessage → (count : Nat) → List Json
  | [], _ => []
  | message :: rest, count =>
    if isMissing origins message && count < maxSyncBatchMessages then
      messageToJson message :: collectMissing origins rest (count + 1)
    -- The loop runs on when the batch is full, and adds nothing more.
    else collectMissing origins rest count

/-- The document a batch is sent as. -/
def batchJson (items : List Json) : Json := syncDocument "sync_messages" "messages" (.array items)

/-- `SyncService::send_missing`: the payload of the batch, if there is anything to send. -/
def sendMissing (messages : List ChatMessage) (summary : Bytes) : Except String (Option Bytes) :=
  let parsed := parseJson library summary
  if !parsed.success || !jsonIsObject parsed.object then .error "Invalid sync summary response"
  else
    match parsed.object.get? (ascii "origins") with
    | some (.object origins) =>
      let items := collectMissing (.object origins) messages 0
      -- Nothing is posted to a peer that has everything.
      if items.length = 0 then .ok none
      else .ok (some (serializeJson library (batchJson items)))
    -- The header of the response is not checked.
    | _ => .error "Sync summary has no origins"

/-- `SyncService::handle_summary_response`, behind the status check of its callback. -/
def handleSummaryResponse (messages : List ChatMessage) (response : HttpResponse) :
    Except String (Option Bytes) :=
  if response.status ≠ 200 then .error "sync summary request failed"
  else if response.body.length > maxSyncRequestBytes then .error "request_too_large"
  else sendMissing library messages response.body

/-- The messages a summary leaves out, as many as fit one batch. -/
def missingMessages (messages : List ChatMessage) (summary : Bytes) : List ChatMessage :=
  match (parseJson library summary).object.get? (ascii "origins") with
  | some (.object origins) =>
    (messages.filter (isMissing (.object origins))).take maxSyncBatchMessages
  | _ => []

end Service

/-- The loop adds the first messages left out, up to the limit of the batch. -/
theorem collectMissing_eq (origins : Json) (messages : List ChatMessage) (count : Nat) :
    collectMissing origins messages count =
      ((messages.filter (isMissing origins)).take (maxSyncBatchMessages - count)).map
        messageToJson := by
  -- The induction follows the messages, with the room left in the batch.
  induction messages generalizing count with
  | nil => simp [collectMissing]
  | cons message rest ih =>
    rw [collectMissing]
    cases missing : isMissing origins message with
    | false => simp [missing, ih]
    | true =>
      by_cases room : count < maxSyncBatchMessages
      · have next : maxSyncBatchMessages - count = maxSyncBatchMessages - (count + 1) + 1 := by omega
        simp [missing, room, ih, next]
      · have full : maxSyncBatchMessages - count = 0 := by omega
        simp [room, ih, full]

/-- A payload that is sent is the batch of the messages left out. -/
theorem sendMissing_eq_some {library : JsonC} {messages : List ChatMessage} {summary batch : Bytes}
    (sent : sendMissing library messages summary = .ok (some batch)) :
    missingMessages library messages summary ≠ [] ∧
      batch = serializeJson library
        (batchJson ((missingMessages library messages summary).map messageToJson)) := by
  unfold sendMissing at sent
  unfold missingMessages
  dsimp only at sent
  split at sent
  · simp at sent
  · split at sent
    -- The origins are an object, and the loop is the filter cut to the limit.
    · rename_i origins found
      rw [collectMissing_eq] at sent
      simp only [Nat.sub_zero, List.length_eq_zero_iff, List.map_eq_nil_iff] at sent ⊢
      split at sent
      · simp at sent
      · rename_i nonempty
        simp only [Except.ok.injEq, Option.some.injEq] at sent
        exact ⟨nonempty, sent.symm⟩
    · simp at sent

/-- A batch carries at most as many messages as the limit says. -/
theorem missingMessages_length (library : JsonC) (messages : List ChatMessage) (summary : Bytes) :
    (missingMessages library messages summary).length ≤ maxSyncBatchMessages := by
  -- The batch is cut off, or nothing is sent at all.
  unfold missingMessages
  split
  · exact List.length_take_le _ _
  · simp

/-- What is missing is a part of the messages, in their order. -/
theorem missingMessages_sublist (library : JsonC) (messages : List ChatMessage) (summary : Bytes) :
    (missingMessages library messages summary).Sublist messages := by
  -- The messages are filtered and cut off, or the summary is no summary.
  unfold missingMessages
  split
  · exact (List.take_sublist _ _).trans List.filter_sublist
  · exact List.nil_sublist _

/-- Everything in a batch is stored. -/
theorem mem_of_mem_missingMessages {library : JsonC} {messages : List ChatMessage} {summary : Bytes}
    {message : ChatMessage} (member : message ∈ missingMessages library messages summary) :
    message ∈ messages :=
  -- They are a part of the messages.
  (missingMessages_sublist library messages summary).subset member

section Documents

/-- A sync document, member by member. -/
theorem syncDocument_eq {type member : String} (payload : Json)
    (distinct : [ascii "protocol", ascii "type", ascii member].Nodup) :
    syncDocument type member payload = .object [
      (ascii "protocol", .int protocolVersion),
      (ascii "type", .string (ascii type)),
      (ascii member, payload)] :=
  -- With three different names, no member replaces another.
  jsonObject_of_nodup distinct

/-- A batch document, member by member. -/
theorem batchJson_eq (items : List Json) : batchJson items = .object [
    (ascii "protocol", .int protocolVersion),
    (ascii "type", .string (ascii "sync_messages")),
    (ascii "messages", .array items)] :=
  syncDocument_eq _ (by decide +kernel)

/-- A summary document, member by member. -/
theorem summaryJson_eq (order : IterationOrder) (summary : List (Bytes × Nat)) :
    summaryJson order summary = .object [
      (ascii "protocol", .int protocolVersion),
      (ascii "type", .string (ascii "sync_summary")),
      (ascii "origins", originsJson order summary)] :=
  syncDocument_eq _ (by decide +kernel)

/-- A sync document can be read back when its payload can. -/
private theorem plain_document {type member : Bytes} {payload : Json} {depth : Nat}
    (distinct : [ascii "protocol", ascii "type", member].Nodup) (terminated : 0 ∉ member)
    (plain : Json.Plain depth payload) : Json.Plain (depth + 1) (.object [
      (ascii "protocol", .int protocolVersion), (ascii "type", .string type), (member, payload)]) := by
  -- The two members of the header are an integer and a string, and the third is the payload.
  have protocolTerminated : 0 ∉ ascii "protocol" := by decide +kernel
  have typeTerminated : 0 ∉ ascii "type" := by decide +kernel
  refine .object ?_ distinct ?_
  · intro entry inMembers
    simp only [List.mem_cons, List.not_mem_nil, or_false] at inMembers
    rcases inMembers with rfl | rfl | rfl
    · exact .int depth (by decide) (by decide)
    · exact .string depth _
    · exact plain
  · intro entry inMembers
    simp only [List.mem_cons, List.not_mem_nil, or_false] at inMembers
    rcases inMembers with rfl | rfl | rfl
    · exact protocolTerminated
    · exact typeTerminated
    · exact terminated

/-- A batch of encoded messages can be read back. -/
theorem plain_batchJson (messages : List ChatMessage) :
    Json.Plain 31 (batchJson (messages.map messageToJson)) := by
  -- A batch is as deep as its messages and two levels more.
  rw [batchJson_eq]
  refine plain_document (by decide +kernel) (by decide +kernel) (.array ?_)
  intro item member
  obtain ⟨message, _, rfl⟩ := List.mem_map.mp member
  exact plain_messageToJson 28 message

/-- Adding members under C strings keeps the keys distinct C strings. -/
private theorem foldl_upsert_plain {depth : Nat} (members built : List (Bytes × Json))
    (each : ∀ member ∈ members, Json.Plain depth member.2 ∧ 0 ∉ member.1)
    (plain : Json.Plain (depth + 1) (.object built)) :
    Json.Plain (depth + 1)
      (.object (members.foldl (fun built member => Keyed.upsert built member.1 member.2) built)) := by
  -- Each addition stores a plain value under a C string, at the place of its key or at the end.
  induction members generalizing built with
  | nil => exact plain
  | cons member rest ih =>
    refine ih _ (fun other inRest => each other (by simp [inRest])) ?_
    obtain ⟨value, terminated⟩ := each member (by simp)
    cases plain with
    | object before distinct keys =>
      refine .object ?_ (Keyed.nodup_keys_upsert distinct _ _) ?_
      · intro entry inStored
        rcases Keyed.mem_of_mem_upsert inStored with rfl | old
        · exact value
        · exact before entry old
      · intro entry inStored
        rcases Keyed.mem_of_mem_upsert inStored with rfl | old
        · exact terminated
        · exact keys entry old

/-- Every summary can be read back. -/
theorem plain_summaryJson (order : IterationOrder) (summary : List (Bytes × Nat)) :
    Json.Plain 31 (summaryJson order summary) := by
  rw [summaryJson_eq]
  refine plain_document (by decide +kernel) (by decide +kernel) ?_
  refine foldl_upsert_plain _ [] ?_ (.object (by simp) (by simp) (by simp))
  intro member inMembers
  -- A mark is a word after the cast, and its key ends at the terminator.
  obtain ⟨entry, _, rfl⟩ := List.mem_map.mp inMembers
  exact ⟨.int _ (Int64.le_toInt _) (Int64.toInt_lt _), zero_notMem_cString _⟩

/-- A document of this version carries its header. -/
private theorem hasHeader_document {type : String} (terminated : 0 ∉ ascii type)
    (rest : List (Bytes × Json)) : hasHeader type (.object (
      (ascii "protocol", .int protocolVersion) :: (ascii "type", .string (ascii type)) :: rest)) =
      true := by
  have protocol : Json.get? (.object ((ascii "protocol", .int protocolVersion) ::
      (ascii "type", .string (ascii type)) :: rest)) (ascii "protocol") =
      some (.int protocolVersion) := rfl
  have kind : Json.get? (.object ((ascii "protocol", .int protocolVersion) ::
      (ascii "type", .string (ascii type)) :: rest)) (ascii "type") =
      some (.string (ascii type)) := rfl
  -- The version is in the range of an `int`, and the text ends at its terminator.
  have version : jsonGetInt (.int protocolVersion) = protocolVersion := rfl
  simp only [hasHeader, protocol, kind, version, cString_of_noNul terminated, beq_self_eq_true,
    Bool.and_self]

/-- A summary document passes the checks of the handler. -/
theorem isSummary_summaryJson (order : IterationOrder) (summary : List (Bytes × Nat)) :
    isSummary (summaryJson order summary) = true := by
  -- The two members of the header are the ones that are checked.
  rw [summaryJson_eq, isSummary, hasHeader_document (by decide +kernel)]
  rfl

/-- A batch of at most as many items as the limit says passes the checks of the handler. -/
theorem batchItems_batchJson {items : List Json} (few : items.length ≤ maxSyncBatchMessages) :
    batchItems (batchJson items) = some items := by
  -- The header passes its checks, and the items are few enough.
  rw [batchJson_eq, batchItems, hasHeader_document (by decide +kernel)]
  exact if_neg (Nat.not_lt.mpr few)

/-- A summary is read back with the origins it was built from. -/
theorem parseJson_summaryJson {library : JsonC} (lawful : library.Lawful) (order : IterationOrder)
    (summary : List (Bytes × Nat)) :
    let parsed := parseJson library (serializeJson library (summaryJson order summary))
    parsed.success = true ∧ jsonIsObject parsed.object = true ∧
      parsed.object.get? (ascii "origins") = some (originsJson order summary) := by
  -- The serializer's text is read back as the document it was made of.
  intro parsed
  have read : parsed = ⟨summaryJson order summary, true, _⟩ :=
    lawful.parse_plainText _ (by rw [summaryJson_eq]; rfl) (plain_summaryJson order summary)
  rw [read, summaryJson_eq]
  exact ⟨rfl, rfl, rfl⟩

/-- The messages a summary document leaves out. -/
theorem missingMessages_summaryJson {library : JsonC} (lawful : library.Lawful)
    (order : IterationOrder) (summary : List (Bytes × Nat)) (messages : List ChatMessage) :
    missingMessages library messages (serializeJson library (summaryJson order summary)) =
      (messages.filter (isMissing (originsJson order summary))).take maxSyncBatchMessages := by
  -- What is read back has the origins of the summary.
  rw [missingMessages, (parseJson_summaryJson lawful order summary).2.2]
  rfl

/-- A summary document is answered with the batch of the messages it leaves out, if there are any. -/
theorem sendMissing_summaryJson {library : JsonC} (lawful : library.Lawful)
    (order : IterationOrder) (summary : List (Bytes × Nat)) (messages : List ChatMessage) :
    let missing :=
      (messages.filter (isMissing (originsJson order summary))).take maxSyncBatchMessages
    sendMissing library messages (serializeJson library (summaryJson order summary)) =
      .ok (if missing = [] then none
        else some (serializeJson library (batchJson (missing.map messageToJson)))) := by
  intro missing
  obtain ⟨success, object, origins⟩ := parseJson_summaryJson lawful order summary
  -- The origins are an object, so the loop runs over all the messages.
  obtain ⟨members, same⟩ : ∃ members, originsJson order summary = .object members := ⟨_, rfl⟩
  unfold sendMissing
  simp only [success, object, origins, same, Bool.not_true, Bool.or_self, Bool.false_eq_true,
    if_false, collectMissing_eq, Nat.sub_zero, List.length_eq_zero_iff, List.map_eq_nil_iff]
  simp only [missing, same]
  split <;> rfl

end Documents

end LesChat
