import LesChat.Http.HttpApiLaws
import LesChat.Service.NodeRuns
import LesChat.Sync.SyncService

/-! Which summaries get through to a peer, and which answers come back. -/

namespace LesChat

open Foundation

/-- The members of a summary's `origins`, with origins that agree as C strings counted once. -/
def summaryMembers (order : IterationOrder) (database : Database) : List (Bytes × Json) :=
  ((order.arrange (sequenceSummary database)).map fun entry =>
    (cString entry.1, Json.int (Int64.ofNat entry.2).toInt)).foldl
    (fun built member => Keyed.upsert built member.1 member.2) []

/-- The size of a summary: an envelope, and every origin with its mark and its punctuation. -/
def summarySize (library : JsonC) (order : IterationOrder) (database : Database) : Nat :=
  49 + ((summaryMembers order database).map fun member =>
      Json.escapedLength library.escape member.1 + 3 +
        (Json.plainText library.escape member.2).length).sum +
    ((summaryMembers order database).length - 1)

/-- The text of a summary has the size of the summary. -/
theorem synchronize_length {library : JsonC} (lawful : library.Lawful) (order : IterationOrder)
    (database : Database) :
    (synchronize library order database).length = summarySize library order database := by
  -- The names and texts of the envelope are plain, so they are as long as they look.
  have protocol : Json.escapedLength library.escape (ascii "protocol") = 8 :=
    lawful.escapedLength_ascii (by decide +kernel)
  have type : Json.escapedLength library.escape (ascii "type") = 4 :=
    lawful.escapedLength_ascii (by decide +kernel)
  have name : Json.escapedLength library.escape (ascii "origins") = 7 :=
    lawful.escapedLength_ascii (by decide +kernel)
  have kind : Json.escapedLength library.escape (ascii "sync_summary") = 12 :=
    lawful.escapedLength_ascii (by decide +kernel)
  have version : (Json.plainText library.escape (.int protocolVersion)).length = 1 := by
    rw [Json.plainText]
    decide +kernel
  have origins : originsJson order (sequenceSummary database) =
      .object (summaryMembers order database) := rfl
  rw [synchronize, serializeJson, summaryJson_eq, Json.plainText_object_length]
  simp only [List.map_cons, List.map_nil, List.sum_cons, List.sum_nil, List.length_cons,
    List.length_nil, Json.plainText_string_length, Json.plainText_object_length, origins, version,
    protocol, type, name, kind, summarySize]
  omega

/-- The handler accepts a posted summary exactly when it is within the limit of its request. -/
theorem syncSummary_synchronize {library : JsonC} (lawful : library.Lawful)
    (order answerOrder : IterationOrder) (database : Database) (peer : MessageService) :
    syncSummary library answerOrder (jsonRequest (synchronize library order database)) peer =
      if summarySize library order database ≤ maxRequestBytes then
        okResponse (synchronize library answerOrder peer.store.database)
      else requestTooLarge := by
  have size := synchronize_length lawful order database
  split
  · -- Within the limit, the document is read back and passes every check.
    rename_i small
    have reading := readJsonObject_serializeJson lawful
      (plain_summaryJson order (sequenceSummary database)) (by rw [summaryJson_eq]; rfl)
      (size ▸ small) true (errorBody "invalid_sync_summary")
    rw [syncSummary, synchronize, reading]
    simp only [isSummary_summaryJson, if_true]
    rfl
  · rename_i large
    -- Beyond it, the body is refused before it is parsed.
    rw [syncSummary, readJsonObject_tooLarge library (size ▸ Nat.lt_of_not_le large)]

/--
When a round of summaries gets through.

The peer accepts the request and its answer can be read exactly when the own summary is within the
limit of an ordinary request, and the peer's summary within the limit of a batch.
-/
theorem syncSummary_exchanged {library : JsonC} (lawful : library.Lawful)
    (order answerOrder : IterationOrder) (database : Database) (peer : MessageService) :
    (∃ answer, syncSummary library answerOrder
        (jsonRequest (synchronize library order database)) peer = okResponse answer ∧
      answer.length ≤ maxSyncRequestBytes) ↔
    summarySize library order database ≤ maxRequestBytes ∧
      summarySize library answerOrder peer.store.database ≤ maxSyncRequestBytes := by
  rw [syncSummary_synchronize lawful]
  constructor
  · intro both
    obtain ⟨answer, answered, readable⟩ := both
    split at answered
    -- An answer with success means that the request was within its limit.
    · rename_i small
      simp only [okResponse, HttpResponse.mk.injEq, true_and] at answered
      rw [← answered, synchronize_length lawful] at readable
      exact ⟨small, readable⟩
    · simp [okResponse, requestTooLarge, payloadTooLarge] at answered
  · intro both
    obtain ⟨small, readable⟩ := both
    refine ⟨synchronize library answerOrder peer.store.database, by rw [if_pos small], ?_⟩
    rw [synchronize_length lawful]
    exact readable

/-- Two nodes that know forty-seven origins exchange summaries that fill a request exactly. -/
theorem syncSummary_exchanged_full :
    let alice : NodeIdentity := ⟨ascii "a", ascii "Alice"⟩
    let bob : NodeIdentity := ⟨ascii "b", ascii "Bob"⟩
    let message (index : Nat) : ChatMessage :=
      ⟨maxInt64, decimal (index + 10),
        decimal (index + 10) ++ List.replicate (if index = 46 then 21 else 62) 0x6E,
        ascii "Carol", defaultChannel, 0, ascii "hi"⟩
    let known : List NodeAction :=
      (List.range 47).map fun index => .sync {} (messageToJson (message index))
    let node := run (nodeStep plainJsonC alice) (Node.initial alice) known
    ∀ peer, (run (nodeStep plainJsonC bob) (Node.initial bob) known).process = .running peer →
      summarySize plainJsonC .stored node.process.database = maxRequestBytes ∧
        ∃ answer, syncSummary plainJsonC .stored
          (jsonRequest (synchronize plainJsonC .stored node.process.database)) peer =
            okResponse answer ∧ answer.length ≤ maxSyncRequestBytes := by
  intro alice bob message known node peer running
  have full : summarySize plainJsonC .stored node.process.database = maxRequestBytes := by
    decide +kernel
  -- The peer has the same marks, and so a summary of the same size.
  have same : summarySize plainJsonC .stored
      (run (nodeStep plainJsonC bob) (Node.initial bob) known).process.database =
        maxRequestBytes := by
    decide +kernel
  rw [running] at same
  have room : summarySize plainJsonC .stored peer.store.database ≤ maxSyncRequestBytes :=
    same.trans_le (by decide)
  exact ⟨full, (syncSummary_exchanged plainJsonC_lawful .stored .stored node.process.database
    peer).mpr ⟨full.le, room⟩⟩

/-- A node that knows forty-eight origins with long names is refused by every peer from then on. -/
theorem syncSummary_crowded :
    let identity : NodeIdentity := ⟨ascii "a", ascii "Alice"⟩
    let message (index : Nat) : ChatMessage :=
      ⟨maxInt64, [UInt8.ofNat (0x30 + index)], UInt8.ofNat (0x30 + index) :: List.replicate 63 0x6E,
        ascii "Bob", defaultChannel, 0, ascii "hi"⟩
    let node := run (nodeStep plainJsonC identity) (Node.initial identity)
      ((List.range 48).map fun index => .sync {} (messageToJson (message index)))
    ∀ peer, ¬∃ answer, syncSummary plainJsonC .stored
        (jsonRequest (synchronize plainJsonC .stored node.process.database)) peer =
          okResponse answer ∧ answer.length ≤ maxSyncRequestBytes := by
  intro identity message node
  -- Forty-eight names of 64 bytes, each with a number of 19 digits, do not fit.
  have large : maxRequestBytes < summarySize plainJsonC .stored node.process.database := by
    decide +kernel
  intro peer both
  obtain ⟨answer, answered, _⟩ := both
  rw [syncSummary_synchronize plainJsonC_lawful, if_neg (Nat.not_le.mpr large)] at answered
  simp [okResponse, requestTooLarge, payloadTooLarge] at answered

end LesChat
