import LesChat.Http.HttpApiLaws
import LesChat.Service.LocalMessage
import LesChat.Sync.SyncService
import Mathlib.Algebra.Order.BigOperators.Group.List

/-! Which batches the receiving node takes. -/

namespace LesChat

open Foundation

/--
A batch `sync_messages` does not refuse because of its size.

It is within the limit it is read with, it is read as a batch, and it has no more items than allowed.
-/
structure BatchTaken (library : JsonC) (batch : Bytes) : Prop where
  /-- The batch is within the byte limit. -/
  small : batch.length ≤ maxSyncRequestBytes
  /-- The handler gets to the loop over the items. -/
  items : ∃ parsed items,
    readJsonObject library (jsonRequest batch) maxSyncRequestBytes true
      (errorBody "invalid_sync_messages") = .ok parsed ∧
    batchItems parsed = some items ∧ items.length ≤ maxSyncBatchMessages

/-- The size of a batch: an envelope, and every message with a comma or a bracket behind it. -/
def batchSize (library : JsonC) (messages : List ChatMessage) : Nat :=
  50 + (messages.map fun message => messageSize library message + 1).sum

/-- The text of a batch has the size of the batch. -/
theorem serializeJson_batchJson_length {library : JsonC} (lawful : library.Lawful)
    {messages : List ChatMessage} (nonempty : messages ≠ []) :
    (serializeJson library (batchJson (messages.map messageToJson))).length =
      batchSize library messages := by
  have protocol : Json.escapedLength library.escape (ascii "protocol") = 8 :=
    lawful.escapedLength_ascii (by decide +kernel)
  have type : Json.escapedLength library.escape (ascii "type") = 4 :=
    lawful.escapedLength_ascii (by decide +kernel)
  have name : Json.escapedLength library.escape (ascii "messages") = 8 :=
    lawful.escapedLength_ascii (by decide +kernel)
  have kind : Json.escapedLength library.escape (ascii "sync_messages") = 13 :=
    lawful.escapedLength_ascii (by decide +kernel)
  have version : (decimalInt protocolVersion).length = 1 := by decide +kernel
  -- The items' texts have the sizes of their messages.
  have items : ((messages.map messageToJson).map
      fun item => (Json.plainText library.escape item).length).sum + messages.length =
      (messages.map fun message => messageSize library message + 1).sum := by
    clear nonempty
    induction messages with
    | nil => rfl
    | cons message rest ih =>
      have size := serializeJson_messageToJson_length lawful message
      simp only [serializeJson] at size
      simp only [List.map_cons, List.sum_cons, List.length_cons, size] at ih ⊢
      omega
  have positive : 0 < messages.length := List.length_pos_iff.mpr nonempty
  rw [serializeJson, batchJson_eq, Json.plainText_object_length]
  simp only [List.map_cons, List.map_nil, List.sum_cons, List.sum_nil, List.length_cons,
    List.length_nil, Json.plainText_string_length, Json.plainText_array_length, protocol, type, name,
    kind, batchSize, List.length_map]
  simp only [Json.plainText, version]
  omega

/-- A batch of at most as many messages as allowed is taken exactly when it is within the limit. -/
theorem batchTaken_iff {library : JsonC} (lawful : library.Lawful) {messages : List ChatMessage}
    (nonempty : messages ≠ []) (few : messages.length ≤ maxSyncBatchMessages) :
    BatchTaken library (serializeJson library (batchJson (messages.map messageToJson))) ↔
      batchSize library messages ≤ maxSyncRequestBytes := by
  have size := serializeJson_batchJson_length lawful nonempty
  constructor
  · intro taken
    exact size ▸ taken.small
  · intro small
    -- The receiver reads back the very document that was sent.
    have reading := readJsonObject_serializeJson lawful (plain_batchJson messages)
      (by rw [batchJson_eq]; rfl) (size ▸ small) true (errorBody "invalid_sync_messages")
    have allowed : (messages.map messageToJson).length ≤ maxSyncBatchMessages := by
      rwa [List.length_map]
    exact ⟨size ▸ small, _, _, reading, batchItems_batchJson allowed, allowed⟩

/--
Which batches of `send_missing` are taken.

A batch never has too many messages, and it is taken exactly when the encoded sizes of its messages
leave room for the envelope.
-/
theorem sendMissing_taken {library : JsonC} (lawful : library.Lawful) {messages : List ChatMessage}
    {summary batch : Bytes} (sent : sendMissing library messages summary = .ok (some batch)) :
    BatchTaken library batch ↔
      batchSize library (missingMessages library messages summary) ≤ maxSyncRequestBytes := by
  -- What is sent is a batch of what is missing, which is never too many.
  obtain ⟨nonempty, rfl⟩ := sendMissing_eq_some sent
  exact batchTaken_iff lawful nonempty (missingMessages_length library messages summary)

/-- Against an empty summary, every message is left out. -/
theorem missingMessages_empty {library : JsonC} (lawful : library.Lawful)
    {messages : List ChatMessage} (positive : ∀ message ∈ messages, 1 ≤ message.sequence)
    (few : messages.length ≤ maxSyncBatchMessages) :
    missingMessages library messages (serializeJson library (summaryJson .stored [])) =
      messages := by
  -- Every origin is without a mark, and every sequence is above zero.
  have all : messages.filter (isMissing (originsJson .stored [])) = messages := by
    rw [List.filter_eq_self]
    intro message member
    exact decide_eq_true (Nat.lt_of_lt_of_le Nat.zero_lt_one (positive message member))
  rw [missingMessages_summaryJson lawful, all, List.take_of_length_le few]

/-- Against an empty summary, some messages are sent as one batch. -/
theorem sendMissing_empty {library : JsonC} (lawful : library.Lawful) {messages : List ChatMessage}
    (nonempty : messages ≠ []) (positive : ∀ message ∈ messages, 1 ≤ message.sequence)
    (few : messages.length ≤ maxSyncBatchMessages) :
    sendMissing library messages (serializeJson library (summaryJson .stored [])) =
      .ok (some (serializeJson library (batchJson (messages.map messageToJson)))) := by
  -- Everything is missing, and there is something.
  have missing := missingMessages_empty lawful positive few
  rw [missingMessages_summaryJson lawful] at missing
  rw [sendMissing_summaryJson lawful, missing, if_neg nonempty]

/-- Fifty messages of 1255 slashes each are one batch, which is taken with 22 bytes to spare. -/
theorem sendMissing_taken_fifty :
    let messages := (List.range 50).map fun index =>
      localMessage ⟨ascii "a", ascii "Alice"⟩ (index + 10) 0 (List.replicate 1255 0x2F)
    messages.length = maxSyncBatchMessages ∧
      ∃ batch, sendMissing plainJsonC messages
          (serializeJson plainJsonC (summaryJson .stored [])) = .ok (some batch) ∧
        batch.length + 22 = maxSyncRequestBytes ∧ BatchTaken plainJsonC batch := by
  intro messages
  have accepted : NodeIdentity.Accepted ⟨ascii "a", ascii "Alice"⟩ :=
    ⟨by decide +kernel, by decide +kernel⟩
  have count : messages.length = 50 := by simp only [messages, List.length_map, List.length_range]
  have nonempty : messages ≠ [] := List.length_pos_iff.mp (by omega)
  have few : messages.length ≤ maxSyncBatchMessages := by rw [count]; decide
  have positive : ∀ message ∈ messages, 1 ≤ message.sequence := by
    intro message member
    obtain ⟨index, _, rfl⟩ := List.mem_map.mp member
    exact Nat.le_add_left 1 (index + 9)
  -- Every sequence has two digits, and every slash takes two bytes.
  have each : ∀ size ∈ messages.map fun message => messageSize plainJsonC message + 1,
      size = 2620 := by
    intro size member
    obtain ⟨message, inMessages, rfl⟩ := List.mem_map.mp member
    obtain ⟨index, inRange, rfl⟩ := List.mem_map.mp inMessages
    have bound := List.mem_range.mp inRange
    have inWord : index + 10 ≤ maxInt64 := by
      simp only [maxInt64]
      omega
    have digits : ∀ index < 50, (decimal (index + 10)).length = 2 := by decide +kernel
    have callsign : Json.escapedLength plainJsonC.escape (ascii "Alice") = 5 := by decide +kernel
    have escaped : Json.escapedLength plainJsonC.escape (List.replicate 1255 0x2F) = 2510 := by
      rw [Json.escapedLength_replicate]
      decide +kernel
    have stamp : (decimalInt (0 : Int64).toInt).length = 1 := by decide +kernel
    have name : (ascii "a").length = 1 := by decide +kernel
    rw [messageSize_localMessage plainJsonC_lawful accepted inWord]
    simp only [localMessageSize, digits index bound, callsign, escaped, stamp, name]
  have sent := sendMissing_empty plainJsonC_lawful nonempty positive few
  have missing := missingMessages_empty plainJsonC_lawful positive few
  have total : batchSize plainJsonC messages = 131050 := by
    rw [batchSize, List.sum_eq_card_nsmul _ 2620 each, List.length_map, count]
    decide
  refine ⟨count, _, sent, ?_, (sendMissing_taken plainJsonC_lawful sent).mpr ?_⟩
  · rw [serializeJson_batchJson_length plainJsonC_lawful nonempty, total]
    decide
  · rw [missing, total]
    decide

/-- Forty messages of two thousand slashes each are sent as one batch, which is refused. -/
theorem sendMissing_slashes :
    let messages := (List.range 40).map fun index =>
      localMessage ⟨ascii "a", ascii "Alice"⟩ (index + 1) 0 (List.replicate 2000 0x2F)
    (∀ message ∈ messages, parseMessage (messageToJson message) = some message) ∧
      ∃ batch, sendMissing plainJsonC messages
          (serializeJson plainJsonC (summaryJson .stored [])) = .ok (some batch) ∧
        ¬BatchTaken plainJsonC batch := by
  intro messages
  have accepted : NodeIdentity.Accepted ⟨ascii "a", ascii "Alice"⟩ :=
    ⟨by decide +kernel, by decide +kernel⟩
  have acceptedBody : AcceptedBody (List.replicate 2000 0x2F) := by
    refine ⟨by rw [List.length_replicate]; decide, isValidUtf8_ascii fun byte member => ?_⟩
    rw [List.eq_of_mem_replicate member]
    decide
  -- Each body alone takes four thousand bytes once its slashes are escaped.
  have large : ∀ size ∈ messages.map fun message => messageSize plainJsonC message + 1,
      4000 ≤ size := by
    intro size member
    obtain ⟨message, inMessages, rfl⟩ := List.mem_map.mp member
    obtain ⟨index, _, rfl⟩ := List.mem_map.mp inMessages
    have escaped : Json.escapedLength plainJsonC.escape (List.replicate 2000 0x2F) = 4000 := by
      rw [Json.escapedLength_replicate]
      decide +kernel
    simp only [messageSize, localMessage, escaped]
    omega
  have count : messages.length = 40 := by simp only [messages, List.length_map, List.length_range]
  have nonempty : messages ≠ [] := List.length_pos_iff.mp (by omega)
  have few : messages.length ≤ maxSyncBatchMessages := by rw [count]; decide
  have positive : ∀ message ∈ messages, 1 ≤ message.sequence := by
    intro message member
    obtain ⟨index, _, rfl⟩ := List.mem_map.mp member
    exact Nat.succ_le_succ (Nat.zero_le index)
  refine ⟨?_, _, sendMissing_empty plainJsonC_lawful nonempty positive few, ?_⟩
  · intro message member
    have low := positive message member
    obtain ⟨index, inRange, rfl⟩ := List.mem_map.mp member
    have high : index + 1 ≤ maxInt64 := by
      have bound := List.mem_range.mp inRange
      simp only [maxInt64]
      omega
    exact parseMessage_localMessage accepted low high 0 acceptedBody
  · intro taken
    have limit := (batchTaken_iff plainJsonC_lawful nonempty few).mp taken
    -- Forty bodies of four thousand bytes are more than the limit of the request.
    have total := List.card_nsmul_le_sum _ 4000 large
    rw [List.length_map, count] at total
    simp only [batchSize, maxSyncRequestBytes, Nat.nsmul_eq_mul] at limit total
    omega

end LesChat
