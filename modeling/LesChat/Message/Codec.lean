import LesChat.Message.JsonC
import LesChat.Message.Protocol
import LesChat.Message.Utf8

/-! The message codec: which JSON values are messages, and which JSON value a message becomes. -/

namespace LesChat

open Foundation

/-- The bounds `parse_message` puts on the fields it has read. -/
def refusesMessage (sequenceValue : Int64) (message : ChatMessage) : Bool :=
  sequenceValue < 1 || message.messageId.isEmpty || message.messageId.length > 160 ||
    message.origin.isEmpty || message.origin.length > 64 ||
    message.callsign.isEmpty || message.callsign.length > 64 ||
    message.channel != defaultChannel ||
    message.body.isEmpty || message.body.length > maxMessageBytes || !isValidUtf8 message.body

/-- `parse_message`: the message a JSON value stands for, if it is one. -/
def parseMessage (object : Json) : Option ChatMessage := do
  -- Only objects have members, so any other value fails at the first lookup.
  let messageId ← jsonGetString object (ascii "id")
  let origin ← jsonGetString object (ascii "origin")
  let callsign ← jsonGetString object (ascii "callsign")
  let channel ← jsonGetString object (ascii "channel")
  let body ← jsonGetString object (ascii "body")
  let sequence ← (object.get? (ascii "sequence")).filter jsonIsInt
  let createdAt ← (object.get? (ascii "created_at_ms")).filter jsonIsInt
  let sequenceValue := jsonGetInt64 sequence
  -- The cast to an unsigned word is exact on the values that are accepted.
  let message : ChatMessage := {
    sequence := sequenceValue.toInt.toNat
    messageId, origin, callsign, channel
    createdAtMs := jsonGetInt64 createdAt
    body }
  if refusesMessage sequenceValue message then none else some message

/-- `message_to_json`: the object a message is sent as. -/
def messageToJson (message : ChatMessage) : Json :=
  -- Only the body keeps its counted length, and the other texts are passed as C strings.
  jsonObject [
    (ascii "sequence", .int (Int64.ofNat message.sequence).toInt),
    (ascii "id", .string (cString message.messageId)),
    (ascii "callsign", .string (cString message.callsign)),
    (ascii "channel", .string (cString message.channel)),
    (ascii "created_at_ms", .int message.createdAtMs.toInt),
    (ascii "body", .string message.body),
    (ascii "origin", .string (cString message.origin))]

/-- What every message accepted from the network satisfies. -/
structure ChatMessage.Valid (message : ChatMessage) : Prop where
  /-- Sequences start at one. -/
  sequence_pos : 1 ≤ message.sequence
  /-- Sequences fit a signed database column. -/
  sequence_le : message.sequence ≤ maxInt64
  /-- Identifiers have between 1 and 160 bytes. -/
  messageId_length : 0 < message.messageId.length ∧ message.messageId.length ≤ 160
  /-- Origins have between 1 and 64 bytes. -/
  origin_length : 0 < message.origin.length ∧ message.origin.length ≤ 64
  /-- Callsigns have between 1 and 64 bytes. -/
  callsign_length : 0 < message.callsign.length ∧ message.callsign.length ≤ 64
  /-- There is one channel. -/
  channel_eq : message.channel = defaultChannel
  /-- Bodies have between 1 and 2048 bytes. -/
  body_length : 0 < message.body.length ∧ message.body.length ≤ maxMessageBytes
  /-- Bodies are valid UTF-8. -/
  body_utf8 : isValidUtf8 message.body = true

/-- What a body accepted by `create_message` satisfies. -/
structure AcceptedBody (body : Bytes) : Prop where
  /-- Bodies have between 1 and 2048 bytes. -/
  length : 0 < body.length ∧ body.length ≤ maxMessageBytes
  /-- Bodies are valid UTF-8. -/
  utf8 : isValidUtf8 body = true

/-- A signed 64-bit word at least one is a positive sequence within the column's range. -/
private theorem sequence_of_int64 {value : Int64} (positive : ¬value < 1) :
    1 ≤ value.toInt.toNat ∧ value.toInt.toNat ≤ maxInt64 := by
  -- The order on words is the order on the integers they stand for.
  rw [Int64.lt_iff_toInt_lt] at positive
  have one : (1 : Int64).toInt = 1 := rfl
  have high := value.toInt_lt
  simp only [maxInt64]
  omega

/-- The bounds of `parse_message` are exactly those of a valid message. -/
theorem refusesMessage_eq_false {sequenceValue : Int64} {message : ChatMessage}
    (read : message.sequence = sequenceValue.toInt.toNat)
    (kept : refusesMessage sequenceValue message = false) : message.Valid := by
  -- Each disjunct of the refusal gives one bound.
  simp only [refusesMessage, Bool.or_eq_false_iff, decide_eq_false_iff_not, bne_eq_false_iff_eq,
    List.isEmpty_eq_false_iff, Bool.not_eq_eq_eq_not, Bool.not_false, Nat.not_lt] at kept
  obtain ⟨⟨⟨⟨⟨⟨⟨⟨⟨⟨positive, idSome⟩, idShort⟩, originSome⟩, originShort⟩, nameSome⟩, nameShort⟩,
    channel⟩, bodySome⟩, bodyShort⟩, utf8⟩ := kept
  obtain ⟨low, high⟩ := sequence_of_int64 positive
  exact {
    sequence_pos := read ▸ low
    sequence_le := read ▸ high
    messageId_length := ⟨List.length_pos_iff.mpr idSome, idShort⟩
    origin_length := ⟨List.length_pos_iff.mpr originSome, originShort⟩
    callsign_length := ⟨List.length_pos_iff.mpr nameSome, nameShort⟩
    channel_eq := channel
    body_length := ⟨List.length_pos_iff.mpr bodySome, bodyShort⟩
    body_utf8 := utf8 }

/-- Everything the parser accepts is valid. -/
theorem parseMessage_valid {object : Json} {message : ChatMessage}
    (accepted : parseMessage object = some message) : message.Valid := by
  -- The message is returned only after its bounds were checked.
  simp only [parseMessage, Option.bind_eq_bind, Option.bind_eq_some_iff] at accepted
  obtain ⟨messageId, _, origin, _, callsign, _, channel, _, body, _, sequence, _, createdAt, _,
    checked⟩ := accepted
  split at checked
  · simp at checked
  · rename_i kept
    simp only [Option.some.injEq] at checked
    subst checked
    exact refusesMessage_eq_false rfl (by simpa using kept)

/-- The sequence of a message is the integer its object carries. -/
theorem parseMessage_sequence {object : Json} {message : ChatMessage}
    (parsed : parseMessage object = some message) :
    ∃ value, object.get? (ascii "sequence") = some value ∧
      message.sequence = (jsonGetInt64 value).toInt.toNat := by
  -- The sequence is the sixth member that is read.
  simp only [parseMessage, Option.bind_eq_bind, Option.bind_eq_some_iff] at parsed
  obtain ⟨_, _, _, _, _, _, _, _, _, _, value, found, _, _, checked⟩ := parsed
  split at checked
  · simp at checked
  · simp only [Option.some.injEq] at checked
    exact ⟨value, (Option.filter_eq_some_iff.mp found).1, by rw [← checked]⟩

/-- The short texts of a message are the strings its object carries. -/
theorem parseMessage_texts {object : Json} {message : ChatMessage}
    (parsed : parseMessage object = some message) :
    jsonGetString object (ascii "id") = some message.messageId ∧
      jsonGetString object (ascii "origin") = some message.origin ∧
      jsonGetString object (ascii "callsign") = some message.callsign := by
  -- The three texts are read as they are.
  simp only [parseMessage, Option.bind_eq_bind, Option.bind_eq_some_iff] at parsed
  obtain ⟨_, messageId, _, origin, _, callsign, _, _, _, _, _, _, _, _, checked⟩ := parsed
  split at checked
  · simp at checked
  · simp only [Option.some.injEq] at checked
    rw [← checked]
    exact ⟨messageId, origin, callsign⟩

/-- A valid message passes the bounds of the parser. -/
theorem ChatMessage.Valid.kept {message : ChatMessage} (valid : message.Valid) :
    refusesMessage (Int64.ofNat message.sequence) message = false := by
  -- The sequence fits a signed word, so the word is at least one.
  have positive : ¬Int64.ofNat message.sequence < 1 := by
    rw [Int64.lt_iff_toInt_lt, toInt_ofNat_of_le valid.sequence_le]
    have one : (1 : Int64).toInt = 1 := rfl
    have low := valid.sequence_pos
    omega
  simp only [refusesMessage, Bool.or_eq_false_iff, decide_eq_false_iff_not, bne_eq_false_iff_eq,
    List.isEmpty_eq_false_iff, Bool.not_eq_eq_eq_not, Bool.not_false, Nat.not_lt]
  exact ⟨⟨⟨⟨⟨⟨⟨⟨⟨⟨positive, List.length_pos_iff.mp valid.messageId_length.1⟩,
    valid.messageId_length.2⟩, List.length_pos_iff.mp valid.origin_length.1⟩,
    valid.origin_length.2⟩, List.length_pos_iff.mp valid.callsign_length.1⟩,
    valid.callsign_length.2⟩, valid.channel_eq⟩, List.length_pos_iff.mp valid.body_length.1⟩,
    valid.body_length.2⟩, valid.body_utf8⟩

/-- The object a message is sent as, member by member. -/
theorem messageToJson_eq (message : ChatMessage) :
    messageToJson message = .object [
      (ascii "sequence", .int (Int64.ofNat message.sequence).toInt),
      (ascii "id", .string (cString message.messageId)),
      (ascii "callsign", .string (cString message.callsign)),
      (ascii "channel", .string (cString message.channel)),
      (ascii "created_at_ms", .int message.createdAtMs.toInt),
      (ascii "body", .string message.body),
      (ascii "origin", .string (cString message.origin))] :=
  -- The seven names are distinct, so every addition appends a member.
  jsonObject_of_nodup (by simp only [List.map_cons, List.map_nil]; decide)

/-- A valid message without NUL bytes in its short texts survives encoding and parsing. -/
theorem parseMessage_messageToJson {message : ChatMessage} (valid : message.Valid)
    (idTerminated : 0 ∉ message.messageId) (originTerminated : 0 ∉ message.origin)
    (callsignTerminated : 0 ∉ message.callsign) :
    parseMessage (messageToJson message) = some message := by
  have channelTerminated : 0 ∉ message.channel := by rw [valid.channel_eq]; decide
  have sequence : (Int64.ofNat message.sequence).toInt = message.sequence :=
    toInt_ofNat_of_le valid.sequence_le
  -- Each lookup finds its member behind those with other names.
  have id_ : jsonGetString (messageToJson message) (ascii "id") = some message.messageId := by
    rw [messageToJson_eq, cString_of_noNul idTerminated]; rfl
  have origin_ : jsonGetString (messageToJson message) (ascii "origin") = some message.origin := by
    rw [messageToJson_eq, cString_of_noNul originTerminated]; rfl
  have callsign_ :
      jsonGetString (messageToJson message) (ascii "callsign") = some message.callsign := by
    rw [messageToJson_eq, cString_of_noNul callsignTerminated]; rfl
  have channel_ :
      jsonGetString (messageToJson message) (ascii "channel") = some message.channel := by
    rw [messageToJson_eq, cString_of_noNul channelTerminated]; rfl
  have body_ : jsonGetString (messageToJson message) (ascii "body") = some message.body := by
    rw [messageToJson_eq]; rfl
  have sequence_ : ((messageToJson message).get? (ascii "sequence")).filter jsonIsInt =
      some (.int (Int64.ofNat message.sequence).toInt) := by
    rw [messageToJson_eq]; rfl
  have created_ : ((messageToJson message).get? (ascii "created_at_ms")).filter jsonIsInt =
      some (.int message.createdAtMs.toInt) := by
    rw [messageToJson_eq]; rfl
  -- The integers come back as the words they were made from.
  have back : jsonGetInt64 (.int (Int64.ofNat message.sequence).toInt) =
      Int64.ofNat message.sequence := Int64.ofIntClamp_toInt _
  have clock : jsonGetInt64 (.int message.createdAtMs.toInt) = message.createdAtMs :=
    Int64.ofIntClamp_toInt _
  simp only [parseMessage, id_, origin_, callsign_, channel_, body_, sequence_, created_,
    Option.bind_eq_bind, Option.bind_some, back, clock]
  rw [sequence, Int.toNat_natCast]
  exact if_neg (by simp [valid.kept])

end LesChat
