import LesChat.Service.LocalMessage

/-! Which of the messages a node can store survive being sent on to the next node. -/

namespace LesChat

open Foundation

/-- The messages a node can store: those it parsed and those it built itself. -/
inductive Storable : ChatMessage → Prop where
  /-- A message `parse_message` accepted. -/
  | parsed (object : Json) (message : ChatMessage) (read : parseMessage object = some message) :
    Storable message
  /-- A message `create_local` built, at any value of its counter. -/
  | created (identity : NodeIdentity) (accepted : identity.Accepted) (sequence : Nat)
    (counted : sequence < 2 ^ 64) (now : Int64) (body : Bytes) (acceptedBody : AcceptedBody body) :
    Storable (localMessage identity sequence now body)

/-- A message is read back whole from the text it is sent as, and is the same in every field. -/
def RoundTrips (library : JsonC) (message : ChatMessage) : Prop :=
  let text := serializeJson library (messageToJson message)
  let parsed := parseJson library text
  parsed.success = true ∧ parsed.parseEnd = text.length ∧ parseMessage parsed.object = some message

/-- The short texts of a message that is read back end where those of the original had a NUL. -/
theorem parseMessage_messageToJson_texts {message parsed : ChatMessage}
    (read : parseMessage (messageToJson message) = some parsed) :
    parsed.messageId = cString message.messageId ∧ parsed.origin = cString message.origin ∧
      parsed.callsign = cString message.callsign := by
  -- Each lookup finds the member the encoder wrote under that name.
  have messageId : jsonGetString (messageToJson message) (ascii "id") =
      some (cString message.messageId) := by rw [messageToJson_eq]; rfl
  have origin : jsonGetString (messageToJson message) (ascii "origin") =
      some (cString message.origin) := by rw [messageToJson_eq]; rfl
  have callsign : jsonGetString (messageToJson message) (ascii "callsign") =
      some (cString message.callsign) := by rw [messageToJson_eq]; rfl
  obtain ⟨idRead, originRead, callsignRead⟩ := parseMessage_texts read
  exact ⟨Option.some.inj (idRead.symm.trans messageId),
    Option.some.inj (originRead.symm.trans origin),
    Option.some.inj (callsignRead.symm.trans callsign)⟩

/-- A text that is its own C string holds no NUL byte. -/
theorem noNul_of_cString_eq {text : Bytes} (same : text = cString text) : 0 ∉ text := by
  -- A C string ends before the first NUL byte.
  rw [same]
  exact zero_notMem_cString text

/-- Every bound of the parser but the one on sequences holds of what a node can store. -/
theorem Storable.valid {message : ChatMessage} (storable : Storable message)
    (low : 1 ≤ message.sequence) (high : message.sequence ≤ maxInt64) : message.Valid := by
  -- A message comes in through the parser, or is made of checked parts.
  cases storable with
  | parsed object _ read => exact parseMessage_valid read
  | created identity accepted sequence counted now body acceptedBody =>
    exact localMessage_valid accepted low high now acceptedBody

/-- The text of a message is parsed into the value it was written for. -/
theorem parseJson_messageToJson {library : JsonC} (lawful : library.Lawful)
    (message : ChatMessage) :
    parseJson library (serializeJson library (messageToJson message)) =
      ⟨messageToJson message, true, (serializeJson library (messageToJson message)).length⟩ :=
  -- A message is an object of plain members, which the parser reads back.
  lawful.parse_plainText _ (by rw [messageToJson_eq]; rfl) (plain_messageToJson 30 message)

/--
A message that can be stored survives being sent on exactly when its sequence fits a signed word and
none of the texts written as C strings holds a NUL byte.
-/
theorem roundTrips_iff {library : JsonC} (lawful : library.Lawful) {message : ChatMessage}
    (storable : Storable message) :
    RoundTrips library message ↔
      (1 ≤ message.sequence ∧ message.sequence ≤ maxInt64) ∧
        0 ∉ message.messageId ∧ 0 ∉ message.origin ∧ 0 ∉ message.callsign := by
  simp only [RoundTrips, parseJson_messageToJson lawful, true_and]
  constructor
  · intro same
    -- The parser's bounds hold of the message, and its texts are the C strings that were sent.
    have valid := parseMessage_valid same
    obtain ⟨messageId, origin, callsign⟩ := parseMessage_messageToJson_texts same
    exact ⟨⟨valid.sequence_pos, valid.sequence_le⟩, noNul_of_cString_eq messageId,
      noNul_of_cString_eq origin, noNul_of_cString_eq callsign⟩
  · intro kept
    obtain ⟨⟨low, high⟩, messageId, origin, callsign⟩ := kept
    exact parseMessage_messageToJson (storable.valid low high) messageId origin callsign

/-- A greeting survives. -/
theorem roundTrips_greeting : RoundTrips plainJsonC
    ⟨1, ascii "a:1", ascii "a", ascii "Alice", defaultChannel, 0, ascii "hello"⟩ := by
  -- The greeting is read from its own document.
  let message : ChatMessage :=
    ⟨1, ascii "a:1", ascii "a", ascii "Alice", defaultChannel, 0, ascii "hello"⟩
  have storable : Storable message := .parsed (messageToJson message) message (by decide +kernel)
  exact (roundTrips_iff plainJsonC_lawful storable).mpr (by decide +kernel)

/-- An identifier with a NUL byte is accepted from one node and cut short for the next. -/
theorem roundTrips_cut :
    let message : ChatMessage :=
      ⟨1, [0x61, 0x00, 0x62], ascii "a", ascii "Alice", defaultChannel, 0, ascii "hello"⟩
    (∃ object, parseMessage object = some message) ∧ ¬RoundTrips plainJsonC message := by
  intro message
  -- The same members as the encoder's, with the identifier in full.
  let object : Json := .object [
    (ascii "sequence", .int 1), (ascii "id", .string [0x61, 0x00, 0x62]),
    (ascii "callsign", .string (ascii "Alice")), (ascii "channel", .string defaultChannel),
    (ascii "created_at_ms", .int 0), (ascii "body", .string (ascii "hello")),
    (ascii "origin", .string (ascii "a"))]
  have read : parseMessage object = some message := by decide +kernel
  refine ⟨⟨object, read⟩, fun whole => ?_⟩
  have different : parseMessage (messageToJson message) ≠ some message := by decide +kernel
  have parsed := parseJson_messageToJson plainJsonC_lawful message
  apply different
  have same := whole.2.2
  simp only [parsed] at same
  exact same

end LesChat
