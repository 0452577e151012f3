import LesChat.Message.Codec

/-! How long the texts of messages and sync documents are, and that they can be read back. -/

namespace LesChat

open Foundation

section Sizes

variable {library : JsonC}

/-- A byte that stands for itself inside a string literal. -/
def Ordinary (byte : UInt8) : Prop := isSpecial byte = false ∧ ¬byte < 0x20

/-- Whether a byte is ordinary can be checked. -/
instance : DecidablePred Ordinary := fun _ => inferInstanceAs (Decidable (_ ∧ _))

/-- Ordinary text takes one byte for each byte. -/
theorem JsonC.Lawful.escapedLength_ordinary (lawful : library.Lawful) {text : Bytes}
    (ordinary : ∀ byte ∈ text, Ordinary byte) :
    Json.escapedLength library.escape text = text.length :=
  -- An ordinary byte is written as it is.
  Json.escapedLength_eq_length fun byte member =>
    lawful.escape_other byte (ordinary byte member).1 (ordinary byte member).2

/-- Every byte takes at least one byte, and at most six. -/
theorem JsonC.Lawful.escape_length (lawful : library.Lawful) (byte : UInt8) :
    1 ≤ (library.escape byte).length ∧ (library.escape byte).length ≤ 6 := by
  -- A byte is special, a control byte, or written as it is.
  cases special : isSpecial byte with
  | true =>
    have two := lawful.escape_special byte special
    omega
  | false =>
    by_cases control : byte < 0x20
    · rcases lawful.escape_control byte control with two | six <;> omega
    · have one := lawful.escape_other byte special control
      simp [one]

/-- The bytes of an encoded message: its envelope, its numerals and its escaped texts. -/
def messageSize (library : JsonC) (message : ChatMessage) : Nat :=
  87 + (decimalInt (Int64.ofNat message.sequence).toInt).length +
    (decimalInt message.createdAtMs.toInt).length +
    Json.escapedLength library.escape (cString message.messageId) +
    Json.escapedLength library.escape (cString message.callsign) +
    Json.escapedLength library.escape (cString message.channel) +
    Json.escapedLength library.escape message.body +
    Json.escapedLength library.escape (cString message.origin)

/-- A name of ordinary characters takes one byte for each. -/
theorem JsonC.Lawful.escapedLength_ascii (lawful : library.Lawful) {name : String} {size : Nat}
    (ordinary : (∀ byte ∈ ascii name, Ordinary byte) ∧ (ascii name).length = size) :
    Json.escapedLength library.escape (ascii name) = size := by
  -- No byte of the name is escaped.
  rw [lawful.escapedLength_ordinary ordinary.1, ordinary.2]

/-- The text of an encoded message has the size of the message. -/
theorem serializeJson_messageToJson_length (lawful : library.Lawful) (message : ChatMessage) :
    (serializeJson library (messageToJson message)).length = messageSize library message := by
  -- The names are ordinary, so each member takes its name, its punctuation and its value.
  have sequence : Json.escapedLength library.escape (ascii "sequence") = 8 :=
    lawful.escapedLength_ascii (by decide +kernel)
  have messageId : Json.escapedLength library.escape (ascii "id") = 2 :=
    lawful.escapedLength_ascii (by decide +kernel)
  have callsign : Json.escapedLength library.escape (ascii "callsign") = 8 :=
    lawful.escapedLength_ascii (by decide +kernel)
  have channel : Json.escapedLength library.escape (ascii "channel") = 7 :=
    lawful.escapedLength_ascii (by decide +kernel)
  have createdAt : Json.escapedLength library.escape (ascii "created_at_ms") = 13 :=
    lawful.escapedLength_ascii (by decide +kernel)
  have body : Json.escapedLength library.escape (ascii "body") = 4 :=
    lawful.escapedLength_ascii (by decide +kernel)
  have origin : Json.escapedLength library.escape (ascii "origin") = 6 :=
    lawful.escapedLength_ascii (by decide +kernel)
  rw [serializeJson, messageToJson_eq, Json.plainText_object_length]
  simp only [List.map_cons, List.map_nil, List.sum_cons, List.sum_nil, List.length_cons,
    List.length_nil, Json.plainText, Json.quoted_length, sequence, messageId, callsign,
    channel, createdAt, body, origin, messageSize]
  omega

/-- A sequence in range is written as the number it is. -/
theorem decimalInt_ofNat {sequence : Nat} (inRange : sequence ≤ maxInt64) :
    decimalInt (Int64.ofNat sequence).toInt = decimal sequence := by
  -- A number in range is not negative in a signed word.
  rw [toInt_ofNat_of_le inRange]
  rfl

end Sizes

/-- Every message is encoded as a value that can be read back. -/
theorem plain_messageToJson (depth : Nat) (message : ChatMessage) :
    Json.Plain (depth + 1) (messageToJson message) := by
  rw [messageToJson_eq]
  refine .object ?_ (by simp only [List.map_cons, List.map_nil]; decide +kernel) ?_
  · -- Integers are words, and strings may hold anything.
    intro member inMembers
    simp only [List.mem_cons, List.not_mem_nil, or_false] at inMembers
    rcases inMembers with rfl | rfl | rfl | rfl | rfl | rfl | rfl
    · exact .int depth (Int64.le_toInt _) (Int64.toInt_lt _)
    · exact .string depth _
    · exact .string depth _
    · exact .string depth _
    · exact .int depth (Int64.le_toInt _) (Int64.toInt_lt _)
    · exact .string depth _
    · exact .string depth _
  · -- The seven names are C strings.
    have names : ∀ name ∈ [ascii "sequence", ascii "id", ascii "callsign", ascii "channel",
        ascii "created_at_ms", ascii "body", ascii "origin"], 0 ∉ name := by decide +kernel
    intro member inMembers
    refine names member.1 ?_
    simp only [List.mem_cons, List.not_mem_nil, or_false] at inMembers ⊢
    rcases inMembers with rfl | rfl | rfl | rfl | rfl | rfl | rfl <;> simp

end LesChat
