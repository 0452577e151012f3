import LesChat.Foundation.JsonParser

/-! The JSON library as the daemon uses it, and the wrappers of `json.cpp` around it. -/

namespace LesChat

open Foundation

/-- What parsing a text leaves behind. -/
structure JsonParse where
  /-- The parsed value, null when there is none. -/
  object : Json
  /-- Whether the tokener reported `json_tokener_success`. -/
  success : Bool
  /-- How many bytes the tokener consumed. -/
  parseEnd : Nat

/-- The parts of the JSON library whose details the daemon does not fix. -/
structure JsonC where
  /-- The bytes the plain serializer writes for one byte of a string. -/
  escape : UInt8 → Bytes
  /-- A fresh tokener run over a whole text. -/
  parse : Bytes → JsonParse

/-- `json_is_object`: whether a value is an object. -/
def jsonIsObject : Json → Bool
  | .object _ => true
  | _ => false

/-- Whether a byte is escaped only because of its meaning inside a string. -/
def isSpecial (byte : UInt8) : Bool :=
  -- The quote, the backslash and the slash.
  byte == 0x22 || byte == 0x5C || byte == 0x2F

/-- The documented behaviour of the library the daemon relies on. -/
structure JsonC.Lawful (library : JsonC) : Prop where
  /-- The quote, the backslash and the slash take one extra byte. -/
  escape_special : ∀ byte, isSpecial byte = true → (library.escape byte).length = 2
  /-- Other control bytes take a two-byte or a six-byte escape. -/
  escape_control : ∀ byte, byte < 0x20 →
    (library.escape byte).length = 2 ∨ (library.escape byte).length = 6
  /-- Every other byte is written unchanged. -/
  escape_other : ∀ byte, isSpecial byte = false → ¬byte < 0x20 → library.escape byte = [byte]
  /-- Escapes are written in printable ASCII. -/
  escape_printable : ∀ byte, isSpecial byte = true ∨ byte < 0x20 →
    ∀ written ∈ library.escape byte, 0x20 ≤ written ∧ written < 0x7F
  /--
  The plain text of an object parses completely into the object.

  A tokener with the default depth of 32 takes objects of 31 levels.
  -/
  parse_plainText : ∀ value, jsonIsObject value = true → Json.Plain 31 value →
    library.parse (Json.plainText library.escape value) =
      ⟨value, true, (Json.plainText library.escape value).length⟩

/-- A library that writes the usual short escapes and reads back what it writes. -/
def plainJsonC : JsonC where
  escape := Json.plainEscape
  parse text :=
    match Json.read text with
    | some (value, rest) => ⟨value, true, text.length - rest.length⟩
    | none => ⟨.null, false, 0⟩

/-- The usual escapes behave as documented, for every byte there is. -/
private theorem plainEscape_table : ∀ code : Fin 256,
    (isSpecial (UInt8.ofNat code) = true → (Json.plainEscape (UInt8.ofNat code)).length = 2) ∧
    (UInt8.ofNat code < 0x20 → (Json.plainEscape (UInt8.ofNat code)).length = 2 ∨
      (Json.plainEscape (UInt8.ofNat code)).length = 6) ∧
    (isSpecial (UInt8.ofNat code) = false → ¬UInt8.ofNat code < 0x20 →
      Json.plainEscape (UInt8.ofNat code) = [UInt8.ofNat code]) ∧
    (isSpecial (UInt8.ofNat code) = true ∨ UInt8.ofNat code < 0x20 →
      ∀ written ∈ Json.plainEscape (UInt8.ofNat code), 0x20 ≤ written ∧ written < 0x7F) := by
  -- There are 256 bytes.
  decide +kernel

/-- The usual library satisfies the laws. -/
theorem plainJsonC_lawful : plainJsonC.Lawful := by
  -- A byte is one of 256 codes, and the table was checked for each of them.
  have table : ∀ byte : UInt8, _ := fun byte => plainEscape_table ⟨byte.toNat, byte.toNat_lt⟩
  simp only [UInt8.ofNat_toNat] at table
  refine ⟨fun byte => (table byte).1, fun byte => (table byte).2.1,
    fun byte => (table byte).2.2.1, fun byte => (table byte).2.2.2, ?_⟩
  intro value _ plain
  simp [plainJsonC, Json.read_plainText plain]

/-- `serialize_json`: the plain text of a value. -/
def serializeJson (library : JsonC) (value : Json) : Bytes :=
  Json.plainText library.escape value

/--
`parse_json`: one tokener run over the text.

Every caller bounds the text far below the range of the `int` its length is passed in.
-/
def parseJson (library : JsonC) (text : Bytes) : JsonParse := library.parse text

/-- Whether a value is an integer. -/
def jsonIsInt : Json → Bool
  | .int _ => true
  | _ => false

/-- `json_get_string`: the string member under a name, with its full length. -/
def jsonGetString (object : Json) (name : Bytes) : Option Bytes :=
  match object.get? name with
  -- A member of any other type counts as missing.
  | some (.string text) => some text
  | _ => none

/-- `json_object_get_int64`: an integer value, saturated to the range of the result. -/
def jsonGetInt64 : Json → Int64
  | .int value => Int64.ofIntClamp value
  | _ => 0

/-- `json_object_get_int`: an integer value, saturated to a 32-bit word. -/
def jsonGetInt : Json → Int
  | .int value => max (-2 ^ 31) (min (2 ^ 31 - 1) value)
  | _ => 0

/-- An object built by adding members one after the other. -/
def jsonObject (members : List (Bytes × Json)) : Json :=
  -- A key added again keeps its place and takes the later value.
  .object (members.foldl (fun built member => Keyed.upsert built member.1 member.2) [])

/-- An object built under distinct keys has exactly the members it was built from. -/
theorem jsonObject_of_nodup {members : List (Bytes × Json)}
    (distinct : (members.map Prod.fst).Nodup) : jsonObject members = .object members := by
  -- With distinct names every member is put at the end.
  rw [jsonObject, Json.foldl_upsert_members members [] (by simpa using distinct), List.nil_append]

end LesChat
