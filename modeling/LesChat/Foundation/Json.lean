import LesChat.Foundation.Bytes
import LesChat.Foundation.Keyed

/-! JSON values as a C library holds them, and the text a plain serializer writes for them. -/

namespace Foundation

/-- A JSON value, with the null pointer standing for the JSON null. -/
inductive Json where
  /-- The null value. -/
  | null
  /-- A boolean. -/
  | bool (value : Bool)
  /-- An integer, exact. -/
  | int (value : Int)
  /-- A number with a fraction or an exponent, kept as the text it was written in. -/
  | double (literal : Bytes)
  /-- A counted string, which may hold any byte. -/
  | string (text : Bytes)
  /-- An array, in order. -/
  | array (items : List Json)
  /-- An object, its members in the order their keys were first added. -/
  | object (members : List (Bytes × Json))

namespace Json

/-- The member of an object, absent when the value is no object or has no such key. -/
def get? (value : Json) (key : Bytes) : Option Json :=
  match value with
  -- Only objects have members.
  | object members => Keyed.lookup members key
  | _ => none

/-- Texts separated by commas. -/
def joinComma : List Bytes → Bytes
  -- The separator stands between two texts, never after the last.
  | [] => []
  | [text] => text
  | text :: next :: rest => text ++ 0x2C :: joinComma (next :: rest)

/-- A string literal: quotes around the escaped bytes. -/
def quoted (escape : UInt8 → Bytes) (text : Bytes) : Bytes :=
  -- Every byte is escaped on its own.
  0x22 :: (text.flatMap escape ++ [0x22])

mutual

/-- The text of a value, without any whitespace. -/
def plainText (escape : UInt8 → Bytes) : Json → Bytes
  | null => ascii "null"
  | bool true => ascii "true"
  | bool false => ascii "false"
  | int value => decimalInt value
  | double literal => literal
  | string text => quoted escape text
  -- Brackets and braces enclose the comma-separated contents.
  | array items => 0x5B :: (joinComma (itemTexts escape items) ++ [0x5D])
  | object members => 0x7B :: (joinComma (memberTexts escape members) ++ [0x7D])

/-- The texts of an array's items. -/
def itemTexts (escape : UInt8 → Bytes) : List Json → List Bytes
  | [] => []
  | item :: rest => plainText escape item :: itemTexts escape rest

/-- The texts of an object's members: the quoted key, a colon and the value. -/
def memberTexts (escape : UInt8 → Bytes) : List (Bytes × Json) → List Bytes
  | [] => []
  | (key, value) :: rest =>
    (quoted escape key ++ 0x3A :: plainText escape value) :: memberTexts escape rest

end

/--
Values a plain serializer writes and a parser with a nesting limit reads back.

Integers are those of a signed 64-bit word, and keys are distinct C strings.
Doubles are excluded, since their text is not determined by the value alone.
-/
inductive Plain : Nat → Json → Prop where
  /-- Null is written as itself. -/
  | null (depth : Nat) : Plain depth null
  /-- Booleans are written as themselves. -/
  | bool (depth : Nat) (value : Bool) : Plain depth (bool value)
  /-- Integers stay within a signed 64-bit word. -/
  | int (depth : Nat) {value : Int} (low : -2 ^ 63 ≤ value) (high : value < 2 ^ 63) :
      Plain depth (int value)
  /-- Strings may hold any byte. -/
  | string (depth : Nat) (text : Bytes) : Plain depth (string text)
  /-- An array spends one level of nesting. -/
  | array {depth : Nat} {items : List Json} (each : ∀ item ∈ items, Plain depth item) :
      Plain (depth + 1) (array items)
  /-- An object spends one level of nesting, and its keys are distinct C strings. -/
  | object {depth : Nat} {members : List (Bytes × Json)}
      (each : ∀ member ∈ members, Plain depth member.2)
      (distinct : (members.map Prod.fst).Nodup)
      (terminated : ∀ member ∈ members, 0 ∉ member.1) : Plain (depth + 1) (object members)

/-- The texts of the items, read as a map. -/
theorem itemTexts_eq_map (escape : UInt8 → Bytes) (items : List Json) :
    itemTexts escape items = items.map (plainText escape) := by
  -- The recursion visits the items one by one.
  induction items with
  | nil => rfl
  | cons item rest ih => simp [itemTexts, ih]

/-- The texts of the members, read as a map. -/
theorem memberTexts_eq_map (escape : UInt8 → Bytes) (members : List (Bytes × Json)) :
    memberTexts escape members =
      members.map fun member => quoted escape member.1 ++ 0x3A :: plainText escape member.2 := by
  -- The recursion visits the members one by one.
  induction members with
  | nil => rfl
  | cons member rest ih => simp [memberTexts, ih]

/-- The bytes one string takes once escaped. -/
def escapedLength (escape : UInt8 → Bytes) (text : Bytes) : Nat :=
  -- Each byte contributes the length of its own escape.
  (text.map fun byte => (escape byte).length).sum

/-- A quoted string is its escaped bytes and two quotes. -/
theorem quoted_length (escape : UInt8 → Bytes) (text : Bytes) :
    (quoted escape text).length = escapedLength escape text + 2 := by
  -- Escaping concatenates the escapes, whose lengths add up.
  simp [quoted, escapedLength, List.length_flatMap]

/-- Texts joined by commas take their own lengths and one byte for each separator. -/
theorem joinComma_length (texts : List Bytes) :
    (joinComma texts).length = (texts.map List.length).sum + (texts.length - 1) := by
  -- The induction follows the separator recursion.
  induction texts using joinComma.induct with
  | case1 => rfl
  | case2 text => simp [joinComma]
  | case3 text next rest ih =>
    simp only [joinComma, List.length_append, List.length_cons, ih, List.map_cons, List.sum_cons]
    omega

/-- A repeated byte takes its escape as often as it is repeated. -/
theorem escapedLength_replicate (escape : UInt8 → Bytes) (count : Nat) (byte : UInt8) :
    escapedLength escape (List.replicate count byte) = count * (escape byte).length := by
  -- Each copy takes as many bytes.
  simp [escapedLength]

/-- Text whose every byte is its own escape keeps its length. -/
theorem escapedLength_eq_length {escape : UInt8 → Bytes} {text : Bytes}
    (unchanged : ∀ byte ∈ text, escape byte = [byte]) :
    escapedLength escape text = text.length := by
  -- Each byte contributes exactly one.
  induction text with
  | nil => rfl
  | cons byte rest ih =>
    have head := unchanged byte (by simp)
    have tail := ih fun other member => unchanged other (by simp [member])
    simp only [escapedLength, List.map_cons, List.sum_cons, head, List.length_cons] at tail ⊢
    simp only [List.length_nil]
    omega

/-- The text of a string takes its escaped bytes and two quotes. -/
theorem plainText_string_length (escape : UInt8 → Bytes) (text : Bytes) :
    (plainText escape (string text)).length = escapedLength escape text + 2 := by
  -- Around the escaped text there are two quotes.
  rw [plainText, quoted_length]

/-- The text of an array takes its items, the commas between them and two brackets. -/
theorem plainText_array_length (escape : UInt8 → Bytes) (items : List Json) :
    (plainText escape (array items)).length =
      (items.map fun item => (plainText escape item).length).sum + (items.length - 1) + 2 := by
  -- There is a comma between any two items, and a bracket at both ends.
  simp only [plainText, List.length_cons, List.length_append, List.length_nil, itemTexts_eq_map,
    joinComma_length, List.map_map, List.length_map]
  rfl

/-- The text of an object takes its keys and values, two quotes and a colon for each, and commas. -/
theorem plainText_object_length (escape : UInt8 → Bytes) (members : List (Bytes × Json)) :
    (plainText escape (object members)).length =
      (members.map fun member =>
        escapedLength escape member.1 + 3 + (plainText escape member.2).length).sum +
      (members.length - 1) + 2 := by
  -- A member's text is its quoted key, a colon and its value.
  have each : (List.length ∘ fun member : Bytes × Json =>
      quoted escape member.1 ++ 0x3A :: plainText escape member.2) = fun member =>
      escapedLength escape member.1 + 3 + (plainText escape member.2).length := by
    funext member
    simp only [Function.comp, List.length_append, List.length_cons, quoted_length]
    omega
  simp only [plainText, List.length_cons, List.length_append, List.length_nil,
    memberTexts_eq_map, joinComma_length, List.map_map, List.length_map, each]

end Json

end Foundation
