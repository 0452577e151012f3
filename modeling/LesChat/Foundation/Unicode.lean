import Mathlib.Data.List.Basic
import LesChat.Foundation.Bytes

/-! The reference encodings of Unicode text, and the operations that keep UTF-8 intact. -/

namespace Foundation

/-- The shortest UTF-8 encodings of a sequence of Unicode scalar values, one after the other. -/
def encodeUtf8 (chars : List Char) : Bytes :=
  -- A character is a scalar value, so neither surrogates nor larger code points occur.
  chars.flatMap String.utf8EncodeChar

/-- Byte strings that encode some sequence of scalar values. -/
def WellFormedUtf8 (text : Bytes) : Prop := ∃ chars, text = encodeUtf8 chars

/-- The UTF-16 code units of a character, two surrogates for one outside the basic plane. -/
def utf16Units (character : Char) : List UInt16 :=
  let code := character.toNat
  if code < 0x10000 then [UInt16.ofNat code]
  else [UInt16.ofNat (0xD800 + (code - 0x10000) / 0x400),
    UInt16.ofNat (0xDC00 + (code - 0x10000) % 0x400)]

/-- The UTF-16 encodings of a sequence of Unicode scalar values, one after the other. -/
def encodeUtf16 (chars : List Char) : List UInt16 := chars.flatMap utf16Units

/-! One character, by the number of bytes it takes. -/

/-- A character of the first range is its own byte. -/
theorem utf8EncodeChar_one {character : Char} (small : character.toNat ≤ 0x7F) :
    String.utf8EncodeChar character = [UInt8.ofNat character.toNat] := by
  -- The first of the four cases of the encoder.
  simp [String.utf8EncodeChar, small]

/-- A character of the second range takes a lead and one continuation byte. -/
theorem utf8EncodeChar_two {character : Char} (low : 0x80 ≤ character.toNat)
    (high : character.toNat ≤ 0x7FF) :
    String.utf8EncodeChar character =
      [UInt8.ofNat (character.toNat / 64 % 32 + 0xC0),
        UInt8.ofNat (character.toNat % 64 + 0x80)] := by
  -- The second of the four cases, which the first one does not cover.
  have notOne : ¬ character.toNat ≤ 127 := by omega
  simp [String.utf8EncodeChar, notOne, high]

/-- A character of the third range takes a lead and two continuation bytes. -/
theorem utf8EncodeChar_three {character : Char} (low : 0x800 ≤ character.toNat)
    (high : character.toNat ≤ 0xFFFF) :
    String.utf8EncodeChar character =
      [UInt8.ofNat (character.toNat / 4096 % 16 + 0xE0),
        UInt8.ofNat (character.toNat / 64 % 64 + 0x80),
        UInt8.ofNat (character.toNat % 64 + 0x80)] := by
  -- The third of the four cases, which the first two do not cover.
  have notOne : ¬ character.toNat ≤ 127 := by omega
  have notTwo : ¬ character.toNat ≤ 2047 := by omega
  simp [String.utf8EncodeChar, notOne, notTwo, high]

/-- A character of the last range takes a lead and three continuation bytes. -/
theorem utf8EncodeChar_four {character : Char} (low : 0x10000 ≤ character.toNat) :
    String.utf8EncodeChar character =
      [UInt8.ofNat (character.toNat / 262144 % 8 + 0xF0),
        UInt8.ofNat (character.toNat / 4096 % 64 + 0x80),
        UInt8.ofNat (character.toNat / 64 % 64 + 0x80),
        UInt8.ofNat (character.toNat % 64 + 0x80)] := by
  -- The last of the four cases, which the others do not cover.
  have notOne : ¬ character.toNat ≤ 127 := by omega
  have notTwo : ¬ character.toNat ≤ 2047 := by omega
  have notThree : ¬ character.toNat ≤ 65535 := by omega
  simp [String.utf8EncodeChar, notOne, notTwo, notThree]

/-- A character is a scalar value: outside the surrogates and at most the last code point. -/
theorem char_scalar (character : Char) :
    character.toNat < 0xD800 ∨ 0xDFFF < character.toNat ∧ character.toNat < 0x110000 :=
  -- These are the bounds a character was built with.
  character.valid

/-- Every scalar value is the code point of a character. -/
theorem exists_char {value : Nat} (bound : value < 0x110000)
    (noSurrogate : value < 0xD800 ∨ 0xDFFF < value) :
    ∃ character : Char, character.toNat = value := by
  -- The bounds are those of a valid character.
  have valid : value.isValidChar := by
    rcases noSurrogate with low | high
    · exact Or.inl low
    · exact Or.inr ⟨high, bound⟩
  refine ⟨Char.ofNat value, ?_⟩
  rw [Char.ofNat, dif_pos valid]
  rfl

/-- An ASCII byte in the encoding of a character is that whole encoding. -/
theorem utf8EncodeChar_of_ascii_mem {character : Char} {byte : UInt8}
    (small : byte.toNat < 0x80) (member : byte ∈ String.utf8EncodeChar character) :
    String.utf8EncodeChar character = [byte] := by
  -- Leads and continuation bytes have the highest bit, so only the first range is left.
  have scalar := char_scalar character
  by_cases one : character.toNat ≤ 0x7F
  · rw [utf8EncodeChar_one one] at member ⊢
    rw [List.mem_singleton.mp member]
  · exfalso
    have high : ∀ value, 0x80 ≤ value % 256 → byte ≠ UInt8.ofNat value := by
      intro value large same
      rw [same, UInt8.toNat_ofNat'] at small
      omega
    by_cases two : character.toNat ≤ 0x7FF
    · rw [utf8EncodeChar_two (by omega) two] at member
      simp only [List.mem_cons, List.not_mem_nil, or_false] at member
      rcases member with same | same
      · exact high _ (by omega) same
      · exact high _ (by omega) same
    · by_cases three : character.toNat ≤ 0xFFFF
      · rw [utf8EncodeChar_three (by omega) three] at member
        simp only [List.mem_cons, List.not_mem_nil, or_false] at member
        rcases member with same | same | same
        · exact high _ (by omega) same
        · exact high _ (by omega) same
        · exact high _ (by omega) same
      · rw [utf8EncodeChar_four (by omega)] at member
        simp only [List.mem_cons, List.not_mem_nil, or_false] at member
        rcases member with same | same | same | same
        · exact high _ (by omega) same
        · exact high _ (by omega) same
        · exact high _ (by omega) same
        · exact high _ (by omega) same

/-! Closure of well-formed text. -/

/-- Encodings of two sequences, one after the other, encode their concatenation. -/
theorem encodeUtf8_append (left right : List Char) :
    encodeUtf8 (left ++ right) = encodeUtf8 left ++ encodeUtf8 right :=
  -- The text is encoded one character after the other.
  List.flatMap_append

/-- The empty text encodes the empty sequence. -/
theorem wellFormedUtf8_nil : WellFormedUtf8 [] := ⟨[], rfl⟩

/-- Well-formed texts can be concatenated. -/
theorem WellFormedUtf8.append {left right : Bytes} (first : WellFormedUtf8 left)
    (second : WellFormedUtf8 right) : WellFormedUtf8 (left ++ right) := by
  -- Both texts encode characters, and so do they together.
  obtain ⟨leftChars, rfl⟩ := first
  obtain ⟨rightChars, rfl⟩ := second
  exact ⟨leftChars ++ rightChars, (encodeUtf8_append leftChars rightChars).symm⟩

/-- One ASCII byte is well-formed. -/
theorem wellFormedUtf8_singleton {byte : UInt8} (small : byte.toNat < 0x80) :
    WellFormedUtf8 [byte] := by
  -- The character with that code encodes as the byte itself.
  have found : ∃ character : Char, character.toNat = byte.toNat :=
    exists_char (by omega) (by omega)
  obtain ⟨character, code⟩ := found
  have own : String.utf8EncodeChar character = [UInt8.ofNat character.toNat] :=
    utf8EncodeChar_one (by omega)
  exact ⟨[character], by simp [encodeUtf8, own, code]⟩

/-- ASCII text is well-formed. -/
theorem wellFormedUtf8_ascii {text : Bytes} (small : ∀ byte ∈ text, byte.toNat < 0x80) :
    WellFormedUtf8 text := by
  -- One byte after the other is added in front.
  induction text with
  | nil => exact wellFormedUtf8_nil
  | cons byte rest ih =>
    have head := wellFormedUtf8_singleton (small byte (by simp))
    exact head.append (ih fun other member => small other (by simp [member]))

/-- Well-formed text can be cut around any ASCII byte. -/
theorem WellFormedUtf8.cut {left right : Bytes} {byte : UInt8} (small : byte.toNat < 0x80)
    (whole : WellFormedUtf8 (left ++ byte :: right)) :
    WellFormedUtf8 left ∧ WellFormedUtf8 right := by
  -- The induction is on the characters; the byte lies in the first one or in the rest.
  obtain ⟨chars, encoded⟩ := whole
  induction chars generalizing left with
  | nil => simp [encodeUtf8] at encoded
  | cons character chars ih =>
    rw [encodeUtf8, List.flatMap_cons, List.append_eq_append_iff] at encoded
    have later : ∀ before, before ++ byte :: right = encodeUtf8 chars →
        WellFormedUtf8 (String.utf8EncodeChar character ++ before) ∧ WellFormedUtf8 right := by
      intro before same
      obtain ⟨first, second⟩ := ih same
      have head : WellFormedUtf8 (String.utf8EncodeChar character) :=
        ⟨[character], by simp [encodeUtf8]⟩
      exact ⟨head.append first, second⟩
    rcases encoded with ⟨middle, leads, rest⟩ | ⟨middle, leads, rest⟩
    · -- The text before the byte ends within the first character.
      cases middle with
      | nil =>
        have shifted := later [] (by simpa [encodeUtf8] using rest)
        simpa [leads] using shifted
      | cons first middle =>
        simp only [List.cons_append, List.cons.injEq] at rest
        obtain ⟨same, rest⟩ := rest
        subst same
        have alone : String.utf8EncodeChar character = [byte] :=
          utf8EncodeChar_of_ascii_mem small (by simp [leads])
        rw [alone] at leads
        have empty : left = [] ∧ middle = [] := by
          cases left with
          | nil => simpa using leads.symm
          | cons other left => simp at leads
        obtain ⟨noLeft, noMiddle⟩ := empty
        subst noLeft noMiddle
        exact ⟨wellFormedUtf8_nil, chars, by simpa [encodeUtf8] using rest⟩
    · -- The first character lies before the byte.
      rw [leads]
      exact later middle rest.symm

/-- A nonempty ASCII block separates texts that are well-formed on their own. -/
theorem wellFormedUtf8_around {left block right : Bytes} (nonempty : block ≠ [])
    (small : ∀ byte ∈ block, byte.toNat < 0x80) :
    WellFormedUtf8 (left ++ block ++ right) ↔ WellFormedUtf8 left ∧ WellFormedUtf8 right := by
  constructor
  · -- Cutting at every byte of the block removes it.
    intro whole
    induction block generalizing left with
    | nil => exact absurd rfl nonempty
    | cons byte rest ih =>
      have parts : WellFormedUtf8 left ∧ WellFormedUtf8 (rest ++ right) :=
        WellFormedUtf8.cut (small byte (by simp)) (by simpa using whole)
      cases rest with
      | nil => exact parts
      | cons next rest =>
        have inner : WellFormedUtf8 [] ∧ WellFormedUtf8 right :=
          ih (by simp) (fun other member => small other (by simp [member])) (by simpa using parts.2)
        exact ⟨parts.1, inner.2⟩
  · intro parts
    exact (parts.1.append (wellFormedUtf8_ascii small)).append parts.2

/-- Escapes that write ASCII bytes as ASCII text and leave all others unchanged. -/
structure AsciiEscape (escape : UInt8 → Bytes) : Prop where
  /-- Every ASCII byte is written as some ASCII text. -/
  small : ∀ byte : UInt8, byte.toNat < 0x80 →
    escape byte ≠ [] ∧ ∀ written ∈ escape byte, written.toNat < 0x80
  /-- Every other byte is written as it is. -/
  large : ∀ byte : UInt8, 0x80 ≤ byte.toNat → escape byte = [byte]

/-- Escaping preserves well-formedness in both directions. -/
theorem AsciiEscape.wellFormedUtf8_flatMap {escape : UInt8 → Bytes} (law : AsciiEscape escape)
    (text : Bytes) : WellFormedUtf8 (text.flatMap escape) ↔ WellFormedUtf8 text := by
  -- The statement is generalized over a part in front that is not escaped.
  have general : ∀ front, WellFormedUtf8 (front ++ text.flatMap escape) ↔
      WellFormedUtf8 (front ++ text) := by
    induction text with
    | nil => simp
    | cons byte rest ih =>
      intro front
      rw [List.flatMap_cons, ← List.append_assoc]
      by_cases large : 0x80 ≤ byte.toNat
      · rw [law.large byte large, ih (front ++ [byte])]
        simp
      · -- An ASCII byte and its escape both separate the texts around them.
        obtain ⟨nonempty, small⟩ := law.small byte (by omega)
        rw [wellFormedUtf8_around nonempty small]
        have plain : WellFormedUtf8 (front ++ [byte] ++ rest) ↔
            WellFormedUtf8 front ∧ WellFormedUtf8 rest :=
          wellFormedUtf8_around (by simp) (by simpa using Nat.lt_of_not_le large)
        have inner := ih []
        simp only [List.nil_append] at inner
        rw [inner, ← plain]
        simp
  simpa using general []

end Foundation
