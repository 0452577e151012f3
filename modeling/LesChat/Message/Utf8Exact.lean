import LesChat.Foundation.Unicode
import LesChat.Message.Utf8

/-! The UTF-8 check accepts exactly the reference encodings, and reads only inside its text. -/

namespace LesChat

open Foundation

/-! The bit operations of the check, as arithmetic. -/

/-- A byte has the form of a continuation byte exactly within one range. -/
theorem continuationByte_iff (byte : UInt8) :
    byte &&& 0xC0 = 0x80 ↔ 0x80 ≤ byte.toNat ∧ byte.toNat < 0xC0 := by
  -- Only the value of the byte matters, and there are few of them.
  have values : ∀ value < 256, value &&& 0xC0 = 0x80 ↔ 0x80 ≤ value ∧ value < 0xC0 := by
    decide +kernel
  have own := values byte.toNat byte.toNat_lt
  rw [← UInt8.toNat_inj, UInt8.toNat_and]
  exact own

/-- Appending six bits multiplies by sixty-four. -/
theorem shiftIn_eq (codePoint : Nat) (byte : UInt8) :
    (codePoint <<< 6) ||| (byte &&& 0x3F).toNat = codePoint * 64 + byte.toNat % 64 := by
  -- The low six bits are a remainder, and the shift leaves room for them.
  have bits : (byte &&& 0x3F).toNat = byte.toNat % 64 := by
    rw [UInt8.toNat_and]
    exact Nat.and_two_pow_sub_one_eq_mod byte.toNat 6
  rw [bits, ← Nat.shiftLeft_add_eq_or_of_lt (Nat.mod_lt _ (by decide)), Nat.shiftLeft_eq]

/-- A lead byte falls into one of four ranges, which fix the count and the leading bits. -/
theorem leadByte_eq_some {first : UInt8} {count bits : Nat} :
    leadByte first = some (count, bits) ↔
      (first.toNat ≤ 0x7F ∧ count = 0 ∧ bits = first.toNat) ∨
      (0xC2 ≤ first.toNat ∧ first.toNat ≤ 0xDF ∧ count = 1 ∧ bits = first.toNat - 0xC0) ∨
      (0xE0 ≤ first.toNat ∧ first.toNat ≤ 0xEF ∧ count = 2 ∧ bits = first.toNat - 0xE0) ∨
      (0xF0 ≤ first.toNat ∧ first.toNat ≤ 0xF4 ∧ count = 3 ∧ bits = first.toNat - 0xF0) := by
  have five : (first &&& 0x1F).toNat = first.toNat % 32 := by
    rw [UInt8.toNat_and]
    exact Nat.and_two_pow_sub_one_eq_mod first.toNat 5
  have four : (first &&& 0x0F).toNat = first.toNat % 16 := by
    rw [UInt8.toNat_and]
    exact Nat.and_two_pow_sub_one_eq_mod first.toNat 4
  have three : (first &&& 0x07).toNat = first.toNat % 8 := by
    rw [UInt8.toNat_and]
    exact Nat.and_two_pow_sub_one_eq_mod first.toNat 3
  unfold leadByte
  simp only [UInt8.le_iff_toNat_le, five, four, three, UInt8.reduceToNat]
  clear five four three
  -- The ranges are disjoint, so the tests decide in the order of the source.
  split
  · simp only [Option.some.injEq, Prod.mk.injEq]
    omega
  · split
    · simp only [Option.some.injEq, Prod.mk.injEq]
      omega
    · split
      · simp only [Option.some.injEq, Prod.mk.injEq]
        omega
      · split
        · simp only [Option.some.injEq, Prod.mk.injEq]
          omega
        · simp only [reduceCtorEq, false_iff]
          omega

/-- One more continuation byte is one in range, and it contributes its six bits. -/
theorem continuation_succ {text : Bytes} {position count codePoint result : Nat}
    (inside : position + (count + 1) ≤ text.length) :
    continuation text position (count + 1) codePoint inside = some result ↔
      ∃ within : position < text.length, ∃ later : position + 1 + count ≤ text.length,
        (0x80 ≤ text[position].toNat ∧ text[position].toNat < 0xC0) ∧
          continuation text (position + 1) count (codePoint * 64 + text[position].toNat % 64)
            later = some result := by
  -- The byte is tested first, and the rest is read with its bits taken in.
  have within : position < text.length := by omega
  have later : position + 1 + count ≤ text.length := by omega
  rw [continuation]
  simp only [ne_eq, continuationByte_iff, shiftIn_eq]
  split
  · rename_i outside
    simp only [reduceCtorEq, false_iff, not_exists]
    intro _ _ both
    exact outside both.1
  · rename_i form
    simp only [not_not] at form
    simp [within, later, form]

/-- A continuation byte is rebuilt from its six bits. -/
theorem continuationByte_rebuilt (bits : Nat) {byte : UInt8}
    (form : 0x80 ≤ byte.toNat ∧ byte.toNat < 0xC0) :
    UInt8.ofNat ((bits * 64 + byte.toNat % 64) % 64 + 0x80) = byte := by
  -- The mark of the byte and its six bits make up its value.
  have value : (bits * 64 + byte.toNat % 64) % 64 + 0x80 = byte.toNat := by omega
  rw [value, UInt8.ofNat_toNat]

/-- A byte that was built from six bits is taken as a continuation byte, and gives them back. -/
theorem continuation_built {text : Bytes} {position count codePoint value : Nat}
    (built : text[position]? = some (UInt8.ofNat (value % 64 + 0x80)))
    (inside : position + (count + 1) ≤ text.length) (later : position + 1 + count ≤ text.length) :
    continuation text position (count + 1) codePoint inside =
      continuation text (position + 1) count (codePoint * 64 + value % 64) later := by
  -- A byte made of six bits passes the test, and gives these bits back.
  obtain ⟨within, same⟩ := List.getElem?_eq_some_iff.mp built
  have form : text[position].toNat = value % 64 + 0x80 := by
    rw [same, UInt8.toNat_ofNat']
    omega
  have bits : text[position].toNat % 64 = value % 64 := by omega
  refine Option.ext fun result => ?_
  rw [continuation_succ, ← bits]
  constructor
  · intro taken
    obtain ⟨_, _, _, folded⟩ := taken
    exact folded
  · intro folded
    exact ⟨within, later, by omega, folded⟩

/-! One character of the text. -/

/-- A two-byte form in range is the encoding of a character. -/
theorem exists_two {first second : UInt8} (low : 0xC2 ≤ first.toNat) (high : first.toNat ≤ 0xDF)
    (next : 0x80 ≤ second.toNat ∧ second.toNat < 0xC0) :
    ∃ character, String.utf8EncodeChar character = [first, second] := by
  -- Five bits of the first byte and six of the second make up the character.
  have found : ∃ character : Char,
      character.toNat = (first.toNat - 0xC0) * 64 + second.toNat % 64 :=
    exists_char (by omega) (by omega)
  obtain ⟨character, code⟩ := found
  refine ⟨character, ?_⟩
  have lead : character.toNat / 64 % 32 + 0xC0 = first.toNat := by omega
  rw [utf8EncodeChar_two (by omega) (by omega), lead, code, continuationByte_rebuilt _ next,
    UInt8.ofNat_toNat]

/-- A three-byte form that is neither overlong nor a surrogate is the encoding of a character. -/
theorem exists_three {first second third : UInt8} (low : 0xE0 ≤ first.toNat)
    (high : first.toNat ≤ 0xEF) (next : 0x80 ≤ second.toNat ∧ second.toNat < 0xC0)
    (last : 0x80 ≤ third.toNat ∧ third.toNat < 0xC0)
    (admitted : refusedCodePoint 2
      (((first.toNat - 0xE0) * 64 + second.toNat % 64) * 64 + third.toNat % 64) = false) :
    ∃ character, String.utf8EncodeChar character = [first, second, third] := by
  simp [refusedCodePoint] at admitted
  have found : ∃ character : Char, character.toNat =
      ((first.toNat - 0xE0) * 64 + second.toNat % 64) * 64 + third.toNat % 64 :=
    exists_char (by omega) (by omega)
  obtain ⟨character, code⟩ := found
  refine ⟨character, ?_⟩
  -- Each division by sixty-four takes the bits of the last byte away.
  have front : character.toNat / 64 = (first.toNat - 0xE0) * 64 + second.toNat % 64 := by omega
  have lead : character.toNat / 4096 % 16 + 0xE0 = first.toNat := by omega
  rw [utf8EncodeChar_three (by omega) (by omega), lead, front, code,
    continuationByte_rebuilt _ next, continuationByte_rebuilt _ last, UInt8.ofNat_toNat]

/-- A four-byte form that is neither overlong nor too large is the encoding of a character. -/
theorem exists_four {first second third fourth : UInt8} (low : 0xF0 ≤ first.toNat)
    (high : first.toNat ≤ 0xF4) (next : 0x80 ≤ second.toNat ∧ second.toNat < 0xC0)
    (after : 0x80 ≤ third.toNat ∧ third.toNat < 0xC0)
    (last : 0x80 ≤ fourth.toNat ∧ fourth.toNat < 0xC0)
    (admitted : refusedCodePoint 3
      ((((first.toNat - 0xF0) * 64 + second.toNat % 64) * 64 + third.toNat % 64) * 64 +
        fourth.toNat % 64) = false) :
    ∃ character, String.utf8EncodeChar character = [first, second, third, fourth] := by
  simp [refusedCodePoint] at admitted
  have found : ∃ character : Char, character.toNat =
      (((first.toNat - 0xF0) * 64 + second.toNat % 64) * 64 + third.toNat % 64) * 64 +
        fourth.toNat % 64 :=
    exists_char (by omega) (by omega)
  obtain ⟨character, code⟩ := found
  refine ⟨character, ?_⟩
  -- Each division by sixty-four takes the bits of the last byte away.
  have front : character.toNat / 64 =
      ((first.toNat - 0xF0) * 64 + second.toNat % 64) * 64 + third.toNat % 64 := by omega
  have middle : character.toNat / 4096 = (first.toNat - 0xF0) * 64 + second.toNat % 64 := by
    omega
  have lead : character.toNat / 262144 % 8 + 0xF0 = first.toNat := by omega
  rw [utf8EncodeChar_four (by omega), lead, middle, front, code,
    continuationByte_rebuilt _ next, continuationByte_rebuilt _ after,
    continuationByte_rebuilt _ last, UInt8.ofNat_toNat]

/-- What one turn of the loop has found: a lead, its continuation bytes, and no refusal. -/
def ReadsChar (text : Bytes) (index count : Nat) : Prop :=
  -- The whole form lies inside the text.
  ∃ bits codePoint, ∃ within : index + 1 + count ≤ text.length,
    leadByte (text[index]) = some (count, bits) ∧
      continuation text (index + 1) count bits within = some codePoint ∧
      refusedCodePoint count codePoint = false

/-- A turn of the loop accepts exactly when it reads a character and the rest is accepted. -/
theorem validUtf8From_succ {text : Bytes} {fuel index : Nat} (inside : index < text.length) :
    validUtf8From text (fuel + 1) index = true ↔
      ∃ count, ReadsChar text index count ∧
        validUtf8From text fuel (index + (count + 1)) = true := by
  rw [validUtf8From, dif_pos inside]
  constructor
  · -- Of the branches, only one goes on to the next character.
    intro accepted
    split at accepted
    · exact absurd accepted (by simp)
    · rename_i count bits lead
      split at accepted
      · exact absurd accepted (by simp)
      · split at accepted
        · exact absurd accepted (by simp)
        · rename_i codePoint folded
          split at accepted
          · exact absurd accepted (by simp)
          · rename_i admitted
            have admitted : refusedCodePoint count codePoint = false := by simpa using admitted
            exact ⟨count, ⟨bits, codePoint, by omega, lead, folded, admitted⟩, accepted⟩
  · -- Each of the checks is passed.
    intro found
    obtain ⟨count, ⟨bits, codePoint, within, lead, folded, admitted⟩, rest⟩ := found
    have complete : ¬ index + count ≥ text.length := by omega
    simp only [lead, dif_neg complete, folded, admitted, Bool.false_eq_true, if_false]
    exact rest

/-- The bytes a turn of the loop reads are the encoding of a character. -/
theorem ReadsChar.encodes {text : Bytes} {index count : Nat} (reads : ReadsChar text index count) :
    ∃ character, text.drop index =
      String.utf8EncodeChar character ++ text.drop (index + (count + 1)) := by
  obtain ⟨bits, codePoint, within, lead, folded, admitted⟩ := reads
  have split : ∀ position, (inside : position < text.length) →
      text.drop position = text[position] :: text.drop (position + 1) :=
    fun position inside => List.drop_eq_getElem_cons inside
  -- The four ranges of the lead fix how many bytes follow.
  rcases leadByte_eq_some.mp lead with ⟨high, none, value⟩ | ⟨low, high, one, value⟩ |
    ⟨low, high, two, value⟩ | ⟨low, high, three, value⟩
  · subst none
    have found : ∃ character : Char, character.toNat = text[index].toNat :=
      exists_char (by omega) (by omega)
    obtain ⟨character, code⟩ := found
    refine ⟨character, ?_⟩
    rw [split index (by omega), utf8EncodeChar_one (by omega), code]
    simp
  · subst one
    obtain ⟨_, _, next, _⟩ := (continuation_succ within).mp folded
    obtain ⟨character, encoded⟩ := exists_two low high next
    have front := split index (by omega)
    rw [split (index + 1) (by omega)] at front
    exact ⟨character, by rw [encoded]; exact front⟩
  · subst two
    obtain ⟨_, _, next, folded⟩ := (continuation_succ within).mp folded
    obtain ⟨_, _, last, folded⟩ := (continuation_succ _).mp folded
    simp only [continuation, Option.some.injEq] at folded
    obtain ⟨character, encoded⟩ :=
      exists_three low high next last (by rw [← value, folded]; exact admitted)
    have front := split index (by omega)
    rw [split (index + 1) (by omega), split (index + 1 + 1) (by omega)] at front
    exact ⟨character, by rw [encoded]; exact front⟩
  · subst three
    obtain ⟨_, _, next, folded⟩ := (continuation_succ within).mp folded
    obtain ⟨_, _, after, folded⟩ := (continuation_succ _).mp folded
    obtain ⟨_, _, last, folded⟩ := (continuation_succ _).mp folded
    simp only [continuation, Option.some.injEq] at folded
    obtain ⟨character, encoded⟩ :=
      exists_four low high next after last (by rw [← value, folded]; exact admitted)
    have front := split index (by omega)
    rw [split (index + 1) (by omega), split (index + 1 + 1) (by omega),
      split (index + 1 + 1 + 1) (by omega)] at front
    exact ⟨character, by rw [encoded]; exact front⟩

/-- A character of one byte is read in one turn. -/
theorem readsChar_one {text : Bytes} {index : Nat} {character : Char}
    (small : character.toNat ≤ 0x7F)
    (first : text[index]? = some (UInt8.ofNat character.toNat)) : ReadsChar text index 0 := by
  obtain ⟨within, first⟩ := List.getElem?_eq_some_iff.mp first
  refine ⟨character.toNat, character.toNat, within, ?_, rfl, ?_⟩
  · -- The byte is below the first mark.
    rw [leadByte_eq_some, first, UInt8.toNat_ofNat']
    omega
  · simp [refusedCodePoint]
    omega

/-- A character of two bytes is read in one turn. -/
theorem readsChar_two {text : Bytes} {index : Nat} {character : Char}
    (low : 0x80 ≤ character.toNat) (high : character.toNat ≤ 0x7FF)
    (first : text[index]? = some (UInt8.ofNat (character.toNat / 64 % 32 + 0xC0)))
    (second : text[index + 1]? = some (UInt8.ofNat (character.toNat % 64 + 0x80))) :
    ReadsChar text index 1 := by
  obtain ⟨_, lead⟩ := List.getElem?_eq_some_iff.mp first
  obtain ⟨within, _⟩ := List.getElem?_eq_some_iff.mp second
  refine ⟨character.toNat / 64, character.toNat, within, ?_, ?_, ?_⟩
  · -- The first byte has the mark of two, and the upper bits.
    have value : (character.toNat / 64 % 32 + 0xC0) % 2 ^ 8 = character.toNat / 64 + 0xC0 := by
      omega
    rw [leadByte_eq_some, lead, UInt8.toNat_ofNat', value]
    exact .inr (.inl ⟨by omega, by omega, rfl, by omega⟩)
  · -- The second byte brings the lower bits.
    rw [continuation_built second within within, continuation, Nat.div_add_mod']
  · simp [refusedCodePoint]
    omega

/-- A character of three bytes is read in one turn. -/
theorem readsChar_three {text : Bytes} {index : Nat} {character : Char}
    (low : 0x800 ≤ character.toNat) (high : character.toNat ≤ 0xFFFF)
    (first : text[index]? = some (UInt8.ofNat (character.toNat / 4096 % 16 + 0xE0)))
    (second : text[index + 1]? = some (UInt8.ofNat (character.toNat / 64 % 64 + 0x80)))
    (third : text[index + 1 + 1]? = some (UInt8.ofNat (character.toNat % 64 + 0x80))) :
    ReadsChar text index 2 := by
  obtain ⟨_, lead⟩ := List.getElem?_eq_some_iff.mp first
  obtain ⟨within, _⟩ := List.getElem?_eq_some_iff.mp third
  have scalar := char_scalar character
  refine ⟨character.toNat / 4096, character.toNat, by omega, ?_, ?_, ?_⟩
  · -- The first byte has the mark of three, and the upper bits.
    have value : (character.toNat / 4096 % 16 + 0xE0) % 2 ^ 8 =
        character.toNat / 4096 + 0xE0 := by omega
    rw [leadByte_eq_some, lead, UInt8.toNat_ofNat', value]
    exact .inr (.inr (.inl ⟨by omega, by omega, rfl, by omega⟩))
  · -- The other two bring six bits each.
    have front : character.toNat / 4096 = character.toNat / 64 / 64 :=
      (Nat.div_div_eq_div_mul _ 64 64).symm
    rw [continuation_built second _ within, continuation_built third within within, continuation,
      front, Nat.div_add_mod', Nat.div_add_mod']
  · simp [refusedCodePoint]
    omega

/-- A character of four bytes is read in one turn. -/
theorem readsChar_four {text : Bytes} {index : Nat} {character : Char}
    (low : 0x10000 ≤ character.toNat)
    (first : text[index]? = some (UInt8.ofNat (character.toNat / 262144 % 8 + 0xF0)))
    (second : text[index + 1]? = some (UInt8.ofNat (character.toNat / 4096 % 64 + 0x80)))
    (third : text[index + 1 + 1]? = some (UInt8.ofNat (character.toNat / 64 % 64 + 0x80)))
    (fourth : text[index + 1 + 1 + 1]? = some (UInt8.ofNat (character.toNat % 64 + 0x80))) :
    ReadsChar text index 3 := by
  obtain ⟨_, lead⟩ := List.getElem?_eq_some_iff.mp first
  obtain ⟨within, _⟩ := List.getElem?_eq_some_iff.mp fourth
  have scalar := char_scalar character
  refine ⟨character.toNat / 262144, character.toNat, by omega, ?_, ?_, ?_⟩
  · have value : (character.toNat / 262144 % 8 + 0xF0) % 2 ^ 8 =
        character.toNat / 262144 + 0xF0 := by omega
    rw [leadByte_eq_some, lead, UInt8.toNat_ofNat', value]
    exact .inr (.inr (.inr ⟨by omega, by omega, rfl, by omega⟩))
  · -- Dividing by more is dividing by sixty-four again.
    have middle : character.toNat / 4096 = character.toNat / 64 / 64 :=
      (Nat.div_div_eq_div_mul _ 64 64).symm
    have front : character.toNat / 262144 = character.toNat / 64 / 64 / 64 := by
      rw [← middle, Nat.div_div_eq_div_mul]
    rw [continuation_built second _ within, continuation_built third _ within,
      continuation_built fourth within within, continuation, front, middle, Nat.div_add_mod',
      Nat.div_add_mod', Nat.div_add_mod']
  · simp [refusedCodePoint]
    omega

/-- The encoding of a character is read in one turn of the loop. -/
theorem readsChar_of_encodes {text : Bytes} {index : Nat} {character : Char} {rest : Bytes}
    (encoded : text.drop index = String.utf8EncodeChar character ++ rest) :
    ∃ count, ReadsChar text index count ∧ text.drop (index + (count + 1)) = rest := by
  have found : ∀ offset, text[index + offset]? =
      (String.utf8EncodeChar character ++ rest)[offset]? := by
    intro offset
    rw [← encoded, List.getElem?_drop]
  have after : ∀ count, (String.utf8EncodeChar character).length = count + 1 →
      text.drop (index + (count + 1)) = rest := by
    intro count size
    rw [← List.drop_drop, encoded, ← size, List.drop_left]
  -- The range of the code point decides which lead and how many bytes there are.
  by_cases one : character.toNat ≤ 0x7F
  · have own := utf8EncodeChar_one one
    rw [own] at found after
    exact ⟨0, readsChar_one one (found 0), after 0 rfl⟩
  · by_cases two : character.toNat ≤ 0x7FF
    · have own := utf8EncodeChar_two (by omega) two
      rw [own] at found after
      exact ⟨1, readsChar_two (by omega) two (found 0) (found 1), after 1 rfl⟩
    · by_cases three : character.toNat ≤ 0xFFFF
      · have own := utf8EncodeChar_three (by omega) three
        rw [own] at found after
        exact ⟨2, readsChar_three (by omega) three (found 0) (found 1) (found 2), after 2 rfl⟩
      · have large : 0x10000 ≤ character.toNat := by omega
        rw [utf8EncodeChar_four large] at found after
        exact ⟨3, readsChar_four large (found 0) (found 1) (found 2) (found 3), after 3 rfl⟩

/-- The loop accepts from a position exactly the texts that are well-formed from there on. -/
theorem validUtf8From_iff {text : Bytes} {fuel index : Nat}
    (enough : text.length ≤ index + fuel) :
    validUtf8From text fuel index = true ↔ WellFormedUtf8 (text.drop index) := by
  -- The induction is on the fuel, which every turn of the loop outpaces.
  induction fuel generalizing index with
  | zero =>
    have passed : text.length ≤ index := by omega
    simpa [validUtf8From, passed, List.drop_eq_nil_of_le passed] using wellFormedUtf8_nil
  | succ fuel ih =>
    by_cases inside : index < text.length
    · rw [validUtf8From_succ inside]
      constructor
      · intro turn
        obtain ⟨count, reads, rest⟩ := turn
        obtain ⟨character, encoded⟩ := reads.encodes
        obtain ⟨chars, later⟩ := (ih (by omega)).mp rest
        refine ⟨character :: chars, ?_⟩
        rw [encoded, later, encodeUtf8, encodeUtf8, List.flatMap_cons]
      · intro whole
        obtain ⟨chars, encoded⟩ := whole
        cases chars with
        | nil =>
          have none := congrArg List.length encoded
          simp [encodeUtf8] at none
          omega
        | cons character chars =>
          rw [encodeUtf8, List.flatMap_cons] at encoded
          obtain ⟨count, reads, rest⟩ := readsChar_of_encodes encoded
          exact ⟨count, reads, (ih (by omega)).mpr ⟨chars, rest⟩⟩
    · have passed : text.length ≤ index := by omega
      simpa [validUtf8From, passed, List.drop_eq_nil_of_le passed] using wellFormedUtf8_nil

/-- The check accepts exactly the well-formed texts. -/
theorem isValidUtf8_iff (text : Bytes) : isValidUtf8 text = true ↔ WellFormedUtf8 text := by
  -- The loop starts at the first byte with fuel for all of them.
  have loop : validUtf8From text text.length 0 = true ↔ WellFormedUtf8 (text.drop 0) :=
    validUtf8From_iff (by omega)
  rwa [List.drop_zero] at loop

/-! The check with its reads made through memory, where a read outside the text has no answer. -/

/-- Folding continuation bytes read from memory, absent as soon as one read has no answer. -/
def readContinuation (memory : Nat → Option UInt8) (position : Nat) :
    (count : Nat) → (codePoint : Nat) → Option (Option Nat)
  | 0, codePoint => some (some codePoint)
  | count + 1, codePoint => do
    let next ← memory position
    if next &&& 0xC0 ≠ 0x80 then some none
    else
      readContinuation memory (position + 1) count
        ((codePoint <<< 6) ||| (next &&& 0x3F).toNat)

/-- The loop over memory, absent as soon as one read has no answer. -/
def readUtf8From (memory : Nat → Option UInt8) (size : Nat) : Nat → Nat → Option Bool
  -- Without fuel the loop has passed the last byte.
  | 0, index => some (size ≤ index)
  | fuel + 1, index =>
    if index < size then do
      let first ← memory index
      match leadByte first with
      | none => some false
      | some (continuationCount, codePoint) =>
        if index + continuationCount ≥ size then some false
        else
          match ← readContinuation memory (index + 1) continuationCount codePoint with
          | none => some false
          | some codePoint =>
            if refusedCodePoint continuationCount codePoint then some false
            else readUtf8From memory size fuel (index + (continuationCount + 1))
    else some true

/-- The memory a text occupies: its bytes, and nothing at or past its end. -/
def textMemory (text : Bytes) (position : Nat) : Option UInt8 := text[position]?

/-- Continuation bytes inside the text are all answered. -/
theorem readContinuation_textMemory {text : Bytes} {position count codePoint : Nat}
    (inside : position + count ≤ text.length) :
    readContinuation (textMemory text) position count codePoint =
      some (continuation text position count codePoint inside) := by
  -- Each read is at the position the loop has reached.
  induction count generalizing position codePoint with
  | zero => rfl
  | succ count ih =>
    have answered : textMemory text position = some (text[position]) :=
      List.getElem?_eq_getElem _
    rw [readContinuation, continuation, answered]
    simp only [Option.bind_eq_bind, Option.bind_some]
    split
    · rfl
    · exact ih _

/-- Every read the loop makes is answered, and the verdict is that of the check. -/
theorem readUtf8From_textMemory {text : Bytes} {fuel index : Nat} :
    readUtf8From (textMemory text) text.length fuel index =
      some (validUtf8From text fuel index) := by
  -- The length test before the continuation bytes keeps their reads inside.
  induction fuel generalizing index with
  | zero => rfl
  | succ fuel ih =>
    rw [readUtf8From, validUtf8From]
    by_cases inside : index < text.length
    · have answered : textMemory text index = some text[index] := List.getElem?_eq_getElem _
      rw [if_pos inside, dif_pos inside, answered]
      simp only [Option.bind_eq_bind, Option.bind_some]
      cases lead : leadByte text[index] with
      | none => rfl
      | some found =>
        obtain ⟨count, bits⟩ := found
        by_cases short : index + count ≥ text.length
        · simp only [if_pos short, dif_pos short]
        · simp only [if_neg short, dif_neg short]
          rw [readContinuation_textMemory (by omega)]
          simp only [Option.bind_some]
          cases continuation text (index + 1) count bits (by omega) with
          | none => rfl
          | some codePoint =>
            by_cases refused : refusedCodePoint count codePoint = true
            · simp only [if_pos refused]
            · simp only [if_neg refused]
              exact ih
    · rw [if_neg inside, dif_neg inside]

/--
The check accepts exactly the texts that concatenate shortest encodings of scalar values.

Every read it makes lies inside the text, whatever the text is.
-/
theorem isValidUtf8_exact (text : Bytes) :
    (isValidUtf8 text = true ↔ ∃ chars : List Char, text = encodeUtf8 chars) ∧
      readUtf8From (textMemory text) text.length text.length 0 = some (isValidUtf8 text) :=
  -- The loop lemma and the reads of the loop, both from the first byte.
  ⟨isValidUtf8_iff text, readUtf8From_textMemory⟩

end LesChat
