import Mathlib.Data.List.Lex
import LesChat.Foundation.Unicode

/-! Encoded text compared unit by unit: UTF-8 by code points, UTF-16 with surrogates in between. -/

namespace Foundation

/-! Codes that keep an order. -/

/-- Two texts differ within both of them, and the first is smaller there. -/
def DiffersBelow (left right : List Nat) : Prop :=
  ∃ front first second leftRest rightRest, left = front ++ first :: leftRest ∧
    right = front ++ second :: rightRest ∧ first < second

/-- A difference in the first unit. -/
theorem DiffersBelow.head {first second : Nat} (less : first < second) (left right : List Nat) :
    DiffersBelow (first :: left) (second :: right) :=
  -- There is no common front.
  ⟨[], first, second, left, right, rfl, rfl, less⟩

/-- A difference behind the first unit. -/
theorem DiffersBelow.tail {first second : Nat} (same : first = second) {left right : List Nat}
    (later : DiffersBelow left right) : DiffersBelow (first :: left) (second :: right) := by
  -- The same first unit lengthens the common front.
  obtain ⟨front, low, high, leftRest, rightRest, leftSame, rightSame, less⟩ := later
  refine ⟨first :: front, low, high, leftRest, rightRest, ?_, ?_, less⟩
  · rw [leftSame, List.cons_append]
  · rw [rightSame, same, List.cons_append]

/-- Texts with the same beginning compare as what follows it. -/
theorem append_lt_append_iff (front left right : List Nat) :
    front ++ left < front ++ right ↔ left < right := by
  -- The induction follows the common front.
  induction front with
  | nil => rfl
  | cons unit rest ih => simp [ih]

/-- Texts that differ early compare by that difference, whatever follows. -/
theorem DiffersBelow.lt {left right : List Nat} (differs : DiffersBelow left right)
    (leftRest rightRest : List Nat) : left ++ leftRest < right ++ rightRest := by
  -- Up to the first difference the lists are the same, and behind it nothing matters.
  obtain ⟨front, first, second, leftTail, rightTail, leftSame, rightSame, less⟩ := differs
  rw [leftSame, rightSame, List.append_assoc, List.append_assoc, append_lt_append_iff,
    List.cons_append, List.cons_append, List.cons_lt_cons_iff]
  exact .inl less

/-- Codes of symbols that compare, unit by unit, as the ranks of the symbols do. -/
structure KeepsOrder {α : Type*} (code : α → List Nat) (rank : α → Nat) : Prop where
  /-- Every symbol has a code. -/
  nonempty : ∀ symbol, code symbol ≠ []
  /-- Symbols with the same rank are the same. -/
  injective : Function.Injective rank
  /-- Codes of different symbols differ within both of them. -/
  below : ∀ left right, rank left < rank right → DiffersBelow (code left) (code right)

/-- Coded texts compare as the ranks of their symbols. -/
theorem KeepsOrder.flatMap_lt_iff {α : Type*} {code : α → List Nat} {rank : α → Nat}
    (keeps : KeepsOrder code rank) (left right : List α) :
    left.flatMap code < right.flatMap code ↔ left.map rank < right.map rank := by
  -- The induction takes one symbol off both texts, as long as they agree.
  induction left generalizing right with
  | nil =>
    cases right with
    | nil => simp
    | cons symbol rest =>
      obtain ⟨unit, units, same⟩ := List.exists_cons_of_ne_nil (keeps.nonempty symbol)
      simp [same]
  | cons first left ih =>
    cases right with
    | nil => simp
    | cons second right =>
      rw [List.flatMap_cons, List.flatMap_cons, List.map_cons, List.map_cons,
        List.cons_lt_cons_iff]
      rcases Nat.lt_trichotomy (rank first) (rank second) with less | same | greater
      · exact iff_of_true ((keeps.below first second less).lt _ _) (.inl less)
      · rw [keeps.injective same, append_lt_append_iff, ih]
        simp
      · have other := (keeps.below second first greater).lt (right.flatMap code)
          (left.flatMap code)
        refine iff_of_false (fun less => lt_asymm less other) ?_
        omega

/-- Coded texts tell the texts apart. -/
theorem KeepsOrder.flatMap_injective {α : Type*} {code : α → List Nat} {rank : α → Nat}
    (keeps : KeepsOrder code rank) : Function.Injective (List.flatMap code) := by
  -- Equal codes leave neither text smaller than the other.
  intro left right same
  have notLess : ¬left.map rank < right.map rank := by
    rw [← keeps.flatMap_lt_iff, same]
    exact lt_irrefl _
  have notGreater : ¬right.map rank < left.map rank := by
    rw [← keeps.flatMap_lt_iff, same]
    exact lt_irrefl _
  have ranks := le_antisymm (le_of_not_gt notGreater) (le_of_not_gt notLess)
  exact List.map_injective_iff.mpr keeps.injective ranks

/-! UTF-8 keeps the order of code points. -/

/-- The code units of a character in UTF-8, as numbers. -/
def utf8Code (character : Char) : List Nat := (String.utf8EncodeChar character).map UInt8.toNat

/-- The code of a character is one of four forms, by its range. -/
theorem utf8Code_eq (character : Char) : utf8Code character =
    let code := character.toNat
    if code ≤ 0x7F then [code]
    else if code ≤ 0x7FF then [code / 64 + 0xC0, code % 64 + 0x80]
    else if code ≤ 0xFFFF then [code / 4096 + 0xE0, code / 64 % 64 + 0x80, code % 64 + 0x80]
    else [code / 262144 + 0xF0, code / 4096 % 64 + 0x80, code / 64 % 64 + 0x80,
      code % 64 + 0x80] := by
  -- The four cases of the encoder, each of whose bytes fits its mark.
  have scalar := char_scalar character
  dsimp only
  split
  · rename_i one
    simp only [utf8Code, utf8EncodeChar_one one, List.map_cons, List.map_nil, UInt8.toNat_ofNat',
      List.cons.injEq, and_true]
    omega
  · split
    · rename_i two
      rw [utf8Code, utf8EncodeChar_two (by omega) two]
      simp only [List.map_cons, List.map_nil, UInt8.toNat_ofNat', List.cons.injEq, and_true]
      omega
    · split
      · rename_i three
        rw [utf8Code, utf8EncodeChar_three (by omega) three]
        simp only [List.map_cons, List.map_nil, UInt8.toNat_ofNat', List.cons.injEq, and_true]
        omega
      · rw [utf8Code, utf8EncodeChar_four (by omega)]
        simp only [List.map_cons, List.map_nil, UInt8.toNat_ofNat', List.cons.injEq, and_true]
        omega

/-- Equal code points are the same character. -/
theorem char_toNat_injective : Function.Injective Char.toNat := fun _ _ => Char.toNat_inj.mp

/-- A smaller code point has a smaller code. -/
theorem utf8Code_below {left right : Char} (less : left.toNat < right.toNat) :
    DiffersBelow (utf8Code left) (utf8Code right) := by
  have scalar := char_scalar right
  rw [utf8Code_eq, utf8Code_eq]
  -- Leads of different lengths lie in different ranges; otherwise the first difference decides.
  dsimp only
  by_cases leftOne : left.toNat ≤ 0x7F
  · rw [if_pos leftOne]
    split
    · exact .head less _ _
    · split
      · exact .head (by omega) _ _
      · split
        · exact .head (by omega) _ _
        · exact .head (by omega) _ _
  · rw [if_neg leftOne, if_neg (by omega : ¬right.toNat ≤ 0x7F)]
    by_cases leftTwo : left.toNat ≤ 0x7FF
    · rw [if_pos leftTwo]
      split
      · by_cases lead : left.toNat / 64 + 0xC0 = right.toNat / 64 + 0xC0
        · exact .tail lead (.head (by omega) _ _)
        · exact .head (by omega) _ _
      · split
        · exact .head (by omega) _ _
        · exact .head (by omega) _ _
    · rw [if_neg leftTwo, if_neg (by omega : ¬right.toNat ≤ 0x7FF)]
      by_cases leftThree : left.toNat ≤ 0xFFFF
      · rw [if_pos leftThree]
        split
        · by_cases lead : left.toNat / 4096 + 0xE0 = right.toNat / 4096 + 0xE0
          · by_cases second : left.toNat / 64 % 64 + 0x80 = right.toNat / 64 % 64 + 0x80
            · exact .tail lead (.tail second (.head (by omega) _ _))
            · exact .tail lead (.head (by omega) _ _)
          · exact .head (by omega) _ _
        · exact .head (by omega) _ _
      · rw [if_neg leftThree, if_neg (by omega : ¬right.toNat ≤ 0xFFFF)]
        by_cases lead : left.toNat / 262144 + 0xF0 = right.toNat / 262144 + 0xF0
        · by_cases second : left.toNat / 4096 % 64 + 0x80 = right.toNat / 4096 % 64 + 0x80
          · by_cases third : left.toNat / 64 % 64 + 0x80 = right.toNat / 64 % 64 + 0x80
            · exact .tail lead (.tail second (.tail third (.head (by omega) _ _)))
            · exact .tail lead (.tail second (.head (by omega) _ _))
          · exact .tail lead (.head (by omega) _ _)
        · exact .head (by omega) _ _

/-- UTF-8 keeps the order of code points. -/
theorem utf8Code_keepsOrder : KeepsOrder utf8Code Char.toNat where
  nonempty character := by simp [utf8Code]
  injective := char_toNat_injective
  below _ _ := utf8Code_below

/-! UTF-16 puts the characters outside the basic plane before its last ones. -/

/-- The code units of a character in UTF-16, as numbers. -/
def utf16Code (character : Char) : List Nat := (utf16Units character).map UInt16.toNat

/-- Where UTF-16 puts a character: surrogates lie below the last part of the basic plane. -/
def utf16Rank (character : Char) : Nat :=
  if character.toNat < 0xE000 then character.toNat
  else if character.toNat < 0x10000 then character.toNat + 0x100000
  else character.toNat - 0x10000 + 0xE000

/-- The code of a character has one unit or two. -/
theorem utf16Code_eq (character : Char) : utf16Code character =
    let code := character.toNat
    if code < 0x10000 then [code]
    else [0xD800 + (code - 0x10000) / 0x400, 0xDC00 + (code - 0x10000) % 0x400] := by
  -- One unit, or two from the ranges of the surrogates.
  have scalar := char_scalar character
  unfold utf16Code utf16Units
  dsimp only
  split
  · simp only [List.map_cons, List.map_nil, UInt16.toNat_ofNat', List.cons.injEq, and_true]
    omega
  · simp only [List.map_cons, List.map_nil, UInt16.toNat_ofNat', List.cons.injEq, and_true]
    omega

/-- The rank tells characters apart. -/
theorem utf16Rank_injective : Function.Injective utf16Rank := by
  -- Each range of characters keeps to a range of ranks.
  intro left right same
  have leftScalar := char_scalar left
  have rightScalar := char_scalar right
  apply char_toNat_injective
  unfold utf16Rank at same
  split at same <;> split at same <;> (try split at same) <;> (try split at same) <;> omega

/-- A smaller rank has a smaller code. -/
theorem utf16Code_below {left right : Char} (less : utf16Rank left < utf16Rank right) :
    DiffersBelow (utf16Code left) (utf16Code right) := by
  have leftScalar := char_scalar left
  have rightScalar := char_scalar right
  rw [utf16Code_eq, utf16Code_eq]
  unfold utf16Rank at less
  dsimp only
  -- A lead surrogate lies between the two parts of the basic plane.
  by_cases leftBasic : left.toNat < 0x10000
  · rw [if_pos leftBasic]
    split
    · refine .head ?_ _ _
      split at less <;> split at less <;> omega
    · refine .head ?_ _ _
      split at less <;> split at less <;> omega
  · rw [if_neg leftBasic]
    split
    · refine .head ?_ _ _
      split at less <;> split at less <;> omega
    · rw [if_neg (by omega), if_neg (by omega), if_neg (by omega), if_neg (by omega)] at less
      by_cases lead : 0xD800 + (left.toNat - 0x10000) / 0x400 =
          0xD800 + (right.toNat - 0x10000) / 0x400
      · exact .tail lead (.head (by omega) _ _)
      · exact .head (by omega) _ _

/-- UTF-16 keeps the order of ranks. -/
theorem utf16Code_keepsOrder : KeepsOrder utf16Code utf16Rank where
  nonempty character := by
    -- There is at least one unit.
    rw [utf16Code_eq]
    dsimp only
    split <;> simp
  injective := utf16Rank_injective
  below _ _ := utf16Code_below

/-! Where the two orders agree. -/

/-- The first place where two sequences differ within both of them. -/
def firstDifference {α : Type*} [DecidableEq α] : List α → List α → Option (α × α)
  | first :: left, second :: right =>
    if first = second then firstDifference left right else some (first, second)
  -- One of them begins the other.
  | _, _ => none

/-- Two rankings order two sequences alike exactly when they do so where these first differ. -/
theorem map_lt_alike_iff {α : Type*} [DecidableEq α] {first second : α → Nat}
    (firstInjective : Function.Injective first) (secondInjective : Function.Injective second)
    (left right : List α) :
    (left.map first < right.map first ↔ left.map second < right.map second) ↔
      ∀ low high, firstDifference left right = some (low, high) →
        (first low < first high ↔ second low < second high) := by
  -- The induction takes equal symbols off both sequences.
  induction left generalizing right with
  | nil => cases right <;> simp [firstDifference]
  | cons low left ih =>
    cases right with
    | nil => simp [firstDifference]
    | cons high right =>
      by_cases same : low = high
      · subst same
        simp [firstDifference, ← ih]
      · have firstApart : first low ≠ first high := fun equal => same (firstInjective equal)
        have secondApart : second low ≠ second high := fun equal => same (secondInjective equal)
        simp [firstDifference, same, List.cons_lt_cons_iff, firstApart, secondApart]

/-- One character is outside the basic plane, and the other in the part behind the surrogates. -/
def Mixed (left right : Char) : Prop :=
  0x10000 ≤ left.toNat ∧ 0xE000 ≤ right.toNat ∧ right.toNat < 0x10000 ∨
    0x10000 ≤ right.toNat ∧ 0xE000 ≤ left.toNat ∧ left.toNat < 0x10000

/-- Whether characters are mixed can be computed. -/
instance (left right : Char) : Decidable (Mixed left right) :=
  inferInstanceAs (Decidable (_ ∨ _))

/-- UTF-16 and UTF-8 order two characters differently exactly when they are mixed. -/
theorem rank_alike_iff (left right : Char) :
    (utf16Rank left < utf16Rank right ↔ left.toNat < right.toNat) ↔ ¬Mixed left right := by
  -- The ranks differ from the code points only above the surrogates.
  unfold utf16Rank Mixed
  have leftScalar := char_scalar left
  have rightScalar := char_scalar right
  split <;> split <;> (try split) <;> (try split) <;> omega

/-- Code units of a text, character by character. -/
theorem map_encodeUtf16 (text : List Char) :
    (encodeUtf16 text).map UInt16.toNat = text.flatMap utf16Code := List.map_flatMap

/-- Bytes of a text, character by character. -/
theorem map_encodeUtf8 (text : List Char) :
    (encodeUtf8 text).map UInt8.toNat = text.flatMap utf8Code := List.map_flatMap

/-- UTF-16 tells texts apart. -/
theorem encodeUtf16_injective : Function.Injective encodeUtf16 := by
  -- The units of a character end where those of the next one begin.
  intro left right same
  apply utf16Code_keepsOrder.flatMap_injective
  rw [← map_encodeUtf16, ← map_encodeUtf16, same]

/--
Comparing the UTF-16 encodings of two texts by code units gives the order of their UTF-8 encodings
by bytes exactly when the characters at which the texts first differ are not mixed.
-/
theorem encodeUtf16_lt_alike_iff (left right : List Char) :
    ((encodeUtf16 left).map UInt16.toNat < (encodeUtf16 right).map UInt16.toNat ↔
        (encodeUtf8 left).map UInt8.toNat < (encodeUtf8 right).map UInt8.toNat) ↔
      ∀ low high, firstDifference left right = some (low, high) → ¬Mixed low high := by
  -- Both encodings keep an order of the characters, and the first difference decides.
  rw [map_encodeUtf16, map_encodeUtf16, map_encodeUtf8, map_encodeUtf8,
    utf16Code_keepsOrder.flatMap_lt_iff, utf8Code_keepsOrder.flatMap_lt_iff,
    map_lt_alike_iff utf16Rank_injective char_toNat_injective]
  simp only [rank_alike_iff]

/-! Texts that are read up to a NUL. -/

/-- The characters before the first NUL character. -/
def untilNul (text : List Char) : List Char := text.takeWhile fun character => character.toNat != 0

/-- Nothing stands before a NUL at the front. -/
theorem untilNul_cons_zero {character : Char} (zero : character.toNat = 0) (rest : List Char) :
    untilNul (character :: rest) = [] := by
  -- The text ends at its first character.
  simp [untilNul, zero]

/-- Any other character is kept. -/
theorem untilNul_cons {character : Char} (nonzero : character.toNat ≠ 0) (rest : List Char) :
    untilNul (character :: rest) = character :: untilNul rest := by
  -- The character is kept, and the rest is searched.
  simp [untilNul, nonzero]

/-- Only the NUL character has a zero byte in its encoding. -/
theorem zero_mem_utf8EncodeChar {character : Char} (member : 0 ∈ String.utf8EncodeChar character) :
    character.toNat = 0 := by
  -- A byte that is ASCII stands alone, so it is the whole character.
  have alone := utf8EncodeChar_of_ascii_mem (by decide) member
  have same : [character] = [Char.ofNat 0] := by
    apply utf8Code_keepsOrder.flatMap_injective
    simp only [List.flatMap_cons, List.flatMap_nil, utf8Code, alone]
    rfl
  rw [List.singleton_inj.mp same]
  rfl

/-- Reading a text up to a NUL keeps the characters before the NUL character. -/
theorem cString_encodeUtf8 (text : List Char) :
    cString (encodeUtf8 text) = encodeUtf8 (untilNul text) := by
  -- The induction follows the characters, of which only NUL has a zero byte.
  induction text with
  | nil => rfl
  | cons character rest ih =>
    by_cases zero : character.toNat = 0
    · have byte : String.utf8EncodeChar character = [0] := by
        rw [utf8EncodeChar_one (by omega), zero]
        rfl
      rw [untilNul_cons_zero zero, encodeUtf8, List.flatMap_cons, byte]
      rfl
    · have nonzero : ∀ byte ∈ String.utf8EncodeChar character, (byte != 0) = true := by
        intro byte member
        rw [bne_iff_ne]
        intro same
        exact zero (zero_mem_utf8EncodeChar (same ▸ member))
      rw [untilNul_cons zero, encodeUtf8, encodeUtf8, List.flatMap_cons, List.flatMap_cons, cString,
        List.takeWhile_append_of_pos nonzero]
      exact congrArg _ ih

/-- Texts that differ before their NUL characters first differ there. -/
theorem firstDifference_untilNul (left right : List Char) (apart : untilNul left ≠ untilNul right) :
    (∀ low high, firstDifference (untilNul left) (untilNul right) = some (low, high) →
        ¬Mixed low high) ↔
      ∀ low high, firstDifference left right = some (low, high) → ¬Mixed low high := by
  -- The NUL character is in the basic plane, and in its first part.
  induction left generalizing right with
  | nil => simp [untilNul, firstDifference]
  | cons low left ih =>
    cases right with
    | nil => simp [untilNul, firstDifference]
    | cons high right =>
      by_cases same : low = high
      · subst same
        by_cases zero : low.toNat = 0
        · exact absurd (by rw [untilNul_cons_zero zero, untilNul_cons_zero zero]) apart
        · rw [untilNul_cons zero, untilNul_cons zero] at apart ⊢
          have later := ih right fun equal => apart (congrArg _ equal)
          simpa only [firstDifference, if_true] using later
      · by_cases lowZero : low.toNat = 0
        · rw [untilNul_cons_zero lowZero]
          simp [firstDifference, same, Mixed, lowZero]
        · by_cases highZero : high.toNat = 0
          · rw [untilNul_cons_zero highZero, untilNul_cons lowZero]
            simp [firstDifference, same, Mixed, highZero]
          · rw [untilNul_cons lowZero, untilNul_cons highZero]
            simp [firstDifference, same]

/-- Texts that differ before their NUL bytes compare as what stands before these. -/
theorem bytesLess_cString {left right : Bytes} (apart : cString left ≠ cString right) :
    bytesLess (cString left) (cString right) ↔ bytesLess left right := by
  -- No byte is below the terminator.
  induction left generalizing right with
  | nil =>
    cases right with
    | nil => exact absurd rfl apart
    | cons high right =>
      by_cases zero : high = 0
      · subst zero
        exact absurd rfl apart
      · simp [cString, bytesLess, zero]
  | cons low left ih =>
    cases right with
    | nil => simp [bytesLess, cString]
    | cons high right =>
      have positive : ∀ byte : UInt8, byte ≠ 0 → 0 < byte.toNat := fun byte nonzero =>
        Nat.pos_of_ne_zero fun zero => nonzero (UInt8.toNat_inj.mp zero)
      by_cases lowZero : low = 0
      · subst lowZero
        by_cases highZero : high = 0
        · subst highZero
          exact absurd rfl apart
        · simp [cString, bytesLess, highZero, List.cons_lt_cons_iff, positive high highZero]
      · by_cases highZero : high = 0
        · subst highZero
          have less := positive low lowZero
          have different : ¬low.toNat = 0 := by omega
          simp [cString, bytesLess, lowZero, List.cons_lt_cons_iff, different,
            -not_lt]
        · -- The front is kept on both sides.
          have lowKept : cString (low :: left) = low :: cString left := by simp [cString, lowZero]
          have highKept : cString (high :: right) = high :: cString right := by
            simp [cString, highZero]
          rw [lowKept, highKept] at apart ⊢
          unfold bytesLess at ih ⊢
          rw [List.map_cons, List.map_cons, List.map_cons, List.map_cons, List.cons_lt_cons_iff,
            List.cons_lt_cons_iff]
          by_cases same : low = high
          · subst same
            rw [ih fun equal => apart (congrArg _ equal)]
          · have different : low.toNat ≠ high.toNat := fun equal => same (UInt8.toNat_inj.mp equal)
            simp [different]

end Foundation
