import LesChat.Foundation.Bytes

/-! The UTF-8 check of message bodies, byte for byte. -/

namespace LesChat

open Foundation

/-- How many continuation bytes a lead byte announces, and the bits it contributes itself. -/
def leadByte (first : UInt8) : Option (Nat × Nat) :=
  -- The ranges exclude stray continuation bytes and leads that could only start overlong forms.
  if first ≤ 0x7F then some (0, first.toNat)
  else if 0xC2 ≤ first ∧ first ≤ 0xDF then some (1, (first &&& 0x1F).toNat)
  else if 0xE0 ≤ first ∧ first ≤ 0xEF then some (2, (first &&& 0x0F).toNat)
  else if 0xF0 ≤ first ∧ first ≤ 0xF4 then some (3, (first &&& 0x07).toNat)
  else none

/--
Folding the continuation bytes from a position into the code point.

Every byte is read through a bound, so no read can leave the text.
-/
def continuation (text : Bytes) (position : Nat) :
    (count : Nat) → (codePoint : Nat) → position + count ≤ text.length → Option Nat
  -- All announced bytes have been read.
  | 0, codePoint, _ => some codePoint
  | count + 1, codePoint, inside =>
    have within : position < text.length := by omega
    let next := text[position]
    if next &&& 0xC0 ≠ 0x80 then none
    else
      -- Each byte shifts six more bits in.
      continuation text (position + 1) count ((codePoint <<< 6) ||| (next &&& 0x3F).toNat) (by omega)

/-- Overlong forms, values above the Unicode range, and surrogates are refused. -/
def refusedCodePoint (continuationCount codePoint : Nat) : Bool :=
  (continuationCount == 2 && codePoint < 0x800) ||
    (continuationCount == 3 && codePoint < 0x10000) ||
    codePoint > 0x10FFFF || (0xD800 ≤ codePoint && codePoint ≤ 0xDFFF)

/-- The loop over the text, with fuel for every byte it can start at. -/
def validUtf8From (text : Bytes) : Nat → Nat → Bool
  -- Without fuel the loop has passed the last byte.
  | 0, index => text.length ≤ index
  | fuel + 1, index =>
    if inside : index < text.length then
      match leadByte text[index] with
      | none => false
      | some (continuationCount, codePoint) =>
        if short : index + continuationCount ≥ text.length then false
        else
          match continuation text (index + 1) continuationCount codePoint (by omega) with
          | none => false
          | some codePoint =>
            if refusedCodePoint continuationCount codePoint then false
            else validUtf8From text fuel (index + (continuationCount + 1))
    else true

/-- Whether a text is valid UTF-8. -/
def isValidUtf8 (text : Bytes) : Bool :=
  -- Every iteration moves past at least one byte.
  validUtf8From text text.length 0

/-- Plain ASCII text is valid UTF-8. -/
theorem isValidUtf8_ascii {text : Bytes} (plain : ∀ byte ∈ text, byte ≤ 0x7F) :
    isValidUtf8 text = true := by
  -- Every byte stands for itself, so the loop moves one byte at a time.
  have loop : ∀ fuel index, text.length ≤ index + fuel → validUtf8From text fuel index = true := by
    intro fuel
    induction fuel with
    | zero =>
      intro index enough
      simp only [validUtf8From, decide_eq_true_eq]
      omega
    | succ fuel ih =>
      intro index enough
      rw [validUtf8From]
      split
      · rename_i inside
        have small := plain text[index] (List.getElem_mem inside)
        have value : text[index].toNat ≤ 0x7F := by
          simpa [UInt8.le_iff_toNat_le] using small
        have lead : leadByte text[index] = some (0, text[index].toNat) := by
          simp only [leadByte, if_pos small]
        have admitted : refusedCodePoint 0 text[index].toNat = false := by
          simp [refusedCodePoint]
          omega
        have next := ih (index + 1) (by omega)
        simp only [lead, continuation, admitted]
        rw [dif_neg (by omega)]
        simpa using next
      · rfl
  exact loop text.length 0 (by omega)

end LesChat
