import LesChat.Foundation.Double

/-! The decimal texts of numbers, as a script writes and reads them. -/

namespace Foundation

/-- ASCII text as code units. -/
def asciiUnits (text : Bytes) : List UInt16 := text.map UInt8.toUInt16

/-- The two multiples of a unit around a number, the nearer one first. -/
def multiplesAround (unit value : Nat) : List Nat :=
  let down := value / unit * unit
  if nearestMultiple unit value = down then [down, down + unit] else [down + unit, down]

/-- The roundest integer that is read as a number, down from a power of ten. -/
def shortestFrom (value : Nat) : (power : Nat) → Nat
  -- The number itself is always read as itself.
  | 0 => value
  | power + 1 =>
    -- More zeros at the end leave fewer digits.
    match (multiplesAround (10 ^ (power + 1)) value).find? fun candidate =>
        roundNat candidate = value with
    | some candidate => candidate
    | none => shortestFrom value power

/-- `String` of a number whose text has no exponent: as few digits as identify it, then zeros. -/
def numberText (number : Double) : List UInt16 :=
  match number.value with
  | .ofNat value => asciiUnits (decimal (shortestFrom value 20))
  | .negSucc value => 0x2D :: asciiUnits (decimal (shortestFrom (value + 1) 20))

/-- Whether a code unit is one of the ten ASCII digits. -/
def isDigitUnit (unit : UInt16) : Bool := 0x30 ≤ unit && unit ≤ 0x39

/-- The number a run of digits denotes. -/
def digitsValue (digits : List UInt16) : Nat :=
  digits.foldl (fun value digit => 10 * value + (digit.toNat - 0x30)) 0

/-- `Number` of a text without a fraction or an exponent, absent when the text is no number. -/
def textNumber (text : List UInt16) : Option Double :=
  match text with
  -- The empty text counts as zero.
  | [] => some (Double.ofInt 0)
  | first :: rest =>
    if first = 0x2D then
      if rest ≠ [] ∧ rest.all isDigitUnit then some (Double.ofInt (-(digitsValue rest : Int)))
      else none
    else if text.all isDigitUnit then some (Double.ofInt (digitsValue text)) else none

/-- What is chosen as the text of a number is read as that number. -/
theorem roundNat_shortestFrom {value : Nat} (rounded : roundNat value = value) (power : Nat) :
    roundNat (shortestFrom value power) = value := by
  -- The induction is on the power of ten; every candidate taken was tested.
  induction power with
  | zero => exact rounded
  | succ power ih =>
    rw [shortestFrom]
    split
    · rename_i candidate found
      simpa using List.find?_some found
    · exact ih

/-- A numeral is not empty, consists of digits and denotes its number, also as code units. -/
theorem asciiUnits_decimal (value : Nat) :
    asciiUnits (decimal value) ≠ [] ∧ (asciiUnits (decimal value)).all isDigitUnit = true ∧
      digitsValue (asciiUnits (decimal value)) = value := by
  refine ⟨by simp [asciiUnits, decimal_ne_nil], ?_, ?_⟩
  · rw [asciiUnits, List.all_eq_true]
    intro unit member
    obtain ⟨digit, inNumeral, same⟩ := List.mem_map.mp member
    obtain ⟨low, high⟩ := (isDigit_iff digit).mp (isDigit_of_mem_decimal inNumeral)
    rw [← same]
    simp only [isDigitUnit, Bool.and_eq_true, decide_eq_true_eq, UInt16.le_iff_toNat_le,
      UInt8.toNat_toUInt16]
    exact ⟨low, high⟩
  · -- A digit has the same code as a byte and as a unit.
    have same : digitsValue (asciiUnits (decimal value)) = decimalValue (decimal value) := by
      rw [digitsValue, asciiUnits, List.foldl_map]
      rfl
    rw [same, decimalValue_decimal]

/-- A run of digits is read as the number it denotes. -/
theorem textNumber_digits {text : List UInt16} (nonempty : text ≠ [])
    (digits : text.all isDigitUnit = true) :
    textNumber text = some (Double.ofInt (digitsValue text)) := by
  cases text with
  | nil => exact absurd rfl nonempty
  | cons first rest =>
    -- A minus sign is no digit.
    have noSign : first ≠ 0x2D := by
      intro same
      rw [same] at digits
      exact absurd (List.all_eq_true.mp digits 0x2D (by simp)) (by decide)
    rw [textNumber, if_neg noSign, if_pos digits]

/-- A number is read back from its own text. -/
theorem textNumber_numberText (number : Double) : textNumber (numberText number) = some number := by
  -- The shortest digits denote a number that is rounded to the one written.
  obtain ⟨value, rounded⟩ := number
  cases value with
  | ofNat value =>
    have natural : roundNat value = value := Int.ofNat.inj rounded
    obtain ⟨nonempty, digits, denoted⟩ := asciiUnits_decimal (shortestFrom value 20)
    have read := textNumber_digits nonempty digits
    rw [denoted] at read
    refine read.trans (congrArg some (Double.ext ?_))
    exact congrArg Int.ofNat (roundNat_shortestFrom natural 20)
  | negSucc value =>
    have negative : roundInt (Int.negSucc value) = -(roundNat (value + 1) : Int) := rfl
    have natural : roundNat (value + 1) = value + 1 := by
      rw [negative] at rounded
      omega
    obtain ⟨nonempty, digits, denoted⟩ := asciiUnits_decimal (shortestFrom (value + 1) 20)
    simp only [numberText, textNumber, if_pos, nonempty, digits, denoted, ne_eq, not_false_eq_true,
      and_self, Option.some.injEq]
    refine Double.ext ?_
    simp only [Double.ofInt]
    rw [roundInt_neg, roundNat_shortestFrom natural 20]
    rfl

end Foundation
