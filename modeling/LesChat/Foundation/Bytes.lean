import Mathlib.Algebra.Order.Ring.Int
import Mathlib.Algebra.Order.Ring.Nat
import Mathlib.Data.List.Basic
import Mathlib.Data.List.TakeWhile

/-! Byte strings, C-string truncation, and decimal numerals. -/

namespace Foundation

/-- A counted byte string: its length is explicit, so any byte may occur in it. -/
abbrev Bytes := List UInt8

/-- The bytes of an ASCII literal. -/
def ascii (text : String) : Bytes :=
  -- Every character of such a literal is its own byte.
  text.toList.map fun character => UInt8.ofNat character.toNat

/-- What a function taking a C string sees of a counted one: everything before the first NUL. -/
def cString (text : Bytes) : Bytes :=
  -- The terminator is the first zero byte, wherever the counted string ends.
  text.takeWhile (· != 0)

/-- A text without a NUL byte survives being read as a C string. -/
theorem cString_of_noNul {text : Bytes} (noNul : 0 ∉ text) : cString text = text := by
  -- No byte stops the prefix early.
  unfold cString
  rw [List.takeWhile_eq_self_iff]
  intro byte member
  simp only [bne_iff_ne, ne_eq]
  intro same
  subst same
  exact noNul member

/-- A C string never contains its own terminator. -/
theorem zero_notMem_cString (text : Bytes) : 0 ∉ cString text := by
  -- Every byte of the prefix passed the test that excludes zero.
  intro member
  simpa using List.mem_takeWhile_imp member

/-- Truncation at a NUL never lengthens a text. -/
theorem cString_length_le (text : Bytes) : (cString text).length ≤ text.length :=
  -- A prefix is at most as long as what it was taken from.
  (List.takeWhile_prefix _).length_le

/-- The order `std::string` compares by: lexicographic on unsigned bytes. -/
def bytesLess (left right : Bytes) : Prop :=
  -- Bytes are compared by value, and a proper prefix comes first.
  left.map UInt8.toNat < right.map UInt8.toNat

/-- Comparing two byte strings can be evaluated. -/
instance (left right : Bytes) : Decidable (bytesLess left right) :=
  inferInstanceAs (Decidable (left.map UInt8.toNat < right.map UInt8.toNat))

/-- A byte string is determined by the values of its bytes. -/
theorem map_toNat_injective : Function.Injective (List.map UInt8.toNat) :=
  -- Each byte is determined by its value, so each position is.
  List.map_injective_iff.mpr fun _ _ same => UInt8.toNat_inj.mp same

/-! Decimal numerals, as `std::to_string` and the JSON serializer write them. -/

/-- The decimal numeral of a natural number. -/
def decimal (value : Nat) : Bytes :=
  -- Digits come most significant first, without leading zeros.
  (Nat.toDigits 10 value).map fun digit => UInt8.ofNat digit.toNat

/-- The decimal numeral of an integer, with a minus sign on negative values. -/
def decimalInt : Int → Bytes
  -- A nonnegative integer is written as the natural number it is.
  | .ofNat value => decimal value
  | .negSucc value => 0x2D :: decimal (value + 1)

/-- The number a run of digits denotes. -/
def decimalValue (digits : Bytes) : Nat :=
  -- Each further digit multiplies what was read by ten.
  digits.foldl (fun value digit => 10 * value + (digit.toNat - 0x30)) 0

/-- Whether a byte is one of the ten ASCII digits. -/
def isDigit (byte : UInt8) : Bool := 0x30 ≤ byte && byte ≤ 0x39

/-- An ASCII digit has a code between those of zero and nine. -/
theorem isDigit_iff (byte : UInt8) :
    isDigit byte = true ↔ 0x30 ≤ byte.toNat ∧ byte.toNat ≤ 0x39 := by
  -- Byte comparison is comparison of values.
  simp [isDigit, UInt8.le_iff_toNat_le]

/-- A decimal digit character is below the byte limit, so writing it as a byte loses nothing. -/
private theorem digit_toNat {value : Nat} {digit : Char} (member : digit ∈ Nat.toDigits 10 value) :
    0x30 ≤ digit.toNat ∧ digit.toNat ≤ 0x39 := by
  -- Every character of a numeral is a decimal digit.
  have isDigit := Nat.isDigit_of_mem_toDigits (by decide) (by decide) member
  simp only [Char.isDigit, Bool.and_eq_true, decide_eq_true_eq, ge_iff_le,
    UInt32.le_iff_toNat_le] at isDigit
  exact isDigit

/-- A numeral consists of ASCII digits. -/
theorem isDigit_of_mem_decimal {value : Nat} {byte : UInt8} (member : byte ∈ decimal value) :
    isDigit byte = true := by
  -- Each byte is the code of a digit character.
  obtain ⟨digit, inDigits, rfl⟩ := List.mem_map.mp member
  obtain ⟨low, high⟩ := digit_toNat inDigits
  rw [isDigit_iff, UInt8.toNat_ofNat']
  omega

/-- A numeral is never empty. -/
theorem decimal_ne_nil (value : Nat) : decimal value ≠ [] := by
  -- Even zero is written with one digit.
  simp [decimal]

/-- A numeral denotes the number it was written for. -/
theorem decimalValue_decimal (value : Nat) : decimalValue (decimal value) = value := by
  -- Folding over the bytes is folding over the digit characters they came from.
  have digits : ∀ (characters : List Char) (start : Nat),
      (∀ character ∈ characters, character.toNat ≤ 0x39) →
      (characters.map fun digit => UInt8.ofNat digit.toNat).foldl
        (fun value digit => 10 * value + (digit.toNat - 0x30)) start =
        Nat.ofDigitChars 10 characters start := by
    intro characters
    induction characters with
    | nil => intro start _; rfl
    | cons character rest ih =>
      intro start small
      have bound := small character (by simp)
      have code : (UInt8.ofNat character.toNat).toNat = character.toNat := by
        rw [UInt8.toNat_ofNat']; omega
      simp only [List.map_cons, List.foldl_cons, Nat.ofDigitChars_cons, code]
      exact ih _ fun other member => small other (by simp [member])
  have codes := digits (Nat.toDigits 10 value) 0 fun character member => (digit_toNat member).2
  rw [decimalValue, decimal, codes]
  exact Nat.ofDigitChars_ten_toDigits

/-- Different numbers have different numerals. -/
theorem decimal_injective : Function.Injective decimal := by
  -- Reading a numeral back recovers its number.
  intro left right same
  rw [← decimalValue_decimal left, same, decimalValue_decimal]

/-- A number below a power of ten is written with at most that many digits. -/
theorem decimal_length_le {value digits : Nat} (positive : 0 < digits)
    (bound : value < 10 ^ digits) : (decimal value).length ≤ digits := by
  -- Writing digits as bytes keeps their count.
  rw [decimal, List.length_map]
  exact (Nat.length_toDigits_le_iff (by decide) positive).mpr bound

end Foundation
