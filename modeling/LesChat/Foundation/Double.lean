import Mathlib.Algebra.Order.Ring.Int
import Mathlib.Algebra.Order.Ring.Nat
import LesChat.Foundation.Bytes

/-! Integers as binary64 numbers: rounding to the nearest, and what it keeps. -/

namespace Foundation

/-- The distance of neighbouring binary64 numbers around a natural number, at least one. -/
def doubleUnit (value : Nat) : Nat :=
  -- A significand has 53 bits, so numbers below two to the 53 are all there.
  2 ^ (value.log2 - 52)

/-- The nearest multiple of a unit, the even one of two that are equally near. -/
def nearestMultiple (unit value : Nat) : Nat :=
  let rest := value % unit
  if rest * 2 < unit ∨ rest * 2 = unit ∧ value / unit % 2 = 0 then value / unit * unit
  else (value / unit + 1) * unit

/-- The nearest binary64 number of a natural number. -/
def roundNat (value : Nat) : Nat := nearestMultiple (doubleUnit value) value

/-- The nearest binary64 number of an integer, which rounds as its absolute value does. -/
def roundInt : Int → Int
  | .ofNat value => roundNat value
  | .negSucc value => -(roundNat (value + 1) : Int)

/-! Rounding to a grid. -/

/-- A unit is positive. -/
theorem doubleUnit_pos (value : Nat) : 0 < doubleUnit value := Nat.two_pow_pos _

/-- A multiple of the unit is its own nearest. -/
theorem nearestMultiple_of_dvd {unit value : Nat} (positive : 0 < unit) (divides : unit ∣ value) :
    nearestMultiple unit value = value := by
  -- There is no rest, so the division takes nothing away.
  have rest : value % unit = 0 := Nat.mod_eq_zero_of_dvd divides
  rw [nearestMultiple, if_pos (by left; omega), Nat.div_mul_cancel divides]

/-- The nearest multiple is one. -/
theorem dvd_nearestMultiple (unit value : Nat) : unit ∣ nearestMultiple unit value := by
  -- Rounded down or up, the result is a number of units.
  unfold nearestMultiple
  dsimp only
  split
  · exact Nat.dvd_mul_left _ _
  · exact Nat.dvd_mul_left _ _

/-- On one grid, rounding keeps the order. -/
theorem nearestMultiple_mono {unit left right : Nat} (ordered : left ≤ right) :
    nearestMultiple unit left ≤ nearestMultiple unit right := by
  have quotients : left / unit ≤ right / unit := Nat.div_le_div_right ordered
  have leftParts := Nat.div_add_mod left unit
  have rightParts := Nat.div_add_mod right unit
  unfold nearestMultiple
  dsimp only
  rcases Nat.lt_or_eq_of_le quotients with apart | same
  · -- Between different quotients there is room for rounding up.
    have step : (left / unit + 1) * unit ≤ right / unit * unit := Nat.mul_le_mul_right _ apart
    have below : left / unit * unit ≤ (left / unit + 1) * unit :=
      Nat.mul_le_mul_right _ (Nat.le_succ _)
    have above : right / unit * unit ≤ (right / unit + 1) * unit :=
      Nat.mul_le_mul_right _ (Nat.le_succ _)
    split <;> split <;> omega
  · -- With the same quotient, the remainders are in order.
    rw [same] at leftParts ⊢
    have above : right / unit * unit ≤ (right / unit + 1) * unit :=
      Nat.mul_le_mul_right _ (Nat.le_succ _)
    split <;> split <;> omega

/-- A multiple above a number is above its nearest multiple. -/
theorem nearestMultiple_le {unit value bound : Nat} (positive : 0 < unit) (divides : unit ∣ bound)
    (below : value ≤ bound) : nearestMultiple unit value ≤ bound := by
  -- Rounding is monotone, and leaves the bound where it is.
  rw [← nearestMultiple_of_dvd positive divides]
  exact nearestMultiple_mono below

/-- A multiple below a number is below its nearest multiple. -/
theorem le_nearestMultiple {unit value bound : Nat} (positive : 0 < unit) (divides : unit ∣ bound)
    (above : bound ≤ value) : bound ≤ nearestMultiple unit value := by
  -- Rounding is monotone, and leaves the bound where it is.
  rw [← nearestMultiple_of_dvd positive divides]
  exact nearestMultiple_mono above

/-! Rounding natural numbers. -/

/-- Numbers of up to 53 bits are kept. -/
theorem roundNat_of_le {value : Nat} (small : value ≤ 2 ^ 53) : roundNat value = value := by
  by_cases limit : value = 2 ^ 53
  · subst limit
    decide
  · -- Below the limit the unit is one.
    have log : value.log2 - 52 = 0 := by
      have bound : value < 2 ^ 53 := by omega
      by_cases zero : value = 0
      · simp [zero]
      · have := (Nat.log2_lt zero).mpr bound
        omega
    exact nearestMultiple_of_dvd (doubleUnit_pos value) (by rw [doubleUnit, log]; exact one_dvd _)

/-- A number is rounded to somewhere between the powers of two around it. -/
theorem roundNat_range {value : Nat} (positive : value ≠ 0) :
    2 ^ value.log2 ≤ roundNat value ∧ roundNat value ≤ 2 ^ (value.log2 + 1) := by
  have low : 2 ^ value.log2 ≤ value := Nat.log2_self_le positive
  have high : value < 2 ^ (value.log2 + 1) := Nat.lt_log2_self
  -- Both powers lie on the grid.
  exact ⟨le_nearestMultiple (doubleUnit_pos value) (Nat.pow_dvd_pow 2 (by omega)) low,
    nearestMultiple_le (doubleUnit_pos value) (Nat.pow_dvd_pow 2 (by omega)) high.le⟩

/-- Rounding keeps the order. -/
theorem roundNat_mono {left right : Nat} (ordered : left ≤ right) :
    roundNat left ≤ roundNat right := by
  by_cases zero : left = 0
  · subst zero
    exact Nat.zero_le _
  · have nonzero : right ≠ 0 := by omega
    have logs : left.log2 ≤ right.log2 := by
      rw [Nat.le_log2 nonzero]
      exact (Nat.log2_self_le zero).trans ordered
    rcases Nat.lt_or_eq_of_le logs with apart | same
    · -- A power of two lies between the two.
      calc roundNat left ≤ 2 ^ (left.log2 + 1) := (roundNat_range zero).2
        _ ≤ 2 ^ right.log2 := Nat.pow_le_pow_right (by decide) apart
        _ ≤ roundNat right := (roundNat_range nonzero).1
    · have unit : doubleUnit left = doubleUnit right := by rw [doubleUnit, doubleUnit, same]
      rw [roundNat, roundNat, unit]
      exact nearestMultiple_mono ordered

/-- A rounded number is kept. -/
theorem roundNat_roundNat (value : Nat) : roundNat (roundNat value) = roundNat value := by
  by_cases zero : value = 0
  · subst zero
    decide
  · obtain ⟨low, high⟩ := roundNat_range zero
    have nonzero : roundNat value ≠ 0 := by
      have := Nat.two_pow_pos value.log2
      omega
    rcases Nat.lt_or_eq_of_le high with below | limit
    · -- The result has the same unit, of which it is a multiple.
      have log : (roundNat value).log2 = value.log2 := by
        rw [Nat.log2_eq_iff nonzero]
        exact ⟨low, below⟩
      refine nearestMultiple_of_dvd (doubleUnit_pos _) ?_
      rw [doubleUnit, log]
      exact dvd_nearestMultiple _ _
    · -- A power of two is a multiple of its unit.
      rw [limit]
      refine nearestMultiple_of_dvd (doubleUnit_pos _) ?_
      rw [doubleUnit, Nat.log2_two_pow]
      exact Nat.pow_dvd_pow 2 (by omega)

/-! Rounding integers. -/

/-- An integer is rounded by its absolute value. -/
theorem roundInt_natCast (value : Nat) : roundInt value = roundNat value := rfl

/-- A negative integer is rounded as its negation is. -/
theorem roundInt_neg (value : Nat) : roundInt (-(value : Int)) = -(roundNat value : Int) := by
  -- Zero has no sign, and any other number is rounded by its magnitude.
  cases value with
  | zero => decide
  | succ value => rfl

/-- Integers of up to 53 bits are kept. -/
theorem roundInt_of_le {value : Int} (small : value.natAbs ≤ 2 ^ 53) : roundInt value = value := by
  -- Below the limit every magnitude is a double.
  rcases Int.natAbs_eq value with same | same
  · rw [same, roundInt_natCast, roundNat_of_le small]
  · rw [same, roundInt_neg, roundNat_of_le small]

/-- The absolute value of a rounded integer. -/
theorem natAbs_roundInt (value : Int) : (roundInt value).natAbs = roundNat value.natAbs := by
  -- The magnitude is what is rounded.
  cases value with
  | ofNat value => rfl
  | negSucc value => exact Int.natAbs_neg _

/-- A rounded integer is kept. -/
theorem roundInt_roundInt (value : Int) : roundInt (roundInt value) = roundInt value := by
  -- The magnitude is rounded once, and stays where it is.
  rcases Int.natAbs_eq value with same | same
  · rw [same, roundInt_natCast, roundInt_natCast, roundNat_roundNat]
  · rw [same, roundInt_neg, roundInt_neg, roundNat_roundNat]

/-- Rounding keeps the order of integers. -/
theorem roundInt_mono {left right : Int} (ordered : left ≤ right) :
    roundInt left ≤ roundInt right := by
  -- Negative numbers round to at most zero, and the others to at least zero.
  rcases Int.natAbs_eq left with leftSame | leftSame <;>
    rcases Int.natAbs_eq right with rightSame | rightSame <;>
    rw [leftSame, rightSame] at ordered ⊢
  · rw [roundInt_natCast, roundInt_natCast]
    exact_mod_cast roundNat_mono (by omega)
  · have leftZero : left.natAbs = 0 := by omega
    have rightZero : right.natAbs = 0 := by omega
    rw [leftZero, rightZero]
    decide
  · rw [roundInt_natCast, roundInt_neg]
    omega
  · rw [roundInt_neg, roundInt_neg]
    have := roundNat_mono (show right.natAbs ≤ left.natAbs by omega)
    omega

/-- Different rounded integers tell the order of the originals. -/
theorem roundInt_lt_iff {left right : Int} (apart : roundInt left ≠ roundInt right) :
    roundInt left < roundInt right ↔ left < right := by
  -- Rounding is monotone, so only equal results can hide an order.
  constructor
  · intro less
    by_contra notLess
    have := roundInt_mono (Int.not_lt.mp notLess)
    omega
  · intro less
    have := roundInt_mono less.le
    omega

/-- An integer that is a binary64 number. -/
structure Double where
  /-- The integer. -/
  value : Int
  /-- It is its own nearest. -/
  rounded : roundInt value = value
deriving DecidableEq

namespace Double

/-- The number an integer is rounded to. -/
def ofInt (value : Int) : Double := ⟨roundInt value, roundInt_roundInt value⟩

/-- Numbers with the same value are the same. -/
@[ext] theorem ext {left right : Double} (same : left.value = right.value) : left = right := by
  -- A double is its value, and a proof that it was rounded.
  cases left
  cases right
  cases same
  rfl

/-- A number is what its own value is rounded to. -/
@[simp] theorem ofInt_value (number : Double) : ofInt number.value = number :=
  -- The value of a double was rounded already.
  Double.ext number.rounded

/-- Integers of up to 53 bits are numbers. -/
theorem value_ofInt {value : Int} (small : value.natAbs ≤ 2 ^ 53) : (ofInt value).value = value :=
  -- A small number is not rounded.
  roundInt_of_le small

/-- A bound below the limit of exact integers holds of an integer and of its number alike. -/
theorem natAbs_ofInt_le {value : Int} {bound : Nat} (exact : bound < 2 ^ 53) :
    (ofInt value).value.natAbs ≤ bound ↔ value.natAbs ≤ bound := by
  rw [ofInt, natAbs_roundInt]
  constructor
  · -- An integer above the bound is rounded to at least its successor.
    intro small
    by_contra large
    have above := roundNat_mono (show bound + 1 ≤ value.natAbs by omega)
    rw [roundNat_of_le (by omega)] at above
    omega
  · intro small
    rwa [roundNat_of_le (by omega)]

end Double

end Foundation
