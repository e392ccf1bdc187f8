import Mathlib.Algebra.Order.Field.Power
import Mathlib.Algebra.Order.Field.Rat
import Mathlib.Tactic.FieldSimp
import Mathlib.Tactic.Linarith
import Mathlib.Tactic.Positivity
import Mathlib.Tactic.Ring
import OdooMcp.Decimal

/-!
# The number a decimal denotes

Many decimals denote one number, and decimals compare as the numbers that they denote. The normal
form of a decimal is without trailing zeros.
-/

namespace OdooMcp

namespace Decimal

def stripZeros (coefficient : Nat) (exponent : Int) : Nat × Int :=
  if hzero : 0 < coefficient ∧ coefficient % 10 = 0 then
    stripZeros (coefficient / 10) (exponent + 1)
  else
    (coefficient, exponent)
termination_by coefficient
decreasing_by exact Nat.div_lt_self hzero.1 (by decide)

/-- The decimal without trailing zeros that denotes the same number. -/
def normal (decimal : Decimal) : Decimal :=
  if decimal.coefficient = 0 then
    zero
  else
    let stripped := stripZeros decimal.coefficient decimal.exponent
    ⟨decimal.negative, stripped.1, stripped.2⟩

def sign (decimal : Decimal) : ℚ := if decimal.negative then -1 else 1

def value (decimal : Decimal) : ℚ :=
  decimal.sign * (decimal.coefficient * 10 ^ decimal.exponent)

theorem cent_pos : 0 < (⟨false, 1, -2⟩ : Decimal).value := by norm_num [value, sign]

theorem scaled_eq (decimal : Decimal) {exponent : Int} (hexponent : exponent ≤ decimal.exponent) :
    (decimal.scaled exponent : ℚ) * 10 ^ exponent = decimal.value := by
  have hpower : ((10 : ℚ) ^ (decimal.exponent - exponent).toNat) * 10 ^ exponent =
      10 ^ decimal.exponent := by
    rw [← zpow_natCast, ← zpow_add₀ (by norm_num : (10 : ℚ) ≠ 0)]
    congr 1
    omega
  unfold scaled value sign
  cases decimal.negative with
  | true =>
      simp only [if_true]
      push_cast
      rw [← hpower]
      ring
  | false =>
      simp only [Bool.false_eq_true, if_false]
      push_cast
      rw [← hpower]
      ring

theorem lt_iff (first second : Decimal) : first.lt second = true ↔ first.value < second.value := by
  rw [← first.scaled_eq (min_le_left first.exponent second.exponent),
    ← second.scaled_eq (min_le_right first.exponent second.exponent)]
  have hpositive : (0 : ℚ) < 10 ^ min first.exponent second.exponent := by positivity
  rw [mul_lt_mul_iff_left₀ hpositive]
  simp [lt]

theorem same_iff (first second : Decimal) :
    first.same second = true ↔ first.value = second.value := by
  have hle : first.same second = true ↔
      ¬ second.lt first = true ∧ ¬ first.lt second = true := by
    simp [same, le]
  rw [hle, lt_iff, lt_iff, not_lt, not_lt]
  exact le_antisymm_iff.symm

/-! ### Integers and zero -/

theorem value_ofInt (number : Int) : (ofInt number).value = number := by
  have hmagnitude : (number.natAbs : ℚ) = |(number : ℚ)| := by
    rw [Nat.cast_natAbs, Int.cast_abs]
  unfold ofInt value sign
  rw [hmagnitude, zpow_zero, mul_one]
  by_cases hnegative : number < 0
  · have hlt : (number : ℚ) < 0 := Int.cast_lt_zero.mpr hnegative
    simp [hnegative, abs_of_neg hlt]
  · have hle : (0 : ℚ) ≤ number := Int.cast_nonneg (Int.not_lt.mp hnegative)
    simp [hnegative, abs_of_nonneg hle]

theorem value_zero : zero.value = 0 := by norm_num [zero, value]

theorem value_eq_zero_iff (decimal : Decimal) : decimal.value = 0 ↔ decimal.coefficient = 0 := by
  have hpositive : (10 : ℚ) ^ decimal.exponent ≠ 0 := by positivity
  have hsign : decimal.sign ≠ 0 := by
    unfold sign
    split <;> norm_num
  simp [value, hsign, hpositive]

end Decimal

end OdooMcp
