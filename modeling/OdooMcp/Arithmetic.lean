import Mathlib.Algebra.Order.Floor.Ring
import Mathlib.Data.Rat.Floor
import OdooMcp.DecimalArithmetic

/-!
# Arithmetics

The workflows compute with the operations of `decimal`, from the finite decimals they read. What the
operations return depends on the context: in the default one every result is rounded, over exact
numbers none is. A workflow is written once, for any arithmetic.
-/

namespace OdooMcp

class Arithmetic (N : Type) where
  ofDecimal : Decimal → N
  add : N → N → N
  sub : N → N → N
  mul : N → N → N
  neg : N → N
  abs : N → N
  div : N → N → Option N
  quantizeUnit : N → Option N
  lt : N → N → Bool
  same : N → N → Bool

namespace Arithmetic

variable {N : Type} [Arithmetic N]

/-- `Decimal("0")` -/
def zero : N := ofDecimal Decimal.zero

/-- `sum(values, Decimal("0"))` -/
def total (values : List N) : N := values.foldl add zero

/-- What an operation raises that has no result in the context. -/
def arithmeticError : PyException := .exception "decimal.InvalidOperation"

/-- `(value / increment).quantize(Decimal("1"), rounding=ROUND_HALF_UP) * increment` -/
def roundedTo (value increment : N) : Except PyException N := do
  let units ← orRaise (div value increment) arithmeticError
  return mul (← orRaise (quantizeUnit units) arithmeticError) increment

/-! ### The default context -/

instance : Arithmetic Decimal where
  ofDecimal := id
  add := Decimal.add
  sub := Decimal.sub
  mul := Decimal.mul
  neg := Decimal.neg
  abs := Decimal.abs
  div := Decimal.div
  quantizeUnit := Decimal.quantizeUnit
  lt := Decimal.lt
  same := Decimal.same

/-! ### Exact numbers -/

/-- The nearest whole number, halves away from zero. -/
def halfUp (value : ℚ) : ℚ :=
  if value < 0 then -(⌊-value + 1 / 2⌋ : ℚ) else (⌊value + 1 / 2⌋ : ℚ)

instance : Arithmetic ℚ where
  ofDecimal := Decimal.value
  add := (· + ·)
  sub := (· - ·)
  mul := (· * ·)
  neg := (- ·)
  abs := fun value => |value|
  div first second := if second = 0 then none else some (first / second)
  quantizeUnit value := some (halfUp value)
  lt first second := first < second
  same first second := first = second

@[simp]
theorem zero_decimal : (zero : Decimal) = Decimal.zero := rfl

theorem zero_exact : (zero : ℚ) = 0 := Decimal.value_zero

theorem total_exact (values : List ℚ) : total values = values.sum := by
  have hfold (start : ℚ) : values.foldl add start = start + values.sum := by
    induction values generalizing start with
    | nil => exact (add_zero start).symm
    | cons value values ih =>
        rw [List.foldl_cons, ih, List.sum_cons]
        exact add_assoc start value values.sum
  rw [total, hfold, zero_exact, zero_add]

theorem halfUp_neg (value : ℚ) : halfUp (-value) = -halfUp value := by
  unfold halfUp
  rcases lt_trichotomy value 0 with hnegative | rfl | hpositive
  · rw [if_pos hnegative, if_neg (by linarith), neg_neg]
  · norm_num
  · rw [if_pos (by linarith), if_neg (by linarith), neg_neg]

theorem div_exact {first second : ℚ} (hsecond : second ≠ 0) :
    (div first second : Option ℚ) = some (first / second) := if_neg hsecond

/-- Exact rounding fails for a zero increment only. -/
theorem roundedTo_exact {value increment : ℚ} (hincrement : increment ≠ 0) :
    roundedTo value increment = .ok (halfUp (value / increment) * increment) := by
  unfold roundedTo
  rw [div_exact hincrement]
  rfl

theorem roundedTo_zero (value : ℚ) : roundedTo value 0 = .error arithmeticError := rfl

end Arithmetic

/-- An arithmetic whose comparisons are those of the numbers its members denote. A sum is already
rounded, so that its negation is exact. -/
class LawfulArithmetic (N : Type) [Arithmetic N] where
  value : N → ℚ
  lt_iff : ∀ first second : N, Arithmetic.lt first second = true ↔ value first < value second
  same_iff : ∀ first second : N, Arithmetic.same first second = true ↔ value first = value second
  value_neg_add : ∀ first second : N,
    value (Arithmetic.neg (Arithmetic.add first second)) = -value (Arithmetic.add first second)

namespace Decimal

theorem digitCount_le_iff {coefficient count : Nat} (hcount : 0 < count) :
    digitCount coefficient ≤ count ↔ coefficient < 10 ^ count :=
  Nat.length_repr_le_iff hcount

theorem rounded_of_short {decimal : Decimal} (hshort : digitCount decimal.coefficient ≤ precision) :
    decimal.rounded = decimal := by
  unfold rounded
  rw [Nat.sub_eq_zero_of_le hshort]
  rfl

theorem value_neg_of_short {decimal : Decimal}
    (hshort : digitCount decimal.coefficient ≤ precision) : decimal.neg.value = -decimal.value := by
  unfold neg
  split
  · rename_i hzero
    have hrounded : Decimal.rounded { decimal with negative := false } =
        { decimal with negative := false } := rounded_of_short hshort
    rw [hrounded, (value_eq_zero_iff decimal).mpr hzero, neg_zero]
    exact (value_eq_zero_iff _).mpr hzero
  · have hrounded : decimal.negated.rounded = decimal.negated := rounded_of_short hshort
    rw [hrounded]
    unfold value sign negated
    cases decimal.negative with
    | true => simp
    | false => simp

theorem shorten_le (coefficient drop : Nat) :
    shorten coefficient drop ≤ coefficient / 10 ^ drop + 1 := by
  unfold shorten
  simp only
  split <;> omega

theorem digitCount_rounded (decimal : Decimal) :
    digitCount decimal.rounded.coefficient ≤ precision := by
  have hprecision : 0 < precision := by decide
  unfold rounded
  simp only
  split
  · rename_i hdrop
    exact Nat.le_of_sub_eq_zero hdrop
  · rename_i hdrop
    split
    · assumption
    · rw [digitCount_le_iff hprecision]
      have hdigits : digitCount decimal.coefficient ≤
          precision + (digitCount decimal.coefficient - precision) := by omega
      generalize digitCount decimal.coefficient - precision = drop at hdigits hdrop
      rw [digitCount_le_iff (by omega)] at hdigits
      have hquotient : decimal.coefficient / 10 ^ drop < 10 ^ precision := by
        rw [Nat.div_lt_iff_lt_mul (by positivity), ← pow_add]
        exact hdigits
      have hshortened := shorten_le decimal.coefficient drop
      have hten : (10 : Nat) ≤ 10 ^ precision := by decide
      simp only
      omega

end Decimal

instance : LawfulArithmetic Decimal where
  value := Decimal.value
  lt_iff := Decimal.lt_iff
  same_iff := Decimal.same_iff
  value_neg_add _ _ := Decimal.value_neg_of_short (Decimal.digitCount_rounded _)

instance : LawfulArithmetic ℚ where
  value := id
  lt_iff _ _ := decide_eq_true_iff
  same_iff _ _ := decide_eq_true_iff
  value_neg_add _ _ := rfl

end OdooMcp
