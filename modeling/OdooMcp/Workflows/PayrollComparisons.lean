import OdooMcp.Adapters.PayrollEntries
import OdooMcp.Arithmetic
import OdooMcp.Grouping

/-!
# Comparing payroll amounts

Two amounts are compared by their difference, by the percentage that it is of the first one, and by
the kind of the change. Comparing them the other way round negates the difference and turns the
kind.
-/

namespace OdooMcp

/-- An arithmetic that also has `value.quantize(Decimal("0.0001"), rounding=ROUND_HALF_EVEN)`. -/
class FinePlaces (N : Type) [Arithmetic N] where
  quantizeFourPlaces : N → Option N

namespace Decimal

def quantizeFourPlaces (value : Decimal) : Option Decimal :=
  let coefficient :=
    if -4 ≤ value.exponent then
      value.coefficient * 10 ^ (value.exponent + 4).toNat
    else
      shorten value.coefficient (-4 - value.exponent).toNat
  if digitCount coefficient ≤ precision then some ⟨value.negative, coefficient, -4⟩ else none

end Decimal

instance : FinePlaces Decimal where
  quantizeFourPlaces := Decimal.quantizeFourPlaces

/-- The nearest whole number, halves to the even one. -/
def Arithmetic.halfEven (value : ℚ) : ℚ :=
  let fraction := value - ⌊value⌋
  if 1 / 2 < fraction ∨ (fraction = 1 / 2 ∧ ⌊value⌋ % 2 = 1) then ⌊value⌋ + 1 else ⌊value⌋

instance : FinePlaces ℚ where
  quantizeFourPlaces value := some (Arithmetic.halfEven (value * 10000) / 10000)

namespace PayrollAnalysis

open Arithmetic

inductive ChangeKind
  | unchanged
  | increased
  | decreased
  | added
  | removed
  | unavailable
  deriving DecidableEq, Repr

structure DecimalComparison (N : Type) where
  baseline : N
  target : N
  absoluteDelta : N
  percentageDelta : Option N
  change : ChangeKind

structure CountComparison (N : Type) where
  baseline : Nat
  target : Nat
  absoluteDelta : Int
  percentageDelta : Option N
  change : ChangeKind

def ChangeKind.turned : ChangeKind → ChangeKind
  | .unchanged => .unchanged
  | .increased => .decreased
  | .decreased => .increased
  | .added => .removed
  | .removed => .added
  | .unavailable => .unavailable

section Comparing

variable {N : Type} [Arithmetic N] [FinePlaces N]

/-- `_round` -/
def round (value : N) : Except PyException N :=
  orRaise (FinePlaces.quantizeFourPlaces value) arithmeticError

/-- `(target - baseline) / abs(baseline) * Decimal("100")` -/
def rawPercentage (baseline target : N) : Except PyException N := do
  let quotient ← orRaise (div (sub target baseline) (abs baseline)) arithmeticError
  return mul quotient (ofDecimal (Decimal.ofInt 100))

/-- `_percentage` -/
def percentage (baseline target : N) : Except PyException (Option N) :=
  if same baseline zero then
    .ok none
  else do
    return some (← round (← rawPercentage baseline target))

/-- `_change` -/
def changeKind (baseline target : N) : ChangeKind :=
  if same baseline target then
    .unchanged
  else if same baseline zero then
    .added
  else if same target zero then
    .removed
  else if lt baseline target then
    .increased
  else
    .decreased

/-- `_decimal_comparison` -/
def decimalComparison (baseline target : N) : Except PyException (DecimalComparison N) := do
  return ⟨baseline, target, sub target baseline, ← percentage baseline target,
    changeKind baseline target⟩

/-- `_count_comparison` -/
def countComparison (baseline target : Nat) : Except PyException (CountComparison N) := do
  let decimalChange ← decimalComparison (N := N) (ofDecimal (Decimal.ofInt baseline))
    (ofDecimal (Decimal.ofInt target))
  return ⟨baseline, target, target - baseline, decimalChange.percentageDelta, decimalChange.change⟩

theorem decimalComparison_ok {baseline target : N} {comparison : DecimalComparison N}
    (hcomparison : decimalComparison baseline target = .ok comparison) :
    comparison.baseline = baseline ∧ comparison.target = target ∧
      comparison.absoluteDelta = sub target baseline ∧
      comparison.change = changeKind baseline target := by
  obtain ⟨percentageDelta, -, hdone⟩ := except_bind_ok.mp hcomparison
  cases hdone
  exact ⟨rfl, rfl, rfl, rfl⟩

end Comparing

section Changes

variable {N : Type} [Arithmetic N]

theorem changeKind_eq_unchanged_iff {baseline target : N} :
    changeKind baseline target = .unchanged ↔ same baseline target = true := by
  unfold changeKind
  constructor
  · intro hunchanged
    by_contra hchanged
    rw [if_neg hchanged] at hunchanged
    split at hunchanged
    · cases hunchanged
    · split at hunchanged
      · cases hunchanged
      · split at hunchanged
        · cases hunchanged
        · cases hunchanged
  · exact fun hsame => if_pos hsame

variable [LawfulArithmetic N]

theorem same_comm (first second : N) : same first second = same second first := by
  rw [Bool.eq_iff_iff, LawfulArithmetic.same_iff, LawfulArithmetic.same_iff, eq_comm]

theorem changeKind_turned (baseline target : N) :
    changeKind target baseline = (changeKind baseline target).turned := by
  unfold changeKind
  rw [same_comm target baseline]
  by_cases hsame : same baseline target = true
  · rw [if_pos hsame, if_pos hsame]
    rfl
  · rw [if_neg hsame, if_neg hsame]
    rw [LawfulArithmetic.same_iff] at hsame
    by_cases hbaseline : same baseline zero = true
    · have htarget : ¬same target zero = true := by
        rw [LawfulArithmetic.same_iff] at hbaseline ⊢
        exact fun htarget => hsame (hbaseline.trans htarget.symm)
      rw [if_pos hbaseline, if_neg htarget, if_pos hbaseline]
      rfl
    · rw [if_neg hbaseline, if_neg hbaseline]
      by_cases htarget : same target zero = true
      · rw [if_pos htarget, if_pos htarget]
        rfl
      · rw [if_neg htarget, if_neg htarget]
        rcases lt_or_gt_of_ne hsame with hlt | hgt
        · rw [if_neg (by rw [LawfulArithmetic.lt_iff]; exact not_lt.mpr hlt.le),
            if_pos (LawfulArithmetic.lt_iff _ _ |>.mpr hlt)]
          rfl
        · rw [if_pos (LawfulArithmetic.lt_iff _ _ |>.mpr hgt),
            if_neg (by rw [LawfulArithmetic.lt_iff]; exact not_lt.mpr hgt.le)]
          rfl

end Changes

/-! ### Exact comparisons -/

theorem percentage_exact (baseline target : ℚ) :
    ∃ percentageDelta, percentage baseline target = .ok percentageDelta := by
  unfold percentage
  split
  · exact ⟨none, rfl⟩
  · rename_i hsame
    have hnonzero : |baseline| ≠ 0 := by
      intro hzero
      refine hsame (decide_eq_true ?_)
      rw [zero_exact]
      exact abs_eq_zero.mp hzero
    unfold rawPercentage
    have hdivided : div (sub target baseline) (Arithmetic.abs baseline) =
        some ((target - baseline) / |baseline|) := div_exact hnonzero
    rw [hdivided]
    exact ⟨_, rfl⟩

theorem decimalComparison_exact (baseline target : ℚ) :
    ∃ comparison, decimalComparison baseline target = .ok comparison := by
  obtain ⟨percentageDelta, hpercentage⟩ := percentage_exact baseline target
  exact ⟨_, except_bind_ok.mpr ⟨percentageDelta, hpercentage, rfl⟩⟩

structure Turned (comparison turned : DecimalComparison ℚ) : Prop where
  baseline : turned.baseline = comparison.target
  target : turned.target = comparison.baseline
  absoluteDelta : turned.absoluteDelta = -comparison.absoluteDelta
  change : turned.change = comparison.change.turned

theorem turned_of_ok {baseline target : ℚ} {comparison turned : DecimalComparison ℚ}
    (hcomparison : decimalComparison baseline target = .ok comparison)
    (hturned : decimalComparison target baseline = .ok turned) : Turned comparison turned := by
  obtain ⟨hbaseline, htarget, hdelta, hchange⟩ := decimalComparison_ok hcomparison
  obtain ⟨hbaseline', htarget', hdelta', hchange'⟩ := decimalComparison_ok hturned
  refine ⟨?_, ?_, ?_, ?_⟩
  · rw [hbaseline', htarget]
  · rw [htarget', hbaseline]
  · rw [hdelta', hdelta]
    exact (neg_sub target baseline).symm
  · rw [hchange', hchange, changeKind_turned]

end PayrollAnalysis

end OdooMcp
