import OdooMcp.DecimalValue

/-!
# Decimal arithmetic

The operations of the default context: every result is rounded half to even to 28 digits, a quotient
is computed to that precision, and `quantize` rejects a result with more digits. The range of the
exponents is not bounded here.
-/

namespace OdooMcp

namespace Decimal

/-- `value.copy_negate()` -/
def negated (value : Decimal) : Decimal := { value with negative := !value.negative }

/-- `-value`; the negation of a zero is positive. -/
def neg (value : Decimal) : Decimal :=
  rounded (if value.coefficient = 0 then { value with negative := false } else value.negated)

/-- `first - second` -/
def sub (first second : Decimal) : Decimal := first.add second.negated

/-- `first * second` -/
def mul (first second : Decimal) : Decimal :=
  rounded ⟨first.negative != second.negative, first.coefficient * second.coefficient,
    first.exponent + second.exponent⟩

/-- Drop trailing zeros while the exponent is below the ideal one. -/
def reduceTo (ideal : Int) (coefficient : Nat) (exponent : Int) : Nat × Int :=
  if hzero : (0 < coefficient ∧ coefficient % 10 = 0) ∧ exponent < ideal then
    reduceTo ideal (coefficient / 10) (exponent + 1)
  else
    (coefficient, exponent)
termination_by coefficient
decreasing_by exact Nat.div_lt_self hzero.1.1 (by decide)

/-- `first / second`; a division by zero raises. -/
def div (first second : Decimal) : Option Decimal :=
  let negative := first.negative != second.negative
  let ideal := first.exponent - second.exponent
  if second.coefficient = 0 then
    none
  else if first.coefficient = 0 then
    some (rounded ⟨negative, 0, ideal⟩)
  else
    let shift : Int :=
      digitCount second.coefficient - digitCount first.coefficient + precision + 1
    let numerator := first.coefficient * 10 ^ shift.toNat
    let denominator := second.coefficient * 10 ^ (-shift).toNat
    let quotient := numerator / denominator
    if numerator % denominator = 0 then
      let (coefficient, exponent) := reduceTo ideal quotient (ideal - shift)
      some (rounded ⟨negative, coefficient, exponent⟩)
    else
      let marked := if quotient % 5 = 0 then quotient + 1 else quotient
      some (rounded ⟨negative, marked, ideal - shift⟩)

/-- `value.quantize(Decimal("1"), rounding=ROUND_HALF_UP)`, which raises for too many digits. -/
def quantizeUnit (value : Decimal) : Option Decimal :=
  let magnitude :=
    if 0 ≤ value.exponent then
      value.coefficient * 10 ^ value.exponent.toNat
    else
      (2 * value.coefficient + 10 ^ (-value.exponent).toNat) / (2 * 10 ^ (-value.exponent).toNat)
  if digitCount magnitude ≤ precision then some ⟨value.negative, magnitude, 0⟩ else none

/-- `(value / increment).quantize(Decimal("1"), rounding=ROUND_HALF_UP) * increment` -/
def roundedTo (value increment : Decimal) : Option Decimal := do
  let units ← (← value.div increment).quantizeUnit
  return units.mul increment

example : (Decimal.mk false 10005 (-3)).roundedTo ⟨false, 1, -2⟩ = some ⟨false, 1001, -2⟩ := by
  decide +kernel

end Decimal

end OdooMcp
