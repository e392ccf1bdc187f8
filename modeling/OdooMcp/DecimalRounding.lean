import Mathlib.Data.Nat.Cast.Field
import Mathlib.Data.Nat.Log
import OdooMcp.Arithmetic

/-!
# Rounding and bounds

A number of one digit is met exactly by every rounding: what is at least such a number stays so when
it is rounded to the precision of the context, when it is divided and when it is multiplied.
-/

namespace OdooMcp

namespace Decimal

theorem abs_value (decimal : Decimal) :
    |decimal.value| = decimal.coefficient * 10 ^ decimal.exponent := by
  have hnonneg : (0 : ℚ) ≤ decimal.coefficient * 10 ^ decimal.exponent := by positivity
  unfold value sign
  split
  · rw [neg_one_mul, abs_neg, abs_of_nonneg hnonneg]
  · rw [one_mul, abs_of_nonneg hnonneg]

theorem zpow_toNat {exponent other : Int} (hle : exponent ≤ other) :
    (10 : ℚ) ^ other = 10 ^ (other - exponent).toNat * 10 ^ exponent := by
  rw [← zpow_natCast, ← zpow_add₀ (by norm_num : (10 : ℚ) ≠ 0)]
  congr 1
  omega

/-- A number of one digit below the next multiple of a power of ten is at most the multiple before,
unless that is zero. -/
theorem digit_le_floor {digit quotient : Nat} {power exponent : Int} (hdigit : digit < 10)
    (hquotient : 0 < quotient)
    (hbelow : (digit : ℚ) * 10 ^ power < (quotient + 1 : Nat) * 10 ^ exponent) :
    (digit : ℚ) * 10 ^ power ≤ quotient * 10 ^ exponent := by
  have hpositive : (0 : ℚ) < 10 ^ exponent := by positivity
  rcases le_or_gt exponent power with hle | hlt
  · rw [zpow_toNat hle, ← mul_assoc] at hbelow ⊢
    have hnat := lt_of_mul_lt_mul_right hbelow hpositive.le
    refine mul_le_mul_of_nonneg_right ?_ hpositive.le
    exact_mod_cast Nat.lt_succ_iff.mp (by exact_mod_cast hnat)
  · have hnext : (10 : ℚ) * 10 ^ power ≤ 10 ^ exponent := by
      rw [← zpow_one_add₀ (by norm_num : (10 : ℚ) ≠ 0)]
      exact zpow_le_zpow_right₀ (by norm_num) (by omega)
    have hsmall : (digit : ℚ) * 10 ^ power ≤ 10 * 10 ^ power :=
      mul_le_mul_of_nonneg_right (by exact_mod_cast hdigit.le) (by positivity)
    have hlarge : (10 : ℚ) ^ exponent ≤ quotient * 10 ^ exponent :=
      le_mul_of_one_le_left hpositive.le (by exact_mod_cast hquotient)
    exact hsmall.trans (hnext.trans hlarge)

/-! ### Rounding -/

theorem le_shorten (coefficient drop : Nat) :
    coefficient / 10 ^ drop ≤ shorten coefficient drop := by
  unfold shorten
  simp only
  split <;> omega

theorem shorten_lt {coefficient drop : Nat} (hdigits : digitCount coefficient ≤ precision + drop) :
    shorten coefficient drop ≤ 10 ^ precision := by
  have hprecision : 0 < precision := by decide
  rw [digitCount_le_iff (by omega)] at hdigits
  have hquotient : coefficient / 10 ^ drop < 10 ^ precision := by
    rw [Nat.div_lt_iff_lt_mul (by positivity), ← pow_add]
    exact hdigits
  have hshortened := shorten_le coefficient drop
  omega

/-- A decimal with too many digits is rounded to its shortened coefficient. -/
theorem abs_rounded {decimal : Decimal} {drop : Nat} (hdrop : 0 < drop)
    (hdigits : digitCount decimal.coefficient = precision + drop) :
    |decimal.rounded.value| =
      shorten decimal.coefficient drop * 10 ^ (decimal.exponent + drop) := by
  have hprecision : 0 < precision := by decide
  have hsub : digitCount decimal.coefficient - precision = drop := by omega
  unfold rounded
  simp only [hsub]
  rw [if_neg hdrop.ne']
  split
  · exact abs_value _
  · rename_i hlong
    rw [digitCount_le_iff hprecision, not_lt] at hlong
    have htop : shorten decimal.coefficient drop = 10 ^ precision :=
      le_antisymm (shorten_lt hdigits.le) hlong
    rw [abs_value, htop]
    have htenth : (10 : Nat) ^ precision / 10 = 10 ^ (precision - 1) := by decide
    simp only [htenth]
    rw [zpow_add₀ (by norm_num : (10 : ℚ) ≠ 0) (decimal.exponent + drop) 1, zpow_one]
    push_cast
    have hwhole : (10 : ℚ) ^ precision = 10 ^ (precision - 1) * 10 := by
      rw [← pow_succ]
      rfl
    rw [hwhole]
    ring

theorem pow_le_of_digitCount {coefficient count : Nat} (hcount : 0 < count)
    (hdigits : count < digitCount coefficient) : 10 ^ count ≤ coefficient := by
  by_contra hlt
  have hle := (digitCount_le_iff hcount).mpr (not_le.mp hlt)
  omega

/-- **Rounding.** A number of one digit that a decimal is at least, it is at least when rounded. -/
theorem le_abs_rounded {decimal : Decimal} {digit : Nat} {power : Int} (hdigit : digit < 10)
    (hle : (digit : ℚ) * 10 ^ power ≤ |decimal.value|) :
    (digit : ℚ) * 10 ^ power ≤ |decimal.rounded.value| := by
  rcases le_or_gt (digitCount decimal.coefficient) precision with hshort | hlong
  · rwa [rounded_of_short hshort]
  · obtain ⟨drop, hdigits⟩ := Nat.exists_eq_add_of_lt hlong
    have hdigits : digitCount decimal.coefficient = precision + (drop + 1) := hdigits
    generalize hcount : drop + 1 = count at hdigits
    have hpositive : 0 < count := by omega
    have hpower : (0 : ℚ) < 10 ^ decimal.exponent := by positivity
    have hlarge : 10 ^ count ≤ decimal.coefficient :=
      pow_le_of_digitCount hpositive (by rw [hdigits]; exact Nat.lt_add_of_pos_left (by decide))
    have hquotient : 0 < decimal.coefficient / 10 ^ count := Nat.div_pos hlarge (by positivity)
    rw [abs_rounded hpositive hdigits]
    rw [abs_value] at hle
    have hbelow : (digit : ℚ) * 10 ^ power <
        (decimal.coefficient / 10 ^ count + 1 : Nat) * 10 ^ (decimal.exponent + count) := by
      refine lt_of_le_of_lt hle ?_
      rw [zpow_add₀ (by norm_num : (10 : ℚ) ≠ 0), mul_comm ((10 : ℚ) ^ decimal.exponent),
        ← mul_assoc, zpow_natCast]
      refine mul_lt_mul_of_pos_right ?_ hpower
      exact_mod_cast Nat.lt_mul_of_div_lt (Nat.lt_succ_self _) (by positivity)
    refine (digit_le_floor hdigit hquotient hbelow).trans ?_
    exact mul_le_mul_of_nonneg_right (by exact_mod_cast le_shorten _ _) (by positivity)

/-! ### Differences -/

theorem add_eq_rounded (first second : Decimal) :
    ∃ exact : Decimal, first.add second = exact.rounded ∧
      exact.value = first.value + second.value ∧
        exact.exponent = min first.exponent second.exponent := by
  refine ⟨_, rfl, ?_, rfl⟩
  rw [← first.scaled_eq (min_le_left first.exponent second.exponent),
    ← second.scaled_eq (min_le_right first.exponent second.exponent), ← add_mul]
  generalize first.scaled (min first.exponent second.exponent) = left
  generalize second.scaled (min first.exponent second.exponent) = right
  unfold value sign
  simp only
  rcases lt_trichotomy (left + right) 0 with hnegative | hzero | hpositive
  · have habs : ((left + right).natAbs : ℚ) = -((left + right : Int) : ℚ) := by
      rw [Nat.cast_natAbs, abs_of_neg hnegative, Int.cast_neg]
    simp only [hnegative, decide_true, Bool.true_or, if_true, habs]
    push_cast
    ring
  · have hcast : (left : ℚ) + right = 0 := by exact_mod_cast hzero
    simp [hzero, hcast]
  · have habs : ((left + right).natAbs : ℚ) = ((left + right : Int) : ℚ) := by
      rw [Nat.cast_natAbs, abs_of_pos hpositive]
    have hnot : ¬left + right < 0 := not_lt.mpr hpositive.le
    have hne : ¬left + right = 0 := hpositive.ne'
    simp only [hnot, hne, decide_false, Bool.false_or, Bool.false_and, Bool.false_eq_true, if_false,
      habs]
    push_cast
    ring

theorem value_negated (decimal : Decimal) : decimal.negated.value = -decimal.value := by
  unfold value sign negated
  cases decimal.negative with
  | true => simp
  | false => simp

theorem sub_eq_rounded (first second : Decimal) :
    ∃ exact : Decimal, first.sub second = exact.rounded ∧
      exact.value = first.value - second.value ∧
        exact.exponent = min first.exponent second.exponent := by
  obtain ⟨exact, hrounded, hvalue, hexponent⟩ := add_eq_rounded first second.negated
  refine ⟨exact, hrounded, ?_, hexponent⟩
  rw [hvalue, value_negated, sub_eq_add_neg]

/-- A decimal with as many digits as the context keeps. -/
def Short (decimal : Decimal) : Prop := digitCount decimal.coefficient ≤ precision

theorem short_rounded (decimal : Decimal) : decimal.rounded.Short := digitCount_rounded decimal

theorem Short.abs_value_lt {decimal : Decimal} (hshort : decimal.Short) :
    |decimal.value| < 10 ^ precision * 10 ^ decimal.exponent := by
  have hcoefficient : decimal.coefficient < 10 ^ precision :=
    (digitCount_le_iff (by decide)).mp hshort
  rw [abs_value]
  exact mul_lt_mul_of_pos_right (by exact_mod_cast hcoefficient) (by positivity)

/-- A number is at least half as large as one digit at the place of its first. -/
theorem exists_leading_digit {coefficient : Nat} (hpositive : 0 < coefficient) :
    ∃ digit count : Nat, digit < 10 ∧ digit * 10 ^ count ≤ coefficient ∧
      coefficient ≤ 2 * (digit * 10 ^ count) := by
  refine ⟨coefficient / 10 ^ Nat.log 10 coefficient, Nat.log 10 coefficient, ?_, ?_, ?_⟩
  · rw [Nat.div_lt_iff_lt_mul (by positivity), mul_comm, ← pow_succ]
    exact Nat.lt_pow_succ_log_self (by decide) coefficient
  · exact Nat.div_mul_le_self _ _
  · have hone : 1 ≤ coefficient / 10 ^ Nat.log 10 coefficient :=
      Nat.div_pos (Nat.pow_log_le_self 10 hpositive.ne') (by positivity)
    have hbelow : coefficient < (coefficient / 10 ^ Nat.log 10 coefficient + 1) *
        10 ^ Nat.log 10 coefficient := Nat.lt_mul_of_div_lt (Nat.lt_succ_self _) (by positivity)
    nlinarith [Nat.mul_le_mul_right (10 ^ Nat.log 10 coefficient) hone]

/-- The difference of two short decimals is exact, unless it is at least half of the first one. -/
theorem half_le_of_long {first second exact : Decimal} (hfirst : first.Short)
    (hsecond : second.Short) (hvalue : exact.value = second.value - first.value)
    (hexponent : exact.exponent = min second.exponent first.exponent)
    (hlong : precision < digitCount exact.coefficient) : |first.value| ≤ 2 * |exact.value| := by
  have hlarge : (10 : ℚ) ^ precision * 10 ^ exact.exponent ≤ |exact.value| := by
    rw [abs_value]
    refine mul_le_mul_of_nonneg_right ?_ (by positivity)
    exact_mod_cast pow_le_of_digitCount (by decide) hlong
  rcases le_total second.exponent first.exponent with hle | hle
  · rw [hexponent, min_eq_left hle] at hlarge
    have hsmall := hsecond.abs_value_lt
    have htriangle := abs_sub_abs_le_abs_sub first.value second.value
    rw [abs_sub_comm, ← hvalue] at htriangle
    linarith
  · rw [hexponent, min_eq_right hle] at hlarge
    have hsmall := hfirst.abs_value_lt
    have hnonneg := abs_nonneg exact.value
    linarith

/-- **Differences.** A quarter of a short decimal, or less, that its distance to another one is at
least, the rounded distance is at least. -/
theorem le_abs_sub {first second : Decimal} (hfirst : first.Short) (hsecond : second.Short)
    {fraction : ℚ} (hfraction : fraction ≤ 1 / 4)
    (hle : fraction * |first.value| ≤ |second.value - first.value|) :
    fraction * |first.value| ≤ |(second.sub first).value| := by
  obtain ⟨exact, hrounded, hvalue, hexponent⟩ := sub_eq_rounded second first
  rw [hrounded]
  rw [← hvalue] at hle
  rcases le_or_gt (digitCount exact.coefficient) precision with hshort | hlong
  · rwa [rounded_of_short hshort]
  · have hhalf := half_le_of_long hfirst hsecond hvalue hexponent hlong
    have hpositive : 0 < exact.coefficient :=
      lt_of_lt_of_le (by positivity) (pow_le_of_digitCount (by decide) hlong)
    obtain ⟨digit, count, hdigit, hbelow, habove⟩ := exists_leading_digit hpositive
    have hpower : (0 : ℚ) < 10 ^ exact.exponent := by positivity
    have hscaled : (digit : ℚ) * 10 ^ (exact.exponent + count) =
        (digit * 10 ^ count : Nat) * 10 ^ exact.exponent := by
      rw [zpow_add₀ (by norm_num : (10 : ℚ) ≠ 0), zpow_natCast]
      push_cast
      ring
    have hleading : (digit : ℚ) * 10 ^ (exact.exponent + count) ≤ |exact.rounded.value| := by
      refine le_abs_rounded hdigit ?_
      rw [hscaled, abs_value]
      exact mul_le_mul_of_nonneg_right (by exact_mod_cast hbelow) hpower.le
    have hdouble : |exact.value| ≤ 2 * (digit * 10 ^ (exact.exponent + count) : ℚ) := by
      rw [hscaled, abs_value, ← mul_assoc]
      exact mul_le_mul_of_nonneg_right (by exact_mod_cast habove) hpower.le
    have hquarter : fraction * |first.value| ≤ 1 / 4 * |first.value| :=
      mul_le_mul_of_nonneg_right hfraction (abs_nonneg _)
    linarith

/-! ### Quotients and products -/

theorem reduceTo_value (ideal : Int) (coefficient : Nat) (exponent : Int) :
    ((reduceTo ideal coefficient exponent).1 : ℚ) * 10 ^ (reduceTo ideal coefficient exponent).2 =
      coefficient * 10 ^ exponent := by
  induction coefficient using Nat.strong_induction_on generalizing exponent with
  | _ coefficient ih =>
      rw [reduceTo]
      split
      · rename_i hzero
        rw [ih _ (Nat.div_lt_self hzero.1.1 (by decide))]
        have hwhole : (coefficient : ℚ) = (coefficient / 10 : Nat) * 10 := by
          exact_mod_cast (Nat.div_mul_cancel (Nat.dvd_of_mod_eq_zero hzero.1.2)).symm
        rw [hwhole, zpow_add₀ (by norm_num : (10 : ℚ) ≠ 0)]
        ring
      · rfl

/-- A quotient, shifted by a power of ten, as the quotient of two coefficients. -/
theorem abs_div_eq (first second : Decimal) (shift : Int) :
    |first.value| / |second.value| =
      (first.coefficient * 10 ^ shift.toNat : Nat) /
      (second.coefficient * 10 ^ (-shift).toNat : Nat) *
        (10 : ℚ) ^ (first.exponent - second.exponent - shift) := by
  have hten : (10 : ℚ) ≠ 0 := by norm_num
  have hshift : (10 : ℚ) ^ shift = 10 ^ shift.toNat / 10 ^ (-shift).toNat := by
    rw [← zpow_natCast, ← zpow_natCast, ← zpow_sub₀ hten]
    congr 1
    omega
  have hpositive : (10 : ℚ) ^ shift.toNat ≠ 0 := by positivity
  have hpositive' : (10 : ℚ) ^ (-shift).toNat ≠ 0 := by positivity
  have hsecond : (10 : ℚ) ^ second.exponent ≠ 0 := by positivity
  rw [abs_value, abs_value, zpow_sub₀ hten, zpow_sub₀ hten, hshift]
  push_cast
  field_simp

theorem le_of_digitCount {coefficient : Nat} (hpositive : 0 < coefficient) :
    10 ^ (digitCount coefficient - 1) ≤ coefficient := by
  rcases Nat.eq_zero_or_pos (digitCount coefficient - 1) with hzero | hcount
  · rw [hzero]
    exact hpositive
  · exact pow_le_of_digitCount hcount (by omega)

theorem digitCount_pos (coefficient : Nat) : 0 < digitCount coefficient := Nat.length_repr_pos

theorem lt_of_digitCount (coefficient : Nat) : coefficient < 10 ^ digitCount coefficient :=
  (digitCount_le_iff (digitCount_pos coefficient)).mp le_rfl

/-- The shift of a quotient gives it a digit more than the context keeps. -/
theorem quotient_pos {first second : Nat} (hfirst : 0 < first) (hsecond : 0 < second) {shift : Int}
    (hshift : shift = digitCount second - digitCount first + precision + 1) :
    0 < first * 10 ^ shift.toNat / (second * 10 ^ (-shift).toNat) := by
  refine Nat.div_pos ?_ (by positivity)
  have hpositive := digitCount_pos first
  calc second * 10 ^ (-shift).toNat
      ≤ 10 ^ digitCount second * 10 ^ (-shift).toNat :=
        Nat.mul_le_mul_right _ (lt_of_digitCount second).le
    _ = 10 ^ (digitCount second + (-shift).toNat) := (pow_add _ _ _).symm
    _ ≤ 10 ^ (digitCount first - 1 + shift.toNat) := Nat.pow_le_pow_right (by decide) (by omega)
    _ = 10 ^ (digitCount first - 1) * 10 ^ shift.toNat := pow_add _ _ _
    _ ≤ first * 10 ^ shift.toNat := Nat.mul_le_mul_right _ (le_of_digitCount hfirst)

/-- **Quotients.** A number of one digit that an exact quotient is at least, the quotient is at
least. -/
theorem le_abs_div {first second quotient : Decimal} {digit : Nat} {power : Int}
    (hdigit : digit < 10)
    (hdivided : first.div second = some quotient)
    (hle : (digit : ℚ) * 10 ^ power ≤ |first.value| / |second.value|) :
    (digit : ℚ) * 10 ^ power ≤ |quotient.value| := by
  unfold div at hdivided
  dsimp only at hdivided
  split at hdivided
  · cases hdivided
  · rename_i hsecond
    split at hdivided
    · rename_i hfirst
      cases hdivided
      refine le_abs_rounded hdigit (hle.trans ?_)
      rw [(value_eq_zero_iff first).mpr hfirst, abs_zero, zero_div]
      exact abs_nonneg _
    · rename_i hfirst
      have hfirst := Nat.pos_of_ne_zero hfirst
      have hsecond := Nat.pos_of_ne_zero hsecond
      generalize hshift : (digitCount second.coefficient - digitCount first.coefficient +
        precision + 1 : Int) = shift at hdivided
      have hquotient := quotient_pos hfirst hsecond hshift.symm
      have hscaled : 0 < second.coefficient * 10 ^ (-shift).toNat := by positivity
      rw [abs_div_eq first second shift] at hle
      generalize first.coefficient * 10 ^ shift.toNat = numerator at *
      generalize second.coefficient * 10 ^ (-shift).toNat = denominator at *
      have hrational : (0 : ℚ) < denominator := by exact_mod_cast hscaled
      split at hdivided
      · rename_i hexact
        cases hdivided
        refine le_abs_rounded hdigit (hle.trans_eq ?_)
        rw [abs_value, reduceTo_value, Nat.cast_div (Nat.dvd_of_mod_eq_zero hexact) hrational.ne']
      · cases hdivided
        refine le_abs_rounded hdigit ?_
        rw [abs_value]
        have hbelow : (digit : ℚ) * 10 ^ power < (numerator / denominator + 1 : Nat) *
            10 ^ (first.exponent - second.exponent - shift) := by
          refine lt_of_le_of_lt hle (mul_lt_mul_of_pos_right ?_ (by positivity))
          rw [div_lt_iff₀ hrational]
          exact_mod_cast Nat.lt_mul_of_div_lt (Nat.lt_succ_self _) hscaled
        refine (digit_le_floor hdigit hquotient hbelow).trans ?_
        refine mul_le_mul_of_nonneg_right ?_ (by positivity)
        split
        · exact_mod_cast Nat.le_succ _
        · rfl

/-- **Products.** A number of one digit that an exact product is at least, the product is at
least. -/
theorem le_abs_mul {first second : Decimal} {digit : Nat} {power : Int} (hdigit : digit < 10)
    (hle : (digit : ℚ) * 10 ^ power ≤ |first.value| * |second.value|) :
    (digit : ℚ) * 10 ^ power ≤ |(first.mul second).value| := by
  refine le_abs_rounded hdigit (hle.trans_eq ?_)
  rw [abs_value, abs_value, abs_value]
  push_cast
  rw [zpow_add₀ (by norm_num : (10 : ℚ) ≠ 0)]
  ring

end Decimal

end OdooMcp
