import OdooMcp.DecimalSums

/-!
# Exact quotients

A number that the digits of the context can hold is not changed by rounding. So the quotient of a
multiple is exact, and rounding a multiple of an increment to the increment changes nothing.
-/

namespace OdooMcp

namespace Decimal

theorem negative_rounded (decimal : Decimal) : decimal.rounded.negative = decimal.negative := by
  unfold rounded
  dsimp only
  split
  · rfl
  · split <;> rfl

theorem value_eq_of_abs {first second : Decimal} (hnegative : first.negative = second.negative)
    (habs : |first.value| = |second.value|) : first.value = second.value := by
  rw [abs_value, abs_value] at habs
  unfold value sign
  rw [hnegative, habs]

theorem shorten_of_dvd {coefficient quotient drop : Nat}
    (hdvd : coefficient = quotient * 10 ^ drop) :
    shorten coefficient drop = quotient := by
  have hpower : 0 < 10 ^ drop := by positivity
  unfold shorten
  rw [hdvd, Nat.mul_div_cancel _ hpower, Nat.mul_mod_left]
  dsimp only
  rw [if_neg]
  simp
  omega

/-- **A number that the context can hold is not rounded.** -/
theorem value_rounded {decimal : Decimal} {held : Nat} {power : Int} (hheld : held < 10 ^ precision)
    (hvalue : |decimal.value| = held * 10 ^ power) : decimal.rounded.value = decimal.value := by
  rcases le_or_gt (digitCount decimal.coefficient) precision with hshort | hlong
  · rw [rounded_of_short hshort]
  · obtain ⟨less, hdigits⟩ := Nat.exists_eq_add_of_lt hlong
    generalize hdrop : less + 1 = drop at hdigits
    have hdigits : digitCount decimal.coefficient = precision + drop := by omega
    have hpositive : 0 < drop := by omega
    have hcoefficient : 10 ^ (precision + drop - 1) ≤ decimal.coefficient :=
      pow_le_of_digitCount
        (by rw [← hdrop]; exact Nat.lt_of_lt_of_le (by decide) (Nat.le_add_right _ _))
        (by omega)
    rw [abs_value] at hvalue
    have hle : decimal.exponent + drop ≤ power := by
      by_contra hlt
      have hpower : (10 : ℚ) ^ power ≤ 10 ^ (decimal.exponent + (drop - 1 : Nat)) :=
        zpow_le_zpow_right₀ (by norm_num) (by omega)
      have hwhole : (10 : ℚ) ^ precision * 10 ^ (decimal.exponent + (drop - 1 : Nat)) =
          10 ^ (precision + drop - 1) * 10 ^ decimal.exponent := by
        rw [zpow_add₀ (by norm_num : (10 : ℚ) ≠ 0), zpow_natCast,
          Nat.add_sub_assoc hpositive, pow_add]
        ring
      have hsmall : (held : ℚ) * 10 ^ power < 10 ^ precision * 10 ^ power :=
        mul_lt_mul_of_pos_right (by exact_mod_cast hheld) (by positivity)
      have hlarge : (10 : ℚ) ^ (precision + drop - 1) * 10 ^ decimal.exponent ≤
          decimal.coefficient * 10 ^ decimal.exponent :=
        mul_le_mul_of_nonneg_right (by exact_mod_cast hcoefficient) (by positivity)
      have hscaled : (10 : ℚ) ^ precision * 10 ^ power ≤
          10 ^ precision * 10 ^ (decimal.exponent + (drop - 1 : Nat)) :=
        mul_le_mul_of_nonneg_left hpower (by positivity)
      linarith
    have hdvd : decimal.coefficient =
        held * 10 ^ (power - (decimal.exponent + drop)).toNat * 10 ^ drop := by
      have hequal : (decimal.coefficient : ℚ) * 10 ^ decimal.exponent =
          (held * 10 ^ (power - (decimal.exponent + drop)).toNat * 10 ^ drop : Nat) *
            10 ^ decimal.exponent := by
        rw [hvalue, zpow_toNat hle, zpow_add₀ (by norm_num : (10 : ℚ) ≠ 0), zpow_natCast]
        push_cast
        ring
      exact_mod_cast mul_right_cancel₀ (by positivity) hequal
    refine value_eq_of_abs (negative_rounded decimal) ?_
    rw [abs_rounded hpositive hdigits, shorten_of_dvd hdvd, abs_value, hvalue, zpow_toNat hle]
    push_cast
    ring

theorem value_rounded_zero (negative : Bool) (exponent : Int) :
    (Decimal.mk negative 0 exponent).rounded.value = 0 := by
  have hzero : (Decimal.mk negative 0 exponent).value = 0 := (value_eq_zero_iff _).mpr rfl
  have hvalue : |(Decimal.mk negative 0 exponent).value| = (0 : Nat) * 10 ^ (0 : Int) := by
    rw [hzero, abs_zero, Nat.cast_zero, zero_mul]
  rw [value_rounded (by positivity) hvalue, hzero]

/-! ### Quotients -/

theorem value_of_nonneg {decimal : Decimal} (hnonneg : 0 ≤ decimal.value) :
    decimal.value = decimal.coefficient * 10 ^ decimal.exponent := by
  rw [← abs_value, abs_of_nonneg hnonneg]

theorem negative_of_pos {decimal : Decimal} (hpositive : 0 < decimal.value) :
    decimal.negative = false := by
  by_contra hnegative
  rw [Bool.not_eq_false] at hnegative
  have hnonneg : (0 : ℚ) ≤ decimal.coefficient * 10 ^ decimal.exponent := by positivity
  unfold value sign at hpositive
  rw [hnegative, if_pos rfl] at hpositive
  linarith

/-- The shift of a quotient gives it more digits than the context keeps. -/
theorem le_shifted {first second : Nat} (hfirst : 0 < first) {shift : Int}
    (hshift : shift = digitCount second - digitCount first + precision + 1) :
    10 ^ precision * (second * 10 ^ (-shift).toNat) ≤ first * 10 ^ shift.toNat := by
  have hpositive := digitCount_pos first
  calc 10 ^ precision * (second * 10 ^ (-shift).toNat)
      ≤ 10 ^ precision * (10 ^ digitCount second * 10 ^ (-shift).toNat) :=
        Nat.mul_le_mul_left _ (Nat.mul_le_mul_right _ (lt_of_digitCount second).le)
    _ = 10 ^ (precision + (digitCount second + (-shift).toNat)) := by rw [pow_add, pow_add]
    _ ≤ 10 ^ (digitCount first - 1 + shift.toNat) := Nat.pow_le_pow_right (by decide) (by omega)
    _ = 10 ^ (digitCount first - 1) * 10 ^ shift.toNat := pow_add _ _ _
    _ ≤ first * 10 ^ shift.toNat := Nat.mul_le_mul_right _ (le_of_digitCount hfirst)

/-- A whole number that a shifted quotient stands for divides it. -/
theorem exists_shifted {numerator denominator units : Nat} {power : Int}
    (hdenominator : 0 < denominator) (hunits : units < 10 ^ precision)
    (hlarge : 10 ^ precision * denominator ≤ numerator)
    (hquotient : (numerator : ℚ) / denominator * 10 ^ power = units) :
    numerator = units * 10 ^ (-power).toNat * denominator := by
  have hpositive : (0 : ℚ) < denominator := by exact_mod_cast hdenominator
  have hnegative : power ≤ 0 := by
    by_contra hlt
    have hone : (1 : ℚ) ≤ 10 ^ power := one_le_zpow₀ (by norm_num) (by omega)
    have hle : (10 : ℚ) ^ precision ≤ numerator / denominator := by
      rw [le_div_iff₀ hpositive]
      exact_mod_cast hlarge
    have hscaled : (10 : ℚ) ^ precision ≤ numerator / denominator * 10 ^ power :=
      hle.trans (le_mul_of_one_le_right (le_trans (by positivity) hle) hone)
    rw [hquotient] at hscaled
    exact absurd hunits (not_lt.mpr (by exact_mod_cast hscaled))
  have hpower : (10 : ℚ) ^ power * 10 ^ (-power).toNat = 1 := by
    rw [← zpow_natCast, ← zpow_add₀ (by norm_num : (10 : ℚ) ≠ 0), Int.toNat_of_nonneg (by omega)]
    simp
  have hequal : (numerator : ℚ) = (units * 10 ^ (-power).toNat * denominator : Nat) := by
    push_cast
    rw [← hquotient, mul_assoc _ ((10 : ℚ) ^ power), hpower, mul_one,
      div_mul_cancel₀ _ hpositive.ne']
  exact_mod_cast hequal

/-- The quotient of a multiple is exact. -/
theorem div_multiple {first second : Decimal} {units : Nat} (hunits : units < 10 ^ precision)
    (hsecond : 0 < second.value) (hmultiple : first.value = units * second.value) :
    ∃ quotient, first.div second = some quotient ∧ quotient.value = units ∧
      (0 < units → quotient.negative = false) := by
  have hcoefficient : second.coefficient ≠ 0 := fun hzero =>
    ne_of_gt hsecond ((value_eq_zero_iff second).mpr hzero)
  have hsecondSign := negative_of_pos hsecond
  rw [div]
  dsimp only
  rw [if_neg hcoefficient]
  rcases Nat.eq_zero_or_pos units with rfl | hpositive
  · have hfirst : first.coefficient = 0 := by
      rw [← value_eq_zero_iff, hmultiple, Nat.cast_zero, zero_mul]
    rw [if_pos hfirst]
    refine ⟨_, rfl, ?_, fun hnone => absurd hnone (lt_irrefl 0)⟩
    rw [value_rounded_zero, Nat.cast_zero]
  · have hfirstPos : 0 < first.value := by
      rw [hmultiple]
      positivity
    have hfirst : first.coefficient ≠ 0 := fun hzero =>
      ne_of_gt hfirstPos ((value_eq_zero_iff first).mpr hzero)
    have hfirstSign := negative_of_pos hfirstPos
    rw [if_neg hfirst]
    generalize hshift : (digitCount second.coefficient - digitCount first.coefficient +
      precision + 1 : Int) = shift
    have hquotient : (first.coefficient * 10 ^ shift.toNat : Nat) /
        (second.coefficient * 10 ^ (-shift).toNat : Nat) *
          (10 : ℚ) ^ (first.exponent - second.exponent - shift) = units := by
      rw [← abs_div_eq, hmultiple, abs_mul, mul_div_assoc, div_self (abs_ne_zero.mpr hsecond.ne'),
        mul_one, Nat.abs_cast]
    have hnumerator := exists_shifted (by positivity) hunits
      (le_shifted (Nat.pos_of_ne_zero hfirst) hshift.symm) hquotient
    generalize first.coefficient * 10 ^ shift.toNat = numerator at hnumerator hquotient
    have hdenominator : 0 < second.coefficient * 10 ^ (-shift).toNat :=
      Nat.mul_pos (Nat.pos_of_ne_zero hcoefficient) (by positivity)
    generalize hnamed : second.coefficient * 10 ^ (-shift).toNat = denominator
    rw [hnamed] at hnumerator hquotient hdenominator
    have hwhole : numerator % denominator = 0 := by
      rw [hnumerator, Nat.mul_mod_left]
    rw [if_pos hwhole]
    have hreduced := reduceTo_value (first.exponent - second.exponent) (numerator / denominator)
      (first.exponent - second.exponent - shift)
    rw [Nat.cast_div (Nat.dvd_of_mod_eq_zero hwhole) (by exact_mod_cast hdenominator.ne'),
      hquotient] at hreduced
    have hsign : (first.negative != second.negative) = false := by
      rw [hfirstSign, hsecondSign]
      rfl
    refine ⟨_, rfl, ?_, fun _ => ?_⟩
    · have habs (negative : Bool) (exponent : Int) (coefficient : Nat)
          (hexact : (coefficient : ℚ) * 10 ^ exponent = units) :
          |(Decimal.mk negative coefficient exponent).value| = units * 10 ^ (0 : Int) := by
        rw [abs_value, zpow_zero, mul_one]
        exact hexact
      rw [value_rounded hunits (habs _ _ _ hreduced), value, hsign]
      exact (one_mul _).trans hreduced
    · rw [negative_rounded]
      exact hsign

theorem quantizeUnit_whole {value : Decimal} {units : Nat} (hunits : units < 10 ^ precision)
    (hvalue : value.value = units) :
    value.quantizeUnit = some ⟨value.negative, units, 0⟩ := by
  have hcoefficient : (value.coefficient : ℚ) * 10 ^ value.exponent = units := by
    rw [← abs_value, hvalue, Nat.abs_cast]
  have hdigits : digitCount units ≤ precision := (digitCount_le_iff (by decide)).mpr hunits
  unfold quantizeUnit
  split
  · rename_i hexponent
    have hwhole : value.coefficient * 10 ^ value.exponent.toNat = units := by
      have hpower : (10 : ℚ) ^ value.exponent = 10 ^ value.exponent.toNat := by
        rw [← zpow_natCast, Int.toNat_of_nonneg hexponent]
      rw [hpower] at hcoefficient
      exact_mod_cast hcoefficient
    rw [hwhole, if_pos hdigits]
  · rename_i hexponent
    have hwhole : value.coefficient = units * 10 ^ (-value.exponent).toNat := by
      have hpower : (10 : ℚ) ^ value.exponent * 10 ^ (-value.exponent).toNat = 1 := by
        rw [← zpow_natCast, ← zpow_add₀ (by norm_num : (10 : ℚ) ≠ 0),
          Int.toNat_of_nonneg (by omega)]
        simp
      have hequal : (value.coefficient : ℚ) = (units * 10 ^ (-value.exponent).toNat : Nat) := by
        push_cast
        rw [← hcoefficient, mul_assoc, hpower, mul_one]
      exact_mod_cast hequal
    have hpositive : 0 < 10 ^ (-value.exponent).toNat := by positivity
    have hquotient : (2 * value.coefficient + 10 ^ (-value.exponent).toNat) /
        (2 * 10 ^ (-value.exponent).toNat) = units := by
      rw [hwhole]
      generalize 10 ^ (-value.exponent).toNat = power at hpositive
      have hsame : units * (2 * power) = 2 * (units * power) := by ring
      rw [Nat.div_eq_iff (by omega), hsame]
      omega
    rw [hquotient, if_pos hdigits]

/-- A multiple that the context can hold with the places of the increment has few enough units. -/
theorem lt_of_multiple {increment : Decimal} {units places : Nat} (hincrement : 0 < increment.value)
    (hplaces : increment.HasPlaces places) (hbelow : units * increment.value < capacity places) :
    units < 10 ^ precision := by
  have hcoefficient : increment.coefficient ≠ 0 := fun hzero =>
    ne_of_gt hincrement ((value_eq_zero_iff increment).mpr hzero)
  have hone : (1 : ℚ) ≤ increment.coefficient := by
    exact_mod_cast Nat.one_le_iff_ne_zero.mpr hcoefficient
  have hpower : (10 : ℚ) ^ (-(places : Int)) ≤ 10 ^ increment.exponent :=
    zpow_le_zpow_right₀ (by norm_num) hplaces
  have hsmallest : (10 : ℚ) ^ (-(places : Int)) ≤ increment.value := by
    rw [value_of_nonneg hincrement.le]
    exact hpower.trans (le_mul_of_one_le_left (by positivity) hone)
  have hscaled : (units : ℚ) * 10 ^ (-(places : Int)) < capacity places :=
    lt_of_le_of_lt (mul_le_mul_of_nonneg_left hsmallest (Nat.cast_nonneg _)) hbelow
  rw [capacity, zpow_neg, zpow_natCast, ← div_eq_mul_inv,
    div_lt_div_iff_of_pos_right (by positivity)] at hscaled
  exact_mod_cast hscaled

/-- **Rounding a multiple of an increment to the increment changes nothing**, as long as the context
can hold it. -/
theorem roundedTo_multiple {amount increment : Decimal} {units places : Nat}
    (hincrement : 0 < increment.value) (hplaces : increment.HasPlaces places)
    (hmultiple : amount.value = units * increment.value) (hbelow : amount.value < capacity places) :
    ∃ rounded, amount.roundedTo increment = some rounded ∧ rounded.value = amount.value := by
  have hunits := lt_of_multiple hincrement hplaces (hmultiple ▸ hbelow)
  obtain ⟨quotient, hquotient, hvalue, hsign⟩ := div_multiple hunits hincrement hmultiple
  have hunit := quantizeUnit_whole hunits hvalue
  refine ⟨(Decimal.mk quotient.negative units 0).mul increment, ?_, ?_⟩
  · rw [roundedTo, hquotient]
    change (quotient.quantizeUnit.bind _) = _
    rw [hunit]
    rfl
  · rw [mul]
    dsimp only
    rw [zero_add]
    rcases Nat.eq_zero_or_pos units with rfl | hpositive
    · rw [Nat.zero_mul, value_rounded_zero, hmultiple, Nat.cast_zero, zero_mul]
    · have hproduct : (Decimal.mk (quotient.negative != increment.negative)
          (units * increment.coefficient) increment.exponent).value = amount.value := by
        rw [value, sign, hsign hpositive, negative_of_pos hincrement, hmultiple,
          value_of_nonneg hincrement.le]
        push_cast
        ring_nf
        simp
      have hnonneg : 0 ≤ amount.value := by
        rw [hmultiple]
        positivity
      have hshort : (Decimal.mk (quotient.negative != increment.negative)
          (units * increment.coefficient) increment.exponent).Short := by
        refine short_of_lt hplaces ?_
        rw [hproduct, abs_of_nonneg hnonneg]
        exact hbelow
      rw [rounded_of_short hshort, hproduct]

end Decimal

end OdooMcp
