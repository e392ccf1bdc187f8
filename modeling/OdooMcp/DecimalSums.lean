import OdooMcp.DecimalRounding

/-!
# Exact sums

The context rounds no sum of decimals with so many places, as long as what is summed stays below the
largest number that the digits of the context hold with these places.
-/

namespace OdooMcp

namespace Decimal

/-- At most so many places after the point. -/
def HasPlaces (places : Nat) (decimal : Decimal) : Prop := -(places : Int) ≤ decimal.exponent

instance (places : Nat) (decimal : Decimal) : Decidable (decimal.HasPlaces places) :=
  inferInstanceAs (Decidable (_ ≤ _))

/-- What a number with so many places has to be below. -/
def capacity (places : Nat) : ℚ := 10 ^ precision / 10 ^ places

variable {places : Nat} {first second : Decimal}

theorem short_of_lt {decimal : Decimal} (hplaces : decimal.HasPlaces places)
    (hlt : |decimal.value| < capacity places) : decimal.Short := by
  refine (digitCount_le_iff (by decide)).mpr ?_
  have hpower : (1 : ℚ) / 10 ^ places ≤ 10 ^ decimal.exponent := by
    rw [one_div, ← zpow_natCast, ← zpow_neg]
    exact zpow_le_zpow_right₀ (by norm_num) hplaces
  have hbelow : (decimal.coefficient : ℚ) * (1 / 10 ^ places) <
      10 ^ precision * (1 / 10 ^ places) := by
    rw [abs_value, capacity, div_eq_mul_one_div] at hlt
    exact lt_of_le_of_lt (mul_le_mul_of_nonneg_left hpower (by positivity)) hlt
  exact_mod_cast lt_of_mul_lt_mul_right hbelow (by positivity)

/-- A sum below the capacity is exact. -/
theorem value_add (hfirst : first.HasPlaces places) (hsecond : second.HasPlaces places)
    (hlt : |first.value + second.value| < capacity places) :
    (first.add second).value = first.value + second.value ∧
      (first.add second).HasPlaces places := by
  obtain ⟨exact, hrounded, hvalue, hexponent⟩ := add_eq_rounded first second
  have hplaces : exact.HasPlaces places := by
    unfold HasPlaces
    rw [hexponent]
    exact le_min hfirst hsecond
  rw [hrounded, rounded_of_short (short_of_lt hplaces (hvalue ▸ hlt))]
  exact ⟨hvalue, hplaces⟩

theorem HasPlaces.negated (hfirst : first.HasPlaces places) :
    first.negated.HasPlaces places := hfirst

/-- A difference below the capacity is exact. -/
theorem value_sub (hfirst : first.HasPlaces places) (hsecond : second.HasPlaces places)
    (hlt : |first.value - second.value| < capacity places) :
    (first.sub second).value = first.value - second.value ∧
      (first.sub second).HasPlaces places := by
  rw [sub_eq_add_neg, ← value_negated] at hlt ⊢
  exact value_add hfirst hsecond.negated hlt

/-- **Sums.** A total is exact if the sizes of all summands stay below the capacity. -/
theorem value_total {values : List Decimal} (hplaces : ∀ value ∈ values, value.HasPlaces places)
    (hlt : (values.map fun value => |value.value|).sum < capacity places) :
    (Arithmetic.total values).value = (values.map value).sum ∧
      (Arithmetic.total values : Decimal).HasPlaces places := by
  have hfold (start : Decimal) (hstart : start.HasPlaces places)
      (hbelow : |start.value| + (values.map fun value => |value.value|).sum < capacity places) :
      (values.foldl Arithmetic.add start).value = start.value + (values.map value).sum ∧
        (values.foldl Arithmetic.add start).HasPlaces places := by
    clear hlt
    induction values generalizing start with
    | nil => exact ⟨(add_zero _).symm, hstart⟩
    | cons first rest ih =>
        obtain ⟨hfirst, hrest⟩ := List.forall_mem_cons.mp hplaces
        rw [List.map_cons, List.sum_cons] at hbelow
        have hnonneg : 0 ≤ (rest.map fun value => |value.value|).sum :=
          List.sum_nonneg (by simp)
        have htriangle := abs_add_le start.value first.value
        obtain ⟨hvalue, hadded⟩ := value_add hstart hfirst (by linarith)
        obtain ⟨htotal, hresult⟩ := ih hrest (start.add first) hadded (by rw [hvalue]; linarith)
        refine ⟨?_, hresult⟩
        rw [List.map_cons, List.sum_cons, ← add_assoc, ← hvalue]
        exact htotal
  have hzero : (Arithmetic.zero : Decimal).value = 0 := by decide +kernel
  have hstart : (Arithmetic.zero : Decimal).HasPlaces places := by
    change -(places : Int) ≤ 0
    omega
  obtain ⟨htotal, hresult⟩ := hfold Arithmetic.zero hstart (by rwa [hzero, abs_zero, zero_add])
  exact ⟨by rw [Arithmetic.total, htotal, hzero, zero_add], hresult⟩

end Decimal

end OdooMcp
