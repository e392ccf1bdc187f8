import Mathlib.Algebra.BigOperators.Group.List.Basic

/-!
# Tallies

A dictionary of accumulators, in the order in which its keys came. An accumulator is started when
its key is first met, and changed by every item of the key.
-/

abbrev Tally (κ α : Type) := List (κ × α)

namespace Tally

variable {κ α β : Type} [DecidableEq κ]

def change (key : κ) (initial : α) (step : α → α) : Tally κ α → Tally κ α
  | [] => [(key, step initial)]
  | entry :: rest =>
      if entry.1 = key then
        (entry.1, step entry.2) :: rest
      else
        entry :: change key initial step rest

variable {key : κ} {initial : α} {step : α → α}

theorem keys_change (tally : Tally κ α) :
    (change key initial step tally).map Prod.fst =
      if key ∈ tally.map Prod.fst then tally.map Prod.fst else tally.map Prod.fst ++ [key] := by
  induction tally with
  | nil => rfl
  | cons entry rest ih =>
      unfold change
      by_cases hentry : entry.1 = key
      · rw [if_pos hentry, if_pos (by simp [hentry])]
        rfl
      · rw [if_neg hentry, List.map_cons, ih, List.map_cons]
        have hmem : key ∈ entry.1 :: rest.map Prod.fst ↔ key ∈ rest.map Prod.fst := by
          simp [Ne.symm hentry]
        simp only [hmem]
        split <;> rfl

theorem mem_keys_change {tally : Tally κ α} {other : κ} :
    other ∈ (change key initial step tally).map Prod.fst ↔
      other ∈ tally.map Prod.fst ∨ other = key := by
  rw [keys_change]
  split
  · rename_i hkey
    exact ⟨.inl, fun hother => hother.elim id fun heq => heq ▸ hkey⟩
  · rw [List.mem_append, List.mem_singleton]

theorem nodup_change {tally : Tally κ α} (hnodup : (tally.map Prod.fst).Nodup) :
    ((change key initial step tally).map Prod.fst).Nodup := by
  rw [keys_change]
  split
  · exact hnodup
  · rename_i hkey
    refine List.nodup_append.mpr ⟨hnodup, by simp, fun one hone two htwo heq => hkey ?_⟩
    rwa [← List.mem_singleton.mp htwo, ← heq]

/-- What holds of the accumulators, and of the one that is started, is kept. -/
theorem forall_change {holds : κ → α → Prop} {tally : Tally κ α}
    (htally : ∀ entry ∈ tally, holds entry.1 entry.2) (hinitial : holds key initial)
    (hstep : ∀ value, holds key value → holds key (step value)) :
    ∀ entry ∈ change key initial step tally, holds entry.1 entry.2 := by
  induction tally with
  | nil =>
      intro entry hentry
      rw [List.mem_singleton.mp hentry]
      exact hstep initial hinitial
  | cons first rest ih =>
      obtain ⟨hfirst, hrest⟩ := List.forall_mem_cons.mp htally
      unfold change
      split
      · rename_i hkey
        exact List.forall_mem_cons.mpr ⟨hkey ▸ hstep first.2 (hkey ▸ hfirst), hrest⟩
      · exact List.forall_mem_cons.mpr ⟨hfirst, ih hrest⟩

section Sums

variable {M : Type} [AddCommMonoid M]

omit [DecidableEq κ] in
def weigh (weight : κ → α → M) (tally : Tally κ α) : M :=
  (tally.map fun entry => weight entry.1 entry.2).sum

omit [DecidableEq κ] in
theorem weigh_cons (weight : κ → α → M) (entry : κ × α) (rest : Tally κ α) :
    weigh weight (entry :: rest) = weight entry.1 entry.2 + weigh weight rest := by
  rw [weigh, List.map_cons, List.sum_cons]
  rfl

theorem weigh_change {weight : κ → α → M} {gain : M} (hinitial : weight key initial = 0)
    (hstep : ∀ value, weight key (step value) = weight key value + gain) (tally : Tally κ α) :
    weigh weight (change key initial step tally) = weigh weight tally + gain := by
  induction tally with
  | nil =>
      change weight key (step initial) + 0 = 0 + gain
      rw [hstep, hinitial, add_zero]
  | cons entry rest ih =>
      unfold change
      split
      · rename_i hkey
        rw [weigh_cons, weigh_cons, hkey, hstep, add_right_comm]
      · rw [weigh_cons, weigh_cons, ih, add_assoc]

/-- Distinct keys: the entry of a key is all that a tally weighs under the key. -/
theorem weigh_of_mem {tally : Tally κ α} (hnodup : (tally.map Prod.fst).Nodup) {entry : κ × α}
    (hentry : entry ∈ tally) (weight : α → M) :
    weigh (fun key value => if key = entry.1 then weight value else 0) tally = weight entry.2 := by
  induction tally with
  | nil => cases hentry
  | cons first rest ih =>
      rw [List.map_cons, List.nodup_cons] at hnodup
      rw [weigh_cons]
      rcases List.mem_cons.mp hentry with rfl | hrest
      · rw [if_pos rfl]
        have hnone : weigh (fun key value => if key = entry.1 then weight value else (0 : M)) rest =
            0 := by
          refine List.sum_eq_zero fun value hvalue => ?_
          obtain ⟨other, hother, rfl⟩ := List.mem_map.mp hvalue
          refine if_neg fun hkey => hnodup.1 ?_
          exact hkey ▸ List.mem_map_of_mem hother
        rw [hnone, add_zero]
      · have hother : first.1 ≠ entry.1 := fun hkey =>
          hnodup.1 (hkey ▸ List.mem_map_of_mem hrest)
        rw [if_neg hother, zero_add, ih hnodup.2 hrest]

end Sums

/-! ### The tally of a list -/

section Lists

variable {ι : Type} {key : ι → κ} {initial : ι → α} {step : ι → α → α} {items : List ι}

def changeAll (key : ι → κ) (initial : ι → α) (step : ι → α → α) (items : List ι)
    (tally : Tally κ α) : Tally κ α :=
  items.foldl (fun tally item => tally.change (key item) (initial item) (step item)) tally

theorem mem_keys_changeAll {tally : Tally κ α} {other : κ} :
    other ∈ (changeAll key initial step items tally).map Prod.fst ↔
      other ∈ tally.map Prod.fst ∨ ∃ item ∈ items, key item = other := by
  induction items generalizing tally with
  | nil => simp [changeAll]
  | cons item items ih =>
      have hrest : other ∈ (changeAll key initial step (item :: items) tally).map Prod.fst ↔ _ :=
        ih
      rw [hrest, mem_keys_change, List.exists_mem_cons_iff, or_assoc, eq_comm]

theorem forall_changeAll (holds : κ → α → Prop) {tally : Tally κ α}
    (htally : ∀ entry ∈ tally, holds entry.1 entry.2)
    (hinitial : ∀ item ∈ items, holds (key item) (initial item))
    (hstep : ∀ item ∈ items, ∀ value, holds (key item) value → holds (key item) (step item value)) :
    ∀ entry ∈ changeAll key initial step items tally, holds entry.1 entry.2 := by
  induction items generalizing tally with
  | nil => exact htally
  | cons item items ih =>
      rw [List.forall_mem_cons] at hinitial hstep
      exact ih (forall_change htally hinitial.1 hstep.1) hinitial.2 hstep.2

theorem weigh_changeAll {M : Type} [AddCommMonoid M] (weight : κ → α → M) (gain : ι → M)
    (hinitial : ∀ item ∈ items, weight (key item) (initial item) = 0)
    (hstep : ∀ item ∈ items, ∀ value,
      weight (key item) (step item value) = weight (key item) value + gain item)
    (tally : Tally κ α) :
    weigh weight (changeAll key initial step items tally) =
      weigh weight tally + (items.map gain).sum := by
  induction items generalizing tally with
  | nil => exact (add_zero _).symm
  | cons item items ih =>
      rw [List.forall_mem_cons] at hinitial hstep
      rw [List.map_cons, List.sum_cons, ← add_assoc,
        ← weigh_change hinitial.1 hstep.1 tally]
      exact ih hinitial.2 hstep.2 _

end Lists

/-! ### Sums by key -/

section Fibers

variable {ι κ M : Type} [DecidableEq κ] [AddCommMonoid M]

omit [DecidableEq κ] in
/-- What a test leaves out counts for nothing. -/
theorem sum_selected (selects : ι → Bool) (weight : ι → M) (items : List ι) :
    (items.map fun item => if selects item then weight item else 0).sum =
      ((items.filter selects).map weight).sum := by
  induction items with
  | nil => rfl
  | cons item items ih =>
      rw [List.map_cons, List.sum_cons, ih, List.filter_cons]
      split
      · rw [List.map_cons, List.sum_cons]
      · rw [zero_add]

/-- One of some distinct keys is met once. -/
theorem sum_key {keys : List κ} (hkeys : keys.Nodup) (key : κ) (weight : M) :
    (keys.map fun other => if key = other then weight else 0).sum =
      if key ∈ keys then weight else 0 := by
  induction keys with
  | nil => rfl
  | cons first keys ih =>
      rw [List.nodup_cons] at hkeys
      rw [List.map_cons, List.sum_cons, ih hkeys.2]
      by_cases hfirst : key = first
      · rw [if_pos hfirst, hfirst, if_neg hkeys.1, if_pos List.mem_cons_self, add_zero]
      · rw [if_neg hfirst, zero_add]
        simp [hfirst]

/-- Items whose key is one of some distinct keys are summed once, key by key. -/
theorem sum_fibers {keys : List κ} (hkeys : keys.Nodup) (keyOf : ι → κ) (weight : ι → M)
    (items : List ι) :
    (keys.map fun key => ((items.filter fun item => keyOf item = key).map weight).sum).sum =
      ((items.filter fun item => keyOf item ∈ keys).map weight).sum := by
  induction items with
  | nil => simp
  | cons item items ih =>
      have hsplit (key : κ) :
          (((item :: items).filter fun item => keyOf item = key).map weight).sum =
            (if keyOf item = key then weight item else 0) +
              ((items.filter fun item => keyOf item = key).map weight).sum := by
        rw [List.filter_cons]
        by_cases hkey : keyOf item = key
        · simp [hkey]
        · simp [hkey]
      simp only [hsplit]
      rw [List.sum_map_add, ih, sum_key hkeys, List.filter_cons]
      by_cases hmem : keyOf item ∈ keys
      · simp [hmem]
      · simp [hmem]

end Fibers

end Tally
