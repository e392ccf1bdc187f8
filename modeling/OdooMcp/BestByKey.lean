import Mathlib.Data.List.Nodup
import Mathlib.Data.List.Perm.Basic
import Mathlib.Data.List.Sort
import Mathlib.Order.Defs.LinearOrder

/-!
# The best row of each key

A table keeps one row for each key. A row that ranks higher than the one of its key takes its place.
What the table holds in the end does not depend on the order of the rows, as long as no two rows of
a key rank alike.
-/

namespace BestByKey

variable {ι κ ρ : Type} [DecidableEq κ] [LinearOrder ρ] (keyOf : ι → κ) (rankOf : ι → ρ)

/-- Put a row in the place of its key if it ranks higher, or at the end if its key is new. -/
def add : List ι → ι → List ι
  | [], row => [row]
  | current :: rest, row =>
      if keyOf current = keyOf row then
        (if rankOf current < rankOf row then row else current) :: rest
      else
        current :: add rest row

def best (rows : List ι) : List ι := rows.foldl (add keyOf rankOf) []

/-- One row for each key of the rows, and none of the key ranks higher. -/
structure Chooses (rows chosen : List ι) : Prop where
  nodup : (chosen.map keyOf).Nodup
  mem : ∀ row ∈ chosen, row ∈ rows
  keys : ∀ row ∈ rows, keyOf row ∈ chosen.map keyOf
  best : ∀ row ∈ chosen, ∀ other ∈ rows, keyOf other = keyOf row → rankOf other ≤ rankOf row

variable {keyOf rankOf}

theorem mem_add {chosen : List ι} {row other : ι} (hother : other ∈ add keyOf rankOf chosen row) :
    other = row ∨ other ∈ chosen := by
  induction chosen with
  | nil => exact .inl (List.mem_singleton.mp hother)
  | cons current rest ih =>
      rw [add] at hother
      split at hother
      · rcases List.mem_cons.mp hother with hfirst | hrest
        · split at hfirst
          · exact .inl hfirst
          · exact .inr (hfirst ▸ List.mem_cons_self)
        · exact .inr (List.mem_cons_of_mem _ hrest)
      · rcases List.mem_cons.mp hother with rfl | hrest
        · exact .inr List.mem_cons_self
        · exact (ih hrest).imp_right (List.mem_cons_of_mem _)

theorem mem_keys_add {chosen : List ι} {row : ι} {key : κ} :
    key ∈ (add keyOf rankOf chosen row).map keyOf ↔ key = keyOf row ∨ key ∈ chosen.map keyOf := by
  induction chosen with
  | nil => simp [add]
  | cons current rest ih =>
      by_cases hkey : keyOf current = keyOf row
      · have hfirst : keyOf (if rankOf current < rankOf row then row else current) = keyOf row := by
          split
          · rfl
          · exact hkey
        rw [add, if_pos hkey, List.map_cons, List.map_cons, List.mem_cons, List.mem_cons,
          hfirst, hkey]
        tauto
      · rw [add, if_neg hkey, List.map_cons, List.map_cons, List.mem_cons, List.mem_cons, ih]
        tauto

variable (rankOf) in
theorem nodup_add {chosen : List ι} (hnodup : (chosen.map keyOf).Nodup) (row : ι) :
    ((add keyOf rankOf chosen row).map keyOf).Nodup := by
  induction chosen with
  | nil => exact List.nodup_singleton _
  | cons current rest ih =>
      rw [List.map_cons, List.nodup_cons] at hnodup
      by_cases hkey : keyOf current = keyOf row
      · have hfirst : keyOf (if rankOf current < rankOf row then row else current) =
            keyOf current := by
          split
          · exact hkey.symm
          · rfl
        rw [add, if_pos hkey, List.map_cons, List.nodup_cons, hfirst]
        exact hnodup
      · rw [add, if_neg hkey, List.map_cons, List.nodup_cons, mem_keys_add]
        exact ⟨fun hmem => hmem.elim hkey hnodup.1, ih hnodup.2⟩

variable (keyOf rankOf) in
/-- A row of the table stays, or gives way to one of its key that ranks higher. -/
theorem exists_add_of_mem {chosen : List ι} (row : ι) {kept : ι} (hkept : kept ∈ chosen) :
    ∃ held ∈ add keyOf rankOf chosen row, keyOf held = keyOf kept ∧ rankOf kept ≤ rankOf held := by
  induction chosen with
  | nil => cases hkept
  | cons current rest ih =>
      rw [add]
      rcases List.mem_cons.mp hkept with rfl | hrest
      · split
        · rename_i hkey
          refine ⟨_, List.mem_cons_self, ?_⟩
          split
          · rename_i hlt
            exact ⟨hkey.symm, hlt.le⟩
          · exact ⟨rfl, le_rfl⟩
        · exact ⟨kept, List.mem_cons_self, rfl, le_rfl⟩
      · split
        · exact ⟨kept, List.mem_cons_of_mem _ hrest, rfl, le_rfl⟩
        · obtain ⟨held, hheld, hsame⟩ := ih hrest
          exact ⟨held, List.mem_cons_of_mem _ hheld, hsame⟩

variable (keyOf rankOf) in
/-- The row of its key ranks at least as high as the one that was added. -/
theorem exists_add_self (chosen : List ι) (row : ι) :
    ∃ held ∈ add keyOf rankOf chosen row, keyOf held = keyOf row ∧ rankOf row ≤ rankOf held := by
  induction chosen with
  | nil => exact ⟨row, List.mem_cons_self, rfl, le_rfl⟩
  | cons current rest ih =>
      rw [add]
      split
      · rename_i hkey
        refine ⟨_, List.mem_cons_self, ?_⟩
        split
        · exact ⟨rfl, le_rfl⟩
        · rename_i hle
          exact ⟨hkey, not_lt.mp hle⟩
      · obtain ⟨held, hheld, hsame⟩ := ih
        exact ⟨held, List.mem_cons_of_mem _ hheld, hsame⟩

omit [LinearOrder ρ] [DecidableEq κ] in
theorem eq_of_key {chosen : List ι} (hnodup : (chosen.map keyOf).Nodup) {first second : ι}
    (hfirst : first ∈ chosen) (hsecond : second ∈ chosen) (hkey : keyOf first = keyOf second) :
    first = second := List.inj_on_of_nodup_map hnodup hfirst hsecond hkey

/-- One row more. -/
theorem Chooses.append {rows chosen : List ι}
    (hchooses : Chooses keyOf rankOf rows chosen) (row : ι) :
    Chooses keyOf rankOf (rows ++ [row]) (add keyOf rankOf chosen row) where
  nodup := nodup_add rankOf hchooses.nodup row
  mem other hother := by
    rw [List.mem_append, List.mem_singleton]
    exact (mem_add hother).symm.imp_left (hchooses.mem other)
  keys other hother := by
    rw [mem_keys_add]
    rw [List.mem_append, List.mem_singleton] at hother
    exact hother.symm.imp (congrArg keyOf) (hchooses.keys other)
  best held hheld other hother hkey := by
    have hnodup := nodup_add rankOf hchooses.nodup row
    rw [List.mem_append, List.mem_singleton] at hother
    rcases hother with hother | rfl
    · obtain ⟨kept, hkept, hkeptKey⟩ := List.mem_map.mp (hchooses.keys other hother)
      obtain ⟨last, hlast, hlastKey, hrank⟩ := exists_add_of_mem keyOf rankOf row hkept
      obtain rfl := eq_of_key hnodup hlast hheld (hlastKey.trans (hkeptKey.trans hkey))
      exact (hchooses.best kept hkept other hother hkeptKey.symm).trans hrank
    · obtain ⟨last, hlast, hlastKey, hrank⟩ := exists_add_self keyOf rankOf chosen other
      obtain rfl := eq_of_key hnodup hlast hheld (hlastKey.trans hkey)
      exact hrank

theorem chooses_foldl {rows chosen : List ι} (hchooses : Chooses keyOf rankOf rows chosen)
    (others : List ι) :
    Chooses keyOf rankOf (rows ++ others) (others.foldl (add keyOf rankOf) chosen) := by
  induction others generalizing rows chosen with
  | nil => rwa [List.append_nil]
  | cons other others ih =>
      have hnext := ih (hchooses.append other)
      rwa [List.append_assoc] at hnext

/-- **The table holds the best row of each key.** -/
theorem chooses_best (rows : List ι) : Chooses keyOf rankOf rows (best keyOf rankOf rows) := by
  have hempty : Chooses keyOf rankOf [] [] :=
    ⟨List.nodup_nil, fun _ hrow => hrow, fun _ hrow => absurd hrow List.not_mem_nil,
      fun _ hrow => absurd hrow List.not_mem_nil⟩
  exact chooses_foldl hempty rows

omit [DecidableEq κ] in
/-- What is chosen does not depend on the order of the rows. -/
theorem Chooses.perm {rows others chosen held : List ι} (hrows : rows.Perm others)
    (hdistinct : ∀ first ∈ rows, ∀ second ∈ rows, keyOf first = keyOf second →
      rankOf first = rankOf second → first = second)
    (hchosen : Chooses keyOf rankOf rows chosen) (hheld : Chooses keyOf rankOf others held) :
    chosen.Perm held := by
  have hsame {first second : ι} (hfirst : first ∈ chosen) (hsecond : second ∈ held)
      (hkey : keyOf first = keyOf second) : first = second := by
    have hfirstRow := hchosen.mem first hfirst
    have hsecondRow := hrows.mem_iff.mpr (hheld.mem second hsecond)
    refine hdistinct first hfirstRow second hsecondRow hkey (le_antisymm ?_ ?_)
    · exact hheld.best second hsecond first (hrows.mem_iff.mp hfirstRow) hkey
    · exact hchosen.best first hfirst second hsecondRow hkey.symm
  refine (List.perm_ext_iff_of_nodup hchosen.nodup.of_map hheld.nodup.of_map).mpr fun row => ?_
  constructor
  · intro hrow
    obtain ⟨second, hsecond, hkey⟩ := List.mem_map.mp
      (hheld.keys row (hrows.mem_iff.mp (hchosen.mem row hrow)))
    exact hsame hrow hsecond hkey.symm ▸ hsecond
  · intro hrow
    obtain ⟨first, hfirst, hkey⟩ := List.mem_map.mp
      (hchosen.keys row (hrows.mem_iff.mpr (hheld.mem row hrow)))
    exact hsame hfirst hrow hkey ▸ hfirst

end BestByKey
