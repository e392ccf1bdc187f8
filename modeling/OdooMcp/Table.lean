import Mathlib.Data.List.Basic
import Mathlib.Data.List.Forall2
import Mathlib.Data.List.Nodup
import Mathlib.Data.List.Pairwise
import Mathlib.Logic.Function.Basic

/-!
# Keyed tables

A table of rows in insertion order in which no two rows share their key, as under a `UNIQUE`
constraint. The constraint is a field, so that inserting a duplicate has to fail and a row is
determined by its key.
-/

variable {ρ κ : Type} [DecidableEq κ]

structure Table (key : ρ → κ) where
  rows : List ρ
  nodup : (rows.map key).Nodup

namespace Table

variable {key : ρ → κ}

instance : Membership ρ (Table key) where
  mem table row := row ∈ table.rows

omit [DecidableEq κ] in
theorem mem_iff {table : Table key} {row : ρ} : row ∈ table ↔ row ∈ table.rows := Iff.rfl

def empty : Table key := ⟨[], List.nodup_nil⟩

omit [DecidableEq κ] in
@[simp]
theorem not_mem_empty {row : ρ} : row ∉ (empty : Table key) := List.not_mem_nil

def find (table : Table key) (k : κ) : Option ρ :=
  table.rows.find? fun row => key row = k

omit [DecidableEq κ] in
theorem eq_of_key_eq {table : Table key} {first second : ρ} (hfirst : first ∈ table)
    (hsecond : second ∈ table) (hkey : key first = key second) : first = second :=
  List.inj_on_of_nodup_map table.nodup hfirst hsecond hkey

@[simp]
theorem find_eq_some_iff {table : Table key} {k : κ} {row : ρ} :
    table.find k = some row ↔ row ∈ table ∧ key row = k := by
  constructor
  · intro hfind
    exact ⟨List.mem_of_find?_eq_some hfind, by simpa using List.find?_some hfind⟩
  · rintro ⟨hmem, rfl⟩
    cases hfind : table.find (key row) with
    | none =>
        have hmissing := List.find?_eq_none.mp hfind row hmem
        simp at hmissing
    | some found =>
        have hkey : key found = key row := by simpa using List.find?_some hfind
        rw [eq_of_key_eq (List.mem_of_find?_eq_some hfind) hmem hkey]

@[simp]
theorem find_eq_none_iff {table : Table key} {k : κ} :
    table.find k = none ↔ ∀ row ∈ table, key row ≠ k := by
  simp [find, List.find?_eq_none, mem_iff]

/-! ### Statements on a table -/

def insert? (table : Table key) (row : ρ) : Option (Table key) :=
  if hkey : key row ∈ table.rows.map key then
    none
  else
    some ⟨table.rows ++ [row], by
      rw [List.map_append, List.map_singleton]
      exact List.Nodup.append table.nodup (List.nodup_singleton _) (by simpa using hkey)⟩

/-- Set columns of the rows a condition selects; the key columns are not among them. -/
def update (table : Table key) (condition : ρ → Bool) (set : ρ → ρ)
    (hkey : ∀ row, key (set row) = key row) : Table key where
  rows := table.rows.map fun row => if condition row then set row else row
  nodup := by
    have hkeys : key ∘ (fun row => if condition row then set row else row) = key := by
      funext row
      simp only [Function.comp_apply]
      split
      · exact hkey row
      · rfl
    rw [List.map_map, hkeys]
    exact table.nodup

def delete (table : Table key) (condition : ρ → Bool) : Table key where
  rows := table.rows.filter fun row => !condition row
  nodup := (List.filter_sublist.map key).nodup table.nodup

def count (table : Table key) (condition : ρ → Bool) : Nat :=
  table.rows.countP condition

theorem mem_insert? {table later : Table key} {row other : ρ}
    (hinsert : table.insert? row = some later) : other ∈ later ↔ other ∈ table ∨ other = row := by
  unfold insert? at hinsert
  split at hinsert
  · cases hinsert
  · cases hinsert
    simp [mem_iff]

theorem rows_insert? {table later : Table key} {row : ρ}
    (hinsert : table.insert? row = some later) : later.rows = table.rows ++ [row] := by
  unfold insert? at hinsert
  split at hinsert
  · cases hinsert
  · cases hinsert
    rfl

theorem insert?_eq_some {table : Table key} {row : ρ}
    (hkey : ∀ other ∈ table, key other ≠ key row) : ∃ later, table.insert? row = some later := by
  unfold insert?
  rw [dif_neg]
  · exact ⟨_, rfl⟩
  · intro hmem
    obtain ⟨other, hother, hsame⟩ := List.mem_map.mp hmem
    exact hkey other hother hsame

theorem key_ne_of_insert? {table later : Table key} {row : ρ}
    (hinsert : table.insert? row = some later) : ∀ other ∈ table, key other ≠ key row := by
  intro other hother hsame
  unfold insert? at hinsert
  rw [dif_pos (List.mem_map.mpr ⟨other, hother, hsame⟩)] at hinsert
  cases hinsert

omit [DecidableEq κ] in
theorem mem_update {table : Table key} {condition : ρ → Bool} {set : ρ → ρ}
    {hkey : ∀ row, key (set row) = key row} {later : ρ} :
    later ∈ table.update condition set hkey ↔
      ∃ row ∈ table, later = if condition row then set row else row := by
  simp only [mem_iff, update, List.mem_map, eq_comm]

omit [DecidableEq κ] in
@[simp]
theorem mem_delete {table : Table key} {condition : ρ → Bool} {row : ρ} :
    row ∈ table.delete condition ↔ row ∈ table ∧ condition row = false := by
  simp [mem_iff, delete]

/-! ### Looking up after a statement -/

theorem find_insert? {table later : Table key} {row : ρ}
    (hinsert : table.insert? row = some later) :
    later.find = Function.update table.find (key row) (some row) := by
  funext k
  by_cases hk : k = key row
  · subst hk
    rw [Function.update_self, find_eq_some_iff]
    exact ⟨(mem_insert? hinsert).mpr (.inr rfl), rfl⟩
  · rw [Function.update_of_ne hk]
    cases hfind : table.find k with
    | none =>
        rw [find_eq_none_iff] at hfind ⊢
        intro other hother
        rcases (mem_insert? hinsert).mp hother with hold | rfl
        · exact hfind other hold
        · exact fun hkey => hk hkey.symm
    | some other =>
        rw [find_eq_some_iff] at hfind ⊢
        exact ⟨(mem_insert? hinsert).mpr (.inl hfind.1), hfind.2⟩

theorem find_delete {table : Table key} {condition : ρ → Bool} {k : κ} :
    (table.delete condition).find k = (table.find k).filter fun row => !condition row := by
  cases hfind : table.find k with
  | none =>
      rw [find_eq_none_iff] at hfind
      rw [Option.filter_none, find_eq_none_iff]
      exact fun row hrow => hfind row (mem_delete.mp hrow).1
  | some row =>
      rw [find_eq_some_iff] at hfind
      cases hcondition : condition row with
      | false =>
          rw [Option.filter_some_pos (by simp [hcondition]), find_eq_some_iff]
          exact ⟨mem_delete.mpr ⟨hfind.1, hcondition⟩, hfind.2⟩
      | true =>
          rw [Option.filter_some_neg (by simp [hcondition]), find_eq_none_iff]
          intro other hother hkey
          have hmem := mem_delete.mp hother
          rw [eq_of_key_eq hmem.1 hfind.1 (hkey.trans hfind.2.symm), hcondition] at hmem
          cases hmem.2

theorem find_update {table : Table key} {condition : ρ → Bool} {set : ρ → ρ} {k : κ}
    (hkey : ∀ row, key (set row) = key row) :
    (table.update condition set hkey).find k =
      (table.find k).map fun row => if condition row then set row else row := by
  have hkeep : ∀ row, key (if condition row then set row else row) = key row := by
    intro row
    split
    · exact hkey row
    · rfl
  cases hfind : table.find k with
  | none =>
      rw [find_eq_none_iff] at hfind
      rw [Option.map_none, find_eq_none_iff]
      intro later hlater
      obtain ⟨row, hrow, rfl⟩ := mem_update.mp hlater
      rw [hkeep]
      exact hfind row hrow
  | some row =>
      rw [find_eq_some_iff] at hfind
      rw [Option.map_some, find_eq_some_iff]
      exact ⟨mem_update.mpr ⟨row, hfind.1, rfl⟩, (hkeep row).trans hfind.2⟩

omit [DecidableEq κ] in
theorem count_pos_iff {table : Table key} {condition : ρ → Bool} :
    0 < table.count condition ↔ ∃ row ∈ table, condition row = true := by
  simp [count, List.countP_pos_iff, mem_iff]

/-! ### Two tables side by side -/

section Related

variable {related : ρ → ρ → Prop} {table other : Table key}

omit [DecidableEq κ] in
theorem keys_eq_of_related (hkey : ∀ row same, related row same → key row = key same)
    (htables : List.Forall₂ related table.rows other.rows) :
    table.rows.map key = other.rows.map key := by
  rw [← List.forall₂_eq_eq_eq, List.forall₂_map_left_iff, List.forall₂_map_right_iff]
  exact htables.imp hkey

/-- Under one key, related tables hold related rows. -/
theorem find_related (hkey : ∀ row same, related row same → key row = key same)
    (htables : List.Forall₂ related table.rows other.rows) (k : κ) :
    Option.Rel related (table.find k) (other.find k) := by
  unfold find
  generalize table.rows = rows, other.rows = others at htables
  induction htables with
  | nil => exact .none
  | @cons row same rows rest hrow _ ih =>
      rw [List.find?_cons, List.find?_cons, ← hkey row same hrow]
      cases decide (key row = k) with
      | true => exact .some hrow
      | false => exact ih

theorem insert?_related (hkey : ∀ row same, related row same → key row = key same)
    (htables : List.Forall₂ related table.rows other.rows) {row same : ρ}
    (hrow : related row same) :
    Option.Rel (fun later after : Table key => List.Forall₂ related later.rows after.rows)
      (table.insert? row) (other.insert? same) := by
  have hmem : key row ∈ table.rows.map key ↔ key same ∈ other.rows.map key := by
    rw [keys_eq_of_related hkey htables, hkey row same hrow]
  unfold insert?
  by_cases hpresent : key row ∈ table.rows.map key
  · rw [dif_pos hpresent, dif_pos (hmem.mp hpresent)]
    exact .none
  · rw [dif_neg hpresent, dif_neg fun hother => hpresent (hmem.mpr hother)]
    exact .some (List.rel_append htables (.cons hrow .nil))

omit [DecidableEq κ] in
theorem update_related {condition : ρ → Bool} {set change : ρ → ρ}
    (hset : ∀ row, key (set row) = key row) (hchange : ∀ row, key (change row) = key row)
    (hcondition : ∀ row same, related row same → condition row = condition same)
    (hrelated : ∀ row same, related row same → related (set row) (change same))
    (htables : List.Forall₂ related table.rows other.rows) :
    List.Forall₂ related (table.update condition set hset).rows
      (other.update condition change hchange).rows := by
  unfold update
  rw [List.forall₂_map_left_iff, List.forall₂_map_right_iff]
  refine htables.imp fun row same hrow => ?_
  rw [← hcondition row same hrow]
  cases condition row with
  | true => exact hrelated row same hrow
  | false => exact hrow

omit [DecidableEq κ] in
theorem delete_related {condition : ρ → Bool}
    (hcondition : ∀ row same, related row same → condition row = condition same)
    (htables : List.Forall₂ related table.rows other.rows) :
    List.Forall₂ related (table.delete condition).rows (other.delete condition).rows := by
  refine List.rel_filter (fun row same hrow => ?_) htables
  change (!condition row) = true ↔ (!condition same) = true
  rw [hcondition row same hrow]

omit [DecidableEq κ] in
theorem count_related {condition : ρ → Bool}
    (hcondition : ∀ row same, related row same → condition row = condition same)
    (htables : List.Forall₂ related table.rows other.rows) :
    table.count condition = other.count condition := by
  unfold count
  generalize table.rows = rows, other.rows = others at htables
  induction htables with
  | nil => rfl
  | @cons row same rows rest hrow _ ih =>
      rw [List.countP_cons, List.countP_cons, ih, hcondition row same hrow]

end Related

end Table
