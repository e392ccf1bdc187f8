import OdooMcp.Table

/-!
# Tables with an `AUTOINCREMENT` key

A table whose rows are keyed by a number that the table gives out. The counter lies above every
number in use, so that an insertion cannot fail and a number is never given out twice.
-/

variable {ρ : Type}

structure AutoTable (id : ρ → Nat) extends Table id where
  nextId : Nat
  id_lt : ∀ row ∈ toTable, id row < nextId

namespace AutoTable

variable {id : ρ → Nat} {table : AutoTable id} {row other : ρ}

instance : Membership ρ (AutoTable id) where
  mem table row := row ∈ table.toTable

def empty : AutoTable id where
  toTable := .empty
  nextId := 1
  id_lt := by simp

@[simp]
theorem not_mem_empty : row ∉ (empty : AutoTable id) := List.not_mem_nil

theorem eq_of_id_eq (hrow : row ∈ table) (hother : other ∈ table) (hid : id row = id other) :
    row = other :=
  Table.eq_of_key_eq hrow hother hid

def insert (table : AutoTable id) (row : ρ) (hid : id row = table.nextId) : AutoTable id where
  rows := table.rows ++ [row]
  nodup := by
    rw [List.map_append, List.map_singleton]
    refine List.Nodup.append table.nodup (List.nodup_singleton _) ?_
    intro number hnumber hnext
    obtain ⟨other, hother, rfl⟩ := List.mem_map.mp hnumber
    rw [List.mem_singleton, hid] at hnext
    exact absurd hnext (Nat.ne_of_lt (table.id_lt other hother))
  nextId := table.nextId + 1
  id_lt := by
    intro other hother
    rcases List.mem_append.mp hother with hold | hnew
    · exact Nat.lt_succ_of_lt (table.id_lt other hold)
    · rw [List.mem_singleton.mp hnew, hid]
      exact Nat.lt_succ_self _

theorem mem_insert (hid : id row = table.nextId) :
    other ∈ table.insert row hid ↔ other ∈ table ∨ other = row := by
  change other ∈ table.rows ++ [row] ↔ other ∈ table.rows ∨ other = row
  rw [List.mem_append, List.mem_singleton]

/-- Set columns of the rows a condition selects; the key is not among them. -/
def update (table : AutoTable id) (condition : ρ → Bool) (set : ρ → ρ)
    (hid : ∀ row, id (set row) = id row) : AutoTable id where
  toTable := table.toTable.update condition set hid
  nextId := table.nextId
  id_lt := by
    intro later hlater
    obtain ⟨row, hrow, rfl⟩ := Table.mem_update.mp hlater
    split
    · rw [hid]
      exact table.id_lt row hrow
    · exact table.id_lt row hrow

theorem mem_update {condition : ρ → Bool} {set : ρ → ρ} {hid : ∀ row, id (set row) = id row} :
    other ∈ table.update condition set hid ↔
      ∃ row ∈ table, other = if condition row then set row else row := by
  change other ∈ table.toTable.update condition set hid ↔ _
  exact Table.mem_update

/-- A condition that selects at most one row counts one if it selects a row. -/
theorem count_eq_one_iff {condition : ρ → Bool}
    (hsame : ∀ first ∈ table, ∀ second ∈ table,
      condition first = true → condition second = true → first = second) :
    table.toTable.count condition = 1 ↔ ∃ row ∈ table, condition row = true := by
  have hpos : 0 < table.toTable.count condition ↔ ∃ row ∈ table, condition row = true :=
    Table.count_pos_iff
  rw [← hpos]
  refine ⟨fun hone => hone ▸ Nat.one_pos, fun hsome => ?_⟩
  have hnodup : (table.rows.filter condition).Nodup := (List.Nodup.of_map id table.nodup).filter _
  rw [Table.count, List.countP_eq_length_filter] at hsome ⊢
  rcases hfiltered : table.rows.filter condition with _ | ⟨first, _ | ⟨second, rest⟩⟩
  · simp [hfiltered] at hsome
  · rfl
  · have hfirst : first ∈ table.rows.filter condition := by simp [hfiltered]
    have hsecond : second ∈ table.rows.filter condition := by simp [hfiltered]
    obtain ⟨hfirst, hfirstHolds⟩ := List.mem_filter.mp hfirst
    obtain ⟨hsecond, hsecondHolds⟩ := List.mem_filter.mp hsecond
    have heq : first = second := hsame first hfirst second hsecond hfirstHolds hsecondHolds
    rw [hfiltered, heq] at hnodup
    simp at hnodup

/-! ### Looking up -/

theorem find_eq_some_iff {number : Nat} :
    table.find number = some row ↔ row ∈ table ∧ id row = number :=
  Table.find_eq_some_iff

theorem find_insert {hid : id row = table.nextId} :
    (table.insert row hid).find = Function.update table.find table.nextId (some row) := by
  funext number
  by_cases hnumber : number = table.nextId
  · subst hnumber
    rw [Function.update_self, find_eq_some_iff]
    exact ⟨(mem_insert hid).mpr (.inr rfl), hid⟩
  · rw [Function.update_of_ne hnumber]
    ext other
    rw [find_eq_some_iff, find_eq_some_iff, mem_insert]
    constructor
    · rintro ⟨hold | rfl, rfl⟩
      · exact ⟨hold, rfl⟩
      · exact absurd hid hnumber
    · rintro ⟨hold, hother⟩
      exact ⟨.inl hold, hother⟩

theorem find_update {condition : ρ → Bool} {set : ρ → ρ} {hid : ∀ row, id (set row) = id row}
    {number : Nat} :
    (table.update condition set hid).find number =
      (table.find number).map fun row => if condition row then set row else row :=
  Table.find_update hid

theorem lt_nextId_of_find {number : Nat} (hfind : table.find number = some row) :
    number < table.nextId := by
  obtain ⟨hrow, rfl⟩ := find_eq_some_iff.mp hfind
  exact table.id_lt row hrow

theorem find_nextId : table.find table.nextId = none := by
  rw [Option.eq_none_iff_forall_ne_some]
  exact fun row hfind => Nat.lt_irrefl _ (lt_nextId_of_find hfind)

end AutoTable
