import OdooMcp.Table

/-!
# Keyed tables with further unique columns

A table in which nullable columns are `UNIQUE` beside the key, and the statements on it: as
functions that fail where a constraint is violated, and as relations between the rows before and
after.
-/

variable {ρ κ : Type} [DecidableEq κ]

/-- A table in which some nullable columns are `UNIQUE` as well: no two rows share a value there. -/
structure UniqueTable (key : ρ → κ) (columns : List (ρ → Option String)) extends Table key where
  unique : ∀ column ∈ columns, (rows.filterMap column).Nodup

namespace UniqueTable

variable {key : ρ → κ} {columns : List (ρ → Option String)}

instance : Membership ρ (UniqueTable key columns) where
  mem table row := row ∈ table.toTable

omit [DecidableEq κ] in
theorem mem_rows {table : UniqueTable key columns} {row : ρ} : row ∈ table.rows ↔ row ∈ table :=
  Iff.rfl

def empty : UniqueTable key columns := ⟨.empty, fun _ _ => List.nodup_nil⟩

omit [DecidableEq κ] in
@[simp]
theorem not_mem_empty {row : ρ} : row ∉ (empty : UniqueTable key columns) := List.not_mem_nil

omit [DecidableEq κ] in
theorem eq_of_key_eq {table : UniqueTable key columns} {first second : ρ} (hfirst : first ∈ table)
    (hsecond : second ∈ table) (hkey : key first = key second) : first = second :=
  Table.eq_of_key_eq hfirst hsecond hkey

omit [DecidableEq κ] in
theorem eq_of_column_eq {table : UniqueTable key columns} {column : ρ → Option String}
    (hcolumn : column ∈ columns) {first second : ρ} {value : String} (hfirst : first ∈ table)
    (hsecond : second ∈ table) (hfirstValue : column first = some value)
    (hsecondValue : column second = some value) : first = second := by
  have hunique := table.unique column hcolumn
  rw [List.Nodup, List.pairwise_filterMap] at hunique
  by_contra hne
  have hsymmetric : Std.Symm fun row other : ρ =>
      ∀ one, column row = some one → ∀ two, column other = some two → one ≠ two :=
    ⟨fun row other hrows one hone two htwo heq => hrows two htwo one hone heq.symm⟩
  exact hunique.forall hfirst hsecond hne value hfirstValue value hsecondValue rfl

def of? (table : Table key) : Option (UniqueTable key columns) :=
  if hunique : ∀ column ∈ columns, (table.rows.filterMap column).Nodup then
    some ⟨table, hunique⟩
  else
    none

omit [DecidableEq κ] in
theorem of?_eq_some {table : Table key} {later : UniqueTable key columns}
    (hof : of? table = some later) : later.toTable = table := by
  unfold of? at hof
  split at hof
  · cases hof
    rfl
  · cases hof

def insert? (table : UniqueTable key columns) (row : ρ) : Option (UniqueTable key columns) :=
  (table.toTable.insert? row).bind of?

def update? (table : UniqueTable key columns) (condition : ρ → Bool) (set : ρ → ρ)
    (hkey : ∀ row, key (set row) = key row) : Option (UniqueTable key columns) :=
  of? (table.toTable.update condition set hkey)

def delete (table : UniqueTable key columns) (condition : ρ → Bool) :
    UniqueTable key columns where
  toTable := table.toTable.delete condition
  unique column hcolumn :=
    (table.unique column hcolumn).sublist (List.filter_sublist.filterMap column)

theorem rows_insert? {table later : UniqueTable key columns} {row : ρ}
    (hinsert : table.insert? row = some later) : later.rows = table.rows ++ [row] := by
  obtain ⟨inserted, htable, hof⟩ := Option.bind_eq_some_iff.mp hinsert
  rw [← Table.rows_insert? htable, ← of?_eq_some hof]

theorem mem_insert? {table later : UniqueTable key columns} {row other : ρ}
    (hinsert : table.insert? row = some later) : other ∈ later ↔ other ∈ table ∨ other = row := by
  rw [← mem_rows, rows_insert? hinsert]
  simp [mem_rows]

theorem key_ne_of_insert? {table later : UniqueTable key columns} {row : ρ}
    (hinsert : table.insert? row = some later) : ∀ other ∈ table, key other ≠ key row := by
  obtain ⟨inserted, htable, -⟩ := Option.bind_eq_some_iff.mp hinsert
  exact Table.key_ne_of_insert? htable

omit [DecidableEq κ] in
theorem rows_update? {table later : UniqueTable key columns} {condition : ρ → Bool} {set : ρ → ρ}
    {hkey : ∀ row, key (set row) = key row}
    (hupdate : table.update? condition set hkey = some later) :
    later.rows = table.rows.map fun row => if condition row then set row else row := by
  have htable : later.toTable = table.toTable.update condition set hkey := of?_eq_some hupdate
  rw [htable]
  rfl

omit [DecidableEq κ] in
theorem mem_update? {table later : UniqueTable key columns} {condition : ρ → Bool} {set : ρ → ρ}
    {hkey : ∀ row, key (set row) = key row}
    (hupdate : table.update? condition set hkey = some later) {other : ρ} :
    other ∈ later ↔ ∃ row ∈ table, other = if condition row then set row else row := by
  rw [← mem_rows, rows_update? hupdate, List.mem_map]
  exact exists_congr fun row => and_congr_right fun _ => eq_comm

omit [DecidableEq κ] in
@[simp]
theorem mem_delete {table : UniqueTable key columns} {condition : ρ → Bool} {row : ρ} :
    row ∈ table.delete condition ↔ row ∈ table ∧ condition row = false :=
  Table.mem_delete

/-! ### Statements as relations -/

/-- `later` is the table after an `UPDATE` of the rows the condition selects. -/
def Updated (condition : ρ → Bool) (change : ρ → ρ) (table later : UniqueTable key columns) :
    Prop :=
  ∀ row, row ∈ later ↔ ∃ old ∈ table, row = if condition old then change old else old

/-- `later` is the table after an `INSERT` of the row. -/
def Inserted (row : ρ) (table later : UniqueTable key columns) : Prop :=
  (∀ other ∈ table, key other ≠ key row) ∧ ∀ other, other ∈ later ↔ other ∈ table ∨ other = row

omit [DecidableEq κ] in
theorem updated_of_update? {table later : UniqueTable key columns} {condition : ρ → Bool}
    {change : ρ → ρ} {hkey : ∀ row, key (change row) = key row}
    (hupdate : table.update? condition change hkey = some later) :
    Updated condition change table later := fun _ => mem_update? hupdate

theorem inserted_of_insert? {table later : UniqueTable key columns} {row : ρ}
    (hinsert : table.insert? row = some later) : Inserted row table later :=
  ⟨key_ne_of_insert? hinsert, fun _ => mem_insert? hinsert⟩

section Updated

variable {table later : UniqueTable key columns} {condition : ρ → Bool} {change : ρ → ρ}

omit [DecidableEq κ] in
/-- A property of rows that the change keeps is kept by the table. -/
theorem Updated.forall_mem (hupdated : Updated condition change table later) {holds : ρ → Prop}
    (htable : ∀ row ∈ table, holds row)
    (hchange : ∀ row ∈ table, condition row = true → holds (change row)) :
    ∀ row ∈ later, holds row := by
  intro row hrow
  obtain ⟨old, hold, rfl⟩ := (hupdated row).mp hrow
  split
  · exact hchange old hold ‹_›
  · exact htable old hold

omit [DecidableEq κ] in
theorem Updated.mem (hupdated : Updated condition change table later) {old : ρ}
    (hold : old ∈ table) : (if condition old then change old else old) ∈ later :=
  (hupdated _).mpr ⟨old, hold, rfl⟩

omit [DecidableEq κ] in
theorem Updated.mem_changed (hupdated : Updated condition change table later) {old : ρ}
    (hold : old ∈ table) (hcondition : condition old = true) : change old ∈ later := by
  have hmem := hupdated.mem hold
  rwa [if_pos hcondition] at hmem

omit [DecidableEq κ] in
theorem Updated.mem_kept (hupdated : Updated condition change table later) {old : ρ}
    (hold : old ∈ table) (hcondition : condition old = false) : old ∈ later := by
  have hmem := hupdated.mem hold
  rwa [if_neg (by simp [hcondition])] at hmem

omit [DecidableEq κ] in
/-- An update that relates every row it changes to what becomes of it. -/
theorem Updated.related (hupdated : Updated condition change table later)
    {relation : ρ → ρ → Prop} (hrefl : ∀ row, relation row row)
    (hchange : ∀ row, condition row = true → relation row (change row)) :
    ∀ row ∈ table, ∃ kept ∈ later, relation row kept := by
  intro row hrow
  refine ⟨_, hupdated.mem hrow, ?_⟩
  split
  · exact hchange row ‹_›
  · exact hrefl row

omit [DecidableEq κ] in
theorem Inserted.forall_mem {row : ρ} (hinserted : Inserted row table later) {holds : ρ → Prop}
    (htable : ∀ other ∈ table, holds other) (hrow : holds row) : ∀ other ∈ later, holds other := by
  intro other hother
  rcases (hinserted.2 other).mp hother with hold | rfl
  · exact htable other hold
  · exact hrow

omit [DecidableEq κ] in
theorem Inserted.mem {row other : ρ} (hinserted : Inserted row table later)
    (hother : other ∈ table) : other ∈ later :=
  (hinserted.2 other).mpr (.inl hother)

omit [DecidableEq κ] in
theorem Inserted.mem_self {row : ρ} (hinserted : Inserted row table later) : row ∈ later :=
  (hinserted.2 row).mpr (.inr rfl)

omit [DecidableEq κ] in
theorem Inserted.related {row : ρ} (hinserted : Inserted row table later)
    {relation : ρ → ρ → Prop} (hrefl : ∀ row, relation row row) :
    ∀ row ∈ table, ∃ kept ∈ later, relation row kept :=
  fun other hother => ⟨other, hinserted.mem hother, hrefl other⟩

end Updated

/-! ### Successions -/

/-- How the rows of a table continue over time: a row may stay as it is, and keeps its key. -/
structure Continuation (key : ρ → κ) (continues : ρ → ρ → Prop) : Prop where
  refl : ∀ row, continues row row
  trans : ∀ {first second third}, continues first second → continues second third →
    continues first third
  key : ∀ {row kept}, continues row kept → key kept = key row

/-- The rows of the later table are new, under keys that the table did not have, or continue one of
its rows. -/
def Succession (new : ρ → Prop) (continues : ρ → ρ → Prop)
    (table later : UniqueTable key columns) : Prop :=
  ∀ kept ∈ later, ((∀ row ∈ table, key row ≠ key kept) ∧ new kept) ∨
    ∃ row ∈ table, continues row kept

section Succession

variable {table middle later : UniqueTable key columns} {new : ρ → Prop}
  {continues : ρ → ρ → Prop} {condition : ρ → Bool} {change : ρ → ρ}

omit [DecidableEq κ] in
theorem Continuation.succession_refl (hcontinues : Continuation key continues)
    (table : UniqueTable key columns) : Succession new continues table table :=
  fun row hrow => .inr ⟨row, hrow, hcontinues.refl row⟩

omit [DecidableEq κ] in
theorem Inserted.succession {row : ρ} (hinserted : Inserted row table later)
    (hcontinues : Continuation key continues) (hnew : new row) :
    Succession new continues table later := by
  intro kept hkept
  rcases (hinserted.2 kept).mp hkept with hold | rfl
  · exact .inr ⟨kept, hold, hcontinues.refl kept⟩
  · exact .inl ⟨hinserted.1, hnew⟩

omit [DecidableEq κ] in
theorem Updated.continued (hupdated : Updated condition change table later)
    (hcontinues : Continuation key continues)
    (hchange : ∀ row ∈ table, condition row = true → continues row (change row)) :
    ∀ kept ∈ later, ∃ row ∈ table, continues row kept := by
  intro kept hkept
  obtain ⟨row, hrow, rfl⟩ := (hupdated kept).mp hkept
  refine ⟨row, hrow, ?_⟩
  split
  · exact hchange row hrow ‹_›
  · exact hcontinues.refl row

omit [DecidableEq κ] in
theorem Updated.succession (hupdated : Updated condition change table later)
    (hcontinues : Continuation key continues)
    (hchange : ∀ row ∈ table, condition row = true → continues row (change row)) :
    Succession new continues table later :=
  fun kept hkept => .inr (hupdated.continued hcontinues hchange kept hkept)

omit [DecidableEq κ] in
/-- An update loses no key, so what is new after it was new before. -/
theorem Succession.after_update (hsuccession : Succession new continues middle later)
    (hcontinues : Continuation key continues) (hupdated : Updated condition change table middle)
    (hchange : ∀ row ∈ table, condition row = true → continues row (change row)) :
    Succession new continues table later := by
  intro kept hkept
  rcases hsuccession kept hkept with ⟨hfresh, hnew⟩ | ⟨row, hrow, hkeeps⟩
  · refine .inl ⟨fun row hrow => ?_, hnew⟩
    have hkey : key (if condition row then change row else row) = key row := by
      split
      · exact hcontinues.key (hchange row hrow ‹_›)
      · rfl
    rw [← hkey]
    exact hfresh _ (hupdated.mem hrow)
  · obtain ⟨old, hold, hbefore⟩ := hupdated.continued hcontinues hchange row hrow
    exact .inr ⟨old, hold, hcontinues.trans hbefore hkeeps⟩

omit [DecidableEq κ] in
theorem Succession.after_insert {row : ρ} (hsuccession : Succession new continues middle later)
    (hcontinues : Continuation key continues) (hinserted : Inserted row table middle)
    (hnew : ∀ kept, continues row kept → new kept) : Succession new continues table later := by
  intro kept hkept
  rcases hsuccession kept hkept with ⟨hfresh, hkeptNew⟩ | ⟨old, hold, hkeeps⟩
  · exact .inl ⟨fun other hother => hfresh other (hinserted.mem hother), hkeptNew⟩
  · rcases (hinserted.2 old).mp hold with hmem | rfl
    · exact .inr ⟨old, hmem, hkeeps⟩
    · refine .inl ⟨fun other hother => ?_, hnew kept hkeeps⟩
      rw [hcontinues.key hkeeps]
      exact hinserted.1 other hother

omit [DecidableEq κ] in
/-- The row under a key that the table had continues the row it had there. -/
theorem Succession.continues_of_key_eq (hsuccession : Succession new continues table later)
    (hcontinues : Continuation key continues) {row kept : ρ} (hrow : row ∈ table)
    (hkept : kept ∈ later) (hkey : key kept = key row) : continues row kept := by
  rcases hsuccession kept hkept with ⟨hfresh, -⟩ | ⟨old, hold, hkeeps⟩
  · exact absurd hkey.symm (hfresh row hrow)
  · obtain rfl := eq_of_key_eq hold hrow ((hcontinues.key hkeeps).symm.trans hkey)
    exact hkeeps

omit [DecidableEq κ] in
/-- The row under a key that the table did not have is new. -/
theorem Succession.new_of_key_ne (hsuccession : Succession new continues table later)
    (hcontinues : Continuation key continues) {kept : ρ} (hkept : kept ∈ later)
    (hkey : ∀ row ∈ table, key row ≠ key kept) : new kept := by
  rcases hsuccession kept hkept with ⟨-, hnew⟩ | ⟨row, hrow, hkeeps⟩
  · exact hnew
  · exact absurd (hcontinues.key hkeeps).symm (hkey row hrow)

end Succession

end UniqueTable
