import Mathlib.Data.List.Dedup
import Mathlib.Data.List.Sort
import Mathlib.Data.String.Basic
import OdooMcp.Effect.Ensemble
import OdooMcp.Effect.Statements
import OdooMcp.Errors
import OdooMcp.Table

/-!
# Ordered migrations of the SQLite store

`apply_migrations` creates the history table in one transaction, reads it in a second one, and runs
each migration that is missing in a transaction of its own, together with its history row. The
database is the history table beside the rest of the schema. A `MigrationEngine` says what
statements make of the schema; that `connection.execute` does this and no more is the named
hypothesis `SQLiteEngine.KeepsToSchema` of the results about connections.
-/

namespace OdooMcp

open Effect

structure Migration where
  identifier : String
  statements : List String
  deriving DecidableEq

def Migration.checksum (sha256 : String → String) (migration : Migration) : String :=
  sha256 ("\n-- statement --\n".intercalate migration.statements)

/-- A row of `schema_migrations`. -/
structure MigrationRow where
  id : String
  checksum : String
  appliedAt : String

structure MigrationDatabase (σ : Type) where
  schema : σ
  history : Option (Table MigrationRow.id)

inductive MigrationException
  | sqliteError (message : String)
  | migrationError (message : String)
  | other (message : String)
  deriving DecidableEq

/-- What a statement makes of the schema, and the hash of the checksums. -/
structure MigrationEngine (σ : Type) where
  execute : String → σ → Except MigrationException σ
  sha256 : String → String

inductive MigrationRequest
  | createHistory
  | readHistory
  | apply (migration : Migration)
  deriving DecidableEq

abbrev migrationSignature : Signature where
  Request := MigrationRequest
  Result
    | .createHistory => Unit
    | .readHistory => List (String × String)
    | .apply _ => Unit

variable {σ : Type}

/-! ### The transactions -/

/-- `CREATE TABLE IF NOT EXISTS schema_migrations` -/
def createHistory : Statements (MigrationDatabase σ) MigrationException Unit :=
  modify fun database => { database with history := some (database.history.getD .empty) }

/-- `SELECT id, checksum FROM schema_migrations ORDER BY id` -/
def MigrationDatabase.entries (database : MigrationDatabase σ) : List (String × String) :=
  match database.history with
  | some table =>
      (table.rows.insertionSort (·.id ≤ ·.id)).map fun row => (row.id, row.checksum)
  | none => []

def readHistory : Statements (MigrationDatabase σ) MigrationException (List (String × String)) := do
  let database ← get
  let _ ← Statements.found database.history (.sqliteError "no such table: schema_migrations")
  return database.entries

/-- `INSERT INTO schema_migrations (id, checksum, applied_at) VALUES (?, ?, ?)` -/
def insertMigration (row : MigrationRow) :
    Statements (MigrationDatabase σ) MigrationException Unit := do
  let database ← get
  let table ← Statements.found database.history (.sqliteError "no such table: schema_migrations")
  let later ← Statements.found (table.insert? row)
    (.sqliteError "UNIQUE constraint failed: schema_migrations.id")
  set { database with history := some later }

def applyOne (migration : Migration) : Program migrationSignature MigrationException Unit :=
  tryCatch (Program.call (S := migrationSignature) (.apply migration)) fun error =>
    match error with
    | .sqliteError _ => throw (.migrationError s!"Migration {migration.identifier} failed")
    | error => throw error

namespace MigrationEngine

variable (engine : MigrationEngine σ)

def entry (migration : Migration) : String × String :=
  (migration.identifier, migration.checksum engine.sha256)

def executeStatement (statement : String) :
    Statements (MigrationDatabase σ) MigrationException Unit := do
  let database ← get
  let schema ← liftM (engine.execute statement database.schema)
  set { database with schema := schema }

def migrate (migration : Migration) (appliedAt : String) :
    Statements (MigrationDatabase σ) MigrationException Unit := do
  forM migration.statements engine.executeStatement
  insertMigration ⟨migration.identifier, migration.checksum engine.sha256, appliedAt⟩

/-- What a transaction answers and leaves; the time a migration is recorded at is not determined. -/
def Performs : (request : MigrationRequest) → MigrationDatabase σ →
    Except MigrationException (migrationSignature.Result request) → MigrationDatabase σ → Prop
  | .createHistory, database, answer, later => createHistory.commit database = (answer, later)
  | .readHistory, database, answer, later => readHistory.commit database = (answer, later)
  | .apply migration, database, answer, later =>
      ∃ appliedAt, (engine.migrate migration appliedAt).commit database = (answer, later)

/-! ### The program -/

/-- The part of `apply_migrations` after the history table is there. -/
def applyMissing (migrations : List Migration) :
    Program migrationSignature MigrationException Unit := do
  let identifiers := migrations.map Migration.identifier
  let applied ← Program.call (S := migrationSignature) .readHistory
  if applied.map Prod.fst ≠ identifiers.take applied.length then
    throw (.migrationError "Applied migration history is not a known ordered prefix")
  let expected (identifier : String) : Option String :=
    (migrations.find? (·.identifier = identifier)).map (Migration.checksum engine.sha256)
  if applied.any fun row => expected row.1 ≠ some row.2 then
    throw (.migrationError "An applied migration does not match its immutable checksum")
  forM (migrations.drop applied.length) applyOne

def applyMigrations (migrations : List Migration) :
    Program migrationSignature MigrationException Unit := do
  let identifiers := migrations.map Migration.identifier
  if identifiers.dedup.length ≠ identifiers.length ∨
      identifiers ≠ identifiers.insertionSort (· ≤ ·) then
    throw (.migrationError "Migration identifiers must be unique and ordered")
  Program.call (S := migrationSignature) .createHistory
  engine.applyMissing migrations

/-! ### What the transactions do -/

def schemaAfter (migration : Migration) (schema : σ) : Except MigrationException σ :=
  migration.statements.foldlM (fun reached statement => engine.execute statement reached) schema

def schemaAfterAll (migrations : List Migration) (schema : σ) : Except MigrationException σ :=
  migrations.foldlM (fun reached migration => engine.schemaAfter migration reached) schema

/-- The history records the first migrations of the list, so many of them, with their checksums. -/
def AtPrefix (migrations : List Migration) (count : Nat) (database : MigrationDatabase σ) : Prop :=
  count ≤ migrations.length ∧ database.entries = (migrations.take count).map engine.entry

variable {engine} {database later : MigrationDatabase σ} {migration : Migration}

theorem forM_executeStatement {statements : List String} {value : PUnit} :
    (forM statements engine.executeStatement) database = .ok (value, later) ↔
      statements.foldlM (fun reached statement => engine.execute statement reached)
          database.schema = .ok later.schema ∧
        later.history = database.history := by
  induction statements generalizing database with
  | nil =>
      rw [List.forM_nil, Statements.pure_ok, List.foldlM_nil]
      constructor
      · rintro ⟨-, rfl⟩
        exact ⟨rfl, rfl⟩
      · rintro ⟨hschema, hhistory⟩
        refine ⟨rfl, ?_⟩
        cases database
        cases later
        cases hschema
        cases hhistory
        rfl
  | cons statement statements ih =>
      rw [List.forM_cons, Statements.bind_ok, List.foldlM_cons, except_bind_ok]
      simp only [ih, executeStatement, Statements.bind_ok, Statements.get_ok, Statements.lift_ok,
        Statements.set_ok]
      constructor
      · rintro ⟨_, _, ⟨_, _, ⟨rfl, rfl⟩, schema, _, ⟨hschema, rfl⟩, rfl⟩, hrest, hhistory⟩
        exact ⟨⟨schema, hschema, hrest⟩, hhistory⟩
      · rintro ⟨⟨schema, hschema, hrest⟩, hhistory⟩
        exact ⟨⟨⟩, _, ⟨_, _, ⟨rfl, rfl⟩, schema, _, ⟨hschema, rfl⟩, rfl⟩, hrest, hhistory⟩

theorem insertMigration_ok {row : MigrationRow} {value : Unit} :
    insertMigration row database = .ok (value, later) ↔
      later.schema = database.schema ∧ ∃ table inserted, database.history = some table ∧
        table.insert? row = some inserted ∧ later.history = some inserted := by
  simp only [insertMigration, Statements.bind_ok, Statements.get_ok, Statements.found_ok,
    Statements.set_ok]
  constructor
  · rintro ⟨_, _, ⟨rfl, rfl⟩, table, _, ⟨htable, rfl⟩, inserted, _, ⟨hinserted, rfl⟩, rfl⟩
    exact ⟨rfl, table, inserted, htable, hinserted, rfl⟩
  · rintro ⟨hschema, table, inserted, htable, hinserted, hlater⟩
    refine ⟨_, _, ⟨rfl, rfl⟩, table, _, ⟨htable, rfl⟩, inserted, _, ⟨hinserted, rfl⟩, ?_⟩
    cases database
    cases later
    cases hschema
    cases hlater
    rfl

theorem migrate_ok {appliedAt : String} {value : Unit} :
    engine.migrate migration appliedAt database = .ok (value, later) ↔
      engine.schemaAfter migration database.schema = .ok later.schema ∧
        ∃ table inserted, database.history = some table ∧
          table.insert? ⟨migration.identifier, migration.checksum engine.sha256, appliedAt⟩ =
            some inserted ∧
          later.history = some inserted := by
  simp only [migrate, Statements.bind_ok, forM_executeStatement, insertMigration_ok]
  constructor
  · rintro ⟨-, middle, ⟨hschema, hhistory⟩, hlater, table, inserted, htable, hinserted, hrows⟩
    exact ⟨hlater ▸ hschema, table, inserted, hhistory ▸ htable, hinserted, hrows⟩
  · rintro ⟨hschema, table, inserted, htable, hinserted, hrows⟩
    exact ⟨⟨⟩, ⟨later.schema, database.history⟩, ⟨hschema, rfl⟩, rfl, table, inserted, htable,
      hinserted, hrows⟩

/-- A transaction that raised has changed nothing. -/
theorem performs_error {request : MigrationRequest} {error : MigrationException}
    (hperforms : engine.Performs request database (.error error) later) : later = database := by
  cases request with
  | createHistory => exact (Statements.commit_error.mp hperforms).2
  | readHistory => exact (Statements.commit_error.mp hperforms).2
  | apply migration =>
      obtain ⟨appliedAt, hcommit⟩ := hperforms
      exact (Statements.commit_error.mp hcommit).2

end MigrationEngine

/-! ### The recorded history -/

theorem insertionSort_concat {rows : List MigrationRow} {row : MigrationRow}
    (hlast : ∀ other ∈ rows, other.id ≤ row.id) :
    (rows ++ [row]).insertionSort (·.id ≤ ·.id) = rows.insertionSort (·.id ≤ ·.id) ++ [row] := by
  have hordered (other : MigrationRow) (hother : other.id ≤ row.id) (sorted : List MigrationRow) :
      (sorted ++ [row]).orderedInsert (·.id ≤ ·.id) other =
        sorted.orderedInsert (·.id ≤ ·.id) other ++ [row] := by
    induction sorted with
    | nil => simp [hother]
    | cons head sorted ih =>
        simp only [List.cons_append, List.orderedInsert_cons, ih]
        split <;> rfl
  induction rows with
  | nil => rfl
  | cons other rows ih =>
      rw [List.cons_append, List.insertionSort_cons, List.insertionSort_cons,
        ih fun other hother => hlast other (List.mem_cons_of_mem _ hother),
        hordered other (hlast other List.mem_cons_self)]

theorem mem_ids_entries {database : MigrationDatabase σ} {table : Table MigrationRow.id}
    (hhistory : database.history = some table) {id : String} :
    id ∈ database.entries.map Prod.fst ↔ ∃ row ∈ table.rows, row.id = id := by
  unfold MigrationDatabase.entries
  rw [hhistory]
  simp only [List.map_map, List.mem_map, List.mem_insertionSort, Function.comp_apply]

theorem entries_insert {database later : MigrationDatabase σ}
    {table inserted : Table MigrationRow.id}
    {row : MigrationRow} (hhistory : database.history = some table)
    (hinsert : table.insert? row = some inserted) (hlater : later.history = some inserted)
    (hlast : ∀ id ∈ database.entries.map Prod.fst, id < row.id) :
    later.entries = database.entries ++ [(row.id, row.checksum)] := by
  have hrows (other : MigrationRow) (hother : other ∈ table.rows) : other.id ≤ row.id :=
    le_of_lt (hlast _ ((mem_ids_entries hhistory).mpr ⟨other, hother, rfl⟩))
  unfold MigrationDatabase.entries
  rw [hhistory, hlater]
  simp only
  rw [Table.rows_insert? hinsert, insertionSort_concat hrows, List.map_append]
  rfl

end OdooMcp
