import OdooMcp.DateTime
import OdooMcp.Effect.Statements
import OdooMcp.PyValue
import OdooMcp.Table

/-!
# Rows and transactions of the write journal

Instants are microseconds since 0001-01-01T00:00:00Z. A transaction runs its statements on the
store and is rolled back as a whole when one of them raises.
-/

namespace OdooMcp

abbrev Instant := Nat

open Calendar in
/-- `timestamp(value)` of an aware datetime. -/
def timestamp (instant : Instant) : String :=
  let second := instant / 1000000
  let (year, month, day) := civil (second / 86400)
  padded 4 year ++ "-" ++ padded 2 month ++ "-" ++ padded 2 day ++ "T" ++
    padded 2 (second % 86400 / 3600) ++ ":" ++ padded 2 (second % 3600 / 60) ++ ":" ++
    padded 2 (second % 60) ++ "." ++ padded 6 (instant % 1000000) ++ "Z"

/-- The first instant after the year 9999, the last one a `datetime` has. -/
def endOfTime : Instant := 3652059 * 86400000000

example : timestamp 63844847999000001 = "2024-02-29T23:59:59.000001Z" := by rfl

inductive IdempotencyState
  | inProgress
  | succeeded
  | failed
  | unknown
  deriving DecidableEq, Repr

inductive IdempotencyDisposition
  | reserved
  | inProgress
  | replay
  deriving DecidableEq, Repr

structure IdempotencyDecision where
  disposition : IdempotencyDisposition
  state : IdempotencyState
  ownerRequestId : String
  response : Option Payload
  expiresAt : Instant

structure AuditEvent where
  requestId : String
  tenantId : String
  companyId : Option Int
  toolName : String
  toolVersion : String
  module : String
  authenticatedSubject : String
  mcpClient : String
  odooDbName : Option String
  odooUser : Option String
  odooVersion : Option String
  odooTransport : Option String
  inputPayload : Payload
  dryRun : Bool
  proposedAction : Option Payload
  actualResult : Option Payload
  affectedOdooRecords : List String
  errorCode : Option String
  errorMessage : Option String
  finalStatus : String
  createdAt : Option DateTime

/-- A row of `audit_log`. -/
structure AuditRow where
  id : Nat
  requestId : String
  tenantId : String
  companyId : Option Int
  toolName : String
  toolVersion : String
  module : String
  authenticatedSubject : String
  mcpClient : String
  odooDbName : Option String
  odooUser : Option String
  odooVersion : Option String
  odooTransport : Option String
  inputPayload : Json
  dryRun : Bool
  proposedAction : Option Json
  actualResult : Option Json
  affectedOdooRecords : Json
  errorCode : Option String
  errorMessage : Option String
  finalStatus : String
  previousHash : String
  entryHash : String
  createdAt : String

/-- `UNIQUE (tenant_id, entry_hash)` -/
def AuditRow.key (row : AuditRow) : String × String := (row.tenantId, row.entryHash)

structure IdempotencyKey where
  tenantId : String
  toolName : String
  idempotencyKey : String
  deriving DecidableEq, Repr

def AuditEvent.idempotencyKey (event : AuditEvent) (idempotencyKey : String) : IdempotencyKey :=
  ⟨event.tenantId, event.toolName, idempotencyKey⟩

/-- A row of `idempotency_keys`. -/
structure IdempotencyRow where
  id : Nat
  tenantId : String
  companyId : Int
  toolName : String
  idempotencyKey : String
  requestHash : String
  state : IdempotencyState
  ownerRequestId : String
  responseJson : Option Json
  expiresAt : Instant
  createdAt : Instant
  updatedAt : Instant

/-- `UNIQUE (tenant_id, tool_name, idempotency_key)` -/
def IdempotencyRow.key (row : IdempotencyRow) : IdempotencyKey :=
  ⟨row.tenantId, row.toolName, row.idempotencyKey⟩

/-- The table with its `AUTOINCREMENT` counter: a fresh row id is larger than any given out. -/
structure IdempotencyKeys where
  table : Table IdempotencyRow.key
  nextId : Nat
  id_lt : ∀ row ∈ table, row.id < nextId
  id_inj : ∀ first ∈ table, ∀ second ∈ table, first.id = second.id → first = second

namespace IdempotencyKeys

def empty : IdempotencyKeys where
  table := .empty
  nextId := 1
  id_lt := by simp
  id_inj := by simp

def insert? (keys : IdempotencyKeys) (row : IdempotencyRow) : Option IdempotencyKeys :=
  match hinsert : keys.table.insert? { row with id := keys.nextId } with
  | none => none
  | some table => some
      { table := table
        nextId := keys.nextId + 1
        id_lt := by
          intro other hother
          rcases (Table.mem_insert? hinsert).mp hother with hold | rfl
          · exact Nat.lt_succ_of_lt (keys.id_lt other hold)
          · exact Nat.lt_succ_self _
        id_inj := by
          intro first hfirst second hsecond hid
          rcases (Table.mem_insert? hinsert).mp hfirst with hfirst | rfl <;>
            rcases (Table.mem_insert? hinsert).mp hsecond with hsecond | rfl
          · exact keys.id_inj first hfirst second hsecond hid
          · have hlt := keys.id_lt first hfirst
            simp only at hid
            omega
          · have hlt := keys.id_lt second hsecond
            simp only at hid
            omega
          · rfl }

/-- `DELETE FROM idempotency_keys WHERE id = ?` -/
def delete (keys : IdempotencyKeys) (id : Nat) : IdempotencyKeys where
  table := keys.table.delete fun row => row.id = id
  nextId := keys.nextId
  id_lt := by
    intro row hrow
    exact keys.id_lt row (Table.mem_delete.mp hrow).1
  id_inj := by
    intro first hfirst second hsecond
    exact keys.id_inj first (Table.mem_delete.mp hfirst).1 second (Table.mem_delete.mp hsecond).1

def setOutcome (state : IdempotencyState) (response : Json) (updatedAt : Instant)
    (row : IdempotencyRow) : IdempotencyRow :=
  { row with state := state, responseJson := some response, updatedAt := updatedAt }

def update (keys : IdempotencyKeys) (condition : IdempotencyRow → Bool) (state : IdempotencyState)
    (response : Json) (updatedAt : Instant) : IdempotencyKeys where
  table := keys.table.update condition (setOutcome state response updatedAt) fun _ => rfl
  nextId := keys.nextId
  id_lt := by
    intro later hlater
    obtain ⟨row, hrow, rfl⟩ := Table.mem_update.mp hlater
    have hlt := keys.id_lt row hrow
    split <;> exact hlt
  id_inj := by
    intro first hfirst second hsecond hid
    obtain ⟨row, hrow, rfl⟩ := Table.mem_update.mp hfirst
    obtain ⟨other, hother, rfl⟩ := Table.mem_update.mp hsecond
    have hsame : row.id = other.id := by
      by_cases hrowSet : condition row <;> by_cases hotherSet : condition other <;>
        simpa [hrowSet, hotherSet, setOutcome] using hid
    rw [keys.id_inj row hrow other hother hsame]

def find (keys : IdempotencyKeys) (key : IdempotencyKey) : Option IdempotencyRow :=
  keys.table.find key

theorem find_empty (key : IdempotencyKey) : empty.find key = none := by
  simp [find, empty]

theorem id_lt_of_find {keys : IdempotencyKeys} {key : IdempotencyKey} {row : IdempotencyRow}
    (hfind : keys.find key = some row) : row.id < keys.nextId :=
  keys.id_lt row (Table.find_eq_some_iff.mp hfind).1

theorem key_of_find {keys : IdempotencyKeys} {key : IdempotencyKey} {row : IdempotencyRow}
    (hfind : keys.find key = some row) : row.key = key :=
  (Table.find_eq_some_iff.mp hfind).2

theorem find_insert? {keys later : IdempotencyKeys} {row : IdempotencyRow}
    (hinsert : keys.insert? row = some later) :
    later.find = Function.update keys.find row.key (some { row with id := keys.nextId }) := by
  unfold insert? at hinsert
  split at hinsert
  · cases hinsert
  · cases hinsert
    exact Table.find_insert? ‹_›

theorem insert?_none {keys : IdempotencyKeys} {row : IdempotencyRow}
    (htable : keys.table.insert? { row with id := keys.nextId } = none) :
    keys.insert? row = none := by
  unfold insert?
  split
  · rfl
  · rename_i hinsert
    rw [htable] at hinsert
    cases hinsert

theorem insert?_some {keys : IdempotencyKeys} {row : IdempotencyRow}
    {table : Table IdempotencyRow.key}
    (htable : keys.table.insert? { row with id := keys.nextId } = some table) :
    ∃ later, keys.insert? row = some later ∧ later.table = table ∧
      later.nextId = keys.nextId + 1 := by
  unfold insert?
  split
  · rename_i hinsert
    rw [htable] at hinsert
    cases hinsert
  · rename_i inserted hinsert
    rw [htable] at hinsert
    cases hinsert
    exact ⟨_, rfl, rfl, rfl⟩

/-- Deleting by row id removes the row found under its key, and no other. -/
theorem find_delete {keys : IdempotencyKeys} {row : IdempotencyRow}
    (hfind : keys.find row.key = some row) :
    (keys.delete row.id).find = Function.update keys.find row.key none := by
  funext key
  change (keys.table.delete _).find key = _
  rw [Table.find_delete]
  by_cases hkey : key = row.key
  · subst hkey
    rw [Function.update_self]
    change (keys.find row.key).filter _ = none
    rw [hfind, Option.filter_some_neg (by simp)]
  · rw [Function.update_of_ne hkey]
    change (keys.find key).filter _ = keys.find key
    cases hother : keys.find key with
    | none => rfl
    | some other =>
        refine Option.filter_some_pos ?_
        have hne : other.id ≠ row.id := by
          intro hid
          have hsame := keys.id_inj other (Table.find_eq_some_iff.mp hother).1 row
            (Table.find_eq_some_iff.mp hfind).1 hid
          exact hkey (by rw [← key_of_find hother, hsame])
        simpa using hne

theorem find_update {keys : IdempotencyKeys} {condition : IdempotencyRow → Bool}
    {state : IdempotencyState} {response : Json} {updatedAt : Instant} (key : IdempotencyKey) :
    (keys.update condition state response updatedAt).find key =
      (keys.find key).map fun row =>
        if condition row then setOutcome state response updatedAt row else row := by
  have hkeep : ∀ row, (setOutcome state response updatedAt row).key = row.key := fun _ => rfl
  exact Table.find_update hkeep

end IdempotencyKeys

structure Store where
  idempotencyKeys : IdempotencyKeys
  auditLog : Table AuditRow.key

def Store.empty : Store := ⟨.empty, .empty⟩

/-- The statements of a transaction: they change the store until one raises. -/
abbrev Transaction := Effect.Statements Store PyException

namespace Transaction

variable {α β : Type}

/-- Whatever the store, this raises nothing that a handler names. -/
def AlwaysOrdinary (body : Transaction α) : Prop := ∀ store, Ordinary (body store)

theorem AlwaysOrdinary.bind {body : Transaction α} {next : α → Transaction β}
    (hbody : AlwaysOrdinary body) (hnext : ∀ value, AlwaysOrdinary (next value)) :
    AlwaysOrdinary (body >>= next) := fun store =>
  Ordinary.bind (hbody store) fun reached => hnext reached.1 reached.2

theorem alwaysOrdinary_lift {outcome : Except PyException α} (houtcome : Ordinary outcome) :
    AlwaysOrdinary (liftM outcome : Transaction α) := fun _ =>
  Ordinary.bind houtcome fun _ => ordinary_ok _

theorem alwaysOrdinary_get : AlwaysOrdinary (get : Transaction Store) := fun _ => ordinary_ok _

theorem alwaysOrdinary_set (next : Store) : AlwaysOrdinary (set next : Transaction PUnit) :=
  fun _ => ordinary_ok _

theorem alwaysOrdinary_pure (value : α) : AlwaysOrdinary (pure value : Transaction α) :=
  fun _ => ordinary_ok _

end Transaction

/-- `with database.transaction(write=True)`: commit at the end, roll back on an exception. -/
def transaction {α : Type} (body : Transaction α) (store : Store) : Except PyException α × Store :=
  body.commit store

theorem transaction_error {α : Type} {body : Transaction α} {store later : Store}
    {error : PyException} (hraised : transaction body store = (.error error, later)) :
    later = store :=
  (Effect.Statements.commit_error.mp hraised).2

theorem transaction_ordinary {α : Type} {body : Transaction α} (hbody : body.AlwaysOrdinary)
    (store : Store) : Ordinary (transaction body store).1 := by
  intro error herror
  exact hbody store error (Effect.Statements.commit_error.mp (Prod.ext herror rfl)).1

theorem transaction_ok {α : Type} {body : Transaction α} {store later : Store} {value : α}
    (hcommitted : transaction body store = (.ok value, later)) :
    body store = .ok (value, later) :=
  Effect.Statements.commit_ok.mp hcommitted

end OdooMcp
