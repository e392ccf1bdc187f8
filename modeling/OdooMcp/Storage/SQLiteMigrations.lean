import OdooMcp.Effect.Crash
import OdooMcp.Storage.ConcurrentMigrations

/-!
# Migrations statement by statement

`apply_migrations` on connections of `SQLiteDatabase.transaction`. `connection.execute` runs any
statement, also one that names the history table or ends the transaction; what follows is about
migrations whose statements keep to the schema. A statement may fail for a reason of its own or for
one of the disk, and the process may be gone between any two requests. What another process finds
then is the committed database: before a transaction has come to its end, the one from before it.
-/

namespace OdooMcp

open Effect

inductive ConnectionRequest
  | connect
  | beginTransaction (write : Bool)
  | createHistory
  | readHistory
  | execute (statement : String)
  | timestamp
  | insertMigration (row : MigrationRow)
  | commit
  | rollback
  | close

abbrev connectionSignature : Signature where
  Request := ConnectionRequest
  Result
    | .connect => Unit
    | .beginTransaction _ => Unit
    | .createHistory => Unit
    | .readHistory => List (String × String)
    | .execute _ => Unit
    | .timestamp => String
    | .insertMigration _ => Unit
    | .commit => Unit
    | .rollback => Unit
    | .close => Unit

/-- The committed database, and the one that an open transaction works on. -/
structure MigrationConnection (σ : Type) where
  durable : MigrationDatabase σ
  working : Option (MigrationDatabase σ)

variable {σ α : Type}

namespace MigrationConnection

def current (connection : MigrationConnection σ) : MigrationDatabase σ :=
  connection.working.getD connection.durable

/-- Outside of a transaction a statement commits by itself. -/
def written (connection : MigrationConnection σ) (store : MigrationDatabase σ) :
    MigrationConnection σ :=
  match connection.working with
  | some _ => { connection with working := some store }
  | none => { connection with durable := store }

/-- A statement that raised has changed nothing; SQLite may have rolled the transaction back. -/
def Fails (connection later : MigrationConnection σ) : Prop :=
  later.durable = connection.durable ∧
    (later.working = connection.working ∨ later.working = none)

def Executes (body : Statements (MigrationDatabase σ) MigrationException α)
    (connection : MigrationConnection σ) (value : α) (later : MigrationConnection σ) : Prop :=
  ∃ store, body connection.current = .ok (value, store) ∧ later = connection.written store

end MigrationConnection

/-- How `connection.execute` answers a statement, and the connection it leaves. -/
structure SQLiteEngine (σ : Type) where
  execute : String → MigrationConnection σ →
    Except MigrationException Unit × MigrationConnection σ

namespace SQLiteEngine

/-- In a transaction the statement makes of the schema what the engine says, and changes nothing
else: it leaves the history table alone, and neither begins nor ends a transaction. -/
structure KeepsToSchema (sqlite : SQLiteEngine σ) (engine : MigrationEngine σ)
    (statement : String) : Prop where
  changes : ∀ durable database schema, engine.execute statement database.schema = .ok schema →
    sqlite.execute statement ⟨durable, some database⟩ =
      (.ok (), ⟨durable, some { database with schema := schema }⟩)
  raises : ∀ durable database error, engine.execute statement database.schema = .error error →
    ∃ later, sqlite.execute statement ⟨durable, some database⟩ = (.error error, later) ∧
      MigrationConnection.Fails ⟨durable, some database⟩ later

/-- Every statement of these migrations keeps to the schema. -/
def KeepsAllToSchema (sqlite : SQLiteEngine σ) (engine : MigrationEngine σ)
    (migrations : List Migration) : Prop :=
  ∀ migration ∈ migrations, ∀ statement ∈ migration.statements,
    sqlite.KeepsToSchema engine statement

theorem KeepsAllToSchema.drop {sqlite : SQLiteEngine σ} {engine : MigrationEngine σ}
    {migrations : List Migration} (hkeeps : sqlite.KeepsAllToSchema engine migrations)
    (count : Nat) : sqlite.KeepsAllToSchema engine (migrations.drop count) :=
  fun migration hmigration => hkeeps migration (List.mem_of_mem_drop hmigration)

open MigrationConnection in
/-- How SQLite answers a request. A commit that raises has not committed, and closing never
raises. -/
def Serves (sqlite : SQLiteEngine σ) (request : ConnectionRequest)
    (connection : MigrationConnection σ)
    (answer : Except MigrationException (connectionSignature.Result request))
    (later : MigrationConnection σ) : Prop :=
  match request, answer with
  | .close, .error _ => False
  | .execute statement, .error error =>
      sqlite.execute statement connection = (.error error, later) ∨ connection.Fails later
  | _, .error _ => connection.Fails later
  | .connect, .ok _ => later = ⟨connection.durable, none⟩
  | .beginTransaction _, .ok _ =>
      connection.working = none ∧ later = ⟨connection.durable, some connection.durable⟩
  | .createHistory, .ok value => Executes OdooMcp.createHistory connection value later
  | .readHistory, .ok value => Executes OdooMcp.readHistory connection value later
  | .execute statement, .ok value => sqlite.execute statement connection = (.ok value, later)
  | .timestamp, .ok _ => later = connection
  | .insertMigration row, .ok value => Executes (OdooMcp.insertMigration row) connection value later
  | .commit, .ok _ => later = ⟨connection.current, none⟩
  | .rollback, .ok _ => later = ⟨connection.durable, none⟩
  | .close, .ok _ => later = ⟨connection.durable, none⟩

variable {sqlite : SQLiteEngine σ} {engine : MigrationEngine σ} {statement : String}
  {durable database : MigrationDatabase σ} {later : MigrationConnection σ}

theorem KeepsToSchema.executes (hkeeps : sqlite.KeepsToSchema engine statement) {value : Unit}
    (hserves : sqlite.Serves (.execute statement) ⟨durable, some database⟩ (.ok value) later) :
    MigrationConnection.Executes (engine.executeStatement statement) ⟨durable, some database⟩ value
      later := by
  have hexecutes : sqlite.execute statement ⟨durable, some database⟩ = (.ok value, later) := hserves
  cases hengine : engine.execute statement database.schema with
  | error error =>
      obtain ⟨failed, hfailed, -⟩ := hkeeps.raises durable database error hengine
      rw [hfailed] at hexecutes
      cases hexecutes
  | ok schema =>
      rw [hkeeps.changes durable database schema hengine] at hexecutes
      obtain ⟨-, rfl⟩ := Prod.mk.inj hexecutes
      refine ⟨{ database with schema := schema }, ?_, rfl⟩
      simp only [MigrationEngine.executeStatement, Statements.bind_ok, Statements.get_ok,
        Statements.lift_ok, Statements.set_ok]
      exact ⟨_, _, ⟨rfl, rfl⟩, schema, _, ⟨hengine, rfl⟩, rfl⟩

theorem KeepsToSchema.durable_of_error (hkeeps : sqlite.KeepsToSchema engine statement)
    {error : MigrationException}
    (hserves : sqlite.Serves (.execute statement) ⟨durable, some database⟩ (.error error) later) :
    later.durable = durable := by
  rcases hserves with hexecutes | hfails
  · cases hengine : engine.execute statement database.schema with
    | error raised =>
        obtain ⟨failed, hfailed, hfails⟩ := hkeeps.raises durable database raised hengine
        rw [hfailed] at hexecutes
        obtain ⟨-, rfl⟩ := Prod.mk.inj hexecutes
        exact hfails.1
    | ok schema =>
        rw [hkeeps.changes durable database schema hengine] at hexecutes
        cases hexecutes
  · exact hfails.1

theorem KeepsToSchema.serves (hkeeps : sqlite.KeepsToSchema engine statement)
    {store : MigrationDatabase σ} {value : PUnit}
    (hexecutes : engine.executeStatement statement database = .ok (value, store)) :
    sqlite.Serves (.execute statement) ⟨durable, some database⟩ (.ok ()) ⟨durable, some store⟩ := by
  simp only [MigrationEngine.executeStatement, Statements.bind_ok, Statements.get_ok,
    Statements.lift_ok, Statements.set_ok] at hexecutes
  obtain ⟨_, _, ⟨rfl, rfl⟩, schema, _, ⟨hengine, rfl⟩, rfl⟩ := hexecutes
  exact hkeeps.changes durable _ schema hengine

end SQLiteEngine

/-! ### The program -/

namespace SQLiteMigrations

abbrev Action (α : Type) := Program connectionSignature MigrationException α

def ask (request : ConnectionRequest) : Action (connectionSignature.Result request) :=
  Program.call (S := connectionSignature) request

/-- `SQLiteDatabase.transaction` -/
def transaction (write : Bool) (body : Action α) : Action α := do
  ask .connect
  let value ← tryCatch
    (tryCatch
      (do
        ask (.beginTransaction write)
        let value ← body
        ask .commit
        return value)
      fun error => do
        ask .rollback
        throw error)
    fun error => do
      ask .close
      throw error
  ask .close
  return value

def migrate (sha256 : String → String) (migration : Migration) : Action Unit := do
  forM migration.statements fun statement => ask (.execute statement)
  let appliedAt ← ask .timestamp
  ask (.insertMigration ⟨migration.identifier, migration.checksum sha256, appliedAt⟩)

def applyOne (sha256 : String → String) (migration : Migration) : Action Unit :=
  tryCatch (transaction true (migrate sha256 migration)) fun error =>
    match error with
    | .sqliteError _ => throw (.migrationError s!"Migration {migration.identifier} failed")
    | error => throw error

/-- The part of `apply_migrations` that starts at a position of the list. -/
def applyFrom (sha256 : String → String) (migrations : List Migration) (position : Nat) :
    Action Unit :=
  forM (migrations.drop position) (applyOne sha256)

/-- The part of `apply_migrations` after the history was read. -/
def applyAfter (sha256 : String → String) (migrations : List Migration)
    (applied : List (String × String)) : Action Unit := do
  let identifiers := migrations.map Migration.identifier
  if applied.map Prod.fst ≠ identifiers.take applied.length then
    throw (.migrationError "Applied migration history is not a known ordered prefix")
  let expected (identifier : String) : Option String :=
    (migrations.find? (·.identifier = identifier)).map (Migration.checksum sha256)
  if applied.any fun row => expected row.1 ≠ some row.2 then
    throw (.migrationError "An applied migration does not match its immutable checksum")
  applyFrom sha256 migrations applied.length

def applyMigrations (sha256 : String → String) (migrations : List Migration) : Action Unit := do
  let identifiers := migrations.map Migration.identifier
  if identifiers.dedup.length ≠ identifiers.length ∨
      identifiers ≠ identifiers.insertionSort (· ≤ ·) then
    throw (.migrationError "Migration identifiers must be unique and ordered")
  transaction true (ask .createHistory)
  let applied ← transaction false (ask .readHistory)
  applyAfter sha256 migrations applied

end SQLiteMigrations

/-! ### Transactions -/

abbrev LoggedConnection (σ : Type) :=
  MigrationConnection σ × List (Event connectionSignature MigrationException)

/-- The migration statements that were sent, in order. -/
def executedStatements (log : List (Event connectionSignature MigrationException)) : List String :=
  log.filterMap fun event =>
    match event.request with
    | .execute statement => some statement
    | _ => none

def ConnectionRequest.statement? : ConnectionRequest → Option String
  | .execute statement => some statement
  | _ => none

/-- Requests that neither run a statement nor commit. -/
def ConnectionRequest.Quiet : ConnectionRequest → Prop
  | .connect => True
  | .beginTransaction _ => True
  | .timestamp => True
  | .rollback => True
  | .close => True
  | _ => False

theorem ConnectionRequest.Quiet.statement? {request : ConnectionRequest} (hquiet : request.Quiet) :
    request.statement? = none := by
  cases request with
  | execute statement => exact hquiet.elim
  | _ => rfl

theorem executedStatements_concat {log : List (Event connectionSignature MigrationException)}
    {request : ConnectionRequest}
    {answer : Except MigrationException (connectionSignature.Result request)} :
    executedStatements (log ++ [⟨request, answer⟩]) =
      executedStatements log ++ request.statement?.toList := by
  unfold executedStatements
  rw [List.filterMap_append]
  cases request <;> rfl

namespace SQLiteMigrations

variable (sqlite : SQLiteEngine σ)

abbrev serves := Program.Logged (S := connectionSignature) sqlite.Serves

variable {sqlite} {engine : MigrationEngine σ} {world : LoggedConnection σ}

theorem durable_of_error {request : ConnectionRequest} (hstatement : request.statement? = none)
    {connection later : MigrationConnection σ} {error : MigrationException}
    (hserves : sqlite.Serves request connection (.error error) later) :
    later.durable = connection.durable := by
  cases request with
  | close => exact absurd hserves id
  | connect => exact hserves.1
  | beginTransaction write => exact hserves.1
  | createHistory => exact hserves.1
  | readHistory => exact hserves.1
  | execute statement => cases hstatement
  | timestamp => exact hserves.1
  | insertMigration row => exact hserves.1
  | commit => exact hserves.1
  | rollback => exact hserves.1

theorem ask_endures {request : ConnectionRequest} {crash : LoggedConnection σ → Prop}
    {post : Except MigrationException (connectionSignature.Result request) →
      LoggedConnection σ → Prop} (hworld : crash world)
    (hanswer : ∀ answer later, sqlite.Serves request world.1 answer later →
      crash (later, world.2 ++ [⟨request, answer⟩]) ∧
        post answer (later, world.2 ++ [⟨request, answer⟩])) :
    Program.Endures (serves sqlite) crash post (ask request) world := by
  refine .call hworld fun answer later hserves => ?_
  obtain ⟨connection, log⟩ := later
  obtain ⟨hconnection, rfl⟩ := hserves
  exact hanswer answer connection hconnection

def Settled (database : MigrationDatabase σ)
    (outcome : α → MigrationDatabase σ → List String → Prop)
    (result : Except MigrationException α) (world : LoggedConnection σ) : Prop :=
  match result with
  | .ok value => outcome value world.1.durable (executedStatements world.2)
  | .error _ => world.1.durable = database

/-- What is left when the process is gone during a transaction. -/
structure CutOff (database : MigrationDatabase σ)
    (outcome : α → MigrationDatabase σ → List String → Prop) (sent : List String → Prop)
    (world : LoggedConnection σ) : Prop where
  durable : world.1.durable = database ∨
    ∃ value, outcome value world.1.durable (executedStatements world.2)
  sent : sent (executedStatements world.2)

theorem durable_of_serves {request : ConnectionRequest} {connection later : MigrationConnection σ}
    {answer : Except MigrationException (connectionSignature.Result request)}
    (hquiet : request.Quiet) (hserves : sqlite.Serves request connection answer later) :
    later.durable = connection.durable := by
  cases answer with
  | error error => exact durable_of_error hquiet.statement? hserves
  | ok value =>
      cases request with
      | connect => rw [show later = ⟨connection.durable, none⟩ from hserves]
      | beginTransaction write => rw [hserves.2]
      | timestamp => rw [show later = connection from hserves]
      | rollback => rw [show later = ⟨connection.durable, none⟩ from hserves]
      | close => rw [show later = ⟨connection.durable, none⟩ from hserves]
      | createHistory => exact hquiet.elim
      | readHistory => exact hquiet.elim
      | execute statement => exact hquiet.elim
      | insertMigration row => exact hquiet.elim
      | commit => exact hquiet.elim

theorem executedStatements_quiet {request : ConnectionRequest} (hquiet : request.Quiet)
    (log : List (Event connectionSignature MigrationException))
    (answer : Except MigrationException (connectionSignature.Result request)) :
    executedStatements (log ++ [⟨request, answer⟩]) = executedStatements log := by
  rw [executedStatements_concat, hquiet.statement?]
  exact List.append_nil _

/-- Rolling back and closing lose the working copy at most. -/
theorem ask_settled {request : ConnectionRequest} (hquiet : request.Quiet)
    {database : MigrationDatabase σ} {outcome : α → MigrationDatabase σ → List String → Prop}
    {sent : List String → Prop} {result : Except MigrationException α}
    (hcut : CutOff database outcome sent world) (hsettled : Settled database outcome result world) :
    Program.Endures (serves sqlite) (CutOff database outcome sent)
      (fun answer later => (∃ connection, sqlite.Serves request connection answer later.1) ∧
        Settled database outcome result later) (ask request) world := by
  refine ask_endures hcut fun answer later hserves => ?_
  have hlog := executedStatements_quiet hquiet world.2 answer
  have hdurable := durable_of_serves hquiet hserves
  refine ⟨⟨by rw [hlog, hdurable]; exact hcut.durable, by rw [hlog]; exact hcut.sent⟩,
    ⟨_, hserves⟩, ?_⟩
  cases result with
  | ok value =>
      change outcome value later.durable (executedStatements (world.2 ++ _))
      rw [hlog, hdurable]
      exact hsettled
  | error error => exact hdurable.trans hsettled

/-- A handler that asks for something and raises the error again. -/
theorem reraise_settled {request : ConnectionRequest} (hquiet : request.Quiet)
    {database : MigrationDatabase σ} {outcome : α → MigrationDatabase σ → List String → Prop}
    {sent : List String → Prop} {error : MigrationException}
    (hcut : CutOff database outcome sent world)
    (hsettled : Settled database outcome (.error error) world) :
    Program.Endures (serves sqlite) (CutOff database outcome sent) (Settled database outcome)
      (ask request >>= fun _ => (throw error : Action α)) world :=
  (ask_settled hquiet hcut hsettled).bind (fun _ _ hcrash hraised => ⟨hcrash, hraised.2⟩)
    fun _ _ _ hraised => hraised.2

theorem commit_endures {database store : MigrationDatabase σ}
    {outcome : α → MigrationDatabase σ → List String → Prop} {sent : List String → Prop} {value : α}
    (hdurable : world.1.durable = database) (hstore : world.1.working = some store)
    (houtcome : outcome value store (executedStatements world.2))
    (hsent : sent (executedStatements world.2)) :
    Program.Endures (serves sqlite) (CutOff database outcome sent) (Settled database outcome)
      (ask .commit >>= fun _ => (pure value : Action α)) world := by
  have hlog (answer : Except MigrationException (connectionSignature.Result .commit)) :
      executedStatements (world.2 ++ [⟨.commit, answer⟩]) = executedStatements world.2 := by
    rw [executedStatements_concat]
    exact List.append_nil _
  have hask : Program.Endures (serves sqlite) (CutOff database outcome sent)
      (fun result => Settled database outcome (result.map fun _ => value)) (ask .commit) world := by
    refine ask_endures ⟨.inl hdurable, hsent⟩ fun answer later hserves => ?_
    cases answer with
    | error error =>
        have hlater := (durable_of_error rfl hserves).trans hdurable
        exact ⟨⟨.inl hlater, by rwa [hlog]⟩, hlater⟩
    | ok done =>
        have hlater : later.durable = store := by
          rw [show later = ⟨world.1.current, none⟩ from hserves, MigrationConnection.current,
            hstore, Option.getD_some]
        have hkept : outcome value later.durable
            (executedStatements (world.2 ++ [⟨.commit, .ok done⟩])) := by
          rwa [hlater, hlog]
        exact ⟨⟨.inr ⟨value, hkept⟩, by rwa [hlog]⟩, hkept⟩
  exact hask.bind (fun _ _ hcut hsettled => ⟨hcut, hsettled⟩) fun _ _ _ hsettled => hsettled

/-- The body of a transaction between its first statement and its commit. -/
theorem committed_endures {write : Bool} {body : Action α} {database : MigrationDatabase σ}
    {outcome : α → MigrationDatabase σ → List String → Prop} {sent : List String → Prop}
    (hworld : world.1.durable = database) (hsent : sent (executedStatements world.2))
    (hbody : ∀ log, executedStatements log = executedStatements world.2 →
      Program.Endures (serves sqlite)
        (fun later => later.1.durable = database ∧ sent (executedStatements later.2))
        (fun result later => ∀ value, result = .ok value → ∃ store,
          later.1.working = some store ∧ outcome value store (executedStatements later.2))
        body (⟨database, some database⟩, log)) :
    Program.Endures (serves sqlite) (CutOff database outcome sent) (Settled database outcome)
      (do
        ask (.beginTransaction write)
        let value ← body
        ask .commit
        return value) world := by
  have hbegin : Program.Endures (serves sqlite) (CutOff database outcome sent)
      (fun result later => later.1.durable = database ∧
        executedStatements later.2 = executedStatements world.2 ∧
        (result = .ok () → later.1.working = some database)) (ask (.beginTransaction write))
      world := by
    refine ask_endures ⟨.inl hworld, hsent⟩ fun answer later hserves => ?_
    have hquiet : (ConnectionRequest.beginTransaction write).Quiet := trivial
    have hdurable := (durable_of_serves hquiet hserves).trans hworld
    have hlog := executedStatements_quiet hquiet world.2 answer
    refine ⟨⟨.inl hdurable, by rwa [hlog]⟩, hdurable, hlog, ?_⟩
    rintro rfl
    rw [hserves.2, hworld]
  refine hbegin.bind (fun _ opened _ hopened => ?_) fun _ _ _ hlater => hlater.1
  obtain ⟨⟨durable, working⟩, log⟩ := opened
  obtain ⟨hdurable, hlog, hworking⟩ := hopened
  obtain rfl : durable = database := hdurable
  obtain rfl : working = some durable := hworking rfl
  refine Program.Endures.bind ((hbody log hlog).mono
    (fun later hcrash => ⟨.inl hcrash.1, hcrash.2⟩)
    fun result later hcrash hresult => And.intro hcrash hresult)
    (fun value later _ hresult => ?_) fun _ _ _ hresult => hresult.1.1
  obtain ⟨store, hstore, houtcome⟩ := hresult.2 value rfl
  exact commit_endures hresult.1.1 hstore houtcome hresult.1.2

/-- **Atomicity.** Whatever fails and wherever the process stops, the committed database is the one
from before the transaction or the one its body made; a transaction that raised left the former. -/
theorem transaction_endures {write : Bool} {body : Action α} {database : MigrationDatabase σ}
    {outcome : α → MigrationDatabase σ → List String → Prop} {sent : List String → Prop}
    (hworld : world.1.durable = database) (hsent : sent (executedStatements world.2))
    (hbody : ∀ log, executedStatements log = executedStatements world.2 →
      Program.Endures (serves sqlite)
        (fun later => later.1.durable = database ∧ sent (executedStatements later.2))
        (fun result later => ∀ value, result = .ok value → ∃ store,
          later.1.working = some store ∧ outcome value store (executedStatements later.2))
        body (⟨database, some database⟩, log)) :
    Program.Endures (serves sqlite) (CutOff database outcome sent) (Settled database outcome)
      (transaction write body) world := by
  have hconnect : Program.Endures (serves sqlite) (CutOff database outcome sent)
      (fun _ later => later.1.durable = database ∧
        executedStatements later.2 = executedStatements world.2) (ask .connect) world := by
    refine ask_endures ⟨.inl hworld, hsent⟩ fun answer later hserves => ?_
    have hquiet : ConnectionRequest.connect.Quiet := trivial
    have hdurable := (durable_of_serves hquiet hserves).trans hworld
    have hlog := executedStatements_quiet hquiet world.2 answer
    exact ⟨⟨.inl hdurable, by rwa [hlog]⟩, hdurable, hlog⟩
  have hrollback : ConnectionRequest.rollback.Quiet := trivial
  have hclose : ConnectionRequest.close.Quiet := trivial
  refine hconnect.bind (fun _ opened _ hopened => ?_) fun _ later _ hlater => hlater.1
  rw [← hopened.2] at hsent hbody
  refine Program.Endures.bind (.tryCatch (.tryCatch (committed_endures hopened.1 hsent hbody)
    (fun _ _ _ hsettled => hsettled)
    fun error later hcut hsettled => reraise_settled hrollback hcut hsettled)
    (fun _ _ _ hsettled => hsettled)
    fun error later hcut hsettled => reraise_settled hclose hcut hsettled)
    (fun value later hcut hsettled => ?_) fun _ _ _ hsettled => hsettled
  refine (ask_settled hclose hcut hsettled).bind
    (fun _ _ hcrash hclosed => ⟨hcrash, hclosed.2⟩) fun error last _ hclosed => ?_
  obtain ⟨connection, hserves⟩ := hclosed.1
  exact hserves.elim

/-! ### The transaction of one migration -/

theorem ask_execute_endures (request : ConnectionRequest) (sent : List String → Prop)
    {body : Statements (MigrationDatabase σ) MigrationException
      (connectionSignature.Result request)} {durable start : MigrationDatabase σ}
    (hbody : ∀ value later, sqlite.Serves request ⟨durable, some start⟩ (.ok value) later →
      MigrationConnection.Executes body ⟨durable, some start⟩ value later)
    (herror : ∀ error later, sqlite.Serves request ⟨durable, some start⟩ (.error error) later →
      later.durable = durable)
    {log : List (Event connectionSignature MigrationException)}
    (hbefore : sent (executedStatements log))
    (hafter : sent (executedStatements log ++ request.statement?.toList)) :
    Program.Endures (serves sqlite)
      (fun later => later.1.durable = durable ∧ sent (executedStatements later.2))
      (fun result later => ∀ value, result = .ok value → ∃ store,
        later.1 = ⟨durable, some store⟩ ∧ body start = .ok (value, store) ∧
        executedStatements later.2 = executedStatements log ++ request.statement?.toList)
      (ask request) (⟨durable, some start⟩, log) := by
  refine ask_endures ⟨rfl, hbefore⟩ fun answer later hserves => ?_
  have hlog := @executedStatements_concat log request answer
  cases answer with
  | error error => exact ⟨⟨herror error later hserves, by rwa [hlog]⟩, nofun⟩
  | ok value =>
      obtain ⟨store, hstore, rfl⟩ := hbody _ _ hserves
      refine ⟨⟨rfl, by rwa [hlog]⟩, ?_⟩
      rintro _ ⟨⟩
      exact ⟨store, rfl, hstore, hlog⟩

theorem forM_execute_endures {statements : List String}
    (hkeeps : ∀ statement ∈ statements, sqlite.KeepsToSchema engine statement)
    {durable start : MigrationDatabase σ}
    {log : List (Event connectionSignature MigrationException)} {sent : List String → Prop}
    (hsent : ∀ part, part <+: statements → sent (executedStatements log ++ part)) :
    Program.Endures (serves sqlite)
      (fun later => later.1.durable = durable ∧ sent (executedStatements later.2))
      (fun result later => ∀ value, result = .ok value → ∃ store,
        later.1 = ⟨durable, some store⟩ ∧
        (forM statements engine.executeStatement) start = .ok (⟨⟩, store) ∧
        executedStatements later.2 = executedStatements log ++ statements)
      (forM statements fun statement => ask (.execute statement)) (⟨durable, some start⟩, log) := by
  induction statements generalizing start log with
  | nil =>
      have hdone := hsent [] (List.prefix_refl _)
      rw [List.append_nil] at hdone
      exact ⟨⟨rfl, hdone⟩, fun _ _ => ⟨start, rfl, rfl, (List.append_nil _).symm⟩⟩
  | cons statement statements ih =>
      have hbefore := hsent [] (List.nil_prefix)
      rw [List.append_nil] at hbefore
      obtain ⟨hfirst, hrest⟩ := List.forall_mem_cons.mp hkeeps
      rw [List.forM_cons]
      refine (ask_execute_endures (.execute statement) sent (fun _ _ => hfirst.executes)
        (fun _ _ => hfirst.durable_of_error) hbefore
        (hsent [statement] ⟨statements, rfl⟩)).bind (fun _ later _ hlater => ?_)
        fun _ _ _ _ _ herror => by cases herror
      obtain ⟨connection, reached⟩ := later
      obtain ⟨store, rfl, hstore, hreached⟩ := hlater _ rfl
      refine (ih hrest (fun part hpart => ?_)).mono (fun _ hcrash => hcrash)
        fun result last _ hlast value hresult => ?_
      · rw [hreached, List.append_assoc]
        exact hsent _ ((List.prefix_append_right_inj [statement]).mpr hpart)
      · obtain ⟨final, hfinal, hrun, hexecuted⟩ := hlast value hresult
        refine ⟨final, hfinal, ?_, ?_⟩
        · rw [Statements.bind_ok]
          exact ⟨_, _, hstore, hrun⟩
        · rw [hexecuted, hreached, List.append_assoc]
          rfl

/-- The transaction of a migration ran to its end and every statement was sent. -/
def Applied (engine : MigrationEngine σ) (migration : Migration) (database : MigrationDatabase σ)
    (done : List String) (later : MigrationDatabase σ) (executed : List String) : Prop :=
  engine.Performs (.apply migration) database (.ok ()) later ∧
    executed = done ++ migration.statements

theorem migrate_endures {migration : Migration}
    (hkeeps : ∀ statement ∈ migration.statements, sqlite.KeepsToSchema engine statement)
    {database : MigrationDatabase σ} {log : List (Event connectionSignature MigrationException)}
    {sent : List String → Prop}
    (hsent : ∀ part, part <+: migration.statements → sent (executedStatements log ++ part)) :
    Program.Endures (serves sqlite)
      (fun later => later.1.durable = database ∧ sent (executedStatements later.2))
      (fun result later => ∀ value, result = .ok value → ∃ store,
        later.1.working = some store ∧ Applied engine migration database (executedStatements log)
          store (executedStatements later.2))
      (migrate engine.sha256 migration) (⟨database, some database⟩, log) := by
  have hall := hsent _ (List.prefix_refl _)
  refine (forM_execute_endures hkeeps hsent).bind (fun _ later _ hlater => ?_)
    fun _ _ _ _ _ herror => by cases herror
  obtain ⟨connection, reached⟩ := later
  obtain ⟨store, rfl, hstore, hreached⟩ := hlater _ rfl
  have hclock : Program.Endures (serves sqlite)
      (fun later => later.1.durable = database ∧ sent (executedStatements later.2))
      (fun result later => ∀ value, result = .ok value → later.1 = ⟨database, some store⟩ ∧
        executedStatements later.2 = executedStatements log ++ migration.statements)
      (ask .timestamp) (⟨database, some store⟩, reached) := by
    have hquiet : ConnectionRequest.timestamp.Quiet := trivial
    refine ask_endures ⟨rfl, by rwa [hreached]⟩ fun answer later hserves => ?_
    have hlog := (executedStatements_quiet hquiet reached answer).trans hreached
    refine ⟨⟨durable_of_serves hquiet hserves, by rwa [hlog]⟩, ?_⟩
    rintro value rfl
    exact ⟨hserves, hlog⟩
  refine hclock.bind (fun appliedAt later _ hlater => ?_) fun _ _ _ _ _ herror => by cases herror
  obtain ⟨connection, noted⟩ := later
  obtain ⟨rfl, hnoted⟩ := hlater _ rfl
  have hsent : sent (executedStatements noted) := by rwa [hnoted]
  have hafter : sent (executedStatements noted ++ []) := by rwa [List.append_nil]
  refine (ask_execute_endures (.insertMigration _) sent (fun _ _ hserves => hserves)
    (fun _ _ => durable_of_error rfl) hsent hafter).mono (fun _ hcrash => hcrash)
    fun result last _ hlast value hresult => ?_
  obtain ⟨final, hfinal, hinserted, hexecuted⟩ := hlast value hresult
  refine ⟨final, by rw [hfinal], ⟨appliedAt, ?_⟩, ?_⟩
  · rw [Statements.commit_ok, MigrationEngine.migrate, Statements.bind_ok]
    exact ⟨_, _, hstore, hinserted⟩
  · rw [hexecuted, hnoted]
    exact List.append_nil _

theorem applyOne_endures {migration : Migration}
    (hkeeps : ∀ statement ∈ migration.statements, sqlite.KeepsToSchema engine statement)
    {database : MigrationDatabase σ} {sent : List String → Prop}
    (hworld : world.1.durable = database)
    (hsent : ∀ part, part <+: migration.statements →
      sent (executedStatements world.2 ++ part)) :
    Program.Endures (serves sqlite)
      (CutOff database
        (fun _ : Unit => Applied engine migration database (executedStatements world.2)) sent)
      (Settled database fun _ => Applied engine migration database (executedStatements world.2))
      (applyOne engine.sha256 migration) world := by
  have hbefore := hsent [] List.nil_prefix
  rw [List.append_nil] at hbefore
  refine Program.Endures.tryCatch (transaction_endures hworld hbefore fun log hlog => ?_)
    (fun _ _ _ hsettled => hsettled) fun error later hcut hsettled => ?_
  · rw [← hlog] at hsent ⊢
    exact migrate_endures hkeeps hsent
  · cases error with
    | sqliteError message => exact ⟨hcut, hsettled⟩
    | migrationError message => exact ⟨hcut, hsettled⟩
    | other message => exact ⟨hcut, hsettled⟩

end SQLiteMigrations

end OdooMcp
