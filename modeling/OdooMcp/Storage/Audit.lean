import OdooMcp.Storage.Models

/-!
# The audit chain

Each tenant's entries form a chain: an entry stores the hash of its predecessor and a hash over its
own redacted values, that predecessor's hash among them.
-/

namespace OdooMcp

open Effect

variable (sha256 : String → String)

def genesisHash : String := String.ofList (List.replicate 64 '0')

def safeErrorFields (errorCode errorMessage : Option String) : Option String × Option String :=
  match errorCode, errorMessage with
  | none, none => (none, none)
  | _, _ =>
      let safeCode := (errorCode.bind ErrorCode.ofValue?).getD .unknownError
      (some safeCode.value, some ("Operation failed with " ++ safeCode.value ++ "."))

def hashPayload (values : Payload) : Except PyException String :=
  return sha256 (← canonicalJson values.toValue).text

def redactedPayload (payload : Payload) : PyValue :=
  redactSensitive payload.toValue

def redactedAction (action : Option Payload) : PyValue :=
  .optional redactedPayload action

def affectedValue (records : List String) : PyValue :=
  .list (records.map .str)

/-- `_event_values`, from the error fields to write. -/
def valuesWithError (error : Option String × Option String) (event : AuditEvent)
    (previousHash createdAt : String) : Payload :=
  [("request_id", .str event.requestId),
    ("tenant_id", .str event.tenantId),
    ("company_id", .optional .int event.companyId),
    ("tool_name", .str event.toolName),
    ("tool_version", .str event.toolVersion),
    ("module", .str event.module),
    ("authenticated_subject", .str event.authenticatedSubject),
    ("mcp_client", .str event.mcpClient),
    ("odoo_db_name", .optional .str event.odooDbName),
    ("odoo_user", .optional .str event.odooUser),
    ("odoo_version", .optional .str event.odooVersion),
    ("odoo_transport", .optional .str event.odooTransport),
    ("input_payload", redactedPayload event.inputPayload),
    ("dry_run", .bool event.dryRun),
    ("proposed_action", redactedAction event.proposedAction),
    ("actual_result", redactedAction event.actualResult),
    ("affected_odoo_records", affectedValue event.affectedOdooRecords),
    ("error_code", .optional .str error.1),
    ("error_message", .optional .str error.2),
    ("final_status", .str event.finalStatus),
    ("previous_hash", .str previousHash),
    ("created_at", .str createdAt)]

/-- `_event_values` with `normalize_error=True`. -/
def eventValues (event : AuditEvent) (previousHash createdAt : String) : Payload :=
  valuesWithError (safeErrorFields event.errorCode event.errorMessage) event previousHash createdAt

def requiredValues (event : AuditEvent) : List String :=
  [event.requestId, event.tenantId, event.toolName, event.toolVersion, event.module,
    event.authenticatedSubject, event.mcpClient, event.finalStatus]

def requireEvent (event : AuditEvent) : Except PyException Unit :=
  if (requiredValues event).any isBlank then
    .error (valueError "Audit identity and status fields are required")
  else if event.companyId.any (· ≤ 0) then
    .error (valueError "Audit company_id must be positive")
  else
    .ok ()

/-- The timestamp of an instant that a `datetime` in UTC can have. -/
def instantText (instant : Int) : Except PyException String :=
  if 0 ≤ instant && instant < (endOfTime : Int) then .ok (timestamp instant.toNat)
  else .error (.exception "date value out of range")

/-- `timestamp(event.created_at)`, read from the clock when the event carries no time. -/
def createdAtText (now : Instant) : Option DateTime → Except PyException String
  | none => instantText now
  | some created =>
      match created.offset with
      | none => .error (valueError "Persisted timestamps must be timezone-aware")
      | some offset => instantText (created.wall - offset)

def jsonColumn (action : Option Payload) : Except PyException (Option Json) :=
  match action with
  | none => .ok none
  | some payload => return some (← canonicalJson (redactedPayload payload))

def previousHash (log : Table AuditRow.key) (tenantId : String) : String :=
  match (log.rows.filter fun row => row.tenantId = tenantId).getLast? with
  | none => genesisHash
  | some row => row.entryHash

/-- The row an event is stored as behind the entry of hash `previous`. -/
def auditEntry (id : Nat) (previous : String) (now : Instant) (event : AuditEvent) :
    Except PyException AuditRow := do
  let createdAt ← createdAtText now event.createdAt
  let entryHash ← hashPayload sha256 (eventValues event previous createdAt)
  let error := safeErrorFields event.errorCode event.errorMessage
  return {
    id := id
    requestId := event.requestId
    tenantId := event.tenantId
    companyId := event.companyId
    toolName := event.toolName
    toolVersion := event.toolVersion
    module := event.module
    authenticatedSubject := event.authenticatedSubject
    mcpClient := event.mcpClient
    odooDbName := event.odooDbName
    odooUser := event.odooUser
    odooVersion := event.odooVersion
    odooTransport := event.odooTransport
    inputPayload := ← canonicalJson (redactedPayload event.inputPayload)
    dryRun := event.dryRun
    proposedAction := ← jsonColumn event.proposedAction
    actualResult := ← jsonColumn event.actualResult
    affectedOdooRecords := ← canonicalJson (affectedValue event.affectedOdooRecords)
    errorCode := error.1
    errorMessage := error.2
    finalStatus := event.finalStatus
    previousHash := previous
    entryHash := entryHash
    createdAt := createdAt }

def auditRow (log : Table AuditRow.key) (now : Instant) (event : AuditEvent) :
    Except PyException AuditRow :=
  auditEntry sha256 (log.rows.length + 1) (previousHash log event.tenantId) now event

namespace AuditRepository

def appendInTransaction (now : Instant) (event : AuditEvent) : Transaction AuditRow := do
  requireEvent event
  let store ← get
  let row ← auditRow sha256 store.auditLog now event
  let log ← orRaise (store.auditLog.insert? row)
    (.exception "UNIQUE constraint failed: audit_log.tenant_id, audit_log.entry_hash")
  set { store with auditLog := log }
  return row

def append (now : Instant) (event : AuditEvent) (store : Store) :
    Except PyException AuditRow × Store :=
  transaction (appendInTransaction sha256 now event) store

end AuditRepository

/-! ### What an append does -/

variable {sha256}

theorem auditRow_requestId {log : Table AuditRow.key} {now : Instant} {event : AuditEvent}
    {row : AuditRow} (hrow : auditRow sha256 log now event = .ok row) :
    row.requestId = event.requestId ∧ row.finalStatus = event.finalStatus := by
  simp only [auditRow, auditEntry, bind, Except.bind] at hrow
  repeat' split at hrow
  all_goals cases hrow
  exact ⟨rfl, rfl⟩

/-- What an append that does not raise has done. -/
theorem appendInTransaction_ok_iff {now : Instant} {event : AuditEvent} {store later : Store}
    {row : AuditRow} :
    AuditRepository.appendInTransaction sha256 now event store = .ok (row, later) ↔
      requireEvent event = .ok () ∧ auditRow sha256 store.auditLog now event = .ok row ∧
        ∃ log, store.auditLog.insert? row = some log ∧ later = { store with auditLog := log } := by
  simp only [AuditRepository.appendInTransaction, Statements.bind_ok, Statements.get_ok,
    Statements.lift_ok, Statements.set_ok, Statements.pure_ok, orRaise_ok]
  constructor
  · rintro ⟨_, _, ⟨hrequire, rfl⟩, _, _, ⟨rfl, rfl⟩, stored, _, ⟨hrow, rfl⟩, log, _,
      ⟨hinsert, rfl⟩, _, _, rfl, rfl, rfl⟩
    exact ⟨hrequire, hrow, log, hinsert, rfl⟩
  · rintro ⟨hrequire, hrow, log, hinsert, rfl⟩
    exact ⟨(), store, ⟨hrequire, rfl⟩, store, store, ⟨rfl, rfl⟩, row, store, ⟨hrow, rfl⟩, log,
      store, ⟨hinsert, rfl⟩, (), _, rfl, rfl, rfl⟩

/-- An append that does not raise adds one row for its event at the end of the log, and touches
nothing else. -/
theorem appendInTransaction_ok {now : Instant} {event : AuditEvent} {store later : Store}
    {row : AuditRow}
    (happend : AuditRepository.appendInTransaction sha256 now event store = .ok (row, later)) :
    later.idempotencyKeys = store.idempotencyKeys ∧
      later.auditLog.rows = store.auditLog.rows ++ [row] ∧
      row.requestId = event.requestId ∧ row.finalStatus = event.finalStatus := by
  obtain ⟨-, hrow, log, hinsert, rfl⟩ := appendInTransaction_ok_iff.mp happend
  obtain ⟨hrequest, hstatus⟩ := auditRow_requestId hrow
  exact ⟨rfl, Table.rows_insert? hinsert, hrequest, hstatus⟩

theorem hashPayload_ordinary (values : Payload) : Ordinary (hashPayload sha256 values) :=
  (canonicalJson_ordinary _).bind fun _ => ordinary_ok _

theorem instantText_ordinary (instant : Int) : Ordinary (instantText instant) := by
  unfold instantText
  split
  · exact ordinary_ok _
  · exact ordinary_exception _

theorem createdAtText_ordinary (now : Instant) (createdAt : Option DateTime) :
    Ordinary (createdAtText now createdAt) := by
  unfold createdAtText
  split
  · exact instantText_ordinary now
  · split
    · exact ordinary_exception _
    · exact instantText_ordinary _

theorem jsonColumn_ordinary (action : Option Payload) : Ordinary (jsonColumn action) := by
  cases action with
  | none => exact ordinary_ok _
  | some payload => exact (canonicalJson_ordinary _).bind fun _ => ordinary_ok _

theorem auditRow_ordinary (log : Table AuditRow.key) (now : Instant) (event : AuditEvent) :
    Ordinary (auditRow sha256 log now event) :=
  (createdAtText_ordinary now event.createdAt).bind fun _ =>
    (hashPayload_ordinary _).bind fun _ =>
      (canonicalJson_ordinary _).bind fun _ =>
        (jsonColumn_ordinary _).bind fun _ =>
          (jsonColumn_ordinary _).bind fun _ =>
            (canonicalJson_ordinary _).bind fun _ => ordinary_ok _

theorem requireEvent_ordinary (event : AuditEvent) : Ordinary (requireEvent event) := by
  unfold requireEvent
  split
  · exact ordinary_exception _
  · split
    · exact ordinary_exception _
    · exact ordinary_ok _

theorem append_ordinary (now : Instant) (event : AuditEvent) (store : Store) :
    Ordinary (AuditRepository.append sha256 now event store).1 := by
  refine transaction_ordinary ?_ store
  refine (Transaction.alwaysOrdinary_lift (requireEvent_ordinary event)).bind fun _ => ?_
  refine Transaction.alwaysOrdinary_get.bind fun reached => ?_
  refine (Transaction.alwaysOrdinary_lift (auditRow_ordinary _ now event)).bind fun row => ?_
  refine (Transaction.alwaysOrdinary_lift (ordinary_orRaise _ _)).bind fun log => ?_
  exact (Transaction.alwaysOrdinary_set _).bind fun _ => Transaction.alwaysOrdinary_pure _

/-- Exactly when an append does not raise. -/
theorem appendInTransaction_isOk_iff {now : Instant} {event : AuditEvent} {store : Store} :
    (∃ row later, AuditRepository.appendInTransaction sha256 now event store = .ok (row, later)) ↔
      requireEvent event = .ok () ∧
        ∃ row, auditRow sha256 store.auditLog now event = .ok row ∧
          ∃ log, store.auditLog.insert? row = some log := by
  constructor
  · rintro ⟨row, later, happend⟩
    obtain ⟨hrequire, hrow, log, hinsert, -⟩ := appendInTransaction_ok_iff.mp happend
    exact ⟨hrequire, row, hrow, log, hinsert⟩
  · rintro ⟨hrequire, row, hrow, log, hinsert⟩
    exact ⟨row, _, appendInTransaction_ok_iff.mpr ⟨hrequire, hrow, log, hinsert, rfl⟩⟩

end OdooMcp
