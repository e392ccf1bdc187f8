import OdooMcp.Policy.Confidentiality
import OdooMcp.Server.ReadTools

/-!
# The tools that write

`accounting_write`, `reconcile_bank_statement_lines_tool` and the `run_write` of the draft Payroll
tools. Each reads the company and the capabilities through a first adapter, and then hands the
write-safety boundary three callbacks that open an adapter of their own.
-/

namespace OdooMcp

open Effect ToolBody

variable {State : Type}

structure Callbacks (State : Type) where
  prepare : ToolBody State PrepareReturn
  validateCurrentState : ToolBody State Unit
  execute : ToolBody State ExecuteReturn

def Callbacks.answer (callbacks : Callbacks State) :
    (request : WriteRequest) → ToolBody State (writeSignature.Result request)
  | .begin event idempotencyKey requestPayload => ask (.begin event idempotencyKey requestPayload)
  | .finish event idempotencyKey state response =>
      ask (.finish event idempotencyKey state response)
  | .append event => ask (.append event)
  | .prepare => callbacks.prepare
  | .validateCurrentState => callbacks.validateCurrentState
  | .execute => callbacks.execute

/-- `await WriteSafetyCoordinator(storage).run(…)` -/
def coordinate (call : WriteCall) (requestId : String) (callbacks : Callbacks State) :
    ToolBody State WriteSafetyResponse :=
  Scoped.serve callbacks.answer (call.run requestId)

/-- The callbacks that run the operations of a tool, each through its own adapter. `known` is what
the `except` clause of `execute` makes of an exception. -/
def operationCallbacks (binding : ConnectionBinding) (companyId : Int) (version : Option Int)
    (notPrepared : String) (known : PyException → PyException) : Callbacks State where
  prepare := withAdapter binding fun adapter => do
    let _ ← findCompany adapter companyId
    let (state, prepared) ← ask (.prepareOperation adapter version)
    Scoped.assign fun locals => { locals with state := some state }
    return prepared
  validateCurrentState := do
    let state ← Scoped.ofExcept (orRaise (← Scoped.current).state (.exception notPrepared))
    withAdapter binding fun adapter => do
      let _ ← findCompany adapter companyId
      ask (.validateOperation adapter state)
  execute := do
    let state ← Scoped.ofExcept (orRaise (← Scoped.current).state (.exception notPrepared))
    withAdapter binding fun adapter => do
      let outcome ← Scoped.attempt do
        let _ ← findCompany adapter companyId
        ask (.executeOperation adapter state)
      Scoped.ofExcept (outcome.mapError known)

/-! ### What the runners share -/

/-- The values in which the runners differ. `replacesError` is whether an exception of the cleanup
replaces the error that is answered. -/
structure WriteRunner where
  definition : ToolDefinition
  companyId : Int
  storage : Bool
  deniedMessage : String
  deniedHint : String
  unexpected : ErrorResponse
  storageMissing : String
  replacesError : Bool
  event : WriteSafetyResponse → ErrorResponse → ConnectionBinding → Option CapabilitySnapshot →
    Except PyException AuditEvent

def notAttempted (error : ErrorResponse) (companyId : Int) : WriteSafetyResponse :=
  failure ⟨error.errorCode, error.errorMessage, error.remediationHint⟩ error.requestId companyId
    .notAttempted none

namespace WriteRunner

variable (runner : WriteRunner) (requestId : String)

/-- The `try` statement: the company and the capabilities, read through the first adapter. -/
def body : ToolBody State (ConnectionBinding × Company × CapabilitySnapshot) := do
  let binding ← authorize runner.definition runner.companyId runner.deniedMessage runner.deniedHint
  let adapter ← openAdapter binding
  let company ← findCompany adapter runner.companyId
  let snapshot ← readCapabilities adapter
  closeAdapter adapter
  Scoped.ofExcept (ensure runner.storage (.exception runner.storageMissing))
  return (binding, company, snapshot)

/-- The audited answer to a call that failed before the boundary. -/
def reportFailure (error : ErrorResponse) : ToolBody State WriteSafetyResponse := do
  auditFailure runner.storage (runner.event (notAttempted error runner.companyId) error)
  return notAttempted error runner.companyId

def handle (exception : PyException) : ToolBody State WriteSafetyResponse := do
  let error ← cleanUp (errorOf requestId runner.unexpected exception) fun error =>
    if runner.replacesError then runner.unexpected else error
  runner.reportFailure error

/-- The `try` statement with its handlers and its `else` clause. -/
def run (submit : ConnectionBinding → Company → CapabilitySnapshot →
    ToolBody State WriteSafetyResponse) : ToolBody State WriteSafetyResponse := do
  match ← Scoped.attempt runner.body with
  | .ok (binding, company, snapshot) => submit binding company snapshot
  | .error .cancelledError => throw .cancelledError
  | .error exception => runner.handle requestId exception

def invalid (message hint : String) : ToolBody State WriteSafetyResponse := do
  let error ← invalidRequest runner.definition runner.companyId runner.deniedMessage
    runner.deniedHint ⟨.invalidInput, message, hint, requestId⟩ runner.unexpected runner.storage
    (fun error => runner.event (notAttempted error runner.companyId) error) requestId
  return notAttempted error runner.companyId

end WriteRunner

/-! ### Accounting writes -/

structure AccountingWriteCall where
  definition : ToolDefinition
  command : WriteCommand
  storage : Bool

namespace AccountingWriteCall

variable (call : AccountingWriteCall) (requestId : String)

/-- The runner of `accounting_write`, and of its handler of invalid input. -/
def runner (inputPayload : Payload) : WriteRunner where
  definition := call.definition
  companyId := call.command.companyId
  storage := call.storage
  deniedMessage := "The resolved MCP identity is not authorized for this accounting write."
  deniedHint := "Reconnect with accounting proposal permission and retry."
  unexpected := ⟨.unknownError, "The accounting write failed unexpectedly.",
    "Retry the request or contact the service operator.", requestId⟩
  storageMissing := "Accounting write storage is unavailable"
  replacesError := false
  event response error binding snapshot := do
    return accountingEvent call.definition call.command.companyId inputPayload requestId "failed"
      (some (← response.modelDump)) (some error) call.command.dryRun binding snapshot

/-- The `except` clause of `execute`: a denied permission is a known failure. -/
def known : PyException → PyException
  | .odooMcpError error =>
      if error.code = .odooPermissionDenied then .knownWriteFailure error else .odooMcpError error
  | exception => exception

/-- `accounting_write` -/
def accountingWrite : ToolBody State WriteSafetyResponse :=
  (call.runner requestId call.command.requestPayload).run requestId
    fun binding _ snapshot =>
      coordinate ⟨binding, call.definition, "accounting", snapshot, call.command, none⟩ requestId
        (operationCallbacks binding call.command.companyId none "Accounting write was not prepared"
          known)

/-- `invalid_accounting_write` -/
def invalidAccountingWrite (inputPayload : Payload) : ToolBody State WriteSafetyResponse :=
  (call.runner requestId inputPayload).invalid requestId "The accounting write input is invalid."
    "Correct the identifiers, amounts, dates, or controls and retry."

end AccountingWriteCall

/-! ### Bank reconciliation -/

/-- What the tool reads of a proposal. `sameDump` is the comparison of two dumps. -/
structure ProposalViews (State : Type) where
  sameDump : State → State → Bool
  payload : State → PyDict
  artifactMarkdown : State → PyValue

structure ReconciliationCall where
  definition : ToolDefinition
  period : String
  companyId : Int
  bankJournalId : Int
  statementLineIds : List Int
  matchConfidenceThreshold : String
  dryRun : Bool
  idempotencyKey : Option String
  storage : Bool

/-- `_require_company_currency` -/
def requireCompanyCurrency (company : Company) : Except PyException RelatedRecord :=
  orRaise company.currency
    (.odooMcpError ⟨.odooApiError, "Odoo did not return the authorized company's currency.",
      "Check Odoo compatibility and company access, then retry."⟩)

namespace ReconciliationCall

variable (call : ReconciliationCall) (requestId : String)

def rawPayload : Payload :=
  [("period", .str call.period),
    ("company_id", .int call.companyId),
    ("bank_journal_id", .int call.bankJournalId),
    ("statement_line_ids", .list (call.statementLineIds.map .int)),
    ("match_confidence_threshold", .str call.matchConfidenceThreshold),
    ("dry_run", .bool call.dryRun),
    ("idempotency_key", .optional .str call.idempotencyKey)]

def command : WriteCommand where
  companyId := call.companyId
  requestPayload :=
    [("period", .str call.period),
      ("bank_journal_id", .int call.bankJournalId),
      ("statement_line_ids", .list (call.statementLineIds.map .int)),
      ("match_confidence_threshold", .str call.matchConfidenceThreshold)]
  dryRun := call.dryRun
  idempotencyKey := call.idempotencyKey
  auditPayload := none
  retainedProposedActionKeys := none
  retainedMaterialEffectKeys := none
  compactPersistence := false

def runner : WriteRunner where
  definition := call.definition
  companyId := call.companyId
  storage := call.storage
  deniedMessage := "The resolved MCP identity is not authorized for reconciliation proposals."
  deniedHint := "Reconnect with accounting proposal permission and retry."
  unexpected := ⟨.unknownError, "The reconciliation proposal failed unexpectedly.",
    "Retry the request or contact the service operator.", requestId⟩
  storageMissing := "Reconciliation proposal storage is unavailable"
  replacesError := true
  event response error binding snapshot := do
    return accountingEvent call.definition call.companyId call.rawPayload requestId "failed"
      (some (← response.modelDump)) (some error) call.dryRun binding snapshot

/-- `load_proposal` -/
def loadProposal (binding : ConnectionBinding) (company : Company) : ToolBody State State :=
  withAdapter binding fun adapter => do
    let currency ← Scoped.ofExcept (requireCompanyCurrency company)
    ask (.buildProposal adapter company currency)

def proposedAction : PyDict :=
  [(.str "action", .str "persist_reconciliation_proposal"),
    (.str "bank_journal_id", .int call.bankJournalId),
    (.str "statement_line_ids", .list (call.statementLineIds.map .int)),
    (.str "finalizes_odoo_reconciliation", .bool false)]

def callbacks (views : ProposalViews State) (binding : ConnectionBinding) (company : Company) :
    Callbacks State where
  prepare := do
    let proposal ← loadProposal binding company
    Scoped.assign fun locals => { locals with state := some proposal }
    return .write call.proposedAction (views.payload proposal) (views.artifactMarkdown proposal)
      (.bool false)
  validateCurrentState := do
    let refreshed ← loadProposal binding company
    let locals ← Scoped.current
    Scoped.ofExcept (ensure (locals.state.any fun proposal => views.sameDump refreshed proposal)
      (.odooMcpError ⟨.odooStateConflict,
        "The reconciliation candidates changed before proposal persistence.",
        "Refresh the proposal and retry with a new idempotency key."⟩))
    Scoped.assign fun locals => { locals with state := some refreshed }
  execute := do
    let proposal ← Scoped.ofExcept (orRaise (← Scoped.current).state
      (.exception "Reconciliation proposal was not prepared"))
    let id ← ask (.recordProposal (views.payload proposal) (views.artifactMarkdown proposal))
    return .applied (dictSet (views.payload proposal) (.str "proposal_id") (.int id)) []
      (views.artifactMarkdown proposal)

/-- `reconcile_bank_statement_lines_tool`, from a valid `ReconciliationInput` on. -/
def reconcileBankStatementLinesTool (views : ProposalViews State) :
    ToolBody State WriteSafetyResponse :=
  (call.runner requestId).run requestId fun binding company snapshot =>
    coordinate ⟨binding, call.definition, "accounting", snapshot, call.command, none⟩ requestId
      (call.callbacks views binding company)

/-- The handler of its `ValidationError`. -/
def invalidRequest : ToolBody State WriteSafetyResponse :=
  (call.runner requestId).invalid requestId "The reconciliation proposal input is invalid."
    "Correct the period, identifiers, threshold, or controls."

end ReconciliationCall

/-! ### Draft Payroll writes -/

structure PayrollWriteCall where
  definition : ToolDefinition
  operation : String
  companyId : Int
  fields : PayrollWriteFields
  dryRun : Bool
  idempotencyKey : Option String
  storage : Bool

namespace PayrollWriteCall

variable (call : PayrollWriteCall) (requestId : String)

/-- `_safe_input` -/
def safeInput (idempotencyState : String) : Payload :=
  [("operation", .str call.operation),
    ("payslip_id", .int call.fields.payslipId),
    ("input_id", .optional .int call.fields.inputId),
    ("dry_run", .bool call.dryRun),
    ("idempotency_state", .str idempotencyState)]

/-- `_result_projection` -/
def resultProjection (response : WriteSafetyResponse) : Payload :=
  let effects := response.materialEffects
  [("operation", .str call.operation),
    ("status", .str response.status.text),
    ("outcome", .str response.outcome.text),
    ("payslip_id", .int call.fields.payslipId),
    ("input_id", (dictGet effects "input_id").getD (.optional .int call.fields.inputId)),
    ("result_input_id", (dictGet effects "result_input_id").getD .none),
    ("before_source_state", (dictGet effects "before_source_state").getD .none),
    ("after_source_state", (dictGet effects "after_source_state").getD .none),
    ("error_code", .optional (fun code => .str code.value) response.errorCode)]

def idempotencyState (response : WriteSafetyResponse) : String :=
  if call.dryRun ∨ response.outcome = .notAttempted then "not_reserved"
  else if response.outcome = .unknown then "unknown"
  else if response.status = .succeeded then "succeeded"
  else "failed"

/-- `_audit_event` -/
def auditEvent (response : WriteSafetyResponse) (binding : ConnectionBinding)
    (snapshot : Option CapabilitySnapshot) : AuditEvent where
  requestId := requestId
  tenantId := binding.tenantId
  companyId := if 0 < call.companyId then some call.companyId else none
  toolName := call.definition.name
  toolVersion := call.definition.version
  module := "payroll"
  authenticatedSubject := binding.authenticatedSubject
  mcpClient := binding.mcpClient
  odooDbName := some binding.database
  odooUser := some binding.username
  odooVersion := snapshot.map fun shown => toString shown.version
  odooTransport := snapshot.map (·.transport)
  inputPayload := call.safeInput (call.idempotencyState response)
  dryRun := call.dryRun
  proposedAction := none
  actualResult := some (call.resultProjection response)
  affectedOdooRecords := []
  errorCode := response.errorCode.map (·.value)
  errorMessage := response.errorMessage
  finalStatus := "failed"
  createdAt := none

def command : WriteCommand where
  companyId := call.companyId
  requestPayload := payrollWriteRequestPayload call.fields
  dryRun := call.dryRun
  idempotencyKey := call.idempotencyKey
  auditPayload := some (payrollWriteAuditPayload call.operation call.fields)
  retainedProposedActionKeys := some retainedActionKeys
  retainedMaterialEffectKeys := some retainedEffectKeys
  compactPersistence := true

def runner : WriteRunner where
  definition := call.definition
  companyId := call.companyId
  storage := call.storage
  deniedMessage := "The resolved MCP identity is not authorized for this Payroll write."
  deniedHint := "Reconnect with the Payroll draft-write permission and retry."
  unexpected := ⟨.unknownError, "The draft Payroll write failed unexpectedly.",
    "Retry the request or contact the service operator.", requestId⟩
  storageMissing := "Payroll write storage is unavailable"
  replacesError := true
  event response _ binding snapshot := .ok (call.auditEvent requestId response binding snapshot)

/-- The `except` clause of `execute`: a rejected mutation is a known failure. -/
def known : PyException → PyException
  | .payrollWriteRejected error => .knownWriteFailure error
  | exception => exception

def lockKey (binding : ConnectionBinding) : PayslipKey :=
  (binding.tenantId, call.companyId, call.fields.payslipId)

def activeElsewhere : OdooMcpError :=
  ⟨.concurrentOperationInProgress, "Another Payroll write is already active for this payslip.",
    "Wait for recovery or retry after the active operation completes."⟩

/-- The `coordinator.run` of the call. -/
def submit (binding : ConnectionBinding) (snapshot : CapabilitySnapshot)
    (preflightError : Option OdooMcpError) : ToolBody State WriteSafetyResponse :=
  coordinate ⟨binding, call.definition, "payroll", snapshot, call.command, preflightError⟩ requestId
    (operationCallbacks binding call.companyId (some snapshot.version)
      "Payroll write was not prepared" known)

/-- `with _PAYSLIP_LOCKS.hold(key) as acquired`: only the call that acquired the entry releases
it. -/
def underLock (binding : ConnectionBinding) (snapshot : CapabilitySnapshot) :
    ToolBody State WriteSafetyResponse := do
  let acquired ← ask (.acquire (call.lockKey binding))
  Scoped.ensuring
    (call.submit requestId binding snapshot (if acquired then none else some activeElsewhere))
    (if acquired then ask (.release (call.lockKey binding)) else pure ())

/-- `run_write` -/
def runWrite : ToolBody State WriteSafetyResponse :=
  (call.runner requestId).run requestId fun binding _ snapshot =>
    if call.dryRun then call.submit requestId binding snapshot none
    else call.underLock requestId binding snapshot

/-- `invalid_request` -/
def invalidRequest : ToolBody State WriteSafetyResponse :=
  (call.runner requestId).invalid requestId "The draft Payroll write input is invalid."
    "Correct the identifiers, values, or execution controls and retry."

end PayrollWriteCall

end OdooMcp
