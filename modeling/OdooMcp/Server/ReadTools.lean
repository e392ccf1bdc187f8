import OdooMcp.Server.ToolCalls

/-!
# The tools that read

`capabilities_tool`, `accounting_report` and the `run` of the Payroll evidence tools, with the
handlers of their invalid input.
-/

namespace OdooMcp

open Effect ToolBody

variable {State : Type}

/-- The answer of a tool that reads: the fields of a success, or the error. -/
inductive ToolResponse
  | ok (fields : PyDict)
  | failed (error : ErrorResponse)

/-! ### ERP discovery -/

/-- `discover` is what `get_erp_capabilities` computes from the companies and the snapshot, and what
`from_success` makes of it, or the message of a validation that fails. -/
structure CapabilitiesCall where
  definition : ToolDefinition
  discover : ConnectionBinding → List Company → CapabilitySnapshot → Except String PyDict

def capabilityFailure (requestId : String) : ErrorResponse :=
  ⟨.unknownError, "The capability request failed unexpectedly.",
    "Retry the request or contact the service operator.", requestId⟩

namespace CapabilitiesCall

variable (call : CapabilitiesCall) (requestId : String)

def body : ToolBody State ToolResponse := do
  let binding ← ask .resolve
  Scoped.ofExcept (ensure (binding.permissions.contains call.definition.requiredPermission)
    (.odooMcpError ⟨.odooAuthFailed,
      "The resolved MCP identity is not authorized for ERP discovery.",
      "Reconnect with core discovery permission and retry."⟩))
  let adapter ← openAdapter binding
  let companies ← ask (.getCompanies adapter)
  let snapshot ← ask (.getCapabilities adapter)
  return .ok (← Scoped.ofExcept ((call.discover binding companies snapshot).mapError .exception))

/-- What a response becomes when the adapter cannot be closed. -/
def unclosed : ToolResponse → ToolResponse
  | .ok _ => .failed (capabilityFailure requestId)
  | .failed error => .failed error

/-- `capabilities_tool` -/
def capabilitiesTool : ToolBody State ToolResponse := do
  let response ← orElse call.body fun exception =>
    return .failed (errorOf requestId (capabilityFailure requestId) exception)
  cleanUp response (unclosed requestId)

end CapabilitiesCall

/-! ### Accounting reports -/

/-- One call of a report: `inputPayload` is the dump of its request. -/
structure ReportCall where
  definition : ToolDefinition
  companyId : Int
  inputPayload : Payload
  storage : Bool

/-- `_audit_event` of the accounting tools. -/
def accountingEvent (definition : ToolDefinition) (companyId : Int) (inputPayload : Payload)
    (requestId finalStatus : String) (actualResult : Option Payload)
    (error : Option ErrorResponse) (dryRun : Bool) (binding : ConnectionBinding)
    (snapshot : Option CapabilitySnapshot) : AuditEvent where
  requestId := requestId
  tenantId := binding.tenantId
  companyId := some companyId
  toolName := definition.name
  toolVersion := definition.version
  module := "accounting"
  authenticatedSubject := binding.authenticatedSubject
  mcpClient := binding.mcpClient
  odooDbName := some binding.database
  odooUser := some binding.username
  odooVersion := snapshot.map fun shown => toString shown.version
  odooTransport := snapshot.map (·.transport)
  inputPayload := inputPayload
  dryRun := dryRun
  proposedAction := none
  actualResult := actualResult
  affectedOdooRecords := []
  errorCode := error.map fun given => given.errorCode.value
  errorMessage := error.map (·.errorMessage)
  finalStatus := finalStatus
  createdAt := none

def reportFailure (requestId : String) : ErrorResponse :=
  ⟨.unknownError, "The accounting report failed unexpectedly.",
    "Retry the request or contact the service operator.", requestId⟩

namespace ReportCall

variable (call : ReportCall) (requestId : String)

def deniedMessage : String :=
  "The resolved MCP identity is not authorized for this accounting report."

def deniedHint : String := "Reconnect with accounting read permission and retry."

def failedEvent (error : ErrorResponse) (binding : ConnectionBinding)
    (snapshot : Option CapabilitySnapshot) : Except PyException AuditEvent :=
  .ok (accountingEvent call.definition call.companyId call.inputPayload requestId "failed" none
    (some error) false binding snapshot)

def succeededEvent (result : ReportResponse) (binding : ConnectionBinding)
    (snapshot : CapabilitySnapshot) : AuditEvent :=
  accountingEvent call.definition call.companyId call.inputPayload requestId "succeeded"
    (some [("status", .str "ok"),
      ("item_count", .int result.items.length),
      ("has_more", .bool result.nextCursor.isSome),
      ("summary", .dict result.summary)])
    none false binding (some snapshot)

/-- `invalid_accounting_report` -/
def invalidAccountingReport : ToolBody State ToolResponse := do
  return .failed (← invalidRequest call.definition call.companyId deniedMessage deniedHint
    ⟨.invalidInput, "The accounting report input is invalid.",
      "Correct the dates, identifiers, bounds, or cursor and retry.", requestId⟩
    (reportFailure requestId) call.storage (call.failedEvent requestId) requestId)

def body : ToolBody State ToolResponse := do
  let binding ← authorize call.definition call.companyId deniedMessage deniedHint
  let adapter ← openAdapter binding
  let company ← findCompany adapter call.companyId
  let snapshot ← readCapabilities adapter
  Scoped.ofExcept (ensure (hasCapability call.definition snapshot)
    (.odooMcpError ⟨.capabilityNotAvailable,
      "The Accounting application is unavailable to the technical user.",
      "Install Accounting or grant the required least-privilege access."⟩))
  let result ← ask (.report adapter company)
  closeAdapter adapter
  Scoped.ofExcept (ensure call.storage (.exception "Accounting report storage is unavailable"))
  let response ← Scoped.ofExcept (result.toolResponse.mapError .exception)
  ask (.recordSuccess (call.succeededEvent requestId result binding snapshot) call.definition.name
    result.artifactMarkdown)
  return .ok response

/-- The handlers: what is left open is closed, and the failure is audited. -/
def handle (exception : PyException) : ToolBody State ToolResponse := do
  let error ← cleanUp (errorOf requestId (reportFailure requestId) exception)
    fun _ => reportFailure requestId
  auditFailure call.storage (call.failedEvent requestId error)
  return .failed error

/-- `accounting_report` -/
def accountingReport : ToolBody State ToolResponse :=
  orElse (call.body requestId) (call.handle requestId)

end ReportCall

/-! ### Payroll evidence -/

structure EvidenceCall where
  definition : ToolDefinition
  companyId : Int
  auditInput : Payload
  storage : Bool

/-- The count of items, and whether there are more, by the class of the response. -/
def EvidenceItems.counts : EvidenceItems → Nat × Bool
  | .paged itemCount nextCursor => (itemCount, nextCursor.isSome)
  | .findings count => (count, false)
  | .other => (1, false)

/-- `_result_projection` -/
def resultProjection (response : Option PayrollEvidenceResponse) (finalStatus : String)
    (error : Option ErrorResponse) : Payload :=
  let counts : Nat × Bool := (response.map (·.items.counts)).getD (0, false)
  [("final_status", .str finalStatus),
    ("item_count", .int counts.1),
    ("has_more", .bool counts.2),
    ("limitation_codes", .list (((response.map (·.limitations)).getD []).map .str)),
    ("error_code", .optional (fun given : ErrorResponse => .str given.errorCode.value) error)]

def evidenceFailure (requestId : String) : ErrorResponse :=
  ⟨.unknownError, "The Payroll evidence request failed unexpectedly.",
    "Retry the request or contact the service operator.", requestId⟩

def evidenceCancelled (requestId : String) : ErrorResponse :=
  ⟨.unknownError, "The Payroll evidence request was cancelled.",
    "Retry the request against fresh Odoo Payroll state.", requestId⟩

namespace EvidenceCall

variable (call : EvidenceCall) (requestId : String)

def deniedMessage : String := "The resolved MCP identity is not authorized for Payroll evidence."

def deniedHint : String := "Reconnect with Payroll read permission and retry."

/-- `_audit_event` of the Payroll evidence tools. -/
def auditEvent (finalStatus : String) (response : Option PayrollEvidenceResponse)
    (error : Option ErrorResponse) (binding : ConnectionBinding)
    (snapshot : Option CapabilitySnapshot) : AuditEvent where
  requestId := requestId
  tenantId := binding.tenantId
  companyId := some call.companyId
  toolName := call.definition.name
  toolVersion := call.definition.version
  module := "payroll"
  authenticatedSubject := binding.authenticatedSubject
  mcpClient := binding.mcpClient
  odooDbName := some binding.database
  odooUser := some binding.username
  odooVersion := snapshot.map fun shown => toString shown.version
  odooTransport := snapshot.map (·.transport)
  inputPayload := call.auditInput
  dryRun := false
  proposedAction := none
  actualResult := some (resultProjection response finalStatus error)
  affectedOdooRecords := []
  errorCode := error.map fun given => given.errorCode.value
  errorMessage := error.map (·.errorMessage)
  finalStatus := finalStatus
  createdAt := none

def failedEvent (error : ErrorResponse) (binding : ConnectionBinding)
    (snapshot : Option CapabilitySnapshot) : Except PyException AuditEvent :=
  .ok (call.auditEvent requestId "failed" none (some error) binding snapshot)

/-- `invalid_request` -/
def invalidRequest : ToolBody State ToolResponse := do
  return .failed (← OdooMcp.invalidRequest call.definition call.companyId deniedMessage deniedHint
    ⟨.invalidInput, "The Payroll evidence request is invalid.",
      "Correct the dates, states, identifiers, bounds, or cursor.", requestId⟩
    (evidenceFailure requestId) call.storage (call.failedEvent requestId) requestId)

def body : ToolBody State ToolResponse := do
  let binding ← authorize call.definition call.companyId deniedMessage deniedHint
  let adapter ← openAdapter binding
  let _ ← findCompany adapter call.companyId
  let snapshot ← readCapabilities adapter
  Scoped.ofExcept (ensure (hasCapability call.definition snapshot)
    (.odooMcpError ⟨.capabilityNotAvailable,
      "The Payroll application is unavailable to the technical user.",
      "Install Payroll or grant the required least-privilege access."⟩))
  let result ← ask (.evidence adapter)
  closeAdapter adapter
  Scoped.ofExcept (ensure call.storage (.exception "Payroll audit storage is unavailable"))
  let response ← Scoped.ofExcept (result.toolResponse.mapError .exception)
  let _ ← ask (.append (call.auditEvent requestId "succeeded" (some result) none binding
    (some snapshot)))
  return .ok response

/-- The handlers. A cancellation is audited, and raised again after the close, which is shielded
from a further one. -/
def handle : PyException → ToolBody State ToolResponse
  | .cancelledError => do
      let error ← cleanUp (evidenceCancelled requestId) id
      auditFailure call.storage (call.failedEvent requestId error)
      throw .cancelledError
  | exception => do
      let error ← cleanUp (errorOf requestId (evidenceFailure requestId) exception)
        fun _ => evidenceFailure requestId
      auditFailure call.storage (call.failedEvent requestId error)
      return .failed error

/-- `run` -/
def run : ToolBody State ToolResponse := do
  match ← Scoped.attempt (call.body requestId) with
  | .ok response => return response
  | .error exception => call.handle requestId exception

end EvidenceCall

end OdooMcp
