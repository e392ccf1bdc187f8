import OdooMcp.Policy.WriteSafety

/-!
# The coordinator's run

The methods of `WriteSafetyCoordinator` that talk to the journal, the audit log or a callback, and
`run` itself. `requestId` is the selected request id: the one given, or a new one.
-/

namespace OdooMcp

open Effect

/-- What the coordinator asks of its storage and of the callbacks of the call. -/
inductive WriteRequest
  | begin (event : AuditEvent) (idempotencyKey : String) (requestPayload : Payload)
  | finish (event : AuditEvent) (idempotencyKey : String) (state : IdempotencyState)
      (response : Option Payload)
  | append (event : AuditEvent)
  | prepare
  | validateCurrentState
  | execute

abbrev writeSignature : Signature where
  Request := WriteRequest
  Result
    | .begin _ _ _ => IdempotencyDecision
    | .finish _ _ _ _ => Unit
    | .append _ => AuditRow
    | .prepare => PrepareReturn
    | .validateCurrentState => Unit
    | .execute => ExecuteReturn

abbrev Coordinator := Program writeSignature PyException

/-- The arguments of one `run`. -/
structure WriteCall where
  binding : ConnectionBinding
  definition : ToolDefinition
  module : String
  snapshot : CapabilitySnapshot
  command : WriteCommand
  preflightError : Option OdooMcpError

namespace WriteCall

variable (call : WriteCall) (requestId : String)

/-- The idempotency state an audit payload is annotated with. -/
def auditedState (finalStatus : String) (retained : Option WriteSafetyResponse) : String :=
  let key := call.command.idempotencyKey
  if finalStatus = "attempted" then
    "in_progress"
  else if ["rejected", "conflicted", "previewed"].contains finalStatus then
    "not_reserved"
  else
    match retained with
    | none => "not_reserved"
    | some response =>
        if response.outcome = .unknown then "unknown"
        else if response.status = .succeeded then "succeeded"
        else if !call.command.dryRun && key.any (· ≠ "") then "failed"
        else "not_reserved"

def inputPayload (finalStatus : String) (retained : Option WriteSafetyResponse) : Payload :=
  match call.command.auditPayload with
  | none =>
      dictUpdate call.command.requestPayload
        [("company_id", .int call.command.companyId),
          ("dry_run", .bool call.command.dryRun),
          ("idempotency_key", .optional .str call.command.idempotencyKey)]
  | some auditPayload =>
      dictUpdate auditPayload
        [("company_id", .int call.command.companyId),
          ("dry_run", .bool call.command.dryRun),
          ("idempotency_state", .str (call.auditedState finalStatus retained))]

/-- `_event` -/
def event (finalStatus : String) (response : Option WriteSafetyResponse)
    (proposedAction : Option Payload) (affectedRecords : List String) :
    Except PyException AuditEvent := do
  let error := response.filter fun given => given.status = .failed
  let retained := response.map (responseForPersistence call.command)
  return {
    requestId := requestId
    tenantId := call.binding.tenantId
    companyId := if 0 < call.command.companyId then some call.command.companyId else none
    toolName := call.definition.name
    toolVersion := call.definition.version
    module := call.module
    authenticatedSubject := call.binding.authenticatedSubject
    mcpClient := call.binding.mcpClient
    odooDbName := some call.binding.database
    odooUser := some call.binding.username
    odooVersion := some (toString call.snapshot.version)
    odooTransport := some call.snapshot.transport
    inputPayload := call.inputPayload finalStatus retained
    dryRun := call.command.dryRun
    proposedAction := proposedAction.map
      (filteredMapping · call.command.retainedProposedActionKeys)
    actualResult := ← response.mapM (responseMappingForPersistence call.command)
    affectedOdooRecords := affectedRecords
    errorCode := error.bind fun given => given.errorCode.map (·.value)
    errorMessage := error.bind (·.errorMessage)
    finalStatus := finalStatus
    createdAt := none }

def failed (error : OdooMcpError) (outcome : WriteOutcome) (prepared : Option PreparedWrite) :
    WriteSafetyResponse :=
  failure error requestId call.command.companyId outcome prepared

/-- `_append_or_fail`: the event is built by the caller, outside the guarded append. -/
def appendOrFail (finalStatus : String) (response : WriteSafetyResponse) :
    Coordinator WriteSafetyResponse := do
  let event ← Program.ofExcept (call.event requestId finalStatus (some response) none [])
  match ← Program.attempt (Program.call (S := writeSignature) (.append event)) with
  | .ok _ => return response
  | .error .cancelledError => throw .cancelledError
  | .error _ =>
      return failure unexpectedPreWriteError response.requestId response.companyId .notAttempted
        none

/-- `_finish_after_attempt` -/
def finishAfterAttempt (idempotencyKey : String) (state : IdempotencyState) (finalStatus : String)
    (response : WriteSafetyResponse) (prepared : Option PreparedWrite) : Coordinator Unit := do
  let event ← Program.ofExcept (call.event requestId finalStatus (some response)
    (prepared.map (·.proposedAction)) [])
  let mapping ← Program.ofExcept (responseMappingForPersistence call.command response)
  Program.call (S := writeSignature) (.finish event idempotencyKey state (some mapping))

/-- An outcome is recorded if that is possible: any `Exception` of the attempt is suppressed. -/
def finishQuietly (idempotencyKey : String) (state : IdempotencyState) (finalStatus : String)
    (response : WriteSafetyResponse) (prepared : Option PreparedWrite) :
    Coordinator WriteSafetyResponse := do
  let recorded ← Program.attempt
    (call.finishAfterAttempt requestId idempotencyKey state finalStatus response prepared)
  match recorded with
  | .error .cancelledError => throw .cancelledError
  | _ => return response

/-- `_record_pre_write_failure` -/
def recordPreWriteFailure (error : OdooMcpError) : Coordinator WriteSafetyResponse :=
  call.appendOrFail requestId "failed" (call.failed requestId error .notAttempted none)

/-- `_finish_pre_write_failure` -/
def finishPreWriteFailure (idempotencyKey : String) (error : OdooMcpError)
    (prepared : Option PreparedWrite) : Coordinator WriteSafetyResponse :=
  call.finishQuietly requestId idempotencyKey .failed "failed"
    (call.failed requestId error .notAttempted prepared) prepared

/-- `_finalize_unknown` -/
def finalizeUnknown (idempotencyKey : String) (prepared : PreparedWrite) :
    Coordinator WriteSafetyResponse :=
  call.finishQuietly requestId idempotencyKey .unknown "unknown"
    (call.failed requestId unknownOutcomeError .unknown (some prepared)) (some prepared)

/-- `_finish_known_write_failure` -/
def finishKnownWriteFailure (idempotencyKey : String) (error : OdooMcpError)
    (prepared : PreparedWrite) : Coordinator WriteSafetyResponse :=
  call.finishQuietly requestId idempotencyKey .failed "failed"
    (call.failed requestId error .known (some prepared)) (some prepared)

/-- Ask for a preparation and check that its response can be serialized. -/
def prepareResponse : Coordinator (PreparedWrite × WriteSafetyResponse) := do
  let returned ← Program.call (S := writeSignature) .prepare
  let prepared ← Program.ofExcept (normalizePrepared returned)
  let response := preparedResponse prepared requestId call.command.companyId
  let _ ← Program.ofExcept response.modelDump
  return (prepared, response)

/-- The three clauses that handle an exception raised before the write: a cancellation is recorded
and raised again, an error of the public kind is reported, any other is replaced. -/
def handlePreWrite (record : OdooMcpError → Coordinator WriteSafetyResponse) :
    PyException → Coordinator WriteSafetyResponse
  | .cancelledError => do
      let _ ← record cancelledPreWriteError
      throw .cancelledError
  | .odooMcpError error => record error
  | _ => record unexpectedPreWriteError

/-- The dry-run branch of `run`. -/
def preview : Coordinator WriteSafetyResponse := do
  match ← Program.attempt (call.prepareResponse requestId) with
  | .error error => handlePreWrite (call.recordPreWriteFailure requestId) error
  | .ok (prepared, response) =>
      call.appendOrFail requestId (if prepared.needsInput then "needs_input" else "previewed")
        response

/-- `run` from the answer of `execute` on. -/
def settle (idempotencyKey : String) (prepared : PreparedWrite) :
    Except PyException WriteSafetyResponse → Coordinator WriteSafetyResponse
  | .error .cancelledError => do
      let _ ← call.finalizeUnknown requestId idempotencyKey prepared
      throw .cancelledError
  | .error (.knownWriteFailure error) =>
      call.finishKnownWriteFailure requestId idempotencyKey error prepared
  | .error _ => call.finalizeUnknown requestId idempotencyKey prepared
  | .ok response => do
      let recorded ← Program.attempt do
        let event ← Program.ofExcept (call.event requestId "succeeded" (some response)
          (some prepared.proposedAction) response.recordRefs)
        let mapping ← Program.ofExcept (responseMappingForPersistence call.command response)
        Program.call (S := writeSignature)
          (.finish event idempotencyKey .succeeded (some mapping))
      match recorded with
      | .ok () => return response
      | .error .cancelledError => throw .cancelledError
      | .error _ => return call.failed requestId unknownOutcomeError .unknown (some prepared)

/-- The `execute` step: ask, and validate what came back. -/
def executeResponse (prepared : PreparedWrite) : Coordinator WriteSafetyResponse := do
  let returned ← Program.call (S := writeSignature) .execute
  Program.ofExcept (appliedResponse prepared requestId call.command.companyId returned)

/-- `run` of the call that holds the reservation. -/
def own (idempotencyKey : String) : Coordinator WriteSafetyResponse := do
  match ← Program.attempt (call.prepareResponse requestId) with
  | .error error =>
      handlePreWrite (call.finishPreWriteFailure requestId idempotencyKey · none) error
  | .ok (prepared, preparedResponse) =>
      if prepared.needsInput then
        call.finishQuietly requestId idempotencyKey .failed "needs_input" preparedResponse
          (some prepared)
      else
        match ← Program.attempt (Program.call (S := writeSignature) .validateCurrentState) with
        | .error error =>
            handlePreWrite (call.finishPreWriteFailure requestId idempotencyKey · (some prepared))
              error
        | .ok () =>
            call.settle requestId idempotencyKey prepared
              (← Program.attempt (call.executeResponse requestId prepared))

/-- The `REPLAY` branch of `run`. -/
def replay (decision : IdempotencyDecision) : Coordinator WriteSafetyResponse :=
  match restorePersistedResponse call.command decision.response with
  | .error _ => return call.failed requestId unexpectedPreWriteError .notAttempted none
  | .ok response => call.appendOrFail requestId "replayed" response

/-- `run` from the answer of `begin` on. -/
def decide (idempotencyKey : String) :
    Except PyException IdempotencyDecision → Coordinator WriteSafetyResponse
  | .error .cancelledError => throw .cancelledError
  | .error .idempotencyPayloadMismatch =>
      call.appendOrFail requestId "conflicted"
        (call.failed requestId payloadMismatchError .notAttempted none)
  | .error _ => return call.failed requestId unexpectedPreWriteError .notAttempted none
  | .ok decision =>
      match decision.disposition with
      | .inProgress =>
          call.appendOrFail requestId "conflicted"
            (call.failed requestId concurrentOperationError .notAttempted none)
      | .replay => call.replay requestId decision
      | .reserved => call.own requestId idempotencyKey

/-- The gates: a preflight error, or the first gate of the coordinator that rejects. -/
def gate : Option OdooMcpError :=
  call.preflightError.or (gateError call.binding call.definition call.snapshot call.command)

def givenKey : Option String :=
  call.command.idempotencyKey.filter fun key => !isBlank key

def run : Coordinator WriteSafetyResponse := do
  Program.ofExcept (validateWriteToolDefinition call.definition)
  match call.gate with
  | some error =>
      call.appendOrFail requestId "rejected" (call.failed requestId error .notAttempted none)
  | none =>
      if call.command.dryRun then
        call.preview requestId
      else
        match call.givenKey with
        | none =>
            call.appendOrFail requestId "rejected"
              (call.failed requestId executionNotExplicitError .notAttempted none)
        | some idempotencyKey => do
            let attempted ← Program.ofExcept (call.event requestId "attempted" none
              (some [("tool", .str call.definition.name),
                ("risk_level", .str call.definition.riskLevel.text)]) [])
            let begun ← Program.attempt (Program.call (S := writeSignature)
              (.begin attempted idempotencyKey call.command.requestPayload))
            call.decide requestId idempotencyKey begun

end WriteCall

/-- A request to post one invoice, as `validate_invoice` submits it. -/
def validateInvoiceCall : WriteCall where
  binding :=
    { tenantId := "tenant"
      authenticatedSubject := "subject"
      mcpClient := "client"
      permissions := ["accounting_propose"]
      database := "books"
      username := "accountant"
      allowedCompanyIds := [1] }
  definition :=
    { name := "validate_invoice"
      version := "1.0.0"
      riskLevel := .confirmWrite
      requiredPermission := "accounting_propose"
      requiredCapability := some "account"
      annotations := ⟨some false, some true, some true, some true⟩ }
  module := "accounting"
  snapshot := ⟨18, "json2", [("account", true)]⟩
  command :=
    { companyId := 1
      requestPayload := [("invoice_id", .int 7)]
      dryRun := false
      idempotencyKey := some "post-7"
      auditPayload := none
      retainedProposedActionKeys := none
      retainedMaterialEffectKeys := none
      compactPersistence := false }
  preflightError := none

end OdooMcp
