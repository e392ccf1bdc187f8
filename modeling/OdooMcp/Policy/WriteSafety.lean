import OdooMcp.Effect.Program
import OdooMcp.Storage.Models

/-!
# The write-safety boundary

`WriteSafetyCoordinator.run` orders the gates, the preview, the reservation of the idempotency key,
the callbacks and the audit trail of one write call. The journal, the audit log and the three
callbacks are the service the program calls; each may answer with any exception.
-/

namespace OdooMcp

inductive RiskLevel
  | read
  | propose
  | draftWrite
  | confirmWrite
  deriving DecidableEq, Repr

def RiskLevel.text : RiskLevel → String
  | .read => "read"
  | .propose => "propose"
  | .draftWrite => "draft_write"
  | .confirmWrite => "confirm_write"

structure ToolAnnotations where
  readOnlyHint : Option Bool
  destructiveHint : Option Bool
  idempotentHint : Option Bool
  openWorldHint : Option Bool
  deriving DecidableEq, Repr

structure ToolDefinition where
  name : String
  version : String
  riskLevel : RiskLevel
  requiredPermission : String
  requiredCapability : Option String
  annotations : ToolAnnotations
  deriving DecidableEq, Repr

structure ConnectionBinding where
  tenantId : String
  authenticatedSubject : String
  mcpClient : String
  permissions : List String
  database : String
  username : String
  allowedCompanyIds : List Int
  deriving DecidableEq, Repr

structure CapabilitySnapshot where
  version : Int
  transport : String
  modules : List (String × Bool)
  deriving DecidableEq, Repr

structure WriteCommand where
  companyId : Int
  requestPayload : Payload
  dryRun : Bool
  idempotencyKey : Option String
  auditPayload : Option Payload
  retainedProposedActionKeys : Option (List String)
  retainedMaterialEffectKeys : Option (List String)
  compactPersistence : Bool

/-- What `prepare` hands back: an object of class `PreparedWrite`, or of any other class. -/
inductive PrepareReturn
  | write (proposedAction materialEffects : PyDict) (artifactMarkdown needsInput : PyValue)
  | other

/-- What `execute` hands back: an object of class `AppliedWrite`, or of any other class. -/
inductive ExecuteReturn
  | applied (materialEffects : PyDict) (recordRefs : List PyValue) (artifactMarkdown : PyValue)
  | other

structure PreparedWrite where
  proposedAction : Payload
  materialEffects : Payload
  artifactMarkdown : Option String
  needsInput : Bool

/-! ### The response -/

inductive WriteStatus
  | preview
  | succeeded
  | needsInput
  | failed
  deriving DecidableEq, Repr

inductive WriteOutcome
  | notAttempted
  | known
  | unknown
  deriving DecidableEq, Repr

def WriteStatus.text : WriteStatus → String
  | .preview => "preview"
  | .succeeded => "succeeded"
  | .needsInput => "needs_input"
  | .failed => "failed"

def WriteOutcome.text : WriteOutcome → String
  | .notAttempted => "not_attempted"
  | .known => "known"
  | .unknown => "unknown"

def WriteStatus.ofText? : String → Option WriteStatus
  | "preview" => some .preview
  | "succeeded" => some .succeeded
  | "needs_input" => some .needsInput
  | "failed" => some .failed
  | _ => none

def WriteOutcome.ofText? : String → Option WriteOutcome
  | "not_attempted" => some .notAttempted
  | "known" => some .known
  | "unknown" => some .unknown
  | _ => none

/-- `validate_shape`: the error fields come with a failure and only with it, and an unknown outcome
is a failure. -/
def ValidShape (status : WriteStatus) (outcome : WriteOutcome) (errorCode : Option ErrorCode)
    (errorMessage remediationHint : Option String) : Prop :=
  (status = .failed → errorCode.isSome ∧ errorMessage.isSome ∧ remediationHint.isSome) ∧
    (status ≠ .failed → errorCode = none ∧ errorMessage = none ∧ remediationHint = none) ∧
    (outcome = .unknown → status = .failed)

instance (status : WriteStatus) (outcome : WriteOutcome) (errorCode : Option ErrorCode)
    (errorMessage remediationHint : Option String) :
    Decidable (ValidShape status outcome errorCode errorMessage remediationHint) :=
  inferInstanceAs (Decidable (_ ∧ _ ∧ _))

structure WriteSafetyResponse where
  status : WriteStatus
  outcome : WriteOutcome
  requestId : String
  companyId : Int
  proposedAction : Option Payload
  materialEffects : Payload
  recordRefs : List String
  artifactMarkdown : Option String
  errorCode : Option ErrorCode
  errorMessage : Option String
  remediationHint : Option String
  shape : ValidShape status outcome errorCode errorMessage remediationHint

/-- `_failure` -/
def failure (error : OdooMcpError) (requestId : String) (companyId : Int) (outcome : WriteOutcome)
    (prepared : Option PreparedWrite) : WriteSafetyResponse where
  status := .failed
  outcome := outcome
  requestId := requestId
  companyId := companyId
  proposedAction := prepared.map (·.proposedAction)
  materialEffects := (prepared.map (·.materialEffects)).getD []
  recordRefs := []
  artifactMarkdown := prepared.bind (·.artifactMarkdown)
  errorCode := some error.code
  errorMessage := some error.safeMessage
  remediationHint := some error.remediationHint
  shape := by simp [ValidShape]

/-- `_prepared_response` -/
def preparedResponse (prepared : PreparedWrite) (requestId : String) (companyId : Int) :
    WriteSafetyResponse where
  status := if prepared.needsInput then .needsInput else .preview
  outcome := .notAttempted
  requestId := requestId
  companyId := companyId
  proposedAction := some prepared.proposedAction
  materialEffects := prepared.materialEffects
  recordRefs := []
  artifactMarkdown := prepared.artifactMarkdown
  errorCode := none
  errorMessage := none
  remediationHint := none
  shape := by cases prepared.needsInput <;> simp [ValidShape]

/-- `_normalize_prepared` -/
def normalizePrepared : PrepareReturn → Except PyException PreparedWrite
  | .write proposedAction materialEffects artifactMarkdown needsInput => do
      let needsInput ← match needsInput with
        | .bool value => .ok value
        | _ => .error (typeError "Write preparation returned an invalid needs-input flag")
      let artifactMarkdown ← match artifactMarkdown with
        | .none => .ok none
        | .str text => .ok (some text)
        | _ => .error (typeError "Write preparation returned an invalid artifact")
      let proposedAction ← orRaise proposedAction.toPayload?
        (typeError "Write preparation returned invalid proposed-action keys")
      let materialEffects ← orRaise materialEffects.toPayload?
        (typeError "Write preparation returned invalid material-effect keys")
      return ⟨proposedAction, materialEffects, artifactMarkdown, needsInput⟩
  | .other => .error (typeError "Write preparation returned an invalid result")

def PyValue.truthy : PyValue → Bool
  | .none => false
  | .bool value => value
  | .int value => value ≠ 0
  | .float text _ => text ≠ "0.0" && text ≠ "-0.0"
  | .str value => value ≠ ""
  | .list items => !items.isEmpty
  | .tuple items => !items.isEmpty
  | .dict entries => !entries.isEmpty
  | .other _ => true

def validationError : PyException := valueError "validation error for WriteSafetyResponse"

def asStr : PyValue → Except PyException String
  | .str value => .ok value
  | _ => .error validationError

def asInt : PyValue → Except PyException Int
  | .int value => .ok value
  | .bool value => .ok (if value then 1 else 0)
  | _ => .error validationError

def asDict : PyValue → Except PyException Payload
  | .dict entries => orRaise (PyDict.toPayload? entries) validationError
  | _ => .error validationError

def asStrings : PyValue → Except PyException (List String)
  | .list items => items.mapM asStr
  | .tuple items => items.mapM asStr
  | _ => .error validationError

def asOptional {α : Type} (read : PyValue → Except PyException α) :
    PyValue → Except PyException (Option α)
  | .none => .ok none
  | value => some <$> read value

/-- The response to an execution, as pydantic validates it from what the callback returned. -/
def appliedResponse (prepared : PreparedWrite) (requestId : String) (companyId : Int) :
    ExecuteReturn → Except PyException WriteSafetyResponse
  | .applied materialEffects recordRefs artifactMarkdown => do
      let materialEffects ← orRaise materialEffects.toPayload? validationError
      let recordRefs ← recordRefs.mapM asStr
      let artifactMarkdown ←
        if artifactMarkdown.truthy then some <$> asStr artifactMarkdown
        else .ok prepared.artifactMarkdown
      return {
        status := .succeeded
        outcome := .known
        requestId := requestId
        companyId := companyId
        proposedAction := some prepared.proposedAction
        materialEffects := materialEffects
        recordRefs := recordRefs
        artifactMarkdown := artifactMarkdown
        errorCode := none
        errorMessage := none
        remediationHint := none
        shape := by simp [ValidShape] }
  | .other => .error (typeError "Write callback returned an invalid result")

/-! ### Persisted projections -/

def dumpMapping (payload : Payload) : Except PyException PyValue :=
  modelDump payload.toValue

def dumpOptional : Option Payload → Except PyException PyValue
  | none => .ok .none
  | some payload => dumpMapping payload

/-- `response.model_dump(mode="json")` -/
def WriteSafetyResponse.modelDump (response : WriteSafetyResponse) :
    Except PyException Payload :=
  return [("status", .str response.status.text),
    ("outcome", .str response.outcome.text),
    ("request_id", .str response.requestId),
    ("company_id", .int response.companyId),
    ("proposed_action", ← dumpOptional response.proposedAction),
    ("material_effects", ← dumpMapping response.materialEffects),
    ("record_refs", .list (response.recordRefs.map .str)),
    ("artifact_markdown", .optional .str response.artifactMarkdown),
    ("error_code", .optional (fun code => .str code.value) response.errorCode),
    ("error_message", .optional .str response.errorMessage),
    ("remediation_hint", .optional .str response.remediationHint)]

def responseFields : List String :=
  ["status", "outcome", "request_id", "company_id", "proposed_action", "material_effects",
    "record_refs", "artifact_markdown", "error_code", "error_message", "remediation_hint"]

/-- `WriteSafetyResponse.model_validate(payload)` -/
def WriteSafetyResponse.modelValidate (payload : Payload) :
    Except PyException WriteSafetyResponse := do
  let field (key : String) : Except PyException PyValue :=
    orRaise (dictGet payload key) validationError
  let fieldOr (key : String) (default : PyValue) : PyValue := (dictGet payload key).getD default
  ensure (payload.all fun entry => responseFields.contains entry.1) validationError
  let status ← orRaise (WriteStatus.ofText? (← asStr (← field "status"))) validationError
  let outcome ← orRaise (WriteOutcome.ofText? (← asStr (← field "outcome"))) validationError
  let requestId ← asStr (← field "request_id")
  let companyId ← asInt (← field "company_id")
  let proposedAction ← asOptional asDict (fieldOr "proposed_action" .none)
  let materialEffects ← asDict (fieldOr "material_effects" (.dict []))
  let recordRefs ← asStrings (fieldOr "record_refs" (.tuple []))
  let artifactMarkdown ← asOptional asStr (fieldOr "artifact_markdown" .none)
  let errorCodeText ← asOptional asStr (fieldOr "error_code" .none)
  let errorCode ← errorCodeText.mapM fun text => orRaise (ErrorCode.ofValue? text) validationError
  let errorMessage ← asOptional asStr (fieldOr "error_message" .none)
  let remediationHint ← asOptional asStr (fieldOr "remediation_hint" .none)
  if shape : ValidShape status outcome errorCode errorMessage remediationHint then
    return ⟨status, outcome, requestId, companyId, proposedAction, materialEffects, recordRefs,
      artifactMarkdown, errorCode, errorMessage, remediationHint, shape⟩
  else
    throw validationError

/-- `_filtered_mapping` of a mapping that is there. -/
def filteredMapping (value : Payload) (retainedKeys : Option (List String)) : Payload :=
  match retainedKeys with
  | none => value
  | some keys => value.filter fun entry => keys.contains entry.1

/-- `_response_for_persistence` -/
def responseForPersistence (command : WriteCommand) (response : WriteSafetyResponse) :
    WriteSafetyResponse :=
  if command.retainedProposedActionKeys.isNone && command.retainedMaterialEffectKeys.isNone then
    response
  else
    { response with
      proposedAction := response.proposedAction.map
        (filteredMapping · command.retainedProposedActionKeys)
      materialEffects := filteredMapping response.materialEffects
        command.retainedMaterialEffectKeys
      artifactMarkdown := none }

def withoutNone (payload : Payload) : Payload :=
  payload.filter fun entry => match entry.2 with
    | .none => false
    | _ => true

/-- `_response_mapping_for_persistence` -/
def responseMappingForPersistence (command : WriteCommand) (response : WriteSafetyResponse) :
    Except PyException Payload :=
  let retained := responseForPersistence command response
  if !command.compactPersistence then
    retained.modelDump
  else
    let action := retained.proposedAction.getD []
    let auditPayload := command.auditPayload.getD []
    let selected (key : String) : PyValue :=
      (dictGet retained.materialEffects key).getD
        ((dictGet action key).getD ((dictGet auditPayload key).getD .none))
    let result : Payload :=
      [("status", .str retained.status.text),
        ("outcome", .str retained.outcome.text),
        ("request_id", .str retained.requestId),
        ("company_id", .int retained.companyId),
        ("operation", selected "operation"),
        ("payslip_id", selected "payslip_id"),
        ("input_id", selected "input_id"),
        ("result_input_id", selected "result_input_id"),
        ("before_source_state", selected "before_source_state"),
        ("after_source_state", selected "after_source_state")]
    let errorFields : Payload :=
      match retained.errorCode with
      | none => []
      | some code =>
          [("error_code", .str code.value),
            ("error_message", .optional .str retained.errorMessage),
            ("remediation_hint", .optional .str retained.remediationHint)]
    .ok (withoutNone (result ++ errorFields))

/-- `_restore_persisted_response` -/
def restorePersistedResponse (command : WriteCommand) (payload : Option Payload) :
    Except PyException WriteSafetyResponse := do
  if !command.compactPersistence then
    WriteSafetyResponse.modelValidate (← orRaise payload validationError)
  else
    let payload ← orRaise payload (valueError "A compact replay projection is required")
    let stored (key : String) : PyValue := (dictGet payload key).getD .none
    let proposedAction := withoutNone
      [("operation", stored "operation"),
        ("payslip_id", stored "payslip_id"),
        ("input_id", stored "input_id"),
        ("before_source_state", stored "before_source_state")]
    let materialEffects := withoutNone
      [("operation", stored "operation"),
        ("payslip_id", stored "payslip_id"),
        ("input_id", stored "input_id"),
        ("result_input_id", stored "result_input_id"),
        ("before_source_state", stored "before_source_state"),
        ("after_source_state", stored "after_source_state")]
    WriteSafetyResponse.modelValidate
      [("status", stored "status"),
        ("outcome", stored "outcome"),
        ("request_id", stored "request_id"),
        ("company_id", stored "company_id"),
        ("proposed_action",
          if proposedAction.isEmpty then .none else Payload.toValue proposedAction),
        ("material_effects", Payload.toValue materialEffects),
        ("error_code", stored "error_code"),
        ("error_message", stored "error_message"),
        ("remediation_hint", stored "remediation_hint")]

/-! ### Responses that can be serialized -/

/-- The mappings of the response hold nothing that pydantic cannot serialize. -/
structure Storable (response : WriteSafetyResponse) : Prop where
  proposedAction : ∀ action, response.proposedAction = some action →
    ∀ entry ∈ action, Dumps entry.2
  materialEffects : ∀ entry ∈ response.materialEffects, Dumps entry.2

theorem dumpMapping_ok {payload : Payload} (hpayload : ∀ entry ∈ payload, Dumps entry.2) :
    ∃ dumped, dumpMapping payload = .ok dumped := by
  refine dumps_dict_iff.mpr fun entry hentry => ?_
  obtain ⟨original, horiginal, rfl⟩ := List.mem_map.mp hentry
  exact hpayload original horiginal

theorem Storable.modelDump {response : WriteSafetyResponse} (hstorable : Storable response) :
    ∃ payload, response.modelDump = .ok payload := by
  obtain ⟨action, haction⟩ : ∃ dumped, dumpOptional response.proposedAction = .ok dumped := by
    cases hresponse : response.proposedAction with
    | none => exact ⟨_, rfl⟩
    | some action => exact dumpMapping_ok (hstorable.proposedAction action hresponse)
  obtain ⟨effects, heffects⟩ := dumpMapping_ok hstorable.materialEffects
  exact ⟨_, except_bind_ok.mpr ⟨action, haction, except_bind_ok.mpr ⟨effects, heffects, rfl⟩⟩⟩

theorem dumpMapping_ok_iff {payload : Payload} :
    (∃ dumped, dumpMapping payload = .ok dumped) ↔ ∀ entry ∈ payload, Dumps entry.2 := by
  refine ⟨fun hdumped entry hentry => ?_, dumpMapping_ok⟩
  exact dumps_dict_iff.mp hdumped _ (List.mem_map.mpr ⟨entry, hentry, rfl⟩)

/-- A response can be serialized if and only if its mappings can. -/
theorem modelDump_ok_iff {response : WriteSafetyResponse} :
    (∃ payload, response.modelDump = .ok payload) ↔ Storable response := by
  refine ⟨fun ⟨payload, hpayload⟩ => ?_, Storable.modelDump⟩
  obtain ⟨action, haction, hrest⟩ := except_bind_ok.mp hpayload
  obtain ⟨effects, heffects, -⟩ := except_bind_ok.mp hrest
  refine ⟨fun given hgiven => ?_, dumpMapping_ok_iff.mp ⟨effects, heffects⟩⟩
  rw [hgiven] at haction
  exact dumpMapping_ok_iff.mp ⟨action, haction⟩

theorem modelDump_response_ordinary (response : WriteSafetyResponse) :
    Ordinary response.modelDump := by
  have haction : Ordinary (dumpOptional response.proposedAction) := by
    cases response.proposedAction with
    | none => exact ordinary_ok _
    | some action => exact modelDump_ordinary _
  exact haction.bind fun _ => (modelDump_ordinary _).bind fun _ => ordinary_ok _

theorem mem_filteredMapping {payload : Payload} {keys : Option (List String)}
    {entry : String × PyValue} (hentry : entry ∈ filteredMapping payload keys) :
    entry ∈ payload := by
  cases keys with
  | none => exact hentry
  | some keys => exact (List.mem_filter.mp hentry).1

theorem Storable.persisted {response : WriteSafetyResponse} (hstorable : Storable response)
    (command : WriteCommand) : Storable (responseForPersistence command response) := by
  unfold responseForPersistence
  split
  · exact hstorable
  · refine ⟨fun action haction entry hentry => ?_, fun entry hentry =>
      hstorable.materialEffects entry (mem_filteredMapping hentry)⟩
    obtain ⟨original, horiginal, rfl⟩ := Option.map_eq_some_iff.mp haction
    exact hstorable.proposedAction original horiginal entry (mem_filteredMapping hentry)

theorem Storable.mapping {response : WriteSafetyResponse} (hstorable : Storable response)
    (command : WriteCommand) :
    ∃ payload, responseMappingForPersistence command response = .ok payload := by
  unfold responseMappingForPersistence
  split
  · exact (hstorable.persisted command).modelDump
  · exact ⟨_, rfl⟩

theorem dumps_of_asDict {value : PyValue} {payload : Payload}
    (hpayload : asDict value = .ok payload) (hvalue : Dumps value) :
    ∀ entry ∈ payload, Dumps entry.2 := by
  cases value with
  | dict entries =>
      rw [asDict, orRaise_ok] at hpayload
      exact dumps_of_toPayload? hpayload (dumps_dict_iff.mp hvalue)
  | _ => cases hpayload

theorem dumps_of_asOptional {value : PyValue} {payload : Payload}
    (hpayload : asOptional asDict value = .ok (some payload)) (hvalue : Dumps value) :
    ∀ entry ∈ payload, Dumps entry.2 := by
  cases value with
  | dict entries =>
      cases hdict : asDict (.dict entries) with
      | error error => simp [asOptional, hdict] at hpayload
      | ok read =>
          simp only [asOptional, hdict, Except.map_ok] at hpayload
          cases hpayload
          exact dumps_of_asDict hdict hvalue
  | _ => simp [asOptional, asDict] at hpayload

/-- What pydantic reads back from a serializable mapping is serializable. -/
theorem storable_of_modelValidate {payload : Payload} {response : WriteSafetyResponse}
    (hvalidate : WriteSafetyResponse.modelValidate payload = .ok response)
    (hpayload : ∀ entry ∈ payload, Dumps entry.2) : Storable response := by
  simp only [WriteSafetyResponse.modelValidate, except_bind_ok] at hvalidate
  obtain ⟨_, -, _, -, _, -, _, -, _, -, _, -, _, -, _, -, _, -, _, -, _, -, action, haction,
    effects, heffects, _, -, _, -, _, -, _, -, _, -, _, -, hresponse⟩ := hvalidate
  split at hresponse
  · cases hresponse
    refine ⟨fun given hgiven => ?_, ?_⟩
    · cases hgiven
      exact dumps_of_asOptional haction (dumps_dictGet hpayload _ _ ⟨_, rfl⟩)
    · exact dumps_of_asDict heffects (dumps_dictGet hpayload _ _ ⟨_, rfl⟩)
  · cases hresponse

theorem dumps_withoutNone {payload : Payload} (hpayload : ∀ entry ∈ payload, Dumps entry.2) :
    ∀ entry ∈ withoutNone payload, Dumps entry.2 :=
  fun entry hentry => hpayload entry (List.mem_filter.mp hentry).1

theorem dumps_toValue {payload : Payload} (hpayload : ∀ entry ∈ payload, Dumps entry.2) :
    Dumps payload.toValue :=
  dumpMapping_ok hpayload

theorem storable_of_restore {command : WriteCommand} {stored : Payload}
    {response : WriteSafetyResponse}
    (hrestore : restorePersistedResponse command (some stored) = .ok response)
    (hstored : ∀ entry ∈ stored, Dumps entry.2) : Storable response := by
  have hget (key : String) : Dumps ((dictGet stored key).getD .none) :=
    dumps_dictGet hstored key _ ⟨_, rfl⟩
  unfold restorePersistedResponse at hrestore
  split at hrestore
  · exact storable_of_modelValidate hrestore hstored
  · simp only [except_bind_ok, orRaise_ok, Option.some.injEq] at hrestore
    obtain ⟨_, rfl, hvalidate⟩ := hrestore
    refine storable_of_modelValidate hvalidate ?_
    simp only [List.forall_mem_cons, hget, true_and]
    refine ⟨?_, ?_, by simp⟩
    · split
      · exact ⟨_, rfl⟩
      · exact dumps_toValue (dumps_withoutNone (by simp [hget]))
    · exact dumps_toValue (dumps_withoutNone (by simp [hget]))

/-! ### Gates and error texts -/

/-- `validate_write_tool_definition` -/
def validateWriteToolDefinition (definition : ToolDefinition) : Except PyException Unit := do
  let annotations := definition.annotations
  ensure (definition.riskLevel ≠ .read)
    (valueError "Write safety requires a write-capable risk level")
  let destructiveIsValid :=
    if definition.riskLevel = .draftWrite then annotations.destructiveHint.isSome
    else annotations.destructiveHint = some (decide (definition.riskLevel = .confirmWrite))
  ensure (annotations.readOnlyHint = some false && destructiveIsValid &&
      annotations.idempotentHint = some true && annotations.openWorldHint = some true)
    (valueError "Write-capable tool annotations do not match the safety contract")

def reservedKeys : List String := ["company_id", "dry_run", "idempotency_key"]

/-- `_gate_error` -/
def gateError (binding : ConnectionBinding) (definition : ToolDefinition)
    (snapshot : CapabilitySnapshot) (command : WriteCommand) : Option OdooMcpError :=
  if command.requestPayload.any fun entry => reservedKeys.contains entry.1 then
    some ⟨.invalidInput, "The business payload contains a reserved write-control field.",
      "Remove company_id, dry_run, and idempotency_key from the business payload."⟩
  else if command.companyId ≤ 0 then
    some ⟨.invalidInput, "The write request company ID is invalid.",
      "Use a positive authorized company ID."⟩
  else if definition.requiredPermission ∉ binding.permissions then
    some ⟨.odooAuthFailed, "The resolved MCP identity is not authorized for this write.",
      "Reconnect with the required write permission and retry."⟩
  else if command.companyId ∉ binding.allowedCompanyIds then
    some ⟨.companyNotFound, "The requested company is not authorized for this connection.",
      "Use an authorized company ID and retry."⟩
  else if definition.requiredCapability.any fun capability =>
      !(dictGet snapshot.modules capability).getD false then
    some ⟨.capabilityNotAvailable, "The required Odoo capability is unavailable.",
      "Enable the required module access or use an available tool."⟩
  else
    none

def unexpectedPreWriteError : OdooMcpError :=
  ⟨.unknownError, "The write request failed before Odoo was changed.",
    "Correct the request or contact the service operator before retrying."⟩

def cancelledPreWriteError : OdooMcpError :=
  ⟨.unknownError, "The write request was cancelled before Odoo was changed.",
    "Submit a new request with a new idempotency key if execution is still required."⟩

def unknownOutcomeError : OdooMcpError :=
  ⟨.unknownError, "The operation outcome is unknown and requires recovery.",
    "Do not retry with a new key; inspect the target system and recover this request."⟩

def executionNotExplicitError : OdooMcpError :=
  ⟨.executionNotExplicit, "Execution requires an explicit non-empty idempotency key.",
    "Submit dry_run false with a stable idempotency key."⟩

def payloadMismatchError : OdooMcpError :=
  ⟨.idempotencyKeyPayloadMismatch,
    "The idempotency key was already used for a different request.",
    "Use the original payload or submit a new idempotency key."⟩

def concurrentOperationError : OdooMcpError :=
  ⟨.concurrentOperationInProgress, "An identical write operation is already in progress.",
    "Wait for recovery or replay the same request later."⟩

end OdooMcp
