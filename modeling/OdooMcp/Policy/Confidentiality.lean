import OdooMcp.Decimal
import OdooMcp.Policy.Replay
import OdooMcp.Storage.SameStore

/-!
# What a Payroll write stores

Payroll writes persist projections: an audit payload in place of the request, and of the prepared
and applied values only the retained keys. Two runs that agree on what the projections keep are
compared here, step by step against two stores.

The gates, the comparison of a request with the one stored under its key, and the check that a
preparation can be serialized look at the whole request and the whole preparation. They decide which
outcome is stored, so that the runs have to agree on their results as well.
-/

namespace OdooMcp

open Effect

/-- `_RETAINED_ACTION_KEYS` -/
def retainedActionKeys : List String :=
  ["operation", "payslip_id", "input_id", "before_source_state"]

/-- `_RETAINED_EFFECT_KEYS` -/
def retainedEffectKeys : List String :=
  ["operation", "status", "completion", "payslip_id", "input_id", "result_input_id",
    "before_source_state", "after_source_state"]

/-- The fields of the three Payroll write tools, less the write controls. -/
structure PayrollWriteFields where
  payslipId : Int
  inputId : Option Int
  inputTypeId : Option Int
  description : Option String
  amount : Option Decimal

/-- `payroll_write_request_payload` -/
def payrollWriteRequestPayload (fields : PayrollWriteFields) : Payload :=
  withoutNone
    [("payslip_id", .int fields.payslipId),
      ("input_id", .optional .int fields.inputId),
      ("input_type_id", .optional .int fields.inputTypeId),
      ("description", .optional .str fields.description),
      ("amount", .optional (fun amount : Decimal => .str amount.text) fields.amount)]

/-- `payroll_write_audit_payload` -/
def payrollWriteAuditPayload (operation : String) (fields : PayrollWriteFields) : Payload :=
  [("operation", .str operation),
    ("payslip_id", .int fields.payslipId),
    ("input_id", .optional .int fields.inputId)]

/-- The controls that every Payroll write command carries. -/
structure PayrollCommand (command : WriteCommand) : Prop where
  compact : command.compactPersistence = true
  audit : command.auditPayload.isSome = true
  action : command.retainedProposedActionKeys = some retainedActionKeys
  effects : command.retainedMaterialEffectKeys = some retainedEffectKeys

def WriteCall.withRequest (call : WriteCall) (requestPayload : Payload) : WriteCall :=
  { call with command := { call.command with requestPayload := requestPayload } }

/-! ### What the callbacks have to agree on -/

def retainedAction (action : Payload) : Payload := filteredMapping action (some retainedActionKeys)

def retainedEffects (effects : Payload) : Payload :=
  filteredMapping effects (some retainedEffectKeys)

structure SamePrepared (first second : PreparedWrite) : Prop where
  proposedAction : retainedAction first.proposedAction = retainedAction second.proposedAction
  materialEffects : retainedEffects first.materialEffects = retainedEffects second.materialEffects
  needsInput : first.needsInput = second.needsInput

/-- Two preparations that agree on the retained keys, or are both malformed. -/
def SamePreparation (first second : PrepareReturn) : Prop :=
  SameOutcome SameError SamePrepared (normalizePrepared first) (normalizePrepared second)

def isArtifact : PyValue → Bool
  | .str _ => true
  | value => !value.truthy

/-- Two applied writes that agree on the retained keys and the record references, up to values of
the wrong type in both. -/
inductive SameApplication : ExecuteReturn → ExecuteReturn → Prop
  | applied {effects other : PyDict} {recordRefs : List PyValue} {artifact twin : PyValue}
      (heffects : Option.Rel (fun one two => retainedEffects one = retainedEffects two)
        effects.toPayload? other.toPayload?)
      (hartifact : isArtifact artifact = isArtifact twin) :
      SameApplication (.applied effects recordRefs artifact) (.applied other recordRefs twin)
  | other : SameApplication .other .other

/-- Two environments whose callbacks agree on what is retained and on the errors they raise, and
whose storage is available for the same steps. -/
structure SameEnvironment (first second : Environment) : Prop where
  begin : Option.Rel (fun clock twin : ExecutionJournal.Clock =>
    clock.audit < endOfTime ∧ twin.audit < endOfTime) first.begin second.begin
  finish : Option.Rel (fun clock twin : ExecutionJournal.Clock =>
    clock.audit < endOfTime ∧ twin.audit < endOfTime) first.finish second.finish
  append : Option.Rel (fun now later : Instant => now < endOfTime ∧ later < endOfTime) first.append
    second.append
  prepare : SameOutcome SameError SamePreparation first.prepare second.prepare
  validateCurrentState : SameOutcome SameError (fun _ _ => True) first.validateCurrentState
    second.validateCurrentState
  execute : SameOutcome SameError SameApplication first.execute second.execute

/-- pydantic can serialize the mappings of a preparation. -/
def PreparedWrite.Serializable (prepared : PreparedWrite) : Prop :=
  (∀ entry ∈ prepared.proposedAction, Dumps entry.2) ∧
    ∀ entry ∈ prepared.materialEffects, Dumps entry.2

/-- What the coordinator finds out about the values it does not store is the same in both runs: the
request names a reserved field, the preparation can be serialized, and the request compares with the
one stored under its key. -/
structure TreatedAlike (sha256 : String → String) (call : WriteCall) (requestPayload : Payload)
    (first second : Environment) (store other : Store) : Prop where
  reserved : (call.command.requestPayload.any fun entry => reservedKeys.contains entry.1) =
    requestPayload.any fun entry => reservedKeys.contains entry.1
  serialized : ∀ returned given prepared twin, first.prepare = .ok returned →
    second.prepare = .ok given → normalizePrepared returned = .ok prepared →
      normalizePrepared given = .ok twin → (prepared.Serializable ↔ twin.Serializable)
  compared : ∀ clock twin idempotencyKey, first.begin = some clock → second.begin = some twin →
    call.givenKey = some idempotencyKey →
      ComparesAlike sha256 clock.repository twin.repository call.command.companyId
        ⟨call.binding.tenantId, call.definition.name, idempotencyKey⟩ call.command.requestPayload
        requestPayload store other

/-! ### Responses that are stored alike -/

/-- `_response_for_persistence` under the retained keys of Payroll. -/
def WriteSafetyResponse.projected (response : WriteSafetyResponse) : WriteSafetyResponse :=
  { response with
    proposedAction := response.proposedAction.map retainedAction
    materialEffects := retainedEffects response.materialEffects
    artifactMarkdown := none }

def SameResponse (first second : WriteSafetyResponse) : Prop := first.projected = second.projected

variable {call : WriteCall} (requestId : String) (requestPayload : Payload)

theorem responseForPersistence_eq {command : WriteCommand} (hpayroll : PayrollCommand command)
    (response : WriteSafetyResponse) :
    responseForPersistence command response = response.projected := by
  unfold responseForPersistence
  rw [hpayroll.action, hpayroll.effects]
  rfl

theorem responseMapping_same (hpayroll : PayrollCommand call.command)
    {first second : WriteSafetyResponse} (hsame : SameResponse first second) :
    responseMappingForPersistence call.command first =
      responseMappingForPersistence (call.withRequest requestPayload).command second := by
  have hother : PayrollCommand (call.withRequest requestPayload).command :=
    ⟨hpayroll.compact, hpayroll.audit, hpayroll.action, hpayroll.effects⟩
  have hprojected : first.projected = second.projected := hsame
  unfold responseMappingForPersistence
  rw [responseForPersistence_eq hpayroll, responseForPersistence_eq hother, hprojected]
  rfl

theorem inputPayload_same (hpayroll : PayrollCommand call.command) (finalStatus : String)
    (retained : Option WriteSafetyResponse) :
    call.inputPayload finalStatus retained =
      (call.withRequest requestPayload).inputPayload finalStatus retained := by
  obtain ⟨auditPayload, haudit⟩ := Option.isSome_iff_exists.mp hpayroll.audit
  have hother : (call.withRequest requestPayload).command.auditPayload = some auditPayload := haudit
  unfold WriteCall.inputPayload
  rw [haudit, hother]
  rfl

theorem SameResponse.fields {first second : WriteSafetyResponse}
    (hsame : SameResponse first second) :
    first.status = second.status ∧ first.errorCode = second.errorCode ∧
      first.errorMessage = second.errorMessage ∧ first.recordRefs = second.recordRefs ∧
      first.requestId = second.requestId ∧ first.companyId = second.companyId := by
  have hprojected : first.projected = second.projected := hsame
  simp only [WriteSafetyResponse.projected, WriteSafetyResponse.mk.injEq] at hprojected
  obtain ⟨hstatus, -, hrequest, hcompany, -, -, hrefs, -, hcode, hmessage, -⟩ := hprojected
  exact ⟨hstatus, hcode, hmessage, hrefs, hrequest, hcompany⟩

/-- Responses with one projection are recorded in one event. -/
theorem event_same (hpayroll : PayrollCommand call.command) (finalStatus : String)
    {first second : Option WriteSafetyResponse} (hresponses : Option.Rel SameResponse first second)
    {action twin : Option Payload} (hactions : action.map retainedAction = twin.map retainedAction)
    (affectedRecords : List String) :
    call.event requestId finalStatus first action affectedRecords =
      (call.withRequest requestPayload).event requestId finalStatus second twin
        affectedRecords := by
  have hother : PayrollCommand (call.withRequest requestPayload).command :=
    ⟨hpayroll.compact, hpayroll.audit, hpayroll.action, hpayroll.effects⟩
  have hretained : first.map (responseForPersistence call.command) =
      second.map (responseForPersistence (call.withRequest requestPayload).command) := by
    cases hresponses with
    | none => rfl
    | some hsame =>
        rw [Option.map_some, Option.map_some, responseForPersistence_eq hpayroll,
          responseForPersistence_eq hother]
        exact congrArg some hsame
  have hmapping : first.mapM (responseMappingForPersistence call.command) =
      second.mapM (responseMappingForPersistence (call.withRequest requestPayload).command) := by
    cases hresponses with
    | none => rfl
    | some hsame =>
        change (do return some (← _) : Except PyException _) = do return some (← _)
        rw [responseMapping_same requestPayload hpayroll hsame]
  have herror {α : Type} (read : WriteSafetyResponse → Option α)
      (hread : ∀ one two, SameResponse one two → read one = read two) :
      (first.filter fun given => given.status = .failed).bind read =
        (second.filter fun given => given.status = .failed).bind read := by
    cases hresponses with
    | none => rfl
    | @some one two hsame =>
        rw [Option.filter_some, Option.filter_some, hsame.fields.1]
        split
        · exact hread one two hsame
        · rfl
  have hcode := herror (fun given => given.errorCode.map (·.value)) fun one two hsame => by
    rw [hsame.fields.2.1]
  have hmessage := herror (·.errorMessage) fun one two hsame => hsame.fields.2.2.1
  have haction : action.map (filteredMapping · call.command.retainedProposedActionKeys) =
      twin.map (filteredMapping ·
        (call.withRequest requestPayload).command.retainedProposedActionKeys) := by
    rw [hpayroll.action, hother.action]
    exact hactions
  unfold WriteCall.event
  simp only [hmapping, hcode, hmessage, haction, hretained,
    inputPayload_same requestPayload hpayroll]
  rfl

/-! ### Runs side by side -/

section Runs

variable {requestId requestPayload} (sha256 : String → String) (first second : Environment)

/-- Two parts of a run that end alike, and keep two stores the same. -/
abbrev Alike {α β : Type} (one : Coordinator α) (other : Coordinator β)
    (returned : α → β → Prop) : Prop :=
  Program.Coupled (first.answer sha256) (second.answer sha256) SameError (Paired sha256) one other
    returned (Paired sha256)

variable {sha256 first second} (hinjective : Function.Injective sha256)
  (hgenesis : ∀ text, sha256 text ≠ genesisHash) (hsame : SameEnvironment first second)

include hinjective hgenesis hsame

theorem alike_append (event : AuditEvent) :
    Alike sha256 first second (Program.call (S := writeSignature) (.append event))
      (Program.call (S := writeSignature) (.append event)) fun _ _ => True := by
  refine Program.coupled_call fun store other hstores => ?_
  have hclocks := hsame.append
  cases hfirst : first.append with
  | none =>
      cases hsecond : second.append with
      | none =>
          simp only [Environment.answer, hfirst, hsecond]
          exact ⟨SameError.refl _, hstores⟩
      | some later =>
          rw [hfirst, hsecond] at hclocks
          cases hclocks
  | some now =>
      cases hsecond : second.append with
      | none =>
          rw [hfirst, hsecond] at hclocks
          cases hclocks
      | some later =>
          rw [hfirst, hsecond] at hclocks
          obtain ⟨hnow, hlater⟩ := hclocks
          simp only [Environment.answer, hfirst, hsecond]
          exact append_same hinjective hgenesis hnow hlater event hstores

theorem alike_finish (event : AuditEvent) (idempotencyKey : String) (state : IdempotencyState)
    (response : Option Payload) :
    Alike sha256 first second
      (Program.call (S := writeSignature) (.finish event idempotencyKey state response))
      (Program.call (S := writeSignature) (.finish event idempotencyKey state response))
      fun _ _ => True := by
  refine Program.coupled_call fun store other hstores => ?_
  have hclocks := hsame.finish
  cases hfirst : first.finish with
  | none =>
      cases hsecond : second.finish with
      | none =>
          simp only [Environment.answer, hfirst, hsecond]
          exact ⟨SameError.refl _, hstores⟩
      | some twin =>
          rw [hfirst, hsecond] at hclocks
          cases hclocks
  | some clock =>
      cases hsecond : second.finish with
      | none =>
          rw [hfirst, hsecond] at hclocks
          cases hclocks
      | some twin =>
          rw [hfirst, hsecond] at hclocks
          obtain ⟨hclock, htwin⟩ := hclocks
          simp only [Environment.answer, hfirst, hsecond]
          exact finish_same hinjective hgenesis hclock htwin event idempotencyKey state response
            hstores

variable (hpayroll : PayrollCommand call.command)

include hpayroll

/-- An event is appended in both runs, and each reports its own response, or both report the same
failure. -/
theorem alike_appendOrFail (finalStatus : String) {response other : WriteSafetyResponse}
    (hresponses : SameResponse response other) :
    Alike sha256 first second (call.appendOrFail requestId finalStatus response)
      ((call.withRequest requestPayload).appendOrFail requestId finalStatus other)
      SameResponse := by
  unfold WriteCall.appendOrFail
  have haction : (none : Option Payload).map retainedAction =
      (none : Option Payload).map retainedAction := rfl
  have hevent := event_same requestId requestPayload hpayroll finalStatus (.some hresponses) haction
    []
  refine Program.Coupled.bind (Program.coupled_ofExcept
    (SameOutcome.of_eq SameError.refl hevent)) fun event same hsameEvent => ?_
  subst hsameEvent
  refine Program.Coupled.bind (alike_append hinjective hgenesis hsame event).attempt
    fun appended twin houtcome => ?_
  rcases houtcome.cases with ⟨row, stored, rfl, rfl, -⟩ | ⟨error, raised, rfl, rfl, herror⟩
  · exact Program.coupled_ret hresponses
  · obtain ⟨-, -, -, -, hrequest, hcompany⟩ := hresponses.fields
    have hfailure : SameResponse
        (failure unexpectedPreWriteError response.requestId response.companyId .notAttempted none)
        (failure unexpectedPreWriteError other.requestId other.companyId .notAttempted none) := by
      rw [hrequest, hcompany]
      exact rfl
    cases error <;> cases raised <;>
      first
      | exact Program.coupled_ret hfailure
      | exact Program.coupled_raise herror
      | cases herror

/-- An outcome is recorded in both runs or in neither. -/
theorem alike_finishAfterAttempt (idempotencyKey : String) (state : IdempotencyState)
    (finalStatus : String) {response other : WriteSafetyResponse}
    (hresponses : SameResponse response other) {prepared twin : Option PreparedWrite}
    (hprepared : Option.Rel SamePrepared prepared twin) :
    Alike sha256 first second
      (call.finishAfterAttempt requestId idempotencyKey state finalStatus response prepared)
      ((call.withRequest requestPayload).finishAfterAttempt requestId idempotencyKey state
        finalStatus other twin) fun _ _ => True := by
  have haction : (prepared.map (·.proposedAction)).map retainedAction =
      (twin.map (·.proposedAction)).map retainedAction := by
    cases hprepared with
    | none => rfl
    | some hone => exact congrArg some hone.proposedAction
  have hevent := event_same requestId requestPayload hpayroll
    finalStatus (.some hresponses) haction []
  have hmapping := responseMapping_same requestPayload hpayroll hresponses
  unfold WriteCall.finishAfterAttempt
  refine Program.Coupled.bind (Program.coupled_ofExcept
    (SameOutcome.of_eq SameError.refl hevent)) fun event same hsameEvent => ?_
  subst hsameEvent
  refine Program.Coupled.bind (Program.coupled_ofExcept
    (SameOutcome.of_eq SameError.refl hmapping)) fun mapping stored hstored => ?_
  subst hstored
  exact alike_finish hinjective hgenesis hsame event idempotencyKey state (some mapping)

theorem alike_finishQuietly (idempotencyKey : String) (state : IdempotencyState)
    (finalStatus : String) {response other : WriteSafetyResponse}
    (hresponses : SameResponse response other) {prepared twin : Option PreparedWrite}
    (hprepared : Option.Rel SamePrepared prepared twin) :
    Alike sha256 first second
      (call.finishQuietly requestId idempotencyKey state finalStatus response prepared)
      ((call.withRequest requestPayload).finishQuietly requestId idempotencyKey state finalStatus
        other twin) SameResponse := by
  unfold WriteCall.finishQuietly
  refine Program.Coupled.bind (alike_finishAfterAttempt hinjective hgenesis hsame hpayroll
    idempotencyKey state finalStatus hresponses hprepared).attempt fun recorded same houtcome => ?_
  rcases houtcome.cases with ⟨_, _, rfl, rfl, -⟩ | ⟨error, raised, rfl, rfl, herror⟩
  · exact Program.coupled_ret hresponses
  · cases error <;> cases raised <;>
      first
      | exact Program.coupled_ret hresponses
      | exact Program.coupled_raise herror
      | cases herror

omit hinjective hgenesis hsame hpayroll in
theorem failed_same (error : OdooMcpError) (outcome : WriteOutcome)
    {prepared twin : Option PreparedWrite} (hprepared : Option.Rel SamePrepared prepared twin) :
    SameResponse (call.failed requestId error outcome prepared)
      ((call.withRequest requestPayload).failed requestId error outcome twin) := by
  cases hprepared with
  | none => exact rfl
  | @some one two hone =>
      unfold SameResponse WriteCall.failed failure WriteSafetyResponse.projected
      simp only [Option.map_some, Option.getD_some, hone.proposedAction, hone.materialEffects]
      rfl

omit hinjective hgenesis hpayroll in
/-- What a preparation leads to, in both runs: the agreeing parts of it, or an error. -/
theorem alike_prepareResponse {store other : Store}
    (halike : TreatedAlike sha256 call requestPayload first second store other) :
    Alike sha256 first second (call.prepareResponse requestId)
      ((call.withRequest requestPayload).prepareResponse requestId) fun one two =>
        SamePrepared one.1 two.1 ∧ SameResponse one.2 two.2 := by
  unfold WriteCall.prepareResponse
  have hprepare : Alike sha256 first second (Program.call (S := writeSignature) .prepare)
      (Program.call (S := writeSignature) .prepare) fun returned given =>
        SamePreparation returned given ∧ first.prepare = .ok returned ∧
          second.prepare = .ok given :=
    Program.coupled_call fun store other hstores => ⟨hsame.prepare.returned, hstores⟩
  refine Program.Coupled.bind hprepare fun returned given hreturned => ?_
  obtain ⟨hpreparation, hfirst, hsecond⟩ := hreturned
  refine Program.Coupled.bind (Program.coupled_ofExcept hpreparation.returned)
    fun prepared twin hprepared => ?_
  obtain ⟨hone, hnormal, htwinNormal⟩ := hprepared
  have hresponses : SameResponse (preparedResponse prepared requestId call.command.companyId)
      (preparedResponse twin requestId
        (call.withRequest requestPayload).command.companyId) := by
    unfold SameResponse preparedResponse WriteSafetyResponse.projected
    simp only [Option.map_some, hone.proposedAction, hone.materialEffects, hone.needsInput]
    rfl
  have hstorable {write : PreparedWrite} {companyId : Int} :
      Storable (preparedResponse write requestId companyId) ↔ write.Serializable := by
    constructor
    · exact fun hresponse => ⟨hresponse.proposedAction _ rfl, hresponse.materialEffects⟩
    · rintro ⟨haction, heffects⟩
      refine ⟨fun action hgiven => ?_, heffects⟩
      cases hgiven
      exact haction
  have hdumps := sameOutcome_of_ordinary
    (modelDump_response_ordinary (preparedResponse prepared requestId call.command.companyId))
    (modelDump_response_ordinary (preparedResponse twin requestId
      (call.withRequest requestPayload).command.companyId)) (by
        rw [modelDump_ok_iff, modelDump_ok_iff, hstorable, hstorable]
        exact halike.serialized returned given prepared twin hfirst hsecond hnormal htwinNormal)
  refine Program.Coupled.bind (Program.coupled_ofExcept hdumps) fun _ _ _ => ?_
  exact Program.coupled_ret ⟨hone, hresponses⟩

omit hinjective hgenesis hsame hpayroll in
/-- The handlers of an exception before the write treat equal errors alike, and replace the others
by one error. -/
theorem alike_handlePreWrite {record twin : OdooMcpError → Coordinator WriteSafetyResponse}
    (hrecords : ∀ error, Alike sha256 first second (record error) (twin error) SameResponse)
    {error raised : PyException} (herror : SameError error raised) :
    Alike sha256 first second (WriteCall.handlePreWrite record error)
      (WriteCall.handlePreWrite twin raised) SameResponse := by
  have hcancelled : Alike sha256 first second (WriteCall.handlePreWrite record .cancelledError)
      (WriteCall.handlePreWrite twin .cancelledError) SameResponse :=
    Program.Coupled.bind (hrecords cancelledPreWriteError) fun _ _ _ =>
      Program.coupled_raise (SameError.refl _)
  cases error <;> cases raised <;>
    first
    | exact hrecords unexpectedPreWriteError
    | exact hcancelled
    | (cases herror <;> exact hrecords _)

theorem alike_preview {store other : Store}
    (halike : TreatedAlike sha256 call requestPayload first second store other) :
    Alike sha256 first second (call.preview requestId)
      ((call.withRequest requestPayload).preview requestId) SameResponse := by
  unfold WriteCall.preview
  refine Program.Coupled.bind (alike_prepareResponse hsame halike).attempt
    fun answer twin houtcome => ?_
  rcases houtcome.cases with ⟨one, two, rfl, rfl, hone, hresponses⟩ |
    ⟨error, raised, rfl, rfl, herror⟩
  · dsimp only
    rw [← hone.needsInput]
    exact alike_appendOrFail hinjective hgenesis hsame hpayroll _ hresponses
  · refine alike_handlePreWrite (fun error => ?_) herror
    exact alike_appendOrFail hinjective hgenesis hsame hpayroll "failed"
      (failed_same error .notAttempted .none)

omit hinjective hgenesis hsame hpayroll in
/-- The artifact of an applied write is used if it is text, and refused if it is anything else that
is not empty. -/
theorem artifact_bind {γ : Type} (artifact : PyValue) (default : Option String)
    (next : Option String → Except PyException γ) :
    (if artifact.truthy then (some <$> asStr artifact) >>= next
      else (.ok default : Except PyException (Option String)) >>= next) =
    if isArtifact artifact then
      next (match artifact with
        | .str text => if text = "" then default else some text
        | _ => default)
    else .error validationError := by
  by_cases htruthy : artifact.truthy = true
  · rw [if_pos htruthy]
    cases artifact with
    | str text =>
        have htext : text ≠ "" := by simpa [PyValue.truthy] using htruthy
        change next (some text) = next (if text = "" then default else some text)
        rw [if_neg htext]
    | _ =>
        rw [if_neg (by simp [isArtifact, htruthy])]
        rfl
  · have hartifact : isArtifact artifact = true := by
      cases artifact <;> simp_all [isArtifact]
    rw [if_neg htruthy, if_pos hartifact]
    cases artifact with
    | str text =>
        have htext : text = "" := by simpa [PyValue.truthy] using htruthy
        change next default = next (if text = "" then default else some text)
        rw [if_pos htext]
    | _ => rfl

omit hinjective hgenesis hpayroll in
/-- What an execution leads to: one projected response, or an error. -/
theorem alike_executeResponse {prepared twin : PreparedWrite}
    (hprepared : SamePrepared prepared twin) :
    Alike sha256 first second (call.executeResponse requestId prepared)
      ((call.withRequest requestPayload).executeResponse requestId twin) SameResponse := by
  unfold WriteCall.executeResponse
  have hexecute : Alike sha256 first second (Program.call (S := writeSignature) .execute)
      (Program.call (S := writeSignature) .execute) SameApplication :=
    Program.coupled_call fun store other hstores => ⟨hsame.execute, hstores⟩
  refine Program.Coupled.bind hexecute fun returned given happlied => ?_
  refine Program.coupled_ofExcept ?_
  cases happlied with
  | other => exact SameError.refl _
  | @applied effects other recordRefs artifact twinArtifact heffects hartifact =>
      unfold appliedResponse
      refine SameOutcome.bind (sameOutcome_orRaise heffects validationError)
        fun one two hretained => ?_
      refine SameOutcome.bind (SameOutcome.of_eq SameError.refl rfl) fun refs same hrefs => ?_
      subst hrefs
      simp only [artifact_bind, hartifact]
      split
      · change WriteSafetyResponse.projected _ = WriteSafetyResponse.projected _
        unfold WriteSafetyResponse.projected
        simp only [Option.map_some, hprepared.proposedAction, hretained]
        rfl
      · exact SameError.refl _

/-- `run` from the answer of `execute` on: success, known failure, unknown outcome or cancellation
is recorded in both runs. -/
theorem alike_settle (idempotencyKey : String) {prepared twin : PreparedWrite}
    (hprepared : SamePrepared prepared twin) {answer other : Except PyException WriteSafetyResponse}
    (hanswers : SameOutcome SameError SameResponse answer other) :
    Alike sha256 first second (call.settle requestId idempotencyKey prepared answer)
      ((call.withRequest requestPayload).settle requestId idempotencyKey twin other)
      SameResponse := by
  have hunknown : Alike sha256 first second
      (call.finalizeUnknown requestId idempotencyKey prepared)
      ((call.withRequest requestPayload).finalizeUnknown requestId idempotencyKey twin)
      SameResponse :=
    alike_finishQuietly hinjective hgenesis hsame hpayroll idempotencyKey .unknown "unknown"
      (failed_same unknownOutcomeError .unknown (.some hprepared)) (.some hprepared)
  rcases hanswers.cases with ⟨response, given, rfl, rfl, hresponses⟩ |
    ⟨error, raised, rfl, rfl, herror⟩
  · have haction : (some prepared.proposedAction).map retainedAction =
        (some twin.proposedAction).map retainedAction := congrArg some hprepared.proposedAction
    have hevent := event_same requestId requestPayload hpayroll
      "succeeded" (.some hresponses) haction response.recordRefs
    have hmapping := responseMapping_same requestPayload hpayroll hresponses
    have hfinish : Alike sha256 first second
        (do
          let event ← Program.ofExcept (call.event requestId "succeeded" (some response)
            (some prepared.proposedAction) response.recordRefs)
          let mapping ← Program.ofExcept (responseMappingForPersistence call.command response)
          Program.call (S := writeSignature)
            (.finish event idempotencyKey .succeeded (some mapping)))
        (do
          let event ← Program.ofExcept ((call.withRequest requestPayload).event requestId
            "succeeded" (some given) (some twin.proposedAction) given.recordRefs)
          let mapping ← Program.ofExcept
            (responseMappingForPersistence (call.withRequest requestPayload).command given)
          Program.call (S := writeSignature)
            (.finish event idempotencyKey .succeeded (some mapping)))
        fun _ _ => True := by
      rw [← hresponses.fields.2.2.2.1]
      refine Program.Coupled.bind (Program.coupled_ofExcept
        (SameOutcome.of_eq SameError.refl hevent)) fun event same hsameEvent => ?_
      subst hsameEvent
      refine Program.Coupled.bind (Program.coupled_ofExcept
        (SameOutcome.of_eq SameError.refl hmapping)) fun mapping stored hstored => ?_
      subst hstored
      exact alike_finish hinjective hgenesis hsame event idempotencyKey .succeeded (some mapping)
    refine Program.Coupled.bind hfinish.attempt fun recorded same houtcome => ?_
    have hfailure : SameResponse
        (call.failed requestId unknownOutcomeError .unknown (some prepared))
        ((call.withRequest requestPayload).failed requestId unknownOutcomeError .unknown
          (some twin)) :=
      failed_same unknownOutcomeError .unknown (.some hprepared)
    rcases houtcome.cases with ⟨_, _, rfl, rfl, -⟩ | ⟨error, raised, rfl, rfl, herror⟩
    · exact Program.coupled_ret hresponses
    · cases error <;> cases raised <;>
        first
        | exact Program.coupled_ret hfailure
        | exact Program.coupled_raise herror
        | cases herror
  · have hcancelled : Alike sha256 first second
        (call.settle requestId idempotencyKey prepared (.error .cancelledError))
        ((call.withRequest requestPayload).settle requestId idempotencyKey twin
          (.error .cancelledError)) SameResponse :=
      Program.Coupled.bind hunknown fun _ _ _ => Program.coupled_raise (SameError.refl _)
    have hknown (known : OdooMcpError) : Alike sha256 first second
        (call.settle requestId idempotencyKey prepared (.error (.knownWriteFailure known)))
        ((call.withRequest requestPayload).settle requestId idempotencyKey twin
          (.error (.knownWriteFailure known))) SameResponse :=
      alike_finishQuietly hinjective hgenesis hsame hpayroll idempotencyKey .failed "failed"
        (failed_same known .known (.some hprepared)) (.some hprepared)
    cases error <;> cases raised <;>
      first
      | exact hunknown
      | exact hcancelled
      | (cases herror <;> exact hknown _)

/-- `run` of the calls that hold the reservation. -/
theorem alike_own {store other : Store}
    (halike : TreatedAlike sha256 call requestPayload first second store other)
    (idempotencyKey : String) :
    Alike sha256 first second (call.own requestId idempotencyKey)
      ((call.withRequest requestPayload).own requestId idempotencyKey) SameResponse := by
  have hfailed (error : OdooMcpError) {prepared twin : Option PreparedWrite}
      (hprepared : Option.Rel SamePrepared prepared twin) : Alike sha256 first second
        (call.finishPreWriteFailure requestId idempotencyKey error prepared)
        ((call.withRequest requestPayload).finishPreWriteFailure requestId
          idempotencyKey error twin)
        SameResponse :=
    alike_finishQuietly hinjective hgenesis hsame hpayroll idempotencyKey .failed "failed"
      (failed_same error .notAttempted hprepared) hprepared
  unfold WriteCall.own
  refine Program.Coupled.bind (alike_prepareResponse hsame halike).attempt
    fun answer given houtcome => ?_
  rcases houtcome.cases with ⟨one, two, rfl, rfl, hone, hresponses⟩ |
    ⟨error, raised, rfl, rfl, herror⟩
  · obtain ⟨prepared, response⟩ := one
    obtain ⟨twin, same⟩ := two
    dsimp only at hone hresponses ⊢
    rw [← hone.needsInput]
    split
    · exact alike_finishQuietly hinjective hgenesis hsame hpayroll idempotencyKey .failed
        "needs_input" hresponses (.some hone)
    · have hvalidate : Alike sha256 first second
          (Program.call (S := writeSignature) .validateCurrentState)
          (Program.call (S := writeSignature) .validateCurrentState) fun _ _ => True :=
        Program.coupled_call fun store other hstores => ⟨hsame.validateCurrentState, hstores⟩
      refine Program.Coupled.bind hvalidate.attempt fun checked same houtcome => ?_
      rcases houtcome.cases with ⟨_, _, rfl, rfl, -⟩ | ⟨error, raised, rfl, rfl, herror⟩
      · refine Program.Coupled.bind (alike_executeResponse hsame hone).attempt
          fun executed same hanswers => ?_
        exact alike_settle hinjective hgenesis hsame hpayroll idempotencyKey hone hanswers
      · exact alike_handlePreWrite (fun error => hfailed error (.some hone)) herror
  · exact alike_handlePreWrite (fun error => hfailed error .none) herror

/-- `run` from the answer of `begin` on. -/
theorem alike_decide {store other : Store}
    (halike : TreatedAlike sha256 call requestPayload first second store other)
    (idempotencyKey : String) {answer given : Except PyException IdempotencyDecision}
    (hanswers : SameOutcome SameError SameDecision answer given) :
    Alike sha256 first second (call.decide requestId idempotencyKey answer)
      ((call.withRequest requestPayload).decide requestId idempotencyKey given) SameResponse := by
  have happend (finalStatus : String) (error : OdooMcpError) : Alike sha256 first second
      (call.appendOrFail requestId finalStatus (call.failed requestId error .notAttempted none))
      ((call.withRequest requestPayload).appendOrFail requestId finalStatus
        ((call.withRequest requestPayload).failed requestId error .notAttempted none))
      SameResponse :=
    alike_appendOrFail hinjective hgenesis hsame hpayroll finalStatus
      (failed_same error .notAttempted .none)
  have hunexpected : SameResponse
      (call.failed requestId unexpectedPreWriteError .notAttempted none)
      ((call.withRequest requestPayload).failed requestId unexpectedPreWriteError .notAttempted
        none) :=
    failed_same unexpectedPreWriteError .notAttempted .none
  rcases hanswers.cases with ⟨decision, twin, rfl, rfl, hdecision⟩ |
    ⟨error, raised, rfl, rfl, herror⟩
  · unfold WriteCall.decide
    dsimp only
    rw [← hdecision.disposition]
    cases decision.disposition with
    | inProgress => exact happend "conflicted" concurrentOperationError
    | reserved =>
        exact alike_own hinjective hgenesis hsame hpayroll halike idempotencyKey
    | replay =>
        have hrestore : restorePersistedResponse (call.withRequest requestPayload).command
            twin.response = restorePersistedResponse call.command decision.response := by
          rw [hdecision.response]
          rfl
        unfold WriteCall.replay
        rw [hrestore]
        cases restorePersistedResponse call.command decision.response with
        | error error => exact Program.coupled_ret hunexpected
        | ok response =>
            exact alike_appendOrFail hinjective hgenesis hsame hpayroll "replayed" rfl
  · cases error <;> cases raised <;>
      first
      | exact Program.coupled_ret hunexpected
      | exact Program.coupled_raise herror
      | exact happend "conflicted" payloadMismatchError
      | cases herror

omit hpayroll in
theorem alike_begin {store other : Store} (hstores : Paired sha256 store other)
    (halike : TreatedAlike sha256 call requestPayload first second store other)
    {idempotencyKey : String} (hkey : call.givenKey = some idempotencyKey) {event : AuditEvent}
    (hevent : call.event requestId "attempted" none
      (some [("tool", .str call.definition.name),
        ("risk_level", .str call.definition.riskLevel.text)]) [] = .ok event) :
    Program.Coupled (first.answer sha256) (second.answer sha256) SameError
      (fun one two => one = store ∧ two = other)
      (Program.call (S := writeSignature)
        (.begin event idempotencyKey call.command.requestPayload))
      (Program.call (S := writeSignature) (.begin event idempotencyKey requestPayload))
      SameDecision (Paired sha256) := by
  refine Program.coupled_call fun one two hreached => ?_
  obtain ⟨rfl, rfl⟩ := hreached
  have hclocks := hsame.begin
  cases hfirst : first.begin with
  | none =>
      cases hsecond : second.begin with
      | none =>
          simp only [Environment.answer, hfirst, hsecond]
          exact ⟨SameError.refl _, hstores⟩
      | some twin =>
          rw [hfirst, hsecond] at hclocks
          cases hclocks
  | some clock =>
      cases hsecond : second.begin with
      | none =>
          rw [hfirst, hsecond] at hclocks
          cases hclocks
      | some twin =>
          rw [hfirst, hsecond] at hclocks
          obtain ⟨hclock, htwin⟩ := hclocks
          simp only [Environment.answer, hfirst, hsecond]
          refine begin_same hinjective hgenesis hclock htwin event idempotencyKey hstores
            fun companyId hcompany => ?_
          obtain ⟨-, htenant, htool, -, hgiven⟩ := event_ok hevent
          have hcompanyId : companyId = call.command.companyId := by
            rw [hcompany] at hgiven
            split at hgiven
            · exact Option.some.inj hgiven
            · cases hgiven
          rw [hcompanyId, AuditEvent.idempotencyKey, htenant, htool]
          exact halike.compared clock twin idempotencyKey hfirst hsecond hkey

/-- The whole of `run`, from two stores that are the same. -/
theorem alike_run {store other : Store} (hstores : Paired sha256 store other)
    (halike : TreatedAlike sha256 call requestPayload first second store other) :
    Program.Coupled (first.answer sha256) (second.answer sha256) SameError
      (fun one two => one = store ∧ two = other) (call.run requestId)
      ((call.withRequest requestPayload).run requestId) SameResponse (Paired sha256) := by
  have hinitial : ∀ one two, (one = store ∧ two = other) → Paired sha256 one two := by
    rintro one two ⟨rfl, rfl⟩
    exact hstores
  have hrejected (error : OdooMcpError) : Alike sha256 first second
      (call.appendOrFail requestId "rejected" (call.failed requestId error .notAttempted none))
      ((call.withRequest requestPayload).appendOrFail requestId "rejected"
        ((call.withRequest requestPayload).failed requestId error .notAttempted none))
      SameResponse :=
    alike_appendOrFail hinjective hgenesis hsame hpayroll "rejected"
      (failed_same error .notAttempted .none)
  have hgate : (call.withRequest requestPayload).gate = call.gate := by
    unfold WriteCall.gate gateError
    change call.preflightError.or (if (requestPayload.any fun entry =>
      reservedKeys.contains entry.1) = true then _ else _) = _
    rw [← halike.reserved]
    rfl
  have hfrom {one two : Coordinator WriteSafetyResponse}
      (halike : Alike sha256 first second one two SameResponse) :
      Program.Coupled (first.answer sha256) (second.answer sha256) SameError
        (fun one two => one = store ∧ two = other) one two SameResponse (Paired sha256) :=
    halike.mono hinitial fun _ _ hresponses => hresponses
  unfold WriteCall.run
  have hstart {α : Type} {outcome given : Except PyException α} (heq : outcome = given) :
      Program.Coupled (S := writeSignature) (first.answer sha256) (second.answer sha256) SameError
        (fun one two => one = store ∧ two = other) (Program.ofExcept outcome)
        (Program.ofExcept given) (fun one two => one = two ∧ outcome = .ok one ∧ given = .ok two)
        (fun one two => one = store ∧ two = other) :=
    Program.coupled_ofExcept (SameOutcome.of_eq SameError.refl heq).returned
  refine Program.Coupled.seq (hstart rfl) hinitial fun _ _ _ => ?_
  rw [hgate]
  cases call.gate with
  | some error => exact hfrom (hrejected error)
  | none =>
      by_cases hdry : call.command.dryRun = true
      · have hother : (call.withRequest requestPayload).command.dryRun = true := hdry
        simp only [hdry, hother, if_true]
        exact hfrom (alike_preview hinjective hgenesis hsame hpayroll halike)
      · have hother : ¬(call.withRequest requestPayload).command.dryRun = true := hdry
        simp only [hdry, hother]
        have hkeys : (call.withRequest requestPayload).givenKey = call.givenKey := rfl
        rw [hkeys]
        cases hkey : call.givenKey with
        | none => exact hfrom (hrejected executionNotExplicitError)
        | some idempotencyKey =>
            have haction : (some [("tool", .str call.definition.name),
                ("risk_level", .str call.definition.riskLevel.text)] : Option Payload).map
                  retainedAction = (some [("tool", .str call.definition.name),
                ("risk_level", .str call.definition.riskLevel.text)] : Option Payload).map
                  retainedAction := rfl
            have hevent := event_same requestId requestPayload hpayroll "attempted" .none haction []
            refine Program.Coupled.seq (hstart hevent) hinitial fun event same hevents => ?_
            obtain ⟨rfl, hattempted, -⟩ := hevents
            refine Program.Coupled.bind (alike_begin hinjective hgenesis hsame hstores halike hkey
              hattempted).attempt fun answer given hanswers => ?_
            exact alike_decide hinjective hgenesis hsame hpayroll halike idempotencyKey hanswers

end Runs

/-! ### Confidentiality -/

/-- **Payroll write confidentiality.** Two runs whose callbacks agree on the retained keys,
statuses, errors and record references store the same rows, request hashes and clock columns apart,
if the values they do not store pass the same checks. -/
theorem payroll_write_confidential {sha256 : String → String}
    (hinjective : Function.Injective sha256) (hgenesis : ∀ text, sha256 text ≠ genesisHash)
    (hpayroll : PayrollCommand call.command) {first second : Environment}
    (hsame : SameEnvironment first second) {store other : Store} (hstores : SameStore store other)
    (hintact : IntactLog sha256 store.auditLog) (hother : IntactLog sha256 other.auditLog)
    (halike : TreatedAlike sha256 call requestPayload first second store other) :
    SameStore (first.run sha256 call requestId store).2
      (second.run sha256 (call.withRequest requestPayload) requestId other).2 :=
  (alike_run hinjective hgenesis hsame hpayroll ⟨hstores, hintact, hother⟩ halike store other
    ⟨rfl, rfl⟩).2.same

/-! ### Runs of one update -/

/-- A hash without collisions, none of which is the genesis hash. -/
def taggedHash (text : String) : String := "sha256:" ++ text

theorem taggedHash_injective : Function.Injective taggedHash := by
  intro first second heq
  have hlists : "sha256:".toList ++ first.toList = "sha256:".toList ++ second.toList := by
    rw [← String.toList_append, ← String.toList_append]
    exact congrArg String.toList heq
  exact String.toList_injective (List.append_cancel_left hlists)

theorem taggedHash_ne_genesis (text : String) : taggedHash text ≠ genesisHash := by
  intro heq
  have hlists : "sha256:".toList ++ text.toList = List.replicate 64 '0' := by
    rw [← String.toList_append, ← String.toList_ofList (l := List.replicate 64 '0')]
    exact congrArg String.toList heq
  have hheads : some 's' = some '0' := congrArg List.head? hlists
  exact absurd (Option.some.inj hheads) (by decide)

def raiseFields (amount : Int) : PayrollWriteFields :=
  ⟨9, some 31, none, none, some (.ofInt amount)⟩

/-- An update of the amount of one payslip input. -/
def raiseCall (amount : Int) (dryRun : Bool) : WriteCall where
  binding :=
    { tenantId := "tenant"
      authenticatedSubject := "subject"
      mcpClient := "client"
      permissions := ["payroll_draft_write"]
      database := "payroll"
      username := "officer"
      allowedCompanyIds := [1] }
  definition :=
    { name := "set_draft_payroll_input"
      version := "1.0.0"
      riskLevel := .draftWrite
      requiredPermission := "payroll_draft_write"
      requiredCapability := some "hr_payroll"
      annotations := ⟨some false, some false, some true, some true⟩ }
  module := "payroll"
  snapshot := ⟨19, "json2", [("hr_payroll", true)]⟩
  command :=
    { companyId := 1
      requestPayload := payrollWriteRequestPayload (raiseFields amount)
      dryRun := dryRun
      idempotencyKey := some "raise-31"
      auditPayload := some (payrollWriteAuditPayload "update" (raiseFields amount))
      retainedProposedActionKeys := some retainedActionKeys
      retainedMaterialEffectKeys := some retainedEffectKeys
      compactPersistence := true }
  preflightError := none

theorem raiseCall_payroll (amount : Int) (dryRun : Bool) :
    PayrollCommand (raiseCall amount dryRun).command :=
  ⟨rfl, rfl, rfl, rfl⟩

/-- The callbacks of an update, with the evidence they show of the payslip, and a database that may
be gone when the outcome is recorded. -/
def raiseEnvironment (now : Instant) (finishes : Bool) (evidence : PyValue) : Environment where
  begin := some ⟨now, now⟩
  finish := if finishes then some ⟨now, now⟩ else none
  append := some now
  prepare := .ok (.write
    [(.str "operation", .str "update"), (.str "payslip_id", .int 9), (.str "input_id", .int 31),
      (.str "before_source_state", .str "draft"), (.str "current_input", evidence)]
    [(.str "operation", .str "update"), (.str "payslip_id", .int 9), (.str "input_id", .int 31)]
    .none (.bool false))
  validateCurrentState := .ok ()
  execute := .ok (.applied
    [(.str "operation", .str "update"), (.str "status", .str "succeeded"),
      (.str "payslip_id", .int 9), (.str "input_id", .int 31), (.str "result_input_id", .int 31),
      (.str "after_source_state", .str "draft"), (.str "payslip_evidence", evidence)]
    [.str "hr.payslip/9"] .none)

theorem raiseEnvironment_same {now later : Instant} (hnow : now < endOfTime)
    (hlater : later < endOfTime) (finishes : Bool) (evidence other : PyValue) :
    SameEnvironment (raiseEnvironment now finishes evidence)
      (raiseEnvironment later finishes other) where
  begin := .some ⟨hnow, hlater⟩
  finish := by
    cases finishes with
    | true => exact .some ⟨hnow, hlater⟩
    | false => exact .none
  append := .some ⟨hnow, hlater⟩
  prepare := ⟨rfl, rfl, rfl⟩
  validateCurrentState := trivial
  execute := .applied (.some rfl) rfl

def raisePayload (amount : Int) : Payload := payrollWriteRequestPayload (raiseFields amount)

theorem SameStore.refl (store : Store) : SameStore store store :=
  ⟨List.forall₂_same.mpr fun _ _ => rfl, List.forall₂_same.mpr fun _ _ => rfl, rfl⟩

theorem payroll_write_confidential_raise :
    SameStore
      ((raiseEnvironment 5 true (.dict [(.str "amount", .str "100")])).run taggedHash
        (raiseCall 100 false) "request" .empty).2
      ((raiseEnvironment 7 true (.dict [(.str "amount", .str "250")])).run taggedHash
        ((raiseCall 100 false).withRequest (raisePayload 250)) "request" .empty).2 := by
  refine payroll_write_confidential "request" (raisePayload 250) taggedHash_injective
    taggedHash_ne_genesis (raiseCall_payroll 100 false)
    (raiseEnvironment_same (by decide) (by decide) _ _ _) (SameStore.refl _) .empty .empty
    ⟨by decide, ?_, ?_⟩
  · rintro _ _ _ _ ⟨⟩ ⟨⟩ ⟨⟩ ⟨⟩
    have hserializable (amount : String) : ∀ entry ∈ ([("operation", .str "update"),
        ("payslip_id", .int 9), ("input_id", .int 31), ("before_source_state", .str "draft"),
        ("current_input", .dict [(.str "amount", .str amount)])] : Payload), Dumps entry.2 := by
      simp only [List.forall_mem_cons]
      exact ⟨⟨_, rfl⟩, ⟨_, rfl⟩, ⟨_, rfl⟩, ⟨_, rfl⟩, ⟨_, rfl⟩, by simp⟩
    have heffects : ∀ entry ∈ ([("operation", .str "update"), ("payslip_id", .int 9),
        ("input_id", .int 31)] : Payload), Dumps entry.2 := by
      simp only [List.forall_mem_cons]
      exact ⟨⟨_, rfl⟩, ⟨_, rfl⟩, ⟨_, rfl⟩, by simp⟩
    exact ⟨fun _ => ⟨hserializable "250", heffects⟩, fun _ => ⟨hserializable "100", heffects⟩⟩
  · rintro _ _ _ ⟨⟩ ⟨⟩ ⟨⟩
    refine ⟨⟨fun _ => ⟨_, rfl⟩, fun _ => ⟨_, rfl⟩⟩, fun _ _ hrow => ?_, fun _ _ _ _ hrow => ?_⟩
    · cases hrow
    · cases hrow

def recordedStatuses (store : Store) : List String := store.auditLog.rows.map (·.finalStatus)

theorem SameStore.recordedStatuses {first second : Store} (hsame : SameStore first second) :
    recordedStatuses first = recordedStatuses second := by
  unfold OdooMcp.recordedStatuses
  rw [← List.forall₂_eq_eq_eq, List.forall₂_map_left_iff, List.forall₂_map_right_iff]
  refine hsame.audit.imp fun row other hrow => ?_
  have hstatus := congrArg AuditRow.finalStatus (show row.masked = other.masked from hrow)
  exact hstatus

def raiseRun (now : Instant) (dryRun : Bool) (evidence : PyValue) (requestPayload : Payload)
    (store : Store) : Store :=
  ((raiseEnvironment now false evidence).run taggedHash
    ((raiseCall 100 dryRun).withRequest requestPayload) "second" store).2

def raisedRow : IdempotencyRow where
  id := 1
  tenantId := "tenant"
  companyId := 1
  toolName := "set_draft_payroll_input"
  idempotencyKey := "raise-31"
  requestHash := taggedHash ("\x7b\"company_id\":1,\"payload\":\x7b\"amount\":\"100\"," ++
    "\"input_id\":31,\"payslip_id\":9\x7d\x7d")
  state := .succeeded
  ownerRequestId := "first"
  responseJson := some (.obj
    [("company_id", .int 1), ("operation", .str "update"), ("outcome", .str "known"),
      ("request_id", .str "first"), ("status", .str "succeeded")])
  expiresAt := idempotencyTtl
  createdAt := 0
  updatedAt := 0

def raisedStore : Store where
  idempotencyKeys := (IdempotencyKeys.empty.insert? raisedRow).getD .empty
  auditLog := .empty

/-- What the coordinator finds out about values it does not store can be read off the rows. The
stored outcome tells a repeated request from another one under the same key, an expired row from
an open one, a preparation that can be serialized from one that cannot, and a request that cannot be
hashed or names a reserved field from one that can or does not. -/
theorem payroll_write_observable :
    (¬∀ (sha256 : String → String) (call : WriteCall) (requestId : String)
        (requestPayload : Payload) (first second : Environment) (store other : Store),
      Function.Injective sha256 → (∀ text, sha256 text ≠ genesisHash) →
        PayrollCommand call.command → SameEnvironment first second → SameStore store other →
          SameStore (first.run sha256 call requestId store).2
            (second.run sha256 (call.withRequest requestPayload) requestId other).2) ∧
      ¬SameStore (raiseRun 5 false .none (raisePayload 100) raisedStore)
        (raiseRun 5 false .none (raisePayload 250) raisedStore) ∧
      ¬SameStore (raiseRun 5 false .none (raisePayload 100) raisedStore)
        (raiseRun idempotencyTtl false .none (raisePayload 100) raisedStore) ∧
      ¬SameStore (raiseRun 5 true .none (raisePayload 100) .empty)
        (raiseRun 5 true (.other none) (raisePayload 100) .empty) ∧
      ¬SameStore (raiseRun 5 false .none (raisePayload 100) .empty)
        (raiseRun 5 false .none [("amount", .other none)] .empty) ∧
      ¬SameStore (raiseRun 5 true .none (raisePayload 100) .empty)
        (raiseRun 5 true .none [("dry_run", .bool true)] .empty) := by
  have hdiffer {first second : Store}
      (hstatuses : recordedStatuses first ≠ recordedStatuses second) : ¬SameStore first second :=
    fun hsame => hstatuses hsame.recordedStatuses
  have hcompared : ¬SameStore (raiseRun 5 false .none (raisePayload 100) raisedStore)
      (raiseRun 5 false .none (raisePayload 250) raisedStore) :=
    hdiffer (by decide +kernel)
  refine ⟨fun hclaim => ?_, hcompared, hdiffer (by decide +kernel), hdiffer (by decide +kernel),
    hdiffer (by decide +kernel), hdiffer (by decide +kernel)⟩
  exact hcompared (hclaim taggedHash (raiseCall 100 false) "second" (raisePayload 250) _ _
    raisedStore raisedStore taggedHash_injective taggedHash_ne_genesis
    (raiseCall_payroll 100 false) (raiseEnvironment_same (by decide) (by decide) false .none .none)
    (SameStore.refl raisedStore))

end OdooMcp
