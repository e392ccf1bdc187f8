import OdooMcp.Effect.Typestate
import OdooMcp.Policy.Coordinator

/-!
# The phases of a write call

Which requests `run` makes is governed by a protocol with six phases. `writeProtocol_follows` says
that `run` follows it on every answer, and what it reports in the phase it ends in; the journal
invariants and the outcome guarantees are both read off this one theorem.
-/

namespace OdooMcp

open Effect

/-- The answer of `execute` passes the validation of the response built from it. -/
def ExecuteReturn.valid : ExecuteReturn → Bool
  | .applied materialEffects recordRefs artifactMarkdown =>
      materialEffects.toPayload?.isSome && (recordRefs.mapM asStr).isOk &&
        (!artifactMarkdown.truthy || (asStr artifactMarkdown).isOk)
  | .other => false

inductive Phase
  | declined
  | submitting
  | refused
  | owner
  | executed (answer : Except PyException ExecuteReturn)
  | settled (executed : Option (Except PyException ExecuteReturn)) (state : IdempotencyState)
      (committed : Bool)

/-- The state and the event status with which an answer of `execute` is recorded. -/
def settlement : Except PyException ExecuteReturn → IdempotencyState × String
  | .ok returned => if returned.valid then (.succeeded, "succeeded") else (.unknown, "unknown")
  | .error (.knownWriteFailure _) => (.failed, "failed")
  | .error _ => (.unknown, "unknown")

namespace WriteCall

variable (call : WriteCall) (requestId : String)

def journalKey : IdempotencyKey :=
  ⟨call.binding.tenantId, call.definition.name, call.command.idempotencyKey.getD ""⟩

def submits : Bool :=
  call.gate.isNone && !call.command.dryRun && call.givenKey.isSome

def opening : Phase :=
  if call.submits then .submitting else .declined

/-- The request concerns this call's own reservation, under its own request id. -/
def OwnEntry (event : AuditEvent) (idempotencyKey finalStatus : String) : Prop :=
  event.requestId = requestId ∧ event.idempotencyKey idempotencyKey = call.journalKey ∧
    event.finalStatus = finalStatus

def allows : Phase → WriteRequest → Prop
  | .declined, .prepare => True
  | .declined, .append event => event.requestId = requestId
  | .submitting, .begin event idempotencyKey _ =>
      call.OwnEntry requestId event idempotencyKey "attempted"
  | .refused, .append event => event.requestId = requestId
  | .owner, .prepare => True
  | .owner, .validateCurrentState => True
  | .owner, .execute => True
  | .owner, .finish event idempotencyKey state _ =>
      state = .failed ∧ (call.OwnEntry requestId event idempotencyKey "failed" ∨
        call.OwnEntry requestId event idempotencyKey "needs_input")
  | .executed answer, .finish event idempotencyKey state _ =>
      state = (settlement answer).1 ∧
        call.OwnEntry requestId event idempotencyKey (settlement answer).2
  | _, _ => False

def next : Phase → (request : WriteRequest) →
    Except PyException (writeSignature.Result request) → Phase
  | .submitting, .begin _ _ _, .ok decision =>
      if decision.disposition = .reserved then .owner else .refused
  | .submitting, .begin _ _ _, .error _ => .refused
  | .owner, .execute, answer => .executed answer
  | .owner, .finish _ _ state _, answer => .settled none state answer.isOk
  | .executed executed, .finish _ _ state _, answer => .settled (some executed) state answer.isOk
  | phase, _, _ => phase

def protocol : Protocol writeSignature PyException Phase where
  allows := call.allows requestId
  next := next

end WriteCall

/-- What a response says about an execution, given whether its success was recorded. -/
def Reports (answer : Except PyException ExecuteReturn) (committed : Bool)
    (response : WriteSafetyResponse) : Prop :=
  match (settlement answer).1 with
  | .succeeded =>
      if committed then response.status = .succeeded ∧ response.outcome = .known
      else response.outcome = .unknown
  | .failed => response.status = .failed ∧ response.outcome = .known
  | _ => response.outcome = .unknown

/-- What `run` may end with in each phase. -/
def Ends : Phase → Except PyException WriteSafetyResponse → Prop
  | .declined, .ok response => response.outcome = .notAttempted ∧ response.status ≠ .succeeded
  | .submitting, .ok _ => False
  | .owner, .ok response => response.outcome = .notAttempted ∧ response.status ≠ .succeeded
  | .executed answer, .ok response => Reports answer false response
  | .executed _, .error error => error = .cancelledError
  | .settled none _ _, .ok response =>
      response.outcome = .notAttempted ∧ response.status ≠ .succeeded
  | .settled (some answer) _ committed, .ok response => Reports answer committed response
  | .settled (some _) _ _, .error error => error = .cancelledError
  | _, _ => True

/-! ### Events and responses -/

variable {call : WriteCall} {requestId : String}

theorem event_ok {finalStatus : String} {response : Option WriteSafetyResponse}
    {proposedAction : Option Payload} {affectedRecords : List String} {event : AuditEvent}
    (hevent : call.event requestId finalStatus response proposedAction affectedRecords =
      .ok event) :
    event.requestId = requestId ∧ event.tenantId = call.binding.tenantId ∧
      event.toolName = call.definition.name ∧ event.finalStatus = finalStatus ∧
      event.companyId = if 0 < call.command.companyId then some call.command.companyId
        else none := by
  simp only [WriteCall.event, bind, Except.bind] at hevent
  split at hevent
  · cases hevent
  · cases hevent
    exact ⟨rfl, rfl, rfl, rfl, rfl⟩

theorem givenKey_eq_some {idempotencyKey : String} (hkey : call.givenKey = some idempotencyKey) :
    call.command.idempotencyKey = some idempotencyKey := by
  rw [WriteCall.givenKey, Option.filter_eq_some_iff] at hkey
  exact hkey.1

theorem ownEntry_of_event {finalStatus : String} {response : Option WriteSafetyResponse}
    {proposedAction : Option Payload} {affectedRecords : List String} {event : AuditEvent}
    {idempotencyKey : String} (hkey : call.givenKey = some idempotencyKey)
    (hevent : call.event requestId finalStatus response proposedAction affectedRecords =
      .ok event) :
    call.OwnEntry requestId event idempotencyKey finalStatus := by
  obtain ⟨hrequest, htenant, htool, hstatus, -⟩ := event_ok hevent
  refine ⟨hrequest, ?_, hstatus⟩
  rw [AuditEvent.idempotencyKey, WriteCall.journalKey, htenant, htool, givenKey_eq_some hkey,
    Option.getD_some]

theorem asStr_error {value : PyValue} {error : PyException} (herror : asStr value = .error error) :
    error = validationError := by
  cases value <;> simp_all [asStr]

theorem mapM_asStr_error {values : List PyValue} {error : PyException}
    (herror : values.mapM asStr = .error error) : error = validationError := by
  induction values with
  | nil => cases herror
  | cons value values ih =>
      rw [List.mapM_cons] at herror
      cases hvalue : asStr value with
      | error first =>
          rw [hvalue] at herror
          cases herror
          exact asStr_error hvalue
      | ok text =>
          cases hrest : values.mapM asStr with
          | error rest =>
              simp only [hvalue, hrest, bind, Except.bind] at herror
              cases herror
              exact ih hrest
          | ok texts =>
              simp [hvalue, hrest, bind, Except.bind, pure, Except.pure] at herror

/-- A callback result is accepted exactly when it is valid, and then reported as a success. -/
theorem appliedResponse_cases (requestId : String) (prepared : PreparedWrite) (companyId : Int)
    (returned : ExecuteReturn) :
    (returned.valid = true ∧ ∃ response,
      appliedResponse prepared requestId companyId returned = .ok response ∧
        response.status = .succeeded ∧ response.outcome = .known) ∨
    (returned.valid = false ∧ ∃ message,
      appliedResponse prepared requestId companyId returned = .error (.exception message)) := by
  cases returned with
  | other => exact .inr ⟨rfl, _, rfl⟩
  | applied materialEffects recordRefs artifactMarkdown =>
      simp only [ExecuteReturn.valid, appliedResponse, bind, Except.bind]
      cases heffects : materialEffects.toPayload? with
      | none => exact .inr ⟨by simp, _, rfl⟩
      | some effects =>
          cases hrefs : recordRefs.mapM asStr with
          | error error =>
              have herror := mapM_asStr_error hrefs
              subst herror
              exact .inr ⟨by simp [Except.isOk, Except.toBool], _, rfl⟩
          | ok refs =>
              cases htruthy : artifactMarkdown.truthy with
              | false => exact .inl ⟨by simp [Except.isOk, Except.toBool], _, rfl, rfl, rfl⟩
              | true =>
                  cases hartifact : asStr artifactMarkdown with
                  | error error =>
                      have herror := asStr_error hartifact
                      subst herror
                      exact .inr ⟨by simp [Except.isOk, Except.toBool], _, rfl⟩
                  | ok text =>
                      exact .inl ⟨by simp [Except.isOk, Except.toBool], _, rfl, rfl, rfl⟩

/-! ### In which phase a request is allowed -/

theorem allows_begin {phase : Phase} {event : AuditEvent} {idempotencyKey : String}
    {requestPayload : Payload}
    (hallows : call.allows requestId phase (.begin event idempotencyKey requestPayload)) :
    phase = .submitting ∧ call.OwnEntry requestId event idempotencyKey "attempted" := by
  cases phase <;> first | exact ⟨rfl, hallows⟩ | exact hallows.elim

theorem allows_append {phase : Phase} {event : AuditEvent}
    (hallows : call.allows requestId phase (.append event)) :
    (phase = .declined ∨ phase = .refused) ∧ event.requestId = requestId := by
  cases phase <;>
    first | exact ⟨.inl rfl, hallows⟩ | exact ⟨.inr rfl, hallows⟩ | exact hallows.elim

theorem allows_execute {phase : Phase} (hallows : call.allows requestId phase .execute) :
    phase = .owner := by
  cases phase <;> first | rfl | exact hallows.elim

theorem allows_finish {phase : Phase} {event : AuditEvent} {idempotencyKey : String}
    {state : IdempotencyState} {response : Option Payload}
    (hallows : call.allows requestId phase (.finish event idempotencyKey state response)) :
    (phase = .owner ∧ state = .failed ∧
      (call.OwnEntry requestId event idempotencyKey "failed" ∨
        call.OwnEntry requestId event idempotencyKey "needs_input")) ∨
    ∃ answer, phase = .executed answer ∧ state = (settlement answer).1 ∧
      call.OwnEntry requestId event idempotencyKey (settlement answer).2 := by
  cases phase <;>
    first | exact .inl ⟨rfl, hallows⟩ | exact .inr ⟨_, rfl, hallows⟩ | exact hallows.elim

/-! ### Following the protocol -/

theorem follows_appendOrFail {phase : Phase} {finalStatus : String}
    {response : WriteSafetyResponse} (hphase : phase = .declined ∨ phase = .refused)
    (hdeclined : phase = .declined →
      response.outcome = .notAttempted ∧ response.status ≠ .succeeded) :
    (call.protocol requestId).Follows phase (call.appendOrFail requestId finalStatus response)
      Ends := by
  simp only [WriteCall.appendOrFail, Program.bind_eq, Protocol.follows_bind,
    Protocol.follows_ofExcept]
  cases hevent : call.event requestId finalStatus (some response) none [] with
  | error error => rcases hphase with rfl | rfl <;> trivial
  | ok event =>
      have hrequest := (event_ok hevent).1
      rcases hphase with rfl | rfl
      · simp only [Protocol.follows_attempt]
        refine ⟨hrequest, fun answer => ?_⟩
        have hnot := hdeclined rfl
        cases answer with
        | ok row => exact hnot
        | error error => cases error <;> first | trivial | exact ⟨rfl, by simp [failure]⟩
      · simp only [Protocol.follows_attempt]
        refine ⟨hrequest, fun answer => ?_⟩
        cases answer with
        | ok row => trivial
        | error error => cases error <;> trivial

theorem ends_cancelled (phase : Phase) : Ends phase (.error .cancelledError) := by
  rcases phase with _ | _ | _ | _ | answer | ⟨_ | answer, _, _⟩ <;> trivial

theorem follows_recorded {reached : Phase} {response : WriteSafetyResponse}
    (recorded : Except PyException Unit) (hreached : Ends reached (.ok response)) :
    (call.protocol requestId).Follows reached
      (match recorded with
      | .error .cancelledError => throw .cancelledError
      | _ => return response : Coordinator WriteSafetyResponse) Ends := by
  cases recorded with
  | ok value => exact hreached
  | error error => cases error <;> first | exact hreached | exact ends_cancelled reached

/-- Recording an outcome quietly: `response` has to be right where the event could not be built and
where `finish` was asked, whatever it answered. -/
theorem follows_finishQuietly {phase : Phase} {idempotencyKey finalStatus : String}
    {state : IdempotencyState} {response : WriteSafetyResponse} {prepared : Option PreparedWrite}
    (hkey : call.givenKey = some idempotencyKey)
    (hallows : ∀ event mapping, call.OwnEntry requestId event idempotencyKey finalStatus →
      call.allows requestId phase (.finish event idempotencyKey state mapping))
    (hunasked : Ends phase (.ok response))
    (hasked : ∀ event mapping answer,
      Ends (WriteCall.next phase (.finish event idempotencyKey state mapping) answer)
        (.ok response)) :
    (call.protocol requestId).Follows phase
      (call.finishQuietly requestId idempotencyKey state finalStatus response prepared) Ends := by
  simp only [WriteCall.finishQuietly, WriteCall.finishAfterAttempt, Program.bind_eq,
    Protocol.follows_bind, Protocol.follows_attempt, Protocol.follows_ofExcept]
  cases hevent : call.event requestId finalStatus (some response)
      (prepared.map (·.proposedAction)) [] with
  | error error => exact follows_recorded _ hunasked
  | ok event =>
      cases hmapping : responseMappingForPersistence call.command response with
      | error error => exact follows_recorded _ hunasked
      | ok mapping =>
          exact ⟨hallows event _ (ownEntry_of_event hkey hevent),
            fun answer =>
              Protocol.follows_ofExcept.mpr (follows_recorded answer (hasked event _ answer))⟩

/-- Before the write, a failure is recorded as such: the write was not attempted. -/
theorem follows_finishBeforeWrite {idempotencyKey finalStatus : String}
    {response : WriteSafetyResponse} {prepared : Option PreparedWrite}
    (hkey : call.givenKey = some idempotencyKey)
    (hstatus : finalStatus = "failed" ∨ finalStatus = "needs_input")
    (hresponse : response.outcome = .notAttempted ∧ response.status ≠ .succeeded) :
    (call.protocol requestId).Follows .owner
      (call.finishQuietly requestId idempotencyKey .failed finalStatus response prepared) Ends := by
  refine follows_finishQuietly hkey ?_ hresponse (fun event mapping answer => hresponse)
  rintro event mapping hentry
  rcases hstatus with rfl | rfl
  · exact ⟨rfl, .inl hentry⟩
  · exact ⟨rfl, .inr hentry⟩

theorem follows_handlePreWrite {phase : Phase} {error : PyException}
    {record : OdooMcpError → Coordinator WriteSafetyResponse}
    (hrecord : ∀ reported, (call.protocol requestId).Follows phase (record reported) Ends) :
    (call.protocol requestId).Follows phase (WriteCall.handlePreWrite record error) Ends := by
  cases error with
  | cancelledError =>
      simp only [WriteCall.handlePreWrite, Program.bind_eq, Protocol.follows_bind]
      refine (hrecord cancelledPreWriteError).mono ?_
      intro reached result hreached
      cases result with
      | ok response => exact ends_cancelled reached
      | error error => exact hreached
  | odooMcpError reported => exact hrecord reported
  | knownWriteFailure reported => exact hrecord _
  | payrollWriteRejected reported => exact hrecord _
  | idempotencyPayloadMismatch => exact hrecord _
  | exception message => exact hrecord _

theorem preparedResponse_notAttempted (prepared : PreparedWrite) (companyId : Int) :
    (preparedResponse prepared requestId companyId).outcome = .notAttempted ∧
      (preparedResponse prepared requestId companyId).status ≠ .succeeded := by
  refine ⟨rfl, ?_⟩
  cases hneeds : prepared.needsInput <;> simp [preparedResponse, hneeds]

/-- Preparing asks for nothing but the preparation, and its response reports no write. -/
theorem follows_prepareResponse {phase : Phase} (hphase : phase = .declined ∨ phase = .owner)
    {post : Phase → Except PyException (PreparedWrite × WriteSafetyResponse) → Prop}
    (hok : ∀ prepared response, response.outcome = .notAttempted ∧ response.status ≠ .succeeded →
      post phase (.ok (prepared, response)))
    (herror : ∀ error, post phase (.error error)) :
    (call.protocol requestId).Follows phase (call.prepareResponse requestId) post := by
  have hanswer : ∀ answer, (call.protocol requestId).Follows phase
      ((Program.ofExcept answer).bind fun returned =>
        (Program.ofExcept (normalizePrepared returned)).bind fun prepared =>
          let response := preparedResponse prepared requestId call.command.companyId
          (Program.ofExcept response.modelDump).bind fun _ =>
            .ret (prepared, response)) post := by
    intro answer
    cases answer with
    | error error => exact herror error
    | ok returned =>
        cases hprepared : normalizePrepared returned with
        | error error => simpa [Program.ofExcept, Program.bind, hprepared] using herror error
        | ok prepared =>
            cases hdump :
                (preparedResponse prepared requestId call.command.companyId).modelDump with
            | error error =>
                simpa [Program.ofExcept, Program.bind, hprepared, hdump] using herror error
            | ok dumped =>
                simpa [Program.ofExcept, Program.bind, hprepared, hdump] using
                  hok prepared _ (preparedResponse_notAttempted prepared call.command.companyId)
  rcases hphase with rfl | rfl
  · exact ⟨trivial, hanswer⟩
  · exact ⟨trivial, hanswer⟩

theorem follows_unrecorded {reached : Phase} {prepared : PreparedWrite}
    {response : WriteSafetyResponse} (error : PyException)
    (hreached : Ends reached
      (.ok (call.failed requestId unknownOutcomeError .unknown (some prepared)))) :
    (call.protocol requestId).Follows reached
      (match (Except.error error : Except PyException Unit) with
      | .ok () => return response
      | .error .cancelledError => throw .cancelledError
      | .error _ => return call.failed requestId unknownOutcomeError .unknown (some prepared) :
        Coordinator WriteSafetyResponse) Ends := by
  cases error <;> first | exact hreached | exact ends_cancelled reached

/-- A valid answer of `execute` is recorded as a success, and reported as one only once that has
been committed. -/
theorem follows_settle_ok {idempotencyKey : String} {prepared : PreparedWrite}
    {returned : ExecuteReturn} {response : WriteSafetyResponse}
    (hkey : call.givenKey = some idempotencyKey) (hvalid : returned.valid = true)
    (hstatus : response.status = .succeeded) (houtcome : response.outcome = .known) :
    (call.protocol requestId).Follows (.executed (.ok returned))
      (call.settle requestId idempotencyKey prepared (.ok response)) Ends := by
  have hsettlement : settlement (.ok returned) = (.succeeded, "succeeded") := by
    simp [settlement, hvalid]
  have hunasked : Ends (.executed (.ok returned))
      (.ok (call.failed requestId unknownOutcomeError .unknown (some prepared))) := by
    simp [Ends, Reports, hsettlement, WriteCall.failed, failure]
  simp only [WriteCall.settle, Program.bind_eq, Protocol.follows_bind, Protocol.follows_attempt,
    Protocol.follows_ofExcept]
  cases hevent : call.event requestId "succeeded" (some response) (some prepared.proposedAction)
      response.recordRefs with
  | error error => exact follows_unrecorded error hunasked
  | ok event =>
      cases hmapping : responseMappingForPersistence call.command response with
      | error error => exact follows_unrecorded error hunasked
      | ok mapping =>
          refine ⟨⟨by rw [hsettlement], ?_⟩, fun answer => ?_⟩
          · rw [hsettlement]
            exact ownEntry_of_event hkey hevent
          · rw [Protocol.follows_ofExcept]
            cases answer with
            | ok committed =>
                show Ends (.settled (some (.ok returned)) .succeeded true) (.ok response)
                simp [Ends, Reports, hsettlement, hstatus, houtcome]
            | error error =>
                refine follows_unrecorded error ?_
                show Ends (.settled (some (.ok returned)) .succeeded false) _
                simp [Ends, Reports, hsettlement, WriteCall.failed, failure]

/-- After the answer of `execute` only the outcome it calls for is recorded and reported. -/
theorem follows_settle {idempotencyKey : String} {prepared : PreparedWrite}
    {answer : Except PyException ExecuteReturn} (hkey : call.givenKey = some idempotencyKey) :
    (call.protocol requestId).Follows (.executed answer)
      (call.settle requestId idempotencyKey prepared (answer.bind fun returned =>
        appliedResponse prepared requestId call.command.companyId returned)) Ends := by
  have hunknown (hsettlement : settlement answer = (.unknown, "unknown")) :
      (call.protocol requestId).Follows (.executed answer)
        (call.finalizeUnknown requestId idempotencyKey prepared) Ends := by
    refine follows_finishQuietly hkey ?_ ?_ ?_
    · intro event mapping hentry
      exact ⟨by rw [hsettlement], by rwa [hsettlement]⟩
    · simp [Ends, Reports, hsettlement, WriteCall.failed, failure]
    · intro event mapping recorded
      simp [WriteCall.next, Ends, Reports, hsettlement, WriteCall.failed, failure]
  cases answer with
  | error error =>
      cases error with
      | cancelledError =>
          simp only [Except.bind, WriteCall.settle, Program.bind_eq, Protocol.follows_bind]
          refine (hunknown rfl).mono ?_
          intro reached result hreached
          cases result with
          | ok response => exact ends_cancelled reached
          | error error => exact hreached
      | knownWriteFailure reported =>
          refine follows_finishQuietly hkey ?_ ?_ ?_
          · intro event mapping hentry
            exact ⟨rfl, hentry⟩
          · simp [Ends, Reports, settlement, WriteCall.failed, failure]
          · intro event mapping recorded
            simp [WriteCall.next, Ends, Reports, settlement, WriteCall.failed, failure]
      | odooMcpError reported => exact hunknown rfl
      | payrollWriteRejected reported => exact hunknown rfl
      | idempotencyPayloadMismatch => exact hunknown rfl
      | exception message => exact hunknown rfl
  | ok returned =>
      rcases appliedResponse_cases requestId prepared call.command.companyId returned with
        ⟨hvalid, response, hresponse, hstatus, houtcome⟩ | ⟨hvalid, message, hresponse⟩
      · simp only [Except.bind, hresponse]
        exact follows_settle_ok hkey hvalid hstatus houtcome
      · simp only [Except.bind, hresponse]
        exact hunknown (by simp [settlement, hvalid])

theorem follows_execute {idempotencyKey : String} {prepared : PreparedWrite}
    (hkey : call.givenKey = some idempotencyKey) :
    (call.protocol requestId).Follows .owner
      ((call.executeResponse requestId prepared).attempt.bind fun answer =>
        call.settle requestId idempotencyKey prepared answer) Ends := by
  simp only [WriteCall.executeResponse, Program.bind_eq, Protocol.follows_bind,
    Protocol.follows_attempt, Protocol.follows_ofExcept]
  refine ⟨trivial, fun executed => ?_⟩
  have hsettle : (call.protocol requestId).Follows (.executed executed)
      (call.settle requestId idempotencyKey prepared (executed.bind fun returned =>
        appliedResponse prepared requestId call.command.companyId returned)) Ends :=
    follows_settle hkey
  cases executed with
  | error error => exact hsettle
  | ok returned => exact hsettle

theorem follows_preview :
    (call.protocol requestId).Follows .declined (call.preview requestId) Ends := by
  simp only [WriteCall.preview, Program.bind_eq, Protocol.follows_bind, Protocol.follows_attempt]
  refine follows_prepareResponse (.inl rfl) ?_ ?_
  · intro prepared response hresponse
    exact follows_appendOrFail (.inl rfl) fun _ => hresponse
  · intro error
    refine follows_handlePreWrite fun reported => ?_
    exact follows_appendOrFail (.inl rfl) fun _ => ⟨rfl, by simp [WriteCall.failed, failure]⟩

theorem follows_own {idempotencyKey : String} (hkey : call.givenKey = some idempotencyKey) :
    (call.protocol requestId).Follows .owner (call.own requestId idempotencyKey) Ends := by
  simp only [WriteCall.own, Program.bind_eq, Protocol.follows_bind, Protocol.follows_attempt]
  have hfailed : ∀ prepared error, (call.protocol requestId).Follows .owner
      (call.finishPreWriteFailure requestId idempotencyKey error prepared) Ends :=
    fun prepared error => follows_finishBeforeWrite hkey (.inl rfl)
      ⟨rfl, by simp [WriteCall.failed, failure]⟩
  refine follows_prepareResponse (.inr rfl) ?_ (fun error => follows_handlePreWrite (hfailed none))
  intro prepared response hresponse
  simp only
  split
  · exact follows_finishBeforeWrite hkey (.inr rfl) hresponse
  · simp only [Protocol.follows_bind, Protocol.follows_attempt]
    refine ⟨trivial, fun answer => ?_⟩
    cases answer with
    | error error => exact follows_handlePreWrite (hfailed (some prepared))
    | ok validated =>
        exact follows_execute hkey

theorem follows_decide {idempotencyKey : String} {begun : Except PyException IdempotencyDecision}
    {event : AuditEvent} (hkey : call.givenKey = some idempotencyKey) :
    (call.protocol requestId).Follows
      (WriteCall.next .submitting (.begin event idempotencyKey call.command.requestPayload) begun)
      (call.decide requestId idempotencyKey begun) Ends := by
  have hrefused {finalStatus : String} {response : WriteSafetyResponse} :
      (call.protocol requestId).Follows .refused
        (call.appendOrFail requestId finalStatus response) Ends :=
    follows_appendOrFail (.inr rfl) (by simp)
  cases begun with
  | error error => cases error <;> first | exact hrefused | trivial
  | ok decision =>
      cases hdisposition : decision.disposition with
      | reserved => simpa [WriteCall.next, WriteCall.decide, hdisposition] using follows_own hkey
      | inProgress => simpa [WriteCall.next, WriteCall.decide, hdisposition] using hrefused
      | replay =>
          have hreplay : (call.protocol requestId).Follows .refused
              (call.replay requestId decision) Ends := by
            unfold WriteCall.replay
            split
            · trivial
            · exact hrefused
          simpa [WriteCall.next, WriteCall.decide, hdisposition] using hreplay

theorem follows_submit {idempotencyKey : String} {proposedAction : Option Payload}
    (hkey : call.givenKey = some idempotencyKey) :
    (call.protocol requestId).Follows .submitting
      ((Program.ofExcept (call.event requestId "attempted" none proposedAction [])).bind
        fun attempted =>
          (Program.call (S := writeSignature)
            (.begin attempted idempotencyKey call.command.requestPayload)).attempt.bind
          fun begun => call.decide requestId idempotencyKey begun) Ends := by
  simp only [Protocol.follows_bind, Protocol.follows_attempt, Protocol.follows_ofExcept]
  cases hevent : call.event requestId "attempted" none proposedAction [] with
  | error error => trivial
  | ok event =>
      exact ⟨ownEntry_of_event hkey hevent,
        fun begun => Protocol.follows_ofExcept.mpr (follows_decide hkey)⟩

/-- **`run` follows the write protocol**, whatever the storage and the callbacks answer. -/
theorem writeProtocol_follows (call : WriteCall) (requestId : String) :
    (call.protocol requestId).Follows call.opening (call.run requestId) Ends := by
  have hdeclined {finalStatus : String} {error : OdooMcpError} :
      (call.protocol requestId).Follows .declined (call.appendOrFail requestId finalStatus
        (call.failed requestId error .notAttempted none)) Ends :=
    follows_appendOrFail (.inl rfl) fun _ => ⟨rfl, by simp [WriteCall.failed, failure]⟩
  have hopening : call.opening = if call.submits then .submitting else .declined := rfl
  simp only [WriteCall.run, Program.bind_eq, Protocol.follows_bind, Protocol.follows_ofExcept]
  cases hdefinition : validateWriteToolDefinition call.definition with
  | error error =>
      change Ends call.opening (.error error)
      rw [hopening]
      split <;> trivial
  | ok _ =>
      cases hgate : call.gate with
      | some error =>
          rw [hopening, if_neg (by simp [WriteCall.submits, hgate])]
          exact hdeclined
      | none =>
          cases hdry : call.command.dryRun with
          | true =>
              rw [hopening, if_neg (by simp [WriteCall.submits, hdry])]
              exact follows_preview
          | false =>
              cases hkey : call.givenKey with
              | none =>
                  rw [hopening, if_neg (by simp [WriteCall.submits, hkey])]
                  exact hdeclined
              | some idempotencyKey =>
                  rw [hopening, if_pos (by simp [WriteCall.submits, hgate, hdry, hkey])]
                  exact follows_submit hkey

end OdooMcp
