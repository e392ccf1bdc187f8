import OdooMcp.Policy.WriteSystem

/-!
# What a replayed call reports

A call that finds its key recorded as succeeded or unknown answers from the stored response. It is
run here against one store and one environment, which fixes for each storage step whether it is
available and what the callbacks do.
-/

namespace OdooMcp

open Effect

variable (sha256 : String → String)

/-- The world around one call, which asks each of these questions at most once: the clock of a
storage step, or nothing if the database is not available for it, and the callbacks' answers. -/
structure Environment where
  begin : Option ExecutionJournal.Clock
  finish : Option ExecutionJournal.Clock
  append : Option Instant
  prepare : Except PyException PrepareReturn
  validateCurrentState : Except PyException Unit
  execute : Except PyException ExecuteReturn

def unavailable : PyException := .exception "database is not available"

namespace Environment

def answer (environment : Environment) : (request : WriteRequest) → Store →
    Except PyException (writeSignature.Result request) × Store
  | .begin event idempotencyKey requestPayload, store =>
      match environment.begin with
      | some clock => ExecutionJournal.begin sha256 clock event idempotencyKey requestPayload store
      | none => (.error unavailable, store)
  | .finish event idempotencyKey state response, store =>
      match environment.finish with
      | some clock => ExecutionJournal.finish sha256 clock event idempotencyKey state response store
      | none => (.error unavailable, store)
  | .append event, store =>
      match environment.append with
      | some now => AuditRepository.append sha256 now event store
      | none => (.error unavailable, store)
  | .prepare, store => (environment.prepare, store)
  | .validateCurrentState, store => (environment.validateCurrentState, store)
  | .execute, store => (environment.execute, store)

/-- The steps of an environment are steps of the interleaved system. -/
theorem answer_performs (environment : Environment) (request : WriteRequest) (store : Store) :
    Performs sha256 request store (environment.answer sha256 request store).1
      (environment.answer sha256 request store).2 := by
  cases request with
  | begin event idempotencyKey requestPayload =>
      cases hbegin : environment.begin with
      | some clock => exact .inl ⟨clock, by simp [answer, hbegin]⟩
      | none => exact .inr ⟨⟨_, by rw [answer, hbegin, unavailable]⟩, by simp [answer, hbegin]⟩
  | finish event idempotencyKey state response =>
      cases hfinish : environment.finish with
      | some clock => exact .inl ⟨clock, by simp [answer, hfinish]⟩
      | none => exact .inr ⟨⟨_, by rw [answer, hfinish, unavailable]⟩, by simp [answer, hfinish]⟩
  | append event =>
      cases happend : environment.append with
      | some now => exact .inl ⟨now, by simp [answer, happend]⟩
      | none => exact .inr ⟨⟨_, by rw [answer, happend, unavailable]⟩, by simp [answer, happend]⟩
  | prepare => rfl
  | validateCurrentState => rfl
  | execute => rfl

variable {sha256}

theorem runWith_request (environment : Environment) (request : WriteRequest) (store : Store) :
    Program.runWith (environment.answer sha256) (Program.call (S := writeSignature) request) store =
      environment.answer sha256 request store :=
  Program.runWith_call (S := writeSignature) request store

theorem answer_begin {environment : Environment} {clock : ExecutionJournal.Clock}
    (hclock : environment.begin = some clock) (event : AuditEvent) (idempotencyKey : String)
    (requestPayload : Payload) (store : Store) :
    environment.answer sha256 (.begin event idempotencyKey requestPayload) store =
      ExecutionJournal.begin sha256 clock event idempotencyKey requestPayload store := by
  rw [answer, hclock]

/-- An append either stores the event and raises nothing, or raises an exception that no handler
names. -/
theorem answer_append (environment : Environment) (event : AuditEvent) (store : Store) :
    Ordinary (environment.answer sha256 (.append event) store).1 := by
  cases happend : environment.append with
  | some now =>
      rw [answer, happend]
      exact append_ordinary now event store
  | none =>
      rw [answer, happend]
      exact ordinary_exception _

variable (sha256)

/-- What `run` returns, and the store it leaves. -/
def run (environment : Environment) (call : WriteCall) (requestId : String) (store : Store) :
    Except PyException WriteSafetyResponse × Store :=
  (call.run requestId).runWith (environment.answer sha256) store

end Environment

variable {sha256}

/-- The situation of a replay: the call submits, and finds under its key an unexpired row of the
same request with a recorded success or an unknown outcome. -/
structure Replays (sha256 : String → String) (clock : ExecutionJournal.Clock) (call : WriteCall)
    (requestId : String) (store : Store) (row : IdempotencyRow) (stored : Payload) : Prop where
  definition : validateWriteToolDefinition call.definition = .ok ()
  submits : call.submits = true
  identity : requiredIdentity call.command.companyId call.journalKey requestId = .ok ()
  found : store.idempotencyKeys.find call.journalKey = some row
  certain : row.state = .succeeded ∨ row.state = .unknown
  unexpired : IdempotencyRepository.isExpired clock.repository row = false
  sameRequest : IdempotencyRepository.requestHash sha256 call.command.companyId
    call.command.requestPayload = .ok row.requestHash
  response : IdempotencyRepository.existingResponse row = .ok (some stored)

/-- The audit log takes this event: the database is available for it, its identity and status fields
are filled in, its payloads can be written, and no entry of the tenant has its hash. -/
structure AuditAccepts (sha256 : String → String) (environment : Environment) (event : AuditEvent)
    (store : Store) : Prop where
  complete : requireEvent event = .ok ()
  written : ∃ now row log, environment.append = some now ∧
    auditRow sha256 store.auditLog now event = .ok row ∧ store.auditLog.insert? row = some log

theorem attempted_event (call : WriteCall) (requestId : String) :
    ∃ event, call.event requestId "attempted" none
      (some [("tool", .str call.definition.name),
        ("risk_level", .str call.definition.riskLevel.text)]) [] = .ok event :=
  ⟨_, rfl⟩

theorem run_of_replays {environment : Environment} {clock : ExecutionJournal.Clock}
    {call : WriteCall} {requestId : String} {store : Store} {row : IdempotencyRow}
    {stored : Payload} (hclock : environment.begin = some clock)
    (hreplays : Replays sha256 clock call requestId store row stored) :
    environment.run sha256 call requestId store =
      (call.replay requestId ⟨.replay, row.state, row.ownerRequestId, some stored,
        row.expiresAt⟩).runWith (environment.answer sha256) store := by
  have hsubmits := hreplays.submits
  simp only [WriteCall.submits, Bool.and_eq_true, Option.isNone_iff_eq_none, Bool.not_eq_true',
    Option.isSome_iff_exists] at hsubmits
  obtain ⟨⟨hgate, hdry⟩, idempotencyKey, hkey⟩ := hsubmits
  obtain ⟨event, hevent⟩ := attempted_event call requestId
  have hentry := ownEntry_of_event hkey hevent
  obtain ⟨hrequest, hjournal, -⟩ := hentry
  have hcompany : event.companyId = some call.command.companyId := by
    rw [(event_ok hevent).2.2.2.2,
      if_pos (IdempotencyRepository.company_of_identity hreplays.identity)]
  have hidentity : requiredIdentity call.command.companyId (event.idempotencyKey idempotencyKey)
      event.requestId = .ok () := by
    rw [hjournal, hrequest]
    exact hreplays.identity
  have hfound : store.idempotencyKeys.find (event.idempotencyKey idempotencyKey) = some row := by
    rw [hjournal]
    exact hreplays.found
  have hstate : row.state ≠ .inProgress := by
    rcases hreplays.certain with hstate | hstate <;> simp [hstate]
  have hbegin := ExecutionJournal.begin_found hcompany hidentity hreplays.sameRequest hfound
    hreplays.response hreplays.unexpired
  rw [if_neg hstate] at hbegin
  simp only [Environment.run, WriteCall.run, Program.bind_eq, Program.runWith_bind,
    Program.runWith_ofExcept, hreplays.definition, hgate, hdry, hkey, Bool.false_eq_true, if_false,
    hevent, Program.runWith_attempt]
  rw [Environment.runWith_request, Environment.answer_begin hclock, hbegin]
  rfl

/-- The event of a replay can always be built: everything in it was read from JSON. -/
theorem replayed_event {call : WriteCall} {requestId : String} {restored : WriteSafetyResponse}
    (hstorable : Storable restored) :
    ∃ event, call.event requestId "replayed" (some restored) none [] = .ok event := by
  obtain ⟨payload, hpayload⟩ := hstorable.mapping call.command
  exact ⟨_, except_bind_ok.mpr ⟨some payload, by simp [Option.mapM_some, hpayload], rfl⟩⟩

theorem dumps_of_existingResponse {row : IdempotencyRow} {stored : Payload}
    (hresponse : IdempotencyRepository.existingResponse row = .ok (some stored)) :
    ∀ entry ∈ stored, Dumps entry.2 := by
  simp only [IdempotencyRepository.existingResponse, except_bind_ok] at hresponse
  obtain ⟨response, hparsed, _, -, hreturned⟩ := hresponse
  cases hreturned
  cases hjson : row.responseJson with
  | none =>
      rw [hjson, Option.mapM_none] at hparsed
      cases hparsed
  | some json =>
      cases hparse : parseMapping json with
      | error error => simp [hjson, hparse] at hparsed
      | ok payload =>
          simp only [hjson, Option.mapM_some, hparse, Except.map_ok] at hparsed
          cases hparsed
          exact dumps_of_parseMapping hparse

theorem asStr_ok {value : PyValue} {text : String} (hvalue : asStr value = .ok text) :
    value = .str text := by
  cases value with
  | str found =>
      cases hvalue
      rfl
  | _ => cases hvalue

theorem text_of_ofText? {text : String} {outcome : WriteOutcome}
    (houtcome : WriteOutcome.ofText? text = some outcome) : text = outcome.text := by
  unfold WriteOutcome.ofText? at houtcome
  split at houtcome <;> cases houtcome <;> rfl

/-- The outcome of a response that validates is the one its mapping names. -/
theorem outcome_of_modelValidate {payload : Payload} {response : WriteSafetyResponse}
    (hvalidate : WriteSafetyResponse.modelValidate payload = .ok response) :
    dictGet payload "outcome" = some (.str response.outcome.text) := by
  simp only [WriteSafetyResponse.modelValidate, except_bind_ok, orRaise_ok] at hvalidate
  obtain ⟨_, -, _, -, _, -, _, -, value, hvalue, text, htext, outcome, houtcome, _, -, _, -, _, -,
    _, -, _, -, _, -, _, -, _, -, _, -, _, -, _, -, _, -, hresponse⟩ := hvalidate
  split at hresponse
  · cases hresponse
    rw [hvalue, asStr_ok htext, text_of_ofText? houtcome]
  · cases hresponse

theorem outcome_of_restore {command : WriteCommand} {stored : Payload}
    {response : WriteSafetyResponse}
    (hrestore : restorePersistedResponse command (some stored) = .ok response) :
    dictGet stored "outcome" = some (.str response.outcome.text) := by
  unfold restorePersistedResponse at hrestore
  split at hrestore
  · exact outcome_of_modelValidate hrestore
  · simp only [except_bind_ok, orRaise_ok, Option.some.injEq] at hrestore
    obtain ⟨_, rfl, hvalidate⟩ := hrestore
    have houtcome : (dictGet stored "outcome").getD .none = .str response.outcome.text :=
      Option.some.inj (outcome_of_modelValidate hvalidate)
    cases hstored : dictGet stored "outcome" with
    | none => simp [hstored] at houtcome
    | some value => rw [← houtcome, hstored, Option.getD_some]

theorem answer_append_iff {environment : Environment} {event : AuditEvent} {store : Store} :
    (∃ row, (environment.answer sha256 (.append event) store).1 = .ok row) ↔
      AuditAccepts sha256 environment event store := by
  cases happend : environment.append with
  | none =>
      rw [Environment.answer, happend]
      constructor
      · rintro ⟨row, hrow⟩
        cases hrow
      · rintro ⟨-, now, row, log, hnow, -⟩
        rw [happend] at hnow
        cases hnow
  | some now =>
      rw [Environment.answer, happend]
      have hcommits : (∃ row, (AuditRepository.append sha256 now event store).1 = .ok row) ↔
          ∃ row later,
            AuditRepository.appendInTransaction sha256 now event store = .ok (row, later) := by
        unfold AuditRepository.append transaction Effect.Statements.commit
        cases AuditRepository.appendInTransaction sha256 now event store with
        | error error => simp
        | ok reached => simp [Prod.ext_iff]
      rw [hcommits, appendInTransaction_isOk_iff]
      constructor
      · rintro ⟨hcomplete, row, hrow, log, hlog⟩
        exact ⟨hcomplete, now, row, log, happend, hrow, hlog⟩
      · rintro ⟨hcomplete, reading, row, log, hreading, hrow, hlog⟩
        rw [happend] at hreading
        cases hreading
        exact ⟨hcomplete, row, hrow, log, hlog⟩

/-- What is reported after an append: the given response if the audit log took its event, and
otherwise that nothing was attempted. -/
theorem run_appendOrFail {environment : Environment} {call : WriteCall}
    {requestId finalStatus : String} {response : WriteSafetyResponse} {event : AuditEvent}
    (hevent : call.event requestId finalStatus (some response) none [] = .ok event)
    (store : Store) :
    (AuditAccepts sha256 environment event store ∧
      ((call.appendOrFail requestId finalStatus response).runWith (environment.answer sha256)
        store).1 = .ok response) ∨
    (¬ AuditAccepts sha256 environment event store ∧
      ((call.appendOrFail requestId finalStatus response).runWith (environment.answer sha256)
        store).1 = .ok (failure unexpectedPreWriteError response.requestId response.companyId
          .notAttempted none)) := by
  rw [← answer_append_iff]
  simp only [WriteCall.appendOrFail, Program.bind_eq, Program.runWith_bind,
    Program.runWith_ofExcept, hevent, Program.runWith_attempt]
  rw [Environment.runWith_request]
  cases hanswer : (environment.answer sha256 (.append event) store).1 with
  | ok row => exact .inl ⟨⟨row, rfl⟩, rfl⟩
  | error error =>
      obtain ⟨message, rfl⟩ := environment.answer_append event store error hanswer
      exact .inr ⟨by simp, rfl⟩

/-- The stored response can be restored and names an outcome, and the audit log takes the event of
the replay: then, and only then, does a replay report what was stored. -/
def ReportsStored (sha256 : String → String) (environment : Environment) (call : WriteCall)
    (requestId : String) (store : Store) (stored : Payload) : Prop :=
  dictGet stored "outcome" ≠ some (.str "not_attempted") ∧
    ∃ restored event, restorePersistedResponse call.command (some stored) = .ok restored ∧
      call.event requestId "replayed" (some restored) none [] = .ok event ∧
      AuditAccepts sha256 environment event store

/-! ### A posting that is repeated -/

def succeededPosting : IdempotencyRow where
  id := 1
  tenantId := "tenant"
  companyId := 1
  toolName := "validate_invoice"
  idempotencyKey := "post-7"
  requestHash := "\x7b\"company_id\":1,\"payload\":\x7b\"invoice_id\":7\x7d\x7d"
  state := .succeeded
  ownerRequestId := "first"
  responseJson := some (.obj
    [("company_id", .int 1), ("material_effects", .obj [("invoice_id", .int 7)]),
      ("outcome", .str "known"), ("request_id", .str "first"), ("status", .str "succeeded")])
  expiresAt := idempotencyTtl
  createdAt := 0
  updatedAt := 0

def storedPosting : Payload :=
  [("company_id", .int 1), ("material_effects", .dict [(.str "invoice_id", .int 7)]),
    ("outcome", .str "known"), ("request_id", .str "first"), ("status", .str "succeeded")]

def postedStore : Store where
  idempotencyKeys := (IdempotencyKeys.empty.insert? succeededPosting).getD .empty
  auditLog := .empty

theorem posting_replays :
    Replays id ⟨0, 0⟩ validateInvoiceCall "second" postedStore succeededPosting storedPosting where
  definition := by rfl
  submits := by decide
  identity := by rfl
  found := by rfl
  certain := .inl rfl
  unexpired := by decide
  sameRequest := by rfl
  response := by rfl

/-- The database takes the reservation's transaction, and the audit log is as given. -/
def replayEnvironment (append : Option Instant) : Environment where
  begin := some ⟨0, 0⟩
  finish := none
  append := append
  prepare := .error (.exception "not called")
  validateCurrentState := .error (.exception "not called")
  execute := .error (.exception "not called")

/-! ### What a replay reports -/

/-- **What a replay reports.** A call that finds its key recorded as succeeded or unknown reports
the stored outcome exactly when the stored response can be restored and the audit log takes the
event of the replay. Otherwise it reports that nothing was attempted. -/
theorem replay_reports_stored_iff {environment : Environment} {clock : ExecutionJournal.Clock}
    {call : WriteCall} {requestId : String} {store : Store} {row : IdempotencyRow}
    {stored : Payload} (hclock : environment.begin = some clock)
    (hreplays : Replays sha256 clock call requestId store row stored) :
    ∃ response, (environment.run sha256 call requestId store).1 = .ok response ∧
      ((response.outcome ≠ .notAttempted ∧ (response.outcome = .unknown ∨
          dictGet stored "outcome" = some (.str response.outcome.text))) ↔
        ReportsStored sha256 environment call requestId store stored) := by
  rw [run_of_replays hclock hreplays]
  unfold WriteCall.replay
  cases hrestore : restorePersistedResponse call.command (some stored) with
  | error error =>
      refine ⟨_, rfl, ?_⟩
      simp [ReportsStored, hrestore, WriteCall.failed, failure]
  | ok restored =>
      have hstorable := storable_of_restore hrestore (dumps_of_existingResponse hreplays.response)
      have houtcome := outcome_of_restore hrestore
      obtain ⟨event, hevent⟩ :
          ∃ event, call.event requestId "replayed" (some restored) none [] = .ok event :=
        replayed_event hstorable
      have hreports : ReportsStored sha256 environment call requestId store stored ↔
          restored.outcome ≠ .notAttempted ∧ AuditAccepts sha256 environment event store := by
        unfold ReportsStored
        rw [houtcome]
        constructor
        · rintro ⟨hnamed, found, built, hfound, hbuilt, haccepts⟩
          rw [hrestore] at hfound
          cases hfound
          rw [hevent] at hbuilt
          cases hbuilt
          exact ⟨fun hnot => hnamed (by rw [hnot]; rfl), haccepts⟩
        · rintro ⟨hnot, haccepts⟩
          refine ⟨fun hnamed => hnot ?_, restored, event, hrestore, hevent, haccepts⟩
          cases hrestored : restored.outcome <;> simp_all [WriteOutcome.text]
      rw [hreports]
      rcases run_appendOrFail hevent store with ⟨haccepts, hrun⟩ | ⟨hrefuses, hrun⟩
      · exact ⟨restored, hrun, by simp [haccepts, houtcome]⟩
      · exact ⟨_, hrun, by simp [hrefuses, failure]⟩

theorem replay_reports_stored_iff_posting :
    Replays id ⟨0, 0⟩ validateInvoiceCall "second" postedStore succeededPosting storedPosting ∧
      ∃ response, ((replayEnvironment (some 0)).run id validateInvoiceCall "second" postedStore).1 =
          .ok response ∧
        ((response.outcome ≠ .notAttempted ∧ (response.outcome = .unknown ∨
            dictGet storedPosting "outcome" = some (.str response.outcome.text))) ↔
          ReportsStored id (replayEnvironment (some 0)) validateInvoiceCall "second" postedStore
            storedPosting) :=
  ⟨posting_replays, replay_reports_stored_iff rfl posting_replays⟩

/-- The invoice was posted, and the repeated request is told that it was not: the database was not
available for the audit event. -/
theorem replay_denies_posting :
    Replays id ⟨0, 0⟩ validateInvoiceCall "second" postedStore succeededPosting storedPosting ∧
      ∃ response, ((replayEnvironment none).run id validateInvoiceCall "second" postedStore).1 =
          .ok response ∧
        response.outcome = .notAttempted := by
  refine ⟨posting_replays, ?_⟩
  have hclock : (replayEnvironment none).begin = some ⟨0, 0⟩ := rfl
  rw [run_of_replays hclock posting_replays]
  exact ⟨_, rfl, rfl⟩

end OdooMcp
