import OdooMcp.Storage.Audit
import OdooMcp.Storage.Idempotency

/-!
# The execution journal

Idempotency state and its audit event are committed in one transaction, at the start of a write and
at its end.
-/

namespace OdooMcp

open Effect

variable (sha256 : String → String)

namespace ExecutionJournal

open IdempotencyRepository AuditRepository

/-- The clock readings of one journal transaction: by the repository, and by the audit chain. -/
structure Clock where
  repository : Instant
  audit : Instant

def beginInTransaction (clock : Clock) (event : AuditEvent) (companyId : Int)
    (idempotencyKey : String) (requestPayload : Payload) : Transaction IdempotencyDecision := do
  let decision ← reserveInTransaction sha256 clock.repository companyId
    (event.idempotencyKey idempotencyKey) requestPayload event.requestId
  if decision.disposition = .reserved then
    let _ ← appendInTransaction sha256 clock.audit event
    return decision
  else
    return decision

def begin (clock : Clock) (event : AuditEvent) (idempotencyKey : String) (requestPayload : Payload)
    (store : Store) : Except PyException IdempotencyDecision × Store :=
  match event.companyId with
  | none => (.error (valueError "A write attempt requires company_id"), store)
  | some companyId =>
      transaction (beginInTransaction sha256 clock event companyId idempotencyKey requestPayload)
        store

def finishInTransaction (clock : Clock) (event : AuditEvent) (companyId : Int)
    (idempotencyKey : String) (state : IdempotencyState) (response : Option Payload) :
    Transaction Unit := do
  IdempotencyRepository.finishInTransaction clock.repository companyId
    (event.idempotencyKey idempotencyKey) event.requestId state response
  let _ ← appendInTransaction sha256 clock.audit event
  return ()

def finish (clock : Clock) (event : AuditEvent) (idempotencyKey : String)
    (state : IdempotencyState) (response : Option Payload) (store : Store) :
    Except PyException Unit × Store :=
  match event.companyId with
  | none => (.error (valueError "A write outcome requires company_id"), store)
  | some companyId =>
      transaction (finishInTransaction sha256 clock event companyId idempotencyKey state response)
        store

/-! ### What a journal step does -/

variable {sha256} {clock : Clock} {event : AuditEvent} {idempotencyKey : String}
  {requestPayload : Payload} {state : IdempotencyState} {response : Option Payload}
  {store later : Store}

/-- The audit log gained exactly one row, for this event. -/
def Logged (event : AuditEvent) (store later : Store) : Prop :=
  ∃ row, later.auditLog.rows = store.auditLog.rows ++ [row] ∧
    row.requestId = event.requestId ∧ row.finalStatus = event.finalStatus

theorem begin_error {error : PyException}
    (hbegin : begin sha256 clock event idempotencyKey requestPayload store =
      (.error error, later)) : later = store := by
  unfold begin at hbegin
  split at hbegin
  · cases hbegin
    rfl
  · exact transaction_error hbegin

theorem finish_error {error : PyException}
    (hfinish : finish sha256 clock event idempotencyKey state response store =
      (.error error, later)) : later = store := by
  unfold finish at hfinish
  split at hfinish
  · cases hfinish
    rfl
  · exact transaction_error hfinish

/-- A reservation and its event are committed together; any other decision changes nothing. -/
theorem begin_ok {decision : IdempotencyDecision}
    (hbegin : begin sha256 clock event idempotencyKey requestPayload store =
      (.ok decision, later)) :
    (decision.disposition = .reserved ∧ Logged event store later ∧
      (∀ row, store.idempotencyKeys.find (event.idempotencyKey idempotencyKey) = some row →
        isExpired clock.repository row = true) ∧
      ∃ companyId row, event.companyId = some companyId ∧
        IsReservation companyId (event.idempotencyKey idempotencyKey) event.requestId row ∧
        row.id = store.idempotencyKeys.nextId ∧
        later.idempotencyKeys.find = Function.update store.idempotencyKeys.find
          (event.idempotencyKey idempotencyKey) (some row)) ∨
    (decision.disposition ≠ .reserved ∧ later = store ∧
      ∃ row, store.idempotencyKeys.find (event.idempotencyKey idempotencyKey) = some row ∧
        isExpired clock.repository row = false ∧ existingResponse row = .ok decision.response ∧
        decision.disposition = if row.state = .inProgress then .inProgress else .replay) := by
  unfold begin at hbegin
  split at hbegin
  · cases hbegin
  · rename_i companyId hcompany
    have hbody := transaction_ok hbegin
    simp only [beginInTransaction, Statements.bind_ok] at hbody
    obtain ⟨reserved, middle, hreserve, hbody⟩ := hbody
    rcases reserveInTransaction_ok hreserve with
      ⟨hdisposition, hlog, hexpired, row, hrow, hid, hfind⟩ | ⟨hdisposition, rfl, row, hrest⟩
    · rw [if_pos hdisposition] at hbody
      simp only [Statements.bind_ok, Statements.pure_ok] at hbody
      obtain ⟨stored, _, happend, rfl, rfl⟩ := hbody
      obtain ⟨hkeys, hrows, hrequest, hstatus⟩ := appendInTransaction_ok happend
      refine .inl ⟨hdisposition, ⟨stored, by rw [hrows, hlog], hrequest, hstatus⟩, hexpired,
        companyId, row, hcompany, hrow, hid, by rw [hkeys, hfind]⟩
    · rw [if_neg hdisposition, Statements.pure_ok] at hbody
      obtain ⟨rfl, rfl⟩ := hbody
      exact .inr ⟨hdisposition, rfl, row, hrest⟩

theorem begin_found {companyId : Int} {row : IdempotencyRow} {stored : Option Payload}
    (hcompany : event.companyId = some companyId)
    (hidentity : requiredIdentity companyId (event.idempotencyKey idempotencyKey) event.requestId =
      .ok ())
    (hhash : requestHash sha256 companyId requestPayload = .ok row.requestHash)
    (hrow : store.idempotencyKeys.find (event.idempotencyKey idempotencyKey) = some row)
    (hresponse : existingResponse row = .ok stored)
    (hexpired : isExpired clock.repository row = false) :
    begin sha256 clock event idempotencyKey requestPayload store = (.ok
      { disposition := if row.state = .inProgress then .inProgress else .replay
        state := row.state
        ownerRequestId := row.ownerRequestId
        response := stored
        expiresAt := row.expiresAt }, store) := by
  have hbody : beginInTransaction sha256 clock event companyId idempotencyKey requestPayload store =
      .ok (⟨if row.state = .inProgress then .inProgress else .replay, row.state,
        row.ownerRequestId, stored, row.expiresAt⟩, store) := by
    rw [beginInTransaction, Statements.bind_ok]
    refine ⟨_, store, reserveInTransaction_found hidentity hhash hrow hresponse hexpired, ?_⟩
    split <;> rfl
  rw [begin, hcompany]
  exact Statements.commit_ok.mpr hbody

/-- An outcome and its event are committed together, on the caller's own open reservation. -/
theorem finish_ok
    (hfinish : finish sha256 clock event idempotencyKey state response store = (.ok (), later)) :
    state ≠ .inProgress ∧ Logged event store later ∧
      ∃ row json, store.idempotencyKeys.find (event.idempotencyKey idempotencyKey) = some row ∧
        row.ownerRequestId = event.requestId ∧ row.state = .inProgress ∧
        later.idempotencyKeys.find = Function.update store.idempotencyKeys.find
          (event.idempotencyKey idempotencyKey)
          (some (IdempotencyKeys.setOutcome state json clock.repository row)) := by
  unfold finish at hfinish
  split at hfinish
  · cases hfinish
  · have hbody := transaction_ok hfinish
    simp only [finishInTransaction, Statements.bind_ok, Statements.pure_ok] at hbody
    obtain ⟨_, middle, houtcome, stored, _, happend, -, rfl⟩ := hbody
    obtain ⟨hfinal, hlog, row, json, hfind, howner, hstate, hlater⟩ :=
      finishInTransaction_ok houtcome
    obtain ⟨hkeys, hrows, hrequest, hstatus⟩ := appendInTransaction_ok happend
    exact ⟨hfinal, ⟨stored, by rw [hrows, hlog], hrequest, hstatus⟩, row, json, hfind, howner,
      hstate, by rw [hkeys, hlater]⟩

end ExecutionJournal

end OdooMcp
