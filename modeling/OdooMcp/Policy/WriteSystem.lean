import OdooMcp.Effect.Interleaving
import OdooMcp.Policy.Phases
import OdooMcp.Storage.Execution

/-!
# Interleaved write calls over one store

Calls are named by their request ids, so that request ids are distinct by construction. Every
storage transaction is one atomic step, which reads the clock as it likes and may also fail as a
whole; a callback may answer anything and leaves the store alone.

The invariant ties three things together for every request id: the phase its call is in, the
idempotency row it owns, and the events the audit chain holds for it.
-/

namespace OdooMcp

open Effect

variable (sha256 : String → String)

/-- An exception of the database itself: nothing of the transaction was committed. -/
def Unavailable {α : Type} (answer : Except PyException α) : Prop :=
  ∃ message, answer = .error (.exception message)

/-- One step of the journal, the audit log or a callback. -/
def Performs : (request : WriteRequest) → Store →
    Except PyException (writeSignature.Result request) → Store → Prop
  | .begin event idempotencyKey requestPayload, store, answer, later =>
      (∃ clock, ExecutionJournal.begin sha256 clock event idempotencyKey requestPayload store =
        (answer, later)) ∨ (Unavailable answer ∧ later = store)
  | .finish event idempotencyKey state response, store, answer, later =>
      (∃ clock, ExecutionJournal.finish sha256 clock event idempotencyKey state response store =
        (answer, later)) ∨ (Unavailable answer ∧ later = store)
  | .append event, store, answer, later =>
      (∃ now, AuditRepository.append sha256 now event store = (answer, later)) ∨
        (Unavailable answer ∧ later = store)
  | .prepare, store, _, later => later = store
  | .validateCurrentState, store, _, later => later = store
  | .execute, store, _, later => later = store

abbrev writeMachine : Machine writeSignature String PyException WriteSafetyResponse where
  Call := WriteCall
  World := Store
  initial store := store = .empty
  program id call := call.run id
  perform := Performs sha256

abbrev writeDiscipline : (writeMachine sha256).Discipline Phase where
  protocol id call := WriteCall.protocol call id
  opening _ call := WriteCall.opening call
  post _ _ := Ends
  follows id call := writeProtocol_follows call id

variable {sha256}

/-! ### What a step does to the store -/

def statuses (store : Store) (requestId : String) : List String :=
  (store.auditLog.rows.filter fun row => row.requestId = requestId).map (·.finalStatus)

theorem statuses_logged {event : AuditEvent} {store later : Store}
    (hlogged : ExecutionJournal.Logged event store later) (requestId : String) :
    statuses later requestId = statuses store requestId ++
      if event.requestId = requestId then [event.finalStatus] else [] := by
  obtain ⟨row, hrows, hrequest, hstatus⟩ := hlogged
  by_cases hid : event.requestId = requestId <;>
    simp [statuses, hrows, List.filter_append, hrequest, hstatus, hid]

theorem append_logged {now : Instant} {event : AuditEvent} {store later : Store} {row : AuditRow}
    (happend : AuditRepository.append sha256 now event store = (.ok row, later)) :
    later.idempotencyKeys = store.idempotencyKeys ∧
      ExecutionJournal.Logged event store later := by
  obtain ⟨hkeys, hrows, hrequest, hstatus⟩ := appendInTransaction_ok (transaction_ok happend)
  exact ⟨hkeys, row, hrows, hrequest, hstatus⟩

/-- A step that raises leaves the whole store as it was. -/
theorem performs_error {request : WriteRequest} {store later : Store} {error : PyException}
    (hperforms : Performs sha256 request store (.error error) later) : later = store := by
  cases request with
  | begin event idempotencyKey requestPayload =>
      rcases hperforms with ⟨clock, hbegin⟩ | ⟨-, hlater⟩
      · exact ExecutionJournal.begin_error hbegin
      · exact hlater
  | finish event idempotencyKey state response =>
      rcases hperforms with ⟨clock, hfinish⟩ | ⟨-, hlater⟩
      · exact ExecutionJournal.finish_error hfinish
      · exact hlater
  | append event =>
      rcases hperforms with ⟨now, happend⟩ | ⟨-, hlater⟩
      · exact transaction_error happend
      · exact hlater
  | prepare => exact hperforms
  | validateCurrentState => exact hperforms
  | execute => exact hperforms

/-! ### The invariant -/

/-- The row of a call that reserved, by the phase the call is in. -/
def RowOf : Phase → IdempotencyRow → Prop
  | .owner, row => row.state = .inProgress ∧ row.responseJson = none
  | .executed _, row => row.state = .inProgress ∧ row.responseJson = none
  | .settled _ _ false, row => row.state = .inProgress ∧ row.responseJson = none
  | .settled _ state true, row =>
      row.state = state ∧ state ≠ .inProgress ∧ row.responseJson.isSome = true
  | _, _ => False

/-- The phases in which the row of the call cannot have been deleted. -/
def KeepsRow : Phase → Prop
  | .owner => True
  | .executed _ => True
  | .settled _ _ false => True
  | .settled _ .unknown true => True
  | _ => False

/-- The status with which a final state is recorded. -/
def FinalStatus : IdempotencyState → String → Prop
  | .succeeded, finalStatus => finalStatus = "succeeded"
  | .failed, finalStatus => finalStatus = "failed" ∨ finalStatus = "needs_input"
  | .unknown, finalStatus => finalStatus = "unknown"
  | .inProgress, _ => False

def EventsOf : Option Phase → List String → Prop
  | none, recorded => recorded = []
  | some .submitting, recorded => recorded = []
  | some .owner, recorded => recorded = ["attempted"]
  | some (.executed _), recorded => recorded = ["attempted"]
  | some (.settled _ _ false), recorded => recorded = ["attempted"]
  | some (.settled _ state true), recorded =>
      ∃ finalStatus, recorded = ["attempted", finalStatus] ∧ FinalStatus state finalStatus
  | _, _ => True

structure JournalInvariant (store : Store) (phases : String → Option (WriteCall × Phase)) :
    Prop where
  rows : ∀ key row, store.idempotencyKeys.find key = some row →
    ∃ call phase, phases row.ownerRequestId = some (call, phase) ∧ call.journalKey = key ∧
      RowOf phase row
  keeps : ∀ id call phase, phases id = some (call, phase) → KeepsRow phase →
    ∃ row, store.idempotencyKeys.find call.journalKey = some row ∧ row.ownerRequestId = id
  events : ∀ id, EventsOf ((phases id).map Prod.snd) (statuses store id)

namespace JournalInvariant

variable {store later : Store} {phases : String → Option (WriteCall × Phase)} {id : String}
  {call : WriteCall} {phase reached : Phase}

theorem empty : JournalInvariant .empty fun _ => none where
  rows := by
    intro key row hfind
    rw [Store.empty, IdempotencyKeys.find_empty] at hfind
    cases hfind
  keeps := by
    intro id call phase hphase
    cases hphase
  events := by
    intro id
    rfl

theorem start (hinvariant : JournalInvariant store phases) (habsent : phases id = none) :
    JournalInvariant store (Function.update phases id (some (call, call.opening))) where
  rows := by
    intro key row hfind
    obtain ⟨owner, phase, howner, hrest⟩ := hinvariant.rows key row hfind
    have hne : row.ownerRequestId ≠ id := by
      intro heq
      rw [heq, habsent] at howner
      cases howner
    exact ⟨owner, phase, by rwa [Function.update_of_ne hne], hrest⟩
  keeps := by
    intro other owner phase hphase hkeeps
    by_cases hid : other = id
    · subst hid
      rw [Function.update_self] at hphase
      cases hphase
      unfold WriteCall.opening at hkeeps
      split at hkeeps <;> cases hkeeps
    · rw [Function.update_of_ne hid] at hphase
      exact hinvariant.keeps other owner phase hphase hkeeps
  events := by
    intro other
    by_cases hid : other = id
    · subst hid
      have hnone := hinvariant.events other
      rw [habsent] at hnone
      rw [Function.update_self]
      simp only [Option.map_some, WriteCall.opening]
      split
      · exact hnone
      · trivial
    · rw [Function.update_of_ne hid]
      exact hinvariant.events other

/-- A step that leaves the store alone: the new phase asks for no more than the old one. -/
theorem quiet (hinvariant : JournalInvariant store phases) (hphase : phases id = some (call, phase))
    (hrow : ∀ row, RowOf phase row → RowOf reached row) (hkeeps : KeepsRow reached → KeepsRow phase)
    (hevents : ∀ recorded, EventsOf (some phase) recorded → EventsOf (some reached) recorded) :
    JournalInvariant store (Function.update phases id (some (call, reached))) where
  rows := by
    intro key row hfind
    obtain ⟨owner, held, howner, hkey, hheld⟩ := hinvariant.rows key row hfind
    by_cases hid : row.ownerRequestId = id
    · rw [hid, hphase] at howner
      cases howner
      exact ⟨call, reached, by rw [hid, Function.update_self], hkey, hrow row hheld⟩
    · exact ⟨owner, held, by rwa [Function.update_of_ne hid], hkey, hheld⟩
  keeps := by
    intro other owner held hheld hkeeper
    by_cases hid : other = id
    · subst hid
      rw [Function.update_self] at hheld
      cases hheld
      exact hinvariant.keeps other call phase hphase (hkeeps hkeeper)
    · rw [Function.update_of_ne hid] at hheld
      exact hinvariant.keeps other owner held hheld hkeeper
  events := by
    intro other
    by_cases hid : other = id
    · subst hid
      have hrecorded := hinvariant.events other
      rw [hphase] at hrecorded
      rw [Function.update_self]
      exact hevents _ hrecorded
    · rw [Function.update_of_ne hid]
      exact hinvariant.events other

/-- An event of a call that owns nothing is appended. -/
theorem logged (hinvariant : JournalInvariant store phases)
    (hphase : phases id = some (call, phase))
    (howns : phase = .declined ∨ phase = .refused)
    (hkeys : later.idempotencyKeys = store.idempotencyKeys) {event : AuditEvent}
    (hevent : event.requestId = id) (hlogged : ExecutionJournal.Logged event store later) :
    JournalInvariant later (Function.update phases id (some (call, phase))) where
  rows := by
    rw [hkeys, ← hphase, Function.update_eq_self]
    exact hinvariant.rows
  keeps := by
    rw [hkeys, ← hphase, Function.update_eq_self]
    exact hinvariant.keeps
  events := by
    intro other
    rw [← hphase, Function.update_eq_self, statuses_logged hlogged]
    by_cases hid : event.requestId = other
    · rw [← hid, hevent, hphase]
      rcases howns with rfl | rfl <;> trivial
    · rw [if_neg hid, List.append_nil]
      exact hinvariant.events other

theorem state_of_keepsRow {row : IdempotencyRow} (hrow : RowOf phase row)
    (hkeeps : KeepsRow phase) : row.state = .inProgress ∨ row.state = .unknown := by
  cases phase with
  | owner => exact .inl hrow.1
  | executed answer => exact .inl hrow.1
  | settled executed state committed =>
      cases committed with
      | false => exact .inl hrow.1
      | true => cases state <;> first | exact .inr hrow.1 | cases hkeeps
  | declined => cases hkeeps
  | submitting => cases hkeeps
  | refused => cases hkeeps

/-- Deleting an expired row takes none away from a call that still needs it. -/
theorem not_expired_of_keepsRow {row : IdempotencyRow} {now : Instant} (hrow : RowOf phase row)
    (hkeeps : KeepsRow phase) : IdempotencyRepository.isExpired now row = false := by
  rcases state_of_keepsRow hrow hkeeps with hstate | hstate <;>
    simp [IdempotencyRepository.isExpired, hstate]

/-- The call reserves its key: a fresh row takes the place of none, or of one that may go. -/
theorem reserve (hinvariant : JournalInvariant store phases)
    (hphase : phases id = some (call, .submitting)) {event : AuditEvent} {row : IdempotencyRow}
    {companyId : Int} {now : Instant} (hevent : event.requestId = id)
    (hattempted : event.finalStatus = "attempted")
    (hlogged : ExecutionJournal.Logged event store later)
    (hexpired : ∀ old, store.idempotencyKeys.find call.journalKey = some old →
      IdempotencyRepository.isExpired now old = true)
    (hrow : IdempotencyRepository.IsReservation companyId call.journalKey id row)
    (hfind : later.idempotencyKeys.find =
      Function.update store.idempotencyKeys.find call.journalKey (some row)) :
    JournalInvariant later (Function.update phases id (some (call, .owner))) where
  rows := by
    intro key found hfound
    rw [hfind] at hfound
    by_cases hkey : key = call.journalKey
    · rw [hkey, Function.update_self] at hfound
      cases hfound
      exact ⟨call, .owner, by rw [hrow.owner, Function.update_self], hkey.symm, hrow.state,
        hrow.response⟩
    · rw [Function.update_of_ne hkey] at hfound
      obtain ⟨owner, held, howner, hrest⟩ := hinvariant.rows key found hfound
      have hne : found.ownerRequestId ≠ id := by
        intro heq
        rw [heq, hphase] at howner
        cases howner
        exact hrest.2
      exact ⟨owner, held, by rwa [Function.update_of_ne hne], hrest⟩
  keeps := by
    intro other owner held hheld hkeeps
    rw [hfind]
    by_cases hid : other = id
    · subst hid
      rw [Function.update_self] at hheld
      cases hheld
      exact ⟨row, Function.update_self .., hrow.owner⟩
    · rw [Function.update_of_ne hid] at hheld
      obtain ⟨old, hold, howner⟩ := hinvariant.keeps other owner held hheld hkeeps
      have hne : owner.journalKey ≠ call.journalKey := by
        intro hkey
        obtain ⟨_, _, hsame, -, hheldRow⟩ := hinvariant.rows _ old hold
        rw [howner, hheld] at hsame
        cases hsame
        have hgone := hexpired old (hkey ▸ hold)
        rw [not_expired_of_keepsRow hheldRow hkeeps] at hgone
        cases hgone
      exact ⟨old, by rwa [Function.update_of_ne hne], howner⟩
  events := by
    intro other
    rw [statuses_logged hlogged]
    by_cases hid : other = id
    · subst hid
      have hnone : statuses store other = [] := by
        have hrecorded := hinvariant.events other
        rwa [hphase] at hrecorded
      rw [Function.update_self, if_pos hevent, hnone, hattempted]
      rfl
    · rw [Function.update_of_ne hid, if_neg (by rw [hevent]; exact fun h => hid h.symm),
        List.append_nil]
      exact hinvariant.events other

/-- The owner's outcome is committed. -/
theorem finish (hinvariant : JournalInvariant store phases)
    (hphase : phases id = some (call, phase))
    {event : AuditEvent} {row : IdempotencyRow} {state : IdempotencyState} {json : Json}
    {now : Instant} {executed : Option (Except PyException ExecuteReturn)}
    (hattempted : ∀ recorded, EventsOf (some phase) recorded → recorded = ["attempted"])
    (hevent : event.requestId = id) (hstatus : FinalStatus state event.finalStatus)
    (hfinal : state ≠ .inProgress) (hlogged : ExecutionJournal.Logged event store later)
    (hrow : store.idempotencyKeys.find call.journalKey = some row)
    (howner : row.ownerRequestId = id)
    (hfind : later.idempotencyKeys.find = Function.update store.idempotencyKeys.find
      call.journalKey (some (IdempotencyKeys.setOutcome state json now row))) :
    JournalInvariant later
      (Function.update phases id (some (call, .settled executed state true))) where
  rows := by
    intro key found hfound
    rw [hfind] at hfound
    by_cases hkey : key = call.journalKey
    · rw [hkey, Function.update_self] at hfound
      cases hfound
      refine ⟨call, .settled executed state true, ?_, hkey.symm, rfl, hfinal, rfl⟩
      change Function.update _ _ _ row.ownerRequestId = _
      rw [howner, Function.update_self]
    · rw [Function.update_of_ne hkey] at hfound
      obtain ⟨owner, held, hheld, hjournal, hrest⟩ := hinvariant.rows key found hfound
      have hne : found.ownerRequestId ≠ id := by
        intro heq
        rw [heq, hphase] at hheld
        cases hheld
        exact hkey hjournal.symm
      exact ⟨owner, held, by rwa [Function.update_of_ne hne], hjournal, hrest⟩
  keeps := by
    intro other owner held hheld hkeeps
    rw [hfind]
    by_cases hid : other = id
    · subst hid
      rw [Function.update_self] at hheld
      cases hheld
      exact ⟨_, Function.update_self .., howner⟩
    · rw [Function.update_of_ne hid] at hheld
      obtain ⟨old, hold, holdOwner⟩ := hinvariant.keeps other owner held hheld hkeeps
      have hne : owner.journalKey ≠ call.journalKey := by
        intro hkey
        rw [hkey, hrow] at hold
        cases hold
        exact hid (holdOwner.symm.trans howner)
      exact ⟨old, by rwa [Function.update_of_ne hne], holdOwner⟩
  events := by
    intro other
    rw [statuses_logged hlogged]
    by_cases hid : other = id
    · subst hid
      have hrecorded := hinvariant.events other
      rw [hphase] at hrecorded
      rw [Function.update_self, if_pos hevent, hattempted _ hrecorded]
      exact ⟨event.finalStatus, rfl, hstatus⟩
    · rw [Function.update_of_ne hid, if_neg (by rw [hevent]; exact fun h => hid h.symm),
        List.append_nil]
      exact hinvariant.events other

theorem finalStatus_settlement (executed : Except PyException ExecuteReturn) :
    FinalStatus (settlement executed).1 (settlement executed).2 := by
  rcases executed with error | returned
  · cases error <;> first | rfl | exact .inl rfl
  · cases hvalid : returned.valid <;> simp [settlement, hvalid, FinalStatus]

/-- A step of the journal that reserves or records, by the answer it gave. -/
theorem answer_begin (hinvariant : JournalInvariant store phases)
    (hphase : phases id = some (call, .submitting)) {event : AuditEvent} {idempotencyKey : String}
    {requestPayload : Payload} {answered : Except PyException IdempotencyDecision}
    (hentry : call.OwnEntry id event idempotencyKey "attempted")
    (hperforms : Performs sha256 (.begin event idempotencyKey requestPayload) store answered
      later) :
    JournalInvariant later (Function.update phases id (some (call,
      WriteCall.next .submitting (.begin event idempotencyKey requestPayload) answered))) := by
  obtain ⟨hrequest, hkey, hattempted⟩ := hentry
  have hrefused : JournalInvariant store
      (Function.update phases id (some (call, .refused))) :=
    hinvariant.quiet hphase (fun _ hrow => hrow) (fun hkeeps => hkeeps) fun _ _ => trivial
  cases answered with
  | error error =>
      rw [performs_error hperforms]
      exact hrefused
  | ok decision =>
      rcases hperforms with ⟨clock, hbegin⟩ | ⟨⟨message, hmessage⟩, -⟩
      · rcases ExecutionJournal.begin_ok hbegin with
          ⟨hdisposition, hlogged, hexpired, companyId, row, -, hrow, -, hfind⟩ |
          ⟨hdisposition, rfl, -⟩
        · rw [hkey] at hexpired hrow hfind
          rw [hrequest] at hrow
          simp only [WriteCall.next, if_pos hdisposition]
          exact hinvariant.reserve hphase hrequest hattempted hlogged hexpired hrow hfind
        · simp only [WriteCall.next, if_neg hdisposition]
          exact hrefused
      · cases hmessage

theorem answer_finish (hinvariant : JournalInvariant store phases)
    (hphase : phases id = some (call, phase)) {event : AuditEvent} {idempotencyKey : String}
    {state : IdempotencyState} {response : Option Payload} {answered : Except PyException Unit}
    {executed : Option (Except PyException ExecuteReturn)} {finalStatus : String}
    (hrow : ∀ row, RowOf phase row → RowOf (.settled executed state false) row)
    (hkeeps : KeepsRow phase)
    (hattempted : ∀ recorded, EventsOf (some phase) recorded → recorded = ["attempted"])
    (hentry : call.OwnEntry id event idempotencyKey finalStatus)
    (hstatus : FinalStatus state finalStatus)
    (hperforms : Performs sha256 (.finish event idempotencyKey state response) store answered
      later) :
    JournalInvariant later (Function.update phases id (some (call,
      .settled executed state answered.isOk))) := by
  obtain ⟨hrequest, hkey, hfinalStatus⟩ := hentry
  cases answered with
  | error error =>
      rw [performs_error hperforms]
      exact hinvariant.quiet hphase hrow (fun _ => hkeeps) hattempted
  | ok value =>
      rcases hperforms with ⟨clock, hfinish⟩ | ⟨⟨message, hmessage⟩, -⟩
      · obtain ⟨hfinal, hlogged, found, json, hfound, howner, -, hfind⟩ :=
          ExecutionJournal.finish_ok hfinish
        rw [hkey] at hfound hfind
        rw [hrequest] at howner
        exact hinvariant.finish hphase hattempted hrequest (hfinalStatus ▸ hstatus) hfinal hlogged
          hfound howner hfind
      · cases hmessage

/-- Every allowed step preserves the invariant. -/
theorem answer (hinvariant : JournalInvariant store phases)
    (hphase : phases id = some (call, phase))
    {request : WriteRequest} {answered : Except PyException (writeSignature.Result request)}
    (hallows : call.allows id phase request)
    (hperforms : Performs sha256 request store answered later) :
    JournalInvariant later
      (Function.update phases id (some (call, WriteCall.next phase request answered))) := by
  have hunchanged (hnext : WriteCall.next phase request answered = phase) (hlater : later = store) :
      JournalInvariant later
        (Function.update phases id (some (call, WriteCall.next phase request answered))) := by
    rw [hnext, hlater, ← hphase, Function.update_eq_self]
    exact hinvariant
  cases request with
  | prepare => exact hunchanged (by cases phase <;> rfl) hperforms
  | validateCurrentState => exact hunchanged (by cases phase <;> rfl) hperforms
  | execute =>
      cases allows_execute hallows
      cases hperforms
      exact hinvariant.quiet hphase (fun _ hrow => hrow) (fun _ => trivial) fun _ hrecorded =>
        hrecorded
  | append event =>
      obtain ⟨howns, hevent⟩ := allows_append hallows
      have hnext : WriteCall.next phase (.append event) answered = phase := by
        cases phase <;> rfl
      cases answered with
      | error error => exact hunchanged hnext (performs_error hperforms)
      | ok row =>
          rcases hperforms with ⟨now, happend⟩ | ⟨⟨message, hmessage⟩, -⟩
          · obtain ⟨hkeys, hlogged⟩ := append_logged happend
            rw [hnext]
            exact hinvariant.logged hphase howns hkeys hevent hlogged
          · cases hmessage
  | begin event idempotencyKey requestPayload =>
      obtain ⟨rfl, hentry⟩ := allows_begin hallows
      exact hinvariant.answer_begin hphase hentry hperforms
  | finish event idempotencyKey state response =>
      rcases allows_finish hallows with ⟨rfl, rfl, hentry⟩ | ⟨executed, rfl, rfl, hentry⟩
      · have hsettled (finalStatus : String)
            (hown : call.OwnEntry id event idempotencyKey finalStatus)
            (hstatus : FinalStatus .failed finalStatus) :
            JournalInvariant later (Function.update phases id
              (some (call, .settled none .failed answered.isOk))) :=
          hinvariant.answer_finish hphase (fun _ hrow => hrow) trivial
            (fun _ hrecorded => hrecorded) hown hstatus hperforms
        rcases hentry with hown | hown
        · exact hsettled _ hown (.inl rfl)
        · exact hsettled _ hown (.inr rfl)
      · exact hinvariant.answer_finish hphase (fun _ hrow => hrow) trivial
          (fun _ hrecorded => hrecorded) hentry (finalStatus_settlement executed) hperforms

end JournalInvariant

/-- **The journal invariant holds in every reachable state.** -/
theorem journalInvariant_of_reachable {state : (writeMachine sha256).State}
    (hreachable : (writeMachine sha256).Reachable state) :
    JournalInvariant state.world ((writeDiscipline sha256).view state) := by
  refine Machine.Reachable.view (writeDiscipline sha256) JournalInvariant ?_ ?_ ?_ hreachable
  · rintro _ rfl
    exact .empty
  · intro store phases id call hinvariant habsent
    exact hinvariant.start habsent
  · intro store later phases id call phase request answered hinvariant hphase hallows hperforms
    exact hinvariant.answer hphase hallows hperforms

/-! ### A first call -/

def submittedOnce : (writeMachine fun text => text).State :=
  (⟨.empty, fun _ => none⟩ : (writeMachine fun text => text).State).set "first"
    ⟨validateInvoiceCall, [], .running (validateInvoiceCall.run "first")⟩

theorem reachable_submittedOnce : (writeMachine fun text => text).Reachable submittedOnce :=
  (writeMachine fun text => text).reachable_start rfl "first" validateInvoiceCall

end OdooMcp
