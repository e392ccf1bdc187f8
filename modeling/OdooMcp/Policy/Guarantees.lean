import OdooMcp.Policy.Replay
import OdooMcp.Policy.Traces

/-!
# Guarantees of the write-safety boundary

What holds of every interleaving of write calls: the callback `execute` runs at most once in the
lifetime of an idempotency row, a response never claims more than was recorded, and the rows agree
with the audit chain.
-/

namespace OdooMcp

open Effect

variable {sha256 : String → String} {first second last : (writeMachine sha256).State}
  {action : (writeMachine sha256).Label}

/-! ### Rows across a step -/

/-- What a step does to the rows: nothing, or a fresh row, or an outcome for a row in progress. -/
def RowsStep (before later : IdempotencyKeys) : Prop :=
  later.find = before.find ∨
  (∃ key row, later.find = Function.update before.find key (some row) ∧ row.id = before.nextId) ∨
  ∃ key row final json now, before.find key = some row ∧
    later.find = Function.update before.find key
      (some (IdempotencyKeys.setOutcome final json now row))

theorem state_of_isExpired {now : Instant} {row : IdempotencyRow}
    (hexpired : IdempotencyRepository.isExpired now row = true) :
    row.state = .succeeded ∨ row.state = .failed := by
  simp only [IdempotencyRepository.isExpired, Bool.and_eq_true, Bool.or_eq_true,
    decide_eq_true_eq] at hexpired
  exact hexpired.2

theorem performs_rows {request : WriteRequest} {store later : Store}
    {answer : Except PyException (writeSignature.Result request)}
    (hperforms : Performs sha256 request store answer later) :
    RowsStep store.idempotencyKeys later.idempotencyKeys := by
  cases answer with
  | error error => exact .inl (by rw [performs_error hperforms])
  | ok value =>
      cases request with
      | begin event idempotencyKey requestPayload =>
          rcases hperforms with ⟨clock, hbegin⟩ | ⟨⟨message, hmessage⟩, -⟩
          · rcases ExecutionJournal.begin_ok hbegin with
              ⟨-, -, -, companyId, fresh, -, -, hfresh, hfind⟩ | ⟨-, rfl, -⟩
            · exact .inr (.inl ⟨_, fresh, hfind, hfresh⟩)
            · exact .inl rfl
          · cases hmessage
      | finish event idempotencyKey final response =>
          rcases hperforms with ⟨clock, hfinish⟩ | ⟨⟨message, hmessage⟩, -⟩
          · obtain ⟨-, -, found, json, hfound, -, -, hfind⟩ := ExecutionJournal.finish_ok hfinish
            exact .inr (.inr ⟨_, found, final, json, _, hfound, hfind⟩)
          · cases hmessage
      | append event =>
          rcases hperforms with ⟨now, happend⟩ | ⟨⟨message, hmessage⟩, -⟩
          · exact .inl (by rw [(append_logged happend).1])
          · cases hmessage
      | prepare => exact .inl (by rw [hperforms])
      | validateCurrentState => exact .inl (by rw [hperforms])
      | execute => exact .inl (by rw [hperforms])

theorem step_rows (hstep : (writeMachine sha256).Step first action second) :
    RowsStep first.world.idempotencyKeys second.world.idempotencyKeys := by
  cases hstep with
  | start id call habsent => exact .inl rfl
  | invoke id request continuation hthread hrunning => exact .inl rfl
  | answer id request continuation answer hthread hwaiting hperform => exact performs_rows hperform
  | stop id hthread => exact .inl rfl

/-- A row that is not replaced keeps its owner. -/
theorem step_owner (hstep : (writeMachine sha256).Step first action second) {key : IdempotencyKey}
    {row kept : IdempotencyRow} (hrow : first.world.idempotencyKeys.find key = some row)
    (hkept : second.world.idempotencyKeys.find key = some kept) (hid : kept.id = row.id) :
    kept.ownerRequestId = row.ownerRequestId := by
  rcases step_rows hstep with hfind | ⟨other, fresh, hfind, hfresh⟩ |
    ⟨other, found, final, json, now, hfound, hfind⟩
  · rw [hfind, hrow] at hkept
    cases hkept
    rfl
  · rw [hfind] at hkept
    by_cases hkey : key = other
    · rw [hkey, Function.update_self] at hkept
      cases hkept
      have hlt := IdempotencyKeys.id_lt_of_find hrow
      omega
    · rw [Function.update_of_ne hkey, hrow] at hkept
      cases hkept
      rfl
  · rw [hfind] at hkept
    by_cases hkey : key = other
    · rw [hkey, Function.update_self] at hkept
      rw [hkey, hfound] at hrow
      cases hkept
      cases hrow
      rfl
    · rw [Function.update_of_ne hkey, hrow] at hkept
      cases hkept
      rfl

/-- A call that may invoke `execute` owns the row of its key, which is still in progress. -/
theorem row_of_owner (hreachable : (writeMachine sha256).Reachable first) {id : String}
    {thread : (writeMachine sha256).Thread} (hthread : first.threads id = some thread)
    (hphase : (writeDiscipline sha256).phase id thread = .owner) :
    ∃ row, first.world.idempotencyKeys.find thread.call.journalKey = some row ∧
      row.ownerRequestId = id ∧ row.state = .inProgress := by
  have hinvariant := journalInvariant_of_reachable hreachable
  have hview : (writeDiscipline sha256).view first id = some (thread.call, .owner) := by
    simp [Machine.Discipline.view, hthread, hphase]
  obtain ⟨row, hrow, howner⟩ := hinvariant.keeps id thread.call .owner hview trivial
  obtain ⟨call, phase, hheld, -, hstate⟩ := hinvariant.rows _ row hrow
  rw [howner, hview] at hheld
  cases hheld
  exact ⟨row, hrow, howner, hstate.1⟩

/-! ### At most one execution -/

/-- The call with this key invokes its `execute` callback. -/
def executesOn (key : IdempotencyKey) : (writeMachine sha256).Label → Bool
  | .invoke _ call .execute => WriteCall.journalKey call = key
  | _ => false

/-- The row of the key, if there is one, was not deleted: the row now found has its id. -/
def KeptRow (key : IdempotencyKey) (before later : (writeMachine sha256).State) : Prop :=
  ∀ row, before.world.idempotencyKeys.find key = some row →
    ∃ kept, later.world.idempotencyKeys.find key = some kept ∧ kept.id = row.id

/-- The owner of the key's row has invoked `execute`. -/
def Started (key : IdempotencyKey) (state : (writeMachine sha256).State) : Prop :=
  ∃ row thread, state.world.idempotencyKeys.find key = some row ∧
    state.threads row.ownerRequestId = some thread ∧ thread.Invoked .execute

/-- What an invocation of `execute` finds: the caller's own row, in progress, and no invocation by
its owner before. -/
theorem invokes_execute (hreachable : (writeMachine sha256).Reachable first)
    (hstep : (writeMachine sha256).Step first action second) {key : IdempotencyKey}
    (hexecutes : executesOn key action = true) :
    (∃ row, first.world.idempotencyKeys.find key = some row ∧ row.ownerRequestId = action.id ∧
      row.state = .inProgress) ∧ ¬ Started key first ∧ Started key second := by
  cases hstep with
  | @invoke thread id request continuation hthread hrunning =>
      cases request with
      | execute =>
          have hkey : thread.call.journalKey = key := by simpa [executesOn] using hexecutes
          have hremaining : thread.status.remaining = some (.ask .execute continuation) := by
            rw [hrunning]
            rfl
          have hphase : (writeDiscipline sha256).phase id thread = .owner :=
            allows_execute (hreachable.allows (writeDiscipline sha256) hthread hremaining)
          obtain ⟨row, hrow, howner, hstate⟩ := row_of_owner hreachable hthread hphase
          rw [hkey] at hrow
          refine ⟨⟨row, hrow, howner, hstate⟩, ?_, row,
            { thread with status := .waiting .execute continuation }, hrow, ?_, .inr rfl⟩
          · rintro ⟨other, started, hother, hstarted, hinvoked⟩
            rw [hrow] at hother
            cases hother
            rw [howner, hthread] at hstarted
            cases hstarted
            rcases phase_of_invoked hreachable hthread hinvoked with
              ⟨-, hpending⟩ | ⟨answer, hexecuted, -⟩ | ⟨answer, committed, hsettled, -⟩
            · rw [hrunning] at hpending
              cases hpending
            · rw [hphase] at hexecuted
              cases hexecuted
            · rw [hphase] at hsettled
              cases hsettled
          · rw [howner]
            exact Function.update_self ..
      | _ => cases hexecutes
  | _ => cases hexecutes

theorem Started.step {key : IdempotencyKey} (hstarted : Started key first)
    (hstep : (writeMachine sha256).Step first action second)
    (hkept : KeptRow key first second) : Started key second := by
  obtain ⟨row, thread, hrow, hthread, hinvoked⟩ := hstarted
  obtain ⟨kept, hkeptRow, hid⟩ := hkept row hrow
  obtain ⟨later, hlater, -, hlaterInvoked⟩ := hstep.invoked hthread hinvoked
  exact ⟨kept, later, hkeptRow, by rwa [step_owner hstep hrow hkeptRow hid], hlaterInvoked⟩

/-- A path on which the key's row is never deleted. -/
abbrev KeptPath (key : IdempotencyKey) :=
  StepPath fun before action later => (writeMachine sha256).Step before action later ∧
    KeptRow key before later

theorem KeptPath.count_eq_zero {key : IdempotencyKey}
    {actions : List (writeMachine sha256).Label} (hpath : KeptPath key first actions last)
    (hreachable : (writeMachine sha256).Reachable first) (hstarted : Started key first) :
    actions.countP (executesOn key) = 0 := by
  induction hpath with
  | nil state => rfl
  | @cons before later final action actions hstep _ ih =>
      have hnot : ¬ executesOn key action = true := fun hexecutes =>
        (invokes_execute hreachable hstep.1 hexecutes).2.1 hstarted
      rw [List.countP_cons_of_neg hnot]
      exact ih (hreachable.step hstep.1) (hstarted.step hstep.1 hstep.2)

theorem KeptPath.count_le_one {key : IdempotencyKey}
    {actions : List (writeMachine sha256).Label} (hpath : KeptPath key first actions last)
    (hreachable : (writeMachine sha256).Reachable first) :
    actions.countP (executesOn key) ≤ 1 := by
  induction hpath with
  | nil state => exact Nat.zero_le 1
  | @cons before later final action actions hstep hrest ih =>
      have hlater := hreachable.step hstep.1
      cases hexecutes : executesOn key action with
      | true =>
          have hstarted := (invokes_execute hreachable hstep.1 hexecutes).2.2
          rw [List.countP_cons_of_pos hexecutes, KeptPath.count_eq_zero hrest hlater hstarted]
      | false =>
          rw [List.countP_cons_of_neg (by simp [hexecutes])]
          exact ih hlater

theorem KeptRow.of_find_eq {key : IdempotencyKey}
    (hfind : second.world.idempotencyKeys.find key = first.world.idempotencyKeys.find key) :
    KeptRow key first second := by
  intro row hrow
  exact ⟨row, by rw [hfind, hrow], rfl⟩

/-- The step reserves a key whose row it finds expired. -/
def ReplacesExpired (sha256 : String → String) (row : IdempotencyRow) (key : IdempotencyKey) :
    (writeMachine sha256).State → (writeMachine sha256).Label → (writeMachine sha256).State → Prop
  | before, .answer _ _ ⟨.begin event idempotencyKey requestPayload, .ok decision⟩, later =>
      ∃ clock, ExecutionJournal.begin sha256 clock event idempotencyKey requestPayload
          before.world = (.ok decision, later.world) ∧
        event.idempotencyKey idempotencyKey = key ∧ decision.disposition = .reserved ∧
        IdempotencyRepository.isExpired clock.repository row = true
  | _, _, _ => False

/-- A row is deleted by a reservation that finds it expired, and by nothing else. -/
theorem replacesExpired_of_deleted (hstep : (writeMachine sha256).Step first action second)
    {key : IdempotencyKey} {row : IdempotencyRow}
    (hrow : first.world.idempotencyKeys.find key = some row)
    (hdeleted : ¬ KeptRow key first second) :
    ReplacesExpired sha256 row key first action second := by
  cases hstep with
  | start id call habsent => exact absurd (KeptRow.of_find_eq rfl) hdeleted
  | invoke id request continuation hthread hrunning =>
      exact absurd (KeptRow.of_find_eq rfl) hdeleted
  | stop id hthread => exact absurd (KeptRow.of_find_eq rfl) hdeleted
  | @answer thread world id request continuation answer hthread hwaiting hperform =>
      have hunchanged (hkeys : world.idempotencyKeys = first.world.idempotencyKeys) : False :=
        hdeleted (KeptRow.of_find_eq (by rw [hkeys]))
      cases answer with
      | error error => exact (hunchanged (by rw [performs_error hperform])).elim
      | ok value =>
          cases request with
          | begin event idempotencyKey requestPayload =>
              rcases hperform with ⟨clock, hbegin⟩ | ⟨⟨message, hmessage⟩, -⟩
              · rcases ExecutionJournal.begin_ok hbegin with
                  ⟨hreserved, -, hexpired, companyId, fresh, -, -, -, hfind⟩ | ⟨-, rfl, -⟩
                · by_cases hkey : event.idempotencyKey idempotencyKey = key
                  · exact ⟨clock, hbegin, hkey, hreserved, hexpired row (by rw [hkey, hrow])⟩
                  · refine absurd (KeptRow.of_find_eq ?_) hdeleted
                    rw [hfind, Function.update_of_ne (Ne.symm hkey)]
                · exact (hunchanged rfl).elim
              · cases hmessage
          | finish event idempotencyKey final response =>
              rcases hperform with ⟨clock, hfinish⟩ | ⟨⟨message, hmessage⟩, -⟩
              · obtain ⟨-, -, found, json, hfound, -, -, hfind⟩ :=
                  ExecutionJournal.finish_ok hfinish
                refine absurd (fun old hold => ?_) hdeleted
                rw [hfind]
                by_cases hkey : key = event.idempotencyKey idempotencyKey
                · rw [hkey, hfound] at hold
                  cases hold
                  exact ⟨IdempotencyKeys.setOutcome final json clock.repository found,
                    by rw [hkey, Function.update_self], rfl⟩
                · exact ⟨old, by rw [Function.update_of_ne hkey, hold], rfl⟩
              · cases hmessage
          | append event =>
              rcases hperform with ⟨now, happend⟩ | ⟨⟨message, hmessage⟩, -⟩
              · exact (hunchanged (append_logged happend).1).elim
              · cases hmessage
          | prepare => exact (hunchanged (by rw [hperform])).elim
          | validateCurrentState => exact (hunchanged (by rw [hperform])).elim
          | execute => exact (hunchanged (by rw [hperform])).elim

/-- What is replaced because it expired had a certain outcome. -/
theorem ReplacesExpired.state {key : IdempotencyKey} {row : IdempotencyRow}
    (hreplaces : ReplacesExpired sha256 row key first action second) :
    row.state = .succeeded ∨ row.state = .failed := by
  unfold ReplacesExpired at hreplaces
  split at hreplaces
  · obtain ⟨clock, -, -, -, hexpired⟩ := hreplaces
    exact state_of_isExpired hexpired
  · exact hreplaces.elim

/-- A step deletes only rows whose outcome is certain. -/
theorem keptRow_of_open (hstep : (writeMachine sha256).Step first action second)
    {key : IdempotencyKey} {row : IdempotencyRow}
    (hrow : first.world.idempotencyKeys.find key = some row)
    (hopen : row.state = .inProgress ∨ row.state = .unknown) : KeptRow key first second := by
  by_contra hdeleted
  have hcertain := (replacesExpired_of_deleted hstep hrow hdeleted).state
  rcases hopen with hstate | hstate <;> simp [hstate] at hcertain

/-- **At most one execution.** As long as the row of a key is not deleted, its `execute` callback is
invoked at most once by all calls together. It is only ever invoked by the owner of a row that is in
progress, no step deletes a row that is in progress or unknown, and a row is deleted only by a
reservation of its key that finds it expired. -/
theorem execute_at_most_once (hreachable : (writeMachine sha256).Reachable first)
    (key : IdempotencyKey) :
    (∀ actions last, KeptPath key first actions last → actions.countP (executesOn key) ≤ 1) ∧
      (∀ action second, (writeMachine sha256).Step first action second →
        executesOn key action = true →
        ∃ row, first.world.idempotencyKeys.find key = some row ∧
          row.ownerRequestId = action.id ∧ row.state = .inProgress) ∧
      (∀ action second row, (writeMachine sha256).Step first action second →
        first.world.idempotencyKeys.find key = some row →
        row.state = .inProgress ∨ row.state = .unknown → KeptRow key first second) ∧
      ∀ action second row, (writeMachine sha256).Step first action second →
        first.world.idempotencyKeys.find key = some row → ¬ KeptRow key first second →
        ReplacesExpired sha256 row key first action second := by
  refine ⟨fun _ _ hpath => KeptPath.count_le_one hpath hreachable, ?_, ?_, ?_⟩
  · intro action second hstep hexecutes
    exact (invokes_execute hreachable hstep hexecutes).1
  · intro action second row hstep hrow hopen
    exact keptRow_of_open hstep hrow hopen
  · intro action second row hstep hrow hdeleted
    exact replacesExpired_of_deleted hstep hrow hdeleted

theorem execute_at_most_once_submitted :
    (∀ actions last, KeptPath validateInvoiceCall.journalKey submittedOnce actions last →
      actions.countP (executesOn validateInvoiceCall.journalKey) ≤ 1) ∧
    (∀ action second, (writeMachine fun text => text).Step submittedOnce action second →
      executesOn validateInvoiceCall.journalKey action = true →
      ∃ row, submittedOnce.world.idempotencyKeys.find validateInvoiceCall.journalKey = some row ∧
        row.ownerRequestId = action.id ∧ row.state = .inProgress) ∧
    (∀ action second row, (writeMachine fun text => text).Step submittedOnce action second →
      submittedOnce.world.idempotencyKeys.find validateInvoiceCall.journalKey = some row →
      row.state = .inProgress ∨ row.state = .unknown →
      KeptRow validateInvoiceCall.journalKey submittedOnce second) ∧
    ∀ action second row, (writeMachine fun text => text).Step submittedOnce action second →
      submittedOnce.world.idempotencyKeys.find validateInvoiceCall.journalKey = some row →
      ¬ KeptRow validateInvoiceCall.journalKey submittedOnce second →
      ReplacesExpired (fun text => text) row validateInvoiceCall.journalKey submittedOnce action
        second :=
  execute_at_most_once reachable_submittedOnce validateInvoiceCall.journalKey

/-! ### Two postings and a dry run -/

/-- Invoices can be posted; the outcome is recorded if the database is available for it. -/
def postingEnvironment (finish : Option ExecutionJournal.Clock) : Environment where
  begin := some ⟨0, 0⟩
  finish := finish
  append := some 0
  prepare := .ok (.write [(.str "invoice_id", .int 7)] [(.str "state", .str "draft")] .none
    (.bool false))
  validateCurrentState := .ok ()
  execute := .ok (.applied [(.str "state", .str "posted")] [] .none)

def invoiceCall (tenantId idempotencyKey : String) (dryRun : Bool) : WriteCall :=
  { validateInvoiceCall with
    binding := { validateInvoiceCall.binding with tenantId := tenantId }
    command :=
      { validateInvoiceCall.command with
        idempotencyKey := some idempotencyKey
        dryRun := dryRun } }

/-- A call starts with this request id and runs up to its first `count` requests. -/
def Environment.serve (environment : Environment) (count : Nat) (id : String) (call : WriteCall)
    (state : (writeMachine fun text => text).State) : (writeMachine fun text => text).State :=
  (state.set id ⟨call, [], .running (call.run id)⟩).advance
    (environment.answer fun text => text) count id

theorem Environment.reachable_serve (environment : Environment) (count : Nat) {id : String}
    (call : WriteCall) {state : (writeMachine fun text => text).State}
    (hreachable : (writeMachine fun text => text).Reachable state)
    (habsent : state.threads id = none) :
    (writeMachine fun text => text).Reachable (environment.serve count id call state) := by
  apply (hreachable.step (.start id call habsent)).advance
  intro request store
  exact environment.answer_performs _ request store

theorem Environment.threads_serve (environment : Environment) (count : Nat) {id other : String}
    (hne : other ≠ id) (call : WriteCall) (state : (writeMachine fun text => text).State) :
    (environment.serve count id call state).threads other = state.threads other := by
  unfold serve
  rw [Machine.State.threads_advance hne]
  exact Function.update_of_ne hne ..

/-- A posting whose outcome cannot be recorded, up to its first `count` requests. -/
def interruptedPosting (count : Nat) : (writeMachine fun text => text).State :=
  (postingEnvironment none).serve count "interrupted" (invoiceCall "first" "post-7" false)
    ⟨.empty, fun _ => none⟩

theorem reachable_interruptedPosting (count : Nat) :
    (writeMachine fun text => text).Reachable (interruptedPosting count) :=
  Environment.reachable_serve _ count _ ⟨.empty, [], rfl, .nil _⟩ rfl

/-- The posting was applied without a record of it, and then another one with it. -/
def postings : (writeMachine fun text => text).State :=
  (postingEnvironment (some ⟨1, 1⟩)).serve 5 "recorded" (invoiceCall "second" "post-8" false)
    (interruptedPosting 5)

theorem reachable_postings : (writeMachine fun text => text).Reachable postings := by
  apply Environment.reachable_serve
  · exact reachable_interruptedPosting 5
  · exact Environment.threads_serve _ _ (by decide) _ _

def dryPosting : (writeMachine fun text => text).State :=
  (postingEnvironment none).serve 2 "dry" (invoiceCall "first" "post-9" true)
    ⟨.empty, fun _ => none⟩

theorem reachable_dryPosting : (writeMachine fun text => text).Reachable dryPosting :=
  Environment.reachable_serve _ 2 _ ⟨.empty, [], rfl, .nil _⟩ rfl

/-- What can be compared of a call that returned: its answer, and what its trace holds. -/
structure Returned where
  dryRun : Bool
  status : WriteStatus
  outcome : WriteOutcome
  reserved : Bool
  executed : List Bool
  recorded : List (IdempotencyState × Bool)
  deriving DecidableEq

def returned? (state : (writeMachine sha256).State) (id : String) : Option Returned :=
  match state.threads id with
  | some ⟨call, trace, .running (.ret response)⟩ =>
      some
        { dryRun := call.command.dryRun
          status := response.status
          outcome := response.outcome
          reserved := reserved trace
          executed := (executions trace).map (·.isOk)
          recorded := outcomes trace }
  | _ => none

theorem returned?_some {state : (writeMachine sha256).State} {id : String} {returned : Returned}
    (hreturned : returned? state id = some returned) :
    ∃ thread response, state.threads id = some thread ∧
      thread.status = .running (.ret response) ∧
      returned = ⟨thread.call.command.dryRun, response.status, response.outcome,
        reserved thread.trace, (executions thread.trace).map (·.isOk), outcomes thread.trace⟩ := by
  unfold returned? at hreturned
  split at hreturned
  · next call trace response hthread =>
      cases hreturned
      exact ⟨_, response, hthread, rfl, rfl⟩
  · cases hreturned

theorem returned?_postings :
    returned? postings "interrupted" =
      some ⟨false, .failed, .unknown, true, [true], [(.succeeded, false)]⟩ ∧
    returned? postings "recorded" =
      some ⟨false, .succeeded, .known, true, [true], [(.succeeded, true)]⟩ := by
  decide +kernel

theorem returned?_dryPosting :
    returned? dryPosting "dry" = some ⟨true, .preview, .notAttempted, false, [], []⟩ := by
  decide +kernel

/-! ### Outcome honesty -/

variable {id : String} {thread : (writeMachine sha256).Thread}

/-- The call was answered that it holds the reservation of its key. -/
def Reserves (thread : (writeMachine sha256).Thread) : Prop :=
  ∃ event idempotencyKey requestPayload decision,
    (⟨.begin event idempotencyKey requestPayload, .ok decision⟩ : WriteEvent) ∈ thread.trace ∧
      decision.disposition = .reserved

/-- `execute` returned an `AppliedWrite` that passed validation, and the transaction recording the
success was committed. -/
def AppliedAndCommitted (thread : (writeMachine sha256).Thread) : Prop :=
  (∃ returned, (⟨.execute, .ok returned⟩ : WriteEvent) ∈ thread.trace ∧ returned.valid = true) ∧
    ∃ event idempotencyKey response,
      (⟨.finish event idempotencyKey .succeeded response, .ok ()⟩ : WriteEvent) ∈ thread.trace

/-- `execute` raised `KnownWriteFailure`. -/
def FailedKnowingly (thread : (writeMachine sha256).Thread) : Prop :=
  ∃ error, (⟨.execute, .error (.knownWriteFailure error)⟩ : WriteEvent) ∈ thread.trace

theorem reserves_iff : Reserves thread ↔ reserved thread.trace = true := by
  rw [reserved, List.any_eq_true]
  constructor
  · rintro ⟨event, idempotencyKey, requestPayload, decision, hmem, hdisposition⟩
    exact ⟨_, hmem, by simpa [isReservation] using hdisposition⟩
  · rintro ⟨⟨request, answer⟩, hmem, hreservation⟩
    cases request with
    | begin event idempotencyKey requestPayload =>
        cases answer with
        | ok decision =>
            exact ⟨event, idempotencyKey, requestPayload, decision, hmem,
              by simpa [isReservation] using hreservation⟩
        | error error => cases hreservation
    | _ => cases hreservation

theorem opening_eq_declined {call : WriteCall}
    (hdeclined : call.gate.isSome = true ∨ call.command.dryRun = true) :
    call.opening = .declined := by
  rw [WriteCall.opening, if_neg]
  rcases hdeclined with hgate | hdry
  · simp [WriteCall.submits, Option.isNone_iff_eq_none, Option.isSome_iff_ne_none.mp hgate]
  · simp [WriteCall.submits, hdry]

theorem after_declined {call : WriteCall} (trace : List WriteEvent) :
    (call.protocol id).after .declined trace = .declined := by
  induction trace with
  | nil => rfl
  | cons event trace ih => exact ih

theorem reports_applied {returned : ExecuteReturn} (hvalid : returned.valid = true) :
    (settlement (.ok returned)).1 = .succeeded := by
  simp [settlement, hvalid]

/-- Which answers of `execute` are recorded as a success, and which as a failure. -/
theorem settlement_cases (answer : Except PyException ExecuteReturn) :
    (∃ returned, answer = .ok returned ∧ returned.valid = true ∧
      (settlement answer).1 = .succeeded) ∨
    (∃ error, answer = .error (.knownWriteFailure error) ∧ (settlement answer).1 = .failed) ∨
    (settlement answer).1 = .unknown := by
  rcases answer with error | returned
  · cases error with
    | knownWriteFailure reported => exact .inr (.inl ⟨reported, rfl, rfl⟩)
    | _ => exact .inr (.inr rfl)
  · cases hvalid : returned.valid with
    | true => exact .inl ⟨returned, rfl, hvalid, reports_applied hvalid⟩
    | false => exact .inr (.inr (by simp [settlement, hvalid]))

theorem not_succeeded_of_unknown {response : WriteSafetyResponse}
    (hunknown : response.outcome = .unknown) : response.status ≠ .succeeded := by
  have hfailed := response.shape.2.2 hunknown
  rw [hfailed]
  simp

/-- A response that reports an execution does not say that the write was not attempted, and says
that it succeeded only if its success was committed. -/
theorem Reports.cases {answer : Except PyException ExecuteReturn} {committed : Bool}
    {response : WriteSafetyResponse} (hreports : Reports answer committed response) :
    response.outcome ≠ .notAttempted ∧
      (response.status = .succeeded → committed = true ∧ (settlement answer).1 = .succeeded) ∧
      ((settlement answer).1 ≠ .failed →
        ¬ (committed = true ∧ (settlement answer).1 = .succeeded) →
        response.outcome = .unknown) := by
  unfold Reports at hreports
  rcases settlement_cases answer with ⟨-, -, -, hstate⟩ | ⟨-, -, hstate⟩ | hstate
  · cases committed with
    | true =>
        simp only [hstate, if_true] at hreports
        simp [hreports, hstate]
    | false =>
        simp only [hstate, Bool.false_eq_true, if_false] at hreports
        simp [hreports, not_succeeded_of_unknown hreports]
  · simp only [hstate] at hreports
    simp [hreports, hstate]
  · simp only [hstate] at hreports
    simp [hreports, not_succeeded_of_unknown hreports]

theorem allowed_declined {call : WriteCall} {trace : List WriteEvent}
    (hallowed : (call.protocol id).Allowed .declined trace) :
    ∀ event ∈ trace, call.allows id .declined event.request := by
  induction trace with
  | nil => simp
  | cons event trace ih =>
      intro other hother
      rcases List.mem_cons.mp hother with rfl | hrest
      · exact hallowed.1
      · exact ih hallowed.2 other hrest

theorem allows_of_invoked (hreachable : (writeMachine sha256).Reachable first)
    (hthread : first.threads id = some thread) (hopening : thread.call.opening = .declined)
    {request : WriteRequest} (hinvoked : thread.Invoked request) :
    WriteCall.allows thread.call id .declined request := by
  rcases hinvoked with ⟨event, hevent, rfl⟩ | hpending
  · have hallowed := hreachable.allowed (writeDiscipline sha256) id thread hthread
    change (WriteCall.protocol thread.call id).Allowed (WriteCall.opening thread.call) _ at hallowed
    rw [hopening] at hallowed
    exact allowed_declined hallowed event hevent
  · have hallows := hreachable.allows_pending (writeDiscipline sha256) id thread hthread request
      hpending
    change WriteCall.allows thread.call id
      ((WriteCall.protocol thread.call id).after (WriteCall.opening thread.call) _) _ at hallows
    rwa [hopening, after_declined] at hallows

/-- A call that a gate rejects, or a dry run, neither validates nor executes, and none of its steps
touches the idempotency table. -/
theorem declined_call (hreachable : (writeMachine sha256).Reachable first)
    (hthread : first.threads id = some thread)
    (hdeclined : thread.call.gate.isSome = true ∨ thread.call.command.dryRun = true) :
    ¬ thread.Invoked .validateCurrentState ∧ ¬ thread.Invoked .execute ∧
      ∀ action later, (writeMachine sha256).Step first action later → action.id = id →
        later.world.idempotencyKeys = first.world.idempotencyKeys := by
  have hopening := opening_eq_declined hdeclined
  refine ⟨allows_of_invoked hreachable hthread hopening,
    allows_of_invoked hreachable hthread hopening, ?_⟩
  intro action later hstep hid
  cases hstep with
  | start other call habsent => rfl
  | invoke other request continuation hother hrunning => rfl
  | stop other hother => rfl
  | @answer mover world other request continuation answer hother hwaiting hperform =>
      have hsame : other = id := hid
      rw [hsame, hthread] at hother
      cases hother
      have hallows := allows_of_invoked hreachable hthread hopening
        (.inr (by rw [hwaiting]; rfl) : thread.Invoked request)
      have hperforms : Performs sha256 request first.world answer world := hperform
      cases request with
      | prepare => rw [hperforms]
      | append event =>
          cases answer with
          | error error => rw [performs_error hperforms]
          | ok row =>
              rcases hperforms with ⟨now, happend⟩ | ⟨⟨message, hmessage⟩, -⟩
              · exact (append_logged happend).1
              · cases hmessage
      | _ => exact hallows.elim

theorem ends_of_returned (hreachable : (writeMachine sha256).Reachable first)
    (hthread : first.threads id = some thread) {response : WriteSafetyResponse}
    (hreturned : thread.status = .running (.ret response)) :
    Ends ((writeDiscipline sha256).phase id thread) (.ok response) :=
  hreachable.post_of_ret (writeDiscipline sha256) hthread hreturned

/-- A call that owned its key returns a success only for a recorded one. -/
theorem committed_of_succeeded (hreachable : (writeMachine sha256).Reachable first)
    (hthread : first.threads id = some thread) {response : WriteSafetyResponse}
    (hreturned : thread.status = .running (.ret response)) (hreserves : Reserves thread)
    (hsucceeded : response.status = .succeeded) : AppliedAndCommitted thread := by
  have htrace := traceOf_reachable hreachable hthread
  have hends := ends_of_returned hreachable hthread hreturned
  have hreserved := reserves_iff.mp hreserves
  cases hphase : (writeDiscipline sha256).phase id thread with
  | declined => simp [hphase, TraceOf, hreserved] at htrace
  | submitting => simp [hphase, TraceOf, hreserved] at htrace
  | refused => simp [hphase, TraceOf, hreserved] at htrace
  | owner =>
      rw [hphase] at hends
      exact absurd hsucceeded hends.2
  | executed answer =>
      rw [hphase] at hends
      cases (Reports.cases hends).2.1 hsucceeded |>.1
  | settled executed final committed =>
      rw [hphase] at hends htrace
      cases executed with
      | none => exact absurd hsucceeded hends.2
      | some answer =>
          obtain ⟨-, hexecutions, houtcomes, hfinal⟩ := htrace
          obtain ⟨rfl, hstate⟩ := (Reports.cases hends).2.1 hsucceeded
          rcases settlement_cases answer with
            ⟨returned, rfl, hvalid, -⟩ | ⟨-, -, hfailed⟩ | hunknown
          · refine ⟨⟨returned, mem_executions.mp (by simp [hexecutions]), hvalid⟩, ?_⟩
            rw [hfinal _ rfl, hstate] at houtcomes
            exact mem_outcomes.mp (by simp [houtcomes])
          · rw [hstate] at hfailed
            cases hfailed
          · rw [hstate] at hunknown
            cases hunknown

/-- A call that invoked `execute` never returns that the write was not attempted. -/
theorem attempted_of_invoked (hreachable : (writeMachine sha256).Reachable first)
    (hthread : first.threads id = some thread) {response : WriteSafetyResponse}
    (hreturned : thread.status = .running (.ret response)) (hinvoked : thread.Invoked .execute) :
    response.outcome ≠ .notAttempted := by
  have hends := ends_of_returned hreachable hthread hreturned
  rcases phase_of_invoked hreachable hthread hinvoked with
    ⟨-, hpending⟩ | ⟨answer, hphase, -⟩ | ⟨answer, committed, hphase, -⟩
  · rw [hreturned] at hpending
    cases hpending
  · rw [hphase] at hends
    exact (Reports.cases hends).1
  · rw [hphase] at hends
    exact (Reports.cases hends).1

/-- The phase after an execution that neither succeeded for good nor failed knowingly. -/
theorem phase_of_uncertain (hreachable : (writeMachine sha256).Reachable first)
    (hthread : first.threads id = some thread) (hinvoked : thread.Invoked .execute)
    (hnotApplied : ¬ AppliedAndCommitted thread) (hnotFailed : ¬ FailedKnowingly thread) :
    KeepsRow ((writeDiscipline sha256).phase id thread) ∧
      (∀ response, Ends ((writeDiscipline sha256).phase id thread) (.ok response) →
        thread.status.pending = none → response.outcome = .unknown) ∧
      ∀ error, Ends ((writeDiscipline sha256).phase id thread) (.error error) →
        thread.status.pending = none → error = .cancelledError := by
  rcases phase_of_invoked hreachable hthread hinvoked with
    ⟨hphase, hpending⟩ | ⟨answer, hphase, hexecutions⟩ |
    ⟨answer, committed, hphase, hexecutions, houtcomes⟩
  · rw [hphase, hpending]
    exact ⟨trivial, by simp, by simp⟩
  · have hnot : (settlement answer).1 ≠ .failed := by
      intro hfailed
      rcases settlement_cases answer with ⟨-, -, -, hstate⟩ | ⟨error, rfl, -⟩ | hstate
      · rw [hfailed] at hstate
        cases hstate
      · exact hnotFailed ⟨error, mem_executions.mp (by simp [hexecutions])⟩
      · rw [hfailed] at hstate
        cases hstate
    rw [hphase]
    refine ⟨trivial, fun response hends _ => (Reports.cases hends).2.2 hnot (by simp), ?_⟩
    exact fun error hends _ => hends
  · have hkeeps : (settlement answer).1 ≠ .failed ∧
        ¬ (committed = true ∧ (settlement answer).1 = .succeeded) := by
      rcases settlement_cases answer with ⟨returned, rfl, hvalid, hstate⟩ | ⟨error, rfl, -⟩ | hstate
      · refine ⟨by simp [hstate], ?_⟩
        rintro ⟨rfl, -⟩
        rw [hstate] at houtcomes
        exact hnotApplied ⟨⟨returned, mem_executions.mp (by simp [hexecutions]), hvalid⟩,
          mem_outcomes.mp (by simp [houtcomes])⟩
      · exact absurd ⟨error, mem_executions.mp (by simp [hexecutions])⟩ hnotFailed
      · simp [hstate]
    rw [hphase]
    refine ⟨?_, fun response hends _ => (Reports.cases hends).2.2 hkeeps.1 hkeeps.2, ?_⟩
    · cases committed with
      | false => trivial
      | true =>
          rcases settlement_cases answer with ⟨-, -, -, hstate⟩ | ⟨-, -, hstate⟩ | hstate
          · exact absurd ⟨rfl, hstate⟩ hkeeps.2
          · exact absurd hstate hkeeps.1
          · rw [hstate]
            trivial
    · exact fun error hends _ => hends

/-- The row a call still needs is there, its own, in progress or unknown. -/
theorem row_of_keeps (hreachable : (writeMachine sha256).Reachable first)
    (hthread : first.threads id = some thread)
    (hkeeps : KeepsRow ((writeDiscipline sha256).phase id thread)) :
    ∃ row, first.world.idempotencyKeys.find thread.call.journalKey = some row ∧
      row.ownerRequestId = id ∧ (row.state = .inProgress ∨ row.state = .unknown) := by
  have hinvariant := journalInvariant_of_reachable hreachable
  have hview : (writeDiscipline sha256).view first id =
      some (thread.call, (writeDiscipline sha256).phase id thread) := by
    simp [Machine.Discipline.view, hthread]
  obtain ⟨row, hrow, howner⟩ := hinvariant.keeps id thread.call _ hview hkeeps
  obtain ⟨call, phase, hheld, -, hstate⟩ := hinvariant.rows _ row hrow
  rw [howner, hview] at hheld
  cases hheld
  exact ⟨row, hrow, howner, JournalInvariant.state_of_keepsRow hstate hkeeps⟩

/-- **Outcome honesty.** In every reachable state, for every call: a rejected call or a dry run
validates and executes nothing and leaves the idempotency table alone; a call that owned its key
returns a success only after a valid result was recorded as one, and `not_attempted` only if it
never invoked `execute`; and if an execution neither was recorded as a success nor failed knowingly,
the call returns an unknown outcome or its cancellation, and its row is in progress or unknown. -/
theorem outcome_honesty (hreachable : (writeMachine sha256).Reachable first)
    (hthread : first.threads id = some thread) :
    (thread.call.gate.isSome = true ∨ thread.call.command.dryRun = true →
      ¬ thread.Invoked .validateCurrentState ∧ ¬ thread.Invoked .execute ∧
        ∀ action later, (writeMachine sha256).Step first action later → action.id = id →
          later.world.idempotencyKeys = first.world.idempotencyKeys) ∧
    (∀ response, thread.status = .running (.ret response) → Reserves thread →
      response.status = .succeeded → AppliedAndCommitted thread) ∧
    (∀ response, thread.status = .running (.ret response) → Reserves thread →
      response.outcome = .notAttempted → ¬ thread.Invoked .execute) ∧
    (thread.Invoked .execute → ¬ AppliedAndCommitted thread → ¬ FailedKnowingly thread →
      (∀ response, thread.status = .running (.ret response) → response.outcome = .unknown) ∧
      (∀ error, thread.status = .running (.raise error) → error = .cancelledError) ∧
      ∃ row, first.world.idempotencyKeys.find thread.call.journalKey = some row ∧
        row.ownerRequestId = id ∧ (row.state = .inProgress ∨ row.state = .unknown)) := by
  refine ⟨declined_call hreachable hthread, ?_, ?_, ?_⟩
  · intro response hreturned hreserves hsucceeded
    exact committed_of_succeeded hreachable hthread hreturned hreserves hsucceeded
  · intro response hreturned _ hnotAttempted hinvoked
    exact attempted_of_invoked hreachable hthread hreturned hinvoked hnotAttempted
  · intro hinvoked hnotApplied hnotFailed
    obtain ⟨hkeeps, hreturns, hraises⟩ :=
      phase_of_uncertain hreachable hthread hinvoked hnotApplied hnotFailed
    refine ⟨?_, ?_, row_of_keeps hreachable hthread hkeeps⟩
    · intro response hreturned
      exact hreturns response (ends_of_returned hreachable hthread hreturned)
        (by rw [hreturned]; rfl)
    · intro error hraised
      exact hraises error (hreachable.post_of_raise (writeDiscipline sha256) hthread hraised)
        (by rw [hraised]; rfl)

theorem invoked_of_executions {answer : Except PyException ExecuteReturn}
    (hanswer : answer ∈ executions thread.trace) : thread.Invoked .execute :=
  .inl ⟨_, mem_executions.mp hanswer, rfl⟩

/-- The interrupted posting reports an unknown outcome and leaves its row in progress, the recorded
one reports a success that was recorded, and the dry run executes nothing. -/
theorem outcome_honesty_postings :
    (∃ thread, postings.threads "interrupted" = some thread ∧ thread.Invoked .execute ∧
      ¬ AppliedAndCommitted thread ∧ ¬ FailedKnowingly thread ∧
      (∃ response, thread.status = .running (.ret response) ∧ response.outcome = .unknown) ∧
      ∃ row, postings.world.idempotencyKeys.find thread.call.journalKey = some row ∧
        row.ownerRequestId = "interrupted" ∧ (row.state = .inProgress ∨ row.state = .unknown)) ∧
    (∃ thread response, postings.threads "recorded" = some thread ∧
      thread.status = .running (.ret response) ∧ Reserves thread ∧
      response.status = .succeeded ∧ AppliedAndCommitted thread) ∧
    ∃ thread, dryPosting.threads "dry" = some thread ∧ thread.call.command.dryRun = true ∧
      ¬ thread.Invoked .validateCurrentState ∧ ¬ thread.Invoked .execute := by
  obtain ⟨hinterrupted, hrecorded⟩ := returned?_postings
  refine ⟨?_, ?_, ?_⟩
  · obtain ⟨thread, response, hthread, hreturned, hsummary⟩ := returned?_some hinterrupted
    simp only [Returned.mk.injEq] at hsummary
    obtain ⟨-, -, -, -, hexecuted, houtcomes⟩ := hsummary
    obtain ⟨answer, hexecutions, hok⟩ := List.map_eq_singleton_iff.mp hexecuted.symm
    have hanswer : answer ∈ executions thread.trace := by simp [hexecutions]
    have hinvoked := invoked_of_executions hanswer
    have hnotApplied : ¬ AppliedAndCommitted thread := by
      rintro ⟨-, event, idempotencyKey, recorded, hfinished⟩
      have hmem := mem_outcomes.mpr ⟨event, idempotencyKey, recorded, hfinished⟩
      simp [← houtcomes] at hmem
    have hnotFailed : ¬ FailedKnowingly thread := by
      rintro ⟨error, hfailed⟩
      have hmem := mem_executions.mpr hfailed
      rw [hexecutions, List.mem_singleton] at hmem
      rw [← hmem] at hok
      cases hok
    obtain ⟨-, -, -, huncertain⟩ := outcome_honesty reachable_postings hthread
    obtain ⟨hunknown, -, hrow⟩ := huncertain hinvoked hnotApplied hnotFailed
    exact ⟨thread, hthread, hinvoked, hnotApplied, hnotFailed,
      ⟨response, hreturned, hunknown response hreturned⟩, hrow⟩
  · obtain ⟨thread, response, hthread, hreturned, hsummary⟩ := returned?_some hrecorded
    simp only [Returned.mk.injEq] at hsummary
    obtain ⟨-, hstatus, -, hreserved, -, -⟩ := hsummary
    have hreserves : Reserves thread := reserves_iff.mpr hreserved.symm
    have happlied := (outcome_honesty reachable_postings hthread).2.1 response hreturned hreserves
      hstatus.symm
    exact ⟨thread, response, hthread, hreturned, hreserves, hstatus.symm, happlied⟩
  · obtain ⟨thread, response, hthread, hreturned, hsummary⟩ := returned?_some returned?_dryPosting
    simp only [Returned.mk.injEq] at hsummary
    have hdryRun : thread.call.command.dryRun = true := hsummary.1.symm
    have hdeclined := (outcome_honesty reachable_dryPosting hthread).1 (.inr hdryRun)
    exact ⟨thread, hthread, hdryRun, hdeclined.1, hdeclined.2.1⟩

/-! ### Journal and audit chain -/

def isFinal (finalStatus : String) : Bool :=
  ["succeeded", "failed", "needs_input", "unknown"].contains finalStatus

/-- A row and the events recorded under its owner's request id agree. -/
structure Agrees (row : IdempotencyRow) (recorded : List String) : Prop where
  inProgress_iff : row.state = .inProgress ↔
    recorded.count "attempted" = 1 ∧ recorded.countP isFinal = 0
  final_iff : row.state ≠ .inProgress ↔
    recorded.count "attempted" = 1 ∧ recorded.countP isFinal = 1
  finalStatus : ∀ finalStatus ∈ recorded, isFinal finalStatus = true →
    FinalStatus row.state finalStatus
  response_iff : row.responseJson = none ↔ row.state = .inProgress

theorem agrees_open {row : IdempotencyRow} (hstate : row.state = .inProgress)
    (hresponse : row.responseJson = none) : Agrees row ["attempted"] where
  inProgress_iff := by simp [hstate, isFinal]
  final_iff := by simp [hstate, isFinal]
  finalStatus := by simp [isFinal]
  response_iff := by simp [hstate, hresponse]

theorem agrees_final {row : IdempotencyRow} {finalStatus : String}
    (hstatus : FinalStatus row.state finalStatus) (hstate : row.state ≠ .inProgress)
    (hresponse : row.responseJson.isSome = true) : Agrees row ["attempted", finalStatus] := by
  have hfinal : isFinal finalStatus = true ∧ finalStatus ≠ "attempted" := by
    cases hrow : row.state <;> rw [hrow] at hstatus <;> simp only [FinalStatus] at hstatus
    · simp [hstatus, isFinal]
    · rcases hstatus with rfl | rfl <;> simp [isFinal]
    · simp [hstatus, isFinal]
  have hattempted : isFinal "attempted" = false := rfl
  refine ⟨?_, ?_, ?_, ?_⟩
  · simp [hstate, hfinal.1, hattempted]
  · simp [hstate, hfinal.1, hfinal.2, hattempted]
  · simpa [hattempted] using fun _ => hstatus
  · simp [hstate, Option.isSome_iff_ne_none.mp hresponse]

theorem agrees_of_reachable (hreachable : (writeMachine sha256).Reachable first)
    {key : IdempotencyKey} {row : IdempotencyRow}
    (hrow : first.world.idempotencyKeys.find key = some row) :
    Agrees row (statuses first.world row.ownerRequestId) := by
  have hinvariant := journalInvariant_of_reachable hreachable
  obtain ⟨call, phase, hphase, -, hheld⟩ := hinvariant.rows key row hrow
  have hevents := hinvariant.events row.ownerRequestId
  rw [hphase] at hevents
  cases phase with
  | owner => exact (hevents : _ = _) ▸ agrees_open hheld.1 hheld.2
  | executed answer => exact (hevents : _ = _) ▸ agrees_open hheld.1 hheld.2
  | settled executed final committed =>
      cases committed with
      | false => exact (hevents : _ = _) ▸ agrees_open hheld.1 hheld.2
      | true =>
          obtain ⟨finalStatus, hrecorded, hstatus⟩ := hevents
          obtain ⟨hstate, hfinal, hresponse⟩ := hheld
          rw [hrecorded]
          exact agrees_final (hstate ▸ hstatus) (hstate ▸ hfinal) hresponse
  | declined => exact hheld.elim
  | submitting => exact hheld.elim
  | refused => exact hheld.elim

theorem statuses_of_invoke (hreachable : (writeMachine sha256).Reachable first) {call : WriteCall}
    (hstep : (writeMachine sha256).Step first (.invoke id call .execute) second) :
    ∃ row, first.world.idempotencyKeys.find call.journalKey = some row ∧
      row.ownerRequestId = id ∧ row.state = .inProgress ∧
      statuses first.world id = ["attempted"] := by
  cases hstep with
  | @invoke thread _ _ continuation hthread hrunning =>
      have hremaining : thread.status.remaining = some (.ask .execute continuation) := by
        rw [hrunning]
        rfl
      have hphase : (writeDiscipline sha256).phase id thread = .owner :=
        allows_execute (hreachable.allows (writeDiscipline sha256) hthread hremaining)
      obtain ⟨row, hrow, howner, hstate⟩ := row_of_owner hreachable hthread hphase
      have hevents := (journalInvariant_of_reachable hreachable).events id
      rw [Machine.Discipline.view, hthread, Option.map_some, Option.map_some, hphase] at hevents
      exact ⟨row, hrow, howner, hstate, hevents⟩

/-- **Journal and audit agreement.** In every reachable state every idempotency row agrees with the
events under its owner's request id; `execute` is invoked only when the caller's row and its one
`attempted` event are in the store; and a step that raises leaves the store as it was. -/
theorem journal_agreement (hreachable : (writeMachine sha256).Reachable first) :
    (∀ key row, first.world.idempotencyKeys.find key = some row →
      Agrees row (statuses first.world row.ownerRequestId)) ∧
    (∀ id call second, (writeMachine sha256).Step first (.invoke id call .execute) second →
      ∃ row, first.world.idempotencyKeys.find (WriteCall.journalKey call) = some row ∧
        row.ownerRequestId = id ∧ row.state = .inProgress ∧
        statuses first.world id = ["attempted"]) ∧
    ∀ id call request error second,
      (writeMachine sha256).Step first (.answer id call ⟨request, .error error⟩) second →
      second.world = first.world := by
  refine ⟨fun key row hrow => agrees_of_reachable hreachable hrow,
    fun id call second hstep => statuses_of_invoke hreachable hstep, ?_⟩
  intro id call request error second hstep
  cases hstep with
  | answer _ _ continuation _ hthread hwaiting hperform => exact performs_error hperform

def heldBy (state : (writeMachine sha256).State) (key : IdempotencyKey) :
    Option (IdempotencyState × String) :=
  (state.world.idempotencyKeys.find key).map fun row => (row.state, row.ownerRequestId)

theorem heldBy_postings :
    heldBy postings (invoiceCall "first" "post-7" false).journalKey =
      some (.inProgress, "interrupted") ∧
    heldBy postings (invoiceCall "second" "post-8" false).journalKey =
      some (.succeeded, "recorded") := by
  decide +kernel

def asksExecute : Status writeSignature PyException WriteSafetyResponse → Bool
  | .running (.ask .execute _) => true
  | _ => false

/-- After three requests the posting is about to invoke `execute`. -/
theorem executes_interruptedPosting :
    ∃ call second, (writeMachine fun text => text).Step (interruptedPosting 3)
      (.invoke "interrupted" call WriteRequest.execute) second := by
  have hnext : (((interruptedPosting 3).threads "interrupted").any fun thread =>
      asksExecute thread.status) = true := by
    decide +kernel
  obtain ⟨⟨call, trace, status⟩, hthread, hasks⟩ := (Option.any_eq_true _ _).mp hnext
  unfold asksExecute at hasks
  split at hasks
  · next continuation hrunning =>
      exact ⟨call, _, .invoke "interrupted" WriteRequest.execute continuation hthread hrunning⟩
  · cases hasks

/-- The row in progress agrees with its one event, the final row with its two, and `execute` is
invoked with the row and its event in the store. -/
theorem journal_agreement_postings :
    (∃ row, postings.world.idempotencyKeys.find (invoiceCall "first" "post-7" false).journalKey =
        some row ∧ row.state = .inProgress ∧ Agrees row (statuses postings.world "interrupted")) ∧
    (∃ row, postings.world.idempotencyKeys.find (invoiceCall "second" "post-8" false).journalKey =
        some row ∧ row.state = .succeeded ∧ Agrees row (statuses postings.world "recorded")) ∧
    ∃ call row, (interruptedPosting 3).world.idempotencyKeys.find (WriteCall.journalKey call) =
        some row ∧ row.ownerRequestId = "interrupted" ∧ row.state = .inProgress ∧
      statuses (interruptedPosting 3).world "interrupted" = ["attempted"] := by
  have hagrees {key : IdempotencyKey} {state : IdempotencyState} {owner : String}
      (hheld : heldBy postings key = some (state, owner)) :
      ∃ row, postings.world.idempotencyKeys.find key = some row ∧ row.state = state ∧
        Agrees row (statuses postings.world owner) := by
    obtain ⟨row, hrow, hsummary⟩ := Option.map_eq_some_iff.mp hheld
    cases hsummary
    exact ⟨row, hrow, rfl, (journal_agreement reachable_postings).1 key row hrow⟩
  obtain ⟨call, second, hstep⟩ := executes_interruptedPosting
  obtain ⟨row, hrow⟩ :=
    (journal_agreement (reachable_interruptedPosting 3)).2.1 "interrupted" call second hstep
  exact ⟨hagrees heldBy_postings.1, hagrees heldBy_postings.2, call, row, hrow⟩

end OdooMcp
