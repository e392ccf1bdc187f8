import OdooMcp.Adapters.PayrollEffects

/-!
# The guard of the payroll mutations

Each of the four writes makes its mutating call at most once, after it has read the expected
checkpoint twice, and reports a rejection only if that call had no effect.
-/

namespace OdooMcp

open Effect

def callsMethod : OdooRequest → Bool
  | .executeMethod _ _ _ _ _ => true
  | _ => false

theorem Reads.not_callsMethod {request : OdooRequest} (hreads : Reads request) :
    callsMethod request = false := by
  cases request with
  | executeMethod model method ids named companyIds => exact hreads.elim
  | _ => rfl

/-- No method of a model is called. -/
def ReadOnly (trace : List OdooEvent) : Prop :=
  ∀ event ∈ trace, callsMethod event.request = false

theorem ReadOnly.countP_eq_zero {trace : List OdooEvent} (hreadOnly : ReadOnly trace) :
    trace.countP (fun event => callsMethod event.request) = 0 :=
  List.countP_eq_zero.mpr fun event hevent => by simp [hreadOnly event hevent]

theorem Reading.readOnly {α : Type} {program : Odoo α} (hreading : Reading program)
    {trace : List OdooEvent} {result : Except PyException α}
    (hruns : Program.Runs program trace result) : ReadOnly trace := by
  intro event hevent
  exact (hreading.asks_of_runs hruns event hevent).not_callsMethod

/-! ### Rejections -/

/-- `PayrollWriteRejected` -/
def Rejection (error : PyException) : Prop := ∃ reported, error = .payrollWriteRejected reported

def Rejected {α : Type} (result : Except PyException α) : Prop :=
  ∃ error, result = .error error ∧ Rejection error

theorem OwnError.not_rejection {error : PyException} (howns : OwnError error) :
    ¬ Rejection error := by
  rintro ⟨reported, rfl⟩
  exact howns

theorem FromTransport.not_rejection {error : PyException} (htransport : FromTransport error) :
    ¬ Rejection error := by
  rintro ⟨reported, rfl⟩
  exact htransport

/-- Odoo answered the call with `False`. -/
def ReturnedFalse (event : OdooEvent) : Prop :=
  ∃ model method ids named companyIds,
    event = ⟨.executeMethod model method ids named companyIds, .ok (.bool false)⟩

/-- At most one method is called, before anything else. A rejection then means that the call was
denied or that it is excused. -/
def CallsOnce {α : Type} (excused : OdooEvent → Prop) (program : Odoo α) : Prop :=
  ∀ trace result, Program.Runs program trace result → TransportErrors trace →
    trace = [] ∨ ∃ event rest, trace = event :: rest ∧ callsMethod event.request = true ∧
      ReadOnly rest ∧ (Rejected result → Refused event ∨ excused event)

theorem callsOnce_check {α β : Type} {excused : OdooEvent → Prop}
    {outcome : Except PyException α} {next : α → Odoo β}
    (hnext : ∀ value, CallsOnce excused (next value)) :
    CallsOnce excused (Program.ofExcept outcome >>= next) := by
  intro trace result hruns htransport
  rcases Program.runs_ofExcept_bind.mp hruns with ⟨value, -, hrest⟩ | ⟨error, -, rfl, -⟩
  · exact hnext value trace result hrest htransport
  · exact .inl rfl

theorem denied_of_rejectDenied {α : Type} {answer : Except PyException α} {error : PyException}
    (htransport : ∀ raised, answer = .error raised → FromTransport raised)
    (hreject : PayrollReader.rejectDenied answer = .error error) (hrejection : Rejection error) :
    ∃ raised, answer = .error raised ∧ Denied raised := by
  obtain ⟨reported, rfl⟩ := hrejection
  cases answer with
  | ok value => cases hreject
  | error raised =>
      cases raised with
      | odooMcpError found =>
          refine ⟨_, rfl, found, rfl, ?_⟩
          by_contra hcode
          rw [PayrollReader.rejectDenied, if_neg hcode] at hreject
          cases hreject
      | payrollWriteRejected found => exact (htransport _ rfl).elim
      | _ => cases hreject

/-- A call followed by reads of its effect. What the reads raise on their own is no rejection,
unless the answer excuses it. -/
theorem callsOnce_mutate {α : Type} {excused : OdooEvent → Prop} (model method : String)
    (ids : List Int) (named : Payload) (companyId : Int) {next : PyValue → Odoo α}
    (hnext : ∀ value, (next value).Straight Reads fun error => OwnError error ∨
      excused ⟨.executeMethod model method ids named [companyId], .ok value⟩) :
    CallsOnce excused (PayrollReader.mutate model method ids named companyId >>= next) := by
  intro trace result hruns htransport
  rw [PayrollReader.mutate, Program.bind_eq, Program.bind_eq, Program.bind_assoc] at hruns
  rcases Program.runs_bind.mp hruns with
    ⟨outcome, first, rest, rfl, hattempt, hrest⟩ | ⟨error, -, hattempt⟩
  swap
  · obtain ⟨outcome, himpossible, -⟩ := Program.runs_attempt.mp hattempt
    cases himpossible
  obtain ⟨answer, hsame, hcall⟩ := Program.runs_attempt.mp hattempt
  cases hsame
  obtain rfl := Program.runs_call.mp hcall
  refine .inr ⟨_, rest, rfl, rfl, ?_⟩
  have hanswer : ∀ raised, outcome = .error raised → FromTransport raised :=
    htransport _ List.mem_cons_self
  rcases Program.runs_ofExcept_bind.mp hrest with
    ⟨value, hvalue, hafter⟩ | ⟨error, herror, rfl, rfl⟩
  · have hok : outcome = .ok value := by
      cases outcome with
      | ok found => exact hvalue
      | error raised =>
          cases raised with
          | odooMcpError found =>
              rw [PayrollReader.rejectDenied] at hvalue
              split at hvalue <;> cases hvalue
          | _ => cases hvalue
    subst hok
    refine ⟨fun event hevent =>
      ((hnext value).asks_of_runs hafter event hevent).not_callsMethod, ?_⟩
    rintro ⟨error, rfl, hrejection⟩
    rcases (hnext value).cases_of_runs hafter with
      ⟨-, hraises⟩ | ⟨before, request, raised, rfl, -, hsame⟩
    · exact .inr ((hraises error rfl).resolve_left fun howns => howns.not_rejection hrejection)
    · cases hsame
      exact absurd hrejection
        (htransport ⟨request, .error error⟩ (by simp) error rfl).not_rejection
  · refine ⟨by simp [ReadOnly], ?_⟩
    rintro ⟨_, ⟨⟩, hrejection⟩
    obtain ⟨raised, rfl, hdenied⟩ := denied_of_rejectDenied hanswer herror hrejection
    exact .inl ⟨raised, rfl, hdenied⟩

namespace PayrollReader

variable (reader : PayrollReader)

/-! ### The checkpoint -/

theorem editable_of_actionPayslip {companyId payslipId : Int} {trace : List OdooEvent}
    {payslip : Payslip}
    (hruns : Program.Runs (reader.actionPayslip companyId payslipId) trace (.ok payslip)) :
    editable reader.version payslip = true := by
  unfold actionPayslip at hruns
  obtain ⟨first, _, _, -, -, hruns⟩ := Program.runs_bind_ok.mp hruns
  obtain ⟨_, -, hruns⟩ := Program.runs_ofExcept_bind_ok.mp hruns
  obtain ⟨employees, _, _, -, -, hruns⟩ := Program.runs_bind_ok.mp hruns
  obtain ⟨_, -, hruns⟩ := Program.runs_ofExcept_bind_ok.mp hruns
  obtain ⟨filters, -, hruns⟩ := Program.runs_ofExcept_bind_ok.mp hruns
  obtain ⟨segments, _, _, -, -, hruns⟩ := Program.runs_bind_ok.mp hruns
  obtain ⟨_, -, hruns⟩ := Program.runs_ofExcept_bind_ok.mp hruns
  obtain ⟨_, -, hruns⟩ := Program.runs_ofExcept_bind_ok.mp hruns
  obtain ⟨found, _, _, -, -, hruns⟩ := Program.runs_bind_ok.mp hruns
  obtain ⟨fresh, _, _, -, -, hruns⟩ := Program.runs_bind_ok.mp hruns
  obtain ⟨freshStructure, _, _, -, -, hruns⟩ := Program.runs_bind_ok.mp hruns
  obtain ⟨_, heditable, hruns⟩ := Program.runs_ofExcept_bind_ok.mp hruns
  obtain ⟨_, -, hruns⟩ := Program.runs_ofExcept_bind_ok.mp hruns
  obtain ⟨-, hsame⟩ := Program.runs_ret.mp hruns
  cases hsame
  exact ensure_ok.mp heditable

theorem editable_of_readWriteCheckpoint {companyId payslipId : Int}
    {expected checkpoint : PayrollWriteCheckpoint} {included : Bool} {trace : List OdooEvent}
    (hruns : Program.Runs (reader.readWriteCheckpoint companyId expected payslipId included) trace
      (.ok checkpoint)) : editable reader.version checkpoint.payslip = true := by
  unfold readWriteCheckpoint at hruns
  obtain ⟨_, -, hruns⟩ := Program.runs_ofExcept_bind_ok.mp hruns
  obtain ⟨payslip, _, _, -, haction, hruns⟩ := Program.runs_bind_ok.mp hruns
  have heditable := reader.editable_of_actionPayslip haction
  obtain ⟨inputs, _, _, -, -, hruns⟩ := Program.runs_bind_ok.mp hruns
  obtain ⟨employees, _, _, -, -, hruns⟩ := Program.runs_bind_ok.mp hruns
  obtain ⟨employee, -, hruns⟩ := Program.runs_ofExcept_bind_ok.mp hruns
  obtain ⟨filters, -, hruns⟩ := Program.runs_ofExcept_bind_ok.mp hruns
  obtain ⟨contracts, _, _, -, -, hruns⟩ := Program.runs_bind_ok.mp hruns
  obtain ⟨contract, -, hruns⟩ := Program.runs_ofExcept_bind_ok.mp hruns
  obtain ⟨found, _, _, -, -, hruns⟩ := Program.runs_bind_ok.mp hruns
  obtain ⟨inputTypes, _, _, -, -, hruns⟩ := Program.runs_bind_ok.mp hruns
  obtain ⟨lines, _, _, -, -, hruns⟩ := Program.runs_bind_ok.mp hruns
  obtain ⟨days, _, _, -, -, hruns⟩ := Program.runs_bind_ok.mp hruns
  obtain ⟨-, hsame⟩ := Program.runs_ret.mp hruns
  cases hsame
  exact heditable

/-- The trace reads a checkpoint that equals the expected one and shows an editable payslip. -/
def CheckpointRead (companyId : Int) (expected : PayrollWriteCheckpoint) (payslipId : Int)
    (included : Bool) (trace : List OdooEvent) : Prop :=
  ∃ observed, Program.Runs (reader.readWriteCheckpoint companyId expected payslipId included) trace
      (.ok observed) ∧
    observed.Same expected ∧ editable reader.version observed.payslip = true

theorem runs_validatedWriteCheckpoint {companyId payslipId : Int}
    {expected : PayrollWriteCheckpoint} {included : Bool} {trace : List OdooEvent}
    {result : Except PyException PayrollWriteCheckpoint}
    (hruns : Program.Runs
      (reader.validatedWriteCheckpoint companyId expected payslipId included) trace result) :
    ReadOnly trace ∧ ∀ checkpoint, result = .ok checkpoint → ∃ first second,
      trace = first ++ second ∧ reader.CheckpointRead companyId expected payslipId included first ∧
      reader.CheckpointRead companyId expected payslipId included second ∧
      checkpoint.Same expected := by
  have hread := reader.reading_readWriteCheckpoint companyId expected payslipId included
  unfold validatedWriteCheckpoint at hruns
  rcases Program.runs_bind.mp hruns with
    ⟨outcome, reads, rest, rfl, hattempt, hrest⟩ | ⟨error, -, hattempt⟩
  swap
  · obtain ⟨outcome, himpossible, -⟩ := Program.runs_attempt.mp hattempt
    cases himpossible
  obtain ⟨_, hsame, hreads⟩ := Program.runs_attempt.mp hattempt
  cases hsame
  have hreadOnly : ReadOnly reads :=
    Reading.readOnly (.bind hread fun _ => .bind hread fun _ => .ret _) hreads
  rcases Program.runs_ofExcept_bind.mp hrest with
    ⟨checkpoints, hcheckpoints, hrest⟩ | ⟨error, -, rfl, rfl⟩
  swap
  · exact ⟨by simpa using hreadOnly, by simp⟩
  rcases Program.runs_ofExcept_bind.mp hrest with
    ⟨⟨⟩, hensure, hrest⟩ | ⟨error, -, rfl, rfl⟩
  swap
  · exact ⟨by simpa using hreadOnly, by simp⟩
  obtain ⟨rfl, rfl⟩ := Program.runs_ret.mp hrest
  refine ⟨by simpa using hreadOnly, ?_⟩
  rintro _ ⟨⟩
  have hok : outcome = .ok checkpoints := by
    cases outcome with
    | ok found => exact hcheckpoints
    | error raised =>
        cases raised with
        | odooMcpError found =>
            rw [checkpointOutcome] at hcheckpoints
            split at hcheckpoints <;> cases hcheckpoints
        | _ => cases hcheckpoints
  subst hok
  obtain ⟨observed, first, tail, rfl, hfirst, htail⟩ := Program.runs_bind_ok.mp hreads
  obtain ⟨final, second, last, rfl, hsecond, hlast⟩ := Program.runs_bind_ok.mp htail
  obtain ⟨rfl, hpair⟩ := Program.runs_ret.mp hlast
  cases hpair
  have hboth := ensure_ok.mp hensure
  simp only [Bool.and_eq_true, decide_eq_true_eq] at hboth
  refine ⟨first, second, by simp, ⟨observed, hfirst, hboth.1, ?_⟩, ⟨final, hsecond, hboth.2, ?_⟩,
    hboth.2⟩
  · exact reader.editable_of_readWriteCheckpoint hfirst
  · exact reader.editable_of_readWriteCheckpoint hsecond

/-! ### The writes -/

/-- Every run calls at most one method, only after two reads of the expected checkpoint that are
next to each other, and reports a rejection only if no such call had an effect. -/
def Guarded {α : Type} (companyId : Int) (expected : PayrollWriteCheckpoint) (payslipId : Int)
    (included : Bool) (excused : OdooEvent → Prop) (program : Odoo α) : Prop :=
  ∀ trace result, Program.Runs program trace result → TransportErrors trace →
    trace.countP (fun event => callsMethod event.request) ≤ 1 ∧
    (∀ before event after, trace = before ++ event :: after → callsMethod event.request = true →
      ∃ first second, before = first ++ second ∧
        reader.CheckpointRead companyId expected payslipId included first ∧
        reader.CheckpointRead companyId expected payslipId included second) ∧
    (Rejected result → ∀ event ∈ trace, callsMethod event.request = true →
      Refused event ∨ excused event)

variable {reader} {companyId payslipId : Int} {expected : PayrollWriteCheckpoint} {included : Bool}
  {excused : OdooEvent → Prop}

theorem guarded_check {α β : Type} {outcome : Except PyException α} {next : α → Odoo β}
    (hnext : ∀ value, reader.Guarded companyId expected payslipId included excused (next value)) :
    reader.Guarded companyId expected payslipId included excused
      (Program.ofExcept outcome >>= next) := by
  intro trace result hruns htransport
  rcases Program.runs_ofExcept_bind.mp hruns with ⟨value, -, hrest⟩ | ⟨error, -, rfl, -⟩
  · exact hnext value trace result hrest htransport
  · simp

/-- The call can only be the first event after the reads. -/
theorem eq_of_append_cons {first rest before after : List OdooEvent} {event called : OdooEvent}
    (hfirst : ReadOnly first) (hrest : ReadOnly rest) (hcalls : callsMethod called.request = true)
    (hsplit : first ++ event :: rest = before ++ called :: after) :
    before = first ∧ called = event := by
  rcases List.append_eq_append_iff.mp hsplit with ⟨gap, rfl, hgap⟩ | ⟨gap, rfl, hgap⟩
  · cases gap with
    | nil =>
        obtain ⟨rfl, -⟩ : event = called ∧ rest = after := by simpa using hgap
        exact ⟨by simp, rfl⟩
    | cons head tail =>
        have hmem : called ∈ rest := by
          obtain ⟨-, rfl⟩ : event = head ∧ rest = tail ++ called :: after := by simpa using hgap
          simp
        rw [hrest called hmem] at hcalls
        cases hcalls
  · cases gap with
    | nil =>
        obtain ⟨rfl, -⟩ : called = event ∧ after = rest := by simpa using hgap
        exact ⟨by simp, rfl⟩
    | cons head tail =>
        have hmem : called ∈ before ++ head :: tail := by
          obtain ⟨rfl, -⟩ : called = head ∧ after = tail ++ event :: rest := by simpa using hgap
          simp
        rw [hfirst called hmem] at hcalls
        cases hcalls

theorem guarded_checkpoint {α : Type} {next : PayrollWriteCheckpoint → Odoo α}
    (hnext : ∀ checkpoint, CallsOnce excused (next checkpoint)) :
    reader.Guarded companyId expected payslipId included excused
      (reader.validatedWriteCheckpoint companyId expected payslipId included >>= next) := by
  intro trace result hruns htransport
  rcases Program.runs_bind.mp hruns with
    ⟨checkpoint, reads, tail, rfl, hreads, htail⟩ | ⟨error, rfl, hreads⟩
  · obtain ⟨hreadOnly, hvalid⟩ := reader.runs_validatedWriteCheckpoint hreads
    have htransportTail : TransportErrors tail := fun event hevent =>
      htransport event (List.mem_append_right _ hevent)
    rcases hnext checkpoint tail result htail htransportTail with
      rfl | ⟨event, rest, rfl, hcalls, hrest, hrejected⟩
    · rw [List.append_nil]
      refine ⟨by simp [hreadOnly.countP_eq_zero], fun before event after hsplit hcalls => ?_,
        fun _ event hevent hcalls => ?_⟩
      · rw [hreadOnly event (by simp [hsplit])] at hcalls
        cases hcalls
      · rw [hreadOnly event hevent] at hcalls
        cases hcalls
    · refine ⟨?_, fun before called after hsplit hcalled => ?_,
        fun hresult called hmem hcalled => ?_⟩
      · rw [List.countP_append, List.countP_cons, hreadOnly.countP_eq_zero, hrest.countP_eq_zero]
        simp [hcalls]
      · obtain ⟨rfl, -⟩ := eq_of_append_cons hreadOnly hrest hcalled hsplit
        obtain ⟨first, second, hboth, hfirst, hsecond, -⟩ := hvalid checkpoint rfl
        exact ⟨first, second, hboth, hfirst, hsecond⟩
      · obtain ⟨before, after, hsplit⟩ := List.append_of_mem hmem
        obtain ⟨-, rfl⟩ := eq_of_append_cons hreadOnly hrest hcalled hsplit
        exact hrejected hresult
  · obtain ⟨hreadOnly, -⟩ := reader.runs_validatedWriteCheckpoint hreads
    refine ⟨by simp [hreadOnly.countP_eq_zero], fun before event after hsplit hcalls => ?_,
      fun _ event hevent hcalls => ?_⟩
    · rw [hreadOnly event (by simp [hsplit])] at hcalls
      cases hcalls
    · rw [hreadOnly event hevent] at hcalls
      cases hcalls

end PayrollReader

inductive PayrollWrite
  | create (payload : DraftPayslipInputCreate)
  | update (inputId : Int) (payload : DraftPayslipInputUpdate)
  | delete (payslipId inputId : Int)
  | recompute (payslipId : Int)

namespace PayrollWrite

abbrev Result : PayrollWrite → Type
  | create _ => PayslipInput
  | update _ _ => PayslipInput
  | delete _ _ => DeletedPayslipInput
  | recompute _ => Payslip

def payslipId : PayrollWrite → Int
  | create payload => payload.payslipId
  | update _ payload => payload.payslipId
  | delete payslipId _ => payslipId
  | recompute payslipId => payslipId

/-- The checkpoint of a recalculation includes the calculation sources. -/
def recomputes : PayrollWrite → Bool
  | recompute _ => true
  | _ => false

def run (reader : PayrollReader) (companyId : Int) (expected : PayrollWriteCheckpoint) :
    (write : PayrollWrite) → Odoo write.Result
  | create payload => reader.createDraftPayslipInput companyId payload expected
  | update inputId payload => reader.updateDraftPayslipInput companyId inputId payload expected
  | delete payslipId inputId =>
      reader.deleteDraftPayslipInput companyId payslipId inputId expected
  | recompute payslipId => reader.recomputeDraftPayslip companyId payslipId expected

end PayrollWrite

namespace PayrollReader

variable (reader : PayrollReader)

theorem sound_validatePostActionParent (expected observed : Payslip) (allowStateChange : Bool) :
    Sound (reader.validatePostActionParent expected observed allowStateChange) :=
  (reader.sound_requireEditable _).bind fun _ => Sound.ensure ownError_stateConflict

theorem reading_createReadBack (companyId : Int) (payload : DraftPayslipInputCreate)
    (checkpoint : PayrollWriteCheckpoint) (inputType : PayrollInputType) (result : PyValue) :
    Reading (reader.createReadBack companyId payload checkpoint inputType result) := by
  unfold createReadBack
  refine .bind (.ofExcept (Sound.orRaise ownError_invalidPayroll)) fun createdId => ?_
  refine .bind (reader.reading_exactInput ..) fun created => ?_
  refine .bind (.ofExcept (Sound.ensure ownError_inconsistent)) fun _ => ?_
  refine .bind (reader.reading_allInputs ..) fun postInputs => ?_
  refine .bind (.ofExcept (Sound.ensure ownError_stateConflict)) fun _ => ?_
  refine .bind (reader.reading_exactPayslip ..) fun parent => ?_
  exact .bind (.ofExcept (reader.sound_validatePostActionParent _ _ _)) fun _ => .ret _

theorem reading_updateReadBack (companyId inputId : Int) (payload : DraftPayslipInputUpdate)
    (checkpoint : PayrollWriteCheckpoint) (current : PayslipInput) (result : PyValue) :
    Reading (reader.updateReadBack companyId inputId payload checkpoint current result) := by
  unfold updateReadBack
  refine .bind (.ofExcept ?_) fun _ => ?_
  · split
    · exact Sound.ok _
    · exact Sound.raise (ownError_payrollApiError _)
  refine .bind (reader.reading_exactInput ..) fun updated => ?_
  refine .bind (.ofExcept (Sound.ensure ownError_inconsistent)) fun _ => ?_
  refine .bind (reader.reading_allInputs ..) fun postInputs => ?_
  refine .bind (.ofExcept (Sound.ensure ownError_stateConflict)) fun _ => ?_
  refine .bind (reader.reading_exactPayslip ..) fun parent => ?_
  exact .bind (.ofExcept (reader.sound_validatePostActionParent _ _ _)) fun _ => .ret _

theorem reading_deleteReadBack (companyId inputId : Int) (checkpoint : PayrollWriteCheckpoint)
    (result : PyValue) : Reading (reader.deleteReadBack companyId inputId checkpoint result) := by
  unfold deleteReadBack
  refine .bind (.ofExcept ?_) fun _ => ?_
  · split
    · exact Sound.ok _
    · exact Sound.raise (ownError_payrollApiError _)
  refine .bind (.ofExcept (sound_childFilters _ _)) fun filters => ?_
  refine .bind (reader.reading_getPayslipInputs ..) fun remaining => ?_
  refine .bind (reader.reading_exactPayslip ..) fun parent => ?_
  refine .bind (.ofExcept (reader.sound_validatePostActionParent _ _ _)) fun _ => ?_
  refine .bind (.ofExcept (Sound.ensure ownError_inconsistent)) fun _ => ?_
  refine .bind (reader.reading_allInputs ..) fun postInputs => ?_
  exact .bind (.ofExcept (Sound.ensure ownError_stateConflict)) fun _ => .ret _

/-- The reads after a recalculation raise a rejection only if the answer was `False`. -/
theorem straight_recomputeReadBack (companyId payslipId : Int)
    (checkpoint : PayrollWriteCheckpoint) (result : PyValue) :
    (reader.recomputeReadBack companyId payslipId checkpoint result).Straight Reads fun error =>
      OwnError error ∨ result = .bool false := by
  unfold recomputeReadBack
  refine .bind (.ofExcept ?_) fun _ => Program.Straight.weaken
    (.bind (reader.reading_exactPayslip ..) fun refreshed =>
      .bind (.ofExcept (reader.sound_validatePostActionParent _ _ _)) fun _ =>
        .bind (reader.reading_allInputs ..) fun postInputs =>
          .bind (.ofExcept (Sound.ensure ownError_stateConflict)) fun _ => .ret _)
    fun error => .inl
  intro error herror
  split at herror
  · exact .inr rfl
  · cases herror
  · cases herror
  · cases herror
    exact .inl (ownError_payrollApiError _)

theorem Reading.orExcused {α : Type} {program : Odoo α} (hreading : Reading program)
    (excused : Prop) : program.Straight Reads fun error => OwnError error ∨ excused :=
  hreading.weaken fun _ => .inl

/-- **The guard of the payroll mutations.** A write calls a method at most once, after two reads of
the expected checkpoint that show an editable payslip. It reports a rejection only if that call was
never made, was denied, or, for a recalculation, was answered with `False`. -/
theorem write_guarded (companyId : Int) (expected : PayrollWriteCheckpoint) (write : PayrollWrite)
    {trace : List OdooEvent} {result : Except PyException write.Result}
    (hruns : Program.Runs (write.run reader companyId expected) trace result)
    (htransport : TransportErrors trace) :
    trace.countP (fun event => callsMethod event.request) ≤ 1 ∧
    (∀ before event after, trace = before ++ event :: after → callsMethod event.request = true →
      ∃ first second, before = first ++ second ∧
        reader.CheckpointRead companyId expected write.payslipId write.recomputes first ∧
        reader.CheckpointRead companyId expected write.payslipId write.recomputes second) ∧
    (Rejected result → ∀ event ∈ trace, callsMethod event.request = true →
      Refused event ∨ (write.recomputes = true ∧ ReturnedFalse event)) := by
  have hguarded : reader.Guarded companyId expected write.payslipId write.recomputes
      (fun event => write.recomputes = true ∧ ReturnedFalse event)
      (write.run reader companyId expected) := by
    cases write with
    | create payload =>
        refine guarded_checkpoint fun checkpoint => callsOnce_check fun inputType => ?_
        exact callsOnce_mutate _ _ _ _ _ fun value =>
          Reading.orExcused (reader.reading_createReadBack ..) _
    | update inputId payload =>
        refine guarded_check fun _ => guarded_checkpoint fun checkpoint => ?_
        refine callsOnce_check fun current => callsOnce_mutate _ _ _ _ _ fun value => ?_
        exact Reading.orExcused (reader.reading_updateReadBack ..) _
    | delete payslipId inputId =>
        refine guarded_check fun _ => guarded_check fun _ => guarded_checkpoint fun checkpoint => ?_
        refine callsOnce_check fun current => callsOnce_mutate _ _ _ _ _ fun value => ?_
        exact Reading.orExcused (reader.reading_deleteReadBack ..) _
    | recompute payslipId =>
        refine guarded_checkpoint fun checkpoint => callsOnce_check fun _ => ?_
        refine callsOnce_mutate _ _ _ _ _ fun value => ?_
        refine (reader.straight_recomputeReadBack ..).weaken fun error herror => ?_
        rcases herror with howns | rfl
        · exact .inl howns
        · exact .inr ⟨rfl, _, _, _, _, _, rfl⟩
  exact hguarded trace result hruns htransport

/-! ### A deletion -/

def lastWrite : DateTime := ⟨737996 * DateTime.dayLength, none⟩

/-- The rows of a database with payslip 9, whose input 31 may have been deleted. -/
def sampleRows (deleted : Bool) (model : String) : List Payload :=
  let stamp : String × PyValue := ("write_date", .str "2021-07-26 00:00:00")
  let related (id : Int) (name : String) : PyValue := .list [.int id, .str name]
  match model with
  | "hr.payslip" =>
      [[("id", .int 9), ("name", .str "July"), ("employee_id", related 5 "Ada"),
        ("date_from", .str "2021-07-01"), ("date_to", .str "2021-07-31"), ("state", .str "draft"),
        ("company_id", related 1 "Company"), ("version_id", related 6 "Contract"),
        ("struct_id", related 2 "Monthly"), ("payslip_run_id", .bool false),
        ("credit_note", .bool false), ("currency_id", related 1 "EUR"), stamp]]
  | "hr.payslip.input" =>
      if deleted then [] else
        [[("id", .int 31), ("name", .str "Bonus"), ("payslip_id", related 9 "July"),
          ("sequence", .int 10), ("input_type_id", related 4 "Bonus"), ("code", .str "BONUS"),
          ("amount", .int 100), ("version_id", related 6 "Contract"), stamp]]
  | "hr.employee" =>
      [[("id", .int 5), ("name", .str "Ada"), ("active", .bool true),
        ("company_id", related 1 "Company"), stamp]]
  | "hr.version" =>
      [[("id", .int 6), ("employee_id", related 5 "Ada"), ("company_id", related 1 "Company"),
        ("active", .bool true), ("date_version", .str "2021-01-01"),
        ("contract_date_start", .str "2021-01-01"), ("contract_date_end", .bool false),
        ("wage", .int 3000), ("currency_id", related 1 "EUR"), ("structure_type_id", .bool false),
        ("resource_calendar_id", .bool false), ("department_id", .bool false),
        ("job_id", .bool false), ("contract_type_id", .bool false), stamp]]
  | "hr.payroll.structure" =>
      [[("id", .int 2), ("input_line_type_ids", .list [.int 4]), stamp]]
  | "hr.payslip.input.type" =>
      [[("id", .int 4), ("name", .str "Bonus"), ("code", .str "BONUS"),
        ("struct_ids", .list [.int 2]), ("active", .bool true), ("is_quantity", .bool false),
        ("available_in_attachments", .bool false), stamp]]
  | _ => []

/-- A database that answers from its rows and deletes the input when it is told to. -/
def sampleOdoo (request : OdooRequest) (deleted : Bool) :
    Except PyException (odooSignature.Result request) × Bool :=
  match request with
  | .connect => (.ok (), deleted)
  | .searchCount model _ _ => (.ok (sampleRows deleted model).length, deleted)
  | .searchRead model _ fields _ _ _ _ =>
      (.ok ((sampleRows deleted model).map fun row => row.filter fun entry =>
        fields.contains entry.1), deleted)
  | .executeMethod _ _ _ _ _ => (.ok (.bool true), true)
  | .close => (.ok (), deleted)

def sampleReader : PayrollReader := ⟨.v19, some [1], fun text => text⟩

def sampleCheckpoint : PayrollWriteCheckpoint where
  version := .v19
  payslip :=
    { id := 9, name := "July", reference := "July", employee := ⟨5, "Ada", by decide⟩
      dateFrom := ⟨737971⟩, dateTo := ⟨738001⟩, state := .draft, sourceState := "draft"
      companyId := 1, contractSegment := ⟨6, "Contract", by decide⟩, contractSource := .hrVersion
      payrollStructure := ⟨2, "Monthly", by decide⟩, batch := none, creditNote := false
      currency := ⟨1, "EUR", by decide⟩, writeDate := lastWrite }
  inputs :=
    [{ id := 31, name := "Bonus", payslip := ⟨9, "July", by decide⟩, sequence := 10
       inputType := ⟨4, "Bonus", by decide⟩, code := "BONUS", amount := .ofInt 100
       contractSegment := ⟨6, "Contract", by decide⟩, contractSource := .hrVersion
       writeDate := lastWrite }]
  employee := ⟨5, "Ada", true, 1, lastWrite⟩
  contract :=
    { sourceModel := .hrVersion, id := 6, employee := ⟨5, "Ada", by decide⟩, companyId := 1
      active := true, sourceStatus := .unavailable, revisionDate := some ⟨737790⟩
      effectiveStart := ⟨737971⟩, effectiveEnd := ⟨738001⟩, wage := .ofInt 3000
      currency := ⟨1, "EUR", by decide⟩, structureType := none, resourceCalendar := none
      department := none, job := none, contractType := none, writeDate := lastWrite }
  payrollStructure := ⟨2, [4], lastWrite⟩
  inputTypes :=
    [{ id := 4, name := "Bonus", code := "BONUS", structureIds := [2], active := true
       isQuantity := false, availableInAttachments := false, writeDate := lastWrite }]
  inputTypesTruncated := false
  calculatedLines := []
  workedDays := []

def sampleDeletion : Odoo DeletedPayslipInput :=
  (PayrollWrite.delete 9 31).run sampleReader 1 sampleCheckpoint

theorem transportErrors_sampleOdoo {α : Type} (program : Odoo α) (deleted : Bool) :
    TransportErrors (program.traceWith sampleOdoo deleted) := by
  refine Program.forall_mem_traceWith (fun request deleted => ?_) program deleted
  intro error herror
  cases request <;> cases herror

/-- The deletion goes through: its call is made, and the read-back accepts what it did. -/
theorem sampleDeletion_returns :
    ((sampleDeletion.runWith sampleOdoo false).1 matches .ok _) ∧
      (sampleDeletion.traceWith sampleOdoo false).any
        (fun event => callsMethod event.request) = true := by
  decide +kernel

theorem write_guarded_sampleDeletion :
    ((sampleDeletion.runWith sampleOdoo false).1 matches .ok _) ∧
      ∃ first second event after,
        sampleDeletion.traceWith sampleOdoo false = first ++ second ++ event :: after ∧
          callsMethod event.request = true ∧
          sampleReader.CheckpointRead 1 sampleCheckpoint 9 false first ∧
          sampleReader.CheckpointRead 1 sampleCheckpoint 9 false second ∧
          after.countP (fun event => callsMethod event.request) = 0 := by
  obtain ⟨hreturned, hcalled⟩ := sampleDeletion_returns
  obtain ⟨hcount, hreads, -⟩ := sampleReader.write_guarded 1 sampleCheckpoint (.delete 9 31)
    (sampleDeletion.runs_traceWith false) (transportErrors_sampleOdoo sampleDeletion false)
  obtain ⟨event, hmem, hcalls⟩ := List.any_eq_true.mp hcalled
  obtain ⟨before, after, htrace⟩ := List.append_of_mem hmem
  obtain ⟨first, second, rfl, hfirst, hsecond⟩ := hreads before event after htrace hcalls
  refine ⟨hreturned, first, second, event, after, htrace, hcalls, hfirst, hsecond, ?_⟩
  change (sampleDeletion.traceWith sampleOdoo false).countP _ ≤ 1 at hcount
  rw [htrace, List.countP_append, List.countP_cons, if_pos hcalls] at hcount
  omega

end PayrollReader

end OdooMcp
