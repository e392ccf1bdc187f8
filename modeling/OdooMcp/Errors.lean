import Mathlib.Data.List.Forall2
import Mathlib.Tactic.Common

/-!
# Public errors and the exceptions the code tells apart

`PyException` lists the classes that some handler of the modelled code names. Any other subclass of
`Exception` is `exception`; an `except Exception` clause catches all of them except
`cancelledError`, which derives from `BaseException`.
-/

namespace OdooMcp

inductive ErrorCode
  | odooAuthFailed
  | odooApiError
  | odooVersionUnsupported
  | odooTransportNegotiationFailed
  | odooPermissionDenied
  | companyNotFound
  | capabilityNotAvailable
  | executionNotExplicit
  | odooStateConflict
  | concurrentOperationInProgress
  | idempotencyKeyPayloadMismatch
  | journalNotFound
  | statementLineNotFound
  | accountNotFound
  | journalEntryNotDraft
  | journalEntryUnbalanced
  | payrollPeriodNotFound
  | insufficientComparisonData
  | payrollBatchNotFound
  | payslipNotFound
  | payrollStructureNotFound
  | contractDataMissing
  | employeeNotFound
  | payrollSourceInconsistent
  | payrollResultTooLarge
  | payrollInputNotFound
  | payrollInputTypeNotAllowed
  | payrollStateNotEditable
  | payrollRecalculationFailed
  | invalidInput
  | modelNotAllowed
  | fieldDenied
  | unknownError
  deriving DecidableEq, Repr

namespace ErrorCode

def value : ErrorCode → String
  | odooAuthFailed => "ODOO_AUTH_FAILED"
  | odooApiError => "ODOO_API_ERROR"
  | odooVersionUnsupported => "ODOO_VERSION_UNSUPPORTED"
  | odooTransportNegotiationFailed => "ODOO_TRANSPORT_NEGOTIATION_FAILED"
  | odooPermissionDenied => "ODOO_PERMISSION_DENIED"
  | companyNotFound => "COMPANY_NOT_FOUND"
  | capabilityNotAvailable => "CAPABILITY_NOT_AVAILABLE"
  | executionNotExplicit => "EXECUTION_NOT_EXPLICIT"
  | odooStateConflict => "ODOO_STATE_CONFLICT"
  | concurrentOperationInProgress => "CONCURRENT_OPERATION_IN_PROGRESS"
  | idempotencyKeyPayloadMismatch => "IDEMPOTENCY_KEY_PAYLOAD_MISMATCH"
  | journalNotFound => "JOURNAL_NOT_FOUND"
  | statementLineNotFound => "STATEMENT_LINE_NOT_FOUND"
  | accountNotFound => "ACCOUNT_NOT_FOUND"
  | journalEntryNotDraft => "JOURNAL_ENTRY_NOT_DRAFT"
  | journalEntryUnbalanced => "JOURNAL_ENTRY_UNBALANCED"
  | payrollPeriodNotFound => "PAYROLL_PERIOD_NOT_FOUND"
  | insufficientComparisonData => "INSUFFICIENT_COMPARISON_DATA"
  | payrollBatchNotFound => "PAYROLL_BATCH_NOT_FOUND"
  | payslipNotFound => "PAYSLIP_NOT_FOUND"
  | payrollStructureNotFound => "PAYROLL_STRUCTURE_NOT_FOUND"
  | contractDataMissing => "CONTRACT_DATA_MISSING"
  | employeeNotFound => "EMPLOYEE_NOT_FOUND"
  | payrollSourceInconsistent => "PAYROLL_SOURCE_INCONSISTENT"
  | payrollResultTooLarge => "PAYROLL_RESULT_TOO_LARGE"
  | payrollInputNotFound => "PAYROLL_INPUT_NOT_FOUND"
  | payrollInputTypeNotAllowed => "PAYROLL_INPUT_TYPE_NOT_ALLOWED"
  | payrollStateNotEditable => "PAYROLL_STATE_NOT_EDITABLE"
  | payrollRecalculationFailed => "PAYROLL_RECALCULATION_FAILED"
  | invalidInput => "INVALID_INPUT"
  | modelNotAllowed => "MODEL_NOT_ALLOWED"
  | fieldDenied => "FIELD_DENIED"
  | unknownError => "UNKNOWN_ERROR"

def all : List ErrorCode :=
  [odooAuthFailed, odooApiError, odooVersionUnsupported, odooTransportNegotiationFailed,
    odooPermissionDenied, companyNotFound, capabilityNotAvailable, executionNotExplicit,
    odooStateConflict, concurrentOperationInProgress, idempotencyKeyPayloadMismatch,
    journalNotFound, statementLineNotFound, accountNotFound, journalEntryNotDraft,
    journalEntryUnbalanced, payrollPeriodNotFound, insufficientComparisonData,
    payrollBatchNotFound, payslipNotFound, payrollStructureNotFound, contractDataMissing,
    employeeNotFound, payrollSourceInconsistent, payrollResultTooLarge, payrollInputNotFound,
    payrollInputTypeNotAllowed, payrollStateNotEditable, payrollRecalculationFailed, invalidInput,
    modelNotAllowed, fieldDenied, unknownError]

/-- `ErrorCode(text)`: the member with this value, if there is one. -/
def ofValue? (text : String) : Option ErrorCode :=
  all.find? fun code => code.value = text

end ErrorCode

structure OdooMcpError where
  code : ErrorCode
  safeMessage : String
  remediationHint : String
  deriving DecidableEq, Repr

inductive PyException
  | cancelledError
  | odooMcpError (error : OdooMcpError)
  | knownWriteFailure (error : OdooMcpError)
  | payrollWriteRejected (error : OdooMcpError)
  | idempotencyPayloadMismatch
  | exception (message : String)
  deriving DecidableEq, Repr

def orRaise {α : Type} (value : Option α) (error : PyException) : Except PyException α :=
  match value with
  | some found => .ok found
  | none => .error error

def ensure (condition : Bool) (error : PyException) : Except PyException Unit :=
  if condition then .ok () else .error error

@[simp]
theorem orRaise_ok {α : Type} {value : Option α} {error : PyException} {found : α} :
    orRaise value error = .ok found ↔ value = some found := by
  cases value <;> simp [orRaise]

@[simp]
theorem ensure_ok {condition : Bool} {error : PyException} {value : Unit} :
    ensure condition error = .ok value ↔ condition = true := by
  cases condition <;> simp [ensure]

section Except

variable {α β : Type}

theorem except_bind_ok {ε : Type} {outcome : Except ε α} {next : α → Except ε β} {value : β} :
    (outcome >>= next) = .ok value ↔ ∃ first, outcome = .ok first ∧ next first = .ok value := by
  cases outcome <;> simp [bind, Except.bind]

theorem ok_of_isOk {ε : Type} {outcome : Except ε α} (hok : outcome.isOk = true) :
    ∃ value, outcome = .ok value := by
  cases outcome with
  | ok value => exact ⟨value, rfl⟩
  | error _ => cases hok

theorem ok_of_toOption_map {ε : Type} {outcome : Except ε α} {view : α → β} {seen : β}
    (hseen : outcome.toOption.map view = some seen) :
    ∃ value, outcome = .ok value ∧ view value = seen := by
  cases outcome with
  | ok value => exact ⟨value, rfl, Option.some.inj hseen⟩
  | error _ => cases hseen

theorem except_bind_exists {ε : Type} {outcome : Except ε α} {next : α → Except ε β}
    (houtcome : ∃ first, outcome = .ok first)
    (hnext : ∀ first, outcome = .ok first → ∃ value, next first = .ok value) :
    ∃ value, (outcome >>= next) = .ok value := by
  obtain ⟨first, hfirst⟩ := houtcome
  obtain ⟨value, hvalue⟩ := hnext first hfirst
  exact ⟨value, except_bind_ok.mpr ⟨first, hfirst, hvalue⟩⟩

theorem length_of_mapM {next : α → Except PyException β} {items : List α} {results : List β}
    (hresults : items.mapM next = .ok results) : results.length = items.length := by
  induction items generalizing results with
  | nil =>
      cases hresults
      rfl
  | cons item items ih =>
      rw [List.mapM_cons, except_bind_ok] at hresults
      obtain ⟨first, -, hrest⟩ := hresults
      obtain ⟨remaining, hremaining, hdone⟩ := except_bind_ok.mp hrest
      cases hdone
      rw [List.length_cons, List.length_cons, ih hremaining]

theorem forall₂_of_mapM_ok {ε : Type} {next : α → Except ε β} {items : List α}
    {results : List β} (hresults : items.mapM next = .ok results) :
    List.Forall₂ (fun item result => next item = .ok result) items results := by
  induction items generalizing results with
  | nil =>
      cases hresults
      exact .nil
  | cons item items ih =>
      rw [List.mapM_cons, except_bind_ok] at hresults
      obtain ⟨first, hfirst, hrest⟩ := hresults
      obtain ⟨remaining, hremaining, hdone⟩ := except_bind_ok.mp hrest
      cases hdone
      exact .cons hfirst (ih hremaining)

theorem exists_mapM_ok {ε : Type} {next : α → Except ε β} {items : List α}
    (hnext : ∀ item ∈ items, ∃ result, next item = .ok result) :
    ∃ results, items.mapM next = .ok results := by
  induction items with
  | nil => exact ⟨[], rfl⟩
  | cons item items ih =>
      obtain ⟨⟨result, hresult⟩, hrest⟩ := List.forall_mem_cons.mp hnext
      obtain ⟨results, hresults⟩ := ih hrest
      refine ⟨result :: results, ?_⟩
      rw [List.mapM_cons, hresult, hresults]
      rfl

/-- If this raises, it raises an exception that no handler names. -/
def Ordinary (outcome : Except PyException α) : Prop :=
  ∀ error, outcome = .error error → ∃ message, error = .exception message

theorem ordinary_ok (value : α) : Ordinary (.ok value) := by
  intro error herror
  cases herror

theorem ordinary_exception (message : String) :
    Ordinary (.error (.exception message) : Except PyException α) := by
  rintro error ⟨⟩
  exact ⟨message, rfl⟩

theorem Ordinary.bind {outcome : Except PyException α} {next : α → Except PyException β}
    (hfirst : Ordinary outcome) (hnext : ∀ value, Ordinary (next value)) :
    Ordinary (outcome >>= next) := by
  cases outcome with
  | error raised =>
      rintro error ⟨⟩
      exact hfirst raised rfl
  | ok value => exact hnext value

theorem ordinary_orRaise (value : Option α) (message : String) :
    Ordinary (orRaise value (.exception message)) := by
  cases value with
  | none => exact ordinary_exception message
  | some found => exact ordinary_ok found

theorem ordinary_mapM {γ : Type} {next : γ → Except PyException α} (items : List γ)
    (hnext : ∀ item, Ordinary (next item)) : Ordinary (items.mapM next) := by
  induction items with
  | nil => exact ordinary_ok []
  | cons item items ih =>
      rw [List.mapM_cons]
      exact (hnext item).bind fun _ => ih.bind fun _ => ordinary_ok _

end Except

/-! ### Lists related item by item -/

theorem exists_of_forall₂_right {α β : Type} {related : α → β → Prop} {firsts : List α}
    {seconds : List β} (hforall : List.Forall₂ related firsts seconds) {second : β}
    (hsecond : second ∈ seconds) : ∃ first ∈ firsts, related first second := by
  induction hforall with
  | nil => cases hsecond
  | cons hpair _ ih =>
      rcases List.mem_cons.mp hsecond with rfl | hrest
      · exact ⟨_, List.mem_cons_self, hpair⟩
      · obtain ⟨first, hfirst, hrelated⟩ := ih hrest
        exact ⟨first, List.mem_cons_of_mem _ hfirst, hrelated⟩

theorem exists_of_forall₂_left {α β : Type} {related : α → β → Prop} {firsts : List α}
    {seconds : List β} (hforall : List.Forall₂ related firsts seconds) {first : α}
    (hfirst : first ∈ firsts) : ∃ second ∈ seconds, related first second :=
  exists_of_forall₂_right hforall.flip hfirst

theorem map_of_forall₂ {α β γ : Type} {related : α → β → Prop} {ofFirst : α → γ} {ofSecond : β → γ}
    {firsts : List α} {seconds : List β} (hforall : List.Forall₂ related firsts seconds)
    (hrelated : ∀ first second, related first second → ofSecond second = ofFirst first) :
    seconds.map ofSecond = firsts.map ofFirst := by
  induction hforall with
  | nil => rfl
  | cons hitem _ ih => rw [List.map_cons, List.map_cons, ih, hrelated _ _ hitem]

end OdooMcp
