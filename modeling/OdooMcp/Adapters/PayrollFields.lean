import OdooMcp.Adapters.PayrollValues
import OdooMcp.Adapters.AccountingFields

/-!
# Normalizing payroll records

The fields, the policy, the normalizers and the cursors of the payroll reader. A row has to hold
exactly the fields that were asked for.
-/

namespace OdooMcp

/-! ### Errors -/

def payrollApiError (message : String) : PyException :=
  .odooMcpError ⟨.odooApiError, message,
    "Check Odoo Payroll compatibility, data integrity, and access, then retry."⟩

/-- `_api_error()` -/
def invalidPayroll : PyException := payrollApiError "Odoo returned invalid Payroll data."

/-- `_inconsistent` -/
def inconsistent : PyException :=
  .odooMcpError ⟨.payrollSourceInconsistent, "Odoo returned inconsistent Payroll source data.",
    "Check the requested company, relationships, and Payroll records, then retry."⟩

/-- `_too_large` -/
def tooLarge : PyException :=
  .odooMcpError ⟨.payrollResultTooLarge, "The Payroll source exceeds the safe processing bound.",
    "Narrow the Payroll period or identifiers and retry."⟩

def stateConflictError : OdooMcpError :=
  ⟨.odooStateConflict, "The Payroll source changed while it was being read.",
    "Retry against fresh Odoo Payroll state."⟩

/-- `_state_conflict` -/
def stateConflict : PyException := .odooMcpError stateConflictError

def payrollError (code : ErrorCode) (message remediation : String) : PyException :=
  .odooMcpError ⟨code, message, remediation⟩

theorem ownError_payrollError {code : ErrorCode} (hcode : code ≠ .odooPermissionDenied)
    (message remediation : String) : OwnError (payrollError code message remediation) := hcode

theorem ownError_payrollApiError (message : String) : OwnError (payrollApiError message) := by
  simp [OwnError, payrollApiError]

theorem ownError_invalidPayroll : OwnError invalidPayroll := ownError_payrollApiError _

theorem ownError_inconsistent : OwnError inconsistent := by
  simp [OwnError, inconsistent]

theorem ownError_tooLarge : OwnError tooLarge := by
  simp [OwnError, tooLarge]

theorem ownError_stateConflict : OwnError stateConflict := by
  simp [OwnError, stateConflict, stateConflictError]

theorem ownError_payrollValueError : OwnError payrollValueError := trivial

/-! ### Policy and tables -/

def payrollModelReadAllowlist : PayrollVersion → List String
  | .v18 =>
      ["hr.payslip", "hr.payslip.run", "hr.payslip.line", "hr.payslip.worked_days",
        "hr.payslip.input", "hr.payslip.input.type", "hr.payroll.structure", "hr.employee",
        "hr.contract", "hr.work.entry"]
  | .v19 =>
      ["hr.payslip", "hr.payslip.run", "hr.payslip.line", "hr.payslip.worked_days",
        "hr.payslip.input", "hr.payslip.input.type", "hr.payroll.structure", "hr.employee",
        "hr.version", "hr.work.entry"]

/-- The same actions are allowed in both versions. -/
def payrollModelActionAllowlist : String → List String
  | "hr.payslip.input" => ["create_draft_input", "update_draft_input", "delete_draft_input"]
  | "hr.payslip" => ["compute_sheet_on_editable_payslip"]
  | _ => []

def ensurePayrollModelReadAllowed (version : PayrollVersion) (model : String) :
    Except PyException Unit :=
  ensure ((payrollModelReadAllowlist version).contains model) modelDenied

def ensurePayrollActionAllowed (model action : String) : Except PyException Unit :=
  ensure (!(["create", "write", "unlink"].contains action) &&
    (payrollModelActionAllowlist model).contains action) modelDenied

/-- `PAYROLL_SOURCE_CAPS` -/
def payrollSourceCap : String → Nat
  | "hr.payslip.line" => 100000
  | "hr.payslip.worked_days" => 100000
  | "hr.payslip.input" => 100000
  | "hr.work.entry" => 100000
  | "hr.contract" => 20000
  | "hr.version" => 20000
  | _ => 5000

def contractField : PayrollVersion → String
  | .v18 => "contract_id"
  | .v19 => "version_id"

def contractSourceOf : PayrollVersion → ContractSource
  | .v18 => .hrContract
  | .v19 => .hrVersion

/-- `PAYROLL_MODEL_FIELDS_BY_VERSION` -/
def payrollModelFields (version : PayrollVersion) : String → Option (List String)
  | "hr.payslip" =>
      some (["id", "name"] ++ (match version with | .v18 => ["number"] | .v19 => []) ++
        ["employee_id", "date_from", "date_to", "state", "company_id", contractField version,
          "struct_id", "payslip_run_id", "credit_note", "currency_id", "write_date"])
  | "hr.payslip.run" =>
      some ["id", "name", "date_start", "date_end", "state", "company_id", "write_date"]
  | "hr.payslip.line" =>
      some ["id", "slip_id", "salary_rule_id", "employee_id", contractField version, "name",
        "code", "category_id", "sequence", "quantity", "rate", "amount", "total", "currency_id",
        "write_date"]
  | "hr.payslip.worked_days" =>
      some ["id", "payslip_id", contractField version, "work_entry_type_id", "name", "code",
        "number_of_days", "number_of_hours", "amount", "currency_id", "write_date"]
  | "hr.payslip.input" =>
      some ["id", "name", "payslip_id", "sequence", "input_type_id", "code", "amount",
        contractField version, "write_date"]
  | "hr.payslip.input.type" =>
      some ["id", "name", "code", "struct_ids", "active", "is_quantity",
        "available_in_attachments", "write_date"]
  | "hr.payroll.structure" => some ["id", "input_line_type_ids", "write_date"]
  | "hr.employee" => some ["id", "name", "active", "company_id", "write_date"]
  | "hr.contract" =>
      match version with
      | .v18 =>
          some ["id", "employee_id", "company_id", "active", "state", "date_start", "date_end",
            "wage", "currency_id", "structure_type_id", "resource_calendar_id", "department_id",
            "job_id", "contract_type_id", "write_date"]
      | .v19 => none
  | "hr.version" =>
      match version with
      | .v18 => none
      | .v19 =>
          some ["id", "employee_id", "company_id", "active", "date_version",
            "contract_date_start", "contract_date_end", "wage", "currency_id",
            "structure_type_id", "resource_calendar_id", "department_id", "job_id",
            "contract_type_id", "write_date"]
  | "hr.work.entry" =>
      match version with
      | .v18 =>
          some ["id", "employee_id", "company_id", "date_start", "date_stop", "duration",
            "work_entry_type_id", "code", "state", "conflict", "write_date"]
      | .v19 =>
          some ["id", "employee_id", "company_id", "version_id", "date", "duration",
            "work_entry_type_id", "code", "state", "conflict", "write_date"]
  | _ => none

/-- `PAYSLIP_STATE_MAP` -/
def payslipStateMap : PayrollVersion → List (String × PayrollState)
  | .v18 =>
      [("draft", .draft), ("verify", .waiting), ("done", .done), ("paid", .paid),
        ("cancel", .cancelled)]
  | .v19 => [("draft", .draft), ("validated", .done), ("paid", .paid), ("cancel", .cancelled)]

/-- `_source_states` -/
def sourceStates {State : Type} [DecidableEq State] (selected : List State)
    (mapping : List (String × State)) : List String :=
  (mapping.filter fun entry => selected.contains entry.2).map Prod.fst

/-! ### Fields -/

namespace Field

/-- `_datetime` -/
def datetime (value : PyValue) : Option DateTime := do
  let written ← text value
  DateTime.fromisoformat (String.ofList (written.toList.flatMap fun character =>
    if character = 'Z' then "+00:00".toList else [character]))

/-- `_many_ids` -/
def manyIds (maximum : Nat) : PyValue → Option (List Int)
  | .list items => do
      if maximum < items.length then none
      let identifiers ← positiveInts items
      if identifiers.Nodup then some identifiers else none
  | _ => none

end Field

/-- A field that cannot be read makes the whole answer invalid. -/
def payrollField {α : Type} (row : Payload) (parser : PyValue → Option α) (field : String) :
    Except PyException α :=
  orRaise (parser (row.field field)) invalidPayroll

/-- `_exact_record` -/
def exactRecord (row : Payload) (fields : List String) : Except PyException Payload := do
  let keys := row.map Prod.fst
  ensure (keys.all fields.contains && fields.all keys.contains && !keys.any isDeniedField)
    invalidPayroll
  return row

/-- `_require_requested_id` -/
def requireRequestedId (value : Int) (label : String) : Except PyException Unit :=
  ensure (0 < value)
    (payrollError .invalidInput ("The Payroll " ++ label ++ " ID is invalid.")
      ("Use a positive " ++ label ++ " ID from the authorized company."))

/-! ### Normalizers -/

section Normalizers

variable (version : PayrollVersion)

/-- `_payslip_state` -/
def payslipState (raw : PyValue) : Except PyException (String × PayrollState) := do
  let source ← orRaise (Field.text raw) invalidPayroll
  let normalized ← orRaise (dictGet (payslipStateMap version) source)
    (payrollApiError "Odoo returned an unknown Payroll payslip state.")
  return (source, normalized)

def payslipReference (row : Payload) (name : String) : Except PyException String :=
  match version with
  | .v18 => do
      let number ← payrollField row (Field.optional Field.text) "number"
      return (number.filter (· ≠ "")).getD name
  | .v19 => .ok name

/-- `_normalize_payslip` -/
def normalizePayslip (row : Payload) : Except PyException Payslip := do
  let read {α : Type} (parser : PyValue → Option α) (field : String) : Except PyException α :=
    payrollField row parser field
  let (sourceState, state) ← payslipState version (row.field "state")
  let start ← read Field.date "date_from"
  let finish ← read Field.date "date_to"
  ensure (start.ordinal ≤ finish.ordinal) inconsistent
  let name ← read Field.text "name"
  let reference ← payslipReference version row name
  return {
    id := ← read Field.positiveInt "id"
    name := name
    reference := reference
    employee := ← read Field.relation "employee_id"
    dateFrom := start
    dateTo := finish
    state := state
    sourceState := sourceState
    companyId := ← read Field.relatedId "company_id"
    contractSegment := ← read Field.relation (contractField version)
    contractSource := contractSourceOf version
    payrollStructure := ← read Field.relation "struct_id"
    batch := ← read (Field.optional Field.relation) "payslip_run_id"
    creditNote := ← read Field.boolean "credit_note"
    currency := ← read Field.relation "currency_id"
    writeDate := ← read Field.datetime "write_date" }

/-- `_normalize_line` -/
def normalizeLine (row : Payload) : Except PyException PayslipLine := do
  let read {α : Type} (parser : PyValue → Option α) (field : String) : Except PyException α :=
    payrollField row parser field
  return {
    id := ← read Field.positiveInt "id"
    payslip := ← read Field.relation "slip_id"
    salaryRule := ← read Field.relation "salary_rule_id"
    employee := ← read Field.relation "employee_id"
    contractSegment := ← read Field.relation (contractField version)
    contractSource := contractSourceOf version
    name := ← read Field.text "name"
    code := ← read Field.text "code"
    category := ← read Field.relation "category_id"
    sequence := ← read Field.nonNegativeInt "sequence"
    quantity := ← read Field.decimal "quantity"
    rate := ← read Field.decimal "rate"
    amount := ← read Field.decimal "amount"
    total := ← read Field.decimal "total"
    currency := ← read Field.relation "currency_id"
    writeDate := ← read Field.datetime "write_date" }

/-- `_normalize_worked_day` -/
def normalizeWorkedDay (row : Payload) : Except PyException PayslipWorkedDay := do
  let read {α : Type} (parser : PyValue → Option α) (field : String) : Except PyException α :=
    payrollField row parser field
  return {
    id := ← read Field.positiveInt "id"
    payslip := ← read Field.relation "payslip_id"
    contractSegment := ← read Field.relation (contractField version)
    contractSource := contractSourceOf version
    workEntryType := ← read Field.relation "work_entry_type_id"
    name := ← read Field.text "name"
    code := ← read Field.text "code"
    numberOfDays := ← read Field.decimal "number_of_days"
    numberOfHours := ← read Field.decimal "number_of_hours"
    amount := ← read Field.decimal "amount"
    currency := ← read Field.relation "currency_id"
    writeDate := ← read Field.datetime "write_date" }

/-- `_normalize_input` -/
def normalizeInput (row : Payload) : Except PyException PayslipInput := do
  let read {α : Type} (parser : PyValue → Option α) (field : String) : Except PyException α :=
    payrollField row parser field
  return {
    id := ← read Field.positiveInt "id"
    name := ← read Field.text "name"
    payslip := ← read Field.relation "payslip_id"
    sequence := ← read Field.nonNegativeInt "sequence"
    inputType := ← read Field.relation "input_type_id"
    code := ← read Field.text "code"
    amount := ← read Field.decimal "amount"
    contractSegment := ← read Field.relation (contractField version)
    contractSource := contractSourceOf version
    writeDate := ← read Field.datetime "write_date" }

/-- `_normalize_input_type` -/
def normalizeInputType (row : Payload) : Except PyException PayrollInputType := do
  let read {α : Type} (parser : PyValue → Option α) (field : String) : Except PyException α :=
    payrollField row parser field
  return {
    id := ← read Field.positiveInt "id"
    name := ← read Field.text "name"
    code := ← read Field.text "code"
    structureIds := ← read (Field.manyIds 5000) "struct_ids"
    active := ← read Field.boolean "active"
    isQuantity := ← read Field.boolean "is_quantity"
    availableInAttachments := ← read Field.boolean "available_in_attachments"
    writeDate := ← read Field.datetime "write_date" }

/-- `_normalize_structure` -/
def normalizeStructure (row : Payload) : Except PyException PayrollStructure := do
  let read {α : Type} (parser : PyValue → Option α) (field : String) : Except PyException α :=
    payrollField row parser field
  return {
    id := ← read Field.positiveInt "id"
    inputLineTypeIds := ← read (Field.manyIds 5000) "input_line_type_ids"
    writeDate := ← read Field.datetime "write_date" }

/-- `_normalize_employee` -/
def normalizeEmployee (row : Payload) : Except PyException PayrollEmployee := do
  let read {α : Type} (parser : PyValue → Option α) (field : String) : Except PyException α :=
    payrollField row parser field
  return {
    id := ← read Field.positiveInt "id"
    name := ← read Field.text "name"
    active := ← read Field.boolean "active"
    companyId := ← read Field.relatedId "company_id"
    writeDate := ← read Field.datetime "write_date" }

/-- `_contract_common` -/
def contractCommon (row : Payload) (sourceModel : ContractSource) (sourceStatus : ContractStatus)
    (revisionDate : Option Date) (effectiveStart effectiveEnd : Date) :
    Except PyException PayrollContractSegment := do
  let read {α : Type} (parser : PyValue → Option α) (field : String) : Except PyException α :=
    payrollField row parser field
  return {
    sourceModel := sourceModel
    id := ← read Field.positiveInt "id"
    employee := ← read Field.relation "employee_id"
    companyId := ← read Field.relatedId "company_id"
    active := ← read Field.boolean "active"
    sourceStatus := sourceStatus
    revisionDate := revisionDate
    effectiveStart := effectiveStart
    effectiveEnd := effectiveEnd
    wage := ← read Field.decimal "wage"
    currency := ← read Field.relation "currency_id"
    structureType := ← read (Field.optional Field.relation) "structure_type_id"
    resourceCalendar := ← read (Field.optional Field.relation) "resource_calendar_id"
    department := ← read (Field.optional Field.relation) "department_id"
    job := ← read (Field.optional Field.relation) "job_id"
    contractType := ← read (Field.optional Field.relation) "contract_type_id"
    writeDate := ← read Field.datetime "write_date" }

theorem sound_payrollField {α : Type} (row : Payload) (parser : PyValue → Option α)
    (field : String) : Sound (payrollField row parser field) :=
  Sound.orRaise ownError_invalidPayroll

theorem sound_exactRecord (row : Payload) (fields : List String) :
    Sound (exactRecord row fields) :=
  (Sound.ensure ownError_invalidPayroll).bind fun _ => Sound.ok _

theorem sound_requireRequestedId (value : Int) (label : String) :
    Sound (requireRequestedId value label) :=
  Sound.ensure (ownError_payrollError (by decide) _ _)

theorem sound_payslipReference (row : Payload) (name : String) :
    Sound (payslipReference version row name) := by
  cases version with
  | v18 => exact (sound_payrollField row _ _).bind fun _ => Sound.ok _
  | v19 => exact Sound.ok _

theorem sound_normalizePayslip (row : Payload) : Sound (normalizePayslip version row) := by
  unfold normalizePayslip
  refine Sound.bind ?_ fun found => ?_
  · exact (Sound.orRaise ownError_invalidPayroll).bind fun _ =>
      (Sound.orRaise (ownError_payrollApiError _)).bind fun _ => Sound.ok _
  refine (sound_payrollField row _ _).bind fun _ => (sound_payrollField row _ _).bind fun _ => ?_
  refine (Sound.ensure ownError_inconsistent).bind fun _ => ?_
  refine (sound_payrollField row _ _).bind fun _ => ?_
  refine (sound_payslipReference version row _).bind fun _ => ?_
  repeat' refine (sound_payrollField row _ _).bind fun _ => ?_
  exact Sound.ok _

theorem sound_normalizeLine (row : Payload) : Sound (normalizeLine version row) := by
  unfold normalizeLine
  repeat' refine (sound_payrollField row _ _).bind fun _ => ?_
  exact Sound.ok _

theorem sound_normalizeWorkedDay (row : Payload) : Sound (normalizeWorkedDay version row) := by
  unfold normalizeWorkedDay
  repeat' refine (sound_payrollField row _ _).bind fun _ => ?_
  exact Sound.ok _

theorem sound_normalizeInput (row : Payload) : Sound (normalizeInput version row) := by
  unfold normalizeInput
  repeat' refine (sound_payrollField row _ _).bind fun _ => ?_
  exact Sound.ok _

theorem sound_normalizeInputType (row : Payload) : Sound (normalizeInputType row) := by
  unfold normalizeInputType
  repeat' refine (sound_payrollField row _ _).bind fun _ => ?_
  exact Sound.ok _

theorem sound_normalizeStructure (row : Payload) : Sound (normalizeStructure row) := by
  unfold normalizeStructure
  repeat' refine (sound_payrollField row _ _).bind fun _ => ?_
  exact Sound.ok _

theorem sound_normalizeEmployee (row : Payload) : Sound (normalizeEmployee row) := by
  unfold normalizeEmployee
  repeat' refine (sound_payrollField row _ _).bind fun _ => ?_
  exact Sound.ok _

theorem sound_contractCommon (row : Payload) (sourceModel : ContractSource)
    (sourceStatus : ContractStatus) (revisionDate : Option Date)
    (effectiveStart effectiveEnd : Date) :
    Sound (contractCommon row sourceModel sourceStatus revisionDate effectiveStart
      effectiveEnd) := by
  unfold contractCommon
  repeat' refine (sound_payrollField row _ _).bind fun _ => ?_
  exact Sound.ok _

end Normalizers

/-! ### Contract segments -/

section Contracts

def Date.max (first second : Date) : Date :=
  if first.ordinal < second.ordinal then second else first

def Date.min (first second : Date) : Date :=
  if second.ordinal < first.ordinal then second else first

def contractStatus : String → Option ContractStatus
  | "draft" => some .draft
  | "open" => some .open
  | "close" => some .close
  | "cancel" => some .cancel
  | _ => none

/-- One row of `_contract_segments_18`. -/
def contractSegment18 (period : PayrollPeriod) (row : Payload) :
    Except PyException PayrollContractSegment := do
  let start ← payrollField row Field.date "date_start"
  let sourceEnd ← payrollField row (Field.optional Field.date) "date_end"
  ensure (sourceEnd.all fun finish => start.ordinal ≤ finish.ordinal) inconsistent
  ensure (sourceEnd.all fun finish => period.start.ordinal ≤ finish.ordinal) inconsistent
  let state ← payrollField row Field.text "state"
  let status ← orRaise (contractStatus state)
    (payrollApiError "Odoo returned an unknown Payroll contract state.")
  contractCommon row .hrContract status none (start.max period.start)
    ((sourceEnd.getD period.finish).min period.finish)

def earlierEnd : Option Date → Option Date → Option Date
  | some first, some second => some (first.min second)
  | some first, none => some first
  | none, second => second

/-- One row of `_contract_segments_19`, with the date of the next revision of the employee. Nothing
is returned where the segment lies outside the period. -/
def contractSegment19 (period : PayrollPeriod) (row : Payload) (nextRevision : Option Date) :
    Except PyException (Option PayrollContractSegment) := do
  let revision ← payrollField row Field.date "date_version"
  let contractStart ← payrollField row Field.date "contract_date_start"
  let contractEnd ← payrollField row (Field.optional Field.date) "contract_date_end"
  let start := revision.max contractStart
  let preceding := nextRevision.map fun next => (⟨next.ordinal - 1⟩ : Date)
  let sourceEnd := earlierEnd contractEnd preceding
  ensure (sourceEnd.all fun finish => start.ordinal ≤ finish.ordinal) inconsistent
  let item ← contractCommon row .hrVersion .unavailable (some revision) (start.max period.start)
    ((sourceEnd.getD period.finish).min period.finish)
  let apart := period.finish.ordinal < start.ordinal ||
    sourceEnd.any fun finish => finish.ordinal < period.start.ordinal
  return if apart then none else some item

def revisionOf (row : Payload) : Except PyException (Date × Int) := do
  return (← payrollField row Field.date "date_version", ← payrollField row Field.positiveInt "id")

def revisionBefore (first second : (Date × Int) × Payload) : Bool :=
  first.1.1.ordinal < second.1.1.ordinal ||
    (first.1.1.ordinal = second.1.1.ordinal && first.1.2 ≤ second.1.2)

def withSuccessors : List ((Date × Int) × Payload) → List (Payload × Option Date)
  | [] => []
  | [last] => [(last.2, none)]
  | first :: second :: rest => (first.2, some second.1.1) :: withSuccessors (second :: rest)

/-- The segments of one employee in `_contract_segments_19`. -/
def employeeSegments19 (period : PayrollPeriod) (rows : List Payload) :
    Except PyException (List PayrollContractSegment) := do
  let revisions ← rows.mapM revisionOf
  ensure ((revisions.map fun revision => revision.1).Nodup) inconsistent
  let ordered := (revisions.zip rows).insertionSort (revisionBefore · ·)
  let segments ← (withSuccessors ordered).mapM fun entry =>
    contractSegment19 period entry.1 entry.2
  return segments.reduceOption

/-- `_contract_segments_19` -/
def contractSegments19 (period : PayrollPeriod) (rows : List Payload) :
    Except PyException (List PayrollContractSegment) := do
  let employees ← rows.mapM fun row => payrollField row Field.relatedId "employee_id"
  let segments ← employees.eraseDups.mapM fun employee =>
    employeeSegments19 period
      (((employees.zip rows).filter fun entry => entry.1 = employee).map Prod.snd)
  return segments.flatten

def contractSegments (version : PayrollVersion) (period : PayrollPeriod) (rows : List Payload) :
    Except PyException (List PayrollContractSegment) :=
  match version with
  | .v18 => rows.mapM (contractSegment18 period)
  | .v19 => contractSegments19 period rows

def segmentBefore (first second : PayrollContractSegment) : Bool :=
  first.employee.id < second.employee.id || (first.employee.id = second.employee.id &&
    (first.effectiveStart.ordinal < second.effectiveStart.ordinal ||
      (first.effectiveStart.ordinal = second.effectiveStart.ordinal && first.id ≤ second.id)))

/-- The segments belong to the selection, and those of one employee do not overlap. `previous` has
the last segment of every employee. -/
def checkSegments (companyId : Int) (employeeIds : List Int)
    (previous : List (Int × PayrollContractSegment)) :
    List PayrollContractSegment → Except PyException Unit
  | [] => .ok ()
  | item :: items => do
      ensure (item.companyId = companyId && employeeIds.contains item.employee.id &&
        item.effectiveStart.ordinal ≤ item.effectiveEnd.ordinal) inconsistent
      ensure ((dictGet previous item.employee.id).all fun prior =>
        prior.effectiveEnd.ordinal < item.effectiveStart.ordinal) inconsistent
      checkSegments companyId employeeIds (dictSet previous item.employee.id item) items

theorem sound_contractSegment18 (period : PayrollPeriod) (row : Payload) :
    Sound (contractSegment18 period row) := by
  unfold contractSegment18
  refine (sound_payrollField row _ _).bind fun _ => (sound_payrollField row _ _).bind fun _ => ?_
  refine (Sound.ensure ownError_inconsistent).bind fun _ => ?_
  refine (Sound.ensure ownError_inconsistent).bind fun _ => ?_
  refine (sound_payrollField row _ _).bind fun _ => ?_
  refine (Sound.orRaise (ownError_payrollApiError _)).bind fun _ => ?_
  exact sound_contractCommon row _ _ _ _ _

theorem sound_contractSegment19 (period : PayrollPeriod) (row : Payload)
    (nextRevision : Option Date) : Sound (contractSegment19 period row nextRevision) := by
  unfold contractSegment19
  refine (sound_payrollField row _ _).bind fun _ => (sound_payrollField row _ _).bind fun _ => ?_
  refine (sound_payrollField row _ _).bind fun _ => ?_
  refine (Sound.ensure ownError_inconsistent).bind fun _ => ?_
  exact (sound_contractCommon row _ _ _ _ _).bind fun _ => Sound.ok _

theorem sound_revisionOf (row : Payload) : Sound (revisionOf row) :=
  (sound_payrollField row _ _).bind fun _ => (sound_payrollField row _ _).bind fun _ => Sound.ok _

theorem sound_employeeSegments19 (period : PayrollPeriod) (rows : List Payload) :
    Sound (employeeSegments19 period rows) := by
  unfold employeeSegments19
  refine (Sound.mapM rows sound_revisionOf).bind fun revisions => ?_
  refine (Sound.ensure ownError_inconsistent).bind fun _ => ?_
  refine (Sound.mapM _ fun entry => ?_).bind fun segments => Sound.ok _
  exact sound_contractSegment19 period entry.1 entry.2

theorem sound_contractSegments (version : PayrollVersion) (period : PayrollPeriod)
    (rows : List Payload) : Sound (contractSegments version period rows) := by
  cases version with
  | v18 => exact Sound.mapM rows (sound_contractSegment18 period)
  | v19 =>
      change Sound (contractSegments19 period rows)
      unfold contractSegments19
      refine (Sound.mapM rows fun row => sound_payrollField row _ _).bind fun employees => ?_
      refine (Sound.mapM _ fun employee => ?_).bind fun segments => Sound.ok _
      exact sound_employeeSegments19 period _

theorem sound_checkSegments (companyId : Int) (employeeIds : List Int)
    (previous : List (Int × PayrollContractSegment)) (items : List PayrollContractSegment) :
    Sound (checkSegments companyId employeeIds previous items) := by
  induction items generalizing previous with
  | nil => exact Sound.ok ()
  | cons item items ih =>
      exact (Sound.ensure ownError_inconsistent).bind fun _ =>
        (Sound.ensure ownError_inconsistent).bind fun _ => ih _

end Contracts

/-! ### Cursors -/

/-- `_cursor_fingerprint` -/
def cursorFingerprint (sha256 : String → String) (version : PayrollVersion) (companyId : Int)
    (model : String) (domain : List PyValue) (order : String) (binding : PyValue)
    (anchors : List (Int × DateTime)) : Except PyException String := do
  let canonical ← canonicalJson (.dict
    [(.str "version", .int version.toInt),
      (.str "company_id", .int companyId),
      (.str "model", .str model),
      (.str "domain", .list domain),
      (.str "order", .str order),
      (.str "binding", binding),
      (.str "anchors", .list (anchors.map fun anchor =>
        .list [.int anchor.1, .str anchor.2.isoformat]))])
  return String.ofList ((sha256 canonical.text).toList.take 16)

def payrollCursorError : PyException :=
  payrollError .invalidInput "The Payroll pagination cursor is invalid."
    "Restart the Payroll request without a cursor."

/-- `_decode_cursor` -/
def decodePayrollCursor (cursor : Option String) (fingerprint : String) :
    Except PyException Nat :=
  match cursor with
  | none => .ok 0
  | some cursor => do
      let raw ← orRaise ((Base64.decode cursor.toList).bind Base64.utf8) payrollCursorError
      match raw.splitOn ':' with
      | [version, bound, rawOffset] => do
          let offset ← orRaise (Decimal.parseInt? (String.ofList rawOffset)) payrollCursorError
          ensure (version = "v1".toList && bound = fingerprint.toList && 0 < offset)
            (payrollError .invalidInput
              "The Payroll pagination cursor does not match this request."
              "Restart the Payroll request without a cursor.")
          return offset.toNat
      | _ => .error payrollCursorError

/-- `_encode_cursor` -/
def encodePayrollCursor (fingerprint : String) (offset : Nat) : String :=
  let text := "v1:" ++ fingerprint ++ ":" ++ toString offset
  String.ofList (Base64.encode (text.toUTF8.toList.map UInt8.toNat))

theorem sound_cursorFingerprint {sha256 : String → String} {version : PayrollVersion}
    {companyId : Int} {model : String} {domain : List PyValue} {order : String}
    {binding : PyValue} {anchors : List (Int × DateTime)} :
    Sound (cursorFingerprint sha256 version companyId model domain order binding anchors) := by
  refine Sound.bind ?_ fun _ => Sound.ok _
  intro error herror
  obtain ⟨message, rfl⟩ := canonicalJson_ordinary _ error herror
  trivial

theorem sound_decodePayrollCursor (cursor : Option String) (fingerprint : String) :
    Sound (decodePayrollCursor cursor fingerprint) := by
  have howns : OwnError payrollCursorError := ownError_payrollError (by decide) _ _
  unfold decodePayrollCursor
  split
  · exact Sound.ok 0
  · refine (Sound.orRaise howns).bind fun raw => ?_
    split
    · exact (Sound.orRaise howns).bind fun _ =>
        (Sound.ensure (ownError_payrollError (by decide) _ _)).bind fun _ => Sound.ok _
    · exact Sound.raise howns

end OdooMcp
