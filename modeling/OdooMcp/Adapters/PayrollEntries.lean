import OdooMcp.Adapters.PayrollReader

/-!
# Payroll batches and work entries

The two reads of the payroll reader that no write needs.
-/

namespace OdooMcp

open Effect

/-! ### Values -/

inductive PayrollBatchState
  | draft
  | ready
  | done
  | paid
  | cancelled
  deriving DecidableEq, Repr

inductive PayrollWorkEntryState
  | draft
  | conflict
  | validated
  | cancelled
  deriving DecidableEq, Repr

structure PayrollBatchFilters where
  batchIds : List Int
  window : Option PayrollDiscoveryWindow
  states : List PayrollBatchState

structure PayrollWorkEntryFilters where
  employeeIds : List Int
  period : PayrollPeriod
  states : List PayrollWorkEntryState

structure PayrollBatch where
  id : Int
  name : String
  dateStart : Date
  dateEnd : Date
  state : PayrollBatchState
  sourceState : String
  companyId : Int
  writeDate : DateTime

structure PayrollWorkEntry where
  id : Int
  employee : RelatedRecord
  companyId : Int
  contractSegment : Option RelatedRecord
  contractSource : Option ContractSource
  dateStart : Date
  dateEnd : Date
  duration : Decimal
  workEntryType : RelatedRecord
  code : String
  state : PayrollWorkEntryState
  conflict : Bool
  writeDate : DateTime

/-- `BATCH_STATE_MAP` -/
def batchStateMap : PayrollVersion → List (String × PayrollBatchState)
  | .v18 => [("draft", .draft), ("verify", .ready), ("close", .done), ("paid", .paid)]
  | .v19 => [("01_ready", .ready), ("02_close", .done), ("03_paid", .paid),
    ("04_cancel", .cancelled)]

/-- `WORK_ENTRY_STATE_MAP` -/
def workEntryStateMap : List (String × PayrollWorkEntryState) :=
  [("draft", .draft), ("conflict", .conflict), ("validated", .validated), ("cancelled", .cancelled)]

/-! ### Batches -/

/-- `_batch_state` -/
def batchState (version : PayrollVersion) (raw : PyValue) :
    Except PyException (String × PayrollBatchState) := do
  let source ← orRaise (Field.text raw) invalidPayroll
  let normalized ← orRaise (dictGet (batchStateMap version) source)
    (payrollApiError "Odoo returned an unknown Payroll batch state.")
  return (source, normalized)

/-- `_normalize_batch` -/
def normalizeBatch (version : PayrollVersion) (row : Payload) :
    Except PyException PayrollBatch := do
  let read {α : Type} (parser : PyValue → Option α) (field : String) : Except PyException α :=
    payrollField row parser field
  let (sourceState, state) ← batchState version (row.field "state")
  let start ← read Field.date "date_start"
  let finish ← read Field.date "date_end"
  ensure (start.ordinal ≤ finish.ordinal) inconsistent
  return {
    id := ← read Field.positiveInt "id"
    name := ← read Field.text "name"
    dateStart := start
    dateEnd := finish
    state := state
    sourceState := sourceState
    companyId := ← read Field.relatedId "company_id"
    writeDate := ← read Field.datetime "write_date" }

/-- Latest batch first; the sort is stable. -/
def batchBefore (first second : PayrollBatch) : Bool :=
  second.dateStart.ordinal < first.dateStart.ordinal ||
    (second.dateStart.ordinal = first.dateStart.ordinal &&
      (second.dateEnd.ordinal < first.dateEnd.ordinal ||
        (second.dateEnd.ordinal = first.dateEnd.ordinal && second.id ≤ first.id)))

def batchSelected (companyId : Int) (filters : PayrollBatchFilters) (item : PayrollBatch) : Bool :=
  item.companyId = companyId &&
    (filters.batchIds = [] || filters.batchIds.contains item.id) &&
    (filters.window.all fun window =>
      window.start.ordinal ≤ item.dateStart.ordinal &&
        item.dateEnd.ordinal ≤ window.finish.ordinal) &&
    (filters.states = [] || filters.states.contains item.state)

namespace PayrollReader

variable (reader : PayrollReader)

def batchDomain (companyId : Int) (filters : PayrollBatchFilters) : List PyValue :=
  [domainClause "company_id" "=" (.int companyId)] ++
    (if filters.batchIds = [] then [] else
      [domainClause "id" "in" (dumpIds filters.batchIds)]) ++
    (filters.window.toList.flatMap fun window =>
      [domainClause "date_start" ">=" (isoValue window.start),
        domainClause "date_end" "<=" (isoValue window.finish)]) ++
    (if filters.states = [] then [] else
      [domainClause "state" "in"
        (.list ((sourceStates filters.states (batchStateMap reader.version)).map .str))])

def getPayrollBatches (companyId : Int) (filters : PayrollBatchFilters)
    (request : PayrollPageRequest) : Odoo (PayrollPage PayrollBatch) := do
  let domain := reader.batchDomain companyId filters
  let order := "date_start desc, date_end desc, id desc"
  let rows ← reader.stableRows "hr.payslip.run" companyId domain order
    (payrollSourceCap "hr.payslip.run")
  let normalized ← Program.ofExcept (rows.mapM (normalizeBatch reader.version))
  let items := normalized.insertionSort (batchBefore · ·)
  Program.ofExcept (ensure (items.all (batchSelected companyId filters)) inconsistent)
  Program.ofExcept (reader.page (·.id) (·.writeDate) items companyId request "hr.payslip.run" domain
    order .none)

end PayrollReader

/-! ### Work entries -/

/-- `_work_entry_state` -/
def workEntryState (raw : PyValue) : Except PyException PayrollWorkEntryState := do
  let source ← orRaise (Field.text raw) invalidPayroll
  orRaise (dictGet workEntryStateMap source)
    (payrollApiError "Odoo returned an unknown Payroll work-entry state.")

/-- `first < second`, which an aware and a naive date-time have no answer to. -/
def DateTime.before (first second : DateTime) : Except PyException Bool :=
  if first.offset.isSome = second.offset.isSome then
    .ok (first.normal.wall < second.normal.wall)
  else
    .error (typeError "can't compare offset-naive and offset-aware datetimes")

def workEntrySpan (version : PayrollVersion) (row : Payload) :
    Except PyException (Date × Date × Option RelatedRecord × Option ContractSource) :=
  match version with
  | .v18 => do
      let start ← payrollField row Field.datetime "date_start"
      let finish ← payrollField row Field.datetime "date_stop"
      ensure (!(← finish.before start)) inconsistent
      return (start.date, finish.date, none, none)
  | .v19 => do
      let date ← payrollField row Field.date "date"
      let segment ← payrollField row Field.relation "version_id"
      return (date, date, some segment, some .hrVersion)

/-- The body of the row loop of `get_payroll_work_entries`. -/
def normalizeWorkEntry (version : PayrollVersion) (companyId : Int)
    (filters : PayrollWorkEntryFilters) (row : Payload) : Except PyException PayrollWorkEntry := do
  let read {α : Type} (parser : PyValue → Option α) (field : String) : Except PyException α :=
    payrollField row parser field
  let (start, finish, segment, source) ← workEntrySpan version row
  let duration ← read Field.decimal "duration"
  ensure (!(duration.lt (Decimal.ofInt 0))) inconsistent
  let item : PayrollWorkEntry := {
    id := ← read Field.positiveInt "id"
    employee := ← read Field.relation "employee_id"
    companyId := ← read Field.relatedId "company_id"
    contractSegment := segment
    contractSource := source
    dateStart := start
    dateEnd := finish
    duration := duration
    workEntryType := ← read Field.relation "work_entry_type_id"
    code := ← read Field.text "code"
    state := ← workEntryState (row.field "state")
    conflict := ← read Field.boolean "conflict"
    writeDate := ← read Field.datetime "write_date" }
  ensure (item.companyId = companyId && filters.employeeIds.contains item.employee.id &&
    filters.period.start.ordinal ≤ item.dateEnd.ordinal &&
    item.dateStart.ordinal ≤ filters.period.finish.ordinal &&
    (filters.states = [] || filters.states.contains item.state)) inconsistent
  return item

def workEntryBefore (first second : PayrollWorkEntry) : Bool :=
  first.dateStart.ordinal < second.dateStart.ordinal ||
    (first.dateStart.ordinal = second.dateStart.ordinal && first.id ≤ second.id)

namespace PayrollReader

variable (reader : PayrollReader)

def workEntryDomain (companyId : Int) (filters : PayrollWorkEntryFilters) : List PyValue :=
  [domainClause "company_id" "=" (.int companyId),
    domainClause "employee_id" "in" (dumpIds filters.employeeIds)] ++
    (match reader.version with
    | .v18 =>
        [domainClause "date_start" "<=" (.str (filters.period.finish.isoformat ++ " 23:59:59")),
          domainClause "date_stop" ">=" (.str (filters.period.start.isoformat ++ " 00:00:00"))]
    | .v19 =>
        [domainClause "date" ">=" (isoValue filters.period.start),
          domainClause "date" "<=" (isoValue filters.period.finish)]) ++
    (if filters.states = [] then [] else
      [domainClause "state" "in"
        (.list ((sourceStates filters.states workEntryStateMap).map .str))])

def workEntryOrder : PayrollVersion → String
  | .v18 => "date_start asc, id asc"
  | .v19 => "date asc, id asc"

def getPayrollWorkEntries (companyId : Int) (filters : PayrollWorkEntryFilters)
    (request : PayrollPageRequest) : Odoo (PayrollPage PayrollWorkEntry) := do
  let domain := reader.workEntryDomain companyId filters
  let order := workEntryOrder reader.version
  let rows ← reader.stableRows "hr.work.entry" companyId domain order
    (payrollSourceCap "hr.work.entry")
  let normalized ← Program.ofExcept
    (rows.mapM (normalizeWorkEntry reader.version companyId filters))
  let items := normalized.insertionSort (workEntryBefore · ·)
  Program.ofExcept (reader.page (·.id) (·.writeDate) items companyId request "hr.work.entry" domain
    order .none)

end PayrollReader

end OdooMcp
