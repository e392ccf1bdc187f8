import OdooMcp.Adapters.PayrollFields

/-!
# The payroll reader

Every read counts the rows, fetches them in pages and compares their ids and write dates with a
second pass, so that a source that changes meanwhile is noticed.
-/

namespace OdooMcp

open Effect

/-- A reader of a connection with these validated companies; `sha256` is the hash its cursors are
bound with. -/
structure PayrollReader where
  version : PayrollVersion
  validatedCompanyIds : Option (List Int)
  sha256 : String → String

namespace PayrollReader

variable (reader : PayrollReader)

/-- `_require_company` -/
def requireCompany (companyId : Int) : Except PyException Unit :=
  ensure (0 < companyId && reader.validatedCompanyIds.any fun validated =>
      validated.contains companyId)
    (payrollError .companyNotFound "The requested company is not authorized for this connection."
      "Use an authorized company ID and retry.")

/-- `_fields` -/
def fields (model : String) : Except PyException (List String) := do
  ensurePayrollModelReadAllowed reader.version model
  orRaise (payrollModelFields reader.version model)
    (payrollApiError "The Payroll model is unavailable for this Odoo version.")

def acceptRows (fields : List String) (seen : List Int) :
    List Payload → Except PyException (List Int)
  | [] => .ok seen
  | value :: rows => do
      let row ← exactRecord value fields
      let identifier ← payrollField row Field.positiveInt "id"
      ensure (!seen.contains identifier)
        (payrollApiError "Odoo returned duplicate Payroll source rows.")
      acceptRows fields (identifier :: seen) rows

/-- A page of `_fetch_rows`, which has to hold as many rows as were asked for. -/
def fullPage (model : String) (companyId : Int) (domain : List PyValue) (fields : List String)
    (order : String) (count requested offset : Nat) : Odoo (List Payload) := do
  let page ← searchRead model domain fields requested offset order [companyId]
  if page.length = requested then
    return page
  else do
    let current ← searchCount model domain [companyId]
    Program.ofExcept (ensure (current = count) stateConflict)
    throw (payrollApiError "Odoo returned an incomplete Payroll source page.")

/-- The page loop of `_fetch_rows`, with the number of rows that are still missing. -/
def fetchPages (model : String) (companyId : Int) (domain : List PyValue) (fields : List String)
    (order : String) (count : Nat) (seen : List Int) (remaining : Nat) : Odoo (List Payload) :=
  if _hremaining : remaining = 0 then
    return []
  else do
    let requested := min 500 remaining
    let page ← fullPage model companyId domain fields order count requested (count - remaining)
    let seen ← Program.ofExcept (acceptRows fields seen page)
    let rest ← fetchPages model companyId domain fields order count seen (remaining - requested)
    return page ++ rest
termination_by remaining
decreasing_by omega

/-- `_fetch_rows` -/
def fetchRows (model : String) (companyId : Int) (domain : List PyValue) (fields : List String)
    (order : String) (count : Nat) : Odoo (List Payload) :=
  if count = 0 then do
    let page ← searchRead model domain fields 1 0 order [companyId]
    Program.ofExcept (ensure page.isEmpty stateConflict)
    return []
  else
    fetchPages model companyId domain fields order count [] count

def anchors (rows : List Payload) : Except PyException (List (Int × DateTime)) :=
  rows.mapM fun row => do
    return (← payrollField row Field.positiveInt "id",
      ← payrollField row Field.datetime "write_date")

def sameAnchors (first second : List (Int × DateTime)) : Bool :=
  first.map (fun anchor => (anchor.1, anchor.2.normal)) =
    second.map fun anchor => (anchor.1, anchor.2.normal)

/-- `_stable_rows` -/
def stableRows (model : String) (companyId : Int) (domain : List PyValue) (order : String)
    (cap : Nat) : Odoo (List Payload) := do
  Program.ofExcept (reader.requireCompany companyId)
  let fields ← Program.ofExcept (reader.fields model)
  let count ← searchCount model domain [companyId]
  Program.ofExcept (ensure (0 ≤ count) invalidPayroll)
  Program.ofExcept (ensure (count ≤ cap) tooLarge)
  let rows ← fetchRows model companyId domain fields order count.toNat
  let found ← Program.ofExcept (anchors rows)
  let finalCount ← searchCount model domain [companyId]
  Program.ofExcept (ensure (finalCount = count) stateConflict)
  let finalRows ← fetchRows model companyId domain ["id", "write_date"] order finalCount.toNat
  let finalAnchors ← Program.ofExcept (anchors finalRows)
  Program.ofExcept (ensure (sameAnchors finalAnchors found) stateConflict)
  return rows

/-- `_page` -/
def page {α : Type} (idOf : α → Int) (writeDateOf : α → DateTime) (items : List α)
    (companyId : Int) (request : PayrollPageRequest) (model : String) (domain : List PyValue)
    (order : String) (binding : PyValue) : Except PyException (PayrollPage α) := do
  ensure (items.all fun item => 0 < idOf item) invalidPayroll
  let fingerprint ← cursorFingerprint reader.sha256 reader.version companyId model domain order
    binding (items.map fun item => (idOf item, writeDateOf item))
  let offset ← decodePayrollCursor request.cursor fingerprint
  ensure (offset ≤ items.length)
    (payrollError .invalidInput "The Payroll pagination cursor is outside this result."
      "Restart the Payroll request without a cursor.")
  let selected := (items.drop offset).take request.limit
  let nextOffset := offset + selected.length
  return {
    items := selected
    totalCount := items.length
    nextCursor := if nextOffset < items.length then
      some (encodePayrollCursor fingerprint nextOffset) else none }

def isoValue (date : Date) : PyValue := .str date.isoformat

/-! ### Payslips -/

def payslipDomain (companyId : Int) (filters : PayslipFilters) : List PyValue :=
  [domainClause "company_id" "=" (.int companyId)] ++
    (if filters.payslipIds = [] then [] else
      [domainClause "id" "in" (dumpIds filters.payslipIds)]) ++
    (filters.batchId.toList.map fun batch => domainClause "payslip_run_id" "=" (.int batch)) ++
    (filters.period.toList.flatMap fun period =>
      [domainClause "date_from" "=" (isoValue period.start),
        domainClause "date_to" "=" (isoValue period.finish)]) ++
    (filters.window.toList.flatMap fun window =>
      [domainClause "date_from" ">=" (isoValue window.start),
        domainClause "date_to" "<=" (isoValue window.finish)]) ++
    (if filters.employeeIds = [] then [] else
      [domainClause "employee_id" "in" (dumpIds filters.employeeIds)]) ++
    (if filters.states = [] then [] else
      [domainClause "state" "in"
        (.list ((sourceStates filters.states (payslipStateMap reader.version)).map .str))])

/-- Latest period first; the sort is stable. -/
def payslipBefore (first second : Payslip) : Bool :=
  second.dateFrom.ordinal < first.dateFrom.ordinal ||
    (second.dateFrom.ordinal = first.dateFrom.ordinal &&
      (second.dateTo.ordinal < first.dateTo.ordinal ||
        (second.dateTo.ordinal = first.dateTo.ordinal && second.id ≤ first.id)))

def payslipSelected (companyId : Int) (filters : PayslipFilters) (item : Payslip) : Bool :=
  item.companyId = companyId &&
    (filters.payslipIds = [] || filters.payslipIds.contains item.id) &&
    (filters.batchId.all fun batch => item.batch.any fun found => found.id = batch) &&
    (filters.period.all fun period => item.dateFrom = period.start &&
      item.dateTo = period.finish) &&
    (filters.window.all fun window =>
      window.start.ordinal ≤ item.dateFrom.ordinal &&
        item.dateTo.ordinal ≤ window.finish.ordinal) &&
    (filters.employeeIds = [] || filters.employeeIds.contains item.employee.id) &&
    (filters.states = [] || filters.states.contains item.state)

def getPayslips (companyId : Int) (filters : PayslipFilters) (request : PayrollPageRequest) :
    Odoo (PayrollPage Payslip) := do
  let domain := reader.payslipDomain companyId filters
  let order := "date_from desc, date_to desc, id desc"
  let rows ← reader.stableRows "hr.payslip" companyId domain order (payrollSourceCap "hr.payslip")
  let normalized ← Program.ofExcept (rows.mapM (normalizePayslip reader.version))
  let items := normalized.insertionSort (payslipBefore · ·)
  Program.ofExcept (ensure (items.all (payslipSelected companyId filters)) inconsistent)
  Program.ofExcept (reader.page (·.id) (·.writeDate) items companyId request "hr.payslip" domain
    order .none)

/-! ### Records of a payslip -/

/-- What `_children` needs of a kind of records: how they are read and sorted, and when one agrees
with its payslip. -/
structure ChildKind (α : Type) where
  model : String
  parentField : String
  order : String
  normalize : Payload → Except PyException α
  idOf : α → Int
  writeDateOf : α → DateTime
  payslipOf : α → RelatedRecord
  before : α → α → Bool
  agrees : α → Payslip → Bool

/-- By sequence, then by id. -/
def sequenceBefore (first second : Int × Int) : Bool :=
  first.1 < second.1 || (first.1 = second.1 && first.2 ≤ second.2)

def lineKind (version : PayrollVersion) : ChildKind PayslipLine where
  model := "hr.payslip.line"
  parentField := "slip_id"
  order := "sequence asc, id asc"
  normalize := normalizeLine version
  idOf := (·.id)
  writeDateOf := (·.writeDate)
  payslipOf := (·.payslip)
  before first second := sequenceBefore (first.sequence, first.id) (second.sequence, second.id)
  agrees item parent := item.employee.id = parent.employee.id &&
    item.contractSegment.id = parent.contractSegment.id && item.currency.id = parent.currency.id

def workedDayKind (version : PayrollVersion) : ChildKind PayslipWorkedDay where
  model := "hr.payslip.worked_days"
  parentField := "payslip_id"
  order := "id asc"
  normalize := normalizeWorkedDay version
  idOf := (·.id)
  writeDateOf := (·.writeDate)
  payslipOf := (·.payslip)
  before first second := first.id ≤ second.id
  agrees item parent := item.contractSegment.id = parent.contractSegment.id &&
    item.currency.id = parent.currency.id

def inputBefore (first second : PayslipInput) : Bool :=
  sequenceBefore (first.sequence, first.id) (second.sequence, second.id)

def inputKind (version : PayrollVersion) : ChildKind PayslipInput where
  model := "hr.payslip.input"
  parentField := "payslip_id"
  order := "sequence asc, id asc"
  normalize := normalizeInput version
  idOf := (·.id)
  writeDateOf := (·.writeDate)
  payslipOf := (·.payslip)
  before := inputBefore
  agrees item parent := item.contractSegment.id = parent.contractSegment.id

def parents (companyId : Int) (parentIds : List Int) : Odoo (List Payslip) :=
  if parentIds = [] then
    return []
  else do
    let filters ← Program.ofExcept (PayslipFilters.ofIds parentIds)
    let request ← Program.ofExcept (PayrollPageRequest.build (min parentIds.length 200) none)
    let found ← reader.getPayslips companyId filters request
    let foundIds := found.items.map (·.id)
    Program.ofExcept (ensure
      (foundIds.all parentIds.contains && parentIds.all foundIds.contains &&
        found.nextCursor = none)
      inconsistent)
    return found.items

/-- `_children` -/
def children {α : Type} (kind : ChildKind α) (companyId : Int) (filters : PayslipChildFilters)
    (request : PayrollPageRequest) : Odoo (PayrollPage α) := do
  let domain := [domainClause (kind.parentField ++ ".company_id") "=" (.int companyId),
      domainClause kind.parentField "in" (dumpIds filters.payslipIds)] ++
    if filters.recordIds = [] then [] else [domainClause "id" "in" (dumpIds filters.recordIds)]
  let rows ← reader.stableRows kind.model companyId domain kind.order (payrollSourceCap kind.model)
  let normalized ← Program.ofExcept (rows.mapM kind.normalize)
  let items := normalized.insertionSort (kind.before · ·)
  let parents ← reader.parents companyId
    (sortedSet (items.map fun item => (kind.payslipOf item).id))
  Program.ofExcept (ensure
    (items.all fun item =>
      (parents.reverse.find? fun parent => parent.id = (kind.payslipOf item).id).any fun parent =>
        filters.payslipIds.contains (kind.payslipOf item).id &&
          (filters.recordIds = [] || filters.recordIds.contains (kind.idOf item)) &&
          kind.agrees item parent)
    inconsistent)
  Program.ofExcept (reader.page kind.idOf kind.writeDateOf items companyId request kind.model domain
    kind.order .none)

def getPayslipLines : Int → PayslipChildFilters → PayrollPageRequest →
    Odoo (PayrollPage PayslipLine) :=
  reader.children (lineKind reader.version)

def getPayslipWorkedDays : Int → PayslipChildFilters → PayrollPageRequest →
    Odoo (PayrollPage PayslipWorkedDay) :=
  reader.children (workedDayKind reader.version)

def getPayslipInputs : Int → PayslipChildFilters → PayrollPageRequest →
    Odoo (PayrollPage PayslipInput) :=
  reader.children (inputKind reader.version)

/-! ### Structures, types, employees and contracts -/

def getPayrollStructure (companyId structureId : Int) : Odoo PayrollStructure := do
  let rows ← reader.stableRows "hr.payroll.structure" companyId
    [domainClause "id" "=" (.int structureId)] "id asc" 1
  let row ← Program.ofExcept (orRaise rows.head?
    (payrollError .payrollStructureNotFound "The requested Payroll structure is unavailable."
      "Use the exact structure from the authorized payslip."))
  let found ← Program.ofExcept (normalizeStructure row)
  Program.ofExcept (ensure (found.id = structureId) inconsistent)
  return found

def inputTypeBefore (first second : PayrollInputType) : Bool :=
  first.code < second.code || (first.code = second.code && first.id ≤ second.id)

def getPayrollInputTypes (companyId : Int) (filters : PayrollInputTypeFilters)
    (request : PayrollPageRequest) : Odoo (PayrollPage PayrollInputType) := do
  let found ← reader.getPayrollStructure companyId filters.structureId
  let eligible := found.inputLineTypeIds
  let domain := [domainClause "id" "in" (dumpIds eligible),
      domainClause "active" "=" (.bool true),
      domainClause "available_in_attachments" "=" (.bool false)] ++
    if filters.inputTypeIds = [] then []
    else [domainClause "id" "in" (dumpIds filters.inputTypeIds)]
  let order := "code asc, id asc"
  let rows ← reader.stableRows "hr.payslip.input.type" companyId domain order
    (payrollSourceCap "hr.payslip.input.type")
  let normalized ← Program.ofExcept (rows.mapM normalizeInputType)
  let items := normalized.insertionSort (inputTypeBefore · ·)
  Program.ofExcept (ensure
    (items.all fun item => eligible.contains item.id &&
      item.structureIds.contains filters.structureId && item.active &&
      !item.availableInAttachments &&
      (filters.inputTypeIds = [] || filters.inputTypeIds.contains item.id))
    inconsistent)
  Program.ofExcept (reader.page (·.id) (·.writeDate) items companyId request
    "hr.payslip.input.type" domain order .none)

def getPayrollEmployees (companyId : Int) (employeeIds : List Int)
    (request : PayrollPageRequest) : Odoo (PayrollPage PayrollEmployee) := do
  Program.ofExcept (ensure
    (employeeIds ≠ [] && employeeIds.length ≤ 100 && PositiveUnique employeeIds)
    (payrollError .invalidInput "The Payroll employee selection is invalid."
      "Use one to 100 unique positive employee IDs."))
  let domain := [domainClause "company_id" "=" (.int companyId),
    domainClause "id" "in" (dumpIds employeeIds)]
  let rows ← reader.stableRows "hr.employee" companyId domain "id asc"
    (payrollSourceCap "hr.employee")
  let normalized ← Program.ofExcept (rows.mapM normalizeEmployee)
  let items := normalized.insertionSort (·.id ≤ ·.id)
  Program.ofExcept (ensure
    (items.all fun item => item.companyId = companyId && employeeIds.contains item.id)
    inconsistent)
  Program.ofExcept (reader.page (·.id) (·.writeDate) items companyId request "hr.employee" domain
    "id asc" .none)

def contractDomain (companyId : Int) (filters : PayrollContractFilters) : List PyValue :=
  [domainClause "company_id" "=" (.int companyId),
    domainClause "employee_id" "in" (dumpIds filters.employeeIds)] ++
    match reader.version with
    | .v18 =>
        [domainClause "date_start" "<=" (isoValue filters.period.finish), .str "|",
          domainClause "date_end" "=" (.bool false),
          domainClause "date_end" ">=" (isoValue filters.period.start)]
    | .v19 => [domainClause "date_version" "<=" (isoValue filters.period.finish)]

def contractOrder : PayrollVersion → String
  | .v18 => "employee_id asc, date_start asc, id asc"
  | .v19 => "employee_id asc, date_version asc, id asc"

/-- `filters.model_dump(mode="json")` -/
def contractBinding (filters : PayrollContractFilters) : PyValue :=
  .dict
    [(.str "employee_ids", dumpIds filters.employeeIds),
      (.str "period", .dict
        [(.str "start", filters.period.start.dump), (.str "end", filters.period.finish.dump)])]

def checkContractRow (companyId : Int) (employeeIds : List Int) (row : Payload) :
    Except PyException Unit := do
  let company ← payrollField row Field.relatedId "company_id"
  ensure (company = companyId) inconsistent
  let employee ← payrollField row Field.relatedId "employee_id"
  ensure (employeeIds.contains employee) inconsistent

def getPayrollContractSegments (companyId : Int) (filters : PayrollContractFilters)
    (request : PayrollPageRequest) : Odoo (PayrollPage PayrollContractSegment) := do
  let model := (contractSourceOf reader.version).value
  let domain := reader.contractDomain companyId filters
  let order := contractOrder reader.version
  let rows ← reader.stableRows model companyId domain order (payrollSourceCap model)
  let _ ← Program.ofExcept (rows.mapM (checkContractRow companyId filters.employeeIds))
  let segments ← Program.ofExcept (contractSegments reader.version filters.period rows)
  let items := segments.insertionSort (segmentBefore · ·)
  Program.ofExcept (checkSegments companyId filters.employeeIds [] items)
  Program.ofExcept (reader.page (·.id) (·.writeDate) items companyId request model domain order
    (contractBinding filters))

end PayrollReader

end OdooMcp
