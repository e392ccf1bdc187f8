import OdooMcp.Workflows.PayrollChanges

/-!
# Comparing two payroll periods

What differs between two snapshots is reported as findings, each with its rule and its sources, next
to the totals. The employees that something has changed for are those of the changes, and those that
only one of the periods has.
-/

namespace OdooMcp

namespace PayrollAnalysis

open Arithmetic Grouping

inductive FindingCode
  | newEmployee
  | missingEmployee
  | employeeCountChange
  | contractChange
  | ruleLineAdded
  | ruleLineRemoved
  | currencyChange
  | monetaryDeviation
  | hoursDeviation
  | workEntryConflict
  | statisticalDeviation
  deriving DecidableEq, Repr

inductive FindingSeverity
  | info
  | review
  | critical
  deriving DecidableEq, Repr

inductive ThresholdProfile
  | strict
  | standard
  | relaxed
  deriving DecidableEq, Repr

/-- A value in a finding: a text, or the text of a number. -/
inductive Shown (N : Type)
  | text (content : String)
  | number (value : N)

structure EvidenceChange (N : Type) where
  fact : String
  baselineValue : Option (Shown N)
  targetValue : Option (Shown N)
  sourceRefs : List SourceReference

structure Finding (N : Type) where
  findingCode : FindingCode
  severity : FindingSeverity
  employee : Option NamedReference := none
  baselinePeriod : Option PayrollPeriod
  targetPeriod : PayrollPeriod
  currency : Option NamedReference := none
  salaryRule : Option NamedReference := none
  code : Option String := none
  baselineValue : Option (Shown N) := none
  targetValue : Option (Shown N) := none
  absoluteDelta : Option N := none
  percentageDelta : Option N := none
  observedDelta : Option N := none
  calculation : String
  rule : String
  threshold : Option N := none
  thresholdProfile : Option ThresholdProfile := none
  sourceRefs : List SourceReference
  evidence : List (EvidenceChange N) := []
  correlations : List (EvidenceChange N) := []
  limitations : List String := []

def snapshotName (snapshot : Snapshot) : Int → Except PyException NamedReference :=
  lastName (snapshot.payslips.map (·.employee))

def employeesOnlyIn (snapshot other : Snapshot) : List Int :=
  sortedKeys ((employeeIds snapshot).filter fun employeeId =>
    !(employeeIds other).contains employeeId)

def headcount (snapshot : Snapshot) : Nat := (sortedKeys (employeeIds snapshot)).length

section Findings

variable {N : Type} [Arithmetic N]

/-! ### Base findings -/

omit [Arithmetic N] in
def newEmployeeFinding (baseline target : Snapshot) (employeeId : Int) :
    Except PyException (Finding N) := do
  let employee ← snapshotName target employeeId
  let refs := employeeRefs target employeeId
  return {
    findingCode := .newEmployee
    severity := .info
    baselinePeriod := some baseline.period
    targetPeriod := target.period
    employee := some employee
    baselineValue := some (.text "absent")
    targetValue := some (.text "present")
    calculation := "target employee IDs minus baseline employee IDs"
    rule := "Exact employee-ID set difference; no hire inference."
    sourceRefs := refs
    evidence := [⟨"employee_set_membership", some (.text "absent"), some (.text "present"), refs⟩]
    limitations := ["employee_presence_does_not_prove_hire"] }

omit [Arithmetic N] in
def missingEmployeeFinding (baseline target : Snapshot) (employeeId : Int) :
    Except PyException (Finding N) := do
  let employee ← snapshotName baseline employeeId
  let refs := employeeRefs baseline employeeId
  return {
    findingCode := .missingEmployee
    severity := .review
    baselinePeriod := some baseline.period
    targetPeriod := target.period
    employee := some employee
    baselineValue := some (.text "present")
    targetValue := some (.text "absent")
    calculation := "baseline employee IDs minus target employee IDs"
    rule := "Exact employee-ID set difference; no termination inference."
    sourceRefs := refs
    evidence := [⟨"employee_set_membership", some (.text "present"), some (.text "absent"), refs⟩]
    limitations := ["employee_absence_does_not_prove_termination"] }

def employeeCountFindings (baseline target : Snapshot) : List (Finding N) :=
  let before : String := toString (headcount baseline)
  let after : String := toString (headcount target)
  let refs := mergeSourceRefs [snapshotRefs baseline, snapshotRefs target]
  if headcount baseline = headcount target then
    []
  else
    [{ findingCode := .employeeCountChange
       severity := .info
       baselinePeriod := some baseline.period
       targetPeriod := target.period
       baselineValue := some (.text before)
       targetValue := some (.text after)
       absoluteDelta :=
         some (ofDecimal (Decimal.ofInt ((headcount target : Int) - headcount baseline)))
       calculation := "target headcount minus baseline headcount"
       rule := "Any non-zero exact employee-count delta."
       sourceRefs := refs
       evidence := [⟨"employee_count", some (.text before), some (.text after), refs⟩] }]

omit [Arithmetic N] in
/-- One finding for an employee's changes of contract facts, of which there is at least one. -/
def contractFinding (baseline target : Snapshot) (changes : List ContractFactChange) :
    Option (Finding N) :=
  changes.head?.map fun first => {
    findingCode := .contractChange
    severity := .review
    baselinePeriod := some baseline.period
    targetPeriod := target.period
    employee := some first.employee
    calculation := "exact normalized contract facts compared field by field"
    rule := "Any exact contract fact change."
    sourceRefs := mergeSourceRefs (changes.map (·.sourceRefs))
    evidence := changes.map fun change =>
      ⟨change.fact, change.baselineValue.map .text, change.targetValue.map .text, change.sourceRefs⟩
    limitations := ["contract_change_does_not_establish_payroll_causality"] }

omit [Arithmetic N] in
def contractFindings (baseline target : Snapshot) (changes : List ContractFactChange) :
    List (Finding N) :=
  (sortedKeys (changes.map (·.employee.id))).filterMap fun employeeId =>
    contractFinding baseline target (rowsAt (·.employee.id) changes employeeId)

def nonzeroTotal (total : Option N) : Bool := total.any fun value => !same value zero

def ruleLineFinding (baseline target : Snapshot) (change : LineChange N) : Option (Finding N) :=
  let findingCode : Option FindingCode :=
    if change.baselineTotal.isNone && nonzeroTotal change.targetTotal then
      some .ruleLineAdded
    else if change.targetTotal.isNone && nonzeroTotal change.baselineTotal then
      some .ruleLineRemoved
    else
      none
  findingCode.map fun findingCode => {
    findingCode := findingCode
    severity := .review
    baselinePeriod := some baseline.period
    targetPeriod := target.period
    employee := some change.employee
    currency := change.currency
    salaryRule := some change.salaryRule
    code := some change.code
    baselineValue := change.baselineTotal.map .number
    targetValue := change.targetTotal.map .number
    absoluteDelta := change.absoluteDelta
    calculation := "exact salary-rule ID and code presence comparison"
    rule := "A non-zero exact rule line exists in only one comparable period."
    sourceRefs := change.sourceRefs
    evidence := [⟨"salary_rule_line_total", change.baselineTotal.map .number,
      change.targetTotal.map .number, change.sourceRefs⟩] }

def employeeCurrencies (snapshot : Snapshot) (employeeId : Int) : List Int :=
  sortedKeys ((rowsAt (·.employee.id) snapshot.payslips employeeId).map (·.currency.id))

def currencyTexts (baseline target : Snapshot) (currencies : List Int) :
    Except PyException String := do
  let texts ← currencies.mapM fun currencyId => do
    let currency ← currencyNamed baseline target currencyId
    return toString currency.id ++ ":" ++ currency.name
  return ",".intercalate texts

omit [Arithmetic N] in
def currencyFinding (baseline target : Snapshot) (employeeId : Int) :
    Except PyException (Option (Finding N)) := do
  let currenciesBefore := employeeCurrencies baseline employeeId
  let currenciesAfter := employeeCurrencies target employeeId
  if currenciesBefore = currenciesAfter then
    return none
  else
    let refs := mergeSourceRefs [employeeRefs baseline employeeId, employeeRefs target employeeId]
    let before ← currencyTexts baseline target currenciesBefore
    let after ← currencyTexts baseline target currenciesAfter
    let employee ← snapshotName target employeeId
    return some {
      findingCode := .currencyChange
      severity := .review
      baselinePeriod := some baseline.period
      targetPeriod := target.period
      employee := some employee
      baselineValue := some (.text before)
      targetValue := some (.text after)
      calculation := "exact Odoo currency-ID set comparison"
      rule := "Currency changes are reported without conversion or amount comparison."
      sourceRefs := refs
      evidence := [⟨"currency", some (.text before), some (.text after), refs⟩]
      limitations := ["currency_change_prevents_amount_comparison"] }

/-- `_base_findings` -/
def baseFindings (baseline target : Snapshot) (changes : List (LineChange N))
    (contracts : List ContractFactChange) : Except PyException (List (Finding N)) := do
  let newEmployees ← (employeesOnlyIn target baseline).mapM (newEmployeeFinding baseline target)
  let missingEmployees ←
    (employeesOnlyIn baseline target).mapM (missingEmployeeFinding baseline target)
  let currencies ← (commonEmployees baseline target).mapM (currencyFinding baseline target)
  return newEmployees ++ missingEmployees ++ employeeCountFindings baseline target ++
    contractFindings baseline target contracts ++
      changes.filterMap (ruleLineFinding baseline target) ++ currencies.reduceOption

end Findings

/-! ### Checks of the snapshots -/

/-- `_too_large` -/
def tooLargeAnalysis : PyException :=
  payrollError .payrollResultTooLarge "The Payroll analysis exceeds the safe processing bound."
    "Narrow the Payroll periods or employee identifiers and retry."

def maxPayslips : Nat := 5000

def maxLines : Nat := 100000

def maxSegments : Nat := 20000

def maxWorkEntries : Nat := 100000

/-- `_enforce_combined_caps` -/
def enforceCombinedCaps (snapshots : List Snapshot) : Except PyException Unit :=
  let count (size : Snapshot → Nat) : Nat := (snapshots.map size).sum
  ensure (count (·.payslips.length) ≤ maxPayslips && count (·.lines.length) ≤ maxLines &&
    count (·.segments.length) ≤ maxSegments && count (·.workEntries.length) ≤ maxWorkEntries)
    tooLargeAnalysis

def referenceOf (model : String) (related : RelatedRecord) : (String × Int) × String :=
  ((model, related.id), related.name)

/-- What `_validate_cross_snapshot_metadata` registers of a snapshot's references. -/
def referencesOf (snapshot : Snapshot) : List ((String × Int) × String) :=
  (snapshot.payslips.flatMap fun payslip =>
    [referenceOf "hr.employee" payslip.employee, referenceOf "res.currency" payslip.currency,
      referenceOf payslip.contractSource.value payslip.contractSegment,
      referenceOf "hr.payroll.structure" payslip.payrollStructure] ++
        (payslip.batch.map (referenceOf "hr.payslip.run")).toList) ++
  (snapshot.lines.flatMap fun line =>
    [referenceOf "hr.salary.rule" line.salaryRule,
      referenceOf "hr.salary.rule.category" line.category,
      referenceOf "res.currency" line.currency]) ++
  (snapshot.segments.flatMap fun segment =>
    [referenceOf "hr.employee" segment.employee, referenceOf "res.currency" segment.currency]) ++
  (snapshot.workEntries.flatMap fun entry =>
    [referenceOf "hr.employee" entry.employee,
      referenceOf "hr.work.entry.type" entry.workEntryType])

/-- The rules and codes of a snapshot's lines, with what they have to agree on. -/
def rulesOf (snapshot : Snapshot) : List ((Int × String) × String × Int × String) :=
  snapshot.lines.map fun line =>
    ((line.salaryRule.id, line.code), line.salaryRule.name, line.category.id, line.category.name)

/-- `_validate_cross_snapshot_metadata`; its two tables raise the same error. -/
def validateCrossSnapshotMetadata (snapshots : List Snapshot) : Except PyException Unit := do
  register [] (snapshots.flatMap rulesOf)
  register [] (snapshots.flatMap referencesOf)

/-! ### The comparison -/

structure EmployeeSetChanges where
  newEmployees : List NamedReference
  missingEmployees : List NamedReference
  commonEmployees : List NamedReference

/-- `_employee_sets` -/
def employeeSets (baseline target : Snapshot) : Except PyException EmployeeSetChanges := do
  return ⟨← (employeesOnlyIn target baseline).mapM (snapshotName target),
    ← (employeesOnlyIn baseline target).mapM (snapshotName baseline),
    ← (commonEmployees baseline target).mapM (snapshotName target)⟩

/-- `_limitations` -/
def limitations (baseline target : Snapshot) (states : List PayrollState) : List String :=
  let unproven (snapshot : Snapshot) : Bool := (employeeIds snapshot).any fun employeeId =>
    !(snapshot.segments.map (·.employee.id)).contains employeeId
  sortedKeys (["employer_cost_not_authoritatively_available",
      "work_entries_do_not_prove_physical_attendance"] ++
    (if states.contains .cancelled then ["cancelled_payslips_excluded_from_comparison"] else []) ++
    if unproven baseline || unproven target then
      ["contract_evidence_unavailable_for_some_employees"] else [])

structure PeriodComparison (N : Type) where
  sourceRefs : List SourceReference
  limitations : List String
  baselinePeriod : PayrollPeriod
  targetPeriod : PayrollPeriod
  headcount : CountComparison N
  employeeChanges : EmployeeSetChanges
  payslipTotals : List (PayslipTotal N)
  ruleTotals : List (RuleTotal N)
  categoryTotals : List (CategoryTotal N)
  recognizedRuleTotals : List (RecognizedComparison N)
  employerCost : String
  contractChanges : List ContractFactChange
  workEntryHours : List (WorkEntryHours N)
  changedEmployees : List NamedReference
  findings : List (Finding N)

section Comparing

variable {N : Type} [Arithmetic N] [FinePlaces N]

omit [Arithmetic N] [FinePlaces N] in
def changedEmployeeIds (changes : List (LineChange N)) (contracts : List ContractFactChange)
    (hours : List (WorkEntryHours N)) (sets : EmployeeSetChanges) : List Int :=
  sortedKeys (changes.map (·.employee.id) ++ contracts.map (·.employee.id) ++
    (hours.filter fun item => item.hours.change ≠ .unchanged).map (·.employee.id) ++
      sets.newEmployees.map (·.id) ++ sets.missingEmployees.map (·.id))

/-- `compare_payroll_periods`, of the snapshots that it loads. -/
def comparePeriods (baseline target : Snapshot) (states : List PayrollState) :
    Except PyException (PeriodComparison N) := do
  enforceCombinedCaps [baseline, target]
  validateCrossSnapshotMetadata [baseline, target]
  let changes ← lineChanges baseline target
  let contracts ← contractChanges baseline target
  let hours ← workEntryHours baseline target
  let findings ← baseFindings baseline target changes contracts
  let sets ← employeeSets baseline target
  let count ← countComparison (headcount baseline) (headcount target)
  let payslips ← payslipTotals baseline target
  let rules ← ruleTotals baseline target
  let categories ← categoryTotals baseline target
  let changed ← (changedEmployeeIds changes contracts hours sets).mapM
    (employeeNamed baseline target)
  return {
    sourceRefs := mergeSourceRefs [snapshotRefs baseline, snapshotRefs target]
    limitations := limitations baseline target states
    baselinePeriod := baseline.period
    targetPeriod := target.period
    headcount := count
    employeeChanges := sets
    payslipTotals := payslips
    ruleTotals := rules
    categoryTotals := categories
    recognizedRuleTotals := recognizedComparisons baseline target
    employerCost :=
      "No authoritative employer-cost aggregate is in the supported source contract."
    contractChanges := contracts
    workEntryHours := hours
    changedEmployees := changed
    findings := findings }

end Comparing

end PayrollAnalysis

end OdooMcp
