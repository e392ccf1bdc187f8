import OdooMcp.Workflows.PayrollTotals

/-!
# Changes between two payroll snapshots

The changes of the rule lines, the contract facts and the work-entry hours of an employee. The lines
of one employee in a snapshot are in one currency, so that a rule line has one total and one
currency.
-/

namespace OdooMcp

namespace PayrollAnalysis

open Arithmetic Grouping

/-- `_invalid_source` -/
def invalidSource : PyException :=
  payrollError .payrollSourceInconsistent "Odoo returned inconsistent Payroll source data."
    "Check the requested company, identities, relationships, and Payroll records, then retry."

/-! ### One value for each key -/

section Register

variable {κ α : Type} [DecidableEq κ] [DecidableEq α]

/-- Note a value for every key in turn. A key that has another value already is inconsistent. -/
def register (known : List (κ × α)) : List (κ × α) → Except PyException Unit
  | [] => .ok ()
  | entry :: rest => do
      ensure ((dictGet known entry.1).all fun value => value = entry.2) invalidSource
      register (dictSet known entry.1 entry.2) rest

end Register

/-! ### Rule lines -/

/-- An employee, a salary rule and a code -/
abbrev LineKey := Int ×ₗ Int ×ₗ String

def lineKey (line : PayslipLine) : LineKey :=
  toLex (line.employee.id, toLex (line.salaryRule.id, line.code))

/-- `_LineAggregate` -/
structure LineAggregate (N : Type) where
  employee : NamedReference
  currency : NamedReference
  salaryRule : NamedReference
  category : NamedReference
  code : String
  total : N
  lines : List PayslipLine

structure LineChange (N : Type) where
  employee : NamedReference
  currency : Option NamedReference
  salaryRule : NamedReference
  code : String
  category : NamedReference
  baselineTotal : Option N
  targetTotal : Option N
  absoluteDelta : Option N
  percentageDelta : Option N
  change : ChangeKind
  sourceRefs : List SourceReference
  limitations : List String

section Lines

variable {N : Type} [Arithmetic N] [FinePlaces N]

omit [FinePlaces N] in
def lineAggregate (rows : List PayslipLine) : Except PyException (LineAggregate N) := do
  let sample ← orRaise rows.head? (.exception "IndexError")
  ensure (rows.all fun row => row.currency.id = sample.currency.id &&
    row.salaryRule.name = sample.salaryRule.name && row.category.id = sample.category.id &&
      row.category.name = sample.category.name) invalidSource
  return ⟨named sample.employee, named sample.currency, named sample.salaryRule,
    named sample.category, sample.code, totalOf (rows.map (·.total)), rows⟩

omit [FinePlaces N] in
/-- `_line_aggregates` -/
def lineAggregates (snapshot : Snapshot) :
    Except PyException (List (LineKey × LineAggregate N)) := do
  register [] (snapshot.lines.map fun line => (line.employee.id, line.currency.id))
  (sortedKeys (snapshot.lines.map lineKey)).mapM fun key => do
    return (key, ← lineAggregate (rowsAt lineKey snapshot.lines key))

omit [FinePlaces N] in
/-- `first == second` of two totals that may be absent -/
def sameTotal : Option N → Option N → Bool
  | none, none => true
  | some first, some second => same first second
  | _, _ => false

omit [FinePlaces N] in
/-- `value or Decimal("0")` -/
def orZero : Option N → N
  | none => zero
  | some value => if same value zero then zero else value

omit [FinePlaces N] in
def aggregateRefs (before after : Option (LineAggregate N)) : List SourceReference :=
  lineRefs ((before.map (·.lines)).getD [] ++ (after.map (·.lines)).getD [])

omit [Arithmetic N] [FinePlaces N] in
def changedLine (sample : LineAggregate N) (before after : Option (LineAggregate N))
    (currency : Option NamedReference) (absoluteDelta percentageDelta : Option N)
    (change : ChangeKind) (limitations : List String) : LineChange N where
  employee := sample.employee
  currency := currency
  salaryRule := sample.salaryRule
  code := sample.code
  category := sample.category
  baselineTotal := before.map (·.total)
  targetTotal := after.map (·.total)
  absoluteDelta := absoluteDelta
  percentageDelta := percentageDelta
  change := change
  sourceRefs := aggregateRefs before after
  limitations := limitations

omit [Arithmetic N] [FinePlaces N] in
def differentCurrencies (before after : Option (LineAggregate N)) : Bool :=
  before.any fun before => after.any fun after => before.currency.id ≠ after.currency.id

/-- The body of the loop of `_line_changes`, for an employee of both snapshots. -/
def lineChange (before after : Option (LineAggregate N)) :
    Except PyException (Option (LineChange N)) := do
  let sample ← orRaise (after <|> before) (.exception "AssertionError")
  let beforeTotal := before.map (·.total)
  let afterTotal := after.map (·.total)
  if sameTotal beforeTotal afterTotal then
    return none
  else if differentCurrencies before after then
    return some (changedLine sample before after none none none .unavailable
      ["currency_change_prevents_amount_comparison"])
  else if (before.isNone && same (orZero afterTotal) zero) ||
      (after.isNone && same (orZero beforeTotal) zero) then
    return none
  else
    let comparison ← decimalComparison (orZero beforeTotal) (orZero afterTotal)
    return some (changedLine sample before after (some sample.currency)
      (some comparison.absoluteDelta) comparison.percentageDelta comparison.change [])

/-- `_line_changes` -/
def lineChanges (baseline target : Snapshot) : Except PyException (List (LineChange N)) := do
  let before ← lineAggregates baseline
  let after ← lineAggregates target
  let keys := (sortedKeys (before.map Prod.fst ++ after.map Prod.fst)).filter fun key =>
    (commonEmployees baseline target).contains (ofLex key).1
  let changes ← keys.mapM fun key => lineChange (dictGet before key) (dictGet after key)
  return changes.reduceOption

end Lines

/-! ### Contract facts -/

structure ContractFactChange where
  employee : NamedReference
  fact : String
  baselineValue : Option String
  targetValue : Option String
  sourceRefs : List SourceReference

/-- `str(_render_related(value))` -/
def renderRelated : Option RelatedRecord → String
  | none => "None"
  | some related => toString related.id ++ ":" ++ related.name

/-- What `_segment_facts` says of a segment. -/
def segmentTexts : List (String × (PayrollContractSegment → String)) :=
  [("source_segments", fun row => row.sourceModel.value ++ ":" ++ toString row.id ++ ":" ++
      (row.revisionDate.map Date.isoformat).getD "unavailable"),
    ("effective_dates", fun row =>
      row.effectiveStart.isoformat ++ ".." ++ row.effectiveEnd.isoformat),
    ("active", fun row => if row.active then "true" else "false"),
    ("source_status", fun row => row.sourceStatus.value),
    ("wage", fun row => row.wage.text),
    ("currency", fun row => toString row.currency.id ++ ":" ++ row.currency.name),
    ("structure_type", fun row => renderRelated row.structureType),
    ("working_schedule", fun row => renderRelated row.resourceCalendar),
    ("department", fun row => renderRelated row.department),
    ("job", fun row => renderRelated row.job),
    ("contract_type", fun row => renderRelated row.contractType)]

def segmentBefore (first second : PayrollContractSegment) : Bool :=
  first.effectiveStart.ordinal < second.effectiveStart.ordinal ||
    (first.effectiveStart.ordinal = second.effectiveStart.ordinal && first.id ≤ second.id)

def orderedSegments (segments : List PayrollContractSegment) : List PayrollContractSegment :=
  segments.insertionSort (segmentBefore · ·)

/-- `_segment_facts` -/
def segmentFacts (segments : List PayrollContractSegment) : List (String × Option String) :=
  let ordered := orderedSegments segments
  segmentTexts.map fun fact =>
    (fact.1, if ordered.isEmpty then none else some (";".intercalate (ordered.map fact.2)))

def segmentFact (segments : List PayrollContractSegment) (fact : String) : Option String :=
  (dictGet (segmentFacts segments) fact).join

/-- `coverage`: the days that a period has before and after each segment. -/
def coverage (segments : List PayrollContractSegment) (period : PayrollPeriod) : List (Int × Int) :=
  (orderedSegments segments).map fun row =>
    ((row.effectiveStart.ordinal : Int) - period.start.ordinal,
      (period.finish.ordinal : Int) - row.effectiveEnd.ordinal)

def employeeSegments (snapshot : Snapshot) (employeeId : Int) : List PayrollContractSegment :=
  rowsAt (·.employee.id) snapshot.segments employeeId

/-- The facts of an employee's contracts that differ. The dates of the same segments differ if they
cover another part of their period. -/
def changedFacts (baseline target : Snapshot) (employeeId : Int) : List String :=
  let before := employeeSegments baseline employeeId
  let after := employeeSegments target employeeId
  (segmentTexts.map Prod.fst).filter fun fact =>
    !(fact = "effective_dates" &&
        segmentFact before "source_segments" = segmentFact after "source_segments" &&
          coverage before baseline.period = coverage after target.period) &&
      segmentFact before fact ≠ segmentFact after fact

def contractFactChange (baseline target : Snapshot) (employeeId : Int) (fact : String) :
    Except PyException ContractFactChange := do
  let before := employeeSegments baseline employeeId
  let after := employeeSegments target employeeId
  let employee ← employeeNamed baseline target employeeId
  return ⟨employee, fact, segmentFact before fact, segmentFact after fact,
    sourceRefs (segmentRefs (before ++ after))⟩

/-- `_contract_changes` -/
def contractChanges (baseline target : Snapshot) :
    Except PyException (List ContractFactChange) := do
  let employees := sortedKeys ((baseline.segments ++ target.segments).map (·.employee.id))
  let changes ← employees.mapM fun employeeId =>
    (changedFacts baseline target employeeId).mapM (contractFactChange baseline target employeeId)
  return changes.flatten

/-! ### Work-entry hours -/

/-- An employee, a work entry type and a code -/
abbrev HoursKey := Int ×ₗ Int ×ₗ String

def hoursKey (entry : PayrollWorkEntry) : HoursKey :=
  toLex (entry.employee.id, toLex (entry.workEntryType.id, entry.code))

structure WorkEntryHours (N : Type) where
  employee : NamedReference
  workEntryType : NamedReference
  code : String
  hours : DecimalComparison N
  conflictCount : Nat
  sourceRefs : List SourceReference

def inConflict (entry : PayrollWorkEntry) : Bool := entry.conflict || entry.state = .conflict

def entryDurations (snapshot : Snapshot) (key : HoursKey) : List Decimal :=
  (rowsAt hoursKey snapshot.workEntries key).map (·.duration)

section Hours

variable {N : Type} [Arithmetic N] [FinePlaces N]

omit [Arithmetic N] [FinePlaces N] in
def hoursOf (baseline target : Snapshot) (key : HoursKey) :
    Except PyException (DecimalComparison N → WorkEntryHours N) := do
  let before := rowsAt hoursKey baseline.workEntries key
  let after := rowsAt hoursKey target.workEntries key
  let sample ← orRaise (after ++ before).head? (.exception "IndexError")
  let employee ← employeeNamed baseline target (ofLex key).1
  return fun hours => ⟨employee, named sample.workEntryType, sample.code, hours,
    (after.filter inConflict).length, sourceRefs [("hr.work.entry", (before ++ after).map (·.id))]⟩

/-- `_work_entry_hours` -/
def workEntryHours (baseline target : Snapshot) : Except PyException (List (WorkEntryHours N)) :=
  comparedTotals ((baseline.workEntries ++ target.workEntries).map hoursKey)
    (entryDurations baseline) (entryDurations target) (hoursOf baseline target)

end Hours

end PayrollAnalysis

end OdooMcp
