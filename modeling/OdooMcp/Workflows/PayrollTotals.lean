import OdooMcp.Workflows.PayrollComparisons

/-!
# Payroll snapshots and their totals

The payslips of a period with their lines, contract segments and work entries. The totals of two
snapshots are compared by payslip, by salary rule and by category; each of the three puts every line
under one key, and every key under one currency.
-/

namespace OdooMcp

namespace PayrollAnalysis

open Arithmetic Grouping

/-- `_Snapshot` -/
structure Snapshot where
  period : PayrollPeriod
  payslips : List Payslip
  lines : List PayslipLine
  segments : List PayrollContractSegment
  workEntries : List PayrollWorkEntry

/-- `PayrollNamedReference`, also of a currency -/
structure NamedReference where
  id : Int
  name : String
  deriving DecidableEq

/-- `_named` of a related record -/
def named (related : RelatedRecord) : NamedReference := ⟨related.id, related.name⟩

structure SourceReference where
  sourceModel : String
  sourceIds : List Int
  deriving DecidableEq

/-- `_source_refs`: the ids that are noted for a model, sorted. -/
def sourceRefs (noted : List (String × List Int)) : List SourceReference :=
  (sortedKeys (noted.map Prod.fst)).filterMap fun model =>
    let identifiers := sortedSet ((rowsAt Prod.fst noted model).flatMap Prod.snd)
    if identifiers.isEmpty then none else some ⟨model, identifiers⟩

/-- `_merge_source_refs` -/
def mergeSourceRefs (groups : List (List SourceReference)) : List SourceReference :=
  sourceRefs (groups.flatten.map fun reference => (reference.sourceModel, reference.sourceIds))

def lineRefs (lines : List PayslipLine) : List SourceReference :=
  sourceRefs [("hr.payslip.line", lines.map (·.id)), ("hr.payslip", lines.map (·.payslip.id))]

def segmentRefs (segments : List PayrollContractSegment) : List (String × List Int) :=
  segments.map fun segment => (segment.sourceModel.value, [segment.id])

/-- `_snapshot_refs` -/
def snapshotRefs (snapshot : Snapshot) : List SourceReference :=
  sourceRefs ([("hr.payslip", snapshot.payslips.map (·.id)),
    ("hr.payslip.line", snapshot.lines.map (·.id)),
    ("hr.work.entry", snapshot.workEntries.map (·.id))] ++ segmentRefs snapshot.segments)

/-- `_employee_refs` -/
def employeeRefs (snapshot : Snapshot) (employeeId : Int) : List SourceReference :=
  let payslipIds := (rowsAt (·.employee.id) snapshot.payslips employeeId).map (·.id)
  sourceRefs ([("hr.payslip", payslipIds),
    ("hr.payslip.line",
      (snapshot.lines.filter fun line => payslipIds.contains line.payslip.id).map (·.id)),
    ("hr.work.entry", (rowsAt (·.employee.id) snapshot.workEntries employeeId).map (·.id))] ++
      segmentRefs (rowsAt (·.employee.id) snapshot.segments employeeId))

/-! ### Names -/

/-- What a lookup in a dictionary raises. -/
def missingName : PyException := .exception "KeyError"

/-- The last of some related records with an id gives its name. -/
def lastName (related : List RelatedRecord) (identifier : Int) :
    Except PyException NamedReference := do
  let found ← orRaise (related.reverse.find? (·.id = identifier)) missingName
  return ⟨identifier, found.name⟩

/-- The ids of `_employee_names` -/
def employeeIds (snapshot : Snapshot) : List Int := snapshot.payslips.map (·.employee.id)

/-- `{**_employee_names(baseline), **_employee_names(target)}` -/
def employeeNamed (baseline target : Snapshot) : Int → Except PyException NamedReference :=
  lastName ((baseline.payslips ++ target.payslips).map (·.employee))

def currencyNamed (baseline target : Snapshot) : Int → Except PyException NamedReference :=
  lastName ((baseline.payslips ++ target.payslips).map (·.currency))

def commonEmployees (baseline target : Snapshot) : List Int :=
  sortedKeys ((employeeIds baseline).filter fun employeeId =>
    (employeeIds target).contains employeeId)

/-! ### Totals of two snapshots -/

section Totals

variable {N : Type} [Arithmetic N] [FinePlaces N]

def totalOf (amounts : List Decimal) : N := total (amounts.map ofDecimal)

/-- One item for every key, with the totals of its amounts before and after compared. -/
def comparedTotals {κ β : Type} [LinearOrder κ] (keys : List κ) (before after : κ → List Decimal)
    (item : κ → Except PyException (DecimalComparison N → β)) : Except PyException (List β) :=
  (sortedKeys keys).mapM fun key => do
    let make ← item key
    return make (← decimalComparison (totalOf (before key)) (totalOf (after key)))

def lineTotals {κ : Type} [LinearOrder κ] (keyOf : PayslipLine → κ)
    (snapshot : Snapshot) (key : κ) :
    List Decimal :=
  (rowsAt keyOf snapshot.lines key).map (·.total)

/-! ### By payslip -/

/-- An employee and a currency -/
abbrev OwnerKey := Int ×ₗ Int

def ownerKey (line : PayslipLine) : OwnerKey :=
  toLex (line.employee.id, line.currency.id)

def payslipKey (payslip : Payslip) : OwnerKey :=
  toLex (payslip.employee.id, payslip.currency.id)

structure PayslipTotal (N : Type) where
  employee : NamedReference
  currency : NamedReference
  baselinePayslipIds : List Int
  targetPayslipIds : List Int
  observedLineTotal : DecimalComparison N
  sourceRefs : List SourceReference

def keyedPayslips (snapshot : Snapshot) (key : OwnerKey) : List Int :=
  sortedSet ((rowsAt ownerKey snapshot.lines key).map (·.payslip.id) ++
    (rowsAt payslipKey snapshot.payslips key).map (·.id))

def payslipTotal (baseline target : Snapshot) (key : OwnerKey) :
    Except PyException (DecimalComparison N → PayslipTotal N) := do
  let employee ← employeeNamed baseline target (ofLex key).1
  let currency ← currencyNamed baseline target (ofLex key).2
  return fun observedLineTotal => {
    employee := employee
    currency := currency
    baselinePayslipIds := keyedPayslips baseline key
    targetPayslipIds := keyedPayslips target key
    observedLineTotal := observedLineTotal
    sourceRefs := sourceRefs
      [("hr.payslip", keyedPayslips baseline key ++ keyedPayslips target key),
        ("hr.payslip.line",
          (rowsAt ownerKey (baseline.lines ++ target.lines) key).map (·.id))] }

def payslipKeys (snapshot : Snapshot) : List OwnerKey :=
  snapshot.lines.map ownerKey ++ snapshot.payslips.map payslipKey

/-- `_payslip_totals` -/
def payslipTotals (baseline target : Snapshot) : Except PyException (List (PayslipTotal N)) :=
  comparedTotals (payslipKeys baseline ++ payslipKeys target)
    (lineTotals ownerKey baseline) (lineTotals ownerKey target) (payslipTotal baseline target)

/-! ### By salary rule and by category -/

/-- The rows of a key in both snapshots, and the one that gives the names: a target line if there
is one. -/
def sampled {κ : Type} [LinearOrder κ] (keyOf : PayslipLine → κ) (baseline target : Snapshot)
    (key : κ) : Except PyException (PayslipLine × List PayslipLine) := do
  let before := rowsAt keyOf baseline.lines key
  let after := rowsAt keyOf target.lines key
  let sample ← orRaise (after ++ before).head? (.exception "IndexError")
  return (sample, before ++ after)

/-- A currency, a salary rule, its code and its category -/
abbrev RuleKey := Int ×ₗ Int ×ₗ String ×ₗ Int

def ruleKey (line : PayslipLine) : RuleKey :=
  toLex (line.currency.id, toLex (line.salaryRule.id, toLex (line.code, line.category.id)))

structure RuleTotal (N : Type) where
  currency : NamedReference
  salaryRule : NamedReference
  code : String
  category : NamedReference
  total : DecimalComparison N
  sourceRefs : List SourceReference

def ruleTotal (baseline target : Snapshot) (key : RuleKey) :
    Except PyException (DecimalComparison N → RuleTotal N) := do
  let (sample, rows) ← sampled ruleKey baseline target key
  return fun total => ⟨named sample.currency, named sample.salaryRule, sample.code,
    named sample.category, total, lineRefs rows⟩

/-- `_rule_totals` -/
def ruleTotals (baseline target : Snapshot) : Except PyException (List (RuleTotal N)) :=
  comparedTotals ((baseline.lines ++ target.lines).map ruleKey) (lineTotals ruleKey baseline)
    (lineTotals ruleKey target) (ruleTotal baseline target)

/-- A currency and a category -/
abbrev CategoryKey := Int ×ₗ Int

def categoryKey (line : PayslipLine) : CategoryKey :=
  toLex (line.currency.id, line.category.id)

structure CategoryTotal (N : Type) where
  currency : NamedReference
  category : NamedReference
  total : DecimalComparison N
  sourceRefs : List SourceReference

def categoryTotal (baseline target : Snapshot) (key : CategoryKey) :
    Except PyException (DecimalComparison N → CategoryTotal N) := do
  let (sample, rows) ← sampled categoryKey baseline target key
  return fun total => ⟨named sample.currency, named sample.category, total, lineRefs rows⟩

/-- `_category_totals` -/
def categoryTotals (baseline target : Snapshot) : Except PyException (List (CategoryTotal N)) :=
  comparedTotals ((baseline.lines ++ target.lines).map categoryKey)
    (lineTotals categoryKey baseline) (lineTotals categoryKey target)
      (categoryTotal baseline target)

/-! ### Recognized rules -/

structure RecognizedTotal (N : Type) where
  currency : NamedReference
  total : N
  sourceRefs : List SourceReference

/-- `PayrollRecognizedPeriodValue`: totals, or the reason why there are none. -/
inductive RecognizedValue (N : Type)
  | available (values : List (RecognizedTotal N))
  | unavailable (reason : String)

structure RecognizedComparison (N : Type) where
  code : String
  baseline : RecognizedValue N
  target : RecognizedValue N

/-- `_RECOGNIZED_CODES` -/
def recognizedCodes : List String := ["BASIC", "GROSS", "NET"]

/-- `_recognized_value` -/
def recognizedValue (lines : List PayslipLine) (code : String) : RecognizedValue N :=
  let selected := lines.filter fun line => line.code = code
  if selected.isEmpty then
    .unavailable "exact_rule_code_missing"
  else if (selected.map (·.salaryRule.id)).dedup.length ≠ 1 then
    .unavailable "exact_rule_code_duplicate"
  else
    .available ((sortedKeys (selected.map (·.currency.id))).filterMap fun currencyId =>
      let rows := rowsAt (·.currency.id) selected currencyId
      rows.head?.map fun sample =>
        ⟨named sample.currency, totalOf (rows.map (·.total)), lineRefs rows⟩)

/-- `_recognized_comparisons` -/
def recognizedComparisons (baseline target : Snapshot) : List (RecognizedComparison N) :=
  recognizedCodes.map fun code =>
    ⟨code, recognizedValue baseline.lines code, recognizedValue target.lines code⟩

end Totals

/-! ### Conservation -/

def linesTotal (snapshot : Snapshot) (currencyId : Int) : ℚ :=
  ((snapshot.lines.filter fun line => line.currency.id = currencyId).map (·.total.value)).sum

theorem totalOf_exact (amounts : List Decimal) :
    (totalOf amounts : ℚ) = (amounts.map Decimal.value).sum := total_exact _

section Compared

variable {κ β : Type} [LinearOrder κ] {keys : List κ} {before after : κ → List Decimal}
  {item : κ → Except PyException (DecimalComparison ℚ → β)} {items : List β}

/-- What an item is made of: its key, and the comparison it is given. -/
structure Builds (keyOf : β → κ) (comparisonOf : β → DecimalComparison ℚ)
    (item : κ → Except PyException (DecimalComparison ℚ → β)) : Prop where
  key : ∀ key make, item key = .ok make → ∀ comparison, keyOf (make comparison) = key
  comparison : ∀ key make, item key = .ok make →
    ∀ comparison, comparisonOf (make comparison) = comparison

theorem comparedTotals_ok (hitems : comparedTotals keys before after item = .ok items) :
    List.Forall₂ (fun key result => ∃ make comparison, item key = .ok make ∧
      decimalComparison (totalOf (before key)) (totalOf (after key)) = .ok comparison ∧
        result = make comparison) (sortedKeys keys) items := by
  refine (forall₂_of_mapM_ok hitems).imp fun key result hresult => ?_
  obtain ⟨make, hmake, hrest⟩ := except_bind_ok.mp hresult
  obtain ⟨comparison, hcomparison, hdone⟩ := except_bind_ok.mp hrest
  cases hdone
  exact ⟨make, comparison, hmake, hcomparison, rfl⟩

variable {keyOf : β → κ} {comparisonOf : β → DecimalComparison ℚ}

/-- The items are those of the sorted keys, each with the difference of its two totals. -/
theorem comparedTotals_deltas (hbuilds : Builds keyOf comparisonOf item)
    (hitems : comparedTotals keys before after item = .ok items) :
    items.map (fun result => (keyOf result, (comparisonOf result).absoluteDelta)) =
      (sortedKeys keys).map fun key => (key, (totalOf (after key) - totalOf (before key) : ℚ)) := by
  have hforall := comparedTotals_ok hitems
  generalize sortedKeys keys = sorted at hforall ⊢
  clear hitems
  induction hforall with
  | nil => rfl
  | @cons key result sorted items hresult _ ih =>
      obtain ⟨make, comparison, hmake, hcomparison, rfl⟩ := hresult
      rw [List.map_cons, List.map_cons, ih, hbuilds.key key make hmake,
        hbuilds.comparison key make hmake, (decimalComparison_ok hcomparison).2.2.1]
      rfl

/-- **Conservation.** Whatever the key: where it fixes the currency and every line has one of the
keys, the differences of a currency sum to the difference of the lines in that currency. -/
theorem comparedTotals_conserves {lineKey : PayslipLine → κ} {currencyOf : κ → Int}
    {baseline target : Snapshot} (hbuilds : Builds keyOf comparisonOf item)
    (hcurrency : ∀ line, currencyOf (lineKey line) = line.currency.id)
    (hkeys : ∀ line ∈ baseline.lines ++ target.lines, lineKey line ∈ keys)
    (hitems : comparedTotals keys (lineTotals lineKey baseline) (lineTotals lineKey target) item =
      .ok items) (currencyId : Int) :
    ((items.filter fun result => currencyOf (keyOf result) = currencyId).map
        fun result => (comparisonOf result).absoluteDelta).sum =
      linesTotal target currencyId - linesTotal baseline currencyId := by
  have hdeltas := comparedTotals_deltas hbuilds hitems
  have hlines (snapshot : Snapshot) (hall : ∀ line ∈ snapshot.lines, lineKey line ∈ keys) :
      (((sortedKeys keys).filter fun key => currencyOf key = currencyId).map
        fun key => (totalOf (lineTotals lineKey snapshot key) : ℚ)).sum =
          linesTotal snapshot currencyId := by
    have hsum := sum_rowsAt hall (fun key => decide (currencyOf key = currencyId))
      fun line : PayslipLine => line.total.value
    simp only [hcurrency] at hsum
    rw [linesTotal, ← hsum]
    refine congrArg List.sum (List.map_congr_left fun key _ => ?_)
    rw [totalOf_exact, lineTotals, List.map_map]
    rfl
  have hpairs :
      ((items.map fun result => (keyOf result, (comparisonOf result).absoluteDelta)).filter
      fun pair => currencyOf pair.1 = currencyId).map Prod.snd =
        (items.filter fun result => currencyOf (keyOf result) = currencyId).map
          fun result => (comparisonOf result).absoluteDelta := by
    rw [List.filter_map, List.map_map]
    rfl
  have hselected : (items.filter fun result => currencyOf (keyOf result) = currencyId).map
        (fun result => (comparisonOf result).absoluteDelta) =
      ((sortedKeys keys).filter fun key => currencyOf key = currencyId).map fun key =>
        (totalOf (lineTotals lineKey target key) -
          totalOf (lineTotals lineKey baseline key) : ℚ) := by
    rw [← hpairs, hdeltas, List.filter_map, List.map_map]
    rfl
  rw [hselected, ← hlines target fun line hline => hkeys line (List.mem_append_right _ hline),
    ← hlines baseline fun line hline => hkeys line (List.mem_append_left _ hline)]
  refine eq_sub_of_add_eq ?_
  rw [← List.sum_map_add]
  exact congrArg List.sum (List.map_congr_left fun key _ => sub_add_cancel _ _)

/-! ### Turning a comparison -/

theorem comparedTotals_exists {keys : List κ} (hitem : ∀ key ∈ keys, ∃ make, item key = .ok make) :
    ∃ items, comparedTotals keys before after item = .ok items := by
  refine exists_mapM_ok fun key hkey => ?_
  obtain ⟨make, hmake⟩ := hitem key (mem_sortedKeys.mp hkey)
  obtain ⟨comparison, hcomparison⟩ :=
    decimalComparison_exact (totalOf (before key)) (totalOf (after key))
  exact ⟨_, except_bind_ok.mpr ⟨make, hmake, except_bind_ok.mpr ⟨comparison, hcomparison, rfl⟩⟩⟩

def TurnedItems (keyOf : β → κ) (comparisonOf : β → DecimalComparison ℚ)
    (items turned : List β) : Prop :=
  List.Forall₂ (fun item turned => keyOf turned = keyOf item ∧
    Turned (comparisonOf item) (comparisonOf turned)) items turned

/-- Exchanging what comes before and after turns every item. -/
theorem comparedTotals_turned {others : List κ}
    {other : κ → Except PyException (DecimalComparison ℚ → β)} {turned : List β}
    (hsame : ∀ key, key ∈ keys ↔ key ∈ others) (hbuilds : Builds keyOf comparisonOf item)
    (hother : Builds keyOf comparisonOf other)
    (hitems : comparedTotals keys before after item = .ok items)
    (hturned : comparedTotals others after before other = .ok turned) :
    TurnedItems keyOf comparisonOf items turned := by
  have hforall := comparedTotals_ok hitems
  have hforall' := comparedTotals_ok hturned
  rw [← sortedKeys_congr hsame] at hforall'
  generalize sortedKeys keys = sorted at hforall hforall'
  clear hitems hturned
  induction hforall generalizing turned with
  | nil =>
      cases hforall'
      exact .nil
  | @cons key result sorted items hresult _ ih =>
      cases hforall' with
      | @cons _ result' _ turned hresult' hrest =>
          obtain ⟨make, comparison, hmake, hcomparison, rfl⟩ := hresult
          obtain ⟨make', comparison', hmake', hcomparison', rfl⟩ := hresult'
          refine .cons ⟨?_, ?_⟩ (ih hrest)
          · rw [hbuilds.key key make hmake, hother.key key make' hmake']
          · rw [hbuilds.comparison key make hmake, hother.comparison key make' hmake']
            exact turned_of_ok hcomparison hcomparison'

end Compared

/-! ### The three totals -/

def PayslipTotal.key {N : Type} (item : PayslipTotal N) : OwnerKey :=
  toLex (item.employee.id, item.currency.id)

def RuleTotal.key {N : Type} (item : RuleTotal N) : RuleKey :=
  toLex (item.currency.id, toLex (item.salaryRule.id, toLex (item.code, item.category.id)))

def CategoryTotal.key {N : Type} (item : CategoryTotal N) : CategoryKey :=
  toLex (item.currency.id, item.category.id)

variable {baseline target : Snapshot}

theorem lastName_ok {related : List RelatedRecord} {identifier : Int} {found : NamedReference}
    (hfound : lastName related identifier = .ok found) :
    found.id = identifier ∧ identifier ∈ related.map (·.id) := by
  obtain ⟨record, hrecord, hdone⟩ := except_bind_ok.mp hfound
  cases hdone
  rw [orRaise_ok] at hrecord
  refine ⟨rfl, List.mem_map.mpr ⟨record, ?_, by simpa using List.find?_some hrecord⟩⟩
  exact List.mem_reverse.mp (List.mem_of_find?_eq_some hrecord)

theorem lastName_exists {related : List RelatedRecord} {identifier : Int}
    (hidentifier : identifier ∈ related.map (·.id)) :
    ∃ found, lastName related identifier = .ok found := by
  obtain ⟨record, hrecord, hid⟩ := List.mem_map.mp hidentifier
  have hsome : (related.reverse.find? fun other => other.id = identifier).isSome := by
    rw [List.find?_isSome]
    exact ⟨record, List.mem_reverse.mpr hrecord, by simpa using hid⟩
  obtain ⟨first, hfirst⟩ := Option.isSome_iff_exists.mp hsome
  exact ⟨_, except_bind_ok.mpr ⟨first, orRaise_ok.mpr hfirst, rfl⟩⟩

theorem employeeNamed_ok {employeeId : Int} {found : NamedReference}
    (hfound : employeeNamed baseline target employeeId = .ok found) : found.id = employeeId :=
  (lastName_ok hfound).1

/-- The names are those of both snapshots, whichever comes first. -/
theorem lastName_swapped {field : Payslip → RelatedRecord} {identifier : Int}
    {found : NamedReference}
    (hfound : lastName ((baseline.payslips ++ target.payslips).map field) identifier = .ok found) :
    ∃ other, lastName ((target.payslips ++ baseline.payslips).map field) identifier =
      .ok other := by
  refine lastName_exists ?_
  have hmem := (lastName_ok hfound).2
  rw [List.map_map, List.map_append, List.mem_append] at hmem ⊢
  exact hmem.symm

theorem payslipTotal_ok {key : OwnerKey} {make : DecimalComparison ℚ → PayslipTotal ℚ}
    (hmake : payslipTotal baseline target key = .ok make) :
    (∀ comparison, (make comparison).key = key ∧
      (make comparison).observedLineTotal = comparison) ∧
      ∃ other, payslipTotal (N := ℚ) target baseline key = .ok other := by
  obtain ⟨employee, hemployee, hrest⟩ := except_bind_ok.mp hmake
  obtain ⟨currency, hcurrency, hdone⟩ := except_bind_ok.mp hrest
  cases hdone
  refine ⟨fun comparison => ⟨?_, rfl⟩, ?_⟩
  · unfold PayslipTotal.key
    rw [(lastName_ok hemployee).1, (lastName_ok hcurrency).1]
    rfl
  · obtain ⟨other, hother⟩ := lastName_swapped hemployee
    obtain ⟨otherCurrency, hotherCurrency⟩ := lastName_swapped hcurrency
    exact ⟨_, except_bind_ok.mpr ⟨other, hother, except_bind_ok.mpr ⟨_, hotherCurrency, rfl⟩⟩⟩

theorem builds_payslipTotal :
    Builds PayslipTotal.key PayslipTotal.observedLineTotal (payslipTotal baseline target) where
  key _ _ hmake comparison := ((payslipTotal_ok hmake).1 comparison).1
  comparison _ _ hmake comparison := ((payslipTotal_ok hmake).1 comparison).2

section Sampled

variable {κ : Type} [LinearOrder κ] {keyOf : PayslipLine → κ} {key : κ}

theorem sampled_ok {sample : PayslipLine} {rows : List PayslipLine}
    (hsampled : sampled keyOf baseline target key = .ok (sample, rows)) : keyOf sample = key := by
  obtain ⟨first, hfirst, hdone⟩ := except_bind_ok.mp hsampled
  cases hdone
  have hmem := List.mem_of_mem_head? (orRaise_ok.mp hfirst)
  rcases List.mem_append.mp hmem with hafter | hbefore
  · exact (mem_rowsAt.mp hafter).2
  · exact (mem_rowsAt.mp hbefore).2

theorem sampled_exists (hkey : key ∈ (baseline.lines ++ target.lines).map keyOf) :
    ∃ sample rows, sampled keyOf baseline target key = .ok (sample, rows) := by
  obtain ⟨line, hline, hid⟩ := List.mem_map.mp hkey
  have hne : rowsAt keyOf target.lines key ++ rowsAt keyOf baseline.lines key ≠ [] := by
    refine List.ne_nil_of_mem (a := line) (List.mem_append.mpr ?_)
    rcases List.mem_append.mp hline with hbefore | hafter
    · exact .inr (mem_rowsAt.mpr ⟨hbefore, hid⟩)
    · exact .inl (mem_rowsAt.mpr ⟨hafter, hid⟩)
  refine ⟨_, _, except_bind_ok.mpr ⟨_, orRaise_ok.mpr (List.head?_eq_some_head hne), rfl⟩⟩

end Sampled

theorem mem_swapped {κ : Type} {keyOf : PayslipLine → κ} {key : κ} :
    key ∈ (baseline.lines ++ target.lines).map keyOf ↔
      key ∈ (target.lines ++ baseline.lines).map keyOf := by
  rw [List.map_append, List.map_append, List.mem_append, List.mem_append, or_comm]

theorem builds_ruleTotal : Builds RuleTotal.key RuleTotal.total (ruleTotal baseline target) where
  key key make hmake comparison := by
    obtain ⟨⟨sample, rows⟩, hsampled, hdone⟩ := except_bind_ok.mp hmake
    cases hdone
    exact sampled_ok hsampled
  comparison key make hmake comparison := by
    obtain ⟨⟨sample, rows⟩, -, hdone⟩ := except_bind_ok.mp hmake
    cases hdone
    rfl

theorem builds_categoryTotal :
    Builds CategoryTotal.key CategoryTotal.total (categoryTotal baseline target) where
  key key make hmake comparison := by
    obtain ⟨⟨sample, rows⟩, hsampled, hdone⟩ := except_bind_ok.mp hmake
    cases hdone
    exact sampled_ok hsampled
  comparison key make hmake comparison := by
    obtain ⟨⟨sample, rows⟩, -, hdone⟩ := except_bind_ok.mp hmake
    cases hdone
    rfl

/-! ### What the totals conserve -/

def leadingCurrency {α : Type} (key : Int ×ₗ α) : Int := (ofLex key).1

def ownerCurrency (key : OwnerKey) : Int := (ofLex key).2

variable {payslips : List (PayslipTotal ℚ)} {rules : List (RuleTotal ℚ)}
  {categories : List (CategoryTotal ℚ)}

theorem payslipTotals_conserves (hpayslips : payslipTotals baseline target = .ok payslips)
    (currencyId : Int) :
    ((payslips.filter fun item => item.currency.id = currencyId).map
        (·.observedLineTotal.absoluteDelta)).sum =
      linesTotal target currencyId - linesTotal baseline currencyId := by
  have hcurrency (line : PayslipLine) : ownerCurrency (ownerKey line) = line.currency.id := rfl
  refine comparedTotals_conserves builds_payslipTotal hcurrency (fun line hline => ?_) hpayslips
    currencyId
  unfold payslipKeys
  rcases List.mem_append.mp hline with hbefore | hafter
  · exact List.mem_append_left _ (List.mem_append_left _ (List.mem_map_of_mem hbefore))
  · exact List.mem_append_right _ (List.mem_append_left _ (List.mem_map_of_mem hafter))

theorem ruleTotals_conserves (hrules : ruleTotals baseline target = .ok rules) (currencyId : Int) :
    ((rules.filter fun item => item.currency.id = currencyId).map (·.total.absoluteDelta)).sum =
      linesTotal target currencyId - linesTotal baseline currencyId := by
  have hcurrency (line : PayslipLine) : leadingCurrency (ruleKey line) = line.currency.id := rfl
  exact comparedTotals_conserves builds_ruleTotal hcurrency
    (fun _ hline => List.mem_map_of_mem hline) hrules currencyId

theorem categoryTotals_conserves (hcategories : categoryTotals baseline target = .ok categories)
    (currencyId : Int) :
    ((categories.filter fun item => item.currency.id = currencyId).map
        (·.total.absoluteDelta)).sum =
      linesTotal target currencyId - linesTotal baseline currencyId := by
  have hcurrency (line : PayslipLine) : leadingCurrency (categoryKey line) = line.currency.id := rfl
  exact comparedTotals_conserves builds_categoryTotal hcurrency
    (fun _ hline => List.mem_map_of_mem hline) hcategories currencyId

/-! ### The snapshots exchanged -/

theorem mem_payslipKeys_swapped {key : OwnerKey} :
    key ∈ payslipKeys baseline ++ payslipKeys target ↔
      key ∈ payslipKeys target ++ payslipKeys baseline := by
  rw [List.mem_append, List.mem_append, or_comm]

/-- A key is one of a comparison that has an item for it. -/
theorem item_of_comparedTotals {κ β : Type} [LinearOrder κ] {keys : List κ}
    {before after : κ → List Decimal} {item : κ → Except PyException (DecimalComparison ℚ → β)}
    {items : List β} (hitems : comparedTotals keys before after item = .ok items) {key : κ}
    (hkey : key ∈ keys) : ∃ make, item key = .ok make := by
  obtain ⟨_, -, make, _, hmake, -⟩ :=
    exists_of_forall₂_left (comparedTotals_ok hitems) (mem_sortedKeys.mpr hkey)
  exact ⟨make, hmake⟩

theorem payslipTotals_turned (hpayslips : payslipTotals baseline target = .ok payslips) :
    ∃ turned, payslipTotals target baseline = .ok turned ∧
      TurnedItems PayslipTotal.key PayslipTotal.observedLineTotal payslips turned := by
  obtain ⟨turned, hturned⟩ : ∃ turned : List (PayslipTotal ℚ),
      payslipTotals target baseline = .ok turned := by
    refine comparedTotals_exists fun key hkey => ?_
    obtain ⟨make, hmake⟩ := item_of_comparedTotals hpayslips (mem_payslipKeys_swapped.mpr hkey)
    exact (payslipTotal_ok hmake).2
  exact ⟨turned, hturned, comparedTotals_turned (fun _ => mem_payslipKeys_swapped)
    builds_payslipTotal builds_payslipTotal hpayslips hturned⟩

theorem ruleTotals_exists (baseline target : Snapshot) :
    ∃ rules : List (RuleTotal ℚ), ruleTotals baseline target = .ok rules := by
  refine comparedTotals_exists fun key hkey => ?_
  obtain ⟨sample, rows, hsampled⟩ := sampled_exists hkey
  exact ⟨_, except_bind_ok.mpr ⟨⟨sample, rows⟩, hsampled, rfl⟩⟩

theorem categoryTotals_exists (baseline target : Snapshot) :
    ∃ categories : List (CategoryTotal ℚ), categoryTotals baseline target = .ok categories := by
  refine comparedTotals_exists fun key hkey => ?_
  obtain ⟨sample, rows, hsampled⟩ := sampled_exists hkey
  exact ⟨_, except_bind_ok.mpr ⟨⟨sample, rows⟩, hsampled, rfl⟩⟩

theorem ruleTotals_turned {turned : List (RuleTotal ℚ)}
    (hrules : ruleTotals baseline target = .ok rules)
    (hturned : ruleTotals target baseline = .ok turned) :
    TurnedItems RuleTotal.key RuleTotal.total rules turned :=
  comparedTotals_turned (fun _ => mem_swapped) builds_ruleTotal builds_ruleTotal hrules hturned

theorem categoryTotals_turned {turned : List (CategoryTotal ℚ)}
    (hcategories : categoryTotals baseline target = .ok categories)
    (hturned : categoryTotals target baseline = .ok turned) :
    TurnedItems CategoryTotal.key CategoryTotal.total categories turned :=
  comparedTotals_turned (fun _ => mem_swapped) builds_categoryTotal builds_categoryTotal hcategories
    hturned

end PayrollAnalysis

end OdooMcp
