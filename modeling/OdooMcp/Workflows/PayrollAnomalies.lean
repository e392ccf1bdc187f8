import Mathlib.Data.List.Infix
import OdooMcp.DecimalRounding
import OdooMcp.Workflows.PayrollChanged
import OdooMcp.Workflows.PayrollStatistics

/-!
# Payroll anomalies

Two snapshots, and those of past periods, are searched for what deserves a review: what the
comparison reports, amounts and hours that change by a percentage of the baseline, work entries in
conflict, and amounts far from the past ones. A profile chooses the percentage.

A rule line that only the target has is reported as added. One that the baseline has with a total of
zero has no percentage, and is the only change that nothing warns of.
-/

namespace OdooMcp

namespace PayrollAnalysis

open Arithmetic Grouping

def FindingCode.text : FindingCode → String
  | .newEmployee => "new_employee"
  | .missingEmployee => "missing_employee"
  | .employeeCountChange => "employee_count_change"
  | .contractChange => "contract_change"
  | .ruleLineAdded => "rule_line_added"
  | .ruleLineRemoved => "rule_line_removed"
  | .currencyChange => "currency_change"
  | .monetaryDeviation => "monetary_deviation"
  | .hoursDeviation => "hours_deviation"
  | .workEntryConflict => "work_entry_conflict"
  | .statisticalDeviation => "statistical_deviation"

/-- `_THRESHOLDS` -/
def ThresholdProfile.threshold : ThresholdProfile → Decimal
  | .strict => ⟨false, 5, 0⟩
  | .standard => ⟨false, 10, 0⟩
  | .relaxed => ⟨false, 20, 0⟩

structure AnomalyDetection (N : Type) where
  sourceRefs : List SourceReference
  limitations : List String
  baselinePeriod : PayrollPeriod
  targetPeriod : PayrollPeriod
  thresholdProfile : ThresholdProfile
  evaluatedEmployeeCount : Nat
  statisticalPeriodCount : Nat
  findings : List (Finding N)

section Findings

variable {N : Type} [Arithmetic N] [FinePlaces N]

omit [FinePlaces N] in
/-- The percentage of a change, unless a total is missing or the baseline is zero. -/
def changePercentage (baselineTotal targetTotal : Option N) : Except PyException (Option N) :=
  match baselineTotal, targetTotal with
  | some baselineTotal, some targetTotal =>
      if same baselineTotal zero then
        .ok none
      else do
        return some (← rawPercentage baselineTotal targetTotal)
  | _, _ => .ok none

/-- The loop over the line changes of `_threshold_findings`. -/
def monetaryFinding (baseline target : Snapshot) (profile : ThresholdProfile)
    (change : LineChange N) : Except PyException (Option (Finding N)) := do
  let threshold : N := ofDecimal profile.threshold
  match ← changePercentage change.baselineTotal change.targetTotal, change.currency with
  | some rawPercentage, some currency =>
      if lt (abs rawPercentage) threshold then
        return none
      else
        let percentage ← round rawPercentage
        return some {
          findingCode := .monetaryDeviation
          severity := .review
          baselinePeriod := some baseline.period
          targetPeriod := target.period
          employee := some change.employee
          currency := some currency
          salaryRule := some change.salaryRule
          code := some change.code
          baselineValue := change.baselineTotal.map .number
          targetValue := change.targetTotal.map .number
          absoluteDelta := change.absoluteDelta
          percentageDelta := some percentage
          observedDelta := some (abs percentage)
          calculation := "(target - baseline) / abs(baseline) * 100"
          rule := "Same-currency absolute percentage change meets the selected threshold."
          threshold := some threshold
          thresholdProfile := some profile
          sourceRefs := change.sourceRefs
          evidence := [⟨"salary_rule_line_total", change.baselineTotal.map .number,
            change.targetTotal.map .number, change.sourceRefs⟩] }
  | _, _ => return none

/-- The loop over the work-entry hours of `_threshold_findings`. -/
def hoursFinding (baseline target : Snapshot) (profile : ThresholdProfile)
    (comparison : WorkEntryHours N) : Except PyException (Option (Finding N)) := do
  let threshold : N := ofDecimal profile.threshold
  let hours := comparison.hours
  match ← changePercentage (some hours.baseline) (some hours.target) with
  | some rawPercentage =>
      if lt (abs rawPercentage) threshold then
        return none
      else
        let percentage ← round rawPercentage
        return some {
          findingCode := .hoursDeviation
          severity := .review
          baselinePeriod := some baseline.period
          targetPeriod := target.period
          employee := some comparison.employee
          code := some comparison.code
          baselineValue := some (.number hours.baseline)
          targetValue := some (.number hours.target)
          absoluteDelta := some hours.absoluteDelta
          percentageDelta := some percentage
          observedDelta := some (abs percentage)
          calculation := "(target hours - baseline hours) / abs(baseline hours) * 100"
          rule := "Absolute work-entry-hour percentage change meets the selected threshold."
          threshold := some threshold
          thresholdProfile := some profile
          sourceRefs := comparison.sourceRefs
          evidence := [⟨"work_entry_hours", some (.number hours.baseline),
            some (.number hours.target), comparison.sourceRefs⟩]
          limitations := ["work_entries_do_not_prove_physical_attendance"] }
  | none => return none

/-- `_threshold_findings` -/
def thresholdFindings (baseline target : Snapshot) (changes : List (LineChange N))
    (hours : List (WorkEntryHours N)) (profile : ThresholdProfile) :
    Except PyException (List (Finding N)) := do
  let monetary ← changes.mapM (monetaryFinding baseline target profile)
  let deviations ← hours.mapM (hoursFinding baseline target profile)
  return monetary.reduceOption ++ deviations.reduceOption

omit [FinePlaces N] in
def conflictFinding (baseline : Option Snapshot) (target : Snapshot) (employeeId : Int) :
    Except PyException (Finding N) := do
  let rows := rowsAt (·.employee.id) (target.workEntries.filter inConflict) employeeId
  let refs := sourceRefs [("hr.work.entry", rows.map (·.id))]
  let count : N := ofDecimal (Decimal.ofInt rows.length)
  let baselineValue : Option (Shown N) := baseline.map fun _ => .text "0"
  let targetValue : Option (Shown N) := some (.text (toString rows.length))
  let employee ← snapshotName target employeeId
  return {
    findingCode := .workEntryConflict
    severity := .critical
    baselinePeriod := baseline.map (·.period)
    targetPeriod := target.period
    employee := some employee
    baselineValue := baselineValue
    targetValue := targetValue
    absoluteDelta := baseline.map fun _ => count
    observedDelta := some count
    calculation := "count of target work entries marked conflict"
    rule := "Any target work-entry conflict is critical review evidence."
    sourceRefs := refs
    evidence := [⟨"work_entry_conflict_count", baselineValue, targetValue, refs⟩]
    limitations := ["work_entries_do_not_prove_physical_attendance"] }

omit [FinePlaces N] in
/-- `_work_entry_conflict_findings` -/
def workEntryConflictFindings (baseline : Option Snapshot) (target : Snapshot) :
    Except PyException (List (Finding N)) :=
  (sortedKeys ((target.workEntries.filter inConflict).map (·.employee.id))).mapM
    (conflictFinding baseline target)

omit [Arithmetic N] [FinePlaces N] in
def findingOrder (finding : Finding N) : String ×ₗ Int ×ₗ Int ×ₗ String :=
  toLex (finding.findingCode.text, toLex ((finding.employee.map (·.id)).getD (-1),
    toLex ((finding.salaryRule.map (·.id)).getD (-1), finding.code.getD "")))

/-- `detect_payroll_anomalies`, of the snapshots that it loads: those of the history in the order of
their periods. -/
def detectAnomalies (baseline target : Snapshot) (histories : List Snapshot)
    (states : List PayrollState) (profile : ThresholdProfile) :
    Except PyException (AnomalyDetection N) := do
  enforceCombinedCaps [baseline, target]
  validateCrossSnapshotMetadata [baseline, target]
  histories.inits.tail.forM fun loaded => enforceCombinedCaps (loaded ++ [baseline, target])
  validateCrossSnapshotMetadata (histories ++ [baseline, target])
  let changes ← lineChanges baseline target
  let contracts ← contractChanges baseline target
  let hours ← workEntryHours baseline target
  let base ← baseFindings baseline target changes contracts
  let deviations ← thresholdFindings baseline target changes hours profile
  let conflicts ← workEntryConflictFindings (some baseline) target
  let (statistical, statisticalLimitations) ← statisticalFindings baseline target histories
  return {
    sourceRefs := mergeSourceRefs ((histories ++ [baseline, target]).map snapshotRefs)
    limitations := sortedKeys (limitations baseline target states ++ statisticalLimitations)
    baselinePeriod := baseline.period
    targetPeriod := target.period
    thresholdProfile := profile
    evaluatedEmployeeCount := (sortedKeys (employeeIds baseline ++ employeeIds target)).length
    statisticalPeriodCount := histories.length
    findings := (base ++ deviations ++ conflicts ++ statistical).insertionSort
      fun first second => findingOrder first ≤ findingOrder second }

/-! ### Which changes are warned of -/

def changeCodes : List FindingCode := [.monetaryDeviation, .ruleLineAdded, .ruleLineRemoved]

omit [Arithmetic N] [FinePlaces N] in
def changeKey (change : LineChange N) : LineKey :=
  toLex (change.employee.id, toLex (change.salaryRule.id, change.code))

omit [FinePlaces N] in
/-- The code of the finding for a rule line that only one of the snapshots has. -/
def ruleLineCode (change : LineChange N) : Option FindingCode :=
  if change.baselineTotal.isNone && nonzeroTotal change.targetTotal then
    some .ruleLineAdded
  else if change.targetTotal.isNone && nonzeroTotal change.baselineTotal then
    some .ruleLineRemoved
  else
    none

omit [FinePlaces N] in
/-- A change in one currency whose percentage is not below the threshold. -/
def MonetaryDeviates (profile : ThresholdProfile) (change : LineChange N) : Prop :=
  change.currency.isSome ∧ ∃ percentage,
    changePercentage change.baselineTotal change.targetTotal = .ok (some percentage) ∧
      lt (abs percentage) (ofDecimal profile.threshold) = false

omit [Arithmetic N] [FinePlaces N] in
/-- What some findings warn of: the kind of the finding with its employee, rule and code. -/
def changeKeys (findings : List (Finding N)) : Set (FindingCode × LineKey) := fun entry =>
  entry.1 ∈ changeCodes ∧
    ∃ finding ∈ findings, finding.findingCode = entry.1 ∧ findingKey finding = some entry.2

omit [FinePlaces N] in
def Flags (profile : ThresholdProfile) (change : LineChange N) (findingCode : FindingCode) : Prop :=
  ruleLineCode change = some findingCode ∨
    findingCode = .monetaryDeviation ∧ MonetaryDeviates profile change

variable {baseline target : Snapshot} {profile : ThresholdProfile}

omit [FinePlaces N] in
theorem ruleLineFinding_ok {change : LineChange N} {finding : Finding N}
    (hfinding : finding ∈ ruleLineFinding baseline target change) :
    ruleLineCode change = some finding.findingCode ∧
      findingKey finding = some (changeKey change) := by
  obtain ⟨code, hcode, rfl⟩ := Option.map_eq_some_iff.mp hfinding
  exact ⟨hcode, rfl⟩

omit [FinePlaces N] in
theorem exists_ruleLineFinding {change : LineChange N} {code : FindingCode}
    (hcode : ruleLineCode change = some code) :
    ∃ finding ∈ ruleLineFinding baseline target change, finding.findingCode = code ∧
      findingKey finding = some (changeKey change) :=
  ⟨_, Option.map_eq_some_iff.mpr ⟨code, hcode, rfl⟩, rfl, rfl⟩

omit [FinePlaces N] in
theorem mem_changeCodes_of_ruleLine {change : LineChange N} {code : FindingCode}
    (hcode : ruleLineCode change = some code) : code ∈ changeCodes := by
  unfold ruleLineCode at hcode
  split at hcode
  · cases hcode
    decide
  · split at hcode
    · cases hcode
      decide
    · cases hcode

/-- A change has a finding if it deviates. -/
theorem monetaryFinding_ok {change : LineChange N} {result : Option (Finding N)}
    (hresult : monetaryFinding baseline target profile change = .ok result) :
    (∃ percentage,
        changePercentage change.baselineTotal change.targetTotal = .ok percentage) ∧
      (result.isSome ↔ MonetaryDeviates profile change) ∧
      ∀ finding ∈ result, finding.findingCode = .monetaryDeviation ∧
        findingKey finding = some (changeKey change) := by
  obtain ⟨percentage, hpercentage, hrest⟩ := except_bind_ok.mp hresult
  refine ⟨⟨percentage, hpercentage⟩, ?_⟩
  have hnone (habsent : ¬MonetaryDeviates profile change) (hdone : result = none) :
      (result.isSome ↔ MonetaryDeviates profile change) ∧
        ∀ finding ∈ result, finding.findingCode = .monetaryDeviation ∧
          findingKey finding = some (changeKey change) := by
    subst hdone
    exact ⟨⟨fun hsome => (by cases hsome), fun hdeviates => absurd hdeviates habsent⟩, by simp⟩
  cases percentage with
  | none =>
      refine hnone ?_ (Except.ok.inj hrest).symm
      rintro ⟨-, percentage, hfound, -⟩
      rw [hpercentage] at hfound
      cases hfound
  | some percentage =>
      cases hcurrency : change.currency with
      | none =>
          rw [hcurrency] at hrest
          refine hnone ?_ (Except.ok.inj hrest).symm
          rintro ⟨hsome, -⟩
          rw [hcurrency] at hsome
          cases hsome
      | some currency =>
          rw [hcurrency] at hrest
          dsimp only at hrest
          by_cases hbelow : lt (abs percentage) (ofDecimal profile.threshold : N) = true
          · rw [if_pos hbelow] at hrest
            refine hnone ?_ (Except.ok.inj hrest).symm
            rintro ⟨-, other, hfound, habove⟩
            rw [hpercentage] at hfound
            cases hfound
            rw [hbelow] at habove
            cases habove
          · rw [if_neg hbelow] at hrest
            obtain ⟨rounded, -, hdone⟩ := except_bind_ok.mp hrest
            cases hdone
            refine ⟨⟨fun _ => ⟨?_, percentage, hpercentage, Bool.eq_false_iff.mpr hbelow⟩,
              fun _ => rfl⟩, ?_⟩
            · rw [hcurrency]
              rfl
            · rintro finding ⟨⟩
              exact ⟨rfl, rfl⟩

section Detected

variable {changes : List (LineChange N)} {code : FindingCode} {key : LineKey}
  {findings : List (Finding N)} {finding : Finding N}

theorem code_of_hours {hours : List (WorkEntryHours N)} {deviations : List (Option (Finding N))}
    (hdeviations : hours.mapM (hoursFinding baseline target profile) = .ok deviations)
    (hfinding : finding ∈ deviations.reduceOption) : finding.findingCode = .hoursDeviation := by
  obtain ⟨comparison, -, hread⟩ := exists_of_forall₂_right (forall₂_of_mapM_ok hdeviations)
    (List.reduceOption_mem_iff.mp hfinding)
  obtain ⟨percentage, -, hrest⟩ := except_bind_ok.mp hread
  cases percentage with
  | none => cases hrest
  | some percentage =>
      dsimp only at hrest
      split at hrest
      · cases hrest
      · obtain ⟨rounded, -, hdone⟩ := except_bind_ok.mp hrest
        cases hdone
        rfl

omit [FinePlaces N] in
theorem code_of_conflicts {before : Option Snapshot}
    (hconflicts : workEntryConflictFindings before target = .ok findings)
    (hfinding : finding ∈ findings) : finding.findingCode = .workEntryConflict := by
  obtain ⟨employeeId, -, hread⟩ := exists_of_forall₂_right (forall₂_of_mapM_ok hconflicts) hfinding
  obtain ⟨employee, -, hdone⟩ := except_bind_ok.mp hread
  cases hdone
  rfl

theorem code_of_statistics {histories : List Snapshot} {limits : List String}
    (hstatistics : statisticalFindings baseline target histories = .ok (findings, limits))
    (hfinding : finding ∈ findings) : finding.findingCode = .statisticalDeviation := by
  obtain ⟨targetValues, -, hrest⟩ := except_bind_ok.mp hstatistics
  obtain ⟨history, -, hrest⟩ := except_bind_ok.mp hrest
  obtain ⟨results, hresults, hdone⟩ := except_bind_ok.mp hrest
  cases hdone
  obtain ⟨result, hresult, hfirst⟩ := List.mem_map.mp (List.reduceOption_mem_iff.mp hfinding)
  obtain ⟨entry, -, hread⟩ := exists_of_forall₂_right (forall₂_of_mapM_ok hresults) hresult
  obtain ⟨outcome, -, hrest⟩ := except_bind_ok.mp hread
  cases outcome with
  | insufficientHistory =>
      cases hrest
      cases hfirst
  | zeroDeviation =>
      cases hrest
      cases hfirst
  | scored center score =>
      dsimp only at hrest
      split at hrest
      · cases hrest
        cases hfirst
      · obtain ⟨rounded, -, hdone⟩ := except_bind_ok.mp hrest
        cases hdone
        cases hfirst
        rfl

omit [FinePlaces N] in
/-- Of the base findings, those of the rule lines warn of a total. -/
theorem mem_baseFindings {contracts : List ContractFactChange}
    (hbase : baseFindings baseline target changes contracts = .ok findings)
    (hcode : finding.findingCode ∈ changeCodes) :
    finding ∈ findings ↔ ∃ change ∈ changes, finding ∈ ruleLineFinding baseline target change := by
  obtain ⟨newEmployees, hnew, hrest⟩ := except_bind_ok.mp hbase
  obtain ⟨missingEmployees, hmissing, hrest⟩ := except_bind_ok.mp hrest
  obtain ⟨currencies, hcurrencies, hdone⟩ := except_bind_ok.mp hrest
  cases hdone
  have hother (kind : FindingCode) (hkind : finding.findingCode = kind)
      (hnot : kind ∉ changeCodes) : False := hnot (hkind ▸ hcode)
  constructor
  · intro hmem
    simp only [List.mem_append] at hmem
    rcases hmem with ((((hmem | hmem) | hmem) | hmem) | hmem) | hmem
    · obtain ⟨employeeId, -, hread⟩ := exists_of_forall₂_right (forall₂_of_mapM_ok hnew) hmem
      obtain ⟨employee, -, hdone⟩ := except_bind_ok.mp hread
      cases hdone
      exact (hother .newEmployee rfl (by decide)).elim
    · obtain ⟨employeeId, -, hread⟩ := exists_of_forall₂_right (forall₂_of_mapM_ok hmissing) hmem
      obtain ⟨employee, -, hdone⟩ := except_bind_ok.mp hread
      cases hdone
      exact (hother .missingEmployee rfl (by decide)).elim
    · unfold employeeCountFindings at hmem
      dsimp only at hmem
      split at hmem
      · cases hmem
      · cases List.mem_singleton.mp hmem
        exact (hother .employeeCountChange rfl (by decide)).elim
    · obtain ⟨employeeId, -, hmade⟩ := List.mem_filterMap.mp hmem
      obtain ⟨first, -, rfl⟩ := Option.map_eq_some_iff.mp hmade
      exact (hother .contractChange rfl (by decide)).elim
    · exact List.mem_filterMap.mp hmem
    · obtain ⟨employeeId, -, hread⟩ := exists_of_forall₂_right (forall₂_of_mapM_ok hcurrencies)
        (List.reduceOption_mem_iff.mp hmem)
      unfold currencyFinding at hread
      dsimp only at hread
      split at hread
      · cases hread
      · obtain ⟨before, -, hrest⟩ := except_bind_ok.mp hread
        obtain ⟨after, -, hrest⟩ := except_bind_ok.mp hrest
        obtain ⟨employee, -, hdone⟩ := except_bind_ok.mp hrest
        cases hdone
        exact (hother .currencyChange rfl (by decide)).elim
  · intro hmem
    exact List.mem_append_left _ (List.mem_append_right _ (List.mem_filterMap.mpr hmem))

/-- What a detection consists of, as far as the changes of the rule lines go. -/
structure DetectedOf (baseline target : Snapshot) (profile : ThresholdProfile)
    (findings : List (Finding N)) (changes : List (LineChange N)) : Prop where
  lines : lineChanges baseline target = .ok changes
  percentages : ∀ change ∈ changes, ∃ percentage,
    changePercentage change.baselineTotal change.targetTotal = .ok percentage
  keys : ∀ code key, (code, key) ∈ changeKeys findings ↔
    ∃ change ∈ changes, changeKey change = key ∧ Flags profile change code

theorem detectAnomalies_ok {histories : List Snapshot} {states : List PayrollState}
    {detection : AnomalyDetection N}
    (hdetected : detectAnomalies baseline target histories states profile = .ok detection) :
    ∃ changes, DetectedOf baseline target profile detection.findings changes := by
  obtain ⟨⟨⟩, -, hrest⟩ := except_bind_ok.mp hdetected
  obtain ⟨⟨⟩, -, hrest⟩ := except_bind_ok.mp hrest
  obtain ⟨⟨⟩, -, hrest⟩ := except_bind_ok.mp hrest
  obtain ⟨⟨⟩, -, hrest⟩ := except_bind_ok.mp hrest
  obtain ⟨changes, hchanges, hrest⟩ := except_bind_ok.mp hrest
  obtain ⟨contracts, -, hrest⟩ := except_bind_ok.mp hrest
  obtain ⟨hours, -, hrest⟩ := except_bind_ok.mp hrest
  obtain ⟨base, hbase, hrest⟩ := except_bind_ok.mp hrest
  obtain ⟨thresholds, hthresholds, hrest⟩ := except_bind_ok.mp hrest
  obtain ⟨conflicts, hconflicts, hrest⟩ := except_bind_ok.mp hrest
  obtain ⟨⟨statistical, limits⟩, hstatistical, hdone⟩ := except_bind_ok.mp hrest
  cases hdone
  obtain ⟨monetary, hmonetary, hrest⟩ := except_bind_ok.mp hthresholds
  obtain ⟨deviations, hdeviations, hdone⟩ := except_bind_ok.mp hrest
  cases hdone
  have hforall := forall₂_of_mapM_ok hmonetary
  refine ⟨changes, hchanges, fun change hchange => ?_, fun code key => ⟨?_, ?_⟩⟩
  · obtain ⟨result, -, hread⟩ := exists_of_forall₂_left hforall hchange
    exact (monetaryFinding_ok hread).1
  · rintro ⟨hcode, finding, hfinding, rfl, hkey⟩
    rw [List.mem_insertionSort, List.mem_append, List.mem_append, List.mem_append, List.mem_append]
      at hfinding
    have hother (kind : FindingCode) (hkind : finding.findingCode = kind)
        (hnot : kind ∉ changeCodes) : False := hnot (hkind ▸ hcode)
    rcases hfinding with ((hfinding | hfinding | hfinding) | hfinding) | hfinding
    · obtain ⟨change, hchange, hmade⟩ := (mem_baseFindings hbase hcode).mp hfinding
      obtain ⟨hcode, hfound⟩ := ruleLineFinding_ok hmade
      exact ⟨change, hchange, Option.some.inj (hfound.symm.trans hkey), .inl hcode⟩
    · obtain ⟨change, hchange, hread⟩ :=
        exists_of_forall₂_right hforall (List.reduceOption_mem_iff.mp hfinding)
      obtain ⟨-, hdeviates, hfound⟩ := monetaryFinding_ok hread
      obtain ⟨hcode, hfound⟩ := hfound finding rfl
      exact ⟨change, hchange, Option.some.inj (hfound.symm.trans hkey),
        .inr ⟨hcode, hdeviates.mp rfl⟩⟩
    · exact (hother _ (code_of_hours hdeviations hfinding) (by decide)).elim
    · exact (hother _ (code_of_conflicts hconflicts hfinding) (by decide)).elim
    · exact (hother _ (code_of_statistics hstatistical hfinding) (by decide)).elim
  · rintro ⟨change, hchange, rfl, hcode | ⟨rfl, hdeviates⟩⟩
    · have hwarns := mem_changeCodes_of_ruleLine hcode
      obtain ⟨finding, hfinding, rfl, hkey⟩ := exists_ruleLineFinding hcode
      refine ⟨hwarns, finding, ?_, rfl, hkey⟩
      rw [List.mem_insertionSort]
      refine List.mem_append_left _ (List.mem_append_left _ (List.mem_append_left _ ?_))
      exact (mem_baseFindings hbase hwarns).mpr ⟨change, hchange, hfinding⟩
    · obtain ⟨result, hmem, hread⟩ := exists_of_forall₂_left hforall hchange
      obtain ⟨-, hiff, hfound⟩ := monetaryFinding_ok hread
      obtain ⟨finding, rfl⟩ := Option.isSome_iff_exists.mp (hiff.mpr hdeviates)
      obtain ⟨hcode, hkey⟩ := hfound finding rfl
      have hwarns : FindingCode.monetaryDeviation ∈ changeCodes := by decide
      refine ⟨hwarns, finding, ?_, hcode, hkey⟩
      rw [List.mem_insertionSort]
      refine List.mem_append_left _ (List.mem_append_left _ (List.mem_append_right _ ?_))
      exact List.mem_append_left _ (List.reduceOption_mem_iff.mpr hmem)

end Detected

end Findings

/-! ### Percentages in the default context -/

/-- What the lines of a rule and a code sum to; no line counts as zero. -/
def lineSum (snapshot : Snapshot) (key : LineKey) : Decimal :=
  totalOf (lineTotals lineKey snapshot key)

theorem short_total (amounts : List Decimal) : (totalOf amounts : Decimal).Short := by
  have hfold (start : Decimal) (hstart : start.Short) :
      ((amounts.map (ofDecimal (N := Decimal))).foldl add start).Short := by
    induction amounts generalizing start with
    | nil => exact hstart
    | cons amount amounts ih => exact ih _ (Decimal.short_rounded _)
  have hzero : (zero : Decimal).Short := by
    unfold Decimal.Short
    decide
  exact hfold _ hzero

theorem abs_of_short {decimal : Decimal} (hshort : decimal.Short) :
    (Arithmetic.abs decimal).value = |decimal.value| := by
  have hrounded : Arithmetic.abs decimal = { decimal with negative := false } :=
    Decimal.rounded_of_short hshort
  rw [hrounded, Decimal.abs_value, Decimal.value]
  exact one_mul _

/-- A threshold has one digit. -/
theorem threshold_digit (profile : ThresholdProfile) : ∃ (digit : Nat) (power : Int), digit < 10 ∧
    profile.threshold.value / 100 = digit * 10 ^ power ∧
      profile.threshold.value / 100 ≤ 1 / 4 ∧
        profile.threshold.value = digit * 10 ^ (power + 2) := by
  cases profile with
  | strict => exact ⟨5, -2, by decide +kernel⟩
  | standard => exact ⟨1, -1, by decide +kernel⟩
  | relaxed => exact ⟨2, -1, by decide +kernel⟩

/-- A total that moves by the percentage of the threshold is not below it when all is rounded. -/
theorem percentage_of_deviates {baseline target percentage : Decimal} (hbaseline : baseline.Short)
    (htarget : target.Short) (hnonzero : baseline.value ≠ 0) {profile : ThresholdProfile}
    (hle : profile.threshold.value / 100 * |baseline.value| ≤ |target.value - baseline.value|)
    (hpercentage : rawPercentage baseline target = .ok percentage) :
    lt (Arithmetic.abs percentage) (ofDecimal profile.threshold) = false := by
  obtain ⟨digit, power, hdigit, hfraction, hquarter, hthreshold⟩ := threshold_digit profile
  obtain ⟨quotient, hquotient, hdone⟩ := except_bind_ok.mp hpercentage
  cases hdone
  have hdivided := orRaise_ok.mp hquotient
  have hmoved := Decimal.le_abs_sub hbaseline htarget hquarter hle
  have hpositive : 0 < |baseline.value| := abs_pos.mpr hnonzero
  have hquotient : (digit : ℚ) * 10 ^ power ≤ |quotient.value| := by
    refine Decimal.le_abs_div hdigit hdivided ?_
    rw [abs_of_short hbaseline, abs_abs, le_div_iff₀ hpositive, ← hfraction]
    exact hmoved
  have hproduct : (digit : ℚ) * 10 ^ (power + 2) ≤
      |(mul quotient (ofDecimal (Decimal.ofInt 100))).value| := by
    refine Decimal.le_abs_mul hdigit ?_
    have hhundred : |(ofDecimal (Decimal.ofInt 100) : Decimal).value| = 100 := by decide +kernel
    rw [hhundred, zpow_add₀ (by norm_num : (10 : ℚ) ≠ 0), ← mul_assoc]
    have htwo : (10 : ℚ) ^ (2 : Int) = 100 := by norm_num
    rw [htwo]
    exact mul_le_mul_of_nonneg_right hquotient (by norm_num)
  have hshort : (mul quotient (ofDecimal (Decimal.ofInt 100))).Short := Decimal.short_rounded _
  rw [Bool.eq_false_iff, Ne, LawfulArithmetic.lt_iff, not_lt]
  change profile.threshold.value ≤ (Arithmetic.abs (mul quotient (ofDecimal _))).value
  rw [abs_of_short hshort, hthreshold]
  exact hproduct

/-! ### Completeness -/

variable {baseline target : Snapshot} {profile : ThresholdProfile} {key : LineKey}

/-- The lines that a rule line has in both snapshots are in one currency. -/
def InOneCurrency (baseline target : Snapshot) (key : LineKey) : Prop :=
  ∀ first ∈ rowsAt lineKey (baseline.lines ++ target.lines) key,
    ∀ second ∈ rowsAt lineKey (baseline.lines ++ target.lines) key,
      first.currency.id = second.currency.id

/-- A total differs, by at least the percentage that the profile asks for. -/
def Deviates (baseline target : Snapshot) (profile : ThresholdProfile) (key : LineKey) : Prop :=
  (lineSum baseline key).value ≠ (lineSum target key).value ∧
    profile.threshold.value / 100 * |(lineSum baseline key).value| ≤
      |(lineSum target key).value - (lineSum baseline key).value|

/-- A detection that warns of every rule line that deviates, and of no fewer than at a higher
percentage. -/
structure AnomaliesComplete (baseline target : Snapshot) (histories : List Snapshot)
    (states : List PayrollState) (profile : ThresholdProfile)
    (detection : AnomalyDetection Decimal) : Prop where
  warned : ∀ key, (ofLex key).1 ∈ commonEmployees baseline target →
    InOneCurrency baseline target key → Deviates baseline target profile key →
      ∃ code, (code, key) ∈ changeKeys detection.findings
  monotone : ∀ higher (found : AnomalyDetection Decimal),
    profile.threshold.value ≤ higher.threshold.value →
    detectAnomalies baseline target histories states higher = .ok found →
      changeKeys found.findings ⊆ changeKeys detection.findings

/-- The baseline has lines that sum to zero, and the target has an amount. -/
def ZeroBaseline (baseline target : Snapshot) (key : LineKey) : Prop :=
  rowsAt lineKey baseline.lines key ≠ [] ∧ (lineSum baseline key).value = 0 ∧
    (lineSum target key).value ≠ 0

section Sums

variable {snapshot : Snapshot} {aggregates before after : List (LineKey × LineAggregate Decimal)}

theorem lineSum_of_none (haggregated : Aggregated snapshot aggregates)
    (hnone : dictGet aggregates key = none) : (lineSum snapshot key).value = 0 := by
  rw [lineSum, lineTotals, rowsAt_eq_nil_iff.mpr (notMem_of_dictGet haggregated hnone)]
  exact Decimal.value_zero

theorem lineSum_of_some (haggregated : Aggregated snapshot aggregates)
    {aggregate : LineAggregate Decimal} (hfound : dictGet aggregates key = some aggregate) :
    lineSum snapshot key = aggregate.total := (haggregated.found key aggregate hfound).total.symm

theorem same_false_iff {first second : Decimal} :
    same first second = false ↔ first.value ≠ second.value := by
  rw [Bool.eq_false_iff, Ne, LawfulArithmetic.same_iff]
  exact Iff.rfl

theorem totalsDiffer_iff (hbefore : Aggregated baseline before) (hafter : Aggregated target after) :
    TotalsDiffer (dictGet before key) (dictGet after key) ↔
      (lineSum baseline key).value ≠ (lineSum target key).value := by
  cases hfirst : dictGet before key with
  | none =>
      rw [lineSum_of_none hbefore hfirst]
      cases hsecond : dictGet after key with
      | none => simp [TotalsDiffer, lineSum_of_none hafter hsecond]
      | some second =>
          rw [lineSum_of_some hafter hsecond, TotalsDiffer, same_false_iff, zero_decimal,
            Decimal.value_zero, ne_comm]
  | some first =>
      rw [lineSum_of_some hbefore hfirst]
      cases hsecond : dictGet after key with
      | none =>
          rw [lineSum_of_none hafter hsecond, TotalsDiffer, same_false_iff, zero_decimal,
            Decimal.value_zero]
      | some second =>
          rw [lineSum_of_some hafter hsecond, TotalsDiffer, same_false_iff]

theorem not_differentCurrencies (hbefore : Aggregated baseline before)
    (hafter : Aggregated target after) (hone : InOneCurrency baseline target key) :
    differentCurrencies (dictGet before key) (dictGet after key) = false := by
  cases hfirst : dictGet before key with
  | none => rfl
  | some first =>
      cases hsecond : dictGet after key with
      | none => rfl
      | some second =>
          have hof := hbefore.found key first hfirst
          have hof' := hafter.found key second hsecond
          obtain ⟨line, hline⟩ := List.exists_mem_of_ne_nil _ hof.nonempty
          obtain ⟨other, hother⟩ := List.exists_mem_of_ne_nil _ hof'.nonempty
          refine decide_eq_false (not_not.mpr ?_)
          rw [← hof.currency line hline, ← hof'.currency other hother]
          obtain ⟨hmem, hkey⟩ := mem_rowsAt.mp (hof.lines ▸ hline)
          obtain ⟨hmem', hkey'⟩ := mem_rowsAt.mp (hof'.lines ▸ hother)
          exact hone line (mem_rowsAt.mpr ⟨List.mem_append_left _ hmem, hkey⟩) other
            (mem_rowsAt.mpr ⟨List.mem_append_right _ hmem', hkey'⟩)

end Sums

section Changes

variable {change : LineChange Decimal} {before after : Option (LineAggregate Decimal)}

theorem changeKey_of (hof : ChangeOf key before after change) : changeKey change = key := by
  refine Prod.ext hof.employee (Prod.ext ?_ ?_)
  · exact hof.salaryRule
  · exact hof.code

theorem nonzeroTotal_some {total : Decimal} :
    nonzeroTotal (some total) = true ↔ total.value ≠ 0 := by
  rw [← Decimal.value_zero, ← zero_decimal, ← same_false_iff]
  exact iff_of_eq (Bool.not_eq_true' _)

/-- A rule line that only one of the snapshots has, and that is not zero, is warned of. -/
theorem flags_of_missing (hof : ChangeOf key before after change)
    (hdiffer : TotalsDiffer before after) (hmissing : before = none ∨ after = none) :
    ∃ code, Flags profile change code := by
  rcases hmissing with rfl | rfl
  · cases after with
    | none => cases hdiffer
    | some after =>
        have hnonzero : nonzeroTotal change.targetTotal = true := by
          rw [hof.targetTotal, Option.map_some, nonzeroTotal_some, ← Decimal.value_zero,
            ← zero_decimal, ← same_false_iff]
          exact hdiffer
        refine ⟨.ruleLineAdded, .inl (if_pos ?_)⟩
        rw [hnonzero, hof.baselineTotal]
        rfl
  · cases before with
    | none => cases hdiffer
    | some before =>
        have hnonzero : nonzeroTotal change.baselineTotal = true := by
          rw [hof.baselineTotal, Option.map_some, nonzeroTotal_some, ← Decimal.value_zero,
            ← zero_decimal, ← same_false_iff]
          exact hdiffer
        refine ⟨.ruleLineRemoved, .inl ?_⟩
        rw [ruleLineCode, if_neg (by rw [hof.baselineTotal]; simp), hnonzero, hof.targetTotal]
        rfl

/-- The percentage of totals that are both there, and of which the first is not zero. -/
theorem changePercentage_some {first second : Decimal} (hnonzero : first.value ≠ 0)
    {percentage : Option Decimal}
    (hpercentage : changePercentage (some first) (some second) = .ok percentage) :
    ∃ found, percentage = some found ∧ rawPercentage first second = .ok found := by
  unfold changePercentage at hpercentage
  dsimp only at hpercentage
  have hnot : ¬same first zero = true := by
    rw [LawfulArithmetic.same_iff]
    exact fun hsame => hnonzero (hsame.trans Decimal.value_zero)
  rw [if_neg hnot] at hpercentage
  obtain ⟨found, hfound, hdone⟩ := except_bind_ok.mp hpercentage
  cases hdone
  exact ⟨found, rfl, hfound⟩

/-- No change from zero is warned of, where both snapshots have the line. -/
theorem not_flags_of_zero {first second : LineAggregate Decimal}
    (hof : ChangeOf key (some first) (some second) change) (hzero : first.total.value = 0)
    (code : FindingCode) : ¬Flags profile change code := by
  rintro (hcode | ⟨-, -, percentage, hpercentage, -⟩)
  · rw [ruleLineCode, hof.baselineTotal, hof.targetTotal] at hcode
    cases hcode
  · rw [hof.baselineTotal, hof.targetTotal] at hpercentage
    change changePercentage (some first.total) (some second.total) = _ at hpercentage
    unfold changePercentage at hpercentage
    dsimp only at hpercentage
    have hsame : same first.total zero = true := by
      rw [LawfulArithmetic.same_iff]
      exact hzero.trans Decimal.value_zero.symm
    rw [if_pos hsame] at hpercentage
    cases hpercentage

/-- What a threshold warns of, a lower one warns of. -/
theorem Flags.mono {higher : ThresholdProfile} {code : FindingCode}
    (hle : profile.threshold.value ≤ higher.threshold.value) (hflags : Flags higher change code) :
    Flags profile change code := by
  refine hflags.imp_right fun ⟨hcode, hcurrency, percentage, hpercentage, habove⟩ =>
    ⟨hcode, hcurrency, percentage, hpercentage, ?_⟩
  rw [Bool.eq_false_iff, Ne, LawfulArithmetic.lt_iff, not_lt] at habove ⊢
  exact hle.trans habove

end Changes

section Detections

variable {histories : List Snapshot} {states : List PayrollState}
  {detection : AnomalyDetection Decimal} {changes : List (LineChange Decimal)}
  {findings : List (Finding Decimal)}

theorem warned_of_deviates (hof : DetectedOf baseline target profile findings changes)
    (hcommon : (ofLex key).1 ∈ commonEmployees baseline target)
    (hone : InOneCurrency baseline target key) (hbaseline : ¬ZeroBaseline baseline target key)
    (hdeviates : Deviates baseline target profile key) :
    ∃ code, (code, key) ∈ changeKeys findings := by
  obtain ⟨before, after, hlines⟩ := lineChanges_ok hof.lines
  have hdiffer := (totalsDiffer_iff hlines.fromBaseline hlines.fromTarget).mpr hdeviates.1
  obtain ⟨change, hchange, hchangeOf⟩ := hlines.reported key hcommon hdiffer
  have hflags : ∃ code, Flags profile change code := by
    cases hfirst : dictGet before key with
    | none =>
        rw [hfirst] at hchangeOf hdiffer
        exact flags_of_missing hchangeOf hdiffer (.inl rfl)
    | some first =>
        cases hsecond : dictGet after key with
        | none =>
            rw [hfirst, hsecond] at hchangeOf hdiffer
            exact flags_of_missing hchangeOf hdiffer (.inr rfl)
        | some second =>
            have htotal := lineSum_of_some hlines.fromBaseline hfirst
            have htotal' := lineSum_of_some hlines.fromTarget hsecond
            have hnonzero : first.total.value ≠ 0 := by
              intro hzero
              have haggregate := hlines.fromBaseline.found key first hfirst
              rw [← htotal] at hzero
              refine hbaseline ⟨?_, hzero, fun htarget => ?_⟩
              · exact haggregate.lines ▸ haggregate.nonempty
              · exact hdeviates.1 (hzero.trans htarget.symm)
            obtain ⟨percentage, hpercentage⟩ := hof.percentages change hchange
            have hcurrency := hchangeOf.currency
            rw [not_differentCurrencies hlines.fromBaseline hlines.fromTarget hone] at hcurrency
            have htotals := hpercentage
            rw [hchangeOf.baselineTotal, hchangeOf.targetTotal, hfirst, hsecond, Option.map_some,
              Option.map_some, ← htotal, ← htotal'] at htotals
            rw [← htotal] at hnonzero
            obtain ⟨found, rfl, hfound⟩ := changePercentage_some hnonzero htotals
            exact ⟨.monetaryDeviation, .inr ⟨rfl, hcurrency, found, hpercentage,
              percentage_of_deviates (short_total _) (short_total _) hnonzero hdeviates.2 hfound⟩⟩
  obtain ⟨code, hflags⟩ := hflags
  exact ⟨code, (hof.keys code key).mpr ⟨change, hchange, changeKey_of hchangeOf, hflags⟩⟩

/-- A line that is zero in the baseline has no percentage, and is not added either. -/
theorem not_warned_of_zero (hof : DetectedOf baseline target profile findings changes)
    (hzero : ZeroBaseline baseline target key) (code : FindingCode) :
    (code, key) ∉ changeKeys findings := by
  obtain ⟨hlines, hbaseline, htarget⟩ := hzero
  intro hwarned
  obtain ⟨change, hchange, hkey, hflags⟩ := (hof.keys code key).mp hwarned
  obtain ⟨before, after, hchanges⟩ := lineChanges_ok hof.lines
  obtain ⟨key', -, -, hchangeOf⟩ := hchanges.differs change hchange
  obtain rfl : key' = key := (changeKey_of hchangeOf).symm.trans hkey
  obtain ⟨line, hline⟩ := List.exists_mem_of_ne_nil _ hlines
  obtain ⟨hmem, hid⟩ := mem_rowsAt.mp hline
  obtain ⟨first, hfirst⟩ := Option.isSome_iff_exists.mp
    ((hchanges.fromBaseline.present key').mpr (List.mem_map.mpr ⟨line, hmem, hid⟩))
  have htotal := lineSum_of_some hchanges.fromBaseline hfirst
  cases hsecond : dictGet after key' with
  | none => exact htarget (lineSum_of_none hchanges.fromTarget hsecond)
  | some second =>
      rw [hfirst, hsecond] at hchangeOf
      exact not_flags_of_zero hchangeOf (htotal ▸ hbaseline) code hflags

/-- **Completeness of the anomalies.** A total of a common employee in one currency that moves by
the percentage of the profile is warned of, unless the baseline has lines that sum to zero: then
nothing warns of it. At a lower percentage no warning is lost. -/
theorem detectAnomalies_warns
    (hdetected : detectAnomalies baseline target histories states profile = .ok detection) :
    (∀ key, (ofLex key).1 ∈ commonEmployees baseline target → InOneCurrency baseline target key →
      ¬ZeroBaseline baseline target key → Deviates baseline target profile key →
        ∃ code, (code, key) ∈ changeKeys detection.findings) ∧
    (∀ key, ZeroBaseline baseline target key → ∀ code,
      (code, key) ∉ changeKeys detection.findings) ∧
    ∀ higher (found : AnomalyDetection Decimal), profile.threshold.value ≤ higher.threshold.value →
      detectAnomalies baseline target histories states higher = .ok found →
        changeKeys found.findings ⊆ changeKeys detection.findings := by
  obtain ⟨changes, hof⟩ := detectAnomalies_ok hdetected
  refine ⟨fun key hcommon hone hbaseline hdeviates => ?_, fun key hzero => ?_,
    fun higher found hle hfound => ?_⟩
  · exact warned_of_deviates hof hcommon hone hbaseline hdeviates
  · exact not_warned_of_zero hof hzero
  · rintro ⟨code, key⟩ hwarned
    obtain ⟨others, hother⟩ := detectAnomalies_ok hfound
    obtain rfl : others = changes := Except.ok.inj (hother.lines.symm.trans hof.lines)
    obtain ⟨change, hchange, hkey, hflags⟩ := (hother.keys code key).mp hwarned
    exact (hof.keys code key).mpr ⟨change, hchange, hkey, hflags.mono hle⟩

end Detections

/-! ### An amount after another, and after zero -/

/-- A rule that pays 14 percent more is warned of at five percent, and at ten. -/
theorem detectAnomalies_warns_months :
    ∃ strict standard : AnomalyDetection Decimal,
      detectAnomalies monthBefore monthAfter [] [] .strict = .ok strict ∧
      detectAnomalies monthBefore monthAfter [] [] .standard = .ok standard ∧
      (∃ code, (code, toLex (3, toLex (2, "BASIC"))) ∈ changeKeys standard.findings) ∧
      changeKeys standard.findings ⊆ changeKeys strict.findings := by
  have hstrict : (detectAnomalies (N := Decimal) monthBefore monthAfter [] [] .strict).isOk =
      true := by decide +kernel
  have hstandard : (detectAnomalies (N := Decimal) monthBefore monthAfter [] [] .standard).isOk =
      true := by decide +kernel
  obtain ⟨strict, hstrict⟩ := ok_of_isOk hstrict
  obtain ⟨standard, hstandard⟩ := ok_of_isOk hstandard
  refine ⟨strict, standard, hstrict, hstandard,
    (detectAnomalies_warns hstandard).1 _ ?_ ?_ ?_ ?_,
    (detectAnomalies_warns hstrict).2.2 .standard standard (by decide +kernel) hstandard⟩
  · decide +kernel
  · unfold InOneCurrency
    decide +kernel
  · unfold ZeroBaseline
    decide +kernel
  · unfold Deviates
    decide +kernel

/-- A thousand after a line of zero is in no finding. -/
theorem not_anomaliesComplete_zero :
    ¬∀ (baseline target : Snapshot) (histories : List Snapshot) (states : List PayrollState)
      (profile : ThresholdProfile) (detection : AnomalyDetection Decimal),
      detectAnomalies baseline target histories states profile = .ok detection →
        AnomaliesComplete baseline target histories states profile detection := by
  intro hcomplete
  have hok : (detectAnomalies (N := Decimal) (monthOfTotal 0 ⟨false, 0, 0⟩)
      (monthOfTotal 30 ⟨false, 1000, 0⟩) [] [] .strict).isOk = true := by decide +kernel
  have hnone : ∀ detection ∈ (detectAnomalies (N := Decimal) (monthOfTotal 0 ⟨false, 0, 0⟩)
      (monthOfTotal 30 ⟨false, 1000, 0⟩) [] [] .strict).toOption,
        detection.findings.length = 0 := by decide +kernel
  obtain ⟨detection, hdetected⟩ := ok_of_isOk hok
  have hempty := List.eq_nil_of_length_eq_zero
    (hnone detection (by rw [hdetected]; exact Option.mem_some_self _))
  have hcommon : (ofLex (toLex (2, toLex (2, "BASIC")) : LineKey)).1 ∈
      commonEmployees (monthOfTotal 0 ⟨false, 0, 0⟩) (monthOfTotal 30 ⟨false, 1000, 0⟩) := by
    decide +kernel
  have hone : InOneCurrency (monthOfTotal 0 ⟨false, 0, 0⟩) (monthOfTotal 30 ⟨false, 1000, 0⟩)
      (toLex (2, toLex (2, "BASIC"))) := by
    unfold InOneCurrency
    decide +kernel
  have hdeviates : Deviates (monthOfTotal 0 ⟨false, 0, 0⟩)
      (monthOfTotal 30 ⟨false, 1000, 0⟩) .strict
      (toLex (2, toLex (2, "BASIC"))) := by
    unfold Deviates
    decide +kernel
  obtain ⟨code, -, finding, hfinding, -⟩ :=
    (hcomplete _ _ _ _ _ _ hdetected).warned _ hcommon hone hdeviates
  rw [hempty] at hfinding
  cases hfinding

end PayrollAnalysis

end OdooMcp
