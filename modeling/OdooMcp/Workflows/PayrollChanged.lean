import OdooMcp.Workflows.PayrollExchange

/-!
# Who has changed

The comparison skips a rule line whose totals are equal before it looks at their currencies, and it
does not count an employee as changed for being paid in other currencies. What is reported is
therefore complete exactly where neither of the two decides.
-/

namespace OdooMcp

namespace PayrollAnalysis

open Arithmetic Grouping

variable {N : Type} [Arithmetic N] {baseline target : Snapshot}

/-! ### Differences -/

/-- What the lines of a rule and a code sum to in a currency; no line counts as zero. -/
def totalIn (snapshot : Snapshot) (key : LineKey) (currencyId : Int) : N :=
  totalOf (((rowsAt lineKey snapshot.lines key).filter fun line =>
    line.currency.id = currencyId).map (·.total))

def LinesDiffer (N : Type) [Arithmetic N] (baseline target : Snapshot) (employeeId : Int) : Prop :=
  ∃ key currencyId, (ofLex key).1 = employeeId ∧
    same (totalIn baseline key currencyId : N) (totalIn target key currencyId) = false

def ContractsDiffer (baseline target : Snapshot) (employeeId : Int) : Prop :=
  changedFacts baseline target employeeId ≠ []

def HoursDiffer (N : Type) [Arithmetic N] (baseline target : Snapshot) (employeeId : Int) : Prop :=
  ∃ key, (ofLex key).1 = employeeId ∧
    same (totalOf (entryDurations baseline key) : N) (totalOf (entryDurations target key)) = false

def Differs (N : Type) [Arithmetic N] (baseline target : Snapshot) (employeeId : Int) : Prop :=
  LinesDiffer N baseline target employeeId ∨ ContractsDiffer baseline target employeeId ∨
    HoursDiffer N baseline target employeeId

/-- A rule line of an employee of both snapshots is in both, under different currencies. -/
def CurrencyChanges (baseline target : Snapshot) (key : LineKey) : Prop :=
  (ofLex key).1 ∈ commonEmployees baseline target ∧
    ∃ first ∈ rowsAt lineKey baseline.lines key, ∃ second ∈ rowsAt lineKey target.lines key,
      first.currency.id ≠ second.currency.id

/-- What the comparison promises of the employees that have changed. -/
structure ChangesComplete (baseline target : Snapshot) (changes : List (LineChange N))
    (comparison : PeriodComparison N) : Prop where
  differing : ∀ employeeId ∈ commonEmployees baseline target,
    Differs N baseline target employeeId → employeeId ∈ comparison.changedEmployees.map (·.id)
  found : ∀ finding ∈ comparison.findings, ∀ employee ∈ finding.employee,
    employee.id ∈ comparison.changedEmployees.map (·.id)
  currencies : ∀ key, CurrencyChanges baseline target key → ∃ change ∈ changes,
    change.employee.id = (ofLex key).1 ∧ change.salaryRule.id = (ofLex (ofLex key).2).1 ∧
      change.code = (ofLex (ofLex key).2).2 ∧ change.change = .unavailable

/-- Where that is kept: no rule line has equal totals under different currencies, and whoever is
paid in other currencies differs otherwise. -/
structure CurrenciesTold (N : Type) [Arithmetic N] (baseline target : Snapshot) : Prop where
  totals : ∀ key, CurrencyChanges baseline target key →
    same (totalOf (lineTotals lineKey baseline key) : N) (totalOf (lineTotals lineKey target key)) =
      false
  employees : ∀ employeeId ∈ commonEmployees baseline target,
    employeeCurrencies baseline employeeId ≠ employeeCurrencies target employeeId →
      Differs N baseline target employeeId

/-! ### Totals by currency -/

theorem same_self [LawfulArithmetic N] (value : N) : same value value = true :=
  (LawfulArithmetic.same_iff _ _).mpr rfl

theorem totalIn_absent {snapshot : Snapshot} {key : LineKey} {currencyId : Int}
    (habsent : key ∉ snapshot.lines.map lineKey) :
    (totalIn snapshot key currencyId : N) = zero := by
  unfold totalIn
  rw [rowsAt_eq_nil_iff.mpr habsent]
  rfl

theorem totalIn_own {snapshot : Snapshot} {key : LineKey} {aggregate : LineAggregate N}
    (haggregate : AggregateOf snapshot key aggregate) :
    totalIn snapshot key aggregate.currency.id = aggregate.total := by
  unfold totalIn
  rw [haggregate.total, lineTotals, List.filter_eq_self.mpr]
  intro line hline
  exact decide_eq_true (haggregate.currency line (haggregate.lines ▸ hline))

theorem totalIn_other {snapshot : Snapshot} {key : LineKey} {aggregate : LineAggregate N}
    (haggregate : AggregateOf snapshot key aggregate) {currencyId : Int}
    (hother : aggregate.currency.id ≠ currencyId) :
    (totalIn snapshot key currencyId : N) = zero := by
  have hnone : (rowsAt lineKey snapshot.lines key).filter
      (fun line => line.currency.id = currencyId) = [] := by
    rw [List.filter_eq_nil_iff]
    intro line hline hcurrency
    refine hother ?_
    rw [← haggregate.currency line (haggregate.lines ▸ hline)]
    exact of_decide_eq_true hcurrency
  unfold totalIn
  rw [hnone]
  rfl

/-- Whatever currency is asked for, an aggregate gives its total or zero. -/
theorem totalIn_cases {snapshot : Snapshot} {key : LineKey} {aggregate : LineAggregate N}
    (haggregate : AggregateOf snapshot key aggregate) (currencyId : Int) :
    totalIn snapshot key currencyId = aggregate.total ∨
      totalIn snapshot key currencyId = (zero : N) := by
  by_cases hcurrency : aggregate.currency.id = currencyId
  · exact .inl (hcurrency ▸ totalIn_own haggregate)
  · exact .inr (totalIn_other haggregate hcurrency)

section Keys

variable {before after : List (LineKey × LineAggregate N)} {key : LineKey}

theorem notMem_of_dictGet {snapshot : Snapshot} {aggregates : List (LineKey × LineAggregate N)}
    (haggregated : Aggregated snapshot aggregates) (hnone : dictGet aggregates key = none) :
    key ∉ snapshot.lines.map lineKey := by
  rw [← haggregated.present, hnone]
  exact Bool.false_ne_true

/-- Both snapshots have the rule line, under different currencies. -/
theorem currencyChanges_iff (hbefore : Aggregated baseline before)
    (hafter : Aggregated target after)
    {first second : LineAggregate N} (hfirst : dictGet before key = some first)
    (hsecond : dictGet after key = some second)
    (hcommon : (ofLex key).1 ∈ commonEmployees baseline target) :
    CurrencyChanges baseline target key ↔ first.currency.id ≠ second.currency.id := by
  have hof := hbefore.found key first hfirst
  have hof' := hafter.found key second hsecond
  constructor
  · rintro ⟨-, line, hline, other, hother, hdifferent⟩
    rwa [← hof.currency line (hof.lines ▸ hline), ← hof'.currency other (hof'.lines ▸ hother)]
  · intro hdifferent
    obtain ⟨line, hline⟩ := List.exists_mem_of_ne_nil _ hof.nonempty
    obtain ⟨other, hother⟩ := List.exists_mem_of_ne_nil _ hof'.nonempty
    refine ⟨hcommon, line, hof.lines ▸ hline, other, hof'.lines ▸ hother, ?_⟩
    rwa [hof.currency line hline, hof'.currency other hother]

variable [LawfulArithmetic N]

/-- A total that differs in some currency differs, unless the totals are equal under different
currencies. -/
theorem totalsDiffer_of_totalIn (hbefore : Aggregated baseline before)
    (hafter : Aggregated target after) (hcommon : (ofLex key).1 ∈ commonEmployees baseline target)
    (htold : CurrencyChanges baseline target key →
      same (totalOf (lineTotals lineKey baseline key) : N)
        (totalOf (lineTotals lineKey target key)) = false)
    {currencyId : Int}
    (hdiffer : same (totalIn baseline key currencyId : N) (totalIn target key currencyId) = false) :
    TotalsDiffer (dictGet before key) (dictGet after key) := by
  have hnot : ¬same (totalIn baseline key currencyId : N)
      (totalIn target key currencyId) = true := by
    rw [hdiffer]
    exact Bool.false_ne_true
  cases hfirst : dictGet before key with
  | none =>
      rw [totalIn_absent (notMem_of_dictGet hbefore hfirst)] at hdiffer hnot
      cases hsecond : dictGet after key with
      | none =>
          rw [totalIn_absent (notMem_of_dictGet hafter hsecond)] at hnot
          exact absurd (same_self zero) hnot
      | some second =>
          rcases totalIn_cases (hafter.found key second hsecond) currencyId with htotal | hzero
          · rw [htotal, same_comm] at hdiffer
            exact hdiffer
          · rw [hzero] at hnot
            exact absurd (same_self zero) hnot
  | some first =>
      have hof := hbefore.found key first hfirst
      cases hsecond : dictGet after key with
      | none =>
          rw [totalIn_absent (notMem_of_dictGet hafter hsecond)] at hdiffer hnot
          rcases totalIn_cases hof currencyId with htotal | hzero
          · rw [htotal] at hdiffer
            exact hdiffer
          · rw [hzero] at hnot
            exact absurd (same_self zero) hnot
      | some second =>
          have hof' := hafter.found key second hsecond
          by_cases hcurrency : first.currency.id = second.currency.id
          · by_cases hown : first.currency.id = currencyId
            · rw [← hown, totalIn_own hof, hcurrency, totalIn_own hof'] at hdiffer
              exact hdiffer
            · rw [totalIn_other hof hown, totalIn_other hof' (hcurrency ▸ hown)] at hnot
              exact absurd (same_self zero) hnot
          · have htotals := htold ((currencyChanges_iff hbefore hafter hfirst hsecond hcommon).mpr
              hcurrency)
            rw [← hof.total, ← hof'.total] at htotals
            exact htotals

/-- Totals that differ, differ in the currency of one of them. -/
theorem totalIn_of_totalsDiffer (hbefore : Aggregated baseline before)
    (hafter : Aggregated target after)
    (hdiffer : TotalsDiffer (dictGet before key) (dictGet after key)) :
    ∃ currencyId,
      same (totalIn baseline key currencyId : N) (totalIn target key currencyId) = false := by
  cases hfirst : dictGet before key with
  | none =>
      cases hsecond : dictGet after key with
      | none =>
          rw [hfirst, hsecond] at hdiffer
          cases hdiffer
      | some second =>
          rw [hfirst, hsecond] at hdiffer
          refine ⟨second.currency.id, ?_⟩
          rw [totalIn_absent (notMem_of_dictGet hbefore hfirst),
            totalIn_own (hafter.found key second hsecond), same_comm]
          exact hdiffer
  | some first =>
      have hof := hbefore.found key first hfirst
      cases hsecond : dictGet after key with
      | none =>
          rw [hfirst, hsecond] at hdiffer
          refine ⟨first.currency.id, ?_⟩
          rw [totalIn_absent (notMem_of_dictGet hafter hsecond), totalIn_own hof]
          exact hdiffer
      | some second =>
          have hof' := hafter.found key second hsecond
          rw [hfirst, hsecond] at hdiffer
          by_cases hcurrency : first.currency.id = second.currency.id
          · refine ⟨first.currency.id, ?_⟩
            rw [totalIn_own hof, hcurrency, totalIn_own hof']
            exact hdiffer
          · by_cases hzero : same first.total zero = true
            · refine ⟨second.currency.id, ?_⟩
              rw [totalIn_own hof', totalIn_other hof hcurrency]
              have hnot : ¬same first.total second.total = true := by
                rw [show same first.total second.total = false from hdiffer]
                exact Bool.false_ne_true
              rw [LawfulArithmetic.same_iff] at hzero hnot
              rw [← Bool.not_eq_true, LawfulArithmetic.same_iff, ← hzero]
              exact hnot
            · refine ⟨first.currency.id, ?_⟩
              rw [totalIn_own hof, totalIn_other hof' (Ne.symm hcurrency)]
              exact Bool.eq_false_iff.mpr hzero

end Keys

/-! ### Who is reported -/

variable [FinePlaces N] [LawfulArithmetic N]

theorem mem_lineChanges {changes : List (LineChange N)}
    (hchanges : lineChanges baseline target = .ok changes)
    (htold : ∀ key, CurrencyChanges baseline target key →
      same (totalOf (lineTotals lineKey baseline key) : N)
        (totalOf (lineTotals lineKey target key)) = false)
    {employeeId : Int} (hcommon : employeeId ∈ commonEmployees baseline target)
    (hdiffer : LinesDiffer N baseline target employeeId) :
    employeeId ∈ changes.map (·.employee.id) := by
  obtain ⟨before, after, hof⟩ := lineChanges_ok hchanges
  obtain ⟨key, currencyId, rfl, hsame⟩ := hdiffer
  have hdiffer := totalsDiffer_of_totalIn hof.fromBaseline hof.fromTarget hcommon (htold key) hsame
  obtain ⟨change, hchange, hchangeOf⟩ := hof.reported key hcommon hdiffer
  exact List.mem_map.mpr ⟨change, hchange, hchangeOf.employee⟩

theorem linesDiffer_of_mem {changes : List (LineChange N)}
    (hchanges : lineChanges baseline target = .ok changes) {change : LineChange N}
    (hchange : change ∈ changes) : LinesDiffer N baseline target change.employee.id := by
  obtain ⟨before, after, hof⟩ := lineChanges_ok hchanges
  obtain ⟨key, -, hdiffer, hchangeOf⟩ := hof.differs change hchange
  obtain ⟨currencyId, hsame⟩ := totalIn_of_totalsDiffer hof.fromBaseline hof.fromTarget hdiffer
  exact ⟨key, currencyId, hchangeOf.employee.symm, hsame⟩

omit [Arithmetic N] [FinePlaces N] [LawfulArithmetic N] in
theorem mem_contractChanges {contracts : List ContractFactChange}
    (hcontracts : contractChanges baseline target = .ok contracts) {employeeId : Int}
    (hdiffer : ContractsDiffer baseline target employeeId) :
    employeeId ∈ contracts.map (·.employee.id) := by
  obtain ⟨results, hresults, hdone⟩ := except_bind_ok.mp hcontracts
  cases hdone
  obtain ⟨fact, hfact⟩ := List.exists_mem_of_ne_nil _ hdiffer
  have hemployee : employeeId ∈ (baseline.segments ++ target.segments).map (·.employee.id) := by
    by_contra hnone
    have hempty (snapshot : Snapshot) (hsub : ∀ segment ∈ snapshot.segments,
        segment ∈ baseline.segments ++ target.segments) :
        employeeSegments snapshot employeeId = [] := by
      refine rowsAt_eq_nil_iff.mpr fun hmem => hnone ?_
      obtain ⟨segment, hsegment, hid⟩ := List.mem_map.mp hmem
      exact List.mem_map.mpr ⟨segment, hsub segment hsegment, hid⟩
    have hchanged := (List.mem_filter.mp hfact).2
    rw [hempty baseline fun segment => List.mem_append_left _,
      hempty target fun segment => List.mem_append_right _] at hchanged
    simp at hchanged
  obtain ⟨changes, hmem, hchanges⟩ :=
    exists_of_forall₂_left (forall₂_of_mapM_ok hresults) (mem_sortedKeys.mpr hemployee)
  obtain ⟨change, hchange, hread⟩ := exists_of_forall₂_left (forall₂_of_mapM_ok hchanges) hfact
  obtain ⟨employee, hnamed, hdone⟩ := except_bind_ok.mp hread
  cases hdone
  exact List.mem_map.mpr ⟨_, List.mem_flatten.mpr ⟨changes, hmem, hchange⟩, employeeNamed_ok hnamed⟩

omit [Arithmetic N] [FinePlaces N] [LawfulArithmetic N] in
theorem contractsDiffer_of_mem {contracts : List ContractFactChange}
    (hcontracts : contractChanges baseline target = .ok contracts) {change : ContractFactChange}
    (hchange : change ∈ contracts) : ContractsDiffer baseline target change.employee.id := by
  obtain ⟨results, hresults, hdone⟩ := except_bind_ok.mp hcontracts
  cases hdone
  obtain ⟨changes, hchanges, hmem⟩ := List.mem_flatten.mp hchange
  obtain ⟨employeeId, -, hemployee⟩ :=
    exists_of_forall₂_right (forall₂_of_mapM_ok hresults) hchanges
  obtain ⟨fact, hfact, hread⟩ := exists_of_forall₂_right (forall₂_of_mapM_ok hemployee) hmem
  obtain ⟨employee, hnamed, hdone⟩ := except_bind_ok.mp hread
  cases hdone
  rw [employeeNamed_ok hnamed]
  exact List.ne_nil_of_mem hfact

theorem mem_workEntryHours {hours : List (WorkEntryHours N)}
    (hhours : workEntryHours baseline target = .ok hours) {employeeId : Int}
    (hdiffer : HoursDiffer N baseline target employeeId) :
    employeeId ∈ (hours.filter fun item => item.hours.change ≠ .unchanged).map (·.employee.id) := by
  obtain ⟨key, rfl, hsame⟩ := hdiffer
  have hkey : key ∈ (baseline.workEntries ++ target.workEntries).map hoursKey := by
    by_contra hnone
    rw [List.map_append, List.mem_append, not_or] at hnone
    have hempty (snapshot : Snapshot) (habsent : key ∉ snapshot.workEntries.map hoursKey) :
        entryDurations snapshot key = [] := by
      rw [entryDurations, rowsAt_eq_nil_iff.mpr habsent]
      rfl
    rw [hempty baseline hnone.1, hempty target hnone.2, same_self] at hsame
    cases hsame
  obtain ⟨item, hitem, hread⟩ :=
    exists_of_forall₂_left (forall₂_of_mapM_ok hhours) (mem_sortedKeys.mpr hkey)
  obtain ⟨make, hmake, hrest⟩ := except_bind_ok.mp hread
  obtain ⟨comparison, hcomparison, hdone⟩ := except_bind_ok.mp hrest
  obtain ⟨sample, -, hrest⟩ := except_bind_ok.mp hmake
  obtain ⟨employee, hnamed, hmade⟩ := except_bind_ok.mp hrest
  cases hmade
  cases hdone
  refine List.mem_map.mpr ⟨_, List.mem_filter.mpr ⟨hitem, ?_⟩, employeeNamed_ok hnamed⟩
  rw [decide_eq_true_eq, (decimalComparison_ok hcomparison).2.2.2, Ne, changeKind_eq_unchanged_iff]
  exact Bool.eq_false_iff.mp hsame

omit [LawfulArithmetic N] in
theorem hoursDiffer_of_mem {hours : List (WorkEntryHours N)}
    (hhours : workEntryHours baseline target = .ok hours) {item : WorkEntryHours N}
    (hitem : item ∈ hours) (hchanged : item.hours.change ≠ .unchanged) :
    HoursDiffer N baseline target item.employee.id := by
  obtain ⟨key, -, hread⟩ := exists_of_forall₂_right (forall₂_of_mapM_ok hhours) hitem
  obtain ⟨make, hmake, hrest⟩ := except_bind_ok.mp hread
  obtain ⟨comparison, hcomparison, hdone⟩ := except_bind_ok.mp hrest
  obtain ⟨sample, -, hrest⟩ := except_bind_ok.mp hmake
  obtain ⟨employee, hnamed, hmade⟩ := except_bind_ok.mp hrest
  cases hmade
  cases hdone
  refine ⟨key, (employeeNamed_ok hnamed).symm, ?_⟩
  have hkind : changeKind (totalOf (entryDurations baseline key) : N)
      (totalOf (entryDurations target key)) ≠ .unchanged := by
    rw [← (decimalComparison_ok hcomparison).2.2.2]
    exact hchanged
  rw [Ne, changeKind_eq_unchanged_iff] at hkind
  exact Bool.eq_false_iff.mpr hkind

/-! ### The employees of findings -/

inductive FoundFor (baseline target : Snapshot) (changes : List (LineChange N))
    (contracts : List ContractFactChange) (employeeId : Int) : Prop
  | new (hemployee : employeeId ∈ employeesOnlyIn target baseline)
  | missing (hemployee : employeeId ∈ employeesOnlyIn baseline target)
  | contract (hemployee : employeeId ∈ contracts.map (·.employee.id))
  | line (hemployee : employeeId ∈ changes.map (·.employee.id))
  | currency (hcommon : employeeId ∈ commonEmployees baseline target)
      (hdifferent : employeeCurrencies baseline employeeId ≠ employeeCurrencies target employeeId)

section Found

variable {changes : List (LineChange N)} {contracts : List ContractFactChange}
  {findings : List (Finding N)} {finding : Finding N} {employee : NamedReference}

omit [Arithmetic N] [FinePlaces N] [LawfulArithmetic N] in
theorem employee_of_contractFindings
    (hfinding : finding ∈ contractFindings baseline target contracts)
    (hemployee : employee ∈ finding.employee) : employee.id ∈ contracts.map (·.employee.id) := by
  obtain ⟨employeeId, -, hmade⟩ := List.mem_filterMap.mp hfinding
  obtain ⟨first, hfirst, rfl⟩ := Option.map_eq_some_iff.mp hmade
  cases hemployee
  have hmem := mem_rowsAt.mp (List.mem_of_mem_head? hfirst)
  exact List.mem_map_of_mem hmem.1

omit [FinePlaces N] [LawfulArithmetic N] in
theorem employee_of_ruleLineFinding
    (hfinding : finding ∈ changes.filterMap (ruleLineFinding baseline target))
    (hemployee : employee ∈ finding.employee) : employee.id ∈ changes.map (·.employee.id) := by
  obtain ⟨change, hchange, hmade⟩ := List.mem_filterMap.mp hfinding
  obtain ⟨code, -, rfl⟩ := Option.map_eq_some_iff.mp hmade
  cases hemployee
  exact List.mem_map_of_mem hchange

omit [Arithmetic N] [FinePlaces N] [LawfulArithmetic N] in
theorem currencyFinding_ok {employeeId : Int} {result : Option (Finding N)}
    (hresult : currencyFinding baseline target employeeId = .ok result) :
    (result.isSome ↔
      employeeCurrencies baseline employeeId ≠ employeeCurrencies target employeeId) ∧
      ∀ finding ∈ result, ∃ employee ∈ finding.employee, employee.id = employeeId := by
  unfold currencyFinding at hresult
  dsimp only at hresult
  split at hresult
  · rename_i hsame
    cases hresult
    exact ⟨by simp [hsame], by simp⟩
  · rename_i hdifferent
    obtain ⟨before, -, hrest⟩ := except_bind_ok.mp hresult
    obtain ⟨after, -, hrest⟩ := except_bind_ok.mp hrest
    obtain ⟨employee, hnamed, hdone⟩ := except_bind_ok.mp hrest
    cases hdone
    refine ⟨by simp [hdifferent], ?_⟩
    rintro finding ⟨⟩
    exact ⟨employee, rfl, (lastName_ok hnamed).1⟩

omit [FinePlaces N] [LawfulArithmetic N] in
/-- The findings about an employee, and that there is one about everyone paid in other
currencies. -/
theorem baseFindings_ok
    (hfindings : baseFindings baseline target changes contracts = .ok findings) :
    (∀ finding ∈ findings, ∀ employee ∈ finding.employee,
        FoundFor baseline target changes contracts employee.id) ∧
      ∀ employeeId ∈ commonEmployees baseline target,
        employeeCurrencies baseline employeeId ≠ employeeCurrencies target employeeId →
          ∃ finding ∈ findings, ∃ employee ∈ finding.employee, employee.id = employeeId := by
  obtain ⟨newEmployees, hnew, hrest⟩ := except_bind_ok.mp hfindings
  obtain ⟨missingEmployees, hmissing, hrest⟩ := except_bind_ok.mp hrest
  obtain ⟨currencies, hcurrencies, hdone⟩ := except_bind_ok.mp hrest
  cases hdone
  constructor
  · intro finding hfinding employee hemployee
    simp only [List.mem_append] at hfinding
    rcases hfinding with ((((hmem | hmem) | hmem) | hmem) | hmem) | hmem
    · obtain ⟨employeeId, honly, hmade⟩ := exists_of_forall₂_right (forall₂_of_mapM_ok hnew) hmem
      obtain ⟨named, hnamed, hdone⟩ := except_bind_ok.mp hmade
      cases hdone
      cases hemployee
      exact .new ((lastName_ok hnamed).1 ▸ honly)
    · obtain ⟨employeeId, honly, hmade⟩ :=
        exists_of_forall₂_right (forall₂_of_mapM_ok hmissing) hmem
      obtain ⟨named, hnamed, hdone⟩ := except_bind_ok.mp hmade
      cases hdone
      cases hemployee
      exact .missing ((lastName_ok hnamed).1 ▸ honly)
    · unfold employeeCountFindings at hmem
      dsimp only at hmem
      split at hmem
      · cases hmem
      · rw [List.mem_singleton.mp hmem] at hemployee
        cases hemployee
    · exact .contract (employee_of_contractFindings hmem hemployee)
    · exact .line (employee_of_ruleLineFinding hmem hemployee)
    · obtain ⟨employeeId, hcommon, hmade⟩ := exists_of_forall₂_right
        (forall₂_of_mapM_ok hcurrencies) (List.reduceOption_mem_iff.mp hmem)
      obtain ⟨hdifferent, hnamed⟩ := currencyFinding_ok hmade
      obtain ⟨other, hother, rfl⟩ := hnamed finding rfl
      rw [Option.mem_unique hemployee hother]
      exact .currency hcommon (hdifferent.mp rfl)
  · intro employeeId hcommon hdifferent
    obtain ⟨result, hmem, hmade⟩ := exists_of_forall₂_left (forall₂_of_mapM_ok hcurrencies) hcommon
    obtain ⟨hsome, hnamed⟩ := currencyFinding_ok hmade
    obtain ⟨finding, rfl⟩ := Option.isSome_iff_exists.mp (hsome.mpr hdifferent)
    exact ⟨finding, List.mem_append_right _ (List.reduceOption_mem_iff.mpr hmem),
      hnamed finding rfl⟩

end Found

/-! ### What the comparison promises -/

section Promises

variable {states : List PayrollState} {comparison : PeriodComparison N}

omit [Arithmetic N] [FinePlaces N] [LawfulArithmetic N] in
theorem ids_of_names {related : List RelatedRecord} {identifiers : List Int}
    {names : List NamedReference} (hnames : identifiers.mapM (lastName related) = .ok names) :
    names.map (·.id) = identifiers := by
  have hforall := forall₂_of_mapM_ok hnames
  clear hnames
  induction hforall with
  | nil => rfl
  | cons hnamed _ ih => rw [List.map_cons, (lastName_ok hnamed).1, ih]

structure MadeOf (baseline target : Snapshot) (comparison : PeriodComparison N)
    (changes : List (LineChange N)) (sets : EmployeeSetChanges) : Prop where
  lines : lineChanges baseline target = .ok changes
  contracts : contractChanges baseline target = .ok comparison.contractChanges
  hours : workEntryHours baseline target = .ok comparison.workEntryHours
  findings : baseFindings baseline target changes comparison.contractChanges =
    .ok comparison.findings
  employees : employeeSets baseline target = .ok sets
  changed : comparison.changedEmployees.map (·.id) =
    changedEmployeeIds changes comparison.contractChanges comparison.workEntryHours sets

omit [LawfulArithmetic N] in
theorem madeOf_ok (hcompared : comparePeriods baseline target states = .ok comparison) :
    ∃ changes sets, MadeOf baseline target comparison changes sets := by
  obtain ⟨⟨⟩, -, hrest⟩ := except_bind_ok.mp hcompared
  obtain ⟨⟨⟩, -, hrest⟩ := except_bind_ok.mp hrest
  obtain ⟨changes, hchanges, hrest⟩ := except_bind_ok.mp hrest
  obtain ⟨contracts, hcontracts, hrest⟩ := except_bind_ok.mp hrest
  obtain ⟨hours, hhours, hrest⟩ := except_bind_ok.mp hrest
  obtain ⟨findings, hfindings, hrest⟩ := except_bind_ok.mp hrest
  obtain ⟨sets, hsets, hrest⟩ := except_bind_ok.mp hrest
  obtain ⟨count, -, hrest⟩ := except_bind_ok.mp hrest
  obtain ⟨payslips, -, hrest⟩ := except_bind_ok.mp hrest
  obtain ⟨rules, -, hrest⟩ := except_bind_ok.mp hrest
  obtain ⟨categories, -, hrest⟩ := except_bind_ok.mp hrest
  obtain ⟨changed, hchanged, hdone⟩ := except_bind_ok.mp hrest
  cases hdone
  exact ⟨changes, sets, hchanges, hcontracts, hhours, hfindings, hsets, ids_of_names hchanged⟩

variable {changes : List (LineChange N)} {sets : EmployeeSetChanges}

omit [FinePlaces N] [LawfulArithmetic N] in
theorem mem_sets (hsets : employeeSets baseline target = .ok sets) {employeeId : Int} :
    (employeeId ∈ sets.newEmployees.map (·.id) ↔ employeeId ∈ employeesOnlyIn target baseline) ∧
      (employeeId ∈ sets.missingEmployees.map (·.id) ↔
        employeeId ∈ employeesOnlyIn baseline target) := by
  obtain ⟨newEmployees, hnew, hrest⟩ := except_bind_ok.mp hsets
  obtain ⟨missingEmployees, hmissing, hrest⟩ := except_bind_ok.mp hrest
  obtain ⟨commonEmployees, -, hdone⟩ := except_bind_ok.mp hrest
  cases hdone
  exact ⟨by rw [ids_of_names hnew], by rw [ids_of_names hmissing]⟩

omit [LawfulArithmetic N] in
/-- Who is among the changed employees. -/
theorem mem_changedEmployees (hmade : MadeOf baseline target comparison changes sets)
    {employeeId : Int} :
    employeeId ∈ comparison.changedEmployees.map (·.id) ↔
      employeeId ∈ changes.map (·.employee.id) ∨
      employeeId ∈ comparison.contractChanges.map (·.employee.id) ∨
      employeeId ∈ (comparison.workEntryHours.filter fun item =>
        item.hours.change ≠ .unchanged).map (·.employee.id) ∨
      employeeId ∈ employeesOnlyIn target baseline ∨
      employeeId ∈ employeesOnlyIn baseline target := by
  rw [hmade.changed, changedEmployeeIds, mem_sortedKeys]
  simp only [List.mem_append, (mem_sets hmade.employees).1, (mem_sets hmade.employees).2, or_assoc]

omit [LawfulArithmetic N] in
theorem notOnly_of_common {employeeId : Int}
    (hcommon : employeeId ∈ commonEmployees baseline target) :
    employeeId ∉ employeesOnlyIn target baseline ∧
      employeeId ∉ employeesOnlyIn baseline target := by
  rw [mem_employeesOnlyIn, mem_employeesOnlyIn]
  have hboth := mem_commonEmployees.mp hcommon
  exact ⟨fun hnew => hnew.2 hboth.1, fun hmissing => hmissing.2 hboth.2⟩

/-- An employee of both snapshots who is among the changed ones differs. -/
theorem differs_of_changed (hmade : MadeOf baseline target comparison changes sets)
    {employeeId : Int}
    (hcommon : employeeId ∈ commonEmployees baseline target)
    (hchanged : employeeId ∈ comparison.changedEmployees.map (·.id)) :
    Differs N baseline target employeeId := by
  rcases (mem_changedEmployees hmade).mp hchanged with hline | hcontract | hhours | hnew | hmissing
  · obtain ⟨change, hchange, rfl⟩ := List.mem_map.mp hline
    exact .inl (linesDiffer_of_mem hmade.lines hchange)
  · obtain ⟨change, hchange, rfl⟩ := List.mem_map.mp hcontract
    exact .inr (.inl (contractsDiffer_of_mem hmade.contracts hchange))
  · obtain ⟨item, hitem, rfl⟩ := List.mem_map.mp hhours
    obtain ⟨hlisted, hkind⟩ := List.mem_filter.mp hitem
    exact .inr (.inr (hoursDiffer_of_mem hmade.hours hlisted (of_decide_eq_true hkind)))
  · exact absurd hnew (notOnly_of_common hcommon).1
  · exact absurd hmissing (notOnly_of_common hcommon).2

/-- An employee of both snapshots who differs is among the changed ones, where no rule line has
equal totals under different currencies. -/
theorem changed_of_differs (hmade : MadeOf baseline target comparison changes sets)
    (htold : ∀ key, CurrencyChanges baseline target key →
      same (totalOf (lineTotals lineKey baseline key) : N)
        (totalOf (lineTotals lineKey target key)) = false)
    {employeeId : Int} (hcommon : employeeId ∈ commonEmployees baseline target)
    (hdiffers : Differs N baseline target employeeId) :
    employeeId ∈ comparison.changedEmployees.map (·.id) := by
  rw [mem_changedEmployees hmade]
  rcases hdiffers with hlines | hcontracts | hhours
  · exact .inl (mem_lineChanges hmade.lines htold hcommon hlines)
  · exact .inr (.inl (mem_contractChanges hmade.contracts hcontracts))
  · exact .inr (.inr (.inl (mem_workEntryHours hmade.hours hhours)))

/-- A rule line under two currencies is reported as not comparable if its totals differ. -/
theorem unavailable_of_currencyChanges (hchanges : lineChanges baseline target = .ok changes)
    {key : LineKey} (hcurrency : CurrencyChanges baseline target key) :
    (∃ change ∈ changes, change.employee.id = (ofLex key).1 ∧
        change.salaryRule.id = (ofLex (ofLex key).2).1 ∧ change.code = (ofLex (ofLex key).2).2 ∧
          change.change = .unavailable) ↔
      same (totalOf (lineTotals lineKey baseline key) : N)
        (totalOf (lineTotals lineKey target key)) =
        false := by
  obtain ⟨before, after, hof⟩ := lineChanges_ok hchanges
  obtain ⟨hcommon, line, hline, other, hother, -⟩ := id hcurrency
  have hpresent {snapshot : Snapshot} {aggregates : List (LineKey × LineAggregate N)}
      (haggregated : Aggregated snapshot aggregates) {line : PayslipLine}
      (hline : line ∈ rowsAt lineKey snapshot.lines key) :
      ∃ aggregate, dictGet aggregates key = some aggregate := by
    refine Option.isSome_iff_exists.mp ((haggregated.present key).mpr ?_)
    obtain ⟨hmem, hkey⟩ := mem_rowsAt.mp hline
    exact List.mem_map.mpr ⟨line, hmem, hkey⟩
  obtain ⟨first, hfirst⟩ := hpresent hof.fromBaseline hline
  obtain ⟨second, hsecond⟩ := hpresent hof.fromTarget hother
  have htotals : TotalsDiffer (dictGet before key) (dictGet after key) ↔
      same (totalOf (lineTotals lineKey baseline key) : N)
        (totalOf (lineTotals lineKey target key)) = false := by
    rw [hfirst, hsecond, ← (hof.fromBaseline.found key first hfirst).total,
      ← (hof.fromTarget.found key second hsecond).total]
    exact Iff.rfl
  rw [← htotals]
  constructor
  · rintro ⟨change, hchange, hemployee, hrule, hcode, -⟩
    obtain ⟨key', -, hdiffer, hchangeOf⟩ := hof.differs change hchange
    have hkey : key' = key := by
      refine Prod.ext (hchangeOf.employee.symm.trans hemployee) (Prod.ext ?_ ?_)
      · exact hchangeOf.salaryRule.symm.trans hrule
      · exact hchangeOf.code.symm.trans hcode
    exact hkey ▸ hdiffer
  · intro hdiffer
    obtain ⟨change, hchange, hchangeOf⟩ := hof.reported key hcommon hdiffer
    refine ⟨change, hchange, hchangeOf.employee, hchangeOf.salaryRule, hchangeOf.code,
      hchangeOf.unavailable ?_⟩
    rw [hfirst, hsecond]
    exact decide_eq_true ((currencyChanges_iff hof.fromBaseline hof.fromTarget hfirst hsecond
      hcommon).mp hcurrency)

/-- **Completeness of the changed employees.** Every difference, every finding about an employee and
every change of currency is reported if and only if no rule line has equal totals under different
currencies, and everyone who is paid in other currencies differs otherwise. -/
theorem changesComplete_iff (hcompared : comparePeriods baseline target states = .ok comparison)
    (hchanges : lineChanges baseline target = .ok changes) :
    ChangesComplete baseline target changes comparison ↔ CurrenciesTold N baseline target := by
  obtain ⟨made, sets, hmade⟩ := madeOf_ok hcompared
  obtain rfl : made = changes := by
    rw [hmade.lines] at hchanges
    exact Except.ok.inj hchanges
  obtain ⟨hfound, hcurrency⟩ := baseFindings_ok hmade.findings
  constructor
  · intro hcomplete
    refine ⟨fun key hkey => ?_, fun employeeId hcommon hdifferent => ?_⟩
    · exact (unavailable_of_currencyChanges hchanges hkey).mp (hcomplete.currencies key hkey)
    · obtain ⟨finding, hfinding, employee, hemployee, rfl⟩ :=
        hcurrency employeeId hcommon hdifferent
      exact differs_of_changed hmade hcommon (hcomplete.found finding hfinding employee hemployee)
  · intro htold
    have hdiffering (employeeId : Int) (hcommon : employeeId ∈ commonEmployees baseline target)
        (hdiffers : Differs N baseline target employeeId) :=
      changed_of_differs hmade htold.totals hcommon hdiffers
    refine ⟨hdiffering, fun finding hfinding employee hemployee => ?_, fun key hkey => ?_⟩
    · rcases hfound finding hfinding employee hemployee with
        hnew | hmissing | hcontract | hline | ⟨hcommon, hdifferent⟩
      · exact (mem_changedEmployees hmade).mpr (.inr (.inr (.inr (.inl hnew))))
      · exact (mem_changedEmployees hmade).mpr (.inr (.inr (.inr (.inr hmissing))))
      · exact (mem_changedEmployees hmade).mpr (.inr (.inl hcontract))
      · exact (mem_changedEmployees hmade).mpr (.inl hline)
      · exact hdiffering _ hcommon (htold.employees _ hcommon hdifferent)
    · exact (unavailable_of_currencyChanges hchanges hkey).mpr (htold.totals key hkey)

end Promises

/-! ### One currency, and two -/

/-- All is paid in one currency, and every change is told. -/
theorem changesComplete_months :
    ∃ (comparison : PeriodComparison Decimal) (changes : List (LineChange Decimal)),
      comparePeriods monthBefore monthAfter [] = .ok comparison ∧
        lineChanges monthBefore monthAfter = .ok changes ∧
          ChangesComplete monthBefore monthAfter changes comparison := by
  have hcompared : (comparePeriods (N := Decimal) monthBefore monthAfter []).isOk = true := by
    decide +kernel
  have hchanges : (lineChanges (N := Decimal) monthBefore monthAfter).isOk = true := by
    decide +kernel
  obtain ⟨comparison, hcompared⟩ := ok_of_isOk hcompared
  obtain ⟨changes, hchanges⟩ := ok_of_isOk hchanges
  refine ⟨comparison, changes, hcompared, hchanges, (changesComplete_iff hcompared hchanges).mpr ?_⟩
  have hone : ∀ snapshot ∈ [monthBefore, monthAfter], ∀ line ∈ snapshot.lines,
      line.currency.id = 1 := by decide +kernel
  refine ⟨fun key hkey => ?_, fun employeeId hcommon hdifferent => ?_⟩
  · obtain ⟨-, first, hfirst, second, hsecond, hdifferent⟩ := hkey
    refine absurd ?_ hdifferent
    rw [hone monthBefore (by simp) first (mem_rowsAt.mp hfirst).1,
      hone monthAfter (by simp) second (mem_rowsAt.mp hsecond).1]
  · have hsame : ∀ employeeId ∈ commonEmployees monthBefore monthAfter,
        employeeCurrencies monthBefore employeeId = employeeCurrencies monthAfter employeeId := by
      decide +kernel
    exact absurd (hsame employeeId hcommon) hdifferent

def monthIn (day : Nat) (currency : Nat) : Snapshot :=
  monthWith day [payslipOf 1 1 currency] [slipLine 1 0 1 currency 1 ⟨false, 100, 0⟩]

/-- The same amount in another currency is reported by no change. -/
theorem not_changesComplete_currencies :
    ¬∀ (baseline target : Snapshot) (states : List PayrollState)
      (comparison : PeriodComparison Decimal) (changes : List (LineChange Decimal)),
      comparePeriods baseline target states = .ok comparison →
      lineChanges baseline target = .ok changes →
        ChangesComplete baseline target changes comparison := by
  intro hcomplete
  have hcompared : (comparePeriods (N := Decimal) (monthIn 0 0) (monthIn 30 1) []).isOk = true := by
    decide +kernel
  have hchanges : (lineChanges (N := Decimal) (monthIn 0 0) (monthIn 30 1)).isOk = true := by
    decide +kernel
  obtain ⟨comparison, hcompared⟩ := ok_of_isOk hcompared
  obtain ⟨changes, hchanges⟩ := ok_of_isOk hchanges
  have hcurrency : CurrencyChanges (monthIn 0 0) (monthIn 30 1)
      (toLex (2, toLex (2, "BASIC"))) := by
    unfold CurrencyChanges
    decide +kernel
  have htold := (hcomplete _ _ _ _ _ hcompared hchanges).currencies _ hcurrency
  rw [unavailable_of_currencyChanges hchanges hcurrency] at htold
  revert htold
  decide +kernel

end PayrollAnalysis

end OdooMcp
