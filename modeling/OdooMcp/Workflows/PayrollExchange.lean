import OdooMcp.Workflows.PayrollLines

/-!
# Exchanging the periods of a comparison

Two snapshots that can be compared can be compared the other way round: no check tells which of them
comes first.
-/

namespace OdooMcp

namespace PayrollAnalysis

open Arithmetic Grouping

variable {baseline target : Snapshot}

/-! ### Names -/

theorem employeeNamed_exists {employeeId : Int}
    (hemployee : employeeId ∈ employeeIds baseline ∨ employeeId ∈ employeeIds target) :
    ∃ employee, employeeNamed baseline target employeeId = .ok employee := by
  refine lastName_exists ?_
  rw [List.map_map, List.map_append, List.mem_append]
  exact hemployee

theorem employeeNamed_mem {employeeId : Int} {employee : NamedReference}
    (hemployee : employeeNamed baseline target employeeId = .ok employee) :
    employeeId ∈ employeeIds baseline ∨ employeeId ∈ employeeIds target := by
  have hmem := (lastName_ok hemployee).2
  rw [List.map_map, List.map_append, List.mem_append] at hmem
  exact hmem

theorem snapshotName_exists {snapshot : Snapshot} {employeeId : Int}
    (hemployee : employeeId ∈ employeeIds snapshot) :
    ∃ employee, snapshotName snapshot employeeId = .ok employee := by
  refine lastName_exists ?_
  rw [List.map_map]
  exact hemployee

theorem mem_employeesOnlyIn {snapshot other : Snapshot} {employeeId : Int} :
    employeeId ∈ employeesOnlyIn snapshot other ↔
      employeeId ∈ employeeIds snapshot ∧ employeeId ∉ employeeIds other := by
  rw [employeesOnlyIn, mem_sortedKeys, List.mem_filter, Bool.not_eq_true', List.contains_eq_mem,
    decide_eq_false_iff_not]

/-! ### What every two snapshots have -/

theorem employeeSets_exists (baseline target : Snapshot) :
    ∃ sets, employeeSets baseline target = .ok sets := by
  refine except_bind_exists (exists_mapM_ok fun employeeId hemployee =>
    snapshotName_exists (mem_employeesOnlyIn.mp hemployee).1) fun newEmployees _ => ?_
  refine except_bind_exists (exists_mapM_ok fun employeeId hemployee =>
    snapshotName_exists (mem_employeesOnlyIn.mp hemployee).1) fun missingEmployees _ => ?_
  refine except_bind_exists (exists_mapM_ok fun employeeId hemployee =>
    snapshotName_exists (mem_commonEmployees.mp hemployee).2) fun commonEmployees _ => ?_
  exact ⟨_, rfl⟩

theorem currencyTexts_exists {currencies : List Int}
    (hcurrencies : ∀ currencyId ∈ currencies,
      currencyId ∈ (baseline.payslips ++ target.payslips).map (·.currency.id)) :
    ∃ texts, currencyTexts baseline target currencies = .ok texts := by
  refine except_bind_exists (exists_mapM_ok fun currencyId hcurrency => ?_) fun texts _ => ⟨_, rfl⟩
  refine except_bind_exists (lastName_exists ?_) fun currency _ => ⟨_, rfl⟩
  rw [List.map_map]
  exact hcurrencies currencyId hcurrency

theorem mem_employeeCurrencies {snapshot : Snapshot} {employeeId currencyId : Int} :
    currencyId ∈ employeeCurrencies snapshot employeeId ↔
      ∃ payslip ∈ snapshot.payslips, payslip.employee.id = employeeId ∧
        payslip.currency.id = currencyId := by
  rw [employeeCurrencies, mem_sortedKeys, List.mem_map]
  simp only [mem_rowsAt, and_assoc]

theorem currencyFinding_exists {N : Type} {employeeId : Int}
    (hcommon : employeeId ∈ commonEmployees baseline target) :
    ∃ finding, currencyFinding (N := N) baseline target employeeId = .ok finding := by
  unfold currencyFinding
  dsimp only
  split
  · exact ⟨none, rfl⟩
  · refine except_bind_exists (currencyTexts_exists fun currencyId hcurrency => ?_)
      fun before _ => ?_
    · obtain ⟨payslip, hpayslip, -, hid⟩ := mem_employeeCurrencies.mp hcurrency
      exact List.mem_map.mpr ⟨payslip, List.mem_append_left _ hpayslip, hid⟩
    refine except_bind_exists (currencyTexts_exists fun currencyId hcurrency => ?_)
      fun after _ => ?_
    · obtain ⟨payslip, hpayslip, -, hid⟩ := mem_employeeCurrencies.mp hcurrency
      exact List.mem_map.mpr ⟨payslip, List.mem_append_right _ hpayslip, hid⟩
    exact except_bind_exists (snapshotName_exists (mem_commonEmployees.mp hcommon).2)
      fun employee _ => ⟨_, rfl⟩

theorem baseFindings_exists {N : Type} [Arithmetic N] (baseline target : Snapshot)
    (changes : List (LineChange N)) (contracts : List ContractFactChange) :
    ∃ findings, baseFindings baseline target changes contracts = .ok findings := by
  refine except_bind_exists (exists_mapM_ok fun employeeId hemployee => ?_)
    fun newEmployees _ => ?_
  · exact except_bind_exists (snapshotName_exists (mem_employeesOnlyIn.mp hemployee).1)
      fun employee _ => ⟨_, rfl⟩
  refine except_bind_exists (exists_mapM_ok fun employeeId hemployee => ?_)
    fun missingEmployees _ => ?_
  · exact except_bind_exists (snapshotName_exists (mem_employeesOnlyIn.mp hemployee).1)
      fun employee _ => ⟨_, rfl⟩
  exact except_bind_exists (exists_mapM_ok fun employeeId hemployee =>
    currencyFinding_exists hemployee) fun currencies _ => ⟨_, rfl⟩

/-! ### What the snapshots have either way round -/

theorem caps_exchanged (hcaps : enforceCombinedCaps [baseline, target] = .ok ()) :
    enforceCombinedCaps [target, baseline] = .ok () := by
  have hcomm (size : Snapshot → Nat) :
      ([target, baseline].map size).sum = ([baseline, target].map size).sum := by
    simp [Nat.add_comm]
  unfold enforceCombinedCaps at hcaps ⊢
  simpa only [hcomm] using hcaps

theorem register_exchanged {κ α : Type} [DecidableEq κ] [DecidableEq α]
    {read : Snapshot → List (κ × α)}
    (hregistered : register [] ([baseline, target].flatMap read) = .ok ()) :
    register [] ([target, baseline].flatMap read) = .ok () := by
  rw [register_iff] at hregistered ⊢
  have hmem (entry : κ × α) (hentry : entry ∈ [target, baseline].flatMap read) :
      entry ∈ [baseline, target].flatMap read := by
    simpa [or_comm] using hentry
  exact fun first hfirst second hsecond =>
    hregistered first (hmem first hfirst) second (hmem second hsecond)

theorem metadata_exchanged (hvalid : validateCrossSnapshotMetadata [baseline, target] = .ok ()) :
    validateCrossSnapshotMetadata [target, baseline] = .ok () := by
  obtain ⟨⟨⟩, hrules, hreferences⟩ := except_bind_ok.mp hvalid
  exact except_bind_ok.mpr ⟨(), register_exchanged hrules, register_exchanged hreferences⟩

theorem lineChange_exact {before after : Option (LineAggregate ℚ)}
    (hsome : before.isSome ∨ after.isSome) :
    ∃ result, lineChange before after = .ok result := by
  have hsample : (after <|> before).isSome := by
    cases after with
    | some _ => rfl
    | none => simpa using hsome
  obtain ⟨sample, hsample⟩ := Option.isSome_iff_exists.mp hsample
  refine except_bind_exists ⟨sample, orRaise_ok.mpr hsample⟩ fun sample _ => ?_
  dsimp only
  split
  · exact ⟨none, rfl⟩
  · split
    · exact ⟨_, rfl⟩
    · split
      · exact ⟨none, rfl⟩
      · exact except_bind_exists (decimalComparison_exact _ _) fun comparison _ => ⟨_, rfl⟩

theorem lineChanges_exchanged {changes : List (LineChange ℚ)}
    (hchanges : lineChanges baseline target = .ok changes) :
    ∃ others : List (LineChange ℚ), lineChanges target baseline = .ok others := by
  obtain ⟨before, hbefore, hrest⟩ := except_bind_ok.mp hchanges
  obtain ⟨after, hafter, -⟩ := except_bind_ok.mp hrest
  refine except_bind_exists ⟨after, hafter⟩ fun first hfirst => ?_
  refine except_bind_exists ⟨before, hbefore⟩ fun second hsecond => ?_
  refine except_bind_exists (exists_mapM_ok fun key hkey => lineChange_exact ?_)
    fun results _ => ⟨_, rfl⟩
  have hmem := mem_sortedKeys.mp (List.mem_filter.mp hkey).1
  rw [List.mem_append, mem_keys_iff, mem_keys_iff] at hmem
  exact hmem

theorem changedFacts_exchanged (employeeId : Int) :
    changedFacts target baseline employeeId = changedFacts baseline target employeeId := by
  unfold changedFacts
  refine List.filter_congr fun fact _ => ?_
  rw [Bool.eq_iff_iff]
  simp only [Bool.and_eq_true, Bool.not_eq_true', decide_eq_true_eq, Bool.and_eq_false_iff,
    decide_eq_false_iff_not, ne_comm]

theorem contractChanges_named {contracts : List ContractFactChange}
    (hcontracts : contractChanges baseline target = .ok contracts) {employeeId : Int}
    (hemployee : employeeId ∈ (baseline.segments ++ target.segments).map (·.employee.id))
    {fact : String} (hfact : fact ∈ changedFacts baseline target employeeId) :
    employeeId ∈ employeeIds baseline ∨ employeeId ∈ employeeIds target := by
  obtain ⟨results, hresults, -⟩ := except_bind_ok.mp hcontracts
  obtain ⟨changes, -, hchanges⟩ :=
    exists_of_forall₂_left (forall₂_of_mapM_ok hresults) (mem_sortedKeys.mpr hemployee)
  obtain ⟨change, -, hchange⟩ := exists_of_forall₂_left (forall₂_of_mapM_ok hchanges) hfact
  obtain ⟨employee, hnamed, -⟩ := except_bind_ok.mp hchange
  exact employeeNamed_mem hnamed

theorem contractChanges_exchanged {contracts : List ContractFactChange}
    (hcontracts : contractChanges baseline target = .ok contracts) :
    ∃ others, contractChanges target baseline = .ok others := by
  refine except_bind_exists (exists_mapM_ok fun employeeId hemployee => ?_)
    fun results _ => ⟨_, rfl⟩
  refine exists_mapM_ok fun fact hfact => ?_
  rw [changedFacts_exchanged] at hfact
  have hmem : employeeId ∈ (baseline.segments ++ target.segments).map (·.employee.id) := by
    have hother := mem_sortedKeys.mp hemployee
    rw [List.map_append, List.mem_append] at hother ⊢
    exact hother.symm
  exact except_bind_exists (employeeNamed_exists (contractChanges_named hcontracts hmem hfact).symm)
    fun employee _ => ⟨_, rfl⟩

/-! ### Hours -/

def WorkEntryHours.key {N : Type} (item : WorkEntryHours N) : HoursKey :=
  toLex (item.employee.id, toLex (item.workEntryType.id, item.code))

theorem hoursOf_ok {key : HoursKey} {make : DecimalComparison ℚ → WorkEntryHours ℚ}
    (hmake : hoursOf baseline target key = .ok make) :
    (∀ hours, (make hours).key = key ∧ (make hours).hours = hours) ∧
      ((ofLex key).1 ∈ employeeIds baseline ∨ (ofLex key).1 ∈ employeeIds target) := by
  obtain ⟨sample, hsample, hrest⟩ := except_bind_ok.mp hmake
  obtain ⟨employee, hemployee, hdone⟩ := except_bind_ok.mp hrest
  cases hdone
  have hkey : hoursKey sample = key := by
    rcases List.mem_append.mp (List.mem_of_mem_head? (orRaise_ok.mp hsample)) with hafter | hbefore
    · exact (mem_rowsAt.mp hafter).2
    · exact (mem_rowsAt.mp hbefore).2
  refine ⟨fun hours => ⟨?_, rfl⟩, employeeNamed_mem hemployee⟩
  unfold WorkEntryHours.key
  rw [employeeNamed_ok hemployee, ← hkey]
  rfl

theorem builds_hoursOf : Builds WorkEntryHours.key WorkEntryHours.hours
    (hoursOf baseline target) where
  key _ _ hmake comparison := ((hoursOf_ok hmake).1 comparison).1
  comparison _ _ hmake comparison := ((hoursOf_ok hmake).1 comparison).2

theorem workEntryHours_exchanged {hours : List (WorkEntryHours ℚ)}
    (hhours : workEntryHours baseline target = .ok hours) :
    ∃ others, workEntryHours target baseline = .ok others ∧
      TurnedItems WorkEntryHours.key WorkEntryHours.hours hours others := by
  have hsame (key : HoursKey) :
      key ∈ (baseline.workEntries ++ target.workEntries).map hoursKey ↔
        key ∈ (target.workEntries ++ baseline.workEntries).map hoursKey := by
    rw [List.map_append, List.map_append, List.mem_append, List.mem_append, or_comm]
  obtain ⟨others, hothers⟩ : ∃ others : List (WorkEntryHours ℚ),
      workEntryHours target baseline = .ok others := by
    refine comparedTotals_exists fun key hkey => ?_
    obtain ⟨make, hmake⟩ := item_of_comparedTotals hhours ((hsame key).mpr hkey)
    have hnamed := (hoursOf_ok hmake).2
    obtain ⟨sample, hsample, -⟩ := except_bind_ok.mp hmake
    have hmem := List.mem_append.mp (List.mem_of_mem_head? (orRaise_ok.mp hsample))
    have hne := List.ne_nil_of_mem (List.mem_append.mpr hmem.symm)
    refine except_bind_exists ⟨_, orRaise_ok.mpr (List.head?_eq_some_head hne)⟩ fun other _ => ?_
    exact except_bind_exists (employeeNamed_exists hnamed.symm) fun employee _ => ⟨_, rfl⟩
  exact ⟨others, hothers, comparedTotals_turned hsame builds_hoursOf builds_hoursOf hhours hothers⟩

/-! ### The employees that something has changed for -/

theorem named_of_lineChanges {changes : List (LineChange ℚ)}
    (hchanges : lineChanges baseline target = .ok changes) {change : LineChange ℚ}
    (hchange : change ∈ changes) : change.employee.id ∈ commonEmployees baseline target := by
  obtain ⟨before, after, hof⟩ := lineChanges_ok hchanges
  obtain ⟨key, hcommon, -, hchangeOf⟩ := hof.differs change hchange
  exact hchangeOf.employee ▸ hcommon

theorem named_of_contractChanges {contracts : List ContractFactChange}
    (hcontracts : contractChanges baseline target = .ok contracts) {change : ContractFactChange}
    (hchange : change ∈ contracts) :
    change.employee.id ∈ employeeIds baseline ∨ change.employee.id ∈ employeeIds target := by
  obtain ⟨results, hresults, hdone⟩ := except_bind_ok.mp hcontracts
  cases hdone
  obtain ⟨changes, hchanges, hmem⟩ := List.mem_flatten.mp hchange
  obtain ⟨employeeId, -, hemployee⟩ :=
    exists_of_forall₂_right (forall₂_of_mapM_ok hresults) hchanges
  obtain ⟨fact, -, hfact⟩ := exists_of_forall₂_right (forall₂_of_mapM_ok hemployee) hmem
  obtain ⟨employee, hnamed, hdone⟩ := except_bind_ok.mp hfact
  cases hdone
  rw [employeeNamed_ok hnamed]
  exact employeeNamed_mem hnamed

theorem named_of_workEntryHours {hours : List (WorkEntryHours ℚ)}
    (hhours : workEntryHours baseline target = .ok hours) {item : WorkEntryHours ℚ}
    (hitem : item ∈ hours) :
    item.employee.id ∈ employeeIds baseline ∨ item.employee.id ∈ employeeIds target := by
  obtain ⟨key, -, make, comparison, hmake, -, rfl⟩ :=
    exists_of_forall₂_right (comparedTotals_ok hhours) hitem
  obtain ⟨hmade, hnamed⟩ := hoursOf_ok hmake
  have hemployee : (make comparison).employee.id = (ofLex key).1 :=
    congrArg (fun key => (ofLex key).1) (hmade comparison).1
  exact hemployee ▸ hnamed

theorem named_of_snapshotName {snapshot : Snapshot} {employees : List Int}
    {names : List NamedReference} (hnames : employees.mapM (snapshotName snapshot) = .ok names)
    {employee : NamedReference} (hemployee : employee ∈ names) :
    employee.id ∈ employeeIds snapshot ∧ employee.id ∈ employees := by
  obtain ⟨employeeId, hmem, hnamed⟩ := exists_of_forall₂_right (forall₂_of_mapM_ok hnames) hemployee
  obtain ⟨hid, hlisted⟩ := lastName_ok hnamed
  rw [List.map_map] at hlisted
  rw [hid]
  exact ⟨hlisted, hmem⟩

theorem changedEmployees_exists {changes : List (LineChange ℚ)}
    {contracts : List ContractFactChange}
    {hours : List (WorkEntryHours ℚ)} {sets : EmployeeSetChanges}
    (hchanges : lineChanges baseline target = .ok changes)
    (hcontracts : contractChanges baseline target = .ok contracts)
    (hhours : workEntryHours baseline target = .ok hours)
    (hsets : employeeSets baseline target = .ok sets) :
    ∃ changed, (changedEmployeeIds changes contracts hours sets).mapM
      (employeeNamed baseline target) = .ok changed := by
  refine exists_mapM_ok fun employeeId hemployee => employeeNamed_exists ?_
  obtain ⟨newEmployees, hnew, hrest⟩ := except_bind_ok.mp hsets
  obtain ⟨missingEmployees, hmissing, hrest⟩ := except_bind_ok.mp hrest
  obtain ⟨commonEmployees, -, hdone⟩ := except_bind_ok.mp hrest
  cases hdone
  simp only [changedEmployeeIds, mem_sortedKeys, List.mem_append, List.mem_map] at hemployee
  rcases hemployee with (((⟨change, hchange, rfl⟩ | ⟨change, hchange, rfl⟩) | ⟨item, hitem, rfl⟩) |
    ⟨employee, hmem, rfl⟩) | ⟨employee, hmem, rfl⟩
  · exact .inl (mem_commonEmployees.mp (named_of_lineChanges hchanges hchange)).1
  · exact named_of_contractChanges hcontracts hchange
  · exact named_of_workEntryHours hhours (List.mem_of_mem_filter hitem)
  · exact .inr (named_of_snapshotName hnew hmem).1
  · exact .inl (named_of_snapshotName hmissing hmem).1

/-! ### The comparison the other way round -/

theorem countComparison_exact (baseline target : Nat) :
    ∃ count : CountComparison ℚ, countComparison baseline target = .ok count :=
  except_bind_exists (decimalComparison_exact _ _) fun _ _ => ⟨_, rfl⟩

theorem countComparison_turned {count turned : CountComparison ℚ}
    (hcount : countComparison (headcount baseline) (headcount target) = .ok count)
    (hturned : countComparison (headcount target) (headcount baseline) = .ok turned) :
    turned.absoluteDelta = -count.absoluteDelta ∧ turned.change = count.change.turned := by
  obtain ⟨comparison, hcomparison, hdone⟩ := except_bind_ok.mp hcount
  obtain ⟨other, hother, hdone'⟩ := except_bind_ok.mp hturned
  cases hdone
  cases hdone'
  exact ⟨(Int.neg_sub _ _).symm, (turned_of_ok hcomparison hother).change⟩

structure ComparedOf (baseline target : Snapshot) (comparison : PeriodComparison ℚ) : Prop where
  caps : enforceCombinedCaps [baseline, target] = .ok ()
  metadata : validateCrossSnapshotMetadata [baseline, target] = .ok ()
  lines : ∃ changes : List (LineChange ℚ), lineChanges baseline target = .ok changes
  contracts : contractChanges baseline target = .ok comparison.contractChanges
  hours : workEntryHours baseline target = .ok comparison.workEntryHours
  count : countComparison (headcount baseline) (headcount target) = .ok comparison.headcount
  payslips : payslipTotals baseline target = .ok comparison.payslipTotals
  rules : ruleTotals baseline target = .ok comparison.ruleTotals
  categories : categoryTotals baseline target = .ok comparison.categoryTotals

variable {states : List PayrollState} {comparison : PeriodComparison ℚ}

theorem comparePeriods_ok (hcompared : comparePeriods baseline target states = .ok comparison) :
    ComparedOf baseline target comparison := by
  obtain ⟨⟨⟩, hcaps, hrest⟩ := except_bind_ok.mp hcompared
  obtain ⟨⟨⟩, hmetadata, hrest⟩ := except_bind_ok.mp hrest
  obtain ⟨changes, hchanges, hrest⟩ := except_bind_ok.mp hrest
  obtain ⟨contracts, hcontracts, hrest⟩ := except_bind_ok.mp hrest
  obtain ⟨hours, hhours, hrest⟩ := except_bind_ok.mp hrest
  obtain ⟨findings, -, hrest⟩ := except_bind_ok.mp hrest
  obtain ⟨sets, -, hrest⟩ := except_bind_ok.mp hrest
  obtain ⟨count, hcount, hrest⟩ := except_bind_ok.mp hrest
  obtain ⟨payslips, hpayslips, hrest⟩ := except_bind_ok.mp hrest
  obtain ⟨rules, hrules, hrest⟩ := except_bind_ok.mp hrest
  obtain ⟨categories, hcategories, hrest⟩ := except_bind_ok.mp hrest
  obtain ⟨changed, -, hdone⟩ := except_bind_ok.mp hrest
  cases hdone
  exact ⟨hcaps, hmetadata, ⟨changes, hchanges⟩, hcontracts, hhours, hcount, hpayslips, hrules,
    hcategories⟩

/-- Two periods that can be compared can be compared the other way round. -/
theorem comparePeriods_exchanged
    (hcompared : comparePeriods baseline target states = .ok comparison) :
    ∃ exchanged : PeriodComparison ℚ, comparePeriods target baseline states = .ok exchanged := by
  have hof := comparePeriods_ok hcompared
  obtain ⟨changes, hchanges⟩ := hof.lines
  refine except_bind_exists ⟨(), caps_exchanged hof.caps⟩ fun _ _ => ?_
  refine except_bind_exists ⟨(), metadata_exchanged hof.metadata⟩ fun _ _ => ?_
  refine except_bind_exists (lineChanges_exchanged hchanges) fun others hothers => ?_
  refine except_bind_exists (contractChanges_exchanged hof.contracts) fun contracts hcontracts => ?_
  obtain ⟨hours, hhours, -⟩ := workEntryHours_exchanged hof.hours
  refine except_bind_exists ⟨hours, hhours⟩ fun hours hhours => ?_
  refine except_bind_exists (baseFindings_exists _ _ _ _) fun findings _ => ?_
  refine except_bind_exists (employeeSets_exists _ _) fun sets hsets => ?_
  refine except_bind_exists (countComparison_exact _ _) fun count _ => ?_
  obtain ⟨payslips, hpayslips, -⟩ := payslipTotals_turned hof.payslips
  refine except_bind_exists ⟨payslips, hpayslips⟩ fun payslips _ => ?_
  refine except_bind_exists (ruleTotals_exists _ _) fun rules _ => ?_
  refine except_bind_exists (categoryTotals_exists _ _) fun categories _ => ?_
  exact except_bind_exists (changedEmployees_exists hothers hcontracts hhours hsets)
    fun changed _ => ⟨_, rfl⟩

/-- **Conservation and antisymmetry.** In every currency the differences of the rule totals, of the
category totals and of the payslip totals all sum to the target lines less the baseline lines; and
the periods exchanged are compared by the same keys, every comparison turned. -/
theorem comparePeriods_conserves
    (hcompared : comparePeriods baseline target states = .ok comparison) :
    (∀ currencyId : Int,
      let difference := linesTotal target currencyId - linesTotal baseline currencyId
      ((comparison.ruleTotals.filter fun item => item.currency.id = currencyId).map
          (·.total.absoluteDelta)).sum = difference ∧
        ((comparison.categoryTotals.filter fun item => item.currency.id = currencyId).map
          (·.total.absoluteDelta)).sum = difference ∧
        ((comparison.payslipTotals.filter fun item => item.currency.id = currencyId).map
          (·.observedLineTotal.absoluteDelta)).sum = difference) ∧
      ∃ exchanged : PeriodComparison ℚ, comparePeriods target baseline states = .ok exchanged ∧
        TurnedItems RuleTotal.key RuleTotal.total comparison.ruleTotals exchanged.ruleTotals ∧
        TurnedItems CategoryTotal.key CategoryTotal.total comparison.categoryTotals
          exchanged.categoryTotals ∧
        TurnedItems PayslipTotal.key PayslipTotal.observedLineTotal comparison.payslipTotals
          exchanged.payslipTotals ∧
        TurnedItems WorkEntryHours.key WorkEntryHours.hours comparison.workEntryHours
          exchanged.workEntryHours ∧
        exchanged.headcount.absoluteDelta = -comparison.headcount.absoluteDelta ∧
        exchanged.headcount.change = comparison.headcount.change.turned := by
  have hof := comparePeriods_ok hcompared
  obtain ⟨exchanged, hexchanged⟩ := comparePeriods_exchanged hcompared
  have hother := comparePeriods_ok hexchanged
  refine ⟨fun currencyId => ⟨ruleTotals_conserves hof.rules currencyId,
    categoryTotals_conserves hof.categories currencyId,
    payslipTotals_conserves hof.payslips currencyId⟩, exchanged, hexchanged,
    ruleTotals_turned hof.rules hother.rules,
    categoryTotals_turned hof.categories hother.categories, ?_, ?_,
    countComparison_turned hof.count hother.count⟩
  · obtain ⟨turned, hturned, hitems⟩ := payslipTotals_turned hof.payslips
    rw [hother.payslips] at hturned
    cases hturned
    exact hitems
  · obtain ⟨turned, hturned, hitems⟩ := workEntryHours_exchanged hof.hours
    rw [hother.hours] at hturned
    cases hturned
    exact hitems

/-! ### Two months -/

def monthOf (day : Nat) : PayrollPeriod :=
  ⟨⟨739000 + day⟩, ⟨739029 + day⟩, by simp, by simp only; omega⟩

def payslipOf (id : Int) (employee currency : Nat) : Payslip where
  id := id
  name := "Salary"
  reference := "SLIP"
  employee := .after employee "Employee"
  dateFrom := ⟨739000⟩
  dateTo := ⟨739029⟩
  state := .done
  sourceState := "done"
  companyId := 1
  contractSegment := .after employee "Contract"
  contractSource := .hrContract
  payrollStructure := .after 4 "Structure"
  batch := none
  creditNote := false
  currency := .after currency "Currency"
  writeDate := ⟨0, none⟩

def slipLine (id : Int) (payslip employee currency rule : Nat) (total : Decimal) : PayslipLine where
  id := id
  payslip := .after payslip "SLIP"
  salaryRule := .after rule "Rule"
  employee := .after employee "Employee"
  contractSegment := .after employee "Contract"
  contractSource := .hrContract
  name := "Rule"
  code := "BASIC"
  category := .after 7 "Basic"
  sequence := 1
  quantity := ⟨false, 1, 0⟩
  rate := ⟨false, 100, 0⟩
  amount := total
  total := total
  currency := .after currency "Currency"
  writeDate := ⟨0, none⟩

def monthWith (day : Nat) (payslips : List Payslip) (lines : List PayslipLine) : Snapshot :=
  ⟨monthOf day, payslips, lines, [], []⟩

/-- One employee leaves. -/
def monthBefore : Snapshot :=
  monthWith 0 [payslipOf 1 1 0, payslipOf 2 2 0]
    [slipLine 1 0 1 0 1 ⟨false, 1000, 0⟩, slipLine 2 1 2 0 1 ⟨false, 700, 0⟩]

/-- One employee comes, who is paid by another rule. -/
def monthAfter : Snapshot :=
  monthWith 30 [payslipOf 3 2 0, payslipOf 4 3 0]
    [slipLine 3 2 2 0 1 ⟨false, 800, 0⟩, slipLine 4 3 3 0 2 ⟨false, 5, -1⟩]

theorem comparePeriods_conserves_months :
    ∃ comparison exchanged : PeriodComparison ℚ,
      comparePeriods monthBefore monthAfter [] = .ok comparison ∧
      comparePeriods monthAfter monthBefore [] = .ok exchanged ∧
      ((comparison.ruleTotals.filter fun item => item.currency.id = 1).map
        (·.total.absoluteDelta)).sum = -1799 / 2 ∧
      TurnedItems RuleTotal.key RuleTotal.total comparison.ruleTotals exchanged.ruleTotals := by
  have hok : (comparePeriods (N := ℚ) monthBefore monthAfter []).isOk = true := by decide +kernel
  obtain ⟨comparison, hcompared⟩ := ok_of_isOk hok
  obtain ⟨hconserved, exchanged, hexchanged, hrules, -⟩ := comparePeriods_conserves hcompared
  refine ⟨comparison, exchanged, hcompared, hexchanged, ?_, hrules⟩
  rw [(hconserved 1).1]
  decide +kernel

end PayrollAnalysis

end OdooMcp
