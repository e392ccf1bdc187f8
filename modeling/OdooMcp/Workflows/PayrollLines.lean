import Mathlib.Data.List.ReduceOption
import OdooMcp.Workflows.PayrollFindings

/-!
# The changes of rule lines

What the aggregates of a snapshot's lines hold, and when the rule line of an employee is reported as
changed: it has to be in one of the snapshots, and its totals have to differ.
-/

namespace OdooMcp

namespace PayrollAnalysis

open Arithmetic Grouping

/-! ### One value for each key -/

section Register

variable {κ α : Type} [DecidableEq κ] [DecidableEq α]

theorem register_ok {known entries : List (κ × α)} :
    register known entries = .ok () ↔
      (∀ entry ∈ entries, ∀ value, dictGet known entry.1 = some value → value = entry.2) ∧
        entries.Pairwise fun first second => first.1 = second.1 → first.2 = second.2 := by
  induction entries generalizing known with
  | nil => exact ⟨fun _ => ⟨by simp, .nil⟩, fun _ => rfl⟩
  | cons entry entries ih =>
      have hstep : register known (entry :: entries) = .ok () ↔
          (∀ value, dictGet known entry.1 = some value → value = entry.2) ∧
            register (dictSet known entry.1 entry.2) entries = .ok () := by
        rw [register, except_bind_ok]
        constructor
        · rintro ⟨⟨⟩, hensured, hrest⟩
          refine ⟨fun value hvalue => ?_, hrest⟩
          rw [ensure_ok, hvalue] at hensured
          exact of_decide_eq_true hensured
        · rintro ⟨hknown, hrest⟩
          refine ⟨(), ensure_ok.mpr ?_, hrest⟩
          cases hfound : dictGet known entry.1 with
          | none => rfl
          | some value => exact decide_eq_true (hknown value hfound)
      rw [hstep, ih, List.forall_mem_cons, List.pairwise_cons]
      simp only [dictGet_dictSet]
      constructor
      · rintro ⟨hentry, hrest, hpairwise⟩
        refine ⟨⟨hentry, fun other hother value hvalue => ?_⟩,
          fun other hother hkey => ?_, hpairwise⟩
        · by_cases hkey : entry.1 = other.1
          · rw [hentry value (hkey ▸ hvalue)]
            exact hrest other hother entry.2 (if_pos hkey)
          · exact hrest other hother value ((if_neg hkey).trans hvalue)
        · exact hrest other hother entry.2 (if_pos hkey)
      · rintro ⟨⟨hentry, hrest⟩, hfirst, hpairwise⟩
        refine ⟨hentry, fun other hother value hvalue => ?_, hpairwise⟩
        by_cases hkey : entry.1 = other.1
        · rw [if_pos hkey] at hvalue
          cases hvalue
          exact hfirst other hother hkey
        · rw [if_neg hkey] at hvalue
          exact hrest other hother value hvalue

/-- Registering goes through if every key has one value. -/
theorem register_iff {entries : List (κ × α)} :
    register [] entries = .ok () ↔
      ∀ first ∈ entries, ∀ second ∈ entries, first.1 = second.1 → first.2 = second.2 := by
  rw [register_ok]
  constructor
  · rintro ⟨-, hpairwise⟩
    have hsymmetric : Std.Symm fun first second : κ × α => first.1 = second.1 →
        first.2 = second.2 :=
      ⟨fun first second hsame hkey => (hsame hkey.symm).symm⟩
    intro first hfirst second hsecond
    exact hpairwise.forall_of_forall (fun _ _ _ => rfl) hfirst hsecond
  · intro hall
    refine ⟨fun entry _ value hvalue => (by cases hvalue), ?_⟩
    exact List.pairwise_of_forall_mem_list hall

end Register

/-! ### Aggregates -/

section Lookup

variable {κ α : Type} [DecidableEq κ] {read : κ → Except PyException α} {keys : List κ}
  {entries : List (κ × α)} {key : κ}

theorem mem_keys_iff : key ∈ entries.map Prod.fst ↔ (dictGet entries key).isSome := by
  rw [dictGet, Option.isSome_map, List.find?_isSome, List.mem_map]
  simp only [decide_eq_true_eq]

theorem read_of_dictGet
    (hentries : (keys.mapM fun key => do return (key, ← read key)) = .ok entries)
    {value : α} (hfound : dictGet entries key = some value) : read key = .ok value := by
  obtain ⟨entry, hentry, rfl⟩ := Option.map_eq_some_iff.mp hfound
  have hkey : entry.1 = key := by simpa using List.find?_some hentry
  obtain ⟨other, -, hread⟩ := exists_of_forall₂_right (forall₂_of_mapM_ok hentries)
    (List.mem_of_find?_eq_some hentry)
  obtain ⟨found, hvalue, hdone⟩ := except_bind_ok.mp hread
  cases hdone
  exact hkey ▸ hvalue

omit [DecidableEq κ] in
theorem keys_of_mapM (hentries : (keys.mapM fun key => do return (key, ← read key)) = .ok entries) :
    entries.map Prod.fst = keys := by
  have hforall := forall₂_of_mapM_ok hentries
  clear hentries
  induction hforall with
  | nil => rfl
  | cons hread _ ih =>
      obtain ⟨found, -, hdone⟩ := except_bind_ok.mp hread
      cases hdone
      rw [List.map_cons, ih]

theorem dictGet_isSome_iff
    (hentries : (keys.mapM fun key => do return (key, ← read key)) = .ok entries) :
    (dictGet entries key).isSome ↔ key ∈ keys := by
  rw [← mem_keys_iff, keys_of_mapM hentries]

end Lookup

variable {N : Type} [Arithmetic N] {snapshot : Snapshot}

structure AggregateOf (snapshot : Snapshot) (key : LineKey)
    (aggregate : LineAggregate N) : Prop where
  lines : aggregate.lines = rowsAt lineKey snapshot.lines key
  nonempty : aggregate.lines ≠ []
  total : aggregate.total = totalOf (lineTotals lineKey snapshot key)
  employee : aggregate.employee.id = (ofLex key).1
  salaryRule : aggregate.salaryRule.id = (ofLex (ofLex key).2).1
  code : aggregate.code = (ofLex (ofLex key).2).2
  currency : ∀ line ∈ aggregate.lines, line.currency.id = aggregate.currency.id

theorem lineAggregate_ok {key : LineKey} {aggregate : LineAggregate N}
    (haggregate : lineAggregate (rowsAt lineKey snapshot.lines key) = .ok aggregate) :
    AggregateOf snapshot key aggregate := by
  obtain ⟨sample, hsample, hrest⟩ := except_bind_ok.mp haggregate
  obtain ⟨⟨⟩, hsame, hdone⟩ := except_bind_ok.mp hrest
  have hmem := List.mem_of_mem_head? (orRaise_ok.mp hsample)
  have hkey := (mem_rowsAt.mp hmem).2
  cases hdone
  refine ⟨rfl, List.ne_nil_of_mem hmem, rfl, ?_, ?_, ?_, fun line hline => ?_⟩
  · rw [← hkey]
    rfl
  · rw [← hkey]
    rfl
  · rw [← hkey]
    rfl
  · have hline := List.all_eq_true.mp (ensure_ok.mp hsame) line hline
    simp only [Bool.and_eq_true, decide_eq_true_eq] at hline
    exact hline.1.1.1

structure Aggregated (snapshot : Snapshot)
    (aggregates : List (LineKey × LineAggregate N)) : Prop where
  present : ∀ key, (dictGet aggregates key).isSome ↔ key ∈ snapshot.lines.map lineKey
  found : ∀ key aggregate, dictGet aggregates key = some aggregate →
    AggregateOf snapshot key aggregate
  oneCurrency : ∀ first ∈ snapshot.lines, ∀ second ∈ snapshot.lines,
    first.employee.id = second.employee.id → first.currency.id = second.currency.id

theorem lineAggregates_ok {aggregates : List (LineKey × LineAggregate N)}
    (haggregates : lineAggregates snapshot = .ok aggregates) : Aggregated snapshot aggregates := by
  obtain ⟨⟨⟩, hregistered, hrest⟩ := except_bind_ok.mp haggregates
  refine ⟨fun key => ?_, fun key aggregate hfound => ?_,
    fun first hfirst second hsecond hsame => ?_⟩
  · rw [dictGet_isSome_iff hrest, mem_sortedKeys]
  · exact lineAggregate_ok (read_of_dictGet hrest hfound)
  · exact register_iff.mp hregistered _ (List.mem_map_of_mem hfirst) _ (List.mem_map_of_mem hsecond)
      hsame

/-! ### Changes -/

/-- A rule line is changed if its totals differ; one that is missing counts as zero. -/
def TotalsDiffer (before after : Option (LineAggregate N)) : Prop :=
  match before, after with
  | some before, some after => same before.total after.total = false
  | some aggregate, none | none, some aggregate => same aggregate.total zero = false
  | none, none => False

theorem orZero_same_zero [LawfulArithmetic N] (total : N) :
    same (orZero (some total)) zero = same total zero := by
  unfold orZero
  simp only
  split
  · rename_i hzero
    rw [hzero, LawfulArithmetic.same_iff]
  · rfl

theorem isSome_of_totalsDiffer {before after : Option (LineAggregate N)}
    (hdiffer : TotalsDiffer before after) :
    before.isSome ∨ after.isSome := by
  cases before with
  | some _ => exact .inl rfl
  | none =>
      cases after with
      | some _ => exact .inr rfl
      | none => cases hdiffer

variable [FinePlaces N]

section Cases

variable [LawfulArithmetic N]

theorem lineChange_added (after : LineAggregate N) :
    lineChange none (some after) =
      if same after.total zero then
        .ok none
      else do
        let comparison ← decimalComparison (orZero none) (orZero (some after.total))
        return some (changedLine after none (some after) (some after.currency)
          (some comparison.absoluteDelta) comparison.percentageDelta comparison.change []) := by
  rw [← orZero_same_zero after.total]
  unfold lineChange
  simp [sameTotal, differentCurrencies, orRaise]
  rfl

theorem lineChange_removed (before : LineAggregate N) :
    lineChange (some before) none =
      if same before.total zero then
        .ok none
      else do
        let comparison ← decimalComparison (orZero (some before.total)) (orZero none)
        return some (changedLine before (some before) none (some before.currency)
          (some comparison.absoluteDelta) comparison.percentageDelta comparison.change []) := by
  rw [← orZero_same_zero before.total]
  unfold lineChange
  simp [sameTotal, differentCurrencies, orRaise]
  rfl

omit [LawfulArithmetic N] in
theorem lineChange_both (before after : LineAggregate N) :
    lineChange (some before) (some after) =
      if same before.total after.total then
        .ok none
      else if before.currency.id ≠ after.currency.id then
        .ok (some (changedLine after (some before) (some after) none none none .unavailable
          ["currency_change_prevents_amount_comparison"]))
      else do
        let comparison ← decimalComparison (orZero (some before.total)) (orZero (some after.total))
        return some (changedLine after (some before) (some after) (some after.currency)
          (some comparison.absoluteDelta) comparison.percentageDelta comparison.change []) := by
  unfold lineChange
  simp [sameTotal, differentCurrencies, orRaise]
  rfl

end Cases

structure ChangeOf (key : LineKey) (before after : Option (LineAggregate N))
    (change : LineChange N) : Prop where
  employee : change.employee.id = (ofLex key).1
  salaryRule : change.salaryRule.id = (ofLex (ofLex key).2).1
  code : change.code = (ofLex (ofLex key).2).2
  baselineTotal : change.baselineTotal = before.map (·.total)
  targetTotal : change.targetTotal = after.map (·.total)
  currency : change.currency.isSome = !differentCurrencies before after
  unavailable : differentCurrencies before after = true → change.change = .unavailable

variable {baseline target snapshot : Snapshot} {key : LineKey}
  {before after : Option (LineAggregate N)}

omit [FinePlaces N] in
theorem changeOf_comparable {sample : LineAggregate N} (hsample : AggregateOf snapshot key sample)
    (hone : differentCurrencies before after = false) (currency : NamedReference)
    (delta percentage : Option N) (kind : ChangeKind) (limitations : List String) :
    ChangeOf key before after
      (changedLine sample before after (some currency) delta percentage kind limitations) := by
  refine ⟨hsample.employee, hsample.salaryRule, hsample.code, rfl, rfl, ?_, fun hdifferent => ?_⟩
  · rw [hone]
    rfl
  · rw [hone] at hdifferent
    cases hdifferent

omit [FinePlaces N] in
theorem changeOf_unavailable {sample : LineAggregate N} (hsample : AggregateOf snapshot key sample)
    (hdifferent : differentCurrencies before after = true) (limitations : List String) :
    ChangeOf key before after
      (changedLine sample before after none none none .unavailable limitations) := by
  refine ⟨hsample.employee, hsample.salaryRule, hsample.code, rfl, rfl, ?_, fun _ => rfl⟩
  rw [hdifferent]
  rfl

/-- **The reported changes.** A rule line that one of the snapshots has is reported if and only if
its totals differ. -/
theorem lineChange_ok [LawfulArithmetic N]
    (hbefore : ∀ aggregate ∈ before, AggregateOf baseline key aggregate)
    (hafter : ∀ aggregate ∈ after, AggregateOf target key aggregate)
    {result : Option (LineChange N)} (hresult : lineChange before after = .ok result) :
    (result.isSome ↔ TotalsDiffer before after) ∧
      ∀ change ∈ result, ChangeOf key before after change := by
  cases before with
  | none =>
      cases after with
      | none => cases hresult
      | some after =>
          rw [lineChange_added] at hresult
          split at hresult
          · rename_i hzero
            cases hresult
            exact ⟨by simp [TotalsDiffer, hzero], by simp⟩
          · rename_i hzero
            obtain ⟨comparison, -, hdone⟩ := except_bind_ok.mp hresult
            cases hdone
            refine ⟨by simpa [TotalsDiffer] using hzero, ?_⟩
            rintro change ⟨⟩
            exact changeOf_comparable (hafter after rfl) rfl _ _ _ _ _
  | some before =>
      cases after with
      | none =>
          rw [lineChange_removed] at hresult
          split at hresult
          · rename_i hzero
            cases hresult
            exact ⟨by simp [TotalsDiffer, hzero], by simp⟩
          · rename_i hzero
            obtain ⟨comparison, -, hdone⟩ := except_bind_ok.mp hresult
            cases hdone
            refine ⟨by simpa [TotalsDiffer] using hzero, ?_⟩
            rintro change ⟨⟩
            exact changeOf_comparable (hbefore before rfl) rfl _ _ _ _ _
      | some after =>
          rw [lineChange_both] at hresult
          split at hresult
          · rename_i hsame
            cases hresult
            exact ⟨by simp [TotalsDiffer, hsame], by simp⟩
          · rename_i hsame
            split at hresult
            · rename_i hcurrency
              cases hresult
              refine ⟨by simpa [TotalsDiffer] using hsame, ?_⟩
              rintro change ⟨⟩
              have hdifferent : differentCurrencies (some before) (some after) = true :=
                decide_eq_true hcurrency
              exact changeOf_unavailable (hafter after rfl) hdifferent _
            · rename_i hcurrency
              obtain ⟨comparison, -, hdone⟩ := except_bind_ok.mp hresult
              cases hdone
              refine ⟨by simpa [TotalsDiffer] using hsame, ?_⟩
              rintro change ⟨⟩
              have hone : differentCurrencies (some before) (some after) = false :=
                decide_eq_false hcurrency
              exact changeOf_comparable (hafter after rfl) hone _ _ _ _ _

theorem mem_commonEmployees {employeeId : Int} :
    employeeId ∈ commonEmployees baseline target ↔
      employeeId ∈ employeeIds baseline ∧ employeeId ∈ employeeIds target := by
  rw [commonEmployees, mem_sortedKeys, List.mem_filter, List.contains_iff_mem]

/-- What the line changes of two snapshots are: those of the rule lines of the common employees. -/
structure LineChangesOf (baseline target : Snapshot) (changes : List (LineChange N))
    (before after : List (LineKey × LineAggregate N)) : Prop where
  fromBaseline : Aggregated baseline before
  fromTarget : Aggregated target after
  reported : ∀ key, (ofLex key).1 ∈ commonEmployees baseline target →
    TotalsDiffer (dictGet before key) (dictGet after key) →
      ∃ change ∈ changes, ChangeOf key (dictGet before key) (dictGet after key) change
  differs : ∀ change ∈ changes, ∃ key, (ofLex key).1 ∈ commonEmployees baseline target ∧
    TotalsDiffer (dictGet before key) (dictGet after key) ∧
      ChangeOf key (dictGet before key) (dictGet after key) change

theorem lineChanges_ok [LawfulArithmetic N] {changes : List (LineChange N)}
    (hchanges : lineChanges baseline target = .ok changes) :
    ∃ before after, LineChangesOf baseline target changes before after := by
  obtain ⟨before, hbefore, hrest⟩ := except_bind_ok.mp hchanges
  obtain ⟨after, hafter, hrest⟩ := except_bind_ok.mp hrest
  obtain ⟨results, hresults, hdone⟩ := except_bind_ok.mp hrest
  cases hdone
  have hfirst := lineAggregates_ok hbefore
  have hsecond := lineAggregates_ok hafter
  have hforall := forall₂_of_mapM_ok hresults
  refine ⟨before, after, hfirst, hsecond, fun key hcommon hdiffer => ?_, fun change hchange => ?_⟩
  · have hmem : key ∈ (sortedKeys (before.map Prod.fst ++ after.map Prod.fst)).filter fun key =>
        (commonEmployees baseline target).contains (ofLex key).1 := by
      rw [List.mem_filter, mem_sortedKeys, List.mem_append, mem_keys_iff, mem_keys_iff]
      exact ⟨isSome_of_totalsDiffer hdiffer, List.contains_iff_mem.mpr hcommon⟩
    obtain ⟨result, hmemResult, hresult⟩ := exists_of_forall₂_left hforall hmem
    obtain ⟨hreported, hof⟩ := lineChange_ok (hfirst.found key) (hsecond.found key) hresult
    obtain ⟨change, rfl⟩ := Option.isSome_iff_exists.mp (hreported.mpr hdiffer)
    exact ⟨change, List.reduceOption_mem_iff.mpr hmemResult, hof change rfl⟩
  · obtain ⟨key, hmem, hresult⟩ :=
      exists_of_forall₂_right hforall (List.reduceOption_mem_iff.mp hchange)
    obtain ⟨hreported, hof⟩ := lineChange_ok (hfirst.found key) (hsecond.found key) hresult
    exact ⟨key, List.contains_iff_mem.mp (List.mem_filter.mp hmem).2, hreported.mp rfl,
      hof change rfl⟩

end PayrollAnalysis

end OdooMcp
