import OdooMcp.Median
import OdooMcp.Workflows.PayrollExchange

/-!
# Statistical findings

A rule line is flagged when its total is far from the median of the same line in the past, measured
in median absolute deviations. Neither the order of the past periods nor the unit of the amounts
decides, nor what all the amounts have in common.
-/

namespace OdooMcp

namespace PayrollAnalysis

open Arithmetic Grouping

/-! ### Findings -/

/-- `_MODIFIED_Z_FACTOR` -/
def modifiedZFactor : Decimal := ⟨false, 6745, -4⟩

/-- `_MODIFIED_Z_THRESHOLD` -/
def modifiedZThreshold : Decimal := ⟨false, 35, -1⟩

/-- What the method makes of a line's total and the comparable ones. -/
inductive Scoring (N : Type)
  | insufficientHistory
  | zeroDeviation
  | scored (median score : N)

section Statistics

variable {N : Type} [Arithmetic N]

/-- `_median` -/
def median (values : List N) : Except PyException N :=
  let ordered := values.insertionSort fun first second => !lt second first
  let midpoint := ordered.length / 2
  if ordered.length % 2 = 1 then
    orRaise ordered[midpoint]? (.exception "IndexError")
  else do
    let lower ← orRaise ordered[midpoint - 1]? (.exception "IndexError")
    let upper ← orRaise ordered[midpoint]? (.exception "IndexError")
    orRaise (div (add lower upper) (ofDecimal (Decimal.ofInt 2))) arithmeticError

def scoring (comparable : List N) (total : N) : Except PyException (Scoring N) :=
  if comparable.length < 6 then
    .ok .insufficientHistory
  else do
    let center ← median comparable
    let deviation ← median (comparable.map fun value => abs (sub value center))
    if same deviation zero then
      return .zeroDeviation
    else
      let score ← orRaise (div (mul (ofDecimal modifiedZFactor) (sub total center)) deviation)
        arithmeticError
      return .scored center score

omit [Arithmetic N] in
/-- The aggregates of a line in the past, where they are in the currency. -/
def comparables (history : List (List (LineKey × LineAggregate N))) (key : LineKey)
    (currencyId : Int) : List (LineAggregate N) :=
  history.filterMap fun values =>
    (dictGet values key).filter fun historical => historical.currency.id = currencyId

variable [FinePlaces N]

/-- The body of the loop of `_statistical_findings`: a finding or none, and the limitations. -/
def statisticalLine (baseline target : Snapshot)
    (history : List (List (LineKey × LineAggregate N))) (key : LineKey) (value : LineAggregate N) :
    Except PyException (Option (Finding N) × List String) := do
  let found := comparables history key value.currency.id
  let refs := found.foldl (fun refs historical => mergeSourceRefs [refs, lineRefs historical.lines])
    (lineRefs value.lines)
  match ← scoring (found.map (·.total)) value.total with
  | .insufficientHistory => return (none, ["statistical_method_unavailable_insufficient_history"])
  | .zeroDeviation => return (none, ["statistical_method_unavailable_zero_mad"])
  | .scored median score =>
      if lt (abs score) (ofDecimal modifiedZThreshold) then
        return (none, [])
      else
        let renderedScore ← round score
        return (some {
          findingCode := .statisticalDeviation
          severity := .review
          baselinePeriod := some baseline.period
          targetPeriod := target.period
          employee := some value.employee
          currency := some value.currency
          salaryRule := some value.salaryRule
          code := some value.code
          baselineValue := some (.number median)
          targetValue := some (.number value.total)
          absoluteDelta := some (sub value.total median)
          observedDelta := some (abs renderedScore)
          calculation := "0.6745 * (target - history median) / history MAD"
          rule :=
            "At least six comparable history values and absolute modified z-score >= 3.5."
          threshold := some (ofDecimal modifiedZThreshold)
          sourceRefs := refs
          evidence := [⟨"historical_rule_total", some (.number median), some (.number value.total),
            refs⟩]
          limitations := ["statistical_baseline_uses_request_history_only"] }, [])

/-- `_statistical_findings` -/
def statisticalFindings (baseline target : Snapshot) (histories : List Snapshot) :
    Except PyException (List (Finding N) × List String) := do
  let targetValues ← lineAggregates target
  let history ← histories.mapM lineAggregates
  let results ← targetValues.mapM fun entry =>
    statisticalLine baseline target history entry.1 entry.2
  let missing := if histories.isEmpty then
    ["statistical_method_unavailable_insufficient_history"] else []
  return ((results.map Prod.fst).reduceOption,
    sortedKeys ((results.map Prod.snd).flatten ++ missing))

end Statistics

/-! ### Exact scores -/

theorem median_exact (values : List ℚ) :
    median values = orRaise (Median.median values) (.exception "IndexError") := by
  have hsorted : values.insertionSort (fun first second => !lt second first) =
      Median.sorted values := by
    have hmap := List.map_insertionSort (fun first second : ℚ => (!lt second first) = true) (· ≤ ·)
      id values fun first _ second _ => by
        rw [Bool.not_eq_true', ← Bool.not_eq_true, LawfulArithmetic.lt_iff, not_lt]
        rfl
    rw [List.map_id, List.map_id] at hmap
    exact hmap
  unfold median Median.median
  dsimp only
  rw [hsorted, Median.length_sorted]
  split
  · rfl
  · cases (Median.sorted values)[values.length / 2 - 1]? with
    | none => rfl
    | some lower =>
        cases (Median.sorted values)[values.length / 2]? with
        | none => rfl
        | some upper =>
            have htwo : (ofDecimal (Decimal.ofInt 2) : ℚ) = 2 := by decide +kernel
            have hdivided : div (add lower upper) (ofDecimal (Decimal.ofInt 2)) =
                some ((lower + upper) / 2) := by
              rw [htwo]
              exact div_exact (by norm_num)
            change orRaise (div (add lower upper) (ofDecimal (Decimal.ofInt 2))) arithmeticError = _
            rw [hdivided]
            rfl

/-- Six values have a median, and a median distance from it; the score is measured in that. -/
theorem scoring_exact {values : List ℚ} (hlength : ¬values.length < 6) (total : ℚ) :
    ∃ center deviation, Median.median values = some center ∧
      Median.deviation values center = some deviation ∧
      scoring values total = .ok (if deviation = 0 then .zeroDeviation else
        .scored center (ofDecimal modifiedZFactor * (total - center) / deviation)) := by
  have hvalues : values ≠ [] := by
    rintro rfl
    exact hlength (by decide)
  obtain ⟨center, hcenter⟩ := Option.isSome_iff_exists.mp (Median.median_isSome hvalues)
  have hdistances : values.map (fun value => |value - center|) ≠ [] := by simpa using hvalues
  obtain ⟨deviation, hdeviation⟩ := Option.isSome_iff_exists.mp (Median.median_isSome hdistances)
  refine ⟨center, deviation, hcenter, hdeviation, ?_⟩
  have hmedian : median values = .ok center := by rw [median_exact, hcenter, orRaise_ok]
  have hspread : median (values.map fun value => Arithmetic.abs (sub value center)) =
      .ok deviation := by
    rw [median_exact, orRaise_ok]
    exact hdeviation
  unfold scoring
  rw [if_neg hlength, except_bind_ok]
  refine ⟨center, hmedian, except_bind_ok.mpr ⟨deviation, hspread, ?_⟩⟩
  by_cases hzero : deviation = 0
  · have hsame : same deviation zero = true := decide_eq_true (hzero.trans zero_exact.symm)
    rw [if_pos hsame, if_pos hzero]
    rfl
  · have hsame : ¬same deviation zero = true := fun hsame =>
      hzero ((of_decide_eq_true hsame).trans zero_exact)
    rw [if_neg hsame, if_neg hzero]
    exact except_bind_ok.mpr ⟨_, orRaise_ok.mpr (div_exact hzero), rfl⟩

theorem scoring_exists (values : List ℚ) (total : ℚ) :
    ∃ outcome, scoring values total = .ok outcome := by
  by_cases hlength : values.length < 6
  · exact ⟨.insufficientHistory, if_pos hlength⟩
  · obtain ⟨center, deviation, -, -, hscoring⟩ := scoring_exact hlength total
    exact ⟨_, hscoring⟩

theorem scoring_perm {values others : List ℚ} (hperm : values.Perm others) (total : ℚ) :
    scoring values total = scoring others total := by
  by_cases hlength : values.length < 6
  · unfold scoring
    rw [if_pos hlength, if_pos (hperm.length_eq ▸ hlength)]
  · obtain ⟨center, deviation, hcenter, hdeviation, hscoring⟩ := scoring_exact hlength total
    obtain ⟨center', deviation', hcenter', hdeviation', hscoring'⟩ :=
      scoring_exact (hperm.length_eq ▸ hlength) total
    rw [← Median.median_perm hperm, hcenter] at hcenter'
    obtain rfl := Option.some.inj hcenter'
    rw [← Median.deviation_perm hperm, hdeviation] at hdeviation'
    obtain rfl := Option.some.inj hdeviation'
    rw [hscoring, hscoring']

/-- The same verdict: no score for the same reason, or scores of one size. -/
inductive SameVerdict : Scoring ℚ → Scoring ℚ → Prop
  | insufficientHistory : SameVerdict .insufficientHistory .insufficientHistory
  | zeroDeviation : SameVerdict .zeroDeviation .zeroDeviation
  | scored {center center' score score' : ℚ} (hscore : |score'| = |score|) :
      SameVerdict (.scored center score) (.scored center' score')

/-- Moving and scaling all totals moves the median, scales the deviation, and keeps the size of the
score. -/
theorem scoring_affine {factor offset : ℚ} (hfactor : factor ≠ 0) {values : List ℚ} {total : ℚ}
    {outcome moved : Scoring ℚ} (houtcome : scoring values total = .ok outcome)
    (hmoved : scoring (values.map fun value => factor * value + offset) (factor * total + offset) =
      .ok moved) : SameVerdict outcome moved := by
  by_cases hlength : values.length < 6
  · have hshort : (values.map fun value => factor * value + offset).length < 6 := by
      rwa [List.length_map]
    rw [scoring, if_pos hlength] at houtcome
    rw [scoring, if_pos hshort] at hmoved
    cases houtcome
    cases hmoved
    exact .insufficientHistory
  · have hlong : ¬(values.map fun value => factor * value + offset).length < 6 := by
      rwa [List.length_map]
    obtain ⟨center, deviation, hcenter, hdeviation, hscoring⟩ := scoring_exact hlength total
    obtain ⟨center', deviation', hcenter', hdeviation', hscoring'⟩ :=
      scoring_exact hlong (factor * total + offset)
    rw [Median.median_affine hfactor, hcenter] at hcenter'
    obtain rfl := Option.some.inj hcenter'
    rw [Median.deviation_affine hfactor, hdeviation] at hdeviation'
    obtain rfl := Option.some.inj hdeviation'
    beta_reduce at hscoring'
    rw [hscoring] at houtcome
    rw [hscoring'] at hmoved
    cases houtcome
    cases hmoved
    have habs : |factor| ≠ 0 := abs_ne_zero.mpr hfactor
    by_cases hzero : deviation = 0
    · rw [if_pos hzero, if_pos (by rw [hzero, mul_zero])]
      exact .zeroDeviation
    · rw [if_neg hzero, if_neg (mul_ne_zero habs hzero)]
      refine .scored ?_
      have hdistance : factor * total + offset - (factor * center + offset) =
          factor * (total - center) := by ring
      rw [hdistance, abs_div, abs_div, abs_mul, abs_mul, abs_mul, abs_mul, abs_abs]
      field_simp

/-! ### Rounded scores -/

theorem halfEven_neg (value : ℚ) : halfEven (-value) = -halfEven value := by
  have hfloor := Int.floor_le value
  have hbelow := Int.lt_floor_add_one value
  by_cases hwhole : (⌊value⌋ : ℚ) = value
  · have hnegated : ⌊-value⌋ = -⌊value⌋ := by
      rw [← hwhole, ← Int.cast_neg, Int.floor_intCast, Int.floor_intCast]
    unfold halfEven
    simp only [hnegated, hwhole]
    push_cast
    rw [hwhole]
    norm_num
  · have hnegated : ⌊-value⌋ = -⌊value⌋ - 1 := by
      rw [Int.floor_eq_iff]
      push_cast
      constructor
      · linarith
      · have hlt := lt_of_le_of_ne hfloor hwhole
        linarith
    unfold halfEven
    simp only [hnegated]
    have hodd : (-⌊value⌋ - 1) % 2 = 1 ↔ ¬⌊value⌋ % 2 = 1 := by omega
    push_cast
    rcases lt_trichotomy (value - ⌊value⌋) (1 / 2) with hlow | hhalf | hhigh
    · rw [if_pos (.inl (by linarith)), if_neg]
      · ring
      · rintro (hover | ⟨heven, -⟩)
        · linarith
        · linarith
    · by_cases hparity : ⌊value⌋ % 2 = 1
      · rw [if_neg, if_pos (.inr ⟨hhalf, hparity⟩)]
        · ring
        · rintro (hover | ⟨-, hother⟩)
          · linarith
          · exact hodd.mp hother hparity
      · rw [if_pos (.inr ⟨by linarith, hodd.mpr hparity⟩), if_neg]
        · ring
        · rintro (hover | ⟨-, hother⟩)
          · linarith
          · exact hparity hother
    · rw [if_neg, if_pos (.inl hhigh)]
      · ring
      · rintro (hover | ⟨heven, -⟩)
        · linarith
        · linarith

def shownScore (score : ℚ) : ℚ := |halfEven (score * 10000) / 10000|

theorem shownScore_congr {score other : ℚ} (hsame : |other| = |score|) :
    shownScore other = shownScore score := by
  rcases abs_eq_abs.mp hsame with rfl | rfl
  · rfl
  · unfold shownScore
    rw [neg_mul, halfEven_neg, neg_div, abs_neg]

/-! ### One line -/

def Scoring.flags : Scoring ℚ → Bool
  | .scored _ score => !lt (Arithmetic.abs score) (ofDecimal modifiedZThreshold)
  | _ => false

def Scoring.limitations : Scoring ℚ → List String
  | .insufficientHistory => ["statistical_method_unavailable_insufficient_history"]
  | .zeroDeviation => ["statistical_method_unavailable_zero_mad"]
  | .scored _ _ => []

theorem flags_congr {first second : Scoring ℚ} (hsame : SameVerdict first second) :
    second.flags = first.flags := by
  cases hsame with
  | insufficientHistory => rfl
  | zeroDeviation => rfl
  | @scored _ _ score score' hscore =>
      have habs : Arithmetic.abs score' = Arithmetic.abs score := hscore
      unfold Scoring.flags
      simp only
      rw [habs]

def findingKey {N : Type} (finding : Finding N) : Option LineKey := do
  let employee ← finding.employee
  let salaryRule ← finding.salaryRule
  return toLex (employee.id, toLex (salaryRule.id, ← finding.code))

section Line

variable {baseline target : Snapshot} {history : List (List (LineKey × LineAggregate ℚ))}
  {key : LineKey} {value : LineAggregate ℚ}

/-- A line gives a finding if its score flags it. -/
theorem statisticalLine_exact (hvalue : AggregateOf target key value) {outcome : Scoring ℚ}
    (houtcome : scoring ((comparables history key value.currency.id).map (·.total)) value.total =
      .ok outcome) :
    ∃ finding, statisticalLine baseline target history key value =
        .ok (finding, outcome.limitations) ∧
      finding.isSome = outcome.flags ∧
      ∀ found ∈ finding, findingKey found = some key ∧ ∃ center score,
        outcome = .scored center score ∧ found.observedDelta = some (shownScore score) := by
  unfold statisticalLine
  dsimp only
  rw [houtcome]
  cases outcome with
  | insufficientHistory => exact ⟨none, rfl, rfl, by simp⟩
  | zeroDeviation => exact ⟨none, rfl, rfl, by simp⟩
  | scored center score =>
      change ∃ finding,
        (if lt (Arithmetic.abs score) (ofDecimal modifiedZThreshold) then _ else _) =
        Except.ok (finding, _) ∧ _
      unfold Scoring.flags
      split
      · rename_i hbelow
        exact ⟨none, rfl, by simp [hbelow], by simp⟩
      · rename_i hflagged
        refine ⟨_, rfl, by simpa using hflagged, ?_⟩
        rintro found ⟨⟩
        refine ⟨?_, center, score, rfl, rfl⟩
        unfold findingKey
        simp only [Option.bind_eq_bind, Option.bind_some]
        rw [hvalue.employee, hvalue.salaryRule, hvalue.code]
        rfl

end Line

/-! ### All lines -/

def comparableTotals (histories : List Snapshot) (key : LineKey) (currencyId : Int) : List ℚ :=
  histories.filterMap fun snapshot =>
    if (rowsAt lineKey snapshot.lines key).any fun line => line.currency.id = currencyId then
      some (totalOf (lineTotals lineKey snapshot key))
    else
      none

/-- The score of a line that the target has, in the currency of its lines. -/
def scoreOf (target : Snapshot) (histories : List Snapshot) (key : LineKey) :
    Option (Scoring ℚ) := do
  let line ← (rowsAt lineKey target.lines key).head?
  (scoring (comparableTotals histories key line.currency.id)
    (totalOf (lineTotals lineKey target key))).toOption

def flagged (target : Snapshot) (histories : List Snapshot) (key : LineKey) : Bool :=
  (scoreOf target histories key).any Scoring.flags

section Runs

variable {baseline target : Snapshot} {histories : List Snapshot}
  {targetValues : List (LineKey × LineAggregate ℚ)}
  {history : List (List (LineKey × LineAggregate ℚ))}

theorem any_currency {snapshot : Snapshot} {key : LineKey} {aggregate : LineAggregate ℚ}
    (haggregate : AggregateOf snapshot key aggregate) (currencyId : Int) :
    ((rowsAt lineKey snapshot.lines key).any fun line => line.currency.id = currencyId) =
      decide (aggregate.currency.id = currencyId) := by
  rw [← haggregate.lines, Bool.eq_iff_iff, List.any_eq_true, decide_eq_true_eq]
  constructor
  · rintro ⟨line, hline, hcurrency⟩
    rw [← haggregate.currency line hline]
    exact of_decide_eq_true hcurrency
  · intro hcurrency
    obtain ⟨line, hline⟩ := List.exists_mem_of_ne_nil _ haggregate.nonempty
    exact ⟨line, hline, decide_eq_true ((haggregate.currency line hline).trans hcurrency)⟩

theorem comparables_totals (hhistory : histories.mapM lineAggregates = .ok history) (key : LineKey)
    (currencyId : Int) :
    (comparables history key currencyId).map (·.total) =
      comparableTotals histories key currencyId := by
  have hforall := forall₂_of_mapM_ok hhistory
  clear hhistory
  induction hforall with
  | nil => rfl
  | @cons snapshot values histories history hvalues _ ih =>
      have haggregated := lineAggregates_ok hvalues
      unfold comparables comparableTotals at ih ⊢
      rw [List.filterMap_cons, List.filterMap_cons]
      cases hfound : dictGet values key with
      | none =>
          have hnone : rowsAt lineKey snapshot.lines key = [] := by
            rw [rowsAt_eq_nil_iff, ← haggregated.present, hfound]
            exact Bool.false_ne_true
          rw [hnone]
          exact ih
      | some aggregate =>
          have hof := haggregated.found key aggregate hfound
          rw [any_currency hof]
          by_cases hcurrency : aggregate.currency.id = currencyId
          · simp only [Option.filter_some, hcurrency, decide_true, if_true, List.map_cons, ih,
              hof.total]
          · simp only [Option.filter_some, hcurrency, decide_false, Bool.false_eq_true, if_false]
            exact ih

theorem aggregateOf_mem (htarget : lineAggregates target = .ok targetValues)
    {entry : LineKey × LineAggregate ℚ} (hentry : entry ∈ targetValues) :
    AggregateOf target entry.1 entry.2 := by
  obtain ⟨⟨⟩, -, hvalues⟩ := except_bind_ok.mp htarget
  obtain ⟨key, -, hread⟩ := exists_of_forall₂_right (forall₂_of_mapM_ok hvalues) hentry
  obtain ⟨aggregate, haggregate, hdone⟩ := except_bind_ok.mp hread
  cases hdone
  exact lineAggregate_ok haggregate

/-- The score that the loop computes for a line is that of the snapshots. -/
theorem scoreOf_exact (htarget : lineAggregates target = .ok targetValues)
    (hhistory : histories.mapM lineAggregates = .ok history)
    {entry : LineKey × LineAggregate ℚ} (hentry : entry ∈ targetValues) :
    ∃ outcome, scoreOf target histories entry.1 = some outcome ∧
      scoring ((comparables history entry.1 entry.2.currency.id).map (·.total)) entry.2.total =
        .ok outcome := by
  have hof := aggregateOf_mem htarget hentry
  obtain ⟨outcome, houtcome⟩ := scoring_exists
    ((comparables history entry.1 entry.2.currency.id).map (·.total)) entry.2.total
  refine ⟨outcome, ?_, houtcome⟩
  have hne : rowsAt lineKey target.lines entry.1 ≠ [] := hof.lines ▸ hof.nonempty
  have hmem : (rowsAt lineKey target.lines entry.1).head hne ∈ entry.2.lines := by
    rw [hof.lines]
    exact List.head_mem hne
  have hcurrency := hof.currency _ hmem
  rw [comparables_totals hhistory, hof.total] at houtcome
  unfold scoreOf
  rw [List.head?_eq_some_head hne]
  change (scoring (comparableTotals histories entry.1 ((rowsAt lineKey target.lines entry.1).head
    hne).currency.id) _).toOption = _
  rw [hcurrency, houtcome]
  rfl

variable {findings : List (Finding ℚ)} {limits : List String}

/-- What the statistics were made of. -/
theorem statisticalFindings_ok
    (hfound : statisticalFindings baseline target histories = .ok (findings, limits)) :
    ∃ targetValues history results, lineAggregates target = .ok targetValues ∧
      histories.mapM lineAggregates = .ok history ∧
      List.Forall₂ (fun entry result =>
        statisticalLine baseline target history entry.1 entry.2 = .ok result) targetValues results ∧
      findings = (results.map Prod.fst).reduceOption := by
  obtain ⟨targetValues, htarget, hrest⟩ := except_bind_ok.mp hfound
  obtain ⟨history, hhistory, hrest⟩ := except_bind_ok.mp hrest
  obtain ⟨results, hresults, hdone⟩ := except_bind_ok.mp hrest
  cases hdone
  exact ⟨targetValues, history, results, htarget, hhistory, forall₂_of_mapM_ok hresults, rfl⟩

/-- The findings are those of the flagged lines, in the order of their keys. -/
theorem keys_of_findings
    (hfound : statisticalFindings baseline target histories = .ok (findings, limits)) :
    findings.map findingKey =
      ((sortedKeys (target.lines.map lineKey)).filter (flagged target histories)).map some := by
  obtain ⟨targetValues, history, results, htarget, hhistory, hforall, rfl⟩ :=
    statisticalFindings_ok hfound
  have hkeys : targetValues.map Prod.fst = sortedKeys (target.lines.map lineKey) := by
    obtain ⟨⟨⟩, -, hvalues⟩ := except_bind_ok.mp htarget
    exact keys_of_mapM hvalues
  rw [← hkeys]
  have hlines (entry : LineKey × LineAggregate ℚ) (hentry : entry ∈ targetValues) :=
    scoreOf_exact htarget hhistory hentry
  have hof (entry : LineKey × LineAggregate ℚ) (hentry : entry ∈ targetValues) :=
    aggregateOf_mem htarget hentry
  clear hfound htarget hkeys
  induction hforall with
  | nil => rfl
  | @cons entry result targetValues results hresult _ ih =>
      rw [List.forall_mem_cons] at hlines hof
      obtain ⟨outcome, hscore, houtcome⟩ := hlines.1
      obtain ⟨finding, hfinding, hflags, hkey⟩ :
          ∃ finding, statisticalLine baseline target history entry.1 entry.2 =
            .ok (finding, outcome.limitations) ∧ finding.isSome = outcome.flags ∧ _ :=
        statisticalLine_exact hof.1 houtcome
      rw [hfinding] at hresult
      cases hresult
      have hflagged : flagged target histories entry.1 = outcome.flags := by
        rw [flagged, hscore]
        rfl
      rw [List.map_cons, List.map_cons, List.filter_cons, hflagged, ← hflags]
      cases finding with
      | none =>
          rw [List.reduceOption_cons_of_none]
          exact ih hlines.2 hof.2
      | some finding =>
          rw [List.reduceOption_cons_of_some, List.map_cons, (hkey finding rfl).1,
            ih hlines.2 hof.2]
          rfl

/-- What a finding says: a flagged line, with the rounded size of its score. -/
theorem score_of_finding
    (hfound : statisticalFindings baseline target histories = .ok (findings, limits))
    {finding : Finding ℚ} (hfinding : finding ∈ findings) :
    ∃ key center score, findingKey finding = some key ∧
      scoreOf target histories key = some (.scored center score) ∧
        finding.observedDelta = some (shownScore score) := by
  obtain ⟨targetValues, history, results, htarget, hhistory, hforall, rfl⟩ :=
    statisticalFindings_ok hfound
  obtain ⟨result, hresult, hfirst⟩ := List.mem_map.mp (List.reduceOption_mem_iff.mp hfinding)
  obtain ⟨entry, hentry, hread⟩ := exists_of_forall₂_right hforall hresult
  obtain ⟨outcome, hscore, houtcome⟩ := scoreOf_exact htarget hhistory hentry
  obtain ⟨other, hother, -, hkey⟩ :
      ∃ finding, statisticalLine baseline target history entry.1 entry.2 =
        .ok (finding, outcome.limitations) ∧ finding.isSome = outcome.flags ∧ _ :=
    statisticalLine_exact (aggregateOf_mem htarget hentry) houtcome
  rw [hother] at hread
  cases hread
  obtain ⟨hnamed, center, score, rfl, hshown⟩ := hkey finding hfirst
  exact ⟨entry.1, center, score, hnamed, hscore, hshown⟩

theorem statisticalFindings_exists (htarget : ∃ values : List (LineKey × LineAggregate ℚ),
      lineAggregates target = .ok values)
    (hhistories : ∀ snapshot ∈ histories, ∃ values : List (LineKey × LineAggregate ℚ),
      lineAggregates snapshot = .ok values) :
    ∃ findings limits, statisticalFindings (N := ℚ) baseline target histories =
      .ok (findings, limits) := by
  have hexists : ∃ result, statisticalFindings (N := ℚ) baseline target histories = .ok result := by
    refine except_bind_exists htarget fun targetValues htarget => ?_
    refine except_bind_exists (exists_mapM_ok hhistories) fun history hhistory => ?_
    refine except_bind_exists (exists_mapM_ok fun entry hentry => ?_) fun results _ => ⟨_, rfl⟩
    obtain ⟨outcome, -, houtcome⟩ := scoreOf_exact htarget hhistory hentry
    obtain ⟨finding, hfinding, -⟩ :
        ∃ finding, statisticalLine baseline target history entry.1 entry.2 =
          .ok (finding, outcome.limitations) ∧ finding.isSome = outcome.flags ∧ _ :=
      statisticalLine_exact (aggregateOf_mem htarget hentry) houtcome
    exact ⟨_, hfinding⟩
  obtain ⟨⟨findings, limits⟩, hfound⟩ := hexists
  exact ⟨findings, limits, hfound⟩

/-! ### Orders, units and offsets -/

theorem scoreOf_perm {others : List Snapshot} (hperm : histories.Perm others) (key : LineKey) :
    scoreOf target histories key = scoreOf target others key := by
  have htotals (currencyId : Int) : (comparableTotals histories key currencyId).Perm
      (comparableTotals others key currencyId) := hperm.filterMap _
  unfold scoreOf
  refine congrArg _ (funext fun line => ?_)
  rw [scoring_perm (htotals line.currency.id)]

/-- A line is in the same currency in two snapshots, and its total is scaled and moved. -/
structure Rescaled (factor offset : ℚ) (key : LineKey) (snapshot other : Snapshot) : Prop where
  present : key ∈ other.lines.map lineKey ↔ key ∈ snapshot.lines.map lineKey
  currency : ∀ line ∈ rowsAt lineKey snapshot.lines key, ∀ moved ∈ rowsAt lineKey other.lines key,
    moved.currency.id = line.currency.id
  total : key ∈ snapshot.lines.map lineKey →
    totalOf (lineTotals lineKey other key) =
      factor * totalOf (lineTotals lineKey snapshot key) + offset

variable {factor offset : ℚ} {key : LineKey}

theorem exists_rows {snapshot : Snapshot} (hkey : key ∈ snapshot.lines.map lineKey) :
    ∃ line, line ∈ rowsAt lineKey snapshot.lines key := by
  obtain ⟨line, hline, hid⟩ := List.mem_map.mp hkey
  exact ⟨line, mem_rowsAt.mpr ⟨hline, hid⟩⟩

theorem any_currency_rescaled {snapshot other : Snapshot}
    (hrescaled : Rescaled factor offset key snapshot other) (currencyId : Int) :
    ((rowsAt lineKey other.lines key).any fun line => line.currency.id = currencyId) =
      (rowsAt lineKey snapshot.lines key).any fun line => line.currency.id = currencyId := by
  rw [Bool.eq_iff_iff, List.any_eq_true, List.any_eq_true]
  simp only [decide_eq_true_eq]
  constructor
  · rintro ⟨moved, hmoved, rfl⟩
    obtain ⟨hmem, hid⟩ := mem_rowsAt.mp hmoved
    obtain ⟨line, hline⟩ := exists_rows (hrescaled.present.mp (hid ▸ List.mem_map_of_mem hmem))
    exact ⟨line, hline, (hrescaled.currency line hline moved hmoved).symm⟩
  · rintro ⟨line, hline, rfl⟩
    obtain ⟨hmem, hid⟩ := mem_rowsAt.mp hline
    obtain ⟨moved, hmoved⟩ := exists_rows (hrescaled.present.mpr (hid ▸ List.mem_map_of_mem hmem))
    exact ⟨moved, hmoved, hrescaled.currency line hline moved hmoved⟩

theorem comparableTotals_rescaled {others : List Snapshot}
    (hrescaled : List.Forall₂ (Rescaled factor offset key) histories others) (currencyId : Int) :
    comparableTotals others key currencyId =
      (comparableTotals histories key currencyId).map fun total => factor * total + offset := by
  induction hrescaled with
  | nil => rfl
  | @cons snapshot other histories others hrescaled _ ih =>
      unfold comparableTotals at ih ⊢
      rw [List.filterMap_cons, List.filterMap_cons, any_currency_rescaled hrescaled]
      split
      · rename_i hnone
        split at hnone
        · cases hnone
        · rename_i hcurrency
          rw [if_neg hcurrency]
          exact ih
      · rename_i total htotal
        split at htotal
        · rename_i hcurrency
          cases htotal
          obtain ⟨line, hline, -⟩ := List.any_eq_true.mp hcurrency
          obtain ⟨hmem, hid⟩ := mem_rowsAt.mp hline
          rw [if_pos hcurrency, List.map_cons, ← ih,
            hrescaled.total (hid ▸ List.mem_map_of_mem hmem)]
        · cases htotal

/-- The score of a line, and the same one after all its totals are scaled and moved. -/
theorem scoreOf_rescaled (hfactor : factor ≠ 0) {other : Snapshot} {others : List Snapshot}
    (htarget : Rescaled factor offset key target other)
    (hhistories : List.Forall₂ (Rescaled factor offset key) histories others) :
    Option.Rel SameVerdict (scoreOf target histories key) (scoreOf other others key) := by
  cases hhead : (rowsAt lineKey target.lines key).head? with
  | none =>
      have hempty : rowsAt lineKey other.lines key = [] := by
        rw [rowsAt_eq_nil_iff, htarget.present, ← rowsAt_eq_nil_iff]
        exact List.head?_eq_none_iff.mp hhead
      unfold scoreOf
      rw [hhead, hempty]
      exact .none
  | some line =>
      have hline := List.mem_of_mem_head? hhead
      obtain ⟨hmem, hid⟩ := mem_rowsAt.mp hline
      have hkey : key ∈ target.lines.map lineKey := hid ▸ List.mem_map_of_mem hmem
      obtain ⟨moved, hmoved⟩ := exists_rows (htarget.present.mpr hkey)
      obtain ⟨first, hfirst⟩ := Option.isSome_iff_exists.mp
        (List.isSome_head?.mpr (List.ne_nil_of_mem hmoved))
      have hcurrency : first.currency.id = line.currency.id :=
        htarget.currency line hline first (List.mem_of_mem_head? hfirst)
      obtain ⟨outcome, houtcome⟩ := scoring_exists
        (comparableTotals histories key line.currency.id) (totalOf (lineTotals lineKey target key))
      obtain ⟨rescaled, hrescaled⟩ := scoring_exists
        (comparableTotals others key first.currency.id) (totalOf (lineTotals lineKey other key))
      have hscore : scoreOf target histories key = some outcome := by
        unfold scoreOf
        rw [hhead]
        exact congrArg Except.toOption houtcome
      have hmovedScore : scoreOf other others key = some rescaled := by
        unfold scoreOf
        rw [hfirst]
        exact congrArg Except.toOption hrescaled
      rw [hcurrency, comparableTotals_rescaled hhistories, htarget.total hkey] at hrescaled
      rw [hscore, hmovedScore]
      exact .some (scoring_affine hfactor houtcome hrescaled)

/-- A line is flagged with six comparable totals and a deviation only. -/
theorem scored_ok {center score : ℚ}
    (hscore : scoreOf target histories key = some (.scored center score)) :
    ∃ line ∈ rowsAt lineKey target.lines key, ∃ deviation,
      6 ≤ (comparableTotals histories key line.currency.id).length ∧
      Median.median (comparableTotals histories key line.currency.id) = some center ∧
      Median.deviation (comparableTotals histories key line.currency.id) center = some deviation ∧
      deviation ≠ 0 := by
  obtain ⟨line, hline, hscoring⟩ := Option.bind_eq_some_iff.mp hscore
  refine ⟨line, List.mem_of_mem_head? hline, ?_⟩
  by_cases hlength : (comparableTotals histories key line.currency.id).length < 6
  · rw [scoring, if_pos hlength] at hscoring
    cases hscoring
  · obtain ⟨center', deviation, hcenter, hdeviation, houtcome⟩ :=
      scoring_exact hlength (totalOf (lineTotals lineKey target key))
    rw [houtcome] at hscoring
    by_cases hzero : deviation = 0
    · rw [if_pos hzero] at hscoring
      cases hscoring
    · rw [if_neg hzero] at hscoring
      cases hscoring
      exact ⟨deviation, Nat.le_of_not_lt hlength, hcenter, hdeviation, hzero⟩

/-- **Invariance of the statistical findings.** The same lines are flagged in any order of the past
periods. A line whose totals are all scaled and moved is flagged as before, with a score of the same
size. A line is flagged with at least six comparable totals and a deviation that is not zero. -/
theorem statisticalFindings_invariant
    (hfound : statisticalFindings baseline target histories = .ok (findings, limits)) :
    (∀ others, histories.Perm others → ∃ (found : List (Finding ℚ)) (limits' : List String),
      statisticalFindings baseline target others = .ok (found, limits') ∧
        found.map findingKey = findings.map findingKey) ∧
    (∀ key (factor offset : ℚ), factor ≠ 0 →
      ∀ before other others (found : List (Finding ℚ)) (limits' : List String),
      Rescaled factor offset key target other →
      List.Forall₂ (Rescaled factor offset key) histories others →
      statisticalFindings before other others = .ok (found, limits') →
        (some key ∈ found.map findingKey ↔ some key ∈ findings.map findingKey) ∧
        Option.Rel SameVerdict (scoreOf target histories key) (scoreOf other others key) ∧
        ∀ finding ∈ findings, ∀ moved ∈ found, findingKey finding = some key →
          findingKey moved = some key → moved.observedDelta = finding.observedDelta) ∧
    ∀ finding ∈ findings, ∃ key, findingKey finding = some key ∧
      ∃ line ∈ rowsAt lineKey target.lines key, ∃ center deviation,
        6 ≤ (comparableTotals histories key line.currency.id).length ∧
        Median.median (comparableTotals histories key line.currency.id) = some center ∧
        Median.deviation (comparableTotals histories key line.currency.id) center =
          some deviation ∧ deviation ≠ 0 := by
  have hkeys {before snapshot : Snapshot} {past : List Snapshot} {found : List (Finding ℚ)}
      {limits' : List String}
      (hfound : statisticalFindings before snapshot past = .ok (found, limits')) (key : LineKey) :
      some key ∈ found.map findingKey ↔
        key ∈ snapshot.lines.map lineKey ∧ flagged snapshot past key = true := by
    rw [keys_of_findings hfound, List.mem_map_of_injective (Option.some_injective _),
      List.mem_filter, mem_sortedKeys]
  refine ⟨fun others hperm => ?_, fun key factor offset hfactor before other others found limits'
    htarget hhistories hmoved => ?_, fun finding hfinding => ?_⟩
  · obtain ⟨targetValues, history, results, hvalues, hhistory, -⟩ := statisticalFindings_ok hfound
    obtain ⟨found, limits', hothers⟩ : ∃ (found : List (Finding ℚ)) (limits' : List String),
        statisticalFindings baseline target others = .ok (found, limits') :=
      statisticalFindings_exists ⟨targetValues, hvalues⟩ fun snapshot hsnapshot => by
        obtain ⟨values, -, hread⟩ := exists_of_forall₂_left (forall₂_of_mapM_ok hhistory)
          (hperm.mem_iff.mpr hsnapshot)
        exact ⟨values, hread⟩
    refine ⟨found, limits', hothers, ?_⟩
    rw [keys_of_findings hothers, keys_of_findings hfound]
    refine congrArg (List.map some) (List.filter_congr fun key _ => ?_)
    rw [flagged, flagged, scoreOf_perm hperm]
  · have hrelated := scoreOf_rescaled hfactor htarget hhistories
    have hflags : flagged other others key = flagged target histories key := by
      unfold flagged
      generalize scoreOf target histories key = first at hrelated
      generalize scoreOf other others key = second at hrelated
      cases hrelated with
      | none => rfl
      | some hsame => exact flags_congr hsame
    refine ⟨?_, hrelated, fun finding hfinding moved hmem hfirst hsecond => ?_⟩
    · rw [hkeys hmoved, hkeys hfound, htarget.present, hflags]
    · obtain ⟨key', center, score, hkey, hscore, hshown⟩ := score_of_finding hfound hfinding
      obtain ⟨other', center', score', hkey', hscore', hshown'⟩ := score_of_finding hmoved hmem
      obtain rfl := Option.some.inj (hkey.symm.trans hfirst)
      obtain rfl := Option.some.inj (hkey'.symm.trans hsecond)
      rw [hscore, hscore'] at hrelated
      cases hrelated with
      | some hsame =>
          cases hsame with
          | scored hsize => rw [hshown, hshown', shownScore_congr hsize]
  · obtain ⟨key, center, score, hkey, hscore, -⟩ := score_of_finding hfound hfinding
    obtain ⟨line, hline, deviation, hscored⟩ := scored_ok hscore
    exact ⟨key, hkey, line, hline, center, deviation, hscored⟩

end Runs

/-! ### Seven months -/

def monthOfTotal (day : Nat) (total : Decimal) : Snapshot :=
  monthWith day [payslipOf 1 1 0] [slipLine 1 0 1 0 1 total]

def monthlyKey : LineKey := lineKey (slipLine 1 0 1 0 1 .zero)

def pastMonths (change : Int → Int) : List Snapshot :=
  (List.range 6).map fun index => monthOfTotal (30 * index) (.ofInt (change (100 + index)))

/-- A total scaled by minus two and moved by seven. -/
def mirrored (total : Int) : Int := -2 * total + 7

theorem rescaled_monthOfTotal (day : Nat) (total : Int) : Rescaled (-2) 7 monthlyKey
    (monthOfTotal day (.ofInt total)) (monthOfTotal day (.ofInt (mirrored total))) := by
  have hrows (amount : Decimal) : rowsAt lineKey (monthOfTotal day amount).lines monthlyKey =
      [slipLine 1 0 1 0 1 amount] := rfl
  refine ⟨Iff.rfl, fun line hline moved hmoved => ?_, fun _ => ?_⟩
  · rw [hrows, List.mem_singleton] at hline hmoved
    rw [hline, hmoved]
    rfl
  · have htotal (amount : Int) :
        (totalOf (lineTotals lineKey (monthOfTotal day (.ofInt amount)) monthlyKey) : ℚ) =
          amount := by
      rw [lineTotals, hrows, totalOf_exact, List.map_singleton, List.map_singleton,
        List.sum_singleton]
      exact Decimal.value_ofInt amount
    rw [htotal, htotal, mirrored]
    push_cast
    rfl

theorem rescaled_pastMonths :
    List.Forall₂ (Rescaled (-2) 7 monthlyKey) (pastMonths id) (pastMonths mirrored) := by
  unfold pastMonths
  rw [List.forall₂_map_left_iff, List.forall₂_map_right_iff, List.forall₂_same]
  exact fun index _ => rescaled_monthOfTotal (30 * index) (100 + index)

/-- A total of two hundred after six of about a hundred is flagged: in any order of the six, and
also when every total is scaled by minus two and moved by seven. -/
theorem statisticalFindings_invariant_months :
    ∃ (findings found moved : List (Finding ℚ)) (limits limits' limits'' : List String),
      statisticalFindings (monthOfTotal 180 (.ofInt 105)) (monthOfTotal 210 (.ofInt 200))
          (pastMonths id) = .ok (findings, limits) ∧
        statisticalFindings (monthOfTotal 180 (.ofInt 105)) (monthOfTotal 210 (.ofInt 200))
            (pastMonths id).reverse = .ok (found, limits') ∧
          statisticalFindings (monthOfTotal 180 (.ofInt (mirrored 105)))
              (monthOfTotal 210 (.ofInt (mirrored 200))) (pastMonths mirrored) =
                .ok (moved, limits'') ∧
            some monthlyKey ∈ findings.map findingKey ∧
              found.map findingKey = findings.map findingKey ∧
                some monthlyKey ∈ moved.map findingKey ∧
                  ∀ finding ∈ findings, ∀ other ∈ moved, findingKey finding = some monthlyKey →
                    findingKey other = some monthlyKey →
                      other.observedDelta = finding.observedDelta := by
  have hfirst : (statisticalFindings (N := ℚ) (monthOfTotal 180 (.ofInt 105))
      (monthOfTotal 210 (.ofInt 200)) (pastMonths id)).toOption.map
        (fun result => result.1.any fun finding => findingKey finding = some monthlyKey) =
          some true := by decide +kernel
  have hmirrored : (statisticalFindings (N := ℚ) (monthOfTotal 180 (.ofInt (mirrored 105)))
      (monthOfTotal 210 (.ofInt (mirrored 200))) (pastMonths mirrored)).isOk = true := by
    decide +kernel
  obtain ⟨⟨findings, limits⟩, hfound, hany⟩ := ok_of_toOption_map hfirst
  have hkey : some monthlyKey ∈ findings.map findingKey := by
    obtain ⟨finding, hfinding, hnamed⟩ := List.any_eq_true.mp hany
    exact List.mem_map.mpr ⟨finding, hfinding, of_decide_eq_true hnamed⟩
  obtain ⟨⟨moved, limits''⟩, hmoved⟩ := ok_of_isOk hmirrored
  obtain ⟨hpermuted, hrescaled, -⟩ := statisticalFindings_invariant hfound
  obtain ⟨found, limits', hothers, hsame⟩ :=
    hpermuted (pastMonths id).reverse (List.reverse_perm _).symm
  obtain ⟨hflagged, -, hdeltas⟩ := hrescaled monthlyKey (-2) 7 (by norm_num) _ _ _ moved limits''
    (rescaled_monthOfTotal 210 200) rescaled_pastMonths hmoved
  refine ⟨findings, found, moved, limits, limits', limits'', hfound, hothers, hmoved, hkey, hsame,
    hflagged.mpr hkey, hdeltas⟩

end PayrollAnalysis

end OdooMcp
