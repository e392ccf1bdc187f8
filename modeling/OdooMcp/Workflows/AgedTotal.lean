import OdooMcp.Workflows.AsOfReports

/-!
# The aged total and the ledger

Every reconciliation takes from one line of its type what it takes from another, so that the
residuals of a day sum to the balances up to the day. The trial balance counts the lines of its
period by their debits and credits instead.
-/

namespace OdooMcp

open Arithmetic Residuals Ledger

namespace Reports

/-! ### The aged total -/

theorem agedBalanceOf_total {casefold : String → String} {asOfDate : Date}
    {lines : List AccountMoveLine} {later : List PartialReconciliation}
    {residual : AccountMoveLine → ℚ} {report : WholeReport (AgingItem ℚ) (AgingSummary ℚ)}
    (hresiduals : ∀ line ∈ lines, agingResiduals lines later line.id = some (residual line))
    (hreport : agedBalanceOf casefold asOfDate lines later = .ok report) :
    report.summary.residualTotal = (lines.map residual).sum := by
  unfold agedBalanceOf at hreport
  obtain ⟨grouped, hgrouped, hrest⟩ := except_bind_ok.mp hreport
  obtain ⟨found, hfound, hdone⟩ := except_bind_ok.mp hrest
  cases hdone
  obtain ⟨-, -, hassigned⟩ := keys_agingLines hresiduals hgrouped List.nodup_nil
  have hitems : found.map (·.residualTotal) = grouped.map fun entry => entry.2.total := by
    refine map_of_forall₂ (forall₂_of_mapM_ok hfound) fun entry item hitem => ?_
    obtain ⟨oldest, -, hdone⟩ := except_bind_ok.mp hitem
    cases hdone
    rfl
  have hperm : (sortedAgingItems casefold found).Perm found := List.perm_insertionSort _ _
  have hweigh := weigh_agingLines (fun _ accumulator => accumulator.total)
    (fun _ line => residual line) (fun _ _ _ => total_exact []) (fun _ _ _ => rfl) hresiduals
    hgrouped
  have hadded : lines.map (addedBy residual fun _ line => residual line) = lines.map residual := by
    refine List.map_congr_left fun line hline => ?_
    unfold addedBy
    split
    · rename_i hzero
      exact hzero.symm
    · rename_i hopen
      obtain ⟨partner, hpartner⟩ := Option.isSome_iff_exists.mp (hassigned line hline hopen)
      rw [hpartner]
      rfl
  rw [hadded] at hweigh
  calc (agingSummary (sortedAgingItems casefold found)).residualTotal
      = ((sortedAgingItems casefold found).map (·.residualTotal)).sum := total_exact _
    _ = (found.map (·.residualTotal)).sum := (hperm.map _).sum_eq
    _ = Tally.weigh (fun _ accumulator => accumulator.total) grouped := by rw [hitems]; rfl
    _ = (lines.map residual).sum := hweigh.trans (zero_add _)

/-! ### Reconciliations within some lines -/

theorem sum_sideOf {side : PartialReconciliation → RelatedRecord}
    {amount : PartialReconciliation → ℚ} {lines : List AccountMoveLine}
    (hids : (lines.map (·.id)).Nodup) (reconciliations : List PartialReconciliation) :
    (lines.map fun line => sideOf side amount reconciliations line.id).sum =
      ((reconciliations.filter fun item => (side item).id ∈ lines.map (·.id)).map amount).sum := by
  rw [← Tally.sum_fibers hids, List.map_map]
  rfl

/-- Reconciliations with both sides or none among some lines leave their balances. -/
theorem sum_companyOpen {lines : List AccountMoveLine} (hids : (lines.map (·.id)).Nodup)
    {reconciliations : List PartialReconciliation}
    (hwithin : ∀ item ∈ reconciliations,
      item.debitMoveLine.id ∈ lines.map (·.id) ↔ item.creditMoveLine.id ∈ lines.map (·.id)) :
    (lines.map (companyOpen reconciliations)).sum = sumOf (·.balance) lines := by
  have hsame : (reconciliations.filter fun item => item.debitMoveLine.id ∈ lines.map (·.id)) =
      reconciliations.filter fun item => item.creditMoveLine.id ∈ lines.map (·.id) :=
    List.filter_congr fun item hitem => decide_eq_decide.mpr (hwithin item hitem)
  have hsplit (rest : List AccountMoveLine) :
      (rest.map (companyOpen reconciliations)).sum = sumOf (·.balance) rest -
          (rest.map fun line => sideOf (·.debitMoveLine) (·.amount.value) reconciliations
            line.id).sum +
        (rest.map fun line => sideOf (·.creditMoveLine) (·.amount.value) reconciliations
          line.id).sum := by
    induction rest with
    | nil => simp [sumOf]
    | cons line rest ih =>
        simp only [List.map_cons, List.sum_cons, sumOf_cons, ih, companyOpen, openOf]
        ring
  rw [hsplit, sum_sideOf hids, sum_sideOf hids, hsame, sub_add_cancel]

/-! ### The closings -/

/-- A line counts for the closing by its balance before the period, by its debit and credit
after. -/
def closingOf (periodStart : Date) (line : AccountMoveLine) : ℚ :=
  if line.date.ordinal < periodStart.ordinal then line.balance.value
  else line.debit.value - line.credit.value

theorem closing_of_lines (periodStart : Date) (lines : List AccountMoveLine) (identifier : Int)
    (account : Account) :
    (trialBalanceItem identifier account
      (accountValues periodStart lines identifier)).closingBalance =
      ((lines.filter fun line => line.account.id = identifier).map
        (closingOf periodStart)).sum := by
  rw [accountValues_exact]
  change _ + _ - _ = _
  induction lines with
  | nil => simp [sumOf]
  | cons line lines ih =>
      rw [sumOf_filter_cons, sumOf_filter_cons, sumOf_filter_cons, List.filter_cons]
      by_cases haccount : line.account.id = identifier
      · rw [if_pos (decide_eq_true haccount), List.map_cons, List.sum_cons, ← ih]
        unfold closingOf
        by_cases hbefore : line.date.ordinal < periodStart.ordinal
        · simp only [haccount, hbefore, Nat.not_le.mpr hbefore, decide_true, decide_false,
            Bool.and_true, Bool.and_false, if_true, if_false, Bool.false_eq_true]
          ring
        · simp only [haccount, hbefore, Nat.not_lt.mp hbefore, decide_true, decide_false,
            Bool.and_true, Bool.and_false, if_true, if_false, Bool.false_eq_true]
          ring
      · rw [if_neg fun htrue => haccount (of_decide_eq_true htrue), ← ih]
        simp only [haccount, decide_false, Bool.false_and, Bool.false_eq_true, if_false, zero_add]

variable {casefold : String → String} {ledger : Ledger}

/-- The closings of some accounts count each line of these accounts once. -/
theorem closings_total {request : TrialBalanceInput}
    {report : WholeReport (TrialBalanceItem ℚ) (TrialBalanceSummary ℚ)}
    (hreport : ledger.report (trialBalance casefold request) = .ok report) (selects : Int → Bool) :
    ((report.items.filter fun item => selects item.accountId).map (·.closingBalance)).sum =
      (((trialBalanceLines ledger request).filter fun line => selects line.account.id).map
        (closingOf request.periodStart)).sum := by
  obtain ⟨found, hperm, hforall, -⟩ := trialBalanceOf_ok (trialBalance_report.mp hreport)
  have hmem (line : AccountMoveLine) (hline : line ∈ trialBalanceLines ledger request) :
      line.account.id ∈ trialBalanceAccounts request (trialBalanceLines ledger request) :=
    mem_trialBalanceAccounts.mpr (.inr ⟨line, hline, rfl⟩)
  have hnodup : (trialBalanceAccounts request (trialBalanceLines ledger request)).Nodup :=
    (List.perm_insertionSort _ _).nodup_iff.mpr (List.nodup_dedup _)
  generalize trialBalanceLines ledger request = lines at hforall hmem hnodup ⊢
  generalize trialBalanceAccounts request lines = accountIds at hforall hmem hnodup
  have hitems : (found.map fun item => if selects item.accountId then item.closingBalance else 0) =
      accountIds.map fun identifier => if selects identifier then
        ((lines.filter fun line => line.account.id = identifier).map
          (closingOf request.periodStart)).sum else 0 := by
    refine map_of_forall₂ hforall fun identifier item hitem => ?_
    obtain ⟨account, -, rfl⟩ := hitem
    rw [closing_of_lines]
    rfl
  have hfilter : (lines.filter fun line => line.account.id ∈ accountIds.filter selects) =
      lines.filter fun line => selects line.account.id := by
    refine List.filter_congr fun line hline => ?_
    simp [List.mem_filter, hmem line hline]
  calc ((report.items.filter fun item => selects item.accountId).map (·.closingBalance)).sum
      = (report.items.map fun item =>
        if selects item.accountId then item.closingBalance else 0).sum :=
        (Tally.sum_selected _ _ _).symm
    _ = (found.map fun item => if selects item.accountId then item.closingBalance else 0).sum :=
        (hperm.map _).sum_eq
    _ = ((accountIds.filter selects).map fun identifier =>
          ((lines.filter fun line => line.account.id = identifier).map
            (closingOf request.periodStart)).sum).sum := by
        rw [hitems, Tally.sum_selected]
    _ = ((lines.filter fun line => selects line.account.id).map
          (closingOf request.periodStart)).sum := by
        rw [Tally.sum_fibers (hnodup.filter _), hfilter]

/-! ### The two totals -/

/-- The closings that a trial balance reports for the accounts of a type. -/
def typeClosings (ledger : Ledger) (accountType : String)
    (report : WholeReport (TrialBalanceItem ℚ) (TrialBalanceSummary ℚ)) : ℚ :=
  ((report.items.filter fun item => ledger.accountType? item.accountId = some accountType).map
    (·.closingBalance)).sum

def typePeriodLines (ledger : Ledger) (accountType : String) (request : TrialBalanceInput) :
    List AccountMoveLine :=
  ledger.lines.filter fun line => line.moveState = .posted &&
    ledger.accountType? line.account.id = some accountType &&
    request.periodStart.ordinal ≤ line.date.ordinal && line.date.ordinal ≤ request.periodEnd.ordinal

/-- The balances of the lines of a type in the period sum to their debits less their credits. -/
def TypePeriodAgrees (ledger : Ledger) (accountType : String)
    (request : TrialBalanceInput) : Prop :=
  let lines := typePeriodLines ledger accountType request
  sumOf (·.balance) lines = sumOf (·.debit) lines - sumOf (·.credit) lines

/-- A line is posted and of a type. -/
def IsPosted (ledger : Ledger) (accountType : String) (line : AccountMoveLine) : Prop :=
  line ∈ ledger.lines ∧ line.moveState = .posted ∧
    ledger.accountType? line.account.id = some accountType

/-- A reconciliation that has a side of a type has both sides of it, and is of the later day. -/
def WithinType (ledger : Ledger) (accountType : String) : Prop :=
  ∀ item ∈ ledger.partials, ∀ line ∈ ledger.lines,
    ledger.accountType? line.account.id = some accountType →
    (line.id = item.debitMoveLine.id ∨ line.id = item.creditMoveLine.id) →
    ∃ debit credit, IsPosted ledger accountType debit ∧ IsPosted ledger accountType credit ∧
      debit.id = item.debitMoveLine.id ∧ credit.id = item.creditMoveLine.id ∧
      item.maxDate.ordinal = max debit.date.ordinal credit.date.ordinal

variable {payable : Bool} {aging : AgingInput} {trial : TrialBalanceInput}

theorem mem_agingLines {line : AccountMoveLine} (hpartners : aging.partnerIds = []) :
    line ∈ ledger.agingLines aging payable ↔ IsPosted ledger (ageingType payable) line ∧
      line.date.ordinal ≤ aging.asOfDate.ordinal := by
  rw [Ledger.agingLines, List.mem_filter, hpartners]
  simp only [IsPosted, List.isEmpty_nil, Bool.true_or, Bool.and_true, Bool.and_eq_true,
    decide_eq_true_eq]
  tauto

/-- Up to the day, both sides of a reconciliation are among the lines, or none. -/
theorem sides_agingLines (hwithin : WithinType ledger (ageingType payable))
    (hpartners : aging.partnerIds = []) {item : PartialReconciliation}
    (hitem : item ∈ ledger.partialsUpTo aging.asOfDate) :
    item.debitMoveLine.id ∈ (ledger.agingLines aging payable).map (·.id) ↔
      item.creditMoveLine.id ∈ (ledger.agingLines aging payable).map (·.id) := by
  obtain ⟨hlisted, hdate⟩ := List.mem_filter.mp hitem
  rw [decide_eq_true_eq] at hdate
  have hboth : ∀ line ∈ ledger.agingLines aging payable,
      (line.id = item.debitMoveLine.id ∨ line.id = item.creditMoveLine.id) →
      item.debitMoveLine.id ∈ (ledger.agingLines aging payable).map (·.id) ∧
        item.creditMoveLine.id ∈ (ledger.agingLines aging payable).map (·.id) := by
    intro line hline hside
    obtain ⟨⟨hmem, -, htype⟩, -⟩ := (mem_agingLines hpartners).mp hline
    obtain ⟨debit, credit, hdebit, hcredit, hdebitId, hcreditId, hmax⟩ :=
      hwithin item hlisted line hmem htype hside
    rw [← hdebitId, ← hcreditId]
    exact ⟨List.mem_map_of_mem ((mem_agingLines hpartners).mpr ⟨hdebit, by omega⟩),
      List.mem_map_of_mem ((mem_agingLines hpartners).mpr ⟨hcredit, by omega⟩)⟩
  constructor
  · intro hdebit
    obtain ⟨line, hline, hid⟩ := List.mem_map.mp hdebit
    exact (hboth line hline (.inl hid)).2
  · intro hcredit
    obtain ⟨line, hline, hid⟩ := List.mem_map.mp hcredit
    exact (hboth line hline (.inr hid)).1

/-- The lines that both reports count are the same. -/
theorem agingLines_eq (hpartners : aging.partnerIds = []) (hend : trial.periodEnd = aging.asOfDate)
    (hcovers : ∀ accountId, ledger.accountType? accountId = some (ageingType payable) →
      Covers trial accountId) :
    ((trialBalanceLines ledger trial).filter fun line =>
      ledger.accountType? line.account.id = some (ageingType payable)) =
        ledger.agingLines aging payable := by
  rw [trialBalanceLines, Ledger.agingLines, List.filter_filter, hpartners, hend]
  refine List.filter_congr fun line _ => ?_
  by_cases htype : ledger.accountType? line.account.id = some (ageingType payable)
  · rw [htype, covers_iff.mp (hcovers _ htype)]
    simp
  · simp [htype]

/-- Before the period a line closes with its balance. -/
theorem sum_closingOf (periodStart : Date) (lines : List AccountMoveLine) :
    (lines.map (closingOf periodStart)).sum = sumOf (·.balance) lines -
      sumOf (·.balance) (lines.filter fun line => periodStart.ordinal ≤ line.date.ordinal) +
      (sumOf (·.debit) (lines.filter fun line => periodStart.ordinal ≤ line.date.ordinal) -
        sumOf (·.credit) (lines.filter fun line => periodStart.ordinal ≤ line.date.ordinal)) := by
  induction lines with
  | nil => simp [sumOf]
  | cons line lines ih =>
      rw [List.map_cons, List.sum_cons, ih, sumOf_cons, sumOf_filter_cons, sumOf_filter_cons,
        sumOf_filter_cons]
      unfold closingOf
      by_cases hbefore : line.date.ordinal < periodStart.ordinal
      · simp only [hbefore, Nat.not_le.mpr hbefore, decide_false, Bool.false_eq_true, if_true,
          if_false]
        ring
      · simp only [hbefore, Nat.not_lt.mp hbefore, decide_true, if_true, if_false]
        ring

/-- **The aged total is the ledger's, where the amounts agree.** The residuals of a day sum to the
closings of the receivable (payable) accounts on that day if and only if the balances of these
accounts' lines in the period of the trial balance sum to their debits less their credits. -/
theorem aged_total_eq_closings_iff
    {aged : WholeReport (AgingItem ℚ) (AgingSummary ℚ)}
    {balances : WholeReport (TrialBalanceItem ℚ) (TrialBalanceSummary ℚ)}
    (hreconciled : ledger.CompanyReconciled (ageingType payable))
    (hwithin : WithinType ledger (ageingType payable)) (hpartners : aging.partnerIds = [])
    (hend : trial.periodEnd = aging.asOfDate)
    (hcovers : ∀ accountId, ledger.accountType? accountId = some (ageingType payable) →
      Covers trial accountId)
    (haged : ledger.report (agedBalance casefold aging payable) = .ok aged)
    (hbalances : ledger.report (trialBalance casefold trial) = .ok balances) :
    aged.summary.residualTotal = typeClosings ledger (ageingType payable) balances ↔
      TypePeriodAgrees ledger (ageingType payable) trial := by
  have htotal : aged.summary.residualTotal =
      sumOf (·.balance) (ledger.agingLines aging payable) := by
    rw [Ledger.agedBalance_report] at haged
    rw [agedBalanceOf_total (fun line hline => Ledger.agingResiduals_eq hreconciled hline) haged]
    exact sum_companyOpen (Ledger.nodup_filter_lines _)
      fun item hitem => sides_agingLines hwithin hpartners hitem
  have hclosings := closings_total hbalances fun accountId =>
    ledger.accountType? accountId = some (ageingType payable)
  rw [agingLines_eq hpartners hend hcovers, sum_closingOf] at hclosings
  have hperiod : ((ledger.agingLines aging payable).filter fun line =>
      trial.periodStart.ordinal ≤ line.date.ordinal) =
        typePeriodLines ledger (ageingType payable) trial := by
    rw [Ledger.agingLines, typePeriodLines, List.filter_filter, hpartners, hend]
    refine List.filter_congr fun line _ => ?_
    rw [Bool.eq_iff_iff]
    simp only [List.isEmpty_nil, Bool.true_or, Bool.and_true, Bool.and_eq_true, decide_eq_true_eq]
    tauto
  rw [hperiod] at hclosings
  unfold typeClosings TypePeriodAgrees
  rw [hclosings, htotal]
  constructor
  · intro hequal
    simp only
    linarith
  · intro hagrees
    simp only at hagrees
    linarith

/-- The period in which the payment of a receivable is booked. -/
def paidPeriod : TrialBalanceInput := ⟨1, ⟨739021⟩, ⟨739050⟩, [31], 100, none, by simp⟩

/-- An invoice of ten with a payment of four in the period: both reports show six. -/
theorem aged_total_eq_closings_paid :
    let ledger := paidLedger ⟨false, 10, 0⟩ ⟨false, 6, 0⟩ ⟨false, 4, 0⟩
    ∃ aged balances,
      ledger.report (agedBalance id { paidRequest with asOfDate := ⟨739050⟩ } false) = .ok aged ∧
      ledger.report (trialBalance id paidPeriod) = .ok balances ∧
      aged.summary.residualTotal = typeClosings ledger (ageingType false) balances := by
  intro ledger
  have haged : (ledger.report (agedBalance (N := ℚ) id
      { paidRequest with asOfDate := ⟨739050⟩ } false)).isOk = true := by decide +kernel
  have hbalances : (ledger.report (trialBalance (N := ℚ) id paidPeriod)).isOk = true := by
    decide +kernel
  obtain ⟨aged, haged⟩ := ok_of_isOk haged
  obtain ⟨balances, hbalances⟩ := ok_of_isOk hbalances
  have hreconciled : ledger.CompanyReconciled (ageingType false) :=
    (Ledger.paidLedger_reconciled (by decide +kernel) (by decide +kernel)).company
  have hposted : ∀ line ∈ ledger.lines, IsPosted ledger (ageingType false) line := by
    intro line hline
    refine ⟨hline, ?_⟩
    simp only [ledger, Ledger.paidLedger, List.mem_cons, List.not_mem_nil, or_false] at hline
    rcases hline with rfl | rfl <;> exact ⟨rfl, by decide +kernel⟩
  have hwithin : WithinType ledger (ageingType false) := by
    intro item hitem _ _ _ _
    rw [List.mem_singleton.mp hitem]
    exact ⟨_, _, hposted _ List.mem_cons_self,
      hposted _ (List.mem_cons_of_mem _ List.mem_cons_self),
      rfl, rfl, rfl⟩
  have hcovers : ∀ accountId, ledger.accountType? accountId = some (ageingType false) →
      Covers paidPeriod accountId := by
    intro accountId htype
    obtain ⟨account, haccount, -⟩ := Option.map_eq_some_iff.mp htype
    have hid : account.id = accountId := by simpa using List.find?_some haccount
    have hsame : account = bookedAccount 30 "121000" "asset_receivable" :=
      List.mem_singleton.mp (List.mem_of_find?_eq_some haccount)
    rw [← hid, hsame]
    exact .inr List.mem_cons_self
  refine ⟨aged, balances, haged, hbalances,
    (aged_total_eq_closings_iff hreconciled hwithin rfl rfl hcovers haged hbalances).mpr ?_⟩
  unfold TypePeriodAgrees
  decide +kernel

/-- A line whose balance is not its debit less its credit: both reports are accepted, the aged total
is seven and the receivable closes with ten. -/
theorem aged_total_ne_closings_booked :
    ¬∀ (ledger : Ledger) (payable : Bool) (aging : AgingInput) (trial : TrialBalanceInput)
      (aged : WholeReport (AgingItem ℚ) (AgingSummary ℚ))
      (balances : WholeReport (TrialBalanceItem ℚ) (TrialBalanceSummary ℚ)),
      ledger.CompanyReconciled (ageingType payable) → WithinType ledger (ageingType payable) →
      aging.partnerIds = [] → trial.periodEnd = aging.asOfDate →
      (∀ accountId, ledger.accountType? accountId = some (ageingType payable) →
        Covers trial accountId) →
      ledger.report (agedBalance id aging payable) = .ok aged →
      ledger.report (trialBalance id trial) = .ok balances →
      aged.summary.residualTotal = typeClosings ledger (ageingType payable) balances := by
  intro hequal
  have haged : ((bookedLedger ⟨false, 7, 0⟩).report (agedBalance (N := ℚ) id paidRequest
      false)).toOption.map (·.summary.residualTotal) = some 7 := by decide +kernel
  have hclosings : ((bookedLedger ⟨false, 7, 0⟩).report (trialBalance (N := ℚ) id
      (bookedPeriod 0))).toOption.map
        (typeClosings (bookedLedger ⟨false, 7, 0⟩) (ageingType false)) = some 10 := by
    decide +kernel
  have hreconciled : (bookedLedger ⟨false, 7, 0⟩).CompanyReconciled (ageingType false) := by
    intro line hline _
    simp only [bookedLedger, List.mem_cons, List.not_mem_nil, or_false] at hline
    rcases hline with rfl | rfl <;>
      simp [companyOpen, openOf, sideOf, bookedLedger, bookedLine]
  have hwithin : WithinType (bookedLedger ⟨false, 7, 0⟩) (ageingType false) := by
    intro item hitem
    cases hitem
  cases haccepted : (bookedLedger ⟨false, 7, 0⟩).report (agedBalance (N := ℚ) id paidRequest
      false) with
  | error error =>
      rw [haccepted] at haged
      cases haged
  | ok aged =>
      cases hbalanced : (bookedLedger ⟨false, 7, 0⟩).report (trialBalance (N := ℚ) id
          (bookedPeriod 0)) with
      | error error =>
          rw [hbalanced] at hclosings
          cases hclosings
      | ok balances =>
          rw [haccepted] at haged
          rw [hbalanced] at hclosings
          have htotal : aged.summary.residualTotal = 7 := Option.some.inj haged
          have hclosing : typeClosings (bookedLedger ⟨false, 7, 0⟩) (ageingType false) balances =
              10 := Option.some.inj hclosings
          have hsame := hequal _ false paidRequest
            (bookedPeriod 0) aged balances hreconciled hwithin
            rfl rfl (fun _ _ => .inl rfl) haccepted hbalanced
          rw [htotal, hclosing] at hsame
          norm_num at hsame

end Reports

end OdooMcp
