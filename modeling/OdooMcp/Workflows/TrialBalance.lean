import OdooMcp.Adapters.PagedReads
import OdooMcp.DecimalSums
import OdooMcp.Workflows.ReportReads

/-!
# The trial balance

The opening of an account is summed from the balances of its lines before the period, its closing
from the opening and the debits and credits of the lines within. The closing of a period is
therefore the opening of the next one where the balances of the period's lines sum to their debits
less their credits, which this report does not check, as long as no sum is rounded.
-/

namespace OdooMcp

namespace Reports

open Arithmetic Effect

structure TrialBalanceInput where
  companyId : Int
  periodStart : Date
  periodEnd : Date
  accountIds : List Int
  limit : Nat
  cursor : Option String
  ordered : periodStart.ordinal ≤ periodEnd.ordinal

structure TrialBalanceItem (N : Type) where
  accountId : Int
  code : String
  name : String
  openingBalance : N
  periodDebit : N
  periodCredit : N
  closingBalance : N

structure TrialBalanceSummary (N : Type) where
  accountCount : Nat
  openingBalance : N
  periodDebit : N
  periodCredit : N
  closingBalance : N

/-- A report with all its items, before a page of them is selected. -/
structure WholeReport (Item Summary : Type) where
  items : List Item
  summary : Summary

structure AccountValues (N : Type) where
  opening : N
  debit : N
  credit : N

def accountsUnavailable : PyException :=
  .odooMcpError ⟨.accountNotFound, "One or more requested accounts are unavailable.",
    "Use account IDs available to the authorized company and retry."⟩

def trialBalanceUnreconciled : PyException :=
  .odooMcpError ⟨.odooApiError, "The full-company trial balance did not reconcile.",
    "Check Odoo record access and accounting data, then retry."⟩

/-- What a lookup in a dictionary raises. -/
def missingKey : PyException := .exception "KeyError"

/-- `{account.id: account for account in accounts}` -/
def accountById (accounts : List Account) (identifier : Int) : Option Account :=
  accounts.reverse.find? (·.id = identifier)

/-- `(code.casefold(), identifier)` of an item is at most that of another. -/
def codeBefore (first second : String × Int) : Bool :=
  first.1 < second.1 || (first.1 = second.1 && first.2 ≤ second.2)

variable {N : Type} [Arithmetic N]

/-- A line counts for the opening before the period, and by its debit and credit after. -/
def AccountValues.addLine (periodStart : Date) (line : AccountMoveLine) (values : AccountValues N) :
    AccountValues N :=
  if line.date.ordinal < periodStart.ordinal then
    { values with opening := add values.opening (ofDecimal line.balance) }
  else
    { values with
      debit := add values.debit (ofDecimal line.debit)
      credit := add values.credit (ofDecimal line.credit) }

def accountValues (periodStart : Date) (lines : List AccountMoveLine) : Int → AccountValues N :=
  lines.foldl (fun values line => Function.update values line.account.id
    ((values line.account.id).addLine periodStart line)) fun _ => ⟨zero, zero, zero⟩

def trialBalanceItem (identifier : Int) (account : Account) (value : AccountValues N) :
    TrialBalanceItem N :=
  ⟨identifier, account.code, account.name, value.opening, value.debit, value.credit,
    sub (add value.opening value.debit) value.credit⟩

def sortedTrialItems (casefold : String → String) (items : List (TrialBalanceItem N)) :
    List (TrialBalanceItem N) :=
  items.insertionSort fun first second =>
    codeBefore (casefold first.code, first.accountId) (casefold second.code, second.accountId)

def trialBalanceSummary (items : List (TrialBalanceItem N)) : TrialBalanceSummary N :=
  ⟨items.length, total (items.map (·.openingBalance)), total (items.map (·.periodDebit)),
    total (items.map (·.periodCredit)), total (items.map (·.closingBalance))⟩

def TrialBalanceSummary.reconciles (summary : TrialBalanceSummary N) : Bool :=
  same summary.openingBalance zero && same summary.periodDebit summary.periodCredit &&
    same summary.closingBalance zero

def trialBalanceAccounts (request : TrialBalanceInput) (lines : List AccountMoveLine) : List Int :=
  sortedSet (request.accountIds ++ lines.map (·.account.id))

def trialBalanceFilters (request : TrialBalanceInput) : List FilterClause :=
  [⟨"move_id.state", "=", .text "posted"⟩, ⟨"date", "<=", .date request.periodEnd⟩,
      ⟨"account_id", "!=", .flag false⟩] ++
    if request.accountIds.isEmpty then []
    else [⟨"account_id", "in", .tuple (request.accountIds.map .int)⟩]

def trialBalanceOf (casefold : String → String) (request : TrialBalanceInput)
    (lines : List AccountMoveLine) (accounts : List Account) :
    Except PyException (WholeReport (TrialBalanceItem N) (TrialBalanceSummary N)) := do
  let accountIds := trialBalanceAccounts request lines
  ensure (accountIds = sortedSet (accounts.map (·.id))) accountsUnavailable
  let values := accountValues request.periodStart lines
  let found ← accountIds.mapM fun identifier => do
    let account ← orRaise (accountById accounts identifier) missingKey
    return trialBalanceItem identifier account (values identifier)
  let items := sortedTrialItems casefold found
  let summary := trialBalanceSummary items
  ensure (!request.accountIds.isEmpty || summary.reconciles) trialBalanceUnreconciled
  return ⟨items, summary⟩

/-- `get_trial_balance`, with all its items. -/
def trialBalance (casefold : String → String) (request : TrialBalanceInput) :
    ReportProgram (WholeReport (TrialBalanceItem N) (TrialBalanceSummary N)) := do
  let lines ← Program.call (S := reportReads) (.moveLines (trialBalanceFilters request))
  let accounts ← Program.call (S := reportReads)
    (.accounts (trialBalanceAccounts request lines))
  Program.ofExcept (trialBalanceOf casefold request lines accounts)

/-! ### What it reports -/

variable {casefold : String → String} {request : TrialBalanceInput} {lines : List AccountMoveLine}
  {accounts : List Account}
  {report : WholeReport (TrialBalanceItem N) (TrialBalanceSummary N)}

/-- There is one item for each account, made from the values of its lines. -/
theorem trialBalanceOf_ok (hreport : trialBalanceOf casefold request lines accounts = .ok report) :
    ∃ found, report.items.Perm found ∧
      List.Forall₂ (fun identifier item => ∃ account, accountById accounts identifier =
        some account ∧
          item = trialBalanceItem identifier account
            (accountValues request.periodStart lines identifier))
        (trialBalanceAccounts request lines) found ∧
      report.summary = trialBalanceSummary report.items ∧
      (request.accountIds = [] → report.summary.reconciles = true) := by
  unfold trialBalanceOf at hreport
  obtain ⟨-, -, hrest⟩ := except_bind_ok.mp hreport
  obtain ⟨found, hfound, hrest⟩ := except_bind_ok.mp hrest
  obtain ⟨_, hreconciles, hdone⟩ := except_bind_ok.mp hrest
  cases hdone
  refine ⟨found, List.perm_insertionSort _ _, (forall₂_of_mapM_ok hfound).imp ?_, rfl, ?_⟩
  · intro identifier item hitem
    obtain ⟨account, haccount, hdone⟩ := except_bind_ok.mp hitem
    cases hdone
    exact ⟨account, orRaise_ok.mp haccount, rfl⟩
  · intro hall
    rw [ensure_ok, hall] at hreconciles
    exact hreconciles

theorem mem_trialBalanceAccounts {identifier : Int} :
    identifier ∈ trialBalanceAccounts request lines ↔
      identifier ∈ request.accountIds ∨ ∃ line ∈ lines, line.account.id = identifier := by
  rw [trialBalanceAccounts, AccountingReader.mem_sortedSet, List.mem_append, List.mem_map]

theorem mem_trialBalance (hreport : trialBalanceOf casefold request lines accounts = .ok report)
    {item : TrialBalanceItem N} (hitem : item ∈ report.items) :
    item.accountId ∈ trialBalanceAccounts request lines ∧ ∃ account,
      item = trialBalanceItem item.accountId account
        (accountValues request.periodStart lines item.accountId) := by
  obtain ⟨found, hperm, hforall, -⟩ := trialBalanceOf_ok hreport
  obtain ⟨identifier, hidentifier, account, -, rfl⟩ :=
    exists_of_forall₂_right hforall (hperm.mem_iff.mp hitem)
  exact ⟨hidentifier, account, rfl⟩

theorem exists_trialBalance (hreport : trialBalanceOf casefold request lines accounts = .ok report)
    {identifier : Int} (hidentifier : identifier ∈ trialBalanceAccounts request lines) :
    ∃ item ∈ report.items, item.accountId = identifier := by
  obtain ⟨found, hperm, hforall, -⟩ := trialBalanceOf_ok hreport
  obtain ⟨item, hitem, account, -, rfl⟩ := exists_of_forall₂_left hforall hidentifier
  exact ⟨_, hperm.mem_iff.mpr hitem, rfl⟩

/-! ### The values of an account -/

theorem foldl_map_filter (selects : AccountMoveLine → Bool) (amount : AccountMoveLine → Decimal)
    (line : AccountMoveLine) (lines : List AccountMoveLine) (start : N) :
    (((line :: lines).filter selects).map fun line =>
      (ofDecimal (amount line) : N)).foldl add start =
      ((lines.filter selects).map fun line => (ofDecimal (amount line) : N)).foldl add
        (if selects line then add start (ofDecimal (amount line)) else start) := by
  rw [List.filter_cons]
  cases selects line with
  | true => rfl
  | false => rfl

/-- The values of an account are totals of the amounts of its lines. -/
theorem accountValues_eq (periodStart : Date) (lines : List AccountMoveLine) (identifier : Int) :
    accountValues (N := N) periodStart lines identifier =
      ⟨total ((lines.filter fun line =>
          line.account.id = identifier && line.date.ordinal < periodStart.ordinal).map
            fun line => ofDecimal line.balance),
        total ((lines.filter fun line =>
          line.account.id = identifier && periodStart.ordinal ≤ line.date.ordinal).map
            fun line => ofDecimal line.debit),
        total ((lines.filter fun line =>
          line.account.id = identifier && periodStart.ordinal ≤ line.date.ordinal).map
            fun line => ofDecimal line.credit)⟩ := by
  have hfold (start : Int → AccountValues N) :
      lines.foldl (fun values line => Function.update values line.account.id
          ((values line.account.id).addLine periodStart line)) start identifier =
        ⟨((lines.filter fun line =>
            line.account.id = identifier && line.date.ordinal < periodStart.ordinal).map
              fun line => ofDecimal line.balance).foldl add (start identifier).opening,
          ((lines.filter fun line =>
            line.account.id = identifier && periodStart.ordinal ≤ line.date.ordinal).map
              fun line => ofDecimal line.debit).foldl add (start identifier).debit,
          ((lines.filter fun line =>
            line.account.id = identifier && periodStart.ordinal ≤ line.date.ordinal).map
              fun line => ofDecimal line.credit).foldl add (start identifier).credit⟩ := by
    induction lines generalizing start with
    | nil => rfl
    | cons line lines ih =>
        rw [List.foldl_cons, ih, foldl_map_filter, foldl_map_filter, foldl_map_filter]
        by_cases haccount : line.account.id = identifier
        · rw [haccount, Function.update_self]
          unfold AccountValues.addLine
          by_cases hbefore : line.date.ordinal < periodStart.ordinal
          · simp [hbefore, Nat.not_le.mpr hbefore]
          · simp [hbefore, Nat.not_lt.mp hbefore]
        · rw [Function.update_of_ne (Ne.symm haccount)]
          simp [haccount]
  exact hfold _

theorem accountValues_exact (periodStart : Date) (lines : List AccountMoveLine) (identifier : Int) :
    accountValues (N := ℚ) periodStart lines identifier =
      ⟨sumOf (·.balance) (lines.filter fun line =>
          line.account.id = identifier && line.date.ordinal < periodStart.ordinal),
        sumOf (·.debit) (lines.filter fun line =>
          line.account.id = identifier && periodStart.ordinal ≤ line.date.ordinal),
        sumOf (·.credit) (lines.filter fun line =>
          line.account.id = identifier && periodStart.ordinal ≤ line.date.ordinal)⟩ := by
  rw [accountValues_eq, total_exact, total_exact, total_exact]
  rfl

/-! ### Two periods -/

def periodLines (ledger : Ledger) (accountId : Int) (start finish : Date) :
    List AccountMoveLine :=
  ledger.lines.filter fun line => line.moveState = .posted && line.account.id = accountId &&
    start.ordinal ≤ line.date.ordinal && line.date.ordinal ≤ finish.ordinal

def trialBalanceLines (ledger : Ledger) (request : TrialBalanceInput) : List AccountMoveLine :=
  ledger.lines.filter fun line => line.moveState = .posted &&
    line.date.ordinal ≤ request.periodEnd.ordinal &&
      (request.accountIds.isEmpty || request.accountIds.contains line.account.id)

/-- Those of one account, and the ones of them that are before the period. -/
def accountLines (ledger : Ledger) (request : TrialBalanceInput) (accountId : Int) :
    List AccountMoveLine :=
  (trialBalanceLines ledger request).filter fun line => line.account.id = accountId

def linesBefore (ledger : Ledger) (request : TrialBalanceInput) (accountId : Int) :
    List AccountMoveLine :=
  (trialBalanceLines ledger request).filter fun line =>
    line.account.id = accountId && line.date.ordinal < request.periodStart.ordinal

variable {ledger : Ledger}

theorem trialBalance_report {request : TrialBalanceInput}
    {report : WholeReport (TrialBalanceItem N) (TrialBalanceSummary N)} :
    ledger.report (trialBalance casefold request) = .ok report ↔
      trialBalanceOf casefold request (trialBalanceLines ledger request)
        (ledger.accounts.filter fun account =>
          (trialBalanceAccounts request (trialBalanceLines ledger request)).contains account.id) =
        .ok report := by
  have hlines : ledger.source (.moveLines (trialBalanceFilters request)) =
      .ok (trialBalanceLines ledger request) := by
    refine congrArg Except.ok (List.filter_congr fun line _ => ?_)
    unfold trialBalanceFilters
    rw [Bool.eq_iff_iff]
    cases hids : request.accountIds.isEmpty with
    | true => simp [Ledger.linePasses, text_posted]
    | false => simp [Ledger.linePasses, text_posted, containsId_tuple, and_assoc]
  unfold trialBalance
  rw [Ledger.report_read hlines, Ledger.report_read rfl, Ledger.report_ofExcept]

def Covers (request : TrialBalanceInput) (accountId : Int) : Prop :=
  request.accountIds = [] ∨ accountId ∈ request.accountIds

/-- The balances of the account's lines in the period sum to their debits less their credits. -/
def PeriodAgrees (ledger : Ledger) (request : TrialBalanceInput) (accountId : Int) : Prop :=
  let lines := periodLines ledger accountId request.periodStart request.periodEnd
  sumOf (·.balance) lines = sumOf (·.debit) lines - sumOf (·.credit) lines

/-- No sum that the report makes of the account is rounded: its amounts have so many places, and
what is summed stays below what the digits of the context hold with them, in the closing of the
period and in the opening of the next one. -/
structure Unrounded (places : Nat) (ledger : Ledger) (request : TrialBalanceInput)
    (accountId : Int) : Prop where
  balance : ∀ line ∈ accountLines ledger request accountId, line.balance.HasPlaces places
  debit : ∀ line ∈ accountLines ledger request accountId, line.debit.HasPlaces places
  credit : ∀ line ∈ accountLines ledger request accountId, line.credit.HasPlaces places
  closing : ((linesBefore ledger request accountId).map fun line => |line.balance.value|).sum +
    ((periodLines ledger accountId request.periodStart request.periodEnd).map fun line =>
      |line.debit.value| + |line.credit.value|).sum < Decimal.capacity places
  next : ((accountLines ledger request accountId).map fun line => |line.balance.value|).sum <
    Decimal.capacity places

theorem covers_iff {accountId : Int} :
    Covers request accountId ↔
      (request.accountIds.isEmpty || request.accountIds.contains accountId) = true := by
  simp [Covers]

theorem filter_period {accountId : Int} (hcovers : Covers request accountId) :
    ((trialBalanceLines ledger request).filter fun line =>
      line.account.id = accountId && request.periodStart.ordinal ≤ line.date.ordinal) =
        periodLines ledger accountId request.periodStart request.periodEnd := by
  rw [trialBalanceLines, periodLines, List.filter_filter]
  refine List.filter_congr fun line _ => ?_
  rw [Bool.eq_iff_iff]
  by_cases haccount : line.account.id = accountId
  · rw [haccount, covers_iff.mp hcovers]
    simp only [Bool.and_eq_true, decide_eq_true_eq, Bool.and_true]
    tauto
  · simp [haccount]

/-- The lines before the next period are those up to the end of this one. -/
theorem linesBefore_next {first second : TrialBalanceInput}
    (hnext : second.periodStart.ordinal = first.periodEnd.ordinal + 1)
    (hsame : second.accountIds = first.accountIds) (accountId : Int) :
    linesBefore ledger second accountId = accountLines ledger first accountId := by
  have hordered := second.ordered
  unfold linesBefore accountLines trialBalanceLines
  rw [List.filter_filter, List.filter_filter, hsame]
  apply List.filter_congr
  intro line _
  rw [Bool.eq_iff_iff]
  simp only [Bool.and_eq_true, decide_eq_true_eq]
  constructor
  · rintro ⟨⟨haccount, hbefore⟩, ⟨hposted, -⟩, hselected⟩
    exact ⟨haccount, ⟨hposted, by omega⟩, hselected⟩
  · rintro ⟨haccount, ⟨hposted, hend⟩, hselected⟩
    exact ⟨⟨haccount, by omega⟩, ⟨hposted, by omega⟩, hselected⟩

theorem filter_accountLines_before (accountId : Int) :
    ((accountLines ledger request accountId).filter fun line =>
      line.date.ordinal < request.periodStart.ordinal) = linesBefore ledger request accountId := by
  rw [accountLines, linesBefore, List.filter_filter]
  apply List.filter_congr
  intro line _
  exact Bool.and_comm _ _

theorem filter_accountLines_period {accountId : Int} (hcovers : Covers request accountId) :
    ((accountLines ledger request accountId).filter fun line =>
      !decide (line.date.ordinal < request.periodStart.ordinal)) =
        periodLines ledger accountId request.periodStart request.periodEnd := by
  rw [← filter_period hcovers, accountLines, List.filter_filter]
  apply List.filter_congr
  intro line _
  rw [Bool.and_comm, ← decide_not]
  simp only [not_lt]

theorem sumOf_accountLines {accountId : Int} (hcovers : Covers request accountId)
    (amount : AccountMoveLine → Decimal) :
    sumOf amount (accountLines ledger request accountId) =
      sumOf amount (linesBefore ledger request accountId) +
        sumOf amount (periodLines ledger accountId request.periodStart request.periodEnd) := by
  rw [← filter_accountLines_before, ← filter_accountLines_period hcovers]
  exact sumOf_split _ _

theorem abs_sumOf_le (amount : AccountMoveLine → Decimal) (lines : List AccountMoveLine) :
    |sumOf amount lines| ≤ (lines.map fun line => |(amount line).value|).sum := by
  induction lines with
  | nil => exact (abs_zero (α := ℚ)).le
  | cons line lines ih =>
      rw [sumOf_cons, List.map_cons, List.sum_cons]
      exact (abs_add_le _ _).trans (by linarith)

theorem value_totalOf {amount : AccountMoveLine → Decimal} {places : Nat}
    {lines : List AccountMoveLine} (hplaces : ∀ line ∈ lines, (amount line).HasPlaces places)
    (hbelow : (lines.map fun line => |(amount line).value|).sum < Decimal.capacity places) :
    (total (lines.map fun line => (ofDecimal (amount line) : Decimal))).value = sumOf amount lines ∧
      (total (lines.map fun line => (ofDecimal (amount line) : Decimal))).HasPlaces places := by
  have hvalues : ∀ value ∈ lines.map fun line => (ofDecimal (amount line) : Decimal),
      value.HasPlaces places := by
    intro value hvalue
    obtain ⟨line, hline, rfl⟩ := List.mem_map.mp hvalue
    exact hplaces line hline
  obtain ⟨hvalue, hresult⟩ := Decimal.value_total hvalues (by rwa [List.map_map])
  refine ⟨hvalue.trans ?_, hresult⟩
  rw [List.map_map]
  rfl

/-- The opening of an account, for a report that rounds no sum of it. -/
theorem value_opening {places : Nat}
    {report : WholeReport (TrialBalanceItem Decimal) (TrialBalanceSummary Decimal)}
    (hreport : ledger.report (trialBalance casefold request) = .ok report)
    {item : TrialBalanceItem Decimal} (hitem : item ∈ report.items)
    (hplaces : ∀ line ∈ linesBefore ledger request item.accountId, line.balance.HasPlaces places)
    (hbelow : ((linesBefore ledger request item.accountId).map fun line =>
      |line.balance.value|).sum < Decimal.capacity places) :
    item.openingBalance.value = sumOf (·.balance) (linesBefore ledger request item.accountId) ∧
      item.openingBalance.HasPlaces places := by
  obtain ⟨-, account, hvalues⟩ := mem_trialBalance (trialBalance_report.mp hreport) hitem
  rw [accountValues_eq] at hvalues
  rw [hvalues]
  exact value_totalOf hplaces hbelow

theorem value_closing {places : Nat}
    {report : WholeReport (TrialBalanceItem Decimal) (TrialBalanceSummary Decimal)}
    (hreport : ledger.report (trialBalance casefold request) = .ok report)
    {item : TrialBalanceItem Decimal} (hitem : item ∈ report.items)
    (hcovers : Covers request item.accountId)
    (hunrounded : Unrounded places ledger request item.accountId) :
    let period := periodLines ledger item.accountId request.periodStart request.periodEnd
    item.closingBalance.value =
      sumOf (·.balance) (linesBefore ledger request item.accountId) + sumOf (·.debit) period -
        sumOf (·.credit) period := by
  intro period
  have hbefore : ∀ line ∈ linesBefore ledger request item.accountId,
      line ∈ accountLines ledger request item.accountId := by
    intro line hline
    rw [← filter_accountLines_before] at hline
    exact List.mem_of_mem_filter hline
  have hperiod : ∀ line ∈ period, line ∈ accountLines ledger request item.accountId := by
    intro line hline
    rw [show period = _ from (filter_accountLines_period hcovers).symm] at hline
    exact List.mem_of_mem_filter hline
  have hclosing := hunrounded.closing
  rw [List.sum_map_add] at hclosing
  have hbalances : 0 ≤ ((linesBefore ledger request item.accountId).map fun line =>
      |line.balance.value|).sum := List.sum_nonneg (by simp)
  have hdebits : 0 ≤ (period.map fun line => |line.debit.value|).sum :=
    List.sum_nonneg (by simp)
  have hcredits : 0 ≤ (period.map fun line => |line.credit.value|).sum :=
    List.sum_nonneg (by simp)
  obtain ⟨hopening, hopeningPlaces⟩ := value_opening hreport hitem
    (fun line hline => hunrounded.balance line (hbefore line hline)) (by linarith)
  obtain ⟨hdebit, hdebitPlaces⟩ := value_totalOf
    (fun line hline => hunrounded.debit line (hperiod line hline)) (by linarith)
  obtain ⟨hcredit, hcreditPlaces⟩ := value_totalOf
    (fun line hline => hunrounded.credit line (hperiod line hline)) (by linarith)
  have hopeningSize := abs_sumOf_le (·.balance) (linesBefore ledger request item.accountId)
  have hdebitSize := abs_sumOf_le (·.debit) period
  have hcreditSize := abs_sumOf_le (·.credit) period
  rw [← hopening] at hopeningSize ⊢
  rw [← hdebit] at hdebitSize ⊢
  rw [← hcredit] at hcreditSize ⊢
  obtain ⟨hsum, hsumPlaces⟩ := Decimal.value_add hopeningPlaces hdebitPlaces
    (lt_of_le_of_lt (abs_add_le _ _) (by linarith))
  obtain ⟨hdifference, -⟩ := Decimal.value_sub hsumPlaces hcreditPlaces
    (lt_of_le_of_lt (abs_sub _ _) (by
      rw [hsum]
      linarith [abs_add_le item.openingBalance.value
        (total (period.map fun line => (ofDecimal line.debit : Decimal))).value]))
  obtain ⟨-, account, hvalues⟩ := mem_trialBalance (trialBalance_report.mp hreport) hitem
  rw [accountValues_eq, filter_period hcovers] at hvalues
  rw [← hsum, ← hdifference, hvalues]
  rfl

theorem covers_of_mem {report : WholeReport (TrialBalanceItem N) (TrialBalanceSummary N)}
    (hreport : ledger.report (trialBalance casefold request) = .ok report)
    {item : TrialBalanceItem N} (hitem : item ∈ report.items) : Covers request item.accountId := by
  obtain ⟨haccount, -⟩ := mem_trialBalance (trialBalance_report.mp hreport) hitem
  rcases mem_trialBalanceAccounts.mp haccount with hasked | ⟨line, hline, hid⟩
  · exact .inr hasked
  · have hselected := (List.mem_filter.mp hline).2
    rw [hid, Bool.and_eq_true] at hselected
    exact covers_iff.mpr hselected.2

/-- **Continuity, where the amounts agree.** While no sum is rounded, every account closes a period
with what it opens the next one with if and only if in every account that the report covers the
balances of the period's lines sum to their debits less their credits. -/
theorem closing_eq_opening_iff {first second : TrialBalanceInput}
    {report later : WholeReport (TrialBalanceItem Decimal) (TrialBalanceSummary Decimal)}
    (hnext : second.periodStart.ordinal = first.periodEnd.ordinal + 1)
    (hsame : second.accountIds = first.accountIds)
    (hunrounded : ∀ accountId, Covers first accountId →
      ∃ places, Unrounded places ledger first accountId)
    (hfirst : ledger.report (trialBalance casefold first) = .ok report)
    (hsecond : ledger.report (trialBalance casefold second) = .ok later) :
    (∀ item ∈ report.items, ∃ next ∈ later.items, next.accountId = item.accountId ∧
        item.closingBalance.value = next.openingBalance.value) ↔
      ∀ accountId, Covers first accountId → PeriodAgrees ledger first accountId := by
  have hitems {item : TrialBalanceItem Decimal} (hitem : item ∈ report.items)
      {next : TrialBalanceItem Decimal} (hmem : next ∈ later.items)
      (hid : next.accountId = item.accountId) :
      item.closingBalance.value = next.openingBalance.value ↔
        PeriodAgrees ledger first item.accountId := by
    have hcovers := covers_of_mem hfirst hitem
    obtain ⟨places, hfits⟩ := hunrounded _ hcovers
    have hlines : linesBefore ledger second next.accountId =
        accountLines ledger first item.accountId := by
      rw [hid]
      exact linesBefore_next hnext hsame _
    have hplaces := hfits.balance
    have hbelow := hfits.next
    rw [← hlines] at hplaces hbelow
    have hopening := (value_opening hsecond hmem hplaces hbelow).1
    rw [value_closing hfirst hitem hcovers hfits, hopening, hlines, sumOf_accountLines hcovers]
    unfold PeriodAgrees
    simp only
    constructor
    · intro hequal
      linarith
    · intro hagrees
      linarith
  constructor
  · intro hcontinuous accountId hcovers
    by_cases haccount : accountId ∈ trialBalanceAccounts first (trialBalanceLines ledger first)
    · obtain ⟨item, hitem, rfl⟩ :=
        exists_trialBalance (trialBalance_report.mp hfirst) haccount
      obtain ⟨next, hmem, hid, hequal⟩ := hcontinuous item hitem
      exact (hitems hitem hmem hid).mp hequal
    · have hnone : periodLines ledger accountId first.periodStart first.periodEnd = [] := by
        rw [← filter_period hcovers, List.filter_eq_nil_iff]
        intro line hline hselected
        rw [Bool.and_eq_true, decide_eq_true_eq] at hselected
        exact haccount (mem_trialBalanceAccounts.mpr (.inr ⟨line, hline, hselected.1⟩))
      unfold PeriodAgrees
      rw [hnone]
      exact (sub_self 0).symm
  · intro hagrees item hitem
    have hcovers := covers_of_mem hfirst hitem
    obtain ⟨haccount, -⟩ := mem_trialBalance (trialBalance_report.mp hfirst) hitem
    obtain ⟨next, hmem, hid⟩ : ∃ next ∈ later.items, next.accountId = item.accountId := by
      refine exists_trialBalance (trialBalance_report.mp hsecond) ?_
      rw [mem_trialBalanceAccounts, hsame]
      rcases mem_trialBalanceAccounts.mp haccount with hasked | ⟨line, hline, hid⟩
      · exact .inl hasked
      · refine .inr ⟨line, ?_, hid⟩
        have hordered := second.ordered
        obtain ⟨hlisted, hselected⟩ := List.mem_filter.mp hline
        refine List.mem_filter.mpr ⟨hlisted, ?_⟩
        rw [hsame]
        simp only [Bool.and_eq_true, decide_eq_true_eq] at hselected ⊢
        exact ⟨⟨hselected.1.1, by omega⟩, hselected.2⟩
    exact ⟨next, hmem, hid, (hitems hitem hmem hid).mpr (hagrees _ hcovers)⟩

/-- Amounts that all together stay below the capacity are enough. -/
theorem unrounded_of_lines {places : Nat} (request : TrialBalanceInput) (accountId : Int)
    (hplaces : ∀ line ∈ ledger.lines, line.balance.HasPlaces places ∧
      line.debit.HasPlaces places ∧ line.credit.HasPlaces places)
    (hbelow : (ledger.lines.map fun line =>
      |line.balance.value| + (|line.debit.value| + |line.credit.value|)).sum <
        Decimal.capacity places) : Unrounded places ledger request accountId := by
  have haccount : (accountLines ledger request accountId).Sublist ledger.lines :=
    List.filter_sublist.trans List.filter_sublist
  have hbefore : (linesBefore ledger request accountId).Sublist ledger.lines :=
    List.filter_sublist.trans List.filter_sublist
  have hperiod : (periodLines ledger accountId request.periodStart request.periodEnd).Sublist
      ledger.lines := List.filter_sublist
  have hsizes {lines : List AccountMoveLine} (hsublist : lines.Sublist ledger.lines)
      (size : AccountMoveLine → ℚ) (hnonneg : ∀ line, 0 ≤ size line) :
      (lines.map size).sum ≤ (ledger.lines.map size).sum := by
    apply (hsublist.map size).sum_le_sum
    intro value hvalue
    obtain ⟨line, -, rfl⟩ := List.mem_map.mp hvalue
    exact hnonneg line
  have hbalance : ∀ line : AccountMoveLine, 0 ≤ |line.balance.value| := fun line => abs_nonneg _
  have hsides : ∀ line : AccountMoveLine, 0 ≤ |line.debit.value| + |line.credit.value| :=
    fun line => by positivity
  rw [List.sum_map_add] at hbelow
  have hall : 0 ≤ (ledger.lines.map fun line => |line.debit.value| + |line.credit.value|).sum := by
    apply List.sum_nonneg
    intro value hvalue
    obtain ⟨line, -, rfl⟩ := List.mem_map.mp hvalue
    exact hsides line
  refine ⟨?_, ?_, ?_, ?_, ?_⟩
  · intro line hline
    exact (hplaces line (haccount.subset hline)).1
  · intro line hline
    exact (hplaces line (haccount.subset hline)).2.1
  · intro line hline
    exact (hplaces line (haccount.subset hline)).2.2
  · exact lt_of_le_of_lt (add_le_add (hsizes hbefore _ hbalance) (hsizes hperiod _ hsides)) hbelow
  · exact lt_of_le_of_lt (hsizes haccount _ hbalance) (by linarith)

theorem periodAgrees_of_lines (request : TrialBalanceInput) (accountId : Int)
    (hlines : ∀ line ∈ ledger.lines, line.balance.value = line.debit.value - line.credit.value) :
    PeriodAgrees ledger request accountId := by
  have hsum (lines : List AccountMoveLine) (hsub : ∀ line ∈ lines, line ∈ ledger.lines) :
      sumOf (·.balance) lines = sumOf (·.debit) lines - sumOf (·.credit) lines := by
    induction lines with
    | nil => exact (sub_self 0).symm
    | cons line lines ih =>
        obtain ⟨hline, hrest⟩ := List.forall_mem_cons.mp hsub
        rw [sumOf_cons, sumOf_cons, sumOf_cons, ih hrest, hlines line hline]
        ring
  exact hsum _ fun line hline => List.mem_of_mem_filter hline

/-! ### Two entries -/

def bookedLine (id : Int) (account : Nat) (ordinal : Nat) (debit credit balance : Decimal) :
    AccountMoveLine where
  id := id
  move := .after 70 "INV/1"
  moveState := .posted
  account := .after account "Account"
  journal := .after 8 "Sales"
  partner := some (.after 40 "Partner")
  companyId := 1
  currency := none
  date := ⟨ordinal⟩
  maturityDate := none
  label := none
  debit := debit
  credit := credit
  balance := balance
  amountCurrency := Decimal.zero
  residual := balance
  residualCurrency := Decimal.zero
  reconciled := false
  analyticDistribution := []

def bookedAccount (account : Nat) (code accountType : String) : Account :=
  ⟨account + 1, code, "Account", accountType, [1], none, true⟩

/-- A receivable of ten against an income of ten, with the balances as given. -/
def bookedLedger (balance : Decimal) : Ledger where
  lines := [bookedLine 1 30 739000 ⟨false, 10, 0⟩ Decimal.zero balance,
    bookedLine 2 31 739000 Decimal.zero ⟨false, 10, 0⟩ balance.neg]
  documents := []
  partials := []
  accounts := [bookedAccount 30 "121000" "asset_receivable", bookedAccount 31 "400000" "income"]
  rounding := ⟨false, 1, -2⟩
  lines_nodup := by simp [bookedLine]
  documents_nodup := by simp
  accounts_nodup := by simp [bookedAccount]
  rounding_pos := Decimal.cent_pos

def bookedPeriod (day : Nat) : TrialBalanceInput :=
  ⟨1, ⟨738991 + day⟩, ⟨739020 + day⟩, [], 100, none, by simp⟩

/-- With the balances of the entries, each account opens the next month with what it closed. -/
theorem closing_eq_opening_booked :
    ∃ report later : WholeReport (TrialBalanceItem Decimal) (TrialBalanceSummary Decimal),
      (bookedLedger ⟨false, 10, 0⟩).report (trialBalance id (bookedPeriod 0)) = .ok report ∧
      (bookedLedger ⟨false, 10, 0⟩).report (trialBalance id (bookedPeriod 30)) = .ok later ∧
      ∀ item ∈ report.items, ∃ next ∈ later.items, next.accountId = item.accountId ∧
        item.closingBalance.value = next.openingBalance.value := by
  have hfirst : ((bookedLedger ⟨false, 10, 0⟩).report
      (trialBalance (N := Decimal) id (bookedPeriod 0))).isOk = true := by decide +kernel
  have hsecond : ((bookedLedger ⟨false, 10, 0⟩).report
      (trialBalance (N := Decimal) id (bookedPeriod 30))).isOk = true := by decide +kernel
  obtain ⟨report, hreport⟩ := ok_of_isOk hfirst
  obtain ⟨later, hlater⟩ := ok_of_isOk hsecond
  have hnext : (bookedPeriod 30).periodStart.ordinal = (bookedPeriod 0).periodEnd.ordinal + 1 := by
    decide
  have hunrounded (accountId : Int) :
      Unrounded 0 (bookedLedger ⟨false, 10, 0⟩) (bookedPeriod 0) accountId :=
    unrounded_of_lines _ accountId (by decide +kernel) (by decide +kernel)
  have hagrees (accountId : Int) :
      PeriodAgrees (bookedLedger ⟨false, 10, 0⟩) (bookedPeriod 0) accountId := by
    apply periodAgrees_of_lines
    intro line hline
    simp only [bookedLedger, List.mem_cons, List.not_mem_nil, or_false] at hline
    rcases hline with rfl | rfl
    · decide +kernel
    · decide +kernel
  refine ⟨report, later, hreport, hlater, ?_⟩
  apply (closing_eq_opening_iff hnext rfl (fun accountId _ => ⟨0, hunrounded accountId⟩) hreport
    hlater).mpr
  intro accountId _
  exact hagrees accountId

/-- Two lines whose balance is not their debit less their credit: both months are accepted, and the
receivable closes with ten and opens with seven. -/
theorem closing_ne_opening_booked :
    ¬∀ (ledger : Ledger) (first second : TrialBalanceInput)
      (report later : WholeReport (TrialBalanceItem Decimal) (TrialBalanceSummary Decimal)),
      second.periodStart.ordinal = first.periodEnd.ordinal + 1 →
      second.accountIds = first.accountIds →
      ledger.report (trialBalance id first) = .ok report →
      ledger.report (trialBalance id second) = .ok later →
      ∀ item ∈ report.items, ∀ next ∈ later.items, next.accountId = item.accountId →
        item.closingBalance.value = next.openingBalance.value := by
  intro hcontinuous
  obtain ⟨report, hreport, hclosings⟩ :
      ∃ report, (bookedLedger ⟨false, 7, 0⟩).report (trialBalance id (bookedPeriod 0)) =
          .ok report ∧
        report.items.map (fun item => (item.accountId, item.closingBalance)) =
          [(31, (⟨false, 10, 0⟩ : Decimal)), (32, ⟨true, 10, 0⟩)] :=
    ok_of_toOption_map (by decide +kernel)
  obtain ⟨later, hlater, hopenings⟩ :
      ∃ later, (bookedLedger ⟨false, 7, 0⟩).report (trialBalance id (bookedPeriod 30)) =
          .ok later ∧
        later.items.map (fun item => (item.accountId, item.openingBalance)) =
          [(31, (⟨false, 7, 0⟩ : Decimal)), (32, ⟨true, 7, 0⟩)] :=
    ok_of_toOption_map (by decide +kernel)
  obtain ⟨item, hitem, hclosing⟩ : ∃ item ∈ report.items,
      (item.accountId, item.closingBalance) = (31, ⟨false, 10, 0⟩) := by
    rw [← List.mem_map, hclosings]
    exact List.mem_cons_self
  obtain ⟨next, hnext, hopening⟩ : ∃ next ∈ later.items,
      (next.accountId, next.openingBalance) = (31, ⟨false, 7, 0⟩) := by
    rw [← List.mem_map, hopenings]
    exact List.mem_cons_self
  obtain ⟨hid, hclosing⟩ := Prod.mk.inj hclosing
  obtain ⟨hnextId, hopening⟩ := Prod.mk.inj hopening
  have hequal := hcontinuous (bookedLedger ⟨false, 7, 0⟩) (bookedPeriod 0) (bookedPeriod 30)
    report later (by decide) rfl hreport hlater item hitem next hnext (hnextId.trans hid.symm)
  rw [hclosing, hopening] at hequal
  have hdifferent : (⟨false, 10, 0⟩ : Decimal).value ≠ (⟨false, 7, 0⟩ : Decimal).value := by
    decide +kernel
  exact hdifferent hequal

end Reports

end OdooMcp
