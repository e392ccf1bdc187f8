import OdooMcp.Workflows.FinancialStatements

/-!
# Equations of the financial statements

Over exact numbers, and with amounts that are whole multiples of the currency increment, no rounding
changes an amount. The balance sheet then differs by the lines of off-balance accounts only, and the
profit and loss of everything up to a day is what the balance sheet of the day has not closed.
-/

namespace OdooMcp

namespace Reports

open Arithmetic Effect

/-! ### Multiples of the increment -/

def Multiple (increment value : ℚ) : Prop := ∃ count : ℤ, value = count * increment

section Multiples

variable {increment first second : ℚ}

theorem Multiple.zero : Multiple increment 0 := ⟨0, by simp⟩

theorem Multiple.add (hfirst : Multiple increment first) (hsecond : Multiple increment second) :
    Multiple increment (first + second) := by
  obtain ⟨one, rfl⟩ := hfirst
  obtain ⟨two, rfl⟩ := hsecond
  exact ⟨one + two, by push_cast; ring⟩

theorem Multiple.neg (hfirst : Multiple increment first) : Multiple increment (-first) := by
  obtain ⟨one, rfl⟩ := hfirst
  exact ⟨-one, by push_cast; ring⟩

theorem Multiple.sub (hfirst : Multiple increment first) (hsecond : Multiple increment second) :
    Multiple increment (first - second) := by
  rw [sub_eq_add_neg]
  exact hfirst.add hsecond.neg

theorem Multiple.sum {values : List ℚ} (hvalues : ∀ value ∈ values, Multiple increment value) :
    Multiple increment values.sum := by
  induction values with
  | nil => exact Multiple.zero
  | cons value values ih =>
      rw [List.forall_mem_cons] at hvalues
      rw [List.sum_cons]
      exact hvalues.1.add (ih hvalues.2)

theorem halfUp_intCast (count : ℤ) : halfUp count = count := by
  have hhalf (number : ℤ) : ⌊(number : ℚ) + 1 / 2⌋ = number := by
    rw [Int.floor_intCast_add]
    norm_num
  unfold halfUp
  split
  · have hneg := hhalf (-count)
    rw [Int.cast_neg] at hneg
    rw [hneg, Int.cast_neg, neg_neg]
  · rw [hhalf]

/-- Rounding leaves a multiple of the increment as it is. -/
theorem Multiple.roundedTo_eq (hincrement : increment ≠ 0) (hfirst : Multiple increment first) :
    roundedTo first increment = .ok first := by
  obtain ⟨count, rfl⟩ := hfirst
  rw [roundedTo_exact hincrement, mul_div_assoc, div_self hincrement, mul_one, halfUp_intCast]

end Multiples

/-! ### Accounts and their types -/

def typeOf (accounts : List Account) (identifier : Int) : Option String :=
  (accounts.find? (·.id = identifier)).map (·.accountType)

theorem accountOf_ok {accounts : List Account} {identifier : Int} {account : Account} :
    accountOf accounts identifier = .ok account ↔
      accounts.find? (·.id = identifier) = some account := orRaise_ok

theorem typeOf_of_accountOf {accounts : List Account} {identifier : Int} {account : Account}
    (haccount : accountOf accounts identifier = .ok account) :
    typeOf accounts identifier = some account.accountType := by
  rw [typeOf, accountOf_ok.mp haccount]
  rfl

/-- The income and expense types are none of the balance sheet's. -/
theorem balanceGroup_none {accountType : String} (hgroup : balanceGroup accountType = .ok none) :
    incomeTypes.contains accountType = true ∨ expenseTypes.contains accountType = true ∨
      accountType = "off_balance" := by
  unfold balanceGroup at hgroup
  split at hgroup
  · cases hgroup
  split at hgroup
  · cases hgroup
  split at hgroup
  · cases hgroup
  split at hgroup
  · rename_i hother
    simpa [or_assoc] using hother
  · cases hgroup

theorem balanceGroup_some {accountType : String} {group : BalanceGroup}
    (hgroup : balanceGroup accountType = .ok (some group)) : accountType ≠ "off_balance" := by
  rintro rfl
  revert hgroup
  cases group <;> decide

theorem earnings_ne_offBalance {accountType : String}
    (hearnings : incomeTypes.contains accountType = true ∨
      expenseTypes.contains accountType = true) : accountType ≠ "off_balance" := by
  rintro rfl
  revert hearnings
  decide

/-! ### The balance sheet -/

section BalanceSheet

variable {accounts : List Account} {increment : ℚ}

def balancesOf (lines : List AccountMoveLine) : Tally Int ℚ :=
  Tally.changeAll (·.account.id) (fun _ => 0) (fun line balance => balance + line.balance.value)
    lines []

theorem same_one_zero : same (1 : ℚ) zero = false := by
  rw [zero_exact]
  rfl

theorem analyticFactor_exact (distribution : List (String × Decimal)) :
    analyticFactor (N := ℚ) distribution [] = .ok 1 := by
  have hone : (ofDecimal ⟨false, 1, 0⟩ : ℚ) = 1 := by
    change Decimal.value _ = 1
    norm_num [Decimal.value, Decimal.sign]
  rw [← hone]
  rfl

theorem addBalanceLine_exact (balances : Tally Int ℚ) (line : AccountMoveLine) :
    addBalanceLine [] balances line =
      .ok (balances.change line.account.id 0 (· + line.balance.value)) := by
  unfold addBalanceLine
  rw [analyticFactor_exact]
  change (if same (1 : ℚ) zero then _ else _) = _
  rw [same_one_zero, zero_exact]
  have hstep : (fun balance : ℚ => add balance (mul (ofDecimal line.balance) 1)) =
      (· + line.balance.value) := by
    funext balance
    change balance + line.balance.value * 1 = balance + line.balance.value
    rw [mul_one]
  rw [hstep]
  rfl

theorem balances_exact (lines : List AccountMoveLine) :
    lines.foldlM (addBalanceLine (N := ℚ) []) [] = .ok (balancesOf lines) := by
  have hfold (tally : Tally Int ℚ) : lines.foldlM (addBalanceLine (N := ℚ) []) tally =
      .ok (Tally.changeAll (·.account.id) (fun _ => 0)
        (fun line balance => balance + line.balance.value) lines tally) := by
    induction lines generalizing tally with
    | nil => rfl
    | cons line lines ih =>
        rw [List.foldlM_cons, addBalanceLine_exact]
        exact ih _
  exact hfold []

theorem multiple_balances {lines : List AccountMoveLine}
    (hmultiples : ∀ line ∈ lines, Multiple increment line.balance.value) :
    ∀ entry ∈ balancesOf lines, Multiple increment entry.2 := by
  refine Tally.forall_changeAll (fun _ value => Multiple increment value) ?_ ?_ ?_
  · simp
  · exact fun _ _ => Multiple.zero
  · exact fun line hline value hvalue => hvalue.add (hmultiples line hline)

/-- Assets less liabilities and equity, with the earnings so far. -/
def netOf (state : List (BalanceSheetItem ℚ) × ℚ) : ℚ :=
  totalOf .asset state.1 - totalOf .liability state.1 - (totalOf .equity state.1 + state.2)

/-- What the balance of an account adds: nothing if it is off the balance sheet. -/
def onBalance (accounts : List Account) (identifier : Int) (balance : ℚ) : ℚ :=
  if typeOf accounts identifier = some "off_balance" then 0 else balance

theorem totalOf_append (group : BalanceGroup) (items : List (BalanceSheetItem ℚ))
    (item : BalanceSheetItem ℚ) :
    totalOf group (items ++ [item]) =
      totalOf group items + if item.group = group then item.signedBalance else 0 := by
  unfold totalOf
  rw [total_exact, total_exact, List.filter_append, List.map_append, List.sum_append]
  congr 1
  by_cases hgroup : item.group = group
  · simp [hgroup]
  · simp [hgroup]

theorem netOf_addBalance {state next : List (BalanceSheetItem ℚ) × ℚ} {entry : Int × ℚ}
    (hincrement : increment ≠ 0) (hmultiple : Multiple increment entry.2)
    (hadd : addBalance accounts increment state entry = .ok next) :
    netOf next = netOf state + onBalance accounts entry.1 entry.2 := by
  unfold addBalance at hadd
  obtain ⟨account, haccount, hrest⟩ := except_bind_ok.mp hadd
  obtain ⟨balance, hbalance, hrest⟩ := except_bind_ok.mp hrest
  obtain ⟨group, hgroup, hdone⟩ := except_bind_ok.mp hrest
  rw [hmultiple.roundedTo_eq hincrement] at hbalance
  cases hbalance
  have hcounts (hother : account.accountType ≠ "off_balance") :
      onBalance accounts entry.1 entry.2 = entry.2 := by
    rw [onBalance, typeOf_of_accountOf haccount]
    exact if_neg fun hsame => hother (Option.some.inj hsame)
  cases group with
  | none =>
      simp only at hdone
      split at hdone
      · rename_i hincome
        cases hdone
        rw [hcounts (earnings_ne_offBalance (.inl hincome))]
        change _ - _ - (_ + (state.2 + -entry.2)) = _ - _ - (_ + state.2) + entry.2
        ring
      · rename_i hincome
        split at hdone
        · rename_i hexpense
          cases hdone
          rw [hcounts (earnings_ne_offBalance (.inr hexpense))]
          change _ - _ - (_ + (state.2 - entry.2)) = _ - _ - (_ + state.2) + entry.2
          ring
        · rename_i hexpense
          cases hdone
          have hoff : account.accountType = "off_balance" :=
            ((balanceGroup_none hgroup).resolve_left hincome).resolve_left hexpense
          rw [onBalance, typeOf_of_accountOf haccount, hoff, if_pos rfl, add_zero]
  | some group =>
      cases hdone
      rw [hcounts (balanceGroup_some hgroup)]
      unfold netOf
      simp only [totalOf_append]
      cases group with
      | asset => simp; ring
      | liability => simp [Arithmetic.neg]; ring
      | equity => simp [Arithmetic.neg]; ring

def isEarnings (accounts : List Account) (identifier : Int) : Bool :=
  (typeOf accounts identifier).any fun accountType =>
    incomeTypes.contains accountType || expenseTypes.contains accountType

def earningsOf (accounts : List Account) (identifier : Int) (balance : ℚ) : ℚ :=
  if isEarnings accounts identifier then balance else 0

theorem earnings_ne_group {accountType : String} {group : BalanceGroup}
    (hgroup : balanceGroup accountType = .ok (some group)) :
    (incomeTypes.contains accountType || expenseTypes.contains accountType) = false := by
  rw [Bool.or_eq_false_iff, ← Bool.not_eq_true, ← Bool.not_eq_true]
  have hnever (known : String) (hknown : balanceGroup known = .ok none) : accountType ≠ known := by
    rintro rfl
    rw [hknown] at hgroup
    cases hgroup
  constructor
  · intro hincome
    simp only [incomeTypes, List.contains_cons, List.contains_nil, Bool.or_false, Bool.or_eq_true,
      beq_iff_eq] at hincome
    rcases hincome with heq | heq
    · exact hnever "income" (by decide) heq
    · exact hnever "income_other" (by decide) heq
  · intro hexpense
    simp only [expenseTypes, List.contains_cons, List.contains_nil, Bool.or_false, Bool.or_eq_true,
      beq_iff_eq] at hexpense
    rcases hexpense with heq | heq | heq
    · exact hnever "expense" (by decide) heq
    · exact hnever "expense_depreciation" (by decide) heq
    · exact hnever "expense_direct_cost" (by decide) heq

theorem earnings_addBalance {state next : List (BalanceSheetItem ℚ) × ℚ} {entry : Int × ℚ}
    (hincrement : increment ≠ 0) (hmultiple : Multiple increment entry.2)
    (hadd : addBalance accounts increment state entry = .ok next) :
    next.2 = state.2 - earningsOf accounts entry.1 entry.2 := by
  unfold addBalance at hadd
  obtain ⟨account, haccount, hrest⟩ := except_bind_ok.mp hadd
  obtain ⟨balance, hbalance, hrest⟩ := except_bind_ok.mp hrest
  obtain ⟨group, hgroup, hdone⟩ := except_bind_ok.mp hrest
  rw [hmultiple.roundedTo_eq hincrement] at hbalance
  cases hbalance
  unfold earningsOf isEarnings
  rw [typeOf_of_accountOf haccount, Option.any_some]
  cases group with
  | none =>
      simp only at hdone
      split at hdone
      · rename_i hincome
        cases hdone
        rw [hincome, Bool.true_or, if_pos rfl, sub_eq_add_neg]
        rfl
      · rename_i hincome
        split at hdone
        · rename_i hexpense
          cases hdone
          rw [hexpense, Bool.or_true, if_pos rfl]
          rfl
        · rename_i hexpense
          cases hdone
          rw [Bool.eq_false_of_not_eq_true hincome, Bool.eq_false_of_not_eq_true hexpense,
            Bool.or_false, if_neg Bool.false_ne_true, sub_zero]
  | some group =>
      cases hdone
      rw [earnings_ne_group hgroup, if_neg Bool.false_ne_true, sub_zero]

/-- Everything the items and the earnings hold is a multiple of the increment. -/
structure Whole (increment : ℚ) (state : List (BalanceSheetItem ℚ) × ℚ) : Prop where
  items : ∀ item ∈ state.1, Multiple increment item.signedBalance
  earnings : Multiple increment state.2

theorem whole_addBalance {state next : List (BalanceSheetItem ℚ) × ℚ} {entry : Int × ℚ}
    (hincrement : increment ≠ 0) (hmultiple : Multiple increment entry.2)
    (hwhole : Whole increment state)
    (hadd : addBalance accounts increment state entry = .ok next) : Whole increment next := by
  have hearnings : Multiple increment next.2 := by
    rw [earnings_addBalance hincrement hmultiple hadd]
    unfold earningsOf
    split
    · exact hwhole.earnings.sub hmultiple
    · exact hwhole.earnings.sub Multiple.zero
  refine ⟨?_, hearnings⟩
  unfold addBalance at hadd
  obtain ⟨account, -, hrest⟩ := except_bind_ok.mp hadd
  obtain ⟨balance, hbalance, hrest⟩ := except_bind_ok.mp hrest
  obtain ⟨group, -, hdone⟩ := except_bind_ok.mp hrest
  rw [hmultiple.roundedTo_eq hincrement] at hbalance
  cases hbalance
  cases group with
  | none =>
      simp only at hdone
      split at hdone
      · cases hdone
        exact hwhole.items
      · split at hdone <;> cases hdone <;> exact hwhole.items
  | some group =>
      cases hdone
      intro item hitem
      rcases List.mem_append.mp hitem with hbefore | hnew
      · exact hwhole.items item hbefore
      · rw [List.mem_singleton.mp hnew]
        simp only
        split
        · exact hmultiple
        · exact hmultiple.neg

/-- What the accounts add up to. -/
theorem totals_addBalances {state last : List (BalanceSheetItem ℚ) × ℚ} {balances : Tally Int ℚ}
    (hincrement : increment ≠ 0) (hmultiples : ∀ entry ∈ balances, Multiple increment entry.2)
    (hwhole : Whole increment state)
    (hlast : balances.foldlM (addBalance accounts increment) state = .ok last) :
    netOf last = netOf state + Tally.weigh (onBalance accounts) balances ∧
      last.2 = state.2 - Tally.weigh (earningsOf accounts) balances ∧ Whole increment last := by
  induction balances generalizing state with
  | nil =>
      cases hlast
      exact ⟨(add_zero _).symm, (sub_zero _).symm, hwhole⟩
  | cons entry balances ih =>
      rw [List.forall_mem_cons] at hmultiples
      rw [List.foldlM_cons] at hlast
      obtain ⟨next, hnext, hrest⟩ := except_bind_ok.mp hlast
      obtain ⟨hnet, hearnings, hlater⟩ := ih hmultiples.2
        (whole_addBalance hincrement hmultiples.1 hwhole hnext) hrest
      refine ⟨?_, ?_, hlater⟩
      · rw [hnet, netOf_addBalance hincrement hmultiples.1 hnext, Tally.weigh_cons, add_assoc]
      · rw [hearnings, earnings_addBalance hincrement hmultiples.1 hnext, Tally.weigh_cons,
          sub_sub]

/-- A weight that is linear in the balance weighs the lines as it weighs their accounts. -/
theorem weigh_balancesOf {weight : Int → ℚ → ℚ} (lines : List AccountMoveLine)
    (hzero : ∀ identifier, weight identifier 0 = 0)
    (hadd : ∀ identifier first second,
      weight identifier (first + second) = weight identifier first + weight identifier second) :
    Tally.weigh weight (balancesOf lines) =
      (lines.map fun line => weight line.account.id line.balance.value).sum := by
  rw [balancesOf, Tally.weigh_changeAll weight
    (fun line : AccountMoveLine => weight line.account.id line.balance.value)
    (fun line _ => hzero line.account.id)
    (fun line _ value => hadd line.account.id value line.balance.value)]
  exact zero_add _

theorem totalOf_perm {first second : List (BalanceSheetItem ℚ)} (hperm : first.Perm second)
    (group : BalanceGroup) : totalOf group first = totalOf group second := by
  unfold totalOf
  rw [total_exact, total_exact]
  exact ((hperm.filter _).map _).sum_eq

theorem multiple_totalOf {items : List (BalanceSheetItem ℚ)}
    (hitems : ∀ item ∈ items, Multiple increment item.signedBalance) (group : BalanceGroup) :
    Multiple increment (totalOf group items) := by
  unfold totalOf
  rw [total_exact]
  refine Multiple.sum fun value hvalue => ?_
  obtain ⟨item, hitem, rfl⟩ := List.mem_map.mp hvalue
  exact hitems item (List.mem_of_mem_filter hitem)

def netBalance (accounts : List Account) (lines : List AccountMoveLine) : ℚ :=
  (lines.map fun line => onBalance accounts line.account.id line.balance.value).sum

def earningsBalance (accounts : List Account) (lines : List AccountMoveLine) : ℚ :=
  (lines.map fun line => earningsOf accounts line.account.id line.balance.value).sum

theorem balanceSheetSummary_exact {items : List (BalanceSheetItem ℚ)} {earnings : ℚ}
    (hincrement : increment ≠ 0) (hwhole : Whole increment (items, earnings)) :
    ∃ summary, balanceSheetSummary increment items earnings = .ok summary ∧
      summary.totalAssets - summary.totalLiabilities - summary.totalEquity =
        netOf (items, earnings) ∧
      summary.unclosedEarnings = earnings ∧
      (summary.isBalanced = true ↔ netOf (items, earnings) = 0) := by
  have hnet : Multiple increment (netOf (items, earnings)) :=
    ((multiple_totalOf hwhole.items .asset).sub (multiple_totalOf hwhole.items .liability)).sub
      ((multiple_totalOf hwhole.items .equity).add hwhole.earnings)
  refine ⟨⟨items.length, totalOf .asset items, totalOf .liability items, totalOf .equity items,
    earnings, totalOf .equity items + earnings, netOf (items, earnings),
    same (netOf (items, earnings)) zero⟩, ?_, rfl, rfl, ?_⟩
  · unfold balanceSheetSummary
    rw [hwhole.earnings.roundedTo_eq hincrement, except_bind_ok]
    refine ⟨earnings, rfl, ?_⟩
    have hrounded := hnet.roundedTo_eq hincrement
    change (roundedTo (netOf (items, earnings)) increment >>= _) = _
    rw [hrounded]
    rfl
  · change decide (netOf (items, earnings) = zero) = true ↔ _
    rw [decide_eq_true_iff, zero_exact]

/-- The balance sheet leaves out the off-balance lines only. -/
theorem balanceSheetOf_exact {casefold : String → String} {lines : List AccountMoveLine}
    {report : WholeReport (BalanceSheetItem ℚ) (BalanceSheetSummary ℚ)}
    (hincrement : increment ≠ 0)
    (hmultiples : ∀ line ∈ lines, Multiple increment line.balance.value)
    (hreport : balanceSheetOf casefold [] increment lines accounts = .ok report) :
    report.summary.totalAssets - report.summary.totalLiabilities - report.summary.totalEquity =
        netBalance accounts lines ∧
      report.summary.unclosedEarnings = -earningsBalance accounts lines ∧
      (report.summary.isBalanced = true ↔ netBalance accounts lines = 0) := by
  unfold balanceSheetOf at hreport
  obtain ⟨_, -, hrest⟩ := except_bind_ok.mp hreport
  obtain ⟨balances, hbalances, hrest⟩ := except_bind_ok.mp hrest
  rw [balances_exact] at hbalances
  cases hbalances
  obtain ⟨last, hlast, hrest⟩ := except_bind_ok.mp hrest
  obtain ⟨summary, hsummary, hdone⟩ := except_bind_ok.mp hrest
  cases hdone
  have hstart : Whole increment (([] : List (BalanceSheetItem ℚ)), (zero : ℚ)) :=
    ⟨by simp, zero_exact ▸ Multiple.zero⟩
  obtain ⟨hnet, hearnings, hwhole⟩ :=
    totals_addBalances hincrement (multiple_balances hmultiples) hstart hlast
  have hbefore : netOf (([] : List (BalanceSheetItem ℚ)), (zero : ℚ)) = 0 := by
    simp [netOf, totalOf, total_exact, zero_exact]
  rw [hbefore, zero_add, weigh_balancesOf] at hnet
  rw [zero_exact, zero_sub, weigh_balancesOf] at hearnings
  · have hsorted : (sortedBalanceItems casefold last.1).Perm last.1 :=
      List.perm_insertionSort _ last.1
    generalize sortedBalanceItems casefold last.1 = items at hsorted hsummary ⊢
    have hitems : Whole increment (items, last.2) :=
      ⟨fun item hitem => hwhole.items item (hsorted.mem_iff.mp hitem), hwhole.earnings⟩
    obtain ⟨found, hfound, hequation, hunclosed, hbalanced⟩ :=
      balanceSheetSummary_exact hincrement hitems
    have hsame : netOf (items, last.2) = netBalance accounts lines := by
      rw [netBalance, ← hnet]
      unfold netOf
      simp only [totalOf_perm hsorted]
    rw [hsame] at hequation hbalanced
    cases hsummary.symm.trans hfound
    exact ⟨hequation, hunclosed.trans hearnings, hbalanced⟩
  · intro identifier
    unfold earningsOf
    split <;> rfl
  · intro identifier first second
    unfold earningsOf
    split
    · rfl
    · exact (add_zero 0).symm
  · intro identifier
    unfold onBalance
    split <;> rfl
  · intro identifier first second
    unfold onBalance
    split
    · exact (add_zero 0).symm
    · rfl

end BalanceSheet

/-! ### The books -/

section Books

variable {ledger : Ledger} {casefold : String → String}

def balanceSheetLines (ledger : Ledger) (request : BalanceSheetInput) : List AccountMoveLine :=
  ledger.lines.filter fun line =>
    line.moveState = .posted && line.date.ordinal ≤ request.asOfDate.ordinal

def accountsOf (ledger : Ledger) (lines : List AccountMoveLine) : List Account :=
  ledger.accounts.filter fun account => (lineAccounts lines).contains account.id

theorem mem_lineAccounts {lines : List AccountMoveLine} {identifier : Int} :
    identifier ∈ lineAccounts lines ↔ ∃ line ∈ lines, line.account.id = identifier := by
  rw [lineAccounts, AccountingReader.mem_sortedSet, List.mem_map]

theorem typeOf_accountsOf {lines : List AccountMoveLine} {line : AccountMoveLine}
    (hline : line ∈ lines) :
    typeOf (accountsOf ledger lines) line.account.id = ledger.accountType? line.account.id := by
  have hread : (lineAccounts lines).contains line.account.id = true :=
    List.contains_iff_mem.mpr (mem_lineAccounts.mpr ⟨line, hline, rfl⟩)
  unfold typeOf accountsOf Ledger.accountType?
  rw [List.find?_filter]
  have hsame : (fun account : Account => decide ((lineAccounts lines).contains account.id = true ∧
      decide (account.id = line.account.id) = true)) =
      fun account => decide (account.id = line.account.id) := by
    funext account
    rw [decide_eq_decide, decide_eq_true_iff]
    exact ⟨And.right, fun hid => ⟨hid ▸ hread, hid⟩⟩
  rw [hsame]

theorem balanceSheet_ok {request : BalanceSheetInput} {currencyId : Int}
    {report : WholeReport (BalanceSheetItem ℚ) (BalanceSheetSummary ℚ)} :
    ledger.report (balanceSheet casefold request currencyId) = .ok report ↔
      checkLines ledger.rounding.value none request.asOfDate balanceSheetSourceUnreconciled
          (balanceSheetLines ledger request) = .ok () ∧
        balanceSheetOf casefold request.analyticAccountIds ledger.rounding.value
            (balanceSheetLines ledger request)
            (accountsOf ledger (balanceSheetLines ledger request)) = .ok report ∧
        (request.analyticAccountIds = [] → report.summary.isBalanced = true) := by
  have hlines : ledger.source (.moveLines (balanceSheetFilters request)) =
      .ok (balanceSheetLines ledger request) := by
    refine congrArg Except.ok (List.filter_congr fun line _ => ?_)
    rw [Bool.eq_iff_iff]
    simp [balanceSheetFilters, Ledger.linePasses, text_posted]
  unfold balanceSheet
  rw [Ledger.report_read rfl, Ledger.report_read rfl, Ledger.report_read hlines,
    Ledger.report_ofExcept_ok]
  constructor
  · rintro ⟨_, hcheck, hrest⟩
    rw [Ledger.report_read rfl, Ledger.report_ofExcept_ok] at hrest
    obtain ⟨found, hfound, hrest⟩ := hrest
    rw [Ledger.report_ofExcept_ok] at hrest
    obtain ⟨_, hbalanced, hdone⟩ := hrest
    cases hdone
    refine ⟨hcheck, hfound, fun hall => ?_⟩
    rw [ensure_ok, hall] at hbalanced
    exact hbalanced
  · rintro ⟨hcheck, hfound, hbalanced⟩
    refine ⟨(), hcheck, ?_⟩
    rw [Ledger.report_read rfl, Ledger.report_ofExcept_ok]
    refine ⟨report, hfound, ?_⟩
    rw [Ledger.report_ofExcept_ok]
    refine ⟨(), ensure_ok.mpr ?_, rfl⟩
    cases hall : request.analyticAccountIds with
    | nil => exact hbalanced hall
    | cons _ _ => rfl

def offBalance (ledger : Ledger) (line : AccountMoveLine) : Bool :=
  ledger.accountType? line.account.id = some "off_balance"

theorem netBalance_eq (lines : List AccountMoveLine) :
    netBalance (accountsOf ledger lines) lines =
      sumOf (·.balance) lines - sumOf (·.balance) (lines.filter (offBalance ledger)) := by
  have hsum (rest : List AccountMoveLine) (hrest : ∀ line ∈ rest, line ∈ lines) :
      (rest.map fun line => onBalance (accountsOf ledger lines) line.account.id
        line.balance.value).sum =
        sumOf (·.balance) rest - sumOf (·.balance) (rest.filter (offBalance ledger)) := by
    induction rest with
    | nil => exact (sub_self 0).symm
    | cons line rest ih =>
        rw [List.forall_mem_cons] at hrest
        rw [List.map_cons, List.sum_cons, ih hrest.2, sumOf_cons, sumOf_filter_cons, onBalance,
          typeOf_accountsOf hrest.1]
        by_cases hoff : ledger.accountType? line.account.id = some "off_balance"
        · have hline : offBalance ledger line = true := decide_eq_true hoff
          rw [if_pos hoff, if_pos hline]
          ring
        · have hline : ¬offBalance ledger line = true := fun hline =>
            hoff (of_decide_eq_true hline)
          rw [if_neg hoff, if_neg hline]
          ring
  exact hsum lines fun _ hline => hline

/-- What a statement checks of the lines it has read: their amounts agree up to rounding, and their
accounts are known and of a known type. -/
structure WellFormed (ledger : Ledger) (lines : List AccountMoveLine) : Prop where
  amounts : ∀ line ∈ lines, validateLineAmount ledger.rounding.value line = .ok ()
  accounts : ∀ line ∈ lines, ∃ account ∈ ledger.accounts, account.id = line.account.id ∧
    ∃ group, balanceGroup account.accountType = .ok group

theorem forM_ok {ε α : Type} {check : α → Except ε Unit} {items : List α} :
    items.forM check = .ok () ↔ ∀ item ∈ items, check item = .ok () := by
  induction items with
  | nil => exact iff_of_true rfl (by simp)
  | cons item items ih =>
      change (check item >>= fun _ => items.forM check) = .ok () ↔ _
      rw [except_bind_ok, List.forall_mem_cons, ← ih]
      constructor
      · rintro ⟨_, hitem, hrest⟩
        exact ⟨hitem, hrest⟩
      · rintro ⟨hitem, hrest⟩
        exact ⟨(), hitem, hrest⟩

theorem foldlM_some {ε α β : Type} {step : β → α → Except ε β} {items : List α}
    (hstep : ∀ item ∈ items, ∀ state, ∃ next, step state item = .ok next) (state : β) :
    ∃ last, items.foldlM step state = .ok last := by
  induction items generalizing state with
  | nil => exact ⟨state, rfl⟩
  | cons item items ih =>
      rw [List.forall_mem_cons] at hstep
      obtain ⟨next, hnext⟩ := hstep.1 state
      obtain ⟨last, hlast⟩ := ih hstep.2 next
      exact ⟨last, by rw [List.foldlM_cons]; exact except_bind_ok.mpr ⟨next, hnext, hlast⟩⟩

theorem accountOf_accountsOf {lines : List AccountMoveLine} {line : AccountMoveLine}
    (hline : line ∈ lines) {account : Account} (haccount : account ∈ ledger.accounts)
    (hid : account.id = line.account.id) :
    accountOf (accountsOf ledger lines) line.account.id = .ok account := by
  rw [accountOf_ok]
  have hmem : account ∈ accountsOf ledger lines :=
    List.mem_filter.mpr ⟨haccount, List.contains_iff_mem.mpr
      (mem_lineAccounts.mpr ⟨line, hline, hid.symm⟩)⟩
  cases hfound : (accountsOf ledger lines).find? (·.id = line.account.id) with
  | none =>
      have hnone := List.find?_eq_none.mp hfound account hmem
      simp [hid] at hnone
  | some found =>
      have hselected := List.find?_some hfound
      have hsame : found.id = account.id := (of_decide_eq_true hselected).trans hid.symm
      have hknown : found ∈ ledger.accounts :=
        List.mem_of_mem_filter (List.mem_of_find?_eq_some hfound)
      rw [List.inj_on_of_nodup_map ledger.accounts_nodup hknown haccount hsame]

theorem checkAccounts_accountsOf {lines : List AccountMoveLine} (hlines : WellFormed ledger lines) :
    checkAccounts (accountsOf ledger lines) (lineAccounts lines) = .ok () := by
  rw [checkAccounts, ensure_ok, Bool.and_eq_true, Bool.and_eq_true, decide_eq_true_iff,
    List.all_eq_true, List.all_eq_true]
  refine ⟨⟨?_, ?_⟩, ?_⟩
  · exact (List.filter_sublist.map _).nodup ledger.accounts_nodup
  · exact fun account haccount => (List.mem_filter.mp haccount).2
  · intro identifier hidentifier
    obtain ⟨line, hline, rfl⟩ := mem_lineAccounts.mp hidentifier
    obtain ⟨account, haccount, hid, -⟩ := hlines.accounts line hline
    have hmem : account ∈ accountsOf ledger lines :=
      List.mem_filter.mpr ⟨haccount, List.contains_iff_mem.mpr (hid ▸ hidentifier)⟩
    exact List.contains_iff_mem.mpr (hid ▸ List.mem_map_of_mem hmem)

variable (casefold) in
/-- With well-formed lines the balance sheet is drawn up, balanced or not. -/
theorem balanceSheetOf_some {lines : List AccountMoveLine} (hlines : WellFormed ledger lines)
    (hmultiples : ∀ line ∈ lines, Multiple ledger.rounding.value line.balance.value) :
    ∃ report, balanceSheetOf casefold [] ledger.rounding.value lines (accountsOf ledger lines) =
      .ok report := by
  have hincrement : ledger.rounding.value ≠ 0 := ne_of_gt ledger.rounding_pos
  have hbalances := multiple_balances hmultiples
  have hstep : ∀ entry ∈ balancesOf lines, ∀ state, ∃ next,
      addBalance (accountsOf ledger lines) ledger.rounding.value state entry = .ok next := by
    intro entry hentry state
    have hkey : entry.1 ∈ (balancesOf lines).map Prod.fst := List.mem_map_of_mem hentry
    rcases Tally.mem_keys_changeAll.mp hkey with hnone | ⟨line, hline, hid⟩
    · cases hnone
    · obtain ⟨account, haccount, hsame, group, hgroup⟩ := hlines.accounts line hline
      have hfound := accountOf_accountsOf hline haccount hsame
      unfold addBalance
      rw [← hid, hfound, (hbalances entry hentry).roundedTo_eq hincrement]
      simp only [bind, Except.bind, hgroup]
      cases group with
      | none =>
          simp only
          split
          · exact ⟨_, rfl⟩
          · split <;> exact ⟨_, rfl⟩
      | some group => exact ⟨_, rfl⟩
  obtain ⟨last, hlast⟩ := foldlM_some hstep ([], zero)
  have hstart : Whole ledger.rounding.value (([] : List (BalanceSheetItem ℚ)), (zero : ℚ)) :=
    ⟨by simp, zero_exact ▸ Multiple.zero⟩
  obtain ⟨-, -, hwhole⟩ := totals_addBalances hincrement hbalances hstart hlast
  obtain ⟨summary, hsummary, -⟩ := balanceSheetSummary_exact hincrement
    (⟨fun item hitem => hwhole.items item ((List.perm_insertionSort _ _).mem_iff.mp hitem),
      hwhole.earnings⟩ : Whole ledger.rounding.value (sortedBalanceItems casefold last.1, last.2))
  refine ⟨⟨sortedBalanceItems casefold last.1, summary⟩, ?_⟩
  unfold balanceSheetOf
  rw [checkAccounts_accountsOf hlines, balances_exact, except_bind_ok]
  refine ⟨(), rfl, ?_⟩
  rw [except_bind_ok]
  refine ⟨_, rfl, ?_⟩
  rw [except_bind_ok]
  refine ⟨last, hlast, ?_⟩
  rw [except_bind_ok]
  exact ⟨summary, hsummary, rfl⟩

/-- The lines of the books pass the checks if their amounts agree and they net to zero. -/
theorem checkLines_exact {request : BalanceSheetInput}
    (hlines : WellFormed ledger (balanceSheetLines ledger request))
    (hzero : sumOf (·.balance) (balanceSheetLines ledger request) = 0) :
    checkLines ledger.rounding.value none request.asOfDate balanceSheetSourceUnreconciled
      (balanceSheetLines ledger request) = .ok () := by
  have hvalid : validateStatementLines none request.asOfDate (balanceSheetLines ledger request) =
      .ok () := by
    rw [validateStatementLines, ensure_ok, List.all_eq_true]
    intro line hline
    simpa using (List.mem_filter.mp hline).2
  have htotal : total ((balanceSheetLines ledger request).map fun line =>
      (ofDecimal line.balance : ℚ)) = 0 := by
    rw [total_exact]
    exact hzero
  have hrounded : roundedTo (0 : ℚ) ledger.rounding.value = .ok 0 :=
    Multiple.zero.roundedTo_eq (ne_of_gt ledger.rounding_pos)
  unfold checkLines
  rw [hvalid, validateLineAmounts, forM_ok.mpr hlines.amounts, htotal, hrounded]
  change ensure (decide ((0 : ℚ) = zero)) _ = _
  rw [ensure_ok, decide_eq_true_iff, zero_exact]

theorem exists_step_of_foldlM {ε α β : Type} {step : β → α → Except ε β} {items : List α}
    {state last : β} (hlast : items.foldlM step state = .ok last) {item : α}
    (hitem : item ∈ items) :
    ∃ before after, step before item = .ok after := by
  induction items generalizing state with
  | nil => cases hitem
  | cons first items ih =>
      rw [List.foldlM_cons] at hlast
      obtain ⟨next, hnext, hrest⟩ := except_bind_ok.mp hlast
      rcases List.mem_cons.mp hitem with rfl | hlater
      · exact ⟨state, next, hnext⟩
      · exact ih hrest hlater

/-- The report refuses all other lines. -/
theorem wellFormed_of_accepted {request : BalanceSheetInput} {currencyId : Int}
    {report : WholeReport (BalanceSheetItem ℚ) (BalanceSheetSummary ℚ)}
    (hanalytic : request.analyticAccountIds = [])
    (hreport : ledger.report (balanceSheet casefold request currencyId) = .ok report) :
    WellFormed ledger (balanceSheetLines ledger request) := by
  obtain ⟨hcheck, hsheet, -⟩ := balanceSheet_ok.mp hreport
  rw [hanalytic] at hsheet
  obtain ⟨_, -, hrest⟩ := except_bind_ok.mp hcheck
  obtain ⟨_, hamounts, -⟩ := except_bind_ok.mp hrest
  refine ⟨forM_ok.mp hamounts, fun line hline => ?_⟩
  obtain ⟨_, -, hrest⟩ := except_bind_ok.mp hsheet
  obtain ⟨balances, hbalances, hrest⟩ := except_bind_ok.mp hrest
  rw [balances_exact] at hbalances
  cases hbalances
  obtain ⟨last, hlast, -⟩ := except_bind_ok.mp hrest
  have hkey : line.account.id ∈ (balancesOf (balanceSheetLines ledger request)).map Prod.fst :=
    Tally.mem_keys_changeAll.mpr (.inr ⟨line, hline, rfl⟩)
  obtain ⟨entry, hentry, hid⟩ := List.mem_map.mp hkey
  obtain ⟨before, after, hstep⟩ := exists_step_of_foldlM hlast hentry
  obtain ⟨account, haccount, hrest⟩ := except_bind_ok.mp hstep
  obtain ⟨_, -, hrest⟩ := except_bind_ok.mp hrest
  obtain ⟨group, hgroup, -⟩ := except_bind_ok.mp hrest
  rw [accountOf_ok] at haccount
  have hselected := List.find?_some haccount
  exact ⟨account, List.mem_of_mem_filter (List.mem_of_find?_eq_some haccount),
    (of_decide_eq_true hselected).trans hid, group, hgroup⟩

/-- **The balance sheet equation.** Assets less liabilities and equity are the balances of all lines
up to the day but those off the balance sheet; so where all lines net to zero, the report is
accepted if and only if the off-balance lines do. -/
theorem balance_sheet_equation (casefold : String → String) (request : BalanceSheetInput)
    (currencyId : Int)
    (hanalytic : request.analyticAccountIds = [])
    (hmultiples : ∀ line ∈ balanceSheetLines ledger request,
      Multiple ledger.rounding.value line.balance.value)
    (hlines : WellFormed ledger (balanceSheetLines ledger request)) :
    let lines := balanceSheetLines ledger request
    let offLines := lines.filter (offBalance ledger)
    (∃ report, balanceSheetOf casefold [] ledger.rounding.value lines (accountsOf ledger lines) =
        .ok report ∧
      report.summary.totalAssets - report.summary.totalLiabilities - report.summary.totalEquity =
        sumOf (·.balance) lines - sumOf (·.balance) offLines) ∧
    (sumOf (·.balance) lines = 0 →
      ((∃ report : WholeReport (BalanceSheetItem ℚ) (BalanceSheetSummary ℚ),
          ledger.report (balanceSheet casefold request currencyId) = .ok report) ↔
        sumOf (·.balance) offLines = 0)) := by
  have hincrement : ledger.rounding.value ≠ 0 := ne_of_gt ledger.rounding_pos
  obtain ⟨report, hreport⟩ := balanceSheetOf_some casefold hlines hmultiples
  obtain ⟨hequation, -, hbalanced⟩ := balanceSheetOf_exact hincrement hmultiples hreport
  rw [netBalance_eq] at hequation hbalanced
  refine ⟨⟨report, hreport, hequation⟩, fun hzero => ?_⟩
  rw [hzero, zero_sub, neg_eq_zero] at hbalanced
  rw [← hbalanced]
  constructor
  · rintro ⟨found, hfound⟩
    obtain ⟨-, hsame, haccepted⟩ := balanceSheet_ok.mp hfound
    rw [hanalytic, hreport] at hsame
    cases hsame
    exact haccepted hanalytic
  · intro haccepted
    refine ⟨report, balanceSheet_ok.mpr ⟨checkLines_exact hlines hzero, ?_, fun _ => haccepted⟩⟩
    rw [hanalytic]
    exact hreport

/-! ### Profit and loss -/

def profitAndLossLines (ledger : Ledger) (request : ProfitAndLossInput) : List AccountMoveLine :=
  ledger.lines.filter fun line => line.moveState = .posted &&
    request.periodStart.ordinal ≤ line.date.ordinal &&
      line.date.ordinal ≤ request.periodEnd.ordinal

theorem profitAndLoss_ok {request : ProfitAndLossInput} {currencyId : Int}
    {report : WholeReport (ProfitAndLossItem ℚ) (ProfitAndLossSummary ℚ)}
    (hreport : ledger.report (profitAndLoss casefold request currencyId) = .ok report) :
    profitAndLossOf casefold request.analyticAccountIds ledger.rounding.value
      (profitAndLossLines ledger request) (accountsOf ledger (profitAndLossLines ledger request)) =
        .ok report := by
  have hlines : ledger.source (.moveLines (profitAndLossFilters request)) =
      .ok (profitAndLossLines ledger request) := by
    refine congrArg Except.ok (List.filter_congr fun line _ => ?_)
    rw [Bool.eq_iff_iff]
    simp [profitAndLossFilters, Ledger.linePasses, text_posted, and_assoc]
  unfold profitAndLoss at hreport
  rw [Ledger.report_read rfl, Ledger.report_read rfl, Ledger.report_read hlines,
    Ledger.report_ofExcept_ok] at hreport
  obtain ⟨_, -, hrest⟩ := hreport
  rw [Ledger.report_read rfl, Ledger.report_ofExcept] at hrest
  exact hrest

/-- Equal amounts, and not only up to rounding. -/
theorem balance_of_validated {increment : ℚ} {line : AccountMoveLine} (hincrement : increment ≠ 0)
    (hbalance : Multiple increment line.balance.value)
    (hdebit : Multiple increment line.debit.value) (hcredit : Multiple increment line.credit.value)
    (hvalid : validateLineAmount increment line = .ok ()) :
    line.balance.value = line.debit.value - line.credit.value := by
  obtain ⟨difference, hdifference, hsame⟩ := except_bind_ok.mp hvalid
  have hrounded := ((hbalance.sub hdebit).add hcredit).roundedTo_eq hincrement
  cases hdifference.symm.trans hrounded
  have hzero : line.balance.value - line.debit.value + line.credit.value = 0 := by
    rw [ensure_ok] at hsame
    exact (of_decide_eq_true hsame).trans zero_exact
  linarith

/-- The lines of income and expense accounts. -/
theorem pnlGroup_some {accountType : String} {group : Option PnlGroup}
    (hgroup : pnlGroup accountType = .ok group) :
    group.isSome = (incomeTypes.contains accountType || expenseTypes.contains accountType) := by
  unfold pnlGroup at hgroup
  split at hgroup
  · rename_i hincome
    cases hgroup
    rw [hincome]
    rfl
  rename_i hincome
  split at hgroup
  · rename_i hexpense
    cases hgroup
    rw [hexpense, Bool.or_true]
    rfl
  rename_i hexpense
  split at hgroup
  · cases hgroup
    rw [Bool.eq_false_of_not_eq_true hincome, Bool.eq_false_of_not_eq_true hexpense]
    rfl
  · cases hgroup

def profitOf (_identifier : Int) (value : PnlValue ℚ) : ℚ := value.credit - value.debit

/-- The credits less the debits of the line, if it is of an income or expense account. -/
def lineProfit (accounts : List Account) (line : AccountMoveLine) : ℚ :=
  if isEarnings accounts line.account.id then line.credit.value - line.debit.value else 0

def WholeValue (increment : ℚ) (_identifier : Int) (value : PnlValue ℚ) : Prop :=
  Multiple increment value.debit ∧ Multiple increment value.credit

theorem addPnlLine_exact {accounts : List Account} {increment : ℚ}
    {values next : Tally Int (PnlValue ℚ)} {line : AccountMoveLine}
    (hadd : addPnlLine accounts [] values line = .ok next)
    (hdebit : Multiple increment line.debit.value) (hcredit : Multiple increment line.credit.value)
    (hwhole : ∀ entry ∈ values, WholeValue increment entry.1 entry.2) :
    Tally.weigh profitOf next = Tally.weigh profitOf values + lineProfit accounts line ∧
      ∀ entry ∈ next, WholeValue increment entry.1 entry.2 := by
  unfold addPnlLine at hadd
  obtain ⟨account, haccount, hrest⟩ := except_bind_ok.mp hadd
  obtain ⟨group, hgroup, hdone⟩ := except_bind_ok.mp hrest
  have hearnings : isEarnings accounts line.account.id = group.isSome := by
    rw [isEarnings, typeOf_of_accountOf haccount, Option.any_some, pnlGroup_some hgroup]
  unfold lineProfit
  rw [hearnings]
  cases group with
  | none =>
      cases hdone
      exact ⟨(add_zero _).symm, hwhole⟩
  | some group =>
      rw [analyticFactor_exact] at hdone
      change (if same (1 : ℚ) zero then _ else _) = _ at hdone
      rw [same_one_zero] at hdone
      cases hdone
      rw [zero_exact]
      have hmul (amount : Decimal) : mul (ofDecimal amount : ℚ) 1 = amount.value := mul_one _
      simp only [hmul]
      refine ⟨?_, Tally.forall_change hwhole ⟨Multiple.zero, Multiple.zero⟩ ?_⟩
      · refine Tally.weigh_change (sub_self 0) (fun value => ?_) values
        change value.credit + line.credit.value - (value.debit + line.debit.value) =
          value.credit - value.debit + (line.credit.value - line.debit.value)
        ring
      · rintro value ⟨hvalueDebit, hvalueCredit⟩
        exact ⟨hvalueDebit.add hdebit, hvalueCredit.add hcredit⟩

theorem pnlValues_exact {accounts : List Account} {increment : ℚ} {lines : List AccountMoveLine}
    {values last : Tally Int (PnlValue ℚ)}
    (hlast : lines.foldlM (addPnlLine accounts []) values = .ok last)
    (hdebits : ∀ line ∈ lines, Multiple increment line.debit.value)
    (hcredits : ∀ line ∈ lines, Multiple increment line.credit.value)
    (hwhole : ∀ entry ∈ values, WholeValue increment entry.1 entry.2) :
    Tally.weigh profitOf last =
        Tally.weigh profitOf values + (lines.map (lineProfit accounts)).sum ∧
      ∀ entry ∈ last, WholeValue increment entry.1 entry.2 := by
  induction lines generalizing values with
  | nil =>
      cases hlast
      exact ⟨(add_zero _).symm, hwhole⟩
  | cons line lines ih =>
      rw [List.forall_mem_cons] at hdebits hcredits
      rw [List.foldlM_cons] at hlast
      obtain ⟨next, hnext, hrest⟩ := except_bind_ok.mp hlast
      obtain ⟨hprofit, hlater⟩ := addPnlLine_exact hnext hdebits.1 hcredits.1 hwhole
      obtain ⟨htotal, hend⟩ := ih hrest hdebits.2 hcredits.2 hlater
      refine ⟨?_, hend⟩
      rw [htotal, hprofit, List.map_cons, List.sum_cons, add_assoc]

def itemProfit (item : ProfitAndLossItem ℚ) : ℚ :=
  match item.group with
  | .income => item.signedBalance
  | .expense => -item.signedBalance

theorem itemProfit_pnlItem {accounts : List Account} {increment : ℚ} (hincrement : increment ≠ 0)
    {entry : Int × PnlValue ℚ} (hwhole : WholeValue increment entry.1 entry.2)
    {item : ProfitAndLossItem ℚ} (hitem : pnlItem accounts increment entry = .ok item) :
    itemProfit item = profitOf entry.1 entry.2 := by
  unfold pnlItem at hitem
  obtain ⟨account, -, hrest⟩ := except_bind_ok.mp hitem
  rw [hwhole.1.roundedTo_eq hincrement, hwhole.2.roundedTo_eq hincrement] at hrest
  cases hrest
  unfold itemProfit profitOf
  cases entry.2.group with
  | income => rfl
  | expense => exact neg_sub _ _

theorem netProfit_exact (items : List (ProfitAndLossItem ℚ)) :
    (pnlSummary items).netProfit = (items.map itemProfit).sum := by
  have hsplit : ((items.filter (·.group = .income)).map (·.signedBalance)).sum -
      ((items.filter (·.group = .expense)).map (·.signedBalance)).sum =
        (items.map itemProfit).sum := by
    induction items with
    | nil => exact sub_self 0
    | cons item items ih =>
        rw [List.map_cons, List.sum_cons, ← ih, itemProfit]
        cases hgroup : item.group with
        | income =>
            rw [List.filter_cons_of_pos (by simp [hgroup]),
              List.filter_cons_of_neg (by simp [hgroup]), List.map_cons, List.sum_cons]
            ring
        | expense =>
            rw [List.filter_cons_of_neg (by simp [hgroup]),
              List.filter_cons_of_pos (by simp [hgroup]), List.map_cons, List.sum_cons]
            ring
  rw [← hsplit, ← total_exact, ← total_exact]
  rfl

theorem profitAndLossOf_exact {accounts : List Account} {increment : ℚ}
    {lines : List AccountMoveLine}
    {report : WholeReport (ProfitAndLossItem ℚ) (ProfitAndLossSummary ℚ)}
    (hincrement : increment ≠ 0) (hdebits : ∀ line ∈ lines, Multiple increment line.debit.value)
    (hcredits : ∀ line ∈ lines, Multiple increment line.credit.value)
    (hreport : profitAndLossOf casefold [] increment lines accounts = .ok report) :
    report.summary.netProfit = (lines.map (lineProfit accounts)).sum := by
  unfold profitAndLossOf at hreport
  obtain ⟨_, -, hrest⟩ := except_bind_ok.mp hreport
  obtain ⟨values, hvalues, hrest⟩ := except_bind_ok.mp hrest
  obtain ⟨found, hfound, hdone⟩ := except_bind_ok.mp hrest
  cases hdone
  obtain ⟨hprofit, hwhole⟩ := pnlValues_exact hvalues hdebits hcredits (by simp)
  have hforall := forall₂_of_mapM_ok hfound
  have hsorted : (sortedPnlItems casefold found).Perm found := List.perm_insertionSort _ found
  have hitems : found.map itemProfit = values.map fun entry => profitOf entry.1 entry.2 :=
    map_of_forall₂ ((List.forall₂_and_left _ _).mpr ⟨hwhole, hforall⟩)
      fun _ _ hentry => itemProfit_pnlItem hincrement hentry.1 hentry.2
  rw [netProfit_exact, (hsorted.map itemProfit).sum_eq, hitems]
  exact hprofit.trans (zero_add _)

/-- The profit of lines whose amounts agree is what their accounts have not closed. -/
theorem sum_lineProfit {accounts : List Account} {lines : List AccountMoveLine}
    (hagree : ∀ line ∈ lines, line.balance.value = line.debit.value - line.credit.value) :
    (lines.map (lineProfit accounts)).sum = -earningsBalance accounts lines := by
  unfold earningsBalance
  induction lines with
  | nil => exact neg_zero.symm
  | cons line lines ih =>
      rw [List.forall_mem_cons] at hagree
      rw [List.map_cons, List.sum_cons, List.map_cons, List.sum_cons, ih hagree.2, lineProfit,
        earningsOf, hagree.1]
      split <;> ring

/-- **Profit and loss agrees with the balance sheet.** Over all lines up to a day, the net profit is
the unclosed earnings of the day. -/
theorem net_profit_eq_unclosed_earnings {period : ProfitAndLossInput} {request : BalanceSheetInput}
    {currencyId : Int} {profit : WholeReport (ProfitAndLossItem ℚ) (ProfitAndLossSummary ℚ)}
    {sheet : WholeReport (BalanceSheetItem ℚ) (BalanceSheetSummary ℚ)}
    (hperiod : period.analyticAccountIds = []) (hrequest : request.analyticAccountIds = [])
    (hends : period.periodEnd = request.asOfDate)
    (hcovers : ∀ line ∈ balanceSheetLines ledger request,
      period.periodStart.ordinal ≤ line.date.ordinal)
    (hmultiples : ∀ line ∈ balanceSheetLines ledger request,
      Multiple ledger.rounding.value line.debit.value ∧
        Multiple ledger.rounding.value line.credit.value ∧
        Multiple ledger.rounding.value line.balance.value)
    (hprofit : ledger.report (profitAndLoss casefold period currencyId) = .ok profit)
    (hsheet : ledger.report (balanceSheet casefold request currencyId) = .ok sheet) :
    profit.summary.netProfit = sheet.summary.unclosedEarnings := by
  have hincrement : ledger.rounding.value ≠ 0 := ne_of_gt ledger.rounding_pos
  have hlines : profitAndLossLines ledger period = balanceSheetLines ledger request := by
    refine List.filter_congr fun line hline => ?_
    rw [hends, Bool.eq_iff_iff]
    simp only [Bool.and_eq_true, decide_eq_true_eq]
    constructor
    · rintro ⟨⟨hposted, -⟩, hend⟩
      exact ⟨hposted, hend⟩
    · rintro ⟨hposted, hend⟩
      refine ⟨⟨hposted, hcovers line (List.mem_filter.mpr ⟨hline, ?_⟩)⟩, hend⟩
      simp [hposted, hend]
  have hreport := profitAndLoss_ok hprofit
  rw [hlines, hperiod] at hreport
  obtain ⟨hcheck, hbalance, -⟩ := balanceSheet_ok.mp hsheet
  rw [hrequest] at hbalance
  obtain ⟨_, -, hrest⟩ := except_bind_ok.mp hcheck
  obtain ⟨_, hamounts, -⟩ := except_bind_ok.mp hrest
  have hagree : ∀ line ∈ balanceSheetLines ledger request,
      line.balance.value = line.debit.value - line.credit.value := by
    intro line hline
    obtain ⟨hdebit, hcredit, hbalance⟩ := hmultiples line hline
    exact balance_of_validated hincrement hbalance hdebit hcredit (forM_ok.mp hamounts line hline)
  obtain ⟨-, hearnings, -⟩ := balanceSheetOf_exact hincrement
    (fun line hline => (hmultiples line hline).2.2) hbalance
  rw [profitAndLossOf_exact hincrement (fun line hline => (hmultiples line hline).1)
    (fun line hline => (hmultiples line hline).2.1) hreport, sum_lineProfit hagree, hearnings]

end Books

/-! ### The two entries again -/

theorem validateLineAmount_of_agree {increment : ℚ} {line : AccountMoveLine}
    (hincrement : increment ≠ 0)
    (hagree : line.balance.value = line.debit.value - line.credit.value) :
    validateLineAmount increment line = .ok () := by
  have hzero : add (sub (ofDecimal line.balance) (ofDecimal line.debit)) (ofDecimal line.credit) =
      (0 : ℚ) := by
    change line.balance.value - line.debit.value + line.credit.value = 0
    linarith
  unfold validateLineAmount
  rw [hzero, Multiple.zero.roundedTo_eq hincrement]
  exact except_bind_ok.mpr ⟨0, rfl, ensure_ok.mpr (decide_eq_true zero_exact.symm)⟩

theorem booked_lines {line : AccountMoveLine} (hline : line ∈ (bookedLedger ⟨false, 10, 0⟩).lines) :
    line.balance.value = line.debit.value - line.credit.value ∧
      Multiple (bookedLedger ⟨false, 10, 0⟩).rounding.value line.debit.value ∧
      Multiple (bookedLedger ⟨false, 10, 0⟩).rounding.value line.credit.value ∧
      Multiple (bookedLedger ⟨false, 10, 0⟩).rounding.value line.balance.value := by
  simp only [bookedLedger, List.mem_cons, List.not_mem_nil, or_false] at hline
  rcases hline with rfl | rfl
  · exact ⟨by decide +kernel, ⟨1000, by decide +kernel⟩, ⟨0, by decide +kernel⟩,
      ⟨1000, by decide +kernel⟩⟩
  · exact ⟨by decide +kernel, ⟨0, by decide +kernel⟩, ⟨1000, by decide +kernel⟩,
      ⟨-1000, by decide +kernel⟩⟩

def bookedDay : BalanceSheetInput := ⟨1, ⟨739020⟩, [], 100, none⟩

theorem wellFormed_booked : WellFormed (bookedLedger ⟨false, 10, 0⟩)
    (balanceSheetLines (bookedLedger ⟨false, 10, 0⟩) bookedDay) := by
  constructor
  · intro line hline
    exact validateLineAmount_of_agree (ne_of_gt (bookedLedger ⟨false, 10, 0⟩).rounding_pos)
      (booked_lines (List.mem_of_mem_filter hline)).1
  · intro line hline
    have hlisted := List.mem_of_mem_filter hline
    simp only [bookedLedger, List.mem_cons, List.not_mem_nil, or_false] at hlisted
    rcases hlisted with rfl | rfl
    · exact ⟨bookedAccount 30 "121000" "asset_receivable", by simp [bookedLedger], rfl, some .asset,
        by decide⟩
    · exact ⟨bookedAccount 31 "400000" "income", by simp [bookedLedger], rfl, none, by decide⟩

/-- The entries are on the balance sheet and net to zero, so that it is accepted. -/
theorem balance_sheet_equation_booked :
    ∃ report : WholeReport (BalanceSheetItem ℚ) (BalanceSheetSummary ℚ),
      (bookedLedger ⟨false, 10, 0⟩).report (balanceSheet id bookedDay 1) = .ok report := by
  have hequation := balance_sheet_equation id bookedDay 1 rfl
    (fun line hline => (booked_lines (List.mem_of_mem_filter hline)).2.2.2) wellFormed_booked
  refine (hequation.2 ?_).mpr ?_
  · decide +kernel
  · decide +kernel

/-- The balances of these entries are whole, net to zero and are all on the balance sheet, but they
are not the debits less the credits: the report refuses them. -/
theorem balance_sheet_refused_booked :
    (∀ line ∈ balanceSheetLines (bookedLedger ⟨false, 7, 0⟩) bookedDay,
      Multiple (bookedLedger ⟨false, 7, 0⟩).rounding.value line.balance.value) ∧
    sumOf (·.balance) (balanceSheetLines (bookedLedger ⟨false, 7, 0⟩) bookedDay) = 0 ∧
    sumOf (·.balance) ((balanceSheetLines (bookedLedger ⟨false, 7, 0⟩) bookedDay).filter
      (offBalance (bookedLedger ⟨false, 7, 0⟩))) = 0 ∧
    ¬ ∃ report : WholeReport (BalanceSheetItem ℚ) (BalanceSheetSummary ℚ),
      (bookedLedger ⟨false, 7, 0⟩).report (balanceSheet id bookedDay 1) = .ok report := by
  have hrefused : ((bookedLedger ⟨false, 7, 0⟩).report
      (balanceSheet (N := ℚ) id bookedDay 1)).isOk = false := by decide +kernel
  refine ⟨?_, by decide +kernel, by decide +kernel, ?_⟩
  · intro line hline
    have hlisted := List.mem_of_mem_filter hline
    simp only [bookedLedger, List.mem_cons, List.not_mem_nil, or_false] at hlisted
    rcases hlisted with rfl | rfl
    · exact ⟨700, by decide +kernel⟩
    · exact ⟨-700, by decide +kernel⟩
  · rintro ⟨report, hreport⟩
    rw [hreport] at hrefused
    cases hrefused

def bookedYear : ProfitAndLossInput := ⟨1, ⟨738991⟩, ⟨739020⟩, [], 100, none, by decide⟩

/-- The income of the entries is the unclosed earnings. -/
theorem net_profit_eq_unclosed_earnings_booked :
    ∃ (profit : WholeReport (ProfitAndLossItem ℚ) (ProfitAndLossSummary ℚ))
      (sheet : WholeReport (BalanceSheetItem ℚ) (BalanceSheetSummary ℚ)),
      (bookedLedger ⟨false, 10, 0⟩).report (profitAndLoss id bookedYear 1) = .ok profit ∧
      (bookedLedger ⟨false, 10, 0⟩).report (balanceSheet id bookedDay 1) = .ok sheet ∧
      profit.summary.netProfit = sheet.summary.unclosedEarnings := by
  have hprofit : ((bookedLedger ⟨false, 10, 0⟩).report
      (profitAndLoss (N := ℚ) id bookedYear 1)).isOk = true := by decide +kernel
  have hsheet : ((bookedLedger ⟨false, 10, 0⟩).report
      (balanceSheet (N := ℚ) id bookedDay 1)).isOk = true := by decide +kernel
  obtain ⟨profit, hprofit⟩ := ok_of_isOk hprofit
  obtain ⟨sheet, hsheet⟩ := ok_of_isOk hsheet
  refine ⟨profit, sheet, hprofit, hsheet, ?_⟩
  refine net_profit_eq_unclosed_earnings rfl rfl rfl (fun line hline => ?_) (fun line hline => ?_)
    hprofit hsheet
  · have hlisted := List.mem_of_mem_filter hline
    simp only [bookedLedger, List.mem_cons, List.not_mem_nil, or_false] at hlisted
    rcases hlisted with rfl | rfl <;> decide
  · exact (booked_lines (List.mem_of_mem_filter hline)).2

end Reports

end OdooMcp
