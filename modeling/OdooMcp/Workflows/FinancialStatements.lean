import OdooMcp.Tally
import OdooMcp.Workflows.TrialBalance

/-!
# Profit and loss, and the balance sheet

Both statements check the lines they read, find the group of each account from its type and sum the
lines of the accounts, in shares where the report is limited to some analytic accounts. The amounts
of an account are rounded to the currency before they are summed.
-/

namespace OdooMcp

namespace Reports

open Arithmetic Effect

/-! ### Types of accounts -/

def incomeTypes : List String := ["income", "income_other"]

def expenseTypes : List String := ["expense", "expense_depreciation", "expense_direct_cost"]

def equityTypes : List String := ["equity", "equity_unaffected"]

/-- `text.startswith(start)` -/
def startsWith (start text : String) : Bool := start.toList.isPrefixOf text.toList

inductive PnlGroup
  | income
  | expense
  deriving DecidableEq, Repr

inductive BalanceGroup
  | asset
  | liability
  | equity
  deriving DecidableEq, Repr

/-- `_pnl_group` -/
def pnlGroup (accountType : String) : Except PyException (Option PnlGroup) :=
  if incomeTypes.contains accountType then
    .ok (some .income)
  else if expenseTypes.contains accountType then
    .ok (some .expense)
  else if startsWith "asset_" accountType || startsWith "liability_" accountType ||
      equityTypes.contains accountType || accountType = "off_balance" then
    .ok none
  else
    .error invalidReportResponse

/-- `_balance_group` -/
def balanceGroup (accountType : String) : Except PyException (Option BalanceGroup) :=
  if startsWith "asset_" accountType then
    .ok (some .asset)
  else if startsWith "liability_" accountType then
    .ok (some .liability)
  else if equityTypes.contains accountType then
    .ok (some .equity)
  else if incomeTypes.contains accountType || expenseTypes.contains accountType ||
      accountType = "off_balance" then
    .ok none
  else
    .error invalidReportResponse

def PnlGroup.order : PnlGroup → Nat
  | .income => 0
  | .expense => 1

def BalanceGroup.order : BalanceGroup → Nat
  | .asset => 0
  | .liability => 1
  | .equity => 2

/-- `(group_order[group], code.casefold(), identifier)` of an item is at most that of another. -/
def groupBefore (first second : Nat × String × Int) : Bool :=
  first.1 < second.1 || (first.1 = second.1 && codeBefore first.2 second.2)

/-! ### Checks of the lines -/

variable {N : Type} [Arithmetic N]

/-- `_validate_statement_lines` -/
def validateStatementLines (start : Option Date) (finish : Date) (lines : List AccountMoveLine) :
    Except PyException Unit :=
  ensure (lines.all fun line => line.moveState = .posted && line.date.ordinal ≤ finish.ordinal &&
    start.all fun first => first.ordinal ≤ line.date.ordinal) invalidReportResponse

/-- The check of `_validate_line_amounts` for one line. -/
def validateLineAmount (increment : N) (line : AccountMoveLine) : Except PyException Unit := do
  let difference ← roundedTo
    (add (sub (ofDecimal line.balance) (ofDecimal line.debit)) (ofDecimal line.credit)) increment
  ensure (same difference zero) invalidReportResponse

/-- `_validate_line_amounts` -/
def validateLineAmounts (increment : N) (lines : List AccountMoveLine) : Except PyException Unit :=
  lines.forM (validateLineAmount increment)

/-- The checks that both statements make before they read the accounts. -/
def checkLines (increment : N) (start : Option Date) (finish : Date) (unreconciled : PyException)
    (lines : List AccountMoveLine) : Except PyException Unit := do
  validateStatementLines start finish lines
  validateLineAmounts increment lines
  let difference ← roundedTo (total (lines.map fun line => ofDecimal line.balance)) increment
  ensure (same difference zero) unreconciled

/-- `{line.account.id for line in lines}`, sorted. -/
def lineAccounts (lines : List AccountMoveLine) : List Int := sortedSet (lines.map (·.account.id))

/-- `_account_map`: the accounts are the asked ones, each once. -/
def checkAccounts (accounts : List Account) (identifiers : List Int) : Except PyException Unit :=
  ensure ((accounts.map (·.id)).Nodup &&
    accounts.all (fun account => identifiers.contains account.id)
    && identifiers.all fun identifier => (accounts.map (·.id)).contains identifier)
    invalidReportResponse

def accountOf (accounts : List Account) (identifier : Int) : Except PyException Account :=
  orRaise (accounts.find? (·.id = identifier)) missingKey

/-! ### Analytic shares -/

def oneHundred : Decimal := ⟨false, 100, 0⟩

/-- `{int(value) for value in key.split(",")}`, all positive. -/
def analyticIdentifiers (key : String) : Except PyException (List Int) := do
  let identifiers ← (key.toList.splitOn ',').mapM fun part =>
    orRaise (Decimal.parseInt? (String.ofList part)) invalidReportResponse
  ensure (identifiers.all fun identifier => 0 < identifier) invalidReportResponse
  return identifiers

/-- The share of a key of the distribution, added to the total and to the selected share. -/
def addAnalyticShare (requested : List Int) (shares : N × N) (entry : String × Decimal) :
    Except PyException (N × N) := do
  let identifiers ← analyticIdentifiers entry.1
  let percentage : N := ofDecimal entry.2
  ensure (!lt percentage zero && !lt (ofDecimal oneHundred) percentage) invalidReportResponse
  return (add shares.1 percentage,
    if identifiers.any requested.contains then add shares.2 percentage else shares.2)

/-- `_analytic_factor` -/
def analyticFactor (distribution : List (String × Decimal)) (requested : List Int) :
    Except PyException N :=
  if requested.isEmpty then
    .ok (ofDecimal ⟨false, 1, 0⟩)
  else do
    let shares ← distribution.foldlM (addAnalyticShare requested) (zero, zero)
    let hundred : N := ofDecimal oneHundred
    ensure (!lt hundred shares.1 && !lt hundred shares.2) invalidReportResponse
    orRaise (div shares.2 hundred) arithmeticError

/-! ### Profit and loss -/

structure ProfitAndLossInput where
  companyId : Int
  periodStart : Date
  periodEnd : Date
  analyticAccountIds : List Int
  limit : Nat
  cursor : Option String
  ordered : periodStart.ordinal ≤ periodEnd.ordinal

structure ProfitAndLossItem (N : Type) where
  accountId : Int
  code : String
  name : String
  accountType : String
  group : PnlGroup
  debit : N
  credit : N
  signedBalance : N

structure ProfitAndLossSummary (N : Type) where
  accountCount : Nat
  incomeDebit : N
  incomeCredit : N
  incomeBalance : N
  expenseDebit : N
  expenseCredit : N
  expenseBalance : N
  netProfit : N

structure PnlValue (N : Type) where
  group : PnlGroup
  debit : N
  credit : N

def profitAndLossUnreconciled : PyException :=
  .odooMcpError ⟨.odooApiError, "The full-company profit and loss source did not reconcile.",
    "Check Odoo record access and accounting data, then retry."⟩

/-- A line of an income or expense account counts by its share of the debit and the credit. -/
def addPnlLine (accounts : List Account) (requested : List Int) (values : Tally Int (PnlValue N))
    (line : AccountMoveLine) : Except PyException (Tally Int (PnlValue N)) := do
  let account ← accountOf accounts line.account.id
  match ← pnlGroup account.accountType with
  | none => return values
  | some group => do
      let factor : N ← analyticFactor line.analyticDistribution requested
      if same factor zero then
        return values
      else
        return values.change line.account.id ⟨group, zero, zero⟩ fun value =>
          ⟨group, add value.debit (mul (ofDecimal line.debit) factor),
            add value.credit (mul (ofDecimal line.credit) factor)⟩

def pnlItem (accounts : List Account) (increment : N) (entry : Int × PnlValue N) :
    Except PyException (ProfitAndLossItem N) := do
  let account ← accountOf accounts entry.1
  let debit ← roundedTo entry.2.debit increment
  let credit ← roundedTo entry.2.credit increment
  let signedBalance := match entry.2.group with
    | .income => sub credit debit
    | .expense => sub debit credit
  return ⟨entry.1, account.code, account.name, account.accountType, entry.2.group, debit, credit,
    signedBalance⟩

def sortedPnlItems (casefold : String → String) (items : List (ProfitAndLossItem N)) :
    List (ProfitAndLossItem N) :=
  items.insertionSort fun first second =>
    groupBefore (first.group.order, casefold first.code, first.accountId)
      (second.group.order, casefold second.code, second.accountId)

def pnlSummary (items : List (ProfitAndLossItem N)) : ProfitAndLossSummary N :=
  let incomeItems := items.filter (·.group = .income)
  let expenseItems := items.filter (·.group = .expense)
  let incomeBalance := total (incomeItems.map (·.signedBalance))
  let expenseBalance := total (expenseItems.map (·.signedBalance))
  ⟨items.length, total (incomeItems.map (·.debit)), total (incomeItems.map (·.credit)),
    incomeBalance, total (expenseItems.map (·.debit)), total (expenseItems.map (·.credit)),
    expenseBalance, sub incomeBalance expenseBalance⟩

def profitAndLossFilters (request : ProfitAndLossInput) : List FilterClause :=
  [⟨"move_id.state", "=", .text "posted"⟩, ⟨"date", ">=", .date request.periodStart⟩,
    ⟨"date", "<=", .date request.periodEnd⟩, ⟨"account_id", "!=", .flag false⟩]

def profitAndLossOf (casefold : String → String) (requested : List Int) (increment : N)
    (lines : List AccountMoveLine) (accounts : List Account) :
    Except PyException (WholeReport (ProfitAndLossItem N) (ProfitAndLossSummary N)) := do
  checkAccounts accounts (lineAccounts lines)
  let values ← lines.foldlM (addPnlLine accounts requested) []
  let found ← values.mapM (pnlItem accounts increment)
  let items := sortedPnlItems casefold found
  return ⟨items, pnlSummary items⟩

/-- `get_profit_and_loss`, with all its items. -/
def profitAndLoss (casefold : String → String) (request : ProfitAndLossInput)
    (companyCurrencyId : Int) :
    ReportProgram (WholeReport (ProfitAndLossItem N) (ProfitAndLossSummary N)) := do
  Program.call (S := reportReads) (.analyticAccounts request.analyticAccountIds)
  let rounding ← Program.call (S := reportReads) (.currencyRounding companyCurrencyId)
  let lines ← Program.call (S := reportReads) (.moveLines (profitAndLossFilters request))
  Program.ofExcept (checkLines (N := N) (ofDecimal rounding) (some request.periodStart)
    request.periodEnd profitAndLossUnreconciled lines)
  let accounts ← Program.call (S := reportReads) (.accounts (lineAccounts lines))
  Program.ofExcept (profitAndLossOf casefold request.analyticAccountIds (ofDecimal rounding) lines
    accounts)

/-! ### The balance sheet -/

structure BalanceSheetInput where
  companyId : Int
  asOfDate : Date
  analyticAccountIds : List Int
  limit : Nat
  cursor : Option String

structure BalanceSheetItem (N : Type) where
  accountId : Int
  code : String
  name : String
  accountType : String
  group : BalanceGroup
  signedBalance : N

structure BalanceSheetSummary (N : Type) where
  accountCount : Nat
  totalAssets : N
  totalLiabilities : N
  equityAccountBalance : N
  unclosedEarnings : N
  totalEquity : N
  balancingDifference : N
  isBalanced : Bool

def balanceSheetSourceUnreconciled : PyException :=
  .odooMcpError ⟨.odooApiError, "The full-company balance sheet source did not reconcile.",
    "Check Odoo record access and accounting data, then retry."⟩

def balanceSheetUnreconciled : PyException :=
  .odooMcpError ⟨.odooApiError, "The full-company balance sheet did not reconcile.",
    "Check Odoo account classifications and accounting data, then retry."⟩

def addBalanceLine (requested : List Int) (balances : Tally Int N) (line : AccountMoveLine) :
    Except PyException (Tally Int N) := do
  let factor : N ← analyticFactor line.analyticDistribution requested
  if same factor zero then
    return balances
  else
    return balances.change line.account.id zero fun balance =>
      add balance (mul (ofDecimal line.balance) factor)

/-- The items so far and the unclosed earnings, after one more account. -/
def addBalance (accounts : List Account) (increment : N) (state : List (BalanceSheetItem N) × N)
    (entry : Int × N) : Except PyException (List (BalanceSheetItem N) × N) := do
  let account ← accountOf accounts entry.1
  let balance ← roundedTo entry.2 increment
  match ← balanceGroup account.accountType with
  | none =>
      if incomeTypes.contains account.accountType then
        return (state.1, add state.2 (neg balance))
      else if expenseTypes.contains account.accountType then
        return (state.1, sub state.2 balance)
      else
        return state
  | some group =>
      return (state.1 ++ [⟨entry.1, account.code, account.name, account.accountType, group,
        if group = .asset then balance else neg balance⟩], state.2)

def sortedBalanceItems (casefold : String → String) (items : List (BalanceSheetItem N)) :
    List (BalanceSheetItem N) :=
  items.insertionSort fun first second =>
    groupBefore (first.group.order, casefold first.code, first.accountId)
      (second.group.order, casefold second.code, second.accountId)

def totalOf (group : BalanceGroup) (items : List (BalanceSheetItem N)) : N :=
  total ((items.filter (·.group = group)).map (·.signedBalance))

def balanceSheetSummary (increment : N) (items : List (BalanceSheetItem N)) (earnings : N) :
    Except PyException (BalanceSheetSummary N) := do
  let totalAssets := totalOf .asset items
  let totalLiabilities := totalOf .liability items
  let equityAccountBalance := totalOf .equity items
  let unclosedEarnings ← roundedTo earnings increment
  let totalEquity := add equityAccountBalance unclosedEarnings
  let difference ← roundedTo (sub (sub totalAssets totalLiabilities) totalEquity) increment
  return ⟨items.length, totalAssets, totalLiabilities, equityAccountBalance, unclosedEarnings,
    totalEquity, difference, same difference zero⟩

def balanceSheetFilters (request : BalanceSheetInput) : List FilterClause :=
  [⟨"move_id.state", "=", .text "posted"⟩, ⟨"date", "<=", .date request.asOfDate⟩,
    ⟨"account_id", "!=", .flag false⟩]

/-- What the balance sheet makes of its lines and accounts, balanced or not. -/
def balanceSheetOf (casefold : String → String) (requested : List Int) (increment : N)
    (lines : List AccountMoveLine) (accounts : List Account) :
    Except PyException (WholeReport (BalanceSheetItem N) (BalanceSheetSummary N)) := do
  checkAccounts accounts (lineAccounts lines)
  let balances ← lines.foldlM (addBalanceLine requested) []
  let found ← balances.foldlM (addBalance accounts increment) ([], zero)
  let items := sortedBalanceItems casefold found.1
  let summary ← balanceSheetSummary increment items found.2
  return ⟨items, summary⟩

/-- `get_balance_sheet`, with all its items. -/
def balanceSheet (casefold : String → String) (request : BalanceSheetInput)
    (companyCurrencyId : Int) :
    ReportProgram (WholeReport (BalanceSheetItem N) (BalanceSheetSummary N)) := do
  Program.call (S := reportReads) (.analyticAccounts request.analyticAccountIds)
  let rounding ← Program.call (S := reportReads) (.currencyRounding companyCurrencyId)
  let lines ← Program.call (S := reportReads) (.moveLines (balanceSheetFilters request))
  Program.ofExcept (checkLines (N := N) (ofDecimal rounding) none request.asOfDate
    balanceSheetSourceUnreconciled lines)
  let accounts ← Program.call (S := reportReads) (.accounts (lineAccounts lines))
  let report ← Program.ofExcept (balanceSheetOf casefold request.analyticAccountIds
    (ofDecimal rounding) lines accounts)
  Program.ofExcept (ensure (!request.analyticAccountIds.isEmpty || report.summary.isBalanced)
    balanceSheetUnreconciled)
  return report

end Reports

end OdooMcp
