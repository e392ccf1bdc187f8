import OdooMcp.Adapters.AccountingReader

/-!
# The paged reads of the accounting reader

Every read of a kind of records is `_read_page` at that kind's own model, scope and fields. The
records of a company have to carry it; an account has to list it, and then lists no other; a partial
reconciliation has no company of its own, and its two lines are read once more to attribute it.
-/

namespace OdooMcp

open Effect

namespace AccountingReader

variable (reader : AccountingReader)

/-- `_enforce_output_scope` of a record that may have a company. -/
def enforceOptional {α : Type} (companyOf : α → Option Int) (companyId : Int) (item : α) :
    Except PyException α := do
  ensure (companyOf item = none || companyOf item = some companyId) invalidResponse
  return item

/-- `_enforce_output_scope` of an account. -/
def enforceAccount (companyId : Int) (item : Account) : Except PyException Account := do
  ensure (item.companyIds.contains companyId) invalidResponse
  return { item with companyIds := [companyId] }

/-- `_enforce_output_scope` of every other record. -/
def enforceNothing {α : Type} (item : α) : Except PyException α := .ok item

/-- `["company_id", "=", company_id]` -/
def ownCompany (companyId : Int) : List PyValue :=
  [domainClause "company_id" "=" (.int companyId)]

/-- `["company_id", "in", [False, company_id]]` -/
def sharedOrOwnCompany (companyId : Int) : List PyValue :=
  [domainClause "company_id" "in" (.list [.bool false, .int companyId])]

/-! ### Partial reconciliations -/

def partialLineIds (rows : List Payload) : Option (List Int) := do
  let sides ← rows.mapM fun row => do
    return [← Field.relatedId (row.field "debit_move_id"),
      ← Field.relatedId (row.field "credit_move_id")]
  return sortedSet sides.flatten

/-- The ids of the attribution rows, each of which has to name the company. -/
def attributedIds (companyId : Int) (attributed : List Int) :
    List Payload → Option (List Int)
  | [] => some attributed
  | raw :: rows => do
      let row := record raw
      let identifier ← Field.positiveInt (row.field "id")
      if attributed.contains identifier then none
      let company ← Field.relatedId (row.field "company_id")
      if company ≠ companyId then none
      attributedIds companyId (identifier :: attributed) rows

/-- `_validate_partial_reconciliation_rows` -/
def validatePartialReconciliationRows (rows : List Payload) (companyId : Int) : Odoo Unit := do
  let lineIds ← Program.ofExcept (orRaise (partialLineIds rows) invalidResponse)
  if lineIds = [] then
    return ()
  else do
    Program.ofExcept (ensureModelReadAllowed "account.move.line")
    let attributionRows ← searchRead "account.move.line"
      (domainClause "id" "in" (.list (lineIds.map .int)) :: ownCompany companyId)
      ["id", "company_id"] lineIds.length 0 "id asc" [companyId]
    let attributed ← Program.ofExcept
      (orRaise (attributedIds companyId [] attributionRows) invalidResponse)
    Program.ofExcept (ensure (sortedSet attributed = lineIds) invalidResponse)

def partialReconciliationFields : List String :=
  ["id", "debit_move_id", "credit_move_id", "amount", "debit_amount_currency",
    "credit_amount_currency", "max_date"]

def getPartialReconciliations (companyId : Int) (filters : List FilterClause)
    (page : PageRequest) : Odoo (RecordPage PartialReconciliation) :=
  reader.readPage "account.partial.reconcile" companyId
    [domainClause "debit_move_id.company_id" "=" (.int companyId),
      domainClause "credit_move_id.company_id" "=" (.int companyId)]
    filters page partialReconciliationFields normalizePartialReconciliation enforceNothing
    validatePartialReconciliationRows

/-! ### Records of a company -/

def getJournals (companyId : Int) (page : PageRequest) : Odoo (RecordPage Journal) :=
  reader.readPage "account.journal" companyId (ownCompany companyId) [] page
    ["id", "name", "code", "type", "company_id", "currency_id"] normalizeJournal
    (enforceScoped Journal.companyId companyId) anyRows

def bankStatementLineFields : List String :=
  ["id", "date", "payment_ref", "amount", "amount_currency", "foreign_currency_id", "partner_id",
    "journal_id", "company_id", "is_reconciled", "move_id"]

def bankStatementLineScope (companyId : Int) (period : DatePeriod) (journalId : Option Int) :
    List PyValue :=
  ownCompany companyId ++
    [domainClause "date" ">=" (.str period.start.isoformat),
      domainClause "date" "<=" (.str period.finish.isoformat)] ++
    journalId.toList.map fun journal => domainClause "journal_id" "=" (.int journal)

def getBankStatementLines (companyId : Int) (period : DatePeriod) (journalId : Option Int)
    (page : PageRequest) : Odoo (RecordPage BankStatementLine) := do
  Program.ofExcept (ensure (journalId.all fun journal => 0 < journal)
    (invalidInput "The journal ID is invalid." "Use a positive journal ID and retry."))
  reader.readPage "account.bank.statement.line" companyId
    (bankStatementLineScope companyId period journalId) [] page bankStatementLineFields
    normalizeBankStatementLine (enforceScoped BankStatementLine.companyId companyId) anyRows

def getPaymentTerms (companyId : Int) (page : PageRequest) : Odoo (RecordPage PaymentTerm) :=
  reader.readPage "account.payment.term" companyId (sharedOrOwnCompany companyId) [] page
    ["id", "name", "company_id"] normalizePaymentTerm
    (enforceOptional PaymentTerm.companyId companyId) anyRows

def getPartners (companyId : Int) (filters : List FilterClause) (page : PageRequest) :
    Odoo (RecordPage Partner) :=
  reader.readPage "res.partner" companyId (sharedOrOwnCompany companyId) filters page
    ["id", "name", "company_id", "customer_rank", "supplier_rank"] normalizePartner
    (enforceOptional Partner.companyId companyId) anyRows

def getProducts (companyId : Int) (filters : List FilterClause) (page : PageRequest) :
    Odoo (RecordPage Product) :=
  reader.readPage "product.product" companyId (sharedOrOwnCompany companyId) filters page
    ["id", "name", "default_code", "company_id", "list_price", "currency_id"] normalizeProduct
    (enforceOptional Product.companyId companyId) anyRows

def getAccountAccounts (companyId : Int) (filters : List FilterClause) (page : PageRequest) :
    Odoo (RecordPage Account) :=
  reader.readPage "account.account" companyId
    [domainClause "company_ids" "in" (.list [.int companyId])] filters page
    ["id", "code", "name", "account_type", "company_ids", "currency_id", "reconcile"]
    normalizeAccount (enforceAccount companyId) anyRows

def getAnalyticAccounts (companyId : Int) (filters : List FilterClause) (page : PageRequest) :
    Odoo (RecordPage AnalyticAccount) :=
  reader.readPage "account.analytic.account" companyId (sharedOrOwnCompany companyId) filters page
    ["id", "name", "code", "company_id", "currency_id"] normalizeAnalyticAccount
    (enforceOptional AnalyticAccount.companyId companyId) anyRows

/-! ### Currencies -/

def maxCurrencyIds : Nat := 500

def getCurrencies (companyId : Int) (currencyIds : List Int) (page : PageRequest) :
    Odoo (RecordPage Currency) := do
  Program.ofExcept (ensure
    (currencyIds ≠ [] && currencyIds.length ≤ maxCurrencyIds && currencyIds.Nodup &&
      currencyIds.all fun identifier => 0 < identifier)
    (invalidInput "The currency selection is invalid."
      "Use unique positive currency IDs and retry."))
  let result ← reader.readPage "res.currency" companyId
    [domainClause "id" "in" (.list (currencyIds.map .int))] [] page ["id", "name", "rounding"]
    normalizeCurrency enforceNothing anyRows
  Program.ofExcept (ensure (result.items.all fun item => currencyIds.contains item.id)
    invalidResponse)
  return result

def companyOfRates (companyId : Int) (companies : List Payload) : Option (RelatedRecord × Int) :=
  match companies with
  | [row] => do
      let company := record row
      if (← Field.positiveInt (company.field "id")) ≠ companyId then none
      return (← Field.relation (company.field "currency_id"),
        ← Field.relatedId (company.field "root_id"))
  | _ => none

def getCurrencyRates (companyId currencyId : Int) (throughDate : Date) (page : PageRequest) :
    Odoo CurrencyRatePage := do
  Program.ofExcept (reader.requireCompany companyId)
  Program.ofExcept (ensure (0 < currencyId)
    (invalidInput "The currency ID is invalid." "Use a positive currency ID."))
  Program.ofExcept (ensureCoreReadAllowed "res.company")
  let companies ← searchRead "res.company" [domainClause "id" "=" (.int companyId)]
    ["id", "currency_id", "root_id"] 2 0 "id asc" [companyId]
  let (companyCurrency, rootCompanyId) ← Program.ofExcept
    (orRaise (companyOfRates companyId companies) invalidResponse)
  let result ← reader.readPage "res.currency.rate" companyId
    [domainClause "currency_id" "=" (.int currencyId),
      domainClause "company_id" "in" (.list [.bool false, .int rootCompanyId]),
      domainClause "name" "<=" (.str throughDate.isoformat)]
    [] page
    ["id", "name", "currency_id", "company_id", "company_rate", "inverse_company_rate"]
    normalizeCurrencyRate enforceNothing anyRows
  Program.ofExcept (ensure
    (result.items.all fun item => item.currencyId = currencyId &&
      (item.companyId = none || item.companyId = some rootCompanyId) &&
      item.effectiveDate.ordinal ≤ throughDate.ordinal)
    invalidResponse)
  return ⟨companyCurrency, rootCompanyId, result.items, result.nextCursor⟩

end AccountingReader

end OdooMcp
