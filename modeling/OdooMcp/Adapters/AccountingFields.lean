import Mathlib.Data.List.Sort
import OdooMcp.Adapters.AccountingValues
import OdooMcp.Base64

/-!
# Normalizing accounting records

The policy, the cursors and the normalizers of the accounting reader. A normalizer that finds a
field it cannot accept rejects the whole answer.
-/

namespace OdooMcp

/-- `_invalid_response` -/
def invalidResponse : PyException :=
  .odooMcpError ⟨.odooApiError, "Odoo returned an invalid accounting response.",
    "Check Odoo compatibility and retry."⟩

/-- `_invalid_input` -/
def invalidInput (message remediation : String) : PyException :=
  .odooMcpError ⟨.invalidInput, message, remediation⟩

theorem ownError_invalidResponse : OwnError invalidResponse := by
  simp [OwnError, invalidResponse]

theorem ownError_invalidInput (message remediation : String) :
    OwnError (invalidInput message remediation) := by
  simp [OwnError, invalidInput]

/-! ### Policy -/

def modelDenied : PyException :=
  .odooMcpError ⟨.modelNotAllowed, "The requested Odoo model or action is not allowed.",
    "Use a supported workflow operation."⟩

theorem ownError_modelDenied : OwnError modelDenied := by
  simp [OwnError, modelDenied]

def coreModelReadAllowlist : List String := ["res.company"]

def accountingModelReadAllowlist : List String :=
  ["account.move", "account.move.line", "account.journal", "account.bank.statement.line",
    "account.payment", "account.payment.term", "account.account", "account.partial.reconcile",
    "account.analytic.account", "res.currency", "res.currency.rate", "res.partner",
    "product.product"]

def accountingModelActionAllowlist : String → List String
  | "account.move" => ["create_draft", "post_existing_draft", "reverse_existing_move"]
  | "account.move.reversal" => ["create_transient", "execute_standard_workflow"]
  | "account.payment.register" =>
      ["create_preview_transient", "read_preview_transient", "create_execution_transient",
        "execute_standard_workflow"]
  | _ => []

/-- `ensure_model_read_allowed` for the core models. -/
def ensureCoreReadAllowed (model : String) : Except PyException Unit :=
  ensure (coreModelReadAllowlist.contains model) modelDenied

/-- `ensure_model_read_allowed` for the accounting module. -/
def ensureModelReadAllowed (model : String) : Except PyException Unit :=
  ensure (accountingModelReadAllowlist.contains model) modelDenied

def ensureAccountingActionAllowed (model action : String) : Except PyException Unit :=
  ensure (action ≠ "unlink" && (accountingModelActionAllowlist model).contains action) modelDenied

def fieldDenylist : List String :=
  ["password", "password_crypt", "api_key", "bank_account_number", "acc_number"]

def isDeniedField (key : String) : Bool :=
  fieldDenylist.any fun denied => denied.toList = casefold key

mutual

def stripDeniedFields : PyValue → PyValue
  | .dict entries => (stripDeniedEntries entries).toValue
  | .list items => .list (stripDeniedItems items)
  | .tuple items => .tuple (stripDeniedItems items)
  | value => value

def stripDeniedItems : List PyValue → List PyValue
  | [] => []
  | item :: items => stripDeniedFields item :: stripDeniedItems items

def stripDeniedEntries : List (PyKey × PyValue) → Payload
  | [] => []
  | (.str key, value) :: entries =>
      if isDeniedField key then stripDeniedEntries entries
      else (key, stripDeniedFields value) :: stripDeniedEntries entries
  | _ :: entries => stripDeniedEntries entries

end

/-- `_record` of a value of any kind. -/
def record? : PyValue → Option Payload
  | .dict entries => some (stripDeniedEntries entries)
  | _ => none

/-- `_record` of a row. -/
def record (row : Payload) : Payload :=
  stripDeniedEntries (row.map fun entry => (.str entry.1, entry.2))

/-! ### Fields -/

namespace Field

def moveState : PyValue → Option MoveState
  | .str "draft" => some .draft
  | .str "posted" => some .posted
  | _ => none

/-- `_positive_ids` -/
def positiveIds (maximum : Nat) (value : PyValue) : Option (List Int) := do
  let items ← sequence value
  if maximum < items.length then none
  let identifiers ← positiveInts items
  if identifiers.Nodup then some identifiers else none

def analyticDistribution (value : PyValue) : Option (List (String × Decimal)) :=
  let entries : PyValue → Option PyDict
    | .dict entries => some entries
    | _ => none
  do
    let found ← optional entries value
    (found.getD []).mapM fun entry =>
      match entry.1 with
      | .str key => do return (key, ← decimal entry.2)
      | _ => none

/-- `_many_ids`, of any number of ids. -/
def manyPositiveIds : PyValue → Option (List Int)
  | .list items => positiveInts items
  | _ => none

end Field

/-- `_read_field`: the error names the model and the field. -/
def readField {α : Type} (raw : Payload) (model field : String) (parser : PyValue → Option α) :
    Except PyException α :=
  orRaise (parser (raw.field field))
    (.odooMcpError ⟨.odooApiError,
      "Odoo returned an invalid " ++ model ++ " field: " ++ field ++ ".",
      "Check Odoo compatibility and data integrity, then retry."⟩)

theorem sound_readField {α : Type} (raw : Payload) (model field : String)
    (parser : PyValue → Option α) : Sound (readField raw model field parser) :=
  Sound.orRaise (by simp [OwnError])

/-- `_normalize_account_move` -/
def normalizeAccountMove (raw : Payload) : Except PyException AccountMove :=
  let parsed : Option AccountMove := do
    return {
      id := ← Field.positiveInt (raw.field "id")
      name := match ← Field.optional Field.text (raw.field "name") with
        | some name => if name = "" then "/" else name
        | none => "/"
      moveType := ← Field.text (raw.field "move_type")
      state := ← Field.text (raw.field "state")
      date := ← Field.date (raw.field "date")
      invoiceDate := ← Field.optional Field.date (raw.field "invoice_date")
      invoiceDateDue := ← Field.optional Field.date (raw.field "invoice_date_due")
      partner := ← Field.optional Field.relation (raw.field "partner_id")
      journal := ← Field.relation (raw.field "journal_id")
      companyId := ← Field.relatedId (raw.field "company_id")
      currency := ← Field.relation (raw.field "currency_id")
      amountTotal := ← Field.decimal (raw.field "amount_total")
      amountResidual := ← Field.decimal (raw.field "amount_residual")
      amountResidualCompany := ← Field.optional Field.decimal (raw.field "amount_residual_signed")
      paymentState := ← Field.optional Field.text (raw.field "payment_state")
      reference := ← Field.optional Field.text (raw.field "ref") }
  orRaise parsed invalidResponse

/-- `_normalize_account_move_line` -/
def normalizeAccountMoveLine (raw : Payload) : Except PyException AccountMoveLine := do
  let read {α : Type} (field : String) (parser : PyValue → Option α) : Except PyException α :=
    readField raw "account.move.line" field parser
  return {
    id := ← read "id" Field.positiveInt
    move := ← read "move_id" Field.relation
    moveState := ← read "parent_state" Field.moveState
    account := ← read "account_id" Field.relation
    journal := ← read "journal_id" Field.relation
    partner := ← read "partner_id" (Field.optional Field.relation)
    companyId := ← read "company_id" Field.relatedId
    currency := ← read "currency_id" (Field.optional Field.relation)
    date := ← read "date" Field.date
    maturityDate := ← read "date_maturity" (Field.optional Field.date)
    label := ← read "name" (Field.optional Field.text)
    debit := ← read "debit" Field.decimal
    credit := ← read "credit" Field.decimal
    balance := ← read "balance" Field.decimal
    amountCurrency := ← read "amount_currency" Field.decimal
    residual := ← read "amount_residual" Field.decimal
    residualCurrency := ← read "amount_residual_currency" Field.decimal
    reconciled := ← read "reconciled" Field.boolean
    analyticDistribution := ← read "analytic_distribution" Field.analyticDistribution }

/-- `_normalize_partial_reconciliation` -/
def normalizePartialReconciliation (raw : Payload) : Except PyException PartialReconciliation :=
  let parsed : Option PartialReconciliation := do
    return {
      id := ← Field.positiveInt (raw.field "id")
      debitMoveLine := ← Field.relation (raw.field "debit_move_id")
      creditMoveLine := ← Field.relation (raw.field "credit_move_id")
      amount := ← Field.decimal (raw.field "amount")
      debitAmountCurrency := ← Field.decimal (raw.field "debit_amount_currency")
      creditAmountCurrency := ← Field.decimal (raw.field "credit_amount_currency")
      maxDate := ← Field.date (raw.field "max_date") }
  orRaise parsed invalidResponse

/-- `_normalize_journal` -/
def normalizeJournal (raw : Payload) : Except PyException Journal :=
  let parsed : Option Journal := do
    return {
      id := ← Field.positiveInt (raw.field "id")
      name := ← Field.text (raw.field "name")
      code := ← Field.text (raw.field "code")
      journalType := ← Field.text (raw.field "type")
      companyId := ← Field.relatedId (raw.field "company_id")
      currency := ← Field.optional Field.relation (raw.field "currency_id") }
  orRaise parsed invalidResponse

/-- `_normalize_currency` -/
def normalizeCurrency (raw : Payload) : Except PyException Currency := do
  let read {α : Type} (field : String) (parser : PyValue → Option α) : Except PyException α :=
    readField raw "res.currency" field parser
  return {
    id := ← read "id" Field.positiveInt
    name := ← read "name" Field.text
    rounding := ← read "rounding" Field.positiveDecimal }

/-- `_normalize_currency_rate` -/
def normalizeCurrencyRate (raw : Payload) : Except PyException CurrencyRate := do
  let read {α : Type} (field : String) (parser : PyValue → Option α) : Except PyException α :=
    readField raw "res.currency.rate" field parser
  return {
    id := ← read "id" Field.positiveInt
    effectiveDate := ← read "name" Field.date
    currencyId := ← read "currency_id" Field.relatedId
    companyId := ← read "company_id" (Field.optional Field.relatedId)
    companyRate := ← read "company_rate" Field.positiveDecimal
    inverseCompanyRate := ← read "inverse_company_rate" Field.positiveDecimal }

/-- `_normalize_bank_statement_line` -/
def normalizeBankStatementLine (raw : Payload) : Except PyException BankStatementLine :=
  let parsed : Option BankStatementLine := do
    return {
      id := ← Field.positiveInt (raw.field "id")
      date := ← Field.date (raw.field "date")
      paymentReference := ← Field.optional Field.text (raw.field "payment_ref")
      amount := ← Field.decimal (raw.field "amount")
      amountCurrency := ← Field.optional Field.decimal (raw.field "amount_currency")
      foreignCurrency := ← Field.optional Field.relation (raw.field "foreign_currency_id")
      partner := ← Field.optional Field.relation (raw.field "partner_id")
      journal := ← Field.relation (raw.field "journal_id")
      companyId := ← Field.relatedId (raw.field "company_id")
      reconciled := ← Field.boolean (raw.field "is_reconciled")
      move := ← Field.optional Field.relation (raw.field "move_id") }
  orRaise parsed invalidResponse

/-- `_normalize_payment_term` -/
def normalizePaymentTerm (raw : Payload) : Except PyException PaymentTerm :=
  let parsed : Option PaymentTerm := do
    return {
      id := ← Field.positiveInt (raw.field "id")
      name := ← Field.text (raw.field "name")
      companyId := ← Field.optional Field.relatedId (raw.field "company_id") }
  orRaise parsed invalidResponse

/-- `raw.get(field, 0)` -/
def fieldOrZero (raw : Payload) (name : String) : PyValue :=
  (dictGet raw name).getD (.int 0)

/-- `_normalize_partner` -/
def normalizePartner (raw : Payload) : Except PyException Partner :=
  let parsed : Option Partner := do
    return {
      id := ← Field.positiveInt (raw.field "id")
      name := ← Field.text (raw.field "name")
      companyId := ← Field.optional Field.relatedId (raw.field "company_id")
      customerRank := ← Field.nonNegativeInt (fieldOrZero raw "customer_rank")
      supplierRank := ← Field.nonNegativeInt (fieldOrZero raw "supplier_rank") }
  orRaise parsed invalidResponse

/-- `_normalize_product` -/
def normalizeProduct (raw : Payload) : Except PyException Product :=
  let parsed : Option Product := do
    return {
      id := ← Field.positiveInt (raw.field "id")
      name := ← Field.text (raw.field "name")
      defaultCode := ← Field.optional Field.text (raw.field "default_code")
      companyId := ← Field.optional Field.relatedId (raw.field "company_id")
      listPrice := ← Field.decimal (raw.field "list_price")
      currency := ← Field.optional Field.relation (raw.field "currency_id") }
  orRaise parsed invalidResponse

/-- `_normalize_account` -/
def normalizeAccount (raw : Payload) : Except PyException Account :=
  let parsed : Option Account := do
    return {
      id := ← Field.positiveInt (raw.field "id")
      code := ← Field.text (raw.field "code")
      name := ← Field.text (raw.field "name")
      accountType := ← Field.text (raw.field "account_type")
      companyIds := ← Field.manyPositiveIds (raw.field "company_ids")
      currency := ← Field.optional Field.relation (raw.field "currency_id")
      reconcile := ← Field.boolean (raw.field "reconcile") }
  orRaise parsed invalidResponse

/-- `_normalize_analytic_account` -/
def normalizeAnalyticAccount (raw : Payload) : Except PyException AnalyticAccount :=
  let parsed : Option AnalyticAccount := do
    return {
      id := ← Field.positiveInt (raw.field "id")
      name := ← Field.text (raw.field "name")
      code := ← Field.optional Field.text (raw.field "code")
      companyId := ← Field.optional Field.relatedId (raw.field "company_id")
      currency := ← Field.optional Field.relation (raw.field "currency_id") }
  orRaise parsed invalidResponse

theorem sound_normalizeAccountMove (raw : Payload) : Sound (normalizeAccountMove raw) :=
  Sound.orRaise ownError_invalidResponse

theorem sound_normalizeAccountMoveLine (raw : Payload) : Sound (normalizeAccountMoveLine raw) := by
  unfold normalizeAccountMoveLine
  repeat' refine (sound_readField raw _ _ _).bind fun _ => ?_
  exact Sound.ok _

/-! ### Cursors and filters -/

/-- `_encode_cursor` -/
def encodeCursor (identifier : Int) : String :=
  String.ofList (Base64.encode (("v1:" ++ toString identifier).toList.map Char.toNat))

def cursorError : PyException :=
  invalidInput "The pagination cursor is invalid." "Restart the listing without a cursor."

/-- `_decode_cursor` of a cursor that is there. -/
def decodeCursor (cursor : String) : Except PyException Int := do
  let payload ← orRaise ((Base64.decode cursor.toList).bind Base64.utf8) cursorError
  let version := payload.takeWhile (· ≠ ':')
  let rest := payload.dropWhile (· ≠ ':')
  ensure (!rest.isEmpty) cursorError
  let identifier ← orRaise (Decimal.parseInt? (String.ofList rest.tail)) cursorError
  ensure (version = "v1".toList && 0 < identifier) cursorError
  return identifier

theorem sound_decodeCursor (cursor : String) : Sound (decodeCursor cursor) := by
  have howns : OwnError cursorError := ownError_invalidInput _ _
  unfold decodeCursor
  exact (Sound.orRaise howns).bind fun _ => (Sound.ensure howns).bind fun _ =>
    (Sound.orRaise howns).bind fun _ => (Sound.ensure howns).bind fun _ => Sound.ok _

/-- `PageRequest(limit, cursor)` with a limit in the code; pydantic rejects a cursor that is too
long. -/
def PageRequest.build (limit : Nat) (cursor : Option String) (limit_pos : 1 ≤ limit)
    (limit_le : limit ≤ 500) : Except PyException PageRequest :=
  if cursor_le : ∀ text ∈ cursor, text.length ≤ 128 then
    .ok ⟨limit, cursor, limit_pos, limit_le, fun text htext => cursor_le text (by simp [htext])⟩
  else
    .error (valueError "String should have at most 128 characters")

theorem sound_build (limit : Nat) (cursor : Option String) (limit_pos : 1 ≤ limit)
    (limit_le : limit ≤ 500) : Sound (PageRequest.build limit cursor limit_pos limit_le) := by
  unfold PageRequest.build
  split
  · exact Sound.ok _
  · exact Sound.raise trivial

def filterFields : String → List String
  | "account.move" =>
      ["id", "move_type", "state", "date", "invoice_date", "invoice_date_due", "partner_id",
        "journal_id", "currency_id", "payment_state", "amount_residual"]
  | "account.move.line" =>
      ["id", "move_id", "move_id.state", "parent_state", "account_id", "account_id.account_type",
        "journal_id", "partner_id", "currency_id", "date", "date_maturity", "reconciled",
        "analytic_distribution"]
  | "account.partial.reconcile" => ["id", "debit_move_id", "credit_move_id", "max_date"]
  | "res.partner" => ["id", "name", "active", "supplier_rank", "customer_rank"]
  | "product.product" => ["id", "name", "default_code", "active"]
  | "account.account" => ["id", "code", "name", "account_type", "reconcile"]
  | "account.analytic.account" => ["id", "name", "code", "active"]
  | _ => []

mutual

/-- `_domain_value` -/
def domainValue : FilterValue → PyValue
  | .text value => .str value
  | .int value => .int value
  | .float text finite => .float text finite
  | .flag value => .bool value
  | .date value => .str value.isoformat
  | .decimal value => value.toFloat
  | .none => .none
  | .tuple items => .list (domainValues items)

def domainValues : List FilterValue → List PyValue
  | [] => []
  | item :: items => domainValue item :: domainValues items

end

def leaf (field : String) : String :=
  String.ofList (field.toList.reverse.takeWhile (· ≠ '.')).reverse

/-- `_filter_domain` -/
def filterDomain (model : String) (clauses : List FilterClause) :
    Except PyException (List PyValue) :=
  clauses.mapM fun clause => do
    ensure (!isDeniedField (leaf clause.field))
      (.odooMcpError ⟨.fieldDenied, "The requested Odoo field is denied.",
        "Remove the denied field and retry."⟩)
    ensure (!("company_id".toList <:+: clause.field.toList) &&
        (filterFields model).contains clause.field)
      (invalidInput "The requested accounting filter is not allowed."
        "Use a supported workflow filter.")
    return domainClause clause.field clause.operator (domainValue clause.value)

theorem sound_filterDomain (model : String) (clauses : List FilterClause) :
    Sound (filterDomain model clauses) := by
  refine Sound.mapM clauses fun clause => ?_
  exact (Sound.ensure (by simp [OwnError])).bind fun _ =>
    (Sound.ensure (ownError_invalidInput _ _)).bind fun _ => Sound.ok _

end OdooMcp
