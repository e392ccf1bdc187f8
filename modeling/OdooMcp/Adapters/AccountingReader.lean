import OdooMcp.Adapters.AccountingFields

/-!
# The accounting reader

Reads and writes of accounting records over the transport, as `AccountingReader` makes them. The
four calls that change the books are `create` and `action_post` on `account.move`, `reverse_moves`,
and `action_create_payments`; a write makes one of them, after its guard reads and before the reads
that verify it.
-/

namespace OdooMcp

open Effect

/-- The reader of one adapter, with the companies that adapter has validated. -/
structure AccountingReader where
  validatedCompanyIds : Option (List Int)

structure Company where
  id : Int
  name : String
  currency : Option RelatedRecord
  rootId : Option Int

def companyNotFound (message remediation : String) : PyException :=
  .odooMcpError ⟨.companyNotFound, message, remediation⟩

theorem ownError_companyNotFound (message remediation : String) :
    OwnError (companyNotFound message remediation) := by
  simp [OwnError, companyNotFound]

/-- A row of `get_companies`; rows without a proper id and name are skipped. -/
def companyOfRow (row : Payload) : Option Company :=
  match row.field "id", row.field "name" with
  | .int id, .str name =>
      some ⟨id, name, Field.relation (row.field "currency_id"),
        match Field.sequence (row.field "root_id") with
        | some [.int root, _] => if 0 < root then some root else none
        | _ => none⟩
  | _, _ => none

def companyBefore (first second : Company) : Prop := first.id ≤ second.id

instance : DecidableRel companyBefore := fun first second =>
  inferInstanceAs (Decidable (first.id ≤ second.id))

/-- `OdooClient.get_companies` of a connection with these allowed companies. -/
def getCompanies (allowed : List Int) : Odoo (List Company) := do
  Program.ofExcept (ensureCoreReadAllowed "res.company")
  let rows ← searchRead "res.company" [domainClause "id" "in" (.list (allowed.map .int))]
    ["id", "name", "currency_id", "root_id"] allowed.length 0 "id asc" allowed
  let companies := rows.filterMap companyOfRow
  let found := companies.map (·.id)
  Program.ofExcept (ensure (found.all allowed.contains && allowed.all found.contains)
    (companyNotFound "One or more allowed companies are unavailable to the technical user."
      "Check allowed company IDs and Odoo company access, then retry."))
  return companies.insertionSort companyBefore

namespace AccountingReader

variable (reader : AccountingReader)

/-- `_require_company` -/
def requireCompany (companyId : Int) : Except PyException Unit :=
  ensure (0 < companyId && reader.validatedCompanyIds.any fun validated =>
      validated.contains companyId)
    (companyNotFound "The requested company is not authorized for this connection."
      "Use an authorized company ID and retry.")

/-- The items of a page, and the cursor of the next one when there are more rows. -/
def recordPage {α : Type} (convert : Payload → Except PyException α) (rows : List Payload)
    (identifiers : List Int) (limit : Nat) (limit_pos : 1 ≤ limit) :
    Except PyException (RecordPage α) :=
  let selected := rows.take limit
  match hitems : (selected.map record).mapM convert with
  | .error error => .error error
  | .ok items => .ok
      { items := items
        nextCursor :=
          if limit < rows.length then some (encodeCursor (identifiers.getD (selected.length - 1) 0))
          else none
        progress := by
          intro hmore hempty
          have hlength := length_of_mapM hitems
          rw [hempty, List.length_map, List.length_take, List.length_nil] at hlength
          split at hmore
          · omega
          · cases hmore }

/-- `validate_rows` of the records that need no further read. -/
def anyRows (_rows : List Payload) (_companyId : Int) : Odoo Unit := return ()

/-- `_read_page` -/
def readPage {α : Type} (model : String) (companyId : Int) (scope : List PyValue)
    (filters : List FilterClause) (page : PageRequest) (fields : List String)
    (normalize : Payload → Except PyException α) (enforceOutputScope : α → Except PyException α)
    (validateRows : List Payload → Int → Odoo Unit) : Odoo (RecordPage α) := do
  Program.ofExcept (reader.requireCompany companyId)
  Program.ofExcept (ensureModelReadAllowed model)
  let cursorId ← Program.ofExcept (page.cursor.mapM decodeCursor)
  let filtered ← Program.ofExcept (filterDomain model filters)
  let after := cursorId.toList.map fun cursor => domainClause "id" ">" (.int cursor)
  let rows ← searchRead model (scope ++ filtered ++ after) fields (page.limit + 1) 0 "id asc"
    [companyId]
  Program.ofExcept (ensure (rows.length ≤ page.limit + 1) invalidResponse)
  let identifiers ← Program.ofExcept
    (orRaise (rows.mapM fun row => Field.positiveInt (row.field "id")) invalidResponse)
  Program.ofExcept (ensure
    (identifiers = sortedSet identifiers && cursorId.all fun cursor =>
      identifiers.head?.all fun first => cursor < first)
    invalidResponse)
  validateRows ((rows.take page.limit).map record) companyId
  Program.ofExcept (recordPage
    (fun row => do enforceOutputScope (← normalize row)) rows identifiers page.limit page.limit_pos)

/-- `_enforce_output_scope` of a record with a company. -/
def enforceScoped {α : Type} (companyOf : α → Int) (companyId : Int) (item : α) :
    Except PyException α := do
  ensure (companyOf item = companyId) invalidResponse
  return item

def accountMoveFields : List String :=
  ["id", "name", "move_type", "state", "date", "invoice_date", "invoice_date_due", "partner_id",
    "journal_id", "company_id", "currency_id", "amount_total", "amount_residual",
    "amount_residual_signed", "payment_state", "ref"]

def accountMoveLineFields : List String :=
  ["id", "move_id", "parent_state", "account_id", "journal_id", "partner_id", "company_id",
    "currency_id", "date", "date_maturity", "name", "debit", "credit", "balance",
    "amount_currency", "amount_residual", "amount_residual_currency", "reconciled",
    "analytic_distribution"]

def getAccountMoves (companyId : Int) (filters : List FilterClause) (page : PageRequest) :
    Odoo (RecordPage AccountMove) :=
  reader.readPage "account.move" companyId [domainClause "company_id" "=" (.int companyId)] filters
    page accountMoveFields normalizeAccountMove (enforceScoped AccountMove.companyId companyId)
    anyRows

def getAccountMoveLines (companyId : Int) (filters : List FilterClause) (page : PageRequest) :
    Odoo (RecordPage AccountMoveLine) :=
  reader.readPage "account.move.line" companyId [domainClause "company_id" "=" (.int companyId)]
    filters page accountMoveLineFields normalizeAccountMoveLine
    (enforceScoped AccountMoveLine.companyId companyId) anyRows

/-! ### Invoices -/

def invoiceEffectFields : List String :=
  ["id", "name", "move_type", "state", "company_id", "partner_id", "invoice_date",
    "invoice_date_due", "journal_id", "fiscal_position_id", "currency_id",
    "invoice_payment_term_id", "amount_untaxed", "amount_tax", "amount_total", "amount_residual",
    "payment_state"]

def invoiceEffectLineFields : List String :=
  ["id", "move_id", "company_id", "display_type", "name", "quantity", "price_unit",
    "price_subtotal", "price_total", "tax_line_id", "account_id", "debit", "credit", "balance",
    "currency_id", "amount_currency", "analytic_distribution", "date_maturity", "amount_residual"]

structure EffectLines where
  invoiceLines : List InvoiceLineEffect
  validationLines : List InvoiceValidationLine
  taxTotals : List (Int × String × Decimal)
  schedule : List PaymentScheduleLine

namespace EffectLines

def empty : EffectLines := ⟨[], [], [], []⟩

def addTax (lines : EffectLines) (tax : RelatedRecord) (line : Payload) : Option EffectLines := do
  let balance ← Field.decimal (line.field "balance")
  match dictGet lines.taxTotals tax.id with
  | none =>
      return { lines with
        taxTotals := dictSet lines.taxTotals tax.id (tax.name, Decimal.zero.add balance.abs) }
  | some (name, amount) =>
      if name ≠ tax.name then none
      return { lines with
        taxTotals := dictSet lines.taxTotals tax.id (tax.name, amount.add balance.abs) }

def addInvoiceLine (lines : EffectLines) (line : Payload) : Option EffectLines := do
  let effect : InvoiceLineEffect :=
    { id := ← Field.positiveInt (line.field "id")
      description := ← Field.text (line.field "name")
      quantity := ← Field.decimal (line.field "quantity")
      unitPrice := ← Field.decimal (line.field "price_unit")
      subtotal := ← Field.decimal (line.field "price_subtotal")
      total := ← Field.decimal (line.field "price_total")
      taxes := []
      analyticDistribution := ← Field.analyticDistribution (line.field "analytic_distribution") }
  return { lines with invoiceLines := lines.invoiceLines ++ [effect] }

def addSchedule (lines : EffectLines) (line : Payload) : Option EffectLines := do
  let maturity ← (← Field.optional Field.date (line.field "date_maturity"))
  let amount ← Field.decimal (line.field "amount_residual")
  return { lines with schedule := lines.schedule ++ [⟨maturity, amount.abs⟩] }

def addLine (companyId : Int) (lines : EffectLines) (row : Payload) : Option EffectLines := do
  let line := record row
  if (← Field.relatedId (line.field "company_id")) ≠ companyId then none
  let displayType ← Field.optional Field.text (line.field "display_type")
  let tax ← Field.optional Field.relation (line.field "tax_line_id")
  let validation : InvoiceValidationLine :=
    { id := ← Field.positiveInt (line.field "id")
      displayType := displayType
      account := ← Field.optional Field.relation (line.field "account_id")
      debit := ← Field.decimal (line.field "debit")
      credit := ← Field.decimal (line.field "credit")
      balance := ← Field.decimal (line.field "balance")
      currency := ← Field.optional Field.relation (line.field "currency_id")
      amountCurrency := ← Field.decimal (line.field "amount_currency")
      taxLine := tax
      subtotal := ← Field.decimal (line.field "price_subtotal")
      total := ← Field.decimal (line.field "price_total") }
  let lines := { lines with validationLines := lines.validationLines ++ [validation] }
  match tax, displayType with
  | some tax, _ => lines.addTax tax line
  | none, none => lines.addInvoiceLine line
  | none, some "product" => lines.addInvoiceLine line
  | none, some "payment_term" => lines.addSchedule line
  | none, some _ => return lines

def taxBefore (first second : Int × String × Decimal) : Prop := first.1 ≤ second.1

instance : DecidableRel taxBefore := fun first second =>
  inferInstanceAs (Decidable (first.1 ≤ second.1))

def taxes (lines : EffectLines) : List InvoiceTax :=
  (lines.taxTotals.insertionSort taxBefore).map fun entry => ⟨entry.1, entry.2.1, entry.2.2⟩

end EffectLines

def invoiceEffect (companyId : Int) (raw : Payload) (lineRows : List Payload) :
    Option InvoiceEffect := do
  let lines ← lineRows.foldlM (EffectLines.addLine companyId) .empty
  return {
    id := ← Field.positiveInt (raw.field "id")
    name := match ← Field.optional Field.text (raw.field "name") with
      | some name => if name = "" then "/" else name
      | none => "/"
    moveType := ← Field.text (raw.field "move_type")
    state := ← Field.text (raw.field "state")
    companyId := ← Field.relatedId (raw.field "company_id")
    partner := ← Field.relation (raw.field "partner_id")
    invoiceDate := ← Field.date (raw.field "invoice_date")
    dueDate := ← Field.optional Field.date (raw.field "invoice_date_due")
    journal := ← Field.relation (raw.field "journal_id")
    fiscalPosition := ← Field.optional Field.relation (raw.field "fiscal_position_id")
    currency := ← Field.relation (raw.field "currency_id")
    paymentTerm := ← Field.optional Field.relation (raw.field "invoice_payment_term_id")
    amountUntaxed := ← Field.decimal (raw.field "amount_untaxed")
    amountTax := ← Field.decimal (raw.field "amount_tax")
    amountTotal := ← Field.decimal (raw.field "amount_total")
    amountResidual := ← Field.decimal (raw.field "amount_residual")
    paymentState := ← Field.optional Field.text (raw.field "payment_state")
    taxes := lines.taxes
    lines := lines.invoiceLines
    paymentSchedule := lines.schedule
    validationLines := lines.validationLines }

def getInvoiceEffect (companyId moveId : Int) : Odoo InvoiceEffect := do
  Program.ofExcept (reader.requireCompany companyId)
  Program.ofExcept (ensure (0 < moveId)
    (invalidInput "The invoice ID is invalid." "Use a positive invoice ID."))
  Program.ofExcept (ensureModelReadAllowed "account.move")
  let rows ← searchRead "account.move"
    [domainClause "id" "=" (.int moveId), domainClause "company_id" "=" (.int companyId)]
    invoiceEffectFields 2 0 "id asc" [companyId]
  let row ← Program.ofExcept (match rows with
    | [row] => .ok row
    | _ => .error (invalidInput "The requested invoice or bill is unavailable."
        "Use an invoice or bill ID from the authorized company."))
  Program.ofExcept (ensureModelReadAllowed "account.move.line")
  let lineRows ← searchRead "account.move.line"
    [domainClause "move_id" "=" (.int moveId), domainClause "company_id" "=" (.int companyId)]
    invoiceEffectLineFields 1001 0 "id asc" [companyId]
  Program.ofExcept (ensure (lineRows.length ≤ 1000) invalidResponse)
  Program.ofExcept (orRaise (invoiceEffect companyId (record row) lineRows) invalidResponse)

/-- `[0, 0, values]`, the command that creates a line. -/
def createLine (values : PyDict) : PyValue := .list [.int 0, .int 0, .dict values]

def analyticEntry (account : Option Int) : PyDict :=
  account.toList.map fun account =>
    (.str "analytic_distribution", .dict [(.str (toString account), .int 100)])

def optionalEntry {α : Type} (key : String) (wrap : α → PyValue) (value : Option α) : PyDict :=
  value.toList.map fun found => (.str key, wrap found)

def nonEmpty (value : Option String) : Option String := value.filter (· ≠ "")

def invoiceValues (draft : InvoiceDraft) : PyDict :=
  let lines := draft.lines.map fun line => createLine
    ([(.str "name", .str line.description),
      (.str "quantity", line.quantity.toFloat),
      (.str "price_unit", line.unitPrice.toFloat),
      (.str "account_id", .int line.accountId)] ++
      optionalEntry "product_id" .int line.productId ++
      analyticEntry (line.analyticAccountId.or draft.analyticAccountId))
  [(.str "company_id", .int draft.companyId),
    (.str "move_type", .str draft.moveType),
    (.str "partner_id", .int draft.partnerId),
    (.str "invoice_date", .str draft.invoiceDate.isoformat),
    (.str "invoice_line_ids", .list lines)] ++
    optionalEntry "currency_id" .int draft.currencyId ++
    optionalEntry "invoice_payment_term_id" .int draft.paymentTermId ++
    optionalEntry "ref" .str draft.vendorReference

/-- `_created_id` -/
def createdId (value : PyValue) : Except PyException Int :=
  orRaise (Field.createdId value) invalidResponse

def createDraftInvoice (draft : InvoiceDraft) : Odoo InvoiceEffect := do
  Program.ofExcept (reader.requireCompany draft.companyId)
  Program.ofExcept (ensureAccountingActionAllowed "account.move" "create_draft")
  let result ← executeMethod "account.move" "create" []
    [("vals_list", .dict (invoiceValues draft))] [draft.companyId]
  let moveId ← Program.ofExcept (createdId result)
  let effect ← reader.getInvoiceEffect draft.companyId moveId
  Program.ofExcept (ensure (effect.state = "draft" && effect.moveType = draft.moveType)
    invalidResponse)
  return effect

def postInvoice (companyId moveId : Int) : Odoo InvoiceEffect := do
  Program.ofExcept (reader.requireCompany companyId)
  Program.ofExcept (ensureAccountingActionAllowed "account.move" "post_existing_draft")
  let _ ← executeMethod "account.move" "action_post" [moveId] [] [companyId]
  let effect ← reader.getInvoiceEffect companyId moveId
  Program.ofExcept (ensure (effect.state = "posted") invalidResponse)
  return effect

/-! ### Journal entries -/

def journalEntryLine (line : AccountMoveLine) : JournalEntryLine :=
  ⟨line.id, line.account, line.partner, line.label, line.debit, line.credit,
    line.analyticDistribution⟩

/-- The page loop of `get_journal_entry`. Every page but the last adds lines, and there may be at
most ten thousand of them. -/
def journalEntryLines (companyId moveId : Int) (lines : List JournalEntryLine)
    (cursor : Option String) : Odoo (List JournalEntryLine) := do
  let request ← Program.ofExcept (PageRequest.build 500 cursor (by decide) (by decide))
  let page ← reader.getAccountMoveLines companyId [⟨"move_id", "=", .int moveId⟩] request
  Program.ofExcept (ensure (page.items.all fun line => line.move.id = moveId) invalidResponse)
  let read := lines ++ page.items.map journalEntryLine
  if hbound : 10000 < read.length then
    throw invalidResponse
  else
    match hnext : page.nextCursor with
    | none => return read
    | some next => journalEntryLines companyId moveId read (some next)
termination_by 10001 - lines.length
decreasing_by
  have hitems : page.items ≠ [] := page.progress (by rw [hnext]; rfl)
  have hadded : 0 < page.items.length := List.length_pos_iff.mpr hitems
  simp only [read, List.length_append, List.length_map] at hbound ⊢
  omega

def getJournalEntry (companyId moveId : Int) : Odoo JournalEntry := do
  Program.ofExcept (reader.requireCompany companyId)
  Program.ofExcept (ensure (0 < moveId)
    (invalidInput "The journal entry ID is invalid." "Use a positive entry ID."))
  let request ← Program.ofExcept (PageRequest.build 2 none (by decide) (by decide))
  let moves ← reader.getAccountMoves companyId [⟨"id", "=", .int moveId⟩] request
  let move ← Program.ofExcept (match moves.items with
    | [move] => .ok move
    | _ => .error (invalidInput "The requested journal entry is unavailable."
        "Use a journal entry ID from the authorized company."))
  Program.ofExcept (ensure (move.id = moveId) invalidResponse)
  let lines ← reader.journalEntryLines companyId moveId [] none
  return ⟨move.id, move.name, move.moveType, move.state, move.date, move.journal, move.companyId,
    move.currency, move.reference, lines⟩

def journalEntryValues (draft : JournalEntryDraft) : PyDict :=
  let lines := draft.lines.map fun line => createLine
    ([(.str "account_id", .int line.accountId),
      (.str "debit", line.debit.toFloat),
      (.str "credit", line.credit.toFloat)] ++
      optionalEntry "partner_id" .int line.partnerId ++
      optionalEntry "name" .str (nonEmpty line.description) ++
      analyticEntry line.analyticAccountId)
  [(.str "company_id", .int draft.companyId),
    (.str "move_type", .str "entry"),
    (.str "journal_id", .int draft.journalId),
    (.str "date", .str draft.entryDate.isoformat),
    (.str "line_ids", .list lines)] ++
    optionalEntry "ref" .str draft.reference

def createJournalEntryDraft (draft : JournalEntryDraft) : Odoo JournalEntry := do
  Program.ofExcept (reader.requireCompany draft.companyId)
  Program.ofExcept (ensureAccountingActionAllowed "account.move" "create_draft")
  let result ← executeMethod "account.move" "create" []
    [("vals_list", .dict (journalEntryValues draft))] [draft.companyId]
  let moveId ← Program.ofExcept (createdId result)
  let effect ← reader.getJournalEntry draft.companyId moveId
  Program.ofExcept (ensure (effect.state = "draft" && effect.moveType = "entry") invalidResponse)
  return effect

def postJournalEntry (companyId moveId : Int) : Odoo JournalEntry := do
  Program.ofExcept (reader.requireCompany companyId)
  Program.ofExcept (ensureAccountingActionAllowed "account.move" "post_existing_draft")
  let current ← reader.getJournalEntry companyId moveId
  Program.ofExcept (ensure (current.state = "draft" && current.moveType = "entry")
    (.odooMcpError ⟨.journalEntryNotDraft,
      "The journal entry is not an eligible draft manual entry.",
      "Use an existing draft manual journal entry from the authorized company."⟩))
  let _ ← executeMethod "account.move" "action_post" [moveId] [] [companyId]
  let effect ← reader.getJournalEntry companyId moveId
  Program.ofExcept (ensure (effect.state = "posted" && effect.moveType = "entry") invalidResponse)
  return effect

/-! ### Credit notes -/

def wizardContext (companyId moveId : Int) : PyValue :=
  .dict
    [(.str "allowed_company_ids", .list [.int companyId]),
      (.str "active_model", .str "account.move"),
      (.str "active_ids", .list [.int moveId]),
      (.str "active_id", .int moveId)]

def actionMoveId : PyValue → Option Int
  | .dict entries => (dictGet entries (.str "res_id")).bind Field.positiveInt
  | _ => none

def rowIds (rows : List Payload) : Except PyException (List Int) := do
  ensure (rows.length ≤ 1000) invalidResponse
  orRaise (rows.mapM fun row => Field.positiveInt (row.field "id")) invalidResponse

/-- The credit note among the new reversals: the one the wizard named, or the only one. -/
def reversalId (action : Option Int) (newIds : List Int) : Except PyException Int :=
  match action, newIds.dedup with
  | some named, new => do
      ensure (new.contains named) invalidResponse
      return named
  | none, [only] => .ok only
  | none, _ => .error invalidResponse

def createCreditNote (companyId originalMoveId : Int) (creditDate : Date) (reason : String) :
    Odoo InvoiceEffect := do
  Program.ofExcept (reader.requireCompany companyId)
  Program.ofExcept (ensureAccountingActionAllowed "account.move" "reverse_existing_move")
  Program.ofExcept (ensureAccountingActionAllowed "account.move.reversal" "create_transient")
  let original ← reader.getInvoiceEffect companyId originalMoveId
  Program.ofExcept (ensure
    (original.state = "posted" && ["out_invoice", "in_invoice"].contains original.moveType)
    (invalidInput "The source document is not eligible for reversal."
      "Use a posted customer invoice or supplier bill."))
  let context := wizardContext companyId originalMoveId
  let existingRows ← searchRead "account.move"
    [domainClause "reversed_entry_id" "=" (.int originalMoveId),
      domainClause "company_id" "=" (.int companyId)]
    ["id"] 1001 0 "id asc" [companyId]
  let existingIds ← Program.ofExcept (rowIds existingRows)
  let wizard ← executeMethod "account.move.reversal" "create" []
    [("vals_list", .dict
        [(.str "move_ids", .list [.list [.int 6, .int 0, .list [.int originalMoveId]]]),
          (.str "date", .str creditDate.isoformat),
          (.str "reason", .str reason),
          (.str "company_id", .int companyId),
          (.str "journal_id", .int original.journal.id)]),
      ("context", context)]
    [companyId]
  let wizardId ← Program.ofExcept (createdId wizard)
  Program.ofExcept
    (ensureAccountingActionAllowed "account.move.reversal" "execute_standard_workflow")
  let result ← executeMethod "account.move.reversal" "reverse_moves" [wizardId]
    [("context", context)] [companyId]
  let rows ← searchRead "account.move"
    [domainClause "reversed_entry_id" "=" (.int originalMoveId),
      domainClause "company_id" "=" (.int companyId),
      domainClause "state" "=" (.str "draft")]
    ["id"] 1001 0 "id desc" [companyId]
  let draftIds ← Program.ofExcept (rowIds rows)
  let moveId ← Program.ofExcept (reversalId (actionMoveId result)
    (draftIds.filter fun identifier => !existingIds.contains identifier))
  reader.getInvoiceEffect companyId moveId

/-! ### Payments -/

def paymentPreviewFields : List String :=
  ["available_journal_ids", "journal_id", "available_payment_method_line_ids",
    "payment_method_line_id", "payment_method_code", "amount", "currency_id", "payment_date",
    "payment_type", "partner_type", "company_id", "can_edit_wizard"]

def maxPaymentJournals : Nat := 50

def maxPaymentMethods : Nat := 100

def wizardRow (request : PaymentPreviewRequest) (result : PyValue) : Option Payload := do
  let row ← match result with
    | .list [value] => record? value
    | _ => none
  if (← Field.relatedId (row.field "company_id")) ≠ request.companyId then none
  if (← Field.date (row.field "payment_date")) ≠ request.paymentDate then none
  if (← Field.decimal (row.field "amount")).le .zero then none
  return row

/-- `_payment_wizard_row` -/
def paymentWizardRow (request : PaymentPreviewRequest) (journalId methodLineId : Option Int)
    (execution : Bool) : Odoo (Int × Payload) := do
  let context := wizardContext request.companyId request.invoiceId
  Program.ofExcept (ensureAccountingActionAllowed "account.payment.register"
    (if execution then "create_execution_transient" else "create_preview_transient"))
  let wizard ← executeMethod "account.payment.register" "create" []
    [("vals_list", .dict
        ([(.str "payment_date", .str request.paymentDate.isoformat),
          (.str "amount", request.amount.toFloat)] ++
          optionalEntry "journal_id" .int journalId ++
          optionalEntry "payment_method_line_id" .int methodLineId)),
      ("context", context)]
    [request.companyId]
  let wizardId ← Program.ofExcept (createdId wizard)
  Program.ofExcept
    (ensureAccountingActionAllowed "account.payment.register" "read_preview_transient")
  let result ← executeMethod "account.payment.register" "read" [wizardId]
    [("fields", .list (paymentPreviewFields.map .str)), ("context", context)] [request.companyId]
  let row ← Program.ofExcept (orRaise (wizardRow request result) invalidResponse)
  return (wizardId, row)

/-- `_payment_route` -/
def paymentRoute (row : Payload) (journalId methodId : Int) : Option PaymentRoute := do
  let journal ← Field.relation (row.field "journal_id")
  let method ← Field.relation (row.field "payment_method_line_id")
  if journal.id ≠ journalId || method.id ≠ methodId then none
  let code ← Field.optional Field.text (row.field "payment_method_code")
  let paymentType ← Field.text (row.field "payment_type")
  return ⟨journal, method, code, paymentType,
    if code = some "manual" then .notInitiatedByOdoo else .unknown⟩

/-- The wizard is set up to register exactly this payment of this invoice. -/
def wizardRegisters (registration : PaymentRegistration) (invoice : InvoiceEffect) (row : Payload) :
    Option Unit := do
  let journals ← Field.positiveIds maxPaymentJournals (row.field "available_journal_ids")
  let methods ← Field.positiveIds maxPaymentMethods
    (row.field "available_payment_method_line_ids")
  let route ← paymentRoute row registration.journalId registration.paymentMethodLineId
  if registration.journalId ∉ journals then none
  if registration.paymentMethodLineId ∉ methods then none
  if (← Field.relatedId (row.field "currency_id")) ≠ invoice.currency.id then none
  if !(← Field.decimal (row.field "amount")).same registration.amount then none
  let outgoing := invoice.moveType = "out_invoice"
  if (← Field.text (row.field "payment_type")) ≠ (if outgoing then "inbound" else "outbound") then
    none
  if (← Field.text (row.field "partner_type")) ≠ (if outgoing then "customer" else "supplier") then
    none
  if route.paymentMethodCode ≠ registration.paymentMethodCode then none
  if route.externalEffectStatus ≠ registration.externalEffectStatus then none

def registerPayment (registration : PaymentRegistration) : Odoo InvoiceEffect := do
  Program.ofExcept (reader.requireCompany registration.companyId)
  let request : PaymentPreviewRequest :=
    ⟨registration.invoiceId, registration.companyId, registration.paymentDate, registration.amount⟩
  let effect ← reader.getInvoiceEffect registration.companyId registration.invoiceId
  Program.ofExcept (ensure
    (effect.state = "posted" && registration.amount.le effect.amountResidual)
    (invalidInput "The invoice is no longer eligible for payment registration."
      "Refresh the invoice and retry with a new idempotency key."))
  let (wizardId, row) ← paymentWizardRow request (some registration.journalId)
    (some registration.paymentMethodLineId) true
  Program.ofExcept (orRaise (wizardRegisters registration effect row) invalidResponse)
  let context := wizardContext registration.companyId registration.invoiceId
  Program.ofExcept
    (ensureAccountingActionAllowed "account.payment.register" "execute_standard_workflow")
  let _ ← executeMethod "account.payment.register" "action_create_payments" [wizardId]
    [("context", context)] [registration.companyId]
  reader.getInvoiceEffect registration.companyId registration.invoiceId

end AccountingReader

end OdooMcp
