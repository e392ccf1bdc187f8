import OdooMcp.Workflows.AgedBalance

/-!
# Open documents

The posted invoices or bills up to a day, with what was open of them at the end of the day: the
residuals of their receivable or payable lines, in company and in document currency.
-/

namespace OdooMcp

namespace Invoicing

open Arithmetic Effect Reports

structure OpenDocumentsInput where
  companyId : Int
  asOfDate : Date
  partnerIds : List Int
  overdueOnly : Bool
  limit : Nat
  cursor : Option String

structure OpenDocumentItem (N : Type) where
  moveId : Int
  partnerId : Int
  partnerName : String
  number : String
  invoiceDate : Date
  dueDate : Option Date
  currencyId : Int
  currencyName : String
  amountTotal : Decimal
  residualCurrency : N
  residualCompany : N
  paymentState : String
  overdueDays : Int

structure CurrencyResidualTotal (N : Type) where
  currencyId : Int
  currencyName : String
  residual : N

structure OpenDocumentsSummary (N : Type) where
  documentCount : Nat
  currencyTotals : List (CurrencyResidualTotal N)
  companyCurrencyResidual : N

def lineOutside : PyException :=
  .odooMcpError ⟨.odooApiError, "Odoo returned an invoice line outside the requested documents.",
    "Check Odoo compatibility and retry."⟩

def inconsistentInvoice : PyException :=
  .odooMcpError ⟨.odooApiError, "Odoo returned inconsistent invoice data.",
    "Check Odoo compatibility and retry."⟩

def invoiceWithoutPartner : PyException :=
  .odooMcpError ⟨.odooApiError, "Odoo returned an invoice without a partner.",
    "Correct the invoice and retry."⟩

def documentType (bills : Bool) : String := if bills then "in_invoice" else "out_invoice"

def documentFilters (request : OpenDocumentsInput) (bills : Bool) : List FilterClause :=
  [⟨"state", "=", .text "posted"⟩, ⟨"move_type", "=", .text (documentType bills)⟩,
      ⟨"invoice_date", "<=", .date request.asOfDate⟩] ++
    if request.partnerIds.isEmpty then []
    else [⟨"partner_id", "in", .tuple (request.partnerIds.map .int)⟩]

def documentLineFilters (documentIds : List Int) (bills : Bool) : List FilterClause :=
  [⟨"move_id", "in", .tuple (documentIds.map .int)⟩,
    ⟨"account_id.account_type", "=", .text (ageingType bills)⟩]

variable {N : Type} [Arithmetic N]

/-- `residual_company` and `residual_currency`, given the reconciliations after the day. -/
def documentResiduals (lines : List AccountMoveLine) (later : List PartialReconciliation) :
    Residuals (N × N) :=
  Residuals.undoAll
    (fun reconciliation residual => (add residual.1 (ofDecimal reconciliation.amount),
      add residual.2 (ofDecimal reconciliation.debitAmountCurrency)))
    (fun reconciliation residual => (sub residual.1 (ofDecimal reconciliation.amount),
      sub residual.2 (ofDecimal reconciliation.creditAmountCurrency))) later
    (Residuals.ofLines
      (fun line => (ofDecimal line.residual, ofDecimal line.residualCurrency)) lines)

def addDocumentLine (documentIds : List Int) (residuals : Residuals (N × N)) (totals : Int → N × N)
    (line : AccountMoveLine) : Except PyException (Int → N × N) := do
  ensure (documentIds.contains line.move.id) lineOutside
  let residual ← orRaise (residuals line.id) missingKey
  let opened := totals line.move.id
  return Function.update totals line.move.id (add opened.1 residual.1, add opened.2 residual.2)

/-- `max((as_of_date - due).days, 0) if due else 0` -/
def overdueDaysOf (asOfDate : Date) : Option Date → Int
  | none => 0
  | some due => max ((asOfDate.ordinal : Int) - due.ordinal) 0

def openDocument (request : OpenDocumentsInput) (bills : Bool) (totals : Int → N × N)
    (document : AccountMove) : Except PyException (Option (OpenDocumentItem N)) := do
  ensure (document.state = "posted" && document.moveType = documentType bills) inconsistentInvoice
  let invoiceDate ← orRaise document.invoiceDate inconsistentInvoice
  let partner ← orRaise document.partner invoiceWithoutPartner
  let companyResidual := abs (totals document.id).1
  let recordResidual := abs (totals document.id).2
  let overdueDays := overdueDaysOf request.asOfDate document.invoiceDateDue
  if same companyResidual zero && same recordResidual zero then
    return none
  else if request.overdueOnly && overdueDays = 0 then
    return none
  else
    return some
      { moveId := document.id
        partnerId := partner.id
        partnerName := partner.name
        number := document.name
        invoiceDate := invoiceDate
        dueDate := document.invoiceDateDue
        currencyId := document.currency.id
        currencyName := document.currency.name
        amountTotal := document.amountTotal
        residualCurrency := recordResidual
        residualCompany := companyResidual
        paymentState :=
          if lt recordResidual (abs (ofDecimal document.amountTotal)) then "partial" else "not_paid"
        overdueDays := overdueDays }

/-- `date.max` -/
def dateMax : Date := ⟨3652058⟩

example : Calendar.civil dateMax.ordinal = (9999, 12, 31) := by decide

def OpenDocumentItem.sortKey (item : OpenDocumentItem N) : Nat × Int :=
  ((item.dueDate.getD dateMax).ordinal, item.moveId)

def sortedOpenDocuments (items : List (OpenDocumentItem N)) : List (OpenDocumentItem N) :=
  items.insertionSort fun first second =>
    first.sortKey.1 < second.sortKey.1 ||
      (first.sortKey.1 = second.sortKey.1 && first.sortKey.2 ≤ second.sortKey.2)

/-- `sorted(totals.items())` -/
def currencyTotals (items : List (OpenDocumentItem N)) : List (CurrencyResidualTotal N) :=
  let totals := Tally.changeAll (fun item => (item.currencyId, item.currencyName)) (fun _ => zero)
    (fun item residual => add residual item.residualCurrency) items []
  let sorted := totals.insertionSort fun first second =>
    first.1.1 < second.1.1 || (first.1.1 = second.1.1 && first.1.2 ≤ second.1.2)
  sorted.map fun entry => ⟨entry.1.1, entry.1.2, entry.2⟩

def openDocumentsSummary (items : List (OpenDocumentItem N)) : OpenDocumentsSummary N :=
  ⟨items.length, currencyTotals items, total (items.map (·.residualCompany))⟩

/-- What the listing makes of the documents, their lines and the reconciliations after the day. -/
def openDocumentsOf (request : OpenDocumentsInput) (bills : Bool) (documents : List AccountMove)
    (lines : List AccountMoveLine) (later : List PartialReconciliation) :
    Except PyException (WholeReport (OpenDocumentItem N) (OpenDocumentsSummary N)) := do
  let residuals : Residuals (N × N) := documentResiduals lines later
  let totals ← lines.foldlM (addDocumentLine (documents.map (·.id)) residuals)
    fun _ => (zero, zero)
  let found ← documents.mapM (openDocument request bills totals)
  let items := sortedOpenDocuments found.reduceOption
  return ⟨items, openDocumentsSummary items⟩

/-- The lines of the documents are read unless there is none. -/
def documentLines (documents : List AccountMove) (bills : Bool) :
    ReportProgram (List AccountMoveLine) :=
  if documents.isEmpty then
    pure []
  else
    Program.call (S := reportReads)
      (.documentLines (documentLineFilters (documents.map (·.id)) bills))

/-- `list_open_documents`, with all its items. -/
def listOpenDocuments (request : OpenDocumentsInput) (bills : Bool) :
    ReportProgram (WholeReport (OpenDocumentItem N) (OpenDocumentsSummary N)) := do
  let documents ← Program.call (S := reportReads) (.documents (documentFilters request bills))
  let lines ← documentLines documents bills
  let later ← Program.call (S := reportReads) (.documentPartials (reconciledAfter request.asOfDate))
  Program.ofExcept (openDocumentsOf request bills documents lines later)

end Invoicing

end OdooMcp
