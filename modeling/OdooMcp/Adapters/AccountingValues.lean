import OdooMcp.Adapters.Transport

/-!
# Accounting values

The values that cross the boundary between the accounting reader and the workflows.
-/

namespace OdooMcp

inductive FilterValue
  | text (value : String)
  | int (value : Int)
  | float (text : String) (finite : Bool)
  | flag (value : Bool)
  | date (value : Date)
  | decimal (value : Decimal)
  | none
  | tuple (items : List FilterValue)

structure FilterClause where
  field : String
  operator : String
  value : FilterValue

structure PageRequest where
  limit : Nat
  cursor : Option String
  limit_pos : 1 ≤ limit
  limit_le : limit ≤ 500
  cursor_le : ∀ text, cursor = some text → text.length ≤ 128

namespace PageRequest

theorem one_le_max : 1 ≤ 500 := by decide

theorem two_le_max : 2 ≤ 500 := by decide

theorem max_le_max : 500 ≤ 500 := Nat.le_refl 500

theorem no_cursor (text : String) (htext : none = some text) : text.length ≤ 128 := by cases htext

theorem unset_cursor (text : String) (htext : text ∈ (none : Option String)) :
    text.length ≤ 128 := by cases htext

end PageRequest

/-- `DatePeriod`: the end does not precede the start. -/
structure DatePeriod where
  start : Date
  finish : Date
  ordered : start.ordinal ≤ finish.ordinal

/-- The period from a day to so many days after it. -/
def DatePeriod.lasting (start days : Nat) : DatePeriod :=
  ⟨⟨start⟩, ⟨start + days⟩, Nat.le_add_right start days⟩

/-- `RecordPage`: a page with a successor holds at least one item. -/
structure RecordPage (α : Type) where
  items : List α
  nextCursor : Option String
  progress : nextCursor.isSome → items ≠ []

structure AccountMove where
  id : Int
  name : String
  moveType : String
  state : String
  date : Date
  invoiceDate : Option Date
  invoiceDateDue : Option Date
  partner : Option RelatedRecord
  journal : RelatedRecord
  companyId : Int
  currency : RelatedRecord
  amountTotal : Decimal
  amountResidual : Decimal
  amountResidualCompany : Option Decimal
  paymentState : Option String
  reference : Option String

inductive MoveState
  | draft
  | posted
  deriving DecidableEq, Repr

structure AccountMoveLine where
  id : Int
  move : RelatedRecord
  moveState : MoveState
  account : RelatedRecord
  journal : RelatedRecord
  partner : Option RelatedRecord
  companyId : Int
  currency : Option RelatedRecord
  date : Date
  maturityDate : Option Date
  label : Option String
  debit : Decimal
  credit : Decimal
  balance : Decimal
  amountCurrency : Decimal
  residual : Decimal
  residualCurrency : Decimal
  reconciled : Bool
  analyticDistribution : List (String × Decimal)

structure PartialReconciliation where
  id : Int
  debitMoveLine : RelatedRecord
  creditMoveLine : RelatedRecord
  amount : Decimal
  debitAmountCurrency : Decimal
  creditAmountCurrency : Decimal
  maxDate : Date

structure Journal where
  id : Int
  name : String
  code : String
  journalType : String
  companyId : Int
  currency : Option RelatedRecord

structure Currency where
  id : Int
  name : String
  rounding : Decimal

structure CurrencyRate where
  id : Int
  effectiveDate : Date
  currencyId : Int
  companyId : Option Int
  companyRate : Decimal
  inverseCompanyRate : Decimal

structure CurrencyRatePage where
  companyCurrency : RelatedRecord
  rootCompanyId : Int
  items : List CurrencyRate
  nextCursor : Option String

structure BankStatementLine where
  id : Int
  date : Date
  paymentReference : Option String
  amount : Decimal
  amountCurrency : Option Decimal
  foreignCurrency : Option RelatedRecord
  partner : Option RelatedRecord
  journal : RelatedRecord
  companyId : Int
  reconciled : Bool
  move : Option RelatedRecord

structure PaymentTerm where
  id : Int
  name : String
  companyId : Option Int

structure Partner where
  id : Int
  name : String
  companyId : Option Int
  customerRank : Int
  supplierRank : Int

structure Product where
  id : Int
  name : String
  defaultCode : Option String
  companyId : Option Int
  listPrice : Decimal
  currency : Option RelatedRecord

structure Account where
  id : Int
  code : String
  name : String
  accountType : String
  companyIds : List Int
  currency : Option RelatedRecord
  reconcile : Bool

structure AnalyticAccount where
  id : Int
  name : String
  code : Option String
  companyId : Option Int
  currency : Option RelatedRecord

structure InvoiceTax where
  id : Int
  name : String
  amount : Decimal

structure InvoiceLineEffect where
  id : Int
  description : String
  quantity : Decimal
  unitPrice : Decimal
  subtotal : Decimal
  total : Decimal
  taxes : List InvoiceTax
  analyticDistribution : List (String × Decimal)

structure InvoiceValidationLine where
  id : Int
  displayType : Option String
  account : Option RelatedRecord
  debit : Decimal
  credit : Decimal
  balance : Decimal
  currency : Option RelatedRecord
  amountCurrency : Decimal
  taxLine : Option RelatedRecord
  subtotal : Decimal
  total : Decimal

structure PaymentScheduleLine where
  dueDate : Date
  amount : Decimal

structure InvoiceEffect where
  id : Int
  name : String
  moveType : String
  state : String
  companyId : Int
  partner : RelatedRecord
  invoiceDate : Date
  dueDate : Option Date
  journal : RelatedRecord
  fiscalPosition : Option RelatedRecord
  currency : RelatedRecord
  paymentTerm : Option RelatedRecord
  amountUntaxed : Decimal
  amountTax : Decimal
  amountTotal : Decimal
  amountResidual : Decimal
  paymentState : Option String
  taxes : List InvoiceTax
  lines : List InvoiceLineEffect
  paymentSchedule : List PaymentScheduleLine
  validationLines : List InvoiceValidationLine

structure InvoiceDraftLine where
  description : String
  quantity : Decimal
  unitPrice : Decimal
  accountId : Int
  productId : Option Int
  analyticAccountId : Option Int

structure InvoiceDraft where
  companyId : Int
  moveType : String
  partnerId : Int
  invoiceDate : Date
  lines : List InvoiceDraftLine
  currencyId : Option Int
  paymentTermId : Option Int
  analyticAccountId : Option Int
  vendorReference : Option String

structure JournalEntryDraftLine where
  accountId : Int
  partnerId : Option Int
  description : Option String
  debit : Decimal
  credit : Decimal
  analyticAccountId : Option Int

structure JournalEntryDraft where
  companyId : Int
  journalId : Int
  entryDate : Date
  reference : Option String
  lines : List JournalEntryDraftLine

structure JournalEntryLine where
  id : Int
  account : RelatedRecord
  partner : Option RelatedRecord
  description : Option String
  debit : Decimal
  credit : Decimal
  analyticDistribution : List (String × Decimal)

structure JournalEntry where
  id : Int
  name : String
  moveType : String
  state : String
  date : Date
  journal : RelatedRecord
  companyId : Int
  currency : RelatedRecord
  reference : Option String
  lines : List JournalEntryLine

inductive ExternalEffectStatus
  | notInitiatedByOdoo
  | unknown
  deriving DecidableEq, Repr

structure PaymentRoute where
  journal : RelatedRecord
  paymentMethodLine : RelatedRecord
  paymentMethodCode : Option String
  paymentType : String
  externalEffectStatus : ExternalEffectStatus

structure PaymentPreviewRequest where
  invoiceId : Int
  companyId : Int
  paymentDate : Date
  amount : Decimal

structure PaymentRegistration where
  invoiceId : Int
  companyId : Int
  paymentDate : Date
  amount : Decimal
  journalId : Int
  paymentMethodLineId : Int
  paymentMethodCode : Option String
  externalEffectStatus : ExternalEffectStatus

/-! ### As JSON -/

def dumpDistribution (distribution : List (String × Decimal)) : PyValue :=
  .dict (distribution.map fun entry => (.str entry.1, entry.2.dump))

def InvoiceTax.dump (tax : InvoiceTax) : PyValue :=
  .dict [(.str "id", .int tax.id), (.str "name", .str tax.name), (.str "amount", tax.amount.dump)]

def InvoiceLineEffect.dump (line : InvoiceLineEffect) : PyValue :=
  .dict
    [(.str "id", .int line.id),
      (.str "description", .str line.description),
      (.str "quantity", line.quantity.dump),
      (.str "unit_price", line.unitPrice.dump),
      (.str "subtotal", line.subtotal.dump),
      (.str "total", line.total.dump),
      (.str "taxes", .list (line.taxes.map (·.dump))),
      (.str "analytic_distribution", dumpDistribution line.analyticDistribution)]

def PaymentScheduleLine.dump (line : PaymentScheduleLine) : PyValue :=
  .dict [(.str "due_date", line.dueDate.dump), (.str "amount", line.amount.dump)]

/-- `effect.model_dump(mode="json", exclude=\x7b"validation_lines"\x7d)` -/
def InvoiceEffect.dump (effect : InvoiceEffect) : PyDict :=
  [(.str "id", .int effect.id),
    (.str "name", .str effect.name),
    (.str "move_type", .str effect.moveType),
    (.str "state", .str effect.state),
    (.str "company_id", .int effect.companyId),
    (.str "partner", effect.partner.dump),
    (.str "invoice_date", effect.invoiceDate.dump),
    (.str "due_date", .optional Date.dump effect.dueDate),
    (.str "journal", effect.journal.dump),
    (.str "fiscal_position", .optional RelatedRecord.dump effect.fiscalPosition),
    (.str "currency", effect.currency.dump),
    (.str "payment_term", .optional RelatedRecord.dump effect.paymentTerm),
    (.str "amount_untaxed", effect.amountUntaxed.dump),
    (.str "amount_tax", effect.amountTax.dump),
    (.str "amount_total", effect.amountTotal.dump),
    (.str "amount_residual", effect.amountResidual.dump),
    (.str "payment_state", .optional .str effect.paymentState),
    (.str "taxes", .list (effect.taxes.map (·.dump))),
    (.str "lines", .list (effect.lines.map (·.dump))),
    (.str "payment_schedule", .list (effect.paymentSchedule.map (·.dump)))]

end OdooMcp
