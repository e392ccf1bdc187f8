import OdooMcp.Tally
import OdooMcp.Workflows.TrialBalance

/-!
# Aged receivables and payables

The residual of a line as of a day is its residual of today, with the reconciliations after the day
undone. The residuals of a partner are summed by how long they are overdue.
-/

namespace OdooMcp

/-! ### Undoing reconciliations -/

abbrev Residuals (α : Type) := Int → Option α

namespace Residuals

variable {α : Type}

def enter (of : AccountMoveLine → α) (residuals : Residuals α) (line : AccountMoveLine) :
    Residuals α := Function.update residuals line.id (some (of line))

/-- `{line.id: of(line) for line in lines}` -/
def ofLines (of : AccountMoveLine → α) (lines : List AccountMoveLine) : Residuals α :=
  lines.foldl (enter of) fun _ => none

/-- Change what is open of a line, if the line is in the dictionary. -/
def adjust (identifier : Int) (change : α → α) (residuals : Residuals α) : Residuals α :=
  Function.update residuals identifier ((residuals identifier).map change)

/-- Undo a reconciliation on its debit line, then on its credit line. -/
def undo (onDebit onCredit : PartialReconciliation → α → α) (residuals : Residuals α)
    (reconciliation : PartialReconciliation) : Residuals α :=
  adjust reconciliation.creditMoveLine.id (onCredit reconciliation)
    (adjust reconciliation.debitMoveLine.id (onDebit reconciliation) residuals)

def undoAll (onDebit onCredit : PartialReconciliation → α → α)
    (reconciliations : List PartialReconciliation) (residuals : Residuals α) : Residuals α :=
  reconciliations.foldl (undo onDebit onCredit) residuals

end Residuals

namespace Reports

open Arithmetic Effect

/-! ### Buckets -/

inductive AgingBucket
  | notYetDue
  | days1To30
  | days31To60
  | days61To90
  | days90Plus
  deriving DecidableEq, Repr

def AgingBucket.all : List AgingBucket :=
  [.notYetDue, .days1To30, .days31To60, .days61To90, .days90Plus]

abbrev AgingBuckets (N : Type) := AgingBucket → N

/-- `_bucket` -/
def bucketOf (dueDate asOfDate : Date) : AgingBucket :=
  let overdueDays : Int := asOfDate.ordinal - dueDate.ordinal
  if overdueDays ≤ 0 then .notYetDue
  else if overdueDays ≤ 30 then .days1To30
  else if overdueDays ≤ 60 then .days31To60
  else if overdueDays ≤ 90 then .days61To90
  else .days90Plus

variable {N : Type} [Arithmetic N]

/-- `_empty_buckets` -/
def emptyBuckets : AgingBuckets N := fun _ => zero

/-! ### The report -/

structure AgingInput where
  companyId : Int
  asOfDate : Date
  partnerIds : List Int
  limit : Nat
  cursor : Option String

structure AgingAccumulator (N : Type) where
  name : String
  total : N
  buckets : AgingBuckets N
  oldest : Option Date

structure AgingItem (N : Type) where
  partnerId : Int
  partnerName : String
  residualTotal : N
  buckets : AgingBuckets N
  oldestDueDate : Date

structure AgingSummary (N : Type) where
  partnerCount : Nat
  residualTotal : N
  buckets : AgingBuckets N

def unassignedLine : PyException :=
  .odooMcpError ⟨.odooApiError, "Odoo returned an unassigned aging line.",
    "Assign a partner to the receivable or payable line and retry."⟩

def inconsistentPartner : PyException :=
  .odooMcpError ⟨.odooApiError, "Odoo returned inconsistent partner data.",
    "Check Odoo data integrity and retry."⟩

def missingDueDate : PyException := .exception "aging accumulator requires a due date"

def ageingType (payable : Bool) : String :=
  if payable then "liability_payable" else "asset_receivable"

/-- `line.maturity_date or line.date` -/
def dueDateOf (line : AccountMoveLine) : Date := line.maturityDate.getD line.date

/-- The residuals of the lines as of the day, given the reconciliations after it. -/
def agingResiduals (lines : List AccountMoveLine) (later : List PartialReconciliation) :
    Residuals N :=
  Residuals.undoAll (fun reconciliation residual => add residual (ofDecimal reconciliation.amount))
    (fun reconciliation residual => sub residual (ofDecimal reconciliation.amount)) later
    (Residuals.ofLines (fun line => ofDecimal line.residual) lines)

def AgingAccumulator.addLine (asOfDate : Date) (line : AccountMoveLine) (residual : N)
    (accumulator : AgingAccumulator N) : AgingAccumulator N :=
  let dueDate := dueDateOf line
  let bucket := bucketOf dueDate asOfDate
  { accumulator with
    total := add accumulator.total residual
    buckets := Function.update accumulator.buckets bucket
      (add (accumulator.buckets bucket) residual)
    oldest := some (match accumulator.oldest with
      | none => dueDate
      | some oldest => if dueDate.ordinal < oldest.ordinal then dueDate else oldest) }

def addAgingLine (asOfDate : Date) (residuals : Residuals N)
    (grouped : Tally Int (AgingAccumulator N)) (line : AccountMoveLine) :
    Except PyException (Tally Int (AgingAccumulator N)) := do
  let residual ← orRaise (residuals line.id) missingKey
  if same residual zero then
    return grouped
  else
    let partner ← orRaise line.partner unassignedLine
    ensure ((grouped.find? (·.1 = partner.id)).all fun entry => entry.2.name = partner.name)
      inconsistentPartner
    return grouped.change partner.id ⟨partner.name, zero, emptyBuckets, some (dueDateOf line)⟩
      (AgingAccumulator.addLine asOfDate line residual)

def agingItem (entry : Int × AgingAccumulator N) : Except PyException (AgingItem N) := do
  let oldest ← orRaise entry.2.oldest missingDueDate
  return ⟨entry.1, entry.2.name, entry.2.total, entry.2.buckets, oldest⟩

def sortedAgingItems (casefold : String → String) (items : List (AgingItem N)) :
    List (AgingItem N) :=
  items.insertionSort fun first second =>
    codeBefore (casefold first.partnerName, first.partnerId)
      (casefold second.partnerName, second.partnerId)

def agingSummary (items : List (AgingItem N)) : AgingSummary N :=
  ⟨items.length, total (items.map (·.residualTotal)),
    fun bucket => total (items.map (·.buckets bucket))⟩

def agingFilters (request : AgingInput) (payable : Bool) : List FilterClause :=
  [⟨"move_id.state", "=", .text "posted"⟩, ⟨"date", "<=", .date request.asOfDate⟩,
      ⟨"account_id.account_type", "=", .text (ageingType payable)⟩] ++
    if request.partnerIds.isEmpty then []
    else [⟨"partner_id", "in", .tuple (request.partnerIds.map .int)⟩]

/-- `FilterClause(field="max_date", operator=">", value=as_of_date)` -/
def reconciledAfter (asOfDate : Date) : List FilterClause := [⟨"max_date", ">", .date asOfDate⟩]

/-- What the aged balance makes of its lines and of the reconciliations after the day. -/
def agedBalanceOf (casefold : String → String) (asOfDate : Date) (lines : List AccountMoveLine)
    (later : List PartialReconciliation) :
    Except PyException (WholeReport (AgingItem N) (AgingSummary N)) := do
  let residuals : Residuals N := agingResiduals lines later
  let grouped ← lines.foldlM (addAgingLine asOfDate residuals) []
  let found ← grouped.mapM agingItem
  let items := sortedAgingItems casefold found
  return ⟨items, agingSummary items⟩

/-- `get_aged_balance`, with all its items. -/
def agedBalance (casefold : String → String) (request : AgingInput) (payable : Bool) :
    ReportProgram (WholeReport (AgingItem N) (AgingSummary N)) := do
  let lines ← Program.call (S := reportReads) (.moveLines (agingFilters request payable))
  let later ← Program.call (S := reportReads) (.partials (reconciledAfter request.asOfDate))
  Program.ofExcept (agedBalanceOf casefold request.asOfDate lines later)

end Reports

end OdooMcp
