import OdooMcp.Arithmetic
import OdooMcp.Effect.Steady
import OdooMcp.Workflows.Sources

/-!
# What the reports read

A report reads the records that pass its filters, all pages of them, and computes from these. What
the filters select is said of a ledger: the posted lines, documents, partial reconciliations and
accounts of one company.
-/

namespace OdooMcp

open Effect

inductive ReportRead
  | moveLines (filters : List FilterClause)
  | partials (filters : List FilterClause)
  | accounts (identifiers : List Int)
  | analyticAccounts (identifiers : List Int)
  | currencyRounding (currencyId : Int)
  | documents (filters : List FilterClause)
  | documentLines (filters : List FilterClause)
  | documentPartials (filters : List FilterClause)

abbrev reportReads : Signature where
  Request := ReportRead
  Result
    | .moveLines _ => List AccountMoveLine
    | .partials _ => List PartialReconciliation
    | .accounts _ => List Account
    | .analyticAccounts _ => Unit
    | .currencyRounding _ => Decimal
    | .documents _ => List AccountMove
    | .documentLines _ => List AccountMoveLine
    | .documentPartials _ => List PartialReconciliation

abbrev ReportProgram (α : Type) := Program reportReads PyException α

namespace ReportRead

/-- `Reports._currency_rounding`: the one currency of the page is the asked one. -/
def performCurrencyRounding (reader : AccountingReader) (companyId currencyId : Int) :
    Odoo Decimal := do
  let page ← reader.getCurrencies companyId [currencyId] ⟨1, none, Nat.one_pos,
    PageRequest.one_le_max, PageRequest.no_cursor⟩
  match page.items with
  | [currency] => do
      Program.ofExcept (ensure (currency.id = currencyId && page.nextCursor.isNone)
        Reports.invalidReportResponse)
      return currency.rounding
  | _ => throw Reports.invalidReportResponse

def perform (reader : AccountingReader) (companyId : Int) (fuel : Nat) :
    (read : ReportRead) → Odoo (Option (reportReads.Result read))
  | .moveLines filters => (Reports.moveLines filters).readAll reader companyId fuel
  | .partials filters => (Reports.partials filters).readAll reader companyId fuel
  | .accounts identifiers => Reports.accounts reader companyId identifiers fuel
  | .analyticAccounts identifiers =>
      Reports.validateAnalyticAccounts reader companyId identifiers fuel
  | .currencyRounding currencyId => some <$> performCurrencyRounding reader companyId currencyId
  | .documents filters => (Invoicing.allMoves filters).readAll reader companyId fuel
  | .documentLines filters => (Invoicing.allMoveLines filters).readAll reader companyId fuel
  | .documentPartials filters => (Invoicing.allPartials filters).readAll reader companyId fuel

end ReportRead

/-! ### Ledgers -/

/-- The books of a company: every line, draft or posted, with the documents, the partial
reconciliations, the accounts and the increment of its currency. -/
structure Ledger where
  lines : List AccountMoveLine
  documents : List AccountMove
  partials : List PartialReconciliation
  accounts : List Account
  rounding : Decimal
  lines_nodup : (lines.map (·.id)).Nodup
  documents_nodup : (documents.map (·.id)).Nodup
  accounts_nodup : (accounts.map (·.id)).Nodup
  rounding_pos : 0 < rounding.value

namespace FilterValue

def containsId (value : FilterValue) (id : Int) : Bool :=
  match value with
  | .tuple items => items.any fun
    | .int item => item = id
    | _ => false
  | _ => false

end FilterValue

def MoveState.text : MoveState → String
  | .draft => "draft"
  | .posted => "posted"

namespace Ledger

variable (ledger : Ledger)

def accountType? (accountId : Int) : Option String :=
  (ledger.accounts.find? (·.id = accountId)).map (·.accountType)

/-- Whether a line passes a clause, as Odoo reads it. -/
def linePasses (line : AccountMoveLine) (clause : FilterClause) : Bool :=
  match clause.field, clause.operator, clause.value with
  | "move_id.state", "=", .text state => line.moveState.text = state
  | "date", "<=", .date date => line.date.ordinal ≤ date.ordinal
  | "date", ">=", .date date => date.ordinal ≤ line.date.ordinal
  | "account_id", "!=", .flag false => true
  | "account_id", "in", ids => ids.containsId line.account.id
  | "account_id.account_type", "=", .text accountType =>
      ledger.accountType? line.account.id = some accountType
  | "partner_id", "in", ids => line.partner.any fun partner => ids.containsId partner.id
  | "move_id", "in", ids => ids.containsId line.move.id
  | _, _, _ => false

def partialPasses (partialRow : PartialReconciliation) (clause : FilterClause) : Bool :=
  match clause.field, clause.operator, clause.value with
  | "max_date", ">", .date date => date.ordinal < partialRow.maxDate.ordinal
  | _, _, _ => false

def documentPasses (document : AccountMove) (clause : FilterClause) : Bool :=
  match clause.field, clause.operator, clause.value with
  | "state", "=", .text state => document.state = state
  | "move_type", "=", .text moveType => document.moveType = moveType
  | "invoice_date", "<=", .date date =>
      document.invoiceDate.any fun invoiceDate => invoiceDate.ordinal ≤ date.ordinal
  | "partner_id", "in", ids => document.partner.any fun partner => ids.containsId partner.id
  | _, _, _ => false

def source : (read : ReportRead) → Except PyException (reportReads.Result read)
  | .moveLines filters | .documentLines filters =>
      .ok (ledger.lines.filter fun line => filters.all (ledger.linePasses line))
  | .partials filters | .documentPartials filters =>
      .ok (ledger.partials.filter fun partialRow => filters.all (partialPasses partialRow))
  | .accounts identifiers =>
      .ok (ledger.accounts.filter fun account => identifiers.contains account.id)
  | .analyticAccounts _ => .ok ()
  | .currencyRounding _ => .ok ledger.rounding
  | .documents filters =>
      .ok (ledger.documents.filter fun document => filters.all (documentPasses document))

def report {α : Type} (program : ReportProgram α) : Except PyException α :=
  program.evaluate ledger.source

variable {ledger}

theorem report_read {α : Type} {read : ReportRead} {answer : reportReads.Result read}
    (hread : ledger.source read = .ok answer) (next : reportReads.Result read → ReportProgram α) :
    ledger.report (Program.call (S := reportReads) read >>= next) =
      ledger.report (next answer) := by
  unfold report
  rw [Program.evaluate_bind, Program.evaluate_call, hread]
  rfl

theorem report_ofExcept_ok {α β : Type} {outcome : Except PyException α}
    {next : α → ReportProgram β} {result : β} :
    ledger.report (Program.ofExcept outcome >>= next) = .ok result ↔
      ∃ value, outcome = .ok value ∧ ledger.report (next value) = .ok result := by
  unfold report
  rw [Program.evaluate_bind_ok, Program.evaluate_ofExcept]

theorem report_ofExcept {α : Type} (outcome : Except PyException α) :
    ledger.report (Program.ofExcept outcome) = outcome := Program.evaluate_ofExcept outcome

end Ledger

theorem containsId_tuple {identifiers : List Int} {identifier : Int} :
    (FilterValue.tuple (identifiers.map .int)).containsId identifier = true ↔
      identifier ∈ identifiers := by
  rw [FilterValue.containsId, List.any_map, List.any_eq_true]
  constructor
  · rintro ⟨item, hitem, hsame⟩
    exact of_decide_eq_true hsame ▸ hitem
  · exact fun hidentifier => ⟨identifier, hidentifier, decide_eq_true rfl⟩

theorem containsId_eq (identifiers : List Int) (identifier : Int) :
    (FilterValue.tuple (identifiers.map .int)).containsId identifier =
      identifiers.contains identifier := by
  rw [Bool.eq_iff_iff, containsId_tuple, List.contains_iff_mem]

theorem text_posted {state : MoveState} : state.text = "posted" ↔ state = .posted := by
  cases state <;> simp [MoveState.text]

/-! ### Exact sums -/

def sumOf (amount : AccountMoveLine → Decimal) (lines : List AccountMoveLine) : ℚ :=
  (lines.map fun line => (amount line).value).sum

section Sums

variable {amount : AccountMoveLine → Decimal}

theorem sumOf_cons (line : AccountMoveLine) (lines : List AccountMoveLine) :
    sumOf amount (line :: lines) = (amount line).value + sumOf amount lines := by
  rw [sumOf, List.map_cons, List.sum_cons]
  rfl

theorem sumOf_filter_cons (selects : AccountMoveLine → Bool) (line : AccountMoveLine)
    (lines : List AccountMoveLine) :
    sumOf amount ((line :: lines).filter selects) =
      (if selects line then (amount line).value else 0) + sumOf amount (lines.filter selects) := by
  rw [List.filter_cons]
  split
  · exact sumOf_cons line _
  · exact (zero_add _).symm

/-- A sum splits along any test. -/
theorem sumOf_split (selects : AccountMoveLine → Bool) (lines : List AccountMoveLine) :
    sumOf amount lines =
      sumOf amount (lines.filter selects) + sumOf amount
        (lines.filter fun line => !selects line) := by
  induction lines with
  | nil => exact (zero_add 0).symm
  | cons line lines ih =>
      rw [sumOf_cons, sumOf_filter_cons, sumOf_filter_cons, ih]
      cases selects line with
      | true => simp only [if_true, Bool.not_true, Bool.false_eq_true, if_false]; ring
      | false => simp only [if_true, Bool.not_false, Bool.false_eq_true, if_false]; ring

end Sums

end OdooMcp
