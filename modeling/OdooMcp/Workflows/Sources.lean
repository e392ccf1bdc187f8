import OdooMcp.DecimalArithmetic
import OdooMcp.Workflows.PageLoop

/-!
# The records a workflow reads

Every accounting workflow has its own copy of the loop over the pages of a read.
-/

namespace OdooMcp

open Effect AccountingReader

/-! ### Reports -/

namespace Reports

def sourcePageSize : Nat := 100

def maxSourceRecords : Nat := 100000

def invalidReportResponse : PyException :=
  .odooMcpError ⟨.odooApiError, "Odoo returned invalid accounting report data.",
    "Check Odoo data integrity and record access, then retry."⟩

/-- What `_bounded` raises. -/
def unbounded : PyException :=
  .odooMcpError ⟨.odooApiError, "The accounting report exceeds the safe processing bound.",
    "Narrow the report filters or period and retry."⟩

/-- A page with a successor has items, and none of them was seen before. -/
def checkPage {α : Type} (idOf : α → Int) (seenIds : List Int) (page : RecordPage α) :
    Except PyException Unit :=
  ensure ((page.nextCursor.isNone || !page.items.isEmpty) &&
    page.items.all fun item => !seenIds.contains (idOf item)) invalidReportResponse

def checkNext (seenCursors : List String) (_cursor : Option String) (next : String) :
    Except PyException Unit :=
  ensure (!seenCursors.contains next) invalidReportResponse

def sourceLoop {α : Type} (source : PagedRead α) : PageLoop α where
  source := source
  limit := sourcePageSize
  limit_pos := by decide
  limit_le := by decide
  checkPage := checkPage source.idOf
  keep _ := true
  bound := maxSourceRecords
  tooMany := unbounded
  checkNext := checkNext

/-- `_move_lines` -/
def moveLines (filters : List FilterClause) : PageLoop AccountMoveLine :=
  sourceLoop (.accountMoveLines filters)

/-- `_partials` -/
def partials (filters : List FilterClause) : PageLoop PartialReconciliation :=
  sourceLoop (.partialReconciliations filters)

/-- `FilterClause(field="id", operator="in", value=chunk)` -/
def withIds (chunk : List Int) : List FilterClause :=
  [⟨"id", "in", .tuple (chunk.map .int)⟩]

/-- `_accounts` -/
def accounts (reader : AccountingReader) (companyId : Int) (identifiers : List Int) (fuel : Nat) :
    Odoo (Option (List Account)) := do
  let found ← readChunks (fun chunk => sourceLoop (.accounts (withIds chunk))) reader companyId fuel
    (pageChunks sourcePageSize identifiers) .start
  return found.map (·.items)

/-- The loop of `_validate_analytic_accounts`, whose pages hold asked ids only. -/
def analyticAccountsOf (chunk : List Int) : PageLoop AnalyticAccount :=
  let source := PagedRead.analyticAccounts (withIds chunk)
  { sourceLoop source with
    checkPage := fun seenIds page =>
      ensure ((page.nextCursor.isNone || !page.items.isEmpty) &&
        page.items.all fun item => chunk.contains item.id && !seenIds.contains item.id)
        invalidReportResponse }

/-- The pages of `_validate_analytic_accounts`. -/
def analyticAccounts (reader : AccountingReader) (companyId : Int) (identifiers : List Int)
    (fuel : Nat) : Odoo (Option (List AnalyticAccount)) := do
  let found ← readChunks analyticAccountsOf reader companyId fuel
    (pageChunks sourcePageSize identifiers) .start
  return found.map (·.items)

/-- `_validate_analytic_accounts` -/
def validateAnalyticAccounts (reader : AccountingReader) (companyId : Int)
    (identifiers : List Int) (fuel : Nat) : Odoo (Option Unit) := do
  let found ← analyticAccounts reader companyId identifiers fuel
  match found with
  | none => return none
  | some items => do
      Program.ofExcept (ensure (sortedSet (items.map (·.id)) = sortedSet identifiers)
        (.odooMcpError ⟨.invalidInput, "One or more analytic accounts are unavailable.",
          "Use exact analytic account IDs from the authorized company."⟩))
      return some ()

end Reports

/-! ### Invoices -/

namespace Invoicing

def pageSize : Nat := 100

def maxRecords : Nat := 100000

def tooManyRecords : PyException :=
  .odooMcpError ⟨.odooApiError, "The invoice listing exceeds the safe processing bound.",
    "Narrow the requested date or partner selection."⟩

def invalidPage (message : String) : PyException :=
  .odooMcpError ⟨.odooApiError, message, "Check Odoo compatibility and retry."⟩

def listingLoop {α : Type} (source : PagedRead α)
    (checkNext : List String → Option String → String → Except PyException Unit) : PageLoop α where
  source := source
  limit := pageSize
  limit_pos := by decide
  limit_le := by decide
  checkPage _ _ := .ok ()
  keep _ := true
  bound := maxRecords
  tooMany := tooManyRecords
  checkNext := checkNext

/-- `_all_moves` -/
def allMoves (filters : List FilterClause) : PageLoop AccountMove :=
  listingLoop (.accountMoves filters) fun seenCursors _ next =>
    ensure (!seenCursors.contains next) (invalidPage "Odoo returned an invalid invoice page.")

/-- `_all_move_lines` -/
def allMoveLines (filters : List FilterClause) : PageLoop AccountMoveLine :=
  listingLoop (.accountMoveLines filters) fun _ cursor next =>
    ensure (cursor ≠ some next) (invalidPage "Odoo returned an invalid invoice-line page.")

/-- `_all_partials` -/
def allPartials (filters : List FilterClause) : PageLoop PartialReconciliation :=
  listingLoop (.partialReconciliations filters) fun _ cursor next =>
    ensure (cursor ≠ some next) (invalidPage "Odoo returned an invalid reconciliation page.")

end Invoicing

/-! ### Journals -/

namespace Journals

/-- `_moves`, before the moves are sorted by date. -/
def moves (filters : List FilterClause) : PageLoop AccountMove where
  source := .accountMoves filters
  limit := 500
  limit_pos := PageRequest.one_le_max
  limit_le := PageRequest.max_le_max
  checkPage _ _ := .ok ()
  keep _ := true
  bound := 100000
  tooMany := .odooMcpError ⟨.odooApiError,
    "The journal listing exceeds the safe processing bound.",
    "Narrow the period or filters and retry."⟩
  checkNext _ _ _ := .ok ()

/-- The journals that `prepare_journal_entry_draft` chooses from. -/
def draftJournals : PageLoop Journal where
  source := .journals
  limit := 500
  limit_pos := PageRequest.one_le_max
  limit_le := PageRequest.max_le_max
  checkPage _ _ := .ok ()
  keep _ := true
  bound := 10000
  tooMany := .odooMcpError ⟨.odooApiError,
    "The journal selection exceeds the safe processing bound.",
    "Reduce accessible journals or contact the service operator."⟩
  checkNext _ _ _ := .ok ()

/-- The loop of `get_journal_entry`. -/
def entryLines (moveId : Int) : PageLoop AccountMoveLine where
  source := .accountMoveLines [⟨"move_id", "=", .int moveId⟩]
  limit := 500
  limit_pos := PageRequest.one_le_max
  limit_le := PageRequest.max_le_max
  checkPage _ page := ensure (page.items.all fun line => line.move.id = moveId) invalidResponse
  keep _ := true
  bound := 10000
  tooMany := invalidResponse
  checkNext _ _ _ := .ok ()

end Journals

/-! ### Cash books and reconciliation -/

structure SourceErrors where
  oversized : PyException
  inconsistent : PyException
  tooMany : PyException
  invalidPage : PyException

/-- A page within its size, of new items that each pass the loop's own check. -/
def checkItems {α : Type} (errors : SourceErrors) (limit : Nat) (idOf : α → Int)
    (consistent : α → Bool) (seenIds : List Int) (page : RecordPage α) :
    Except PyException Unit := do
  ensure (page.items.length ≤ limit) errors.oversized
  ensure ((page.items.map idOf).Nodup &&
    page.items.all fun item => consistent item && !seenIds.contains (idOf item)) errors.inconsistent

def checkedLoop {α : Type} (errors : SourceErrors) (source : PagedRead α) (consistent : α → Bool)
    (keep : α → Bool) : PageLoop α where
  source := source
  limit := 100
  limit_pos := by decide
  limit_le := by decide
  checkPage := checkItems errors 100 source.idOf consistent
  keep := keep
  bound := 100000
  tooMany := errors.tooMany
  checkNext seenCursors _ next := ensure (!seenCursors.contains next) errors.invalidPage

namespace Cashbook

def sourceError (message : String) : PyException :=
  .odooMcpError ⟨.odooApiError, message,
    "Check Odoo record access and accounting data, then retry."⟩

def journalErrors : SourceErrors where
  oversized := sourceError "Odoo returned an oversized cashbook journal page."
  inconsistent := sourceError "Odoo returned inconsistent cashbook journal data."
  tooMany := sourceError "The cashbook exceeds the safe processing bound."
  invalidPage := sourceError "Odoo returned an invalid cashbook journal page."

def lineErrors : SourceErrors where
  oversized := sourceError "Odoo returned an oversized cashbook line page."
  inconsistent := sourceError "Odoo returned inconsistent cashbook line data."
  tooMany := sourceError "The cashbook exceeds the safe processing bound."
  invalidPage := sourceError "Odoo returned an invalid cashbook line page."

/-- `_journals` -/
def journals (companyId : Int) : PageLoop Journal :=
  checkedLoop journalErrors .journals (fun item => item.companyId = companyId) fun _ => true

/-- `_lines` -/
def lines (companyId : Int) (filters : List FilterClause) : PageLoop AccountMoveLine :=
  checkedLoop lineErrors (.accountMoveLines filters)
    (fun item => item.companyId = companyId && Decimal.zero.le item.debit &&
      Decimal.zero.le item.credit && item.balance.same (item.debit.sub item.credit))
    fun _ => true

end Cashbook

namespace ReconcileBank

def sourceError (message : String) : PyException :=
  .odooMcpError ⟨.odooApiError, message,
    "Check Odoo compatibility and accounting access, then retry."⟩

def statementErrors : SourceErrors where
  oversized := sourceError "Odoo returned an oversized bank statement page."
  inconsistent := sourceError "Odoo returned inconsistent bank statement data."
  tooMany := sourceError "The reconciliation input exceeds the safe processing bound."
  invalidPage := sourceError "Odoo returned an invalid bank statement page."

def candidateErrors : SourceErrors where
  oversized := sourceError "Odoo returned an oversized reconciliation candidate page."
  inconsistent := sourceError "Odoo returned inconsistent reconciliation candidate data."
  tooMany := sourceError "The reconciliation candidates exceed the safe processing bound."
  invalidPage := sourceError "Odoo returned an invalid reconciliation candidate page."

def journalErrors : SourceErrors where
  oversized := sourceError "Odoo returned an oversized reconciliation journal page."
  inconsistent := sourceError "Odoo returned inconsistent reconciliation journal data."
  tooMany := sourceError "The reconciliation journals exceed the safe processing bound."
  invalidPage := sourceError "Odoo returned an invalid reconciliation journal page."

/-- `_statement_lines` -/
def statementLines (companyId : Int) (period : DatePeriod) (journalId : Option Int) :
    PageLoop BankStatementLine :=
  checkedLoop statementErrors (.bankStatementLines period journalId)
    (fun item => item.companyId = companyId && period.start.ordinal ≤ item.date.ordinal &&
      item.date.ordinal ≤ period.finish.ordinal &&
      journalId.all fun journal => item.journal.id = journal)
    fun _ => true

def candidateFilters : List FilterClause :=
  [⟨"move_id.state", "=", .text "posted"⟩, ⟨"reconciled", "=", .flag false⟩]

/-- `_candidate_lines`: a reconciled line is read, and not kept. -/
def candidateLines (companyId : Int) : PageLoop AccountMoveLine :=
  checkedLoop candidateErrors (.accountMoveLines candidateFilters)
    (fun item => item.companyId = companyId) fun item => !item.reconciled

/-- `_journals` -/
def journals (companyId : Int) : PageLoop Journal :=
  checkedLoop journalErrors .journals (fun item => item.companyId = companyId) fun _ => true

end ReconcileBank

end OdooMcp
