import OdooMcp.Workflows.CandidateLines

/-!
# Read-all loops end

The loops of all accounting workflows, each with the number of page reads that its bound and the ids
it asks for allow.
-/

namespace OdooMcp

open Effect AccountingReader

variable {reader : AccountingReader} {companyId : Int}

theorem checksSeen_sourceLoop {α : Type} (source : PagedRead α) :
    (Reports.sourceLoop source).ChecksSeen := by
  intro seenIds page hchecked item hitem
  have hfresh := (Bool.and_eq_true _ _ ▸ ensure_ok.mp hchecked).2
  simpa [Reports.sourceLoop] using List.all_eq_true.mp hfresh item hitem

theorem checksSeen_analyticAccountsOf (chunk : List Int) :
    (Reports.analyticAccountsOf chunk).ChecksSeen := by
  intro seenIds page hchecked item hitem
  have hfresh := (Bool.and_eq_true _ _ ▸ ensure_ok.mp hchecked).2
  have hboth := List.all_eq_true.mp hfresh item hitem
  rw [Bool.and_eq_true] at hboth
  simpa [Reports.analyticAccountsOf, Reports.sourceLoop, PagedRead.idOf] using hboth.2

theorem sameLoops_accounts : SameLoops Account.id "account.account" 100 100000
    (fun chunk => Reports.sourceLoop (.accounts (Reports.withIds chunk))) where
  idOf_eq _ := rfl
  model_eq _ := rfl
  limit_eq _ := rfl
  bound_eq _ := rfl
  keeps _ _ := rfl
  checks _ := checksSeen_sourceLoop _

theorem sameLoops_analyticAccounts : SameLoops AnalyticAccount.id "account.analytic.account" 100
    100000 Reports.analyticAccountsOf where
  idOf_eq _ := rfl
  model_eq _ := rfl
  limit_eq _ := rfl
  bound_eq _ := rfl
  keeps _ _ := rfl
  checks := checksSeen_analyticAccountsOf

/-- The number of page reads a loop may make: full pages within its bound, and one more. -/
def PageLoop.reads {α : Type} (loop : PageLoop α) : Nat := loop.bound / loop.limit + 1

/-- Every loop but that over the candidate lines ends within its page reads on a transport. -/
structure OthersEnd {World : Type} (reader : AccountingReader) (companyId : Int)
    (transport : (request : OdooRequest) → World →
      Except PyException (odooSignature.Result request) × World) (world : World) : Prop where
  reportLines : ∀ filters, EndsWithinOn transport world AccountMoveLine.id "account.move.line"
    (Reports.moveLines filters).reads ((Reports.moveLines filters).readAll reader companyId)
  reportPartials : ∀ filters, EndsWithinOn transport world PartialReconciliation.id
    "account.partial.reconcile" (Reports.partials filters).reads
    ((Reports.partials filters).readAll reader companyId)
  reportAccounts : ∀ identifiers, EndsWithinOn transport world Account.id "account.account"
    ((pageChunks 100 identifiers).length + 100000 / 100)
    (Reports.accounts reader companyId identifiers)
  reportAnalyticAccounts : ∀ identifiers, EndsWithinOn transport world AnalyticAccount.id
    "account.analytic.account" ((pageChunks 100 identifiers).length + 100000 / 100)
    (Reports.analyticAccounts reader companyId identifiers)
  invoiceMoves : ∀ filters, EndsWithinOn transport world AccountMove.id "account.move"
    (Invoicing.allMoves filters).reads ((Invoicing.allMoves filters).readAll reader companyId)
  invoiceLines : ∀ filters, EndsWithinOn transport world AccountMoveLine.id "account.move.line"
    (Invoicing.allMoveLines filters).reads
    ((Invoicing.allMoveLines filters).readAll reader companyId)
  invoicePartials : ∀ filters, EndsWithinOn transport world PartialReconciliation.id
    "account.partial.reconcile" (Invoicing.allPartials filters).reads
    ((Invoicing.allPartials filters).readAll reader companyId)
  journalMoves : ∀ filters, EndsWithinOn transport world AccountMove.id "account.move"
    (Journals.moves filters).reads ((Journals.moves filters).readAll reader companyId)
  draftJournals : EndsWithinOn transport world Journal.id "account.journal"
    Journals.draftJournals.reads (Journals.draftJournals.readAll reader companyId)
  entryLines : ∀ moveId, EndsWithinOn transport world JournalEntryLine.id "account.move.line"
    (Journals.entryLines moveId).reads fun _fuel =>
      (reader.journalEntryLines companyId moveId [] none).bind fun lines => .ret (some lines)
  cashbookLines : ∀ filters, EndsWithinOn transport world AccountMoveLine.id "account.move.line"
    (Cashbook.lines companyId filters).reads
    ((Cashbook.lines companyId filters).readAll reader companyId)
  cashbookJournals : EndsWithinOn transport world Journal.id "account.journal"
    (Cashbook.journals companyId).reads ((Cashbook.journals companyId).readAll reader companyId)
  statementLines : ∀ period journalId, EndsWithinOn transport world BankStatementLine.id
    "account.bank.statement.line" (ReconcileBank.statementLines companyId period journalId).reads
    ((ReconcileBank.statementLines companyId period journalId).readAll reader companyId)
  reconciliationJournals : EndsWithinOn transport world Journal.id "account.journal"
    (ReconcileBank.journals companyId).reads
    ((ReconcileBank.journals companyId).readAll reader companyId)

theorem endsWithinOn_readAll {α World : Type} (loop : PageLoop α)
    (hkeep : ∀ item, loop.keep item = true)
    (transport : (request : OdooRequest) → World →
      Except PyException (odooSignature.Result request) × World) (world : World) :
    EndsWithinOn transport world loop.source.idOf loop.source.model loop.reads
      (loop.readAll reader companyId) :=
  (PageLoop.endsWithin_readAll hkeep).on transport world

theorem reads_entryLines (moveId : Int) : (Journals.entryLines moveId).reads = 21 := by
  simp [PageLoop.reads, Journals.entryLines]

theorem reads_candidateLines : (ReconcileBank.candidateLines companyId).reads = 1001 := by
  simp [PageLoop.reads, ReconcileBank.candidateLines, checkedLoop]

theorem othersEnd {World : Type}
    (transport : (request : OdooRequest) → World →
      Except PyException (odooSignature.Result request) × World) (world : World) :
    OthersEnd reader companyId transport world where
  reportLines filters := endsWithinOn_readAll (Reports.moveLines filters) (fun _ => rfl) _ _
  reportPartials filters := endsWithinOn_readAll (Reports.partials filters) (fun _ => rfl) _ _
  reportAccounts identifiers := (endsWithin_readChunks sameLoops_accounts _).on transport world
  reportAnalyticAccounts identifiers :=
    (endsWithin_readChunks sameLoops_analyticAccounts _).on transport world
  invoiceMoves filters := endsWithinOn_readAll (Invoicing.allMoves filters) (fun _ => rfl) _ _
  invoiceLines filters := endsWithinOn_readAll (Invoicing.allMoveLines filters) (fun _ => rfl) _ _
  invoicePartials filters :=
    endsWithinOn_readAll (Invoicing.allPartials filters) (fun _ => rfl) _ _
  journalMoves filters := endsWithinOn_readAll (Journals.moves filters) (fun _ => rfl) _ _
  draftJournals := endsWithinOn_readAll Journals.draftJournals (fun _ => rfl) _ _
  entryLines moveId := by
    rw [reads_entryLines]
    exact endsWithin_journalEntryLines.on transport world
  cashbookLines filters :=
    endsWithinOn_readAll (Cashbook.lines companyId filters) (fun _ => rfl) _ _
  cashbookJournals := endsWithinOn_readAll (Cashbook.journals companyId) (fun _ => rfl) _ _
  statementLines period journalId :=
    endsWithinOn_readAll (ReconcileBank.statementLines companyId period journalId)
      (fun _ => rfl) _ _
  reconciliationJournals :=
    endsWithinOn_readAll (ReconcileBank.journals companyId) (fun _ => rfl) _ _

/-- Every loop ends within the page reads its bound allows, with an error or with distinct ids. -/
def AllEnd {World : Type} (reader : AccountingReader) (companyId : Int)
    (transport : (request : OdooRequest) → World →
      Except PyException (odooSignature.Result request) × World) (world : World) : Prop :=
  OthersEnd reader companyId transport world ∧
    EndsWithinOn transport world AccountMoveLine.id "account.move.line"
      (ReconcileBank.candidateLines companyId).reads
      ((ReconcileBank.candidateLines companyId).readAll reader companyId)

/-- **Read-all loops end.** On a sequence of answers they all do exactly when the answers hold no
stream of full pages that outlasts the bound of the candidate lines. -/
theorem read_all_loops_end_iff (reader : AccountingReader) (companyId : Int)
    (answers : Nat → Except PyException (List Payload)) :
    AllEnd reader companyId (ReconcileBank.answering answers) 0 ↔
      ¬ ReconcileBank.Outlasts reader companyId answers 1001 := by
  rw [← ReconcileBank.candidateLines_endsWithinOn, AllEnd, reads_candidateLines]
  exact and_iff_right (othersEnd _ _)

/-- Pages of a hundred reconciled lines keep the loop over the candidate lines reading, far beyond
the page reads that its bound allows. -/
theorem candidate_lines_do_not_end :
    ¬ AllEnd ⟨some [1]⟩ 1 (ReconcileBank.answering ReconcileBank.endlessAnswers) 0 ∧
      ¬ EndsWithinOn (ReconcileBank.answering ReconcileBank.endlessAnswers) 0 AccountMoveLine.id
        "account.move.line" (10 ^ 80 + 1)
        ((ReconcileBank.candidateLines 1).readAll ⟨some [1]⟩ 1) := by
  refine ⟨fun hends => ?_, ReconcileBank.not_endsWithinOn_endless (by norm_num)⟩
  have hcandidates := hends.2
  rw [reads_candidateLines] at hcandidates
  exact ReconcileBank.not_endsWithinOn_endless (by norm_num : 100 * (1000 + 1) < 10 ^ 90)
    hcandidates

end OdooMcp
