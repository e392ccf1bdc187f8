import Mathlib.Data.List.ReduceOption
import OdooMcp.Workflows.AsOfResiduals
import OdooMcp.Workflows.OpenDocuments

/-!
# The reports as of a day

Where today's residuals are what the reconciliations leave of the balances, the aged balance and the
open documents of a day show what the reconciliations up to that day left.
-/

namespace OdooMcp

open Arithmetic Effect Residuals

namespace Invoicing

open Reports

/-! ### The residuals of documents -/

def documentTotal (residual : AccountMoveLine → ℚ × ℚ) (lines : List AccountMoveLine)
    (documentId : Int) : ℚ × ℚ :=
  ((lines.filter fun line => line.move.id = documentId).map residual).sum

theorem addDocumentLines_exact {documentIds : List Int} {residuals : Residuals (ℚ × ℚ)}
    {residual : AccountMoveLine → ℚ × ℚ} {lines : List AccountMoveLine}
    (hresiduals : ∀ line ∈ lines, residuals line.id = some (residual line))
    {start totals : Int → ℚ × ℚ}
    (htotals : lines.foldlM (addDocumentLine documentIds residuals) start = .ok totals)
    (documentId : Int) :
    totals documentId = start documentId + documentTotal residual lines documentId := by
  induction lines generalizing start with
  | nil =>
      cases htotals
      exact (add_zero _).symm
  | cons line lines ih =>
      rw [List.forall_mem_cons] at hresiduals
      rw [List.foldlM_cons] at htotals
      obtain ⟨next, hnext, hrest⟩ := except_bind_ok.mp htotals
      obtain ⟨_, -, hnext⟩ := except_bind_ok.mp hnext
      obtain ⟨found, hfound, hnext⟩ := except_bind_ok.mp hnext
      rw [hresiduals.1] at hfound
      cases hfound
      cases hnext
      rw [ih hresiduals.2 hrest]
      unfold documentTotal
      rw [List.filter_cons]
      by_cases hdocument : line.move.id = documentId
      · rw [if_pos (decide_eq_true hdocument), List.map_cons, List.sum_cons, ← add_assoc, hdocument,
          Function.update_self]
        rfl
      · rw [if_neg fun htrue => hdocument (of_decide_eq_true htrue),
          Function.update_of_ne (Ne.symm hdocument)]

def Overdue (asOfDate : Date) (document : AccountMove) : Prop :=
  ∃ due, document.invoiceDateDue = some due ∧ due.ordinal < asOfDate.ordinal

theorem overdueDaysOf_eq_zero {asOfDate : Date} {document : AccountMove} :
    overdueDaysOf asOfDate document.invoiceDateDue = 0 ↔ ¬Overdue asOfDate document := by
  unfold overdueDaysOf Overdue
  cases document.invoiceDateDue with
  | none => simp
  | some due =>
      simp only [Option.some.injEq, exists_eq_left', not_lt]
      omega

def LeftOut (request : OpenDocumentsInput) (residual : ℚ × ℚ) (document : AccountMove) : Prop :=
  (residual.1 = 0 ∧ residual.2 = 0) ∨
    (request.overdueOnly = true ∧ ¬Overdue request.asOfDate document)

structure ShowsDocument (residual : ℚ × ℚ) (document : AccountMove) (item : OpenDocumentItem ℚ) :
    Prop where
  moveId : item.moveId = document.id
  company : item.residualCompany = |residual.1|
  currency : item.residualCurrency = |residual.2|

theorem openDocument_ok {request : OpenDocumentsInput} {bills : Bool} {totals : Int → ℚ × ℚ}
    {document : AccountMove} {found : Option (OpenDocumentItem ℚ)}
    (hfound : openDocument request bills totals document = .ok found) :
    (found = none ∧ LeftOut request (totals document.id) document) ∨
      ¬LeftOut request (totals document.id) document ∧
        ∃ item, found = some item ∧ ShowsDocument (totals document.id) document item := by
  unfold openDocument at hfound
  obtain ⟨_, -, hfound⟩ := except_bind_ok.mp hfound
  obtain ⟨invoiceDate, -, hfound⟩ := except_bind_ok.mp hfound
  obtain ⟨partner, -, hfound⟩ := except_bind_ok.mp hfound
  have hzero : (zero : ℚ) = 0 := total_exact []
  have hboth : (same (Arithmetic.abs (totals document.id).1) zero &&
      same (Arithmetic.abs (totals document.id).2) zero) = true ↔
        (totals document.id).1 = 0 ∧ (totals document.id).2 = 0 := by
    rw [hzero]
    simp [same, Arithmetic.abs]
  have hfilter : (request.overdueOnly &&
      overdueDaysOf request.asOfDate document.invoiceDateDue = 0) = true ↔
        request.overdueOnly = true ∧ ¬Overdue request.asOfDate document := by
    rw [Bool.and_eq_true, decide_eq_true_eq, overdueDaysOf_eq_zero]
  dsimp only at hfound
  split at hfound
  · rename_i hopen
    cases hfound
    exact .inl ⟨rfl, .inl (hboth.mp hopen)⟩
  · rename_i hopen
    split at hfound
    · rename_i hexcluded
      cases hfound
      exact .inl ⟨rfl, .inr (hfilter.mp hexcluded)⟩
    · rename_i hincluded
      cases hfound
      refine .inr ⟨fun hout => ?_, _, rfl, rfl, rfl, rfl⟩
      exact hout.elim (fun hnone => hopen (hboth.mpr hnone)) fun hdue =>
        hincluded (hfilter.mpr hdue)

theorem sublist_shown {shown : AccountMove → Option (OpenDocumentItem ℚ) → Prop}
    (hshown : ∀ document item, shown document (some item) → item.moveId = document.id)
    {documents : List AccountMove} {found : List (Option (OpenDocumentItem ℚ))}
    (hforall : List.Forall₂ shown documents found) :
    (found.reduceOption.map (·.moveId)).Sublist (documents.map (·.id)) := by
  induction hforall with
  | nil => exact List.Sublist.refl _
  | @cons document outcome _ _ hfirst _ ih =>
      cases outcome with
      | none => exact ih.trans (List.sublist_cons_self _ _)
      | some item =>
          rw [List.reduceOption_cons_of_some, List.map_cons, List.map_cons, hshown _ _ hfirst]
          exact ih.cons_cons _

/-- A listing of open documents shows each document that it does not leave out, once. -/
structure Opens (request : OpenDocumentsInput) (residual : Int → ℚ × ℚ)
    (documents : List AccountMove)
    (report : WholeReport (OpenDocumentItem ℚ) (OpenDocumentsSummary ℚ)) : Prop where
  items_nodup : (report.items.map (·.moveId)).Nodup
  listed : ∀ document ∈ documents, document.id ∈ report.items.map (·.moveId) ↔
    ¬LeftOut request (residual document.id) document
  shows : ∀ item ∈ report.items, ∃ document ∈ documents,
    ShowsDocument (residual document.id) document item

theorem openDocumentsOf_opens {request : OpenDocumentsInput} {bills : Bool}
    {documents : List AccountMove} {lines : List AccountMoveLine}
    {later : List PartialReconciliation} {residual : AccountMoveLine → ℚ × ℚ}
    {report : WholeReport (OpenDocumentItem ℚ) (OpenDocumentsSummary ℚ)}
    (hids : (documents.map (·.id)).Nodup)
    (hresiduals : ∀ line ∈ lines, documentResiduals lines later line.id = some (residual line))
    (hreport : openDocumentsOf request bills documents lines later = .ok report) :
    Opens request (documentTotal residual lines) documents report := by
  unfold openDocumentsOf at hreport
  obtain ⟨totals, htotals, hrest⟩ := except_bind_ok.mp hreport
  obtain ⟨found, hfound, hdone⟩ := except_bind_ok.mp hrest
  cases hdone
  have hperm : (sortedOpenDocuments found.reduceOption).Perm found.reduceOption :=
    List.perm_insertionSort _ _
  have hexact (documentId : Int) : totals documentId = documentTotal residual lines documentId := by
    have hzero : (zero : ℚ) = 0 := total_exact []
    rw [addDocumentLines_exact hresiduals htotals documentId, hzero]
    exact zero_add _
  have hforall := (forall₂_of_mapM_ok hfound).imp fun _ _ houtcome => openDocument_ok houtcome
  simp only [hexact] at hforall
  have hitem : ∀ item ∈ sortedOpenDocuments found.reduceOption, ∃ document ∈ documents,
      ¬LeftOut request (documentTotal residual lines document.id) document ∧
        ShowsDocument (documentTotal residual lines document.id) document item := by
    intro item hitem
    have hmem := List.reduceOption_mem_iff.mp (hperm.mem_iff.mp hitem)
    obtain ⟨document, hdocument, ⟨hnone, -⟩ | ⟨hkept, other, hother, hshows⟩⟩ :=
      exists_of_forall₂_right hforall hmem
    · cases hnone
    · cases hother
      exact ⟨document, hdocument, hkept, hshows⟩
  refine ⟨(hperm.map _).nodup_iff.mpr ((sublist_shown ?_ hforall).nodup hids), ?_, ?_⟩
  · rintro document item (⟨hnone, -⟩ | ⟨-, other, hother, hshows⟩)
    · cases hnone
    · cases hother
      exact hshows.moveId
  · intro document hdocument
    rw [List.mem_map]
    constructor
    · rintro ⟨item, hmem, hid⟩
      obtain ⟨other, hother, hkept, hshows⟩ := hitem item hmem
      have hsame : other = document :=
        List.inj_on_of_nodup_map hids hother hdocument (hshows.moveId.symm.trans hid)
      exact hsame ▸ hkept
    · intro hkept
      obtain ⟨outcome, houtcome, ⟨-, hout⟩ | ⟨-, item, rfl, hshows⟩⟩ :=
        exists_of_forall₂_left hforall hdocument
      · exact absurd hout hkept
      · exact ⟨item, hperm.mem_iff.mpr (List.reduceOption_mem_iff.mpr houtcome), hshows.moveId⟩
  · intro item hmem
    obtain ⟨document, hdocument, -, hshows⟩ := hitem item hmem
    exact ⟨document, hdocument, hshows⟩

end Invoicing

/-! ### The books as of a day -/

/-- What some reconciliations leave open of a line, in company currency. -/
def companyOpen (reconciliations : List PartialReconciliation) (line : AccountMoveLine) : ℚ :=
  openOf (·.balance.value) (·.amount.value) (·.amount.value) reconciliations line

/-- What some reconciliations leave open of a line, in document currency. -/
def currencyOpen (reconciliations : List PartialReconciliation) (line : AccountMoveLine) : ℚ :=
  openOf (·.amountCurrency.value) (·.debitAmountCurrency.value) (·.creditAmountCurrency.value)
    reconciliations line

namespace Ledger

open Reports Invoicing

/-- What is open today of the lines of an account type is what all reconciliations leave. -/
def CompanyReconciled (ledger : Ledger) (accountType : String) : Prop :=
  ∀ line ∈ ledger.lines, ledger.accountType? line.account.id = some accountType →
    line.residual.value = companyOpen ledger.partials line

structure Reconciled (ledger : Ledger) (accountType : String) : Prop where
  company : ledger.CompanyReconciled accountType
  currency : ∀ line ∈ ledger.lines, ledger.accountType? line.account.id = some accountType →
    line.residualCurrency.value = currencyOpen ledger.partials line

/-- The reconciliations up to the day. -/
def partialsUpTo (ledger : Ledger) (asOfDate : Date) : List PartialReconciliation :=
  ledger.partials.filter fun reconciliation => reconciliation.maxDate.ordinal ≤ asOfDate.ordinal

def partialsAfter (ledger : Ledger) (asOfDate : Date) : List PartialReconciliation :=
  ledger.partials.filter fun reconciliation => asOfDate.ordinal < reconciliation.maxDate.ordinal

def agingLines (ledger : Ledger) (request : AgingInput) (payable : Bool) : List AccountMoveLine :=
  ledger.lines.filter fun line => line.moveState = .posted &&
    line.date.ordinal ≤ request.asOfDate.ordinal &&
    ledger.accountType? line.account.id = some (ageingType payable) &&
    (request.partnerIds.isEmpty ||
      line.partner.any fun partner => request.partnerIds.contains partner.id)

def openedDocuments (ledger : Ledger) (request : OpenDocumentsInput) (bills : Bool) :
    List AccountMove :=
  ledger.documents.filter fun document => document.state = "posted" &&
    document.moveType = documentType bills &&
    (document.invoiceDate.any fun date => date.ordinal ≤ request.asOfDate.ordinal) &&
    (request.partnerIds.isEmpty ||
      document.partner.any fun partner => request.partnerIds.contains partner.id)

def linesOfDocuments (ledger : Ledger) (documents : List AccountMove) (bills : Bool) :
    List AccountMoveLine :=
  ledger.lines.filter fun line => (documents.map (·.id)).contains line.move.id &&
    ledger.accountType? line.account.id = some (ageingType bills)

variable {ledger : Ledger} {N : Type} [Arithmetic N]

theorem filter_partialsAfter (asOfDate : Date) :
    (ledger.partials.filter fun reconciliation =>
      (reconciledAfter asOfDate).all (partialPasses reconciliation)) =
        ledger.partialsAfter asOfDate := by
  refine List.filter_congr fun reconciliation _ => ?_
  simp [reconciledAfter, partialPasses]

theorem agedBalance_report (casefold : String → String) (request : AgingInput) (payable : Bool) :
    ledger.report (agedBalance (N := N) casefold request payable) =
      agedBalanceOf casefold request.asOfDate (ledger.agingLines request payable)
        (ledger.partialsAfter request.asOfDate) := by
  have hlines : ledger.source (.moveLines (agingFilters request payable)) =
      .ok (ledger.agingLines request payable) := by
    refine congrArg Except.ok (List.filter_congr fun line _ => ?_)
    unfold agingFilters
    rw [Bool.eq_iff_iff]
    cases hids : request.partnerIds.isEmpty with
    | true => simp [linePasses, text_posted, and_assoc]
    | false => simp [linePasses, text_posted, containsId_eq, and_assoc]
  unfold agedBalance
  have hlater : ledger.source (.partials (reconciledAfter request.asOfDate)) =
      .ok (ledger.partialsAfter request.asOfDate) := congrArg Except.ok (filter_partialsAfter _)
  rw [report_read hlines, report_read hlater, report_ofExcept]

theorem listOpenDocuments_report (request : OpenDocumentsInput) (bills : Bool) :
    ledger.report (listOpenDocuments (N := N) request bills) =
      openDocumentsOf request bills (ledger.openedDocuments request bills)
        (ledger.linesOfDocuments (ledger.openedDocuments request bills) bills)
        (ledger.partialsAfter request.asOfDate) := by
  have hdocuments : ledger.source (.documents (documentFilters request bills)) =
      .ok (ledger.openedDocuments request bills) := by
    refine congrArg Except.ok (List.filter_congr fun document _ => ?_)
    unfold documentFilters
    rw [Bool.eq_iff_iff]
    cases hids : request.partnerIds.isEmpty with
    | true => simp [documentPasses, and_assoc]
    | false => simp [documentPasses, containsId_eq, and_assoc]
  have hlines (documents : List AccountMove) {α : Type}
      (next : List AccountMoveLine → ReportProgram α) :
      ledger.report (documentLines documents bills >>= next) =
        ledger.report (next (ledger.linesOfDocuments documents bills)) := by
    unfold documentLines
    split
    · rename_i hempty
      have hnone : ledger.linesOfDocuments documents bills = [] := by
        rw [List.isEmpty_iff.mp hempty]
        exact List.filter_eq_nil_iff.mpr fun _ _ => by simp
      rw [hnone]
      rfl
    · have hread :
          ledger.source (.documentLines (documentLineFilters (documents.map (·.id)) bills)) =
          .ok (ledger.linesOfDocuments documents bills) := by
        refine congrArg Except.ok (List.filter_congr fun line _ => ?_)
        have hmove : ledger.linePasses line
            ⟨"move_id", "in", .tuple ((documents.map (·.id)).map .int)⟩ =
              (documents.map (·.id)).contains line.move.id := containsId_eq _ _
        rw [documentLineFilters, List.all_cons, hmove, List.all_cons, List.all_nil, Bool.and_true]
        rfl
      exact report_read hread next
  unfold listOpenDocuments
  have hlater : ledger.source (.documentPartials (reconciledAfter request.asOfDate)) =
      .ok (ledger.partialsAfter request.asOfDate) := congrArg Except.ok (filter_partialsAfter _)
  rw [report_read hdocuments, hlines, report_read hlater, report_ofExcept]

/-! ### The residuals of the day -/

theorem nodup_filter_lines (selects : AccountMoveLine → Bool) :
    ((ledger.lines.filter selects).map (·.id)).Nodup :=
  (List.filter_sublist.map _).nodup ledger.lines_nodup

theorem partialsUpTo_eq (asOfDate : Date) :
    (ledger.partials.filter fun reconciliation =>
      !decide (asOfDate.ordinal < reconciliation.maxDate.ordinal)) =
        ledger.partialsUpTo asOfDate :=
  List.filter_congr fun reconciliation _ => by rw [Bool.eq_iff_iff]; simp

/-- The aged balance uses what the reconciliations up to the day leave open. -/
theorem agingResiduals_eq {payable : Bool}
    (hreconciled : ledger.CompanyReconciled (ageingType payable)) {request : AgingInput}
    {line : AccountMoveLine} (hline : line ∈ ledger.agingLines request payable) :
    agingResiduals (ledger.agingLines request payable) (ledger.partialsAfter request.asOfDate)
        line.id =
      some (companyOpen (ledger.partialsUpTo request.asOfDate) line) := by
  obtain ⟨hlisted, hselected⟩ := List.mem_filter.mp hline
  simp only [Bool.and_eq_true, decide_eq_true_eq] at hselected
  have hcurrent := hreconciled line hlisted hselected.1.2
  have hundone := undone_eq_openOf
    (fun reconciliation => decide (request.asOfDate.ordinal < reconciliation.maxDate.ordinal))
    (fun line => line.residual.value) (nodup_filter_lines _) hline hcurrent
  rw [partialsUpTo_eq] at hundone
  exact hundone

theorem sideOf_pair {α β : Type} [AddCommGroup α] [AddCommGroup β]
    (side : PartialReconciliation → RelatedRecord) (first : PartialReconciliation → α)
    (second : PartialReconciliation → β) (reconciliations : List PartialReconciliation)
    (identifier : Int) :
    sideOf side (fun reconciliation => (first reconciliation, second reconciliation))
        reconciliations identifier =
      (sideOf side first reconciliations identifier,
        sideOf side second reconciliations identifier) := by
  induction reconciliations with
  | nil => rfl
  | cons reconciliation rest ih =>
      rw [sideOf_cons, sideOf_cons, sideOf_cons, ih]
      split
      · rfl
      · simp

/-- What is open of a document at the end of a day, in company and in document currency. -/
def documentOpen (ledger : Ledger) (asOfDate : Date) (bills : Bool) (documentId : Int) : ℚ × ℚ :=
  let lines := ledger.lines.filter fun line => line.move.id = documentId &&
    ledger.accountType? line.account.id = some (ageingType bills)
  ((lines.map (companyOpen (ledger.partialsUpTo asOfDate))).sum,
    (lines.map (currencyOpen (ledger.partialsUpTo asOfDate))).sum)

/-- The listing uses what the reconciliations up to the day leave open, in both currencies. -/
theorem documentResiduals_eq {bills : Bool} (hreconciled : ledger.Reconciled (ageingType bills))
    (asOfDate : Date) {documents : List AccountMove} {line : AccountMoveLine}
    (hline : line ∈ ledger.linesOfDocuments documents bills) :
    documentResiduals (ledger.linesOfDocuments documents bills) (ledger.partialsAfter asOfDate)
        line.id =
      some (companyOpen (ledger.partialsUpTo asOfDate) line,
        currencyOpen (ledger.partialsUpTo asOfDate) line) := by
  obtain ⟨hlisted, hselected⟩ := List.mem_filter.mp hline
  rw [Bool.and_eq_true, decide_eq_true_eq] at hselected
  have hpair (reconciliations : List PartialReconciliation) :
      openOf (fun line => (line.balance.value, line.amountCurrency.value))
          (fun reconciliation =>
            (reconciliation.amount.value, reconciliation.debitAmountCurrency.value))
          (fun reconciliation =>
            (reconciliation.amount.value, reconciliation.creditAmountCurrency.value))
          reconciliations line =
        (companyOpen reconciliations line, currencyOpen reconciliations line) := by
    unfold openOf
    rw [sideOf_pair, sideOf_pair]
    rfl
  have hcurrent : (line.residual.value, line.residualCurrency.value) = _ :=
    (Prod.ext (hreconciled.company line hlisted hselected.2)
      (hreconciled.currency line hlisted hselected.2)).trans (hpair ledger.partials).symm
  have hundone := undone_eq_openOf
    (fun reconciliation => decide (asOfDate.ordinal < reconciliation.maxDate.ordinal))
    (fun line => (line.residual.value, line.residualCurrency.value)) (nodup_filter_lines _) hline
    hcurrent
  rw [partialsUpTo_eq, hpair] at hundone
  exact hundone

theorem documentTotal_eq {asOfDate : Date} {bills : Bool} {documents : List AccountMove}
    {document : AccountMove} (hdocument : document ∈ documents) :
    documentTotal (fun line => (companyOpen (ledger.partialsUpTo asOfDate) line,
        currencyOpen (ledger.partialsUpTo asOfDate) line))
        (ledger.linesOfDocuments documents bills) document.id =
      ledger.documentOpen asOfDate bills document.id := by
  have hpair (lines : List AccountMoveLine) (first second : AccountMoveLine → ℚ) :
      (lines.map fun line => (first line, second line)).sum =
        ((lines.map first).sum, (lines.map second).sum) := by
    induction lines with
    | nil => rfl
    | cons line lines ih =>
        rw [List.map_cons, List.sum_cons, ih]
        rfl
  unfold documentTotal documentOpen linesOfDocuments
  rw [hpair, List.filter_filter]
  have hlines : (ledger.lines.filter fun line => line.move.id = document.id &&
      ((documents.map (·.id)).contains line.move.id &&
        ledger.accountType? line.account.id = some (ageingType bills))) =
        ledger.lines.filter fun line => line.move.id = document.id &&
          ledger.accountType? line.account.id = some (ageingType bills) := by
    refine List.filter_congr fun line _ => ?_
    by_cases hmove : line.move.id = document.id
    · have hcontains : (documents.map (·.id)).contains document.id = true :=
        List.contains_iff_mem.mpr (List.mem_map_of_mem hdocument)
      rw [hmove, hcontains, Bool.true_and]
    · rw [decide_eq_false hmove, Bool.false_and, Bool.false_and]
  rw [hlines]

/-- **The reports show what was open at the end of the day.** Where today's residuals of the
receivable (payable) lines are what all reconciliations leave of the balances, the aged balance uses
what those up to the day leave, and distributes it over buckets and partners; the open documents
show it, summed over the lines of each document, in both currencies. -/
theorem residuals_as_of_day {payable : Bool}
    (hreconciled : ledger.Reconciled (ageingType payable)) :
    (∀ request : AgingInput,
      (∀ line ∈ ledger.agingLines request payable,
        agingResiduals (ledger.agingLines request payable)
            (ledger.partialsAfter request.asOfDate) line.id =
          some (companyOpen (ledger.partialsUpTo request.asOfDate) line)) ∧
      (∀ dueDate : Date, ∃! bucket : AgingBucket,
        bucket.Holds (request.asOfDate.ordinal - dueDate.ordinal)) ∧
      ∀ casefold report, ledger.report (agedBalance casefold request payable) = .ok report →
        Ages (companyOpen (ledger.partialsUpTo request.asOfDate)) request.asOfDate
          (ledger.agingLines request payable) report) ∧
    ∀ (request : OpenDocumentsInput) report,
      ledger.report (listOpenDocuments request payable) = .ok report →
        Opens request (ledger.documentOpen request.asOfDate payable)
          (ledger.openedDocuments request payable) report := by
  refine ⟨fun request => ⟨fun line hline => agingResiduals_eq hreconciled.company hline,
    fun dueDate => existsUnique_bucket dueDate request.asOfDate, fun casefold report hreport => ?_⟩,
    fun request report hreport => ?_⟩
  · rw [agedBalance_report] at hreport
    exact agedBalanceOf_ages (fun line hline => agingResiduals_eq hreconciled.company hline) hreport
  · rw [listOpenDocuments_report] at hreport
    have hids : ((ledger.openedDocuments request payable).map (·.id)).Nodup :=
      (List.filter_sublist.map _).nodup ledger.documents_nodup
    have hopens := openDocumentsOf_opens hids
      (fun line hline => documentResiduals_eq hreconciled request.asOfDate hline) hreport
    refine ⟨hopens.items_nodup, fun document hdocument => ?_, fun item hitem => ?_⟩
    · rw [← documentTotal_eq hdocument]
      exact hopens.listed document hdocument
    · obtain ⟨document, hdocument, hshows⟩ := hopens.shows item hitem
      rw [documentTotal_eq hdocument] at hshows
      exact ⟨document, hdocument, hshows⟩

/-! ### An invoice that is paid later -/

def paidInvoice : AccountMove where
  id := 71
  name := "INV/1"
  moveType := "out_invoice"
  state := "posted"
  date := ⟨739000⟩
  invoiceDate := some ⟨739000⟩
  invoiceDateDue := some ⟨739010⟩
  partner := some (.after 40 "Partner")
  journal := .after 8 "Sales"
  companyId := 1
  currency := .after 2 "EUR"
  amountTotal := ⟨false, 10, 0⟩
  amountResidual := Decimal.zero
  amountResidualCompany := none
  paymentState := none
  reference := none

/-- A receivable of some balance with what is left of it, and a payment of the month after. -/
def paidLedger (balance left payment : Decimal) : Ledger where
  lines := [{ bookedLine 1 30 739000 balance Decimal.zero balance with residual := left },
    { bookedLine 2 30 739040 Decimal.zero payment payment.neg with
      move := .after 71 "PAY/1"
      residual := Decimal.zero }]
  documents := [paidInvoice]
  partials := [⟨1, .after 0 "INV/1", .after 1 "PAY/1", payment, Decimal.zero,
    Decimal.zero, ⟨739040⟩⟩]
  accounts := [bookedAccount 30 "121000" "asset_receivable"]
  rounding := ⟨false, 1, -2⟩
  lines_nodup := by simp [bookedLine]
  documents_nodup := by simp
  accounts_nodup := by simp
  rounding_pos := Decimal.cent_pos

def paidRequest : AgingInput := ⟨1, ⟨739020⟩, [], 100, none⟩

def paidListing : OpenDocumentsInput := ⟨1, ⟨739020⟩, [], true, 100, none⟩

theorem paidLedger_reconciled {balance left payment : Decimal}
    (hleft : left.value = balance.value - payment.value)
    (hpayment : payment.neg.value = -payment.value) :
    (paidLedger balance left payment).Reconciled (ageingType false) := by
  have hzero : Decimal.zero.value = 0 := total_exact []
  constructor
  · intro line hline _
    simp only [paidLedger, List.mem_cons, List.not_mem_nil, or_false] at hline
    rcases hline with rfl | rfl
    · simp [companyOpen, openOf, sideOf, paidLedger, bookedLine, RelatedRecord.after, hleft]
    · simp [companyOpen, openOf, sideOf, paidLedger, bookedLine, RelatedRecord.after,
        hpayment, hzero]
  · intro line hline _
    simp only [paidLedger, List.mem_cons, List.not_mem_nil, or_false] at hline
    rcases hline with rfl | rfl
    · simp [currencyOpen, openOf, sideOf, paidLedger, bookedLine, RelatedRecord.after, hzero]
    · simp [currencyOpen, openOf, sideOf, paidLedger, bookedLine, RelatedRecord.after, hzero]

/-- Before a payment of four is booked, an invoice of ten is open with ten. -/
theorem residuals_as_of_day_paid :
    let ledger := paidLedger ⟨false, 10, 0⟩ ⟨false, 6, 0⟩ ⟨false, 4, 0⟩
    ∃ aged opened, ledger.report (agedBalance id paidRequest false) = .ok aged ∧
      ledger.report (listOpenDocuments paidListing false) = .ok opened ∧
      aged.items.map (·.residualTotal) = [10] ∧
      Ages (companyOpen (ledger.partialsUpTo ⟨739020⟩)) ⟨739020⟩
        (ledger.agingLines paidRequest false) aged ∧
      Opens paidListing (ledger.documentOpen ⟨739020⟩ false)
        (ledger.openedDocuments paidListing false) opened := by
  intro ledger
  have hreconciled : ledger.Reconciled (ageingType false) :=
    paidLedger_reconciled (by decide +kernel) (by decide +kernel)
  have hopened : (ledger.report (listOpenDocuments (N := ℚ) paidListing false)).isOk = true := by
    decide +kernel
  have haged : (ledger.report (agedBalance (N := ℚ) id paidRequest false)).toOption.map
      (fun aged => aged.items.map (·.residualTotal)) = some [10] := by decide +kernel
  obtain ⟨opened, hopened⟩ := ok_of_isOk hopened
  cases haccepted : ledger.report (agedBalance (N := ℚ) id paidRequest false) with
  | error error =>
      rw [haccepted] at haged
      cases haged
  | ok aged =>
      rw [haccepted] at haged
      obtain ⟨haging, hlisting⟩ := residuals_as_of_day hreconciled
      exact ⟨aged, opened, rfl, hopened, Option.some.inj haged,
        (haging paidRequest).2.2 id aged haccepted, hlisting paidListing opened hopened⟩

/-- An amount of twenty-nine digits is rounded when it is summed: undoing a payment of two does not
give back the balance. -/
theorem residuals_as_of_day_rounded :
    ¬∀ (ledger : Ledger) (payable : Bool) (request : AgingInput),
      ledger.Reconciled (ageingType payable) → ∀ line ∈ ledger.agingLines request payable,
        ∃ residual : Decimal,
          agingResiduals (ledger.agingLines request payable)
              (ledger.partialsAfter request.asOfDate) line.id = some residual ∧
            residual.value = companyOpen (ledger.partialsUpTo request.asOfDate) line := by
  intro hrestores
  let balance : Decimal := ⟨false, 10 ^ 28 + 1, 0⟩
  let left : Decimal := ⟨false, 10 ^ 28 - 1, 0⟩
  let payment : Decimal := ⟨false, 2, 0⟩
  let line := { bookedLine 1 30 739000 balance Decimal.zero balance with residual := left }
  have hline : line ∈ (paidLedger balance left payment).agingLines paidRequest false := by
    refine List.mem_filter.mpr ⟨List.mem_cons_self, by decide +kernel⟩
  obtain ⟨residual, hfound, hvalue⟩ := hrestores (paidLedger balance left payment) false paidRequest
    (paidLedger_reconciled (by decide +kernel) (by decide +kernel)) line hline
  have hrounded : (agingResiduals (N := Decimal)
      ((paidLedger balance left payment).agingLines paidRequest false)
      ((paidLedger balance left payment).partialsAfter paidRequest.asOfDate) line.id).map
        (·.value) = some (10 ^ 28) := by decide +kernel
  have hexact : companyOpen ((paidLedger balance left payment).partialsUpTo paidRequest.asOfDate)
      line = 10 ^ 28 + 1 := by decide +kernel
  rw [hfound, Option.map_some, hvalue, hexact] at hrounded
  norm_num at hrounded

end Ledger

end OdooMcp
