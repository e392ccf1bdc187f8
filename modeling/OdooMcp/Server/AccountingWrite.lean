import OdooMcp.Adapters.AccountingEffects
import OdooMcp.Policy.WriteSafety

/-!
# Executing an accounting write

The `execute` callback that the server hands to the write-safety boundary: it connects an adapter,
checks the company, runs the tool's operation and closes the adapter. A denied permission anywhere
in between becomes a known failure.
-/

namespace OdooMcp

open Effect

/-! ### The effect of a journal entry -/

/-- `_analytic_ids` -/
def analyticIds (distribution : List (String × Decimal)) : Except PyException (List Int) := do
  let parsed : Option (List (List Int)) := distribution.mapM fun entry =>
    ((entry.1.toList.splitOn ',').mapM fun part => Decimal.parseInt? (String.ofList part)).filter
      fun identifiers => identifiers.all (0 < ·)
  let identifiers ← orRaise parsed
    (.odooMcpError ⟨.odooApiError, "Odoo returned an invalid analytic distribution.",
      "Check the journal entry analytic data and retry."⟩)
  return sortedSet identifiers.flatten

/-- `_line_item`, as JSON. -/
def lineItem (line : JournalEntryLine) : Except PyException PyValue :=
  return .dict
    [(.str "line_id", .int line.id),
      (.str "account_id", .int line.account.id),
      (.str "account_name", .str line.account.name),
      (.str "partner_id", .optional (fun partner => .int partner.id) line.partner),
      (.str "partner_name", .optional (fun partner => .str partner.name) line.partner),
      (.str "description", .optional .str line.description),
      (.str "debit", line.debit.dump),
      (.str "credit", line.credit.dump),
      (.str "analytic_ids", .list ((← analyticIds line.analyticDistribution).map .int))]

def sumDecimals (values : List Decimal) : Decimal := values.foldl Decimal.add .zero

/-- `_entry_effect` -/
def entryEffect (entry : JournalEntry) : Except PyException PyDict := do
  let lines ← entry.lines.mapM lineItem
  ensure (["draft", "posted"].contains entry.state)
    (valueError "validation error for JournalEntryItem")
  return [(.str "move_id", .int entry.id),
    (.str "name", .str entry.name),
    (.str "date", entry.date.dump),
    (.str "journal_id", .int entry.journal.id),
    (.str "journal_name", .str entry.journal.name),
    (.str "state", .str entry.state),
    (.str "reference", .optional .str entry.reference),
    (.str "currency_id", .int entry.currency.id),
    (.str "currency_name", .str entry.currency.name),
    (.str "total_debit", (sumDecimals (entry.lines.map (·.debit))).dump),
    (.str "total_credit", (sumDecimals (entry.lines.map (·.credit))).dump),
    (.str "lines", .list lines),
    (.str "lines_truncated", .bool false),
    (.str "lines_cursor", .none)]

/-! ### The tools -/

/-- What a preparation left behind for the execution. -/
inductive PreparedState
  | invoiceDraft (draft : InvoiceDraft)
  | invoiceEffect (effect : InvoiceEffect)
  | payment (effect : InvoiceEffect) (registration : Option PaymentRegistration)
  | journalEntryDraft (draft : JournalEntryDraft)
  | journalEntry (entry : JournalEntry)

/-- The write tools, with the request values their execution reads. Customer invoices and supplier
bills are executed alike. -/
inductive AccountingTool
  | createInvoice
  | createCreditNote (originalMoveId : Int) (creditDate : Date) (reason : String)
  | validateInvoice (invoiceId : Int)
  | registerPayment
  | createJournalEntry
  | postJournalEntry (moveId : Int)

def recordRef (id : Int) : PyValue := .str ("account.move:" ++ toString id)

def appliedInvoice (effect : InvoiceEffect) : ExecuteReturn :=
  .applied effect.dump [recordRef effect.id] .none

def appliedEntry (entry : JournalEntry) : Except PyException ExecuteReturn :=
  return .applied (← entryEffect entry) [recordRef entry.id] .none

def invalidState (message : String) : PyException := .exception message

namespace AccountingTool

/-- The `execute_op` of each tool. -/
def executeOperation (companyId : Int) (reader : AccountingReader) :
    AccountingTool → PreparedState → Odoo ExecuteReturn
  | .createInvoice, .invoiceDraft draft => do
      return appliedInvoice (← reader.createDraftInvoice draft)
  | .createInvoice, _ => throw (invalidState "Invalid prepared invoice state")
  | .createCreditNote originalMoveId creditDate reason, .invoiceEffect _ => do
      return appliedInvoice
        (← reader.createCreditNote companyId originalMoveId creditDate (strip reason))
  | .createCreditNote _ _ _, _ => throw (invalidState "Invalid prepared credit-note state")
  | .validateInvoice invoiceId, .invoiceEffect _ => do
      return appliedInvoice (← reader.postInvoice companyId invoiceId)
  | .validateInvoice _, _ => throw (invalidState "Invalid prepared validation state")
  | .registerPayment, .payment _ (some registration) => do
      return appliedInvoice (← reader.registerPayment registration)
  | .registerPayment, .payment _ none => throw (invalidState "Payment route was not resolved")
  | .registerPayment, _ => throw (invalidState "Invalid prepared payment state")
  | .createJournalEntry, .journalEntryDraft draft => do
      let entry ← reader.createJournalEntryDraft draft
      Program.ofExcept (appliedEntry entry)
  | .createJournalEntry, _ => throw (invalidState "Invalid prepared journal-entry state")
  | .postJournalEntry moveId, .journalEntry state => do
      Program.ofExcept (ensure (state.id = moveId)
        (.odooMcpError ⟨.odooStateConflict,
          "The draft journal entry identity changed before posting.",
          "Refresh and retry with a new idempotency key."⟩))
      let entry ← reader.postJournalEntry companyId moveId
      Program.ofExcept (ensure (entry.id = moveId)
        (.odooMcpError ⟨.odooApiError, "Odoo returned an invalid journal entry response.",
          "Verify the journal entry in Odoo before retrying."⟩))
      Program.ofExcept (appliedEntry entry)
  | .postJournalEntry _, _ => throw (invalidState "Invalid prepared journal-post state")

end AccountingTool

structure AccountingExecution where
  allowedCompanyIds : List Int
  companyId : Int
  tool : AccountingTool
  state : Option PreparedState

namespace AccountingExecution

variable (execution : AccountingExecution)

/-- The body of the `try` statement. -/
def body (state : PreparedState) : Odoo ExecuteReturn := do
  let companies ← getCompanies execution.allowedCompanyIds
  Program.ofExcept (ensure ((companies.map (·.id)).contains execution.companyId)
    (companyNotFound "The requested company is unavailable to the technical user."
      "Check company access and retry."))
  execution.tool.executeOperation execution.companyId ⟨some execution.allowedCompanyIds⟩ state

/-- The `except` clause: a denied permission is a known failure. -/
def handle : Except PyException ExecuteReturn → Except PyException ExecuteReturn
  | .error (.odooMcpError error) =>
      if error.code = .odooPermissionDenied then .error (.knownWriteFailure error)
      else .error (.odooMcpError error)
  | outcome => outcome

/-- `accounting_write.execute` -/
def execute : Odoo ExecuteReturn :=
  match execution.state with
  | none => throw (invalidState "Accounting write was not prepared")
  | some state => do
      Program.call (S := odooSignature) .connect
      let outcome ← Program.attempt (execution.body state)
      Program.call (S := odooSignature) .close
      Program.ofExcept (handle outcome)

/-! ### Known failures -/

theorem adapting_appliedEntry (entry : JournalEntry) : Sound (appliedEntry entry) := by
  have hline (line : JournalEntryLine) : Sound (lineItem line) :=
    ((Sound.orRaise (by simp [OwnError])).bind fun _ => Sound.ok _).bind fun _ => Sound.ok _
  refine Sound.bind ?_ fun _ => Sound.ok _
  exact (Sound.mapM entry.lines hline).bind fun _ =>
    (Sound.ensure (by simp [OwnError, valueError])).bind fun _ => Sound.ok _

theorem adapting_executeOperation (companyId : Int) (reader : AccountingReader)
    (tool : AccountingTool) (state : PreparedState) :
    Adapting (tool.executeOperation companyId reader state) := by
  cases tool with
  | createInvoice =>
      cases state with
      | invoiceDraft draft =>
          exact .bind (reader.adapting_createDraftInvoice draft) fun _ => .ret _
      | _ => exact .raise trivial
  | createCreditNote originalMoveId creditDate reason =>
      cases state with
      | invoiceEffect effect =>
          exact .bind (reader.adapting_createCreditNote ..) fun _ => .ret _
      | _ => exact .raise trivial
  | validateInvoice invoiceId =>
      cases state with
      | invoiceEffect effect => exact .bind (reader.adapting_postInvoice _ _) fun _ => .ret _
      | _ => exact .raise trivial
  | registerPayment =>
      cases state with
      | payment effect registration =>
          cases registration with
          | none => exact .raise trivial
          | some registration =>
              exact .bind (reader.adapting_registerPayment registration) fun _ => .ret _
      | _ => exact .raise trivial
  | createJournalEntry =>
      cases state with
      | journalEntryDraft draft =>
          exact .bind (reader.adapting_createJournalEntryDraft draft) fun entry =>
            .ofExcept (adapting_appliedEntry entry)
      | _ => exact .raise trivial
  | postJournalEntry moveId =>
      cases state with
      | journalEntry entry =>
          refine .bind (.ofExcept (Sound.ensure (by simp [OwnError]))) fun _ => ?_
          refine .bind (reader.adapting_postJournalEntry _ _) fun posted => ?_
          refine .bind (.ofExcept (Sound.ensure (by simp [OwnError]))) fun _ => ?_
          exact .ofExcept (adapting_appliedEntry posted)
      | _ => exact .raise trivial

theorem adapting_body (state : PreparedState) : Adapting (execution.body state) := by
  unfold body
  refine .bind (reading_getCompanies _).adapting fun companies => ?_
  refine .bind (.ofExcept (Sound.ensure (ownError_companyNotFound _ _))) fun _ => ?_
  exact adapting_executeOperation _ _ _ _

/-- The error is reported as a known failure. -/
def KnownFailure (result : Except PyException ExecuteReturn) : Prop :=
  ∃ error, result = .error (.knownWriteFailure error)

theorem not_knownFailure_of_fromTransport {error : PyException} (herror : FromTransport error) :
    ¬ KnownFailure (.error error) := by
  rintro ⟨reported, hreported⟩
  cases hreported
  exact herror

theorem knownFailure_handle_of_denied {error : PyException} (hdenied : Denied error) :
    KnownFailure (handle (.error error)) := by
  obtain ⟨reported, rfl, hcode⟩ := hdenied
  exact ⟨reported, by simp [handle, hcode]⟩

theorem not_knownFailure_handle {outcome : Except PyException ExecuteReturn}
    (hdenied : ∀ error, outcome = .error error → ¬ Denied error)
    (hkind : ∀ error, outcome = .error error → FromTransport error ∨ OwnError error) :
    ¬ KnownFailure (handle outcome) := by
  rintro ⟨reported, hreported⟩
  cases outcome with
  | ok value => cases hreported
  | error error =>
      cases error with
      | odooMcpError raised =>
          have hcode : raised.code ≠ .odooPermissionDenied := fun hcode =>
            hdenied _ rfl ⟨raised, rfl, hcode⟩
          rw [handle, if_neg hcode] at hreported
          cases hreported
      | knownWriteFailure raised => rcases hkind _ rfl with himpossible | himpossible <;>
          exact himpossible.elim
      | _ => cases hreported

/-! ### Business mutations -/

/-- The calls that change the books. Creating a transient wizard is none of them. -/
def businessMutations : List (String × String) :=
  [("account.move", "create"), ("account.move", "action_post"),
    ("account.move.reversal", "reverse_moves"),
      ("account.payment.register", "action_create_payments")]

/-- The event is a business mutation that returned. -/
def Applies (event : OdooEvent) : Prop :=
  (∃ model method ids named companyIds,
    event.request = .executeMethod model method ids named companyIds ∧
      (model, method) ∈ businessMutations) ∧
    ∃ value, event.answer = .ok value

def MutationApplied (trace : List OdooEvent) : Prop := ∃ event ∈ trace, Applies event

/-- After a business mutation returned, a later request was denied. -/
def DeniedAfterMutation (trace : List OdooEvent) : Prop :=
  ∃ mutation denial, [mutation, denial].Sublist trace ∧ Applies mutation ∧ Refused denial

/-- A run connects, runs the body, closes, and reports what the handler makes of the outcome. -/
theorem runs_execute {state : PreparedState} (hstate : execution.state = some state)
    {trace : List OdooEvent} {result : Except PyException ExecuteReturn}
    (hruns : Program.Runs execution.execute trace result) :
    (∃ error, trace = [⟨.connect, .error error⟩] ∧ result = .error error) ∨
      ∃ calls outcome closed, trace = ⟨.connect, .ok ()⟩ :: (calls ++ [⟨.close, closed⟩]) ∧
        Program.Runs (execution.body state) calls outcome ∧
        result = (closed >>= fun _ => handle outcome) := by
  simp only [execute, hstate] at hruns
  rcases Program.runs_bind.mp hruns with
    ⟨⟨⟩, first, rest, rfl, hconnect, hrest⟩ | ⟨error, rfl, hconnect⟩
  · obtain rfl := Program.runs_call.mp hconnect
    rcases Program.runs_bind.mp hrest with
      ⟨outcome, calls, last, rfl, hattempt, hlast⟩ | ⟨error, -, hattempt⟩
    · obtain ⟨_, hsame, hbody⟩ := Program.runs_attempt.mp hattempt
      cases hsame
      rcases Program.runs_bind.mp hlast with
        ⟨⟨⟩, closing, final, rfl, hclose, hfinal⟩ | ⟨error, rfl, hclose⟩
      · obtain rfl := Program.runs_call.mp hclose
        obtain ⟨rfl, rfl⟩ := Program.runs_ofExcept.mp hfinal
        exact .inr ⟨calls, outcome, .ok (), rfl, hbody, rfl⟩
      · obtain rfl := Program.runs_call.mp hclose
        exact .inr ⟨calls, outcome, .error error, rfl, hbody, rfl⟩
    · obtain ⟨outcome, himpossible, -⟩ := Program.runs_attempt.mp hattempt
      cases himpossible
  · obtain rfl := Program.runs_call.mp hconnect
    exact .inl ⟨error, rfl, rfl⟩

theorem not_deniedAfterMutation_of_answered {trace : List OdooEvent}
    (hanswered : Program.Answered trace) : ¬ DeniedAfterMutation trace := by
  rintro ⟨mutation, denial, hsublist, -, hrefused⟩
  exact not_refused_of_mem hanswered (hsublist.subset (by simp)) hrefused

/-- Only the middle event was answered with an error, so it is the one that was denied. -/
theorem deniedAfterMutation_append_iff {front back : List OdooEvent} {middle : OdooEvent}
    (hfront : Program.Answered front) (hback : Program.Answered back) :
    DeniedAfterMutation (front ++ middle :: back) ↔ MutationApplied front ∧ Refused middle := by
  constructor
  · rintro ⟨mutation, denial, hsublist, happlies, hrefused⟩
    obtain ⟨left, right, hsplit, hleft, hright⟩ := List.sublist_append_iff.mp hsublist
    match left, hsplit with
    | [], hsplit =>
        obtain rfl : right = [mutation, denial] := hsplit.symm
        exact absurd hrefused (not_refused_of_mem hback (hright.tail.subset (by simp)))
    | [first], hsplit =>
        obtain ⟨rfl, rfl⟩ : mutation = first ∧ right = [denial] := by
          simpa [eq_comm] using hsplit
        rcases List.mem_cons.mp (hright.subset (List.mem_singleton_self denial)) with
          rfl | hlater
        · exact ⟨⟨mutation, hleft.subset (List.mem_singleton_self _), happlies⟩, hrefused⟩
        · exact absurd hrefused (not_refused_of_mem hback hlater)
    | first :: second :: others, hsplit =>
        obtain ⟨rfl, rfl, -⟩ : mutation = first ∧ denial = second ∧ others ++ right = [] := by
          simpa [eq_comm] using hsplit
        exact absurd hrefused (not_refused_of_mem hfront (hleft.subset (by simp)))
  · rintro ⟨⟨mutation, hmutation, happlies⟩, hrefused⟩
    have hpair : [mutation, middle].Sublist (front ++ middle :: back) :=
      (List.singleton_sublist.mpr hmutation).append
        (List.singleton_sublist.mpr List.mem_cons_self)
    exact ⟨mutation, middle, hpair, happlies, hrefused⟩

theorem mutationApplied_closed_iff {front : List OdooEvent} {request : OdooRequest}
    {error : PyException} :
    MutationApplied (front ++ [⟨request, .error error⟩, ⟨.close, .ok ()⟩]) ↔
      MutationApplied front := by
  constructor
  · rintro ⟨event, hevent, ⟨model, method, ids, named, companyIds, hrequest, hmutation⟩, hanswer⟩
    rcases List.mem_append.mp hevent with hmem | hmem
    · exact ⟨event, hmem, ⟨model, method, ids, named, companyIds, hrequest, hmutation⟩, hanswer⟩
    · rcases List.mem_pair.mp hmem with rfl | rfl
      · obtain ⟨value, hvalue⟩ := hanswer
        cases hvalue
      · cases hrequest
  · rintro ⟨event, hevent, happlies⟩
    exact ⟨event, List.mem_append_left _ hevent, happlies⟩

/-- **Known failures of an accounting write.** An execution reports a known failure only if none of
its business mutations had returned, exactly when no later request was denied before the adapter was
closed. -/
theorem knownFailure_only_unapplied_iff {trace : List OdooEvent}
    {result : Except PyException ExecuteReturn}
    (hruns : Program.Runs execution.execute trace result)
    (htransport : TransportErrors trace) :
    (KnownFailure result → ¬ MutationApplied trace) ↔
      ¬ (DeniedAfterMutation trace ∧ ⟨.close, .ok ()⟩ ∈ trace) := by
  cases hstate : execution.state with
  | none =>
      simp only [execute, hstate, Program.throw_eq, Program.runs_raise] at hruns
      obtain ⟨rfl, rfl⟩ := hruns
      simp [MutationApplied]
  | some state =>
      rcases execution.runs_execute hstate hruns with
        ⟨error, rfl, rfl⟩ | ⟨calls, outcome, closed, rfl, hbody, rfl⟩
      · have hkind := htransport _ (List.mem_singleton_self _) error rfl
        simp [not_knownFailure_of_fromTransport hkind]
      have hadapting := execution.adapting_body state
      have hcalls := hadapting.asks_of_runs hbody
      cases closed with
      | error error =>
          have hkind := htransport ⟨.close, .error error⟩ (by simp) error rfl
          have hopen : (⟨.close, .ok ()⟩ : OdooEvent) ∉ calls := fun hmem => hcalls _ hmem
          simp [bind, Except.bind, not_knownFailure_of_fromTransport hkind, hopen]
      | ok closed =>
          obtain ⟨⟩ := closed
          change (KnownFailure (handle outcome) → _) ↔ _
          rcases hadapting.cases_of_runs hbody with
            ⟨hanswered, hown⟩ | ⟨before, request, error, rfl, hanswered, rfl⟩
          · have hall : Program.Answered
                ((⟨.connect, .ok ()⟩ : OdooEvent) :: (calls ++ [⟨.close, .ok ()⟩])) := by
              intro event hevent
              simp only [List.mem_cons, List.mem_append, List.not_mem_nil, or_false] at hevent
              rcases hevent with rfl | hevent | rfl
              · exact ⟨(), rfl⟩
              · exact hanswered event hevent
              · exact ⟨(), rfl⟩
            have hunknown : ¬ KnownFailure (handle outcome) :=
              not_knownFailure_handle (fun error herror => (hown error herror).not_denied)
                fun error herror => .inr (hown error herror)
            simp [hunknown, not_deniedAfterMutation_of_answered hall]
          · have hfront : Program.Answered ((⟨.connect, .ok ()⟩ : OdooEvent) :: before) :=
              List.forall_mem_cons.mpr ⟨⟨(), rfl⟩, hanswered⟩
            have hback : Program.Answered [(⟨.close, .ok ()⟩ : OdooEvent)] :=
              List.forall_mem_singleton.mpr ⟨(), rfl⟩
            have htrace : (⟨.connect, .ok ()⟩ : OdooEvent) ::
                (before ++ [⟨request, .error error⟩] ++ [⟨.close, .ok ()⟩]) =
                (⟨.connect, .ok ()⟩ :: before) ++
                  [⟨request, .error error⟩, ⟨.close, .ok ()⟩] := by simp
            rw [htrace, mutationApplied_closed_iff, deniedAfterMutation_append_iff hfront hback]
            by_cases hdenied : Denied error
            · have hrefused : Refused (⟨request, .error error⟩ : OdooEvent) := ⟨error, rfl, hdenied⟩
              simp [knownFailure_handle_of_denied hdenied, hrefused]
            · have hkind := htransport ⟨request, .error error⟩ (by simp) error rfl
              have hunknown : ¬ KnownFailure (handle (.error error)) :=
                not_knownFailure_handle (by rintro _ ⟨⟩; exact hdenied)
                  (by rintro _ ⟨⟩; exact .inl hkind)
              have hrefused : ¬ Refused (⟨request, .error error⟩ : OdooEvent) := by
                rintro ⟨_, ⟨⟩, himpossible⟩
                exact hdenied himpossible
              simp [hunknown, hrefused]

/-! ### A denied read-back -/

def postingExecution : AccountingExecution where
  allowedCompanyIds := [1]
  companyId := 1
  tool := .validateInvoice 7
  state := some (.invoiceEffect
    { id := 7, name := "INV/7", moveType := "out_invoice", state := "draft", companyId := 1
      partner := .after 2 "Customer", invoiceDate := ⟨738000⟩, dueDate := none
      journal := .after 4 "Sales", fiscalPosition := none
      currency := ⟨1, "EUR", Int.one_pos⟩, paymentTerm := none
      amountUntaxed := .zero, amountTax := .zero, amountTotal := .zero, amountResidual := .zero
      paymentState := none, taxes := [], lines := [], paymentSchedule := [],
      validationLines := [] })

/-- `ODOO_PERMISSION_DENIED`, as the transport raises it. -/
def permissionDenied : OdooMcpError :=
  ⟨.odooPermissionDenied, "Odoo denied the requested operation.",
    "Grant the required least-privilege Odoo access and retry."⟩

/-- Odoo lists company 1, posts the invoice and then denies reading it. -/
def answerDeniedReadBack (request : OdooRequest) (world : Unit) :
    Except PyException (odooSignature.Result request) × Unit :=
  match request with
  | .connect => (.ok (), world)
  | .searchCount _ _ _ => (.ok 0, world)
  | .searchRead "res.company" _ _ _ _ _ _ =>
      (.ok [[("id", .int 1), ("name", .str "Company")]], world)
  | .searchRead _ _ _ _ _ _ _ => (.error (.odooMcpError permissionDenied), world)
  | .executeMethod _ _ _ _ _ => (.ok (.bool true), world)
  | .close => (.ok (), world)

def deniedReadBack : List OdooEvent :=
  postingExecution.execute.traceWith answerDeniedReadBack ()

theorem runs_deniedReadBack :
    Program.Runs postingExecution.execute deniedReadBack
      (.error (.knownWriteFailure permissionDenied)) :=
  postingExecution.execute.runs_traceWith ()

theorem fromTransport_deniedReadBack : TransportErrors deniedReadBack := by
  refine Program.forall_mem_traceWith (fun request world => ?_) _ _
  intro error herror
  unfold answerDeniedReadBack at herror
  dsimp only at herror
  split at herror <;> cases herror
  trivial

theorem mutationApplied_deniedReadBack : MutationApplied deniedReadBack :=
  ⟨_, List.mem_cons_of_mem _ (List.mem_cons_of_mem _ List.mem_cons_self),
    ⟨"account.move", "action_post", _, _, _, rfl, by decide⟩, .bool true, rfl⟩

theorem knownFailure_only_unapplied_iff_deniedReadBack :
    (KnownFailure (.error (.knownWriteFailure permissionDenied)) →
        ¬ MutationApplied deniedReadBack) ↔
      ¬ (DeniedAfterMutation deniedReadBack ∧ ⟨.close, .ok ()⟩ ∈ deniedReadBack) :=
  postingExecution.knownFailure_only_unapplied_iff runs_deniedReadBack
    fromTransport_deniedReadBack

/-- The invoice is posted, and the execution reports that Odoo rejected the posting. -/
theorem knownFailure_of_applied_posting :
    ¬ ∀ (execution : AccountingExecution) (trace : List OdooEvent)
      (result : Except PyException ExecuteReturn), Program.Runs execution.execute trace result →
      TransportErrors trace → KnownFailure result → ¬ MutationApplied trace := by
  intro hclaim
  exact hclaim _ _ _ runs_deniedReadBack fromTransport_deniedReadBack ⟨_, rfl⟩
    mutationApplied_deniedReadBack

end AccountingExecution

end OdooMcp
