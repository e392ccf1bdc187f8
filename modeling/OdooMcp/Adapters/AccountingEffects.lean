import OdooMcp.Adapters.AccountingReader

/-!
# What the accounting reader asks and raises

The reader handles no error of the transport. A program of it therefore ends with the first error it
is answered with; every other error is its own.
-/

namespace OdooMcp

open Effect

/-- A program of the adapter: it may call methods, and passes every error of the transport on. -/
abbrev Adapting {α : Type} (program : Odoo α) : Prop :=
  program.Straight Calls OwnError

theorem Reading.adapting {α : Type} {program : Odoo α} (hreading : Reading program) :
    Adapting program :=
  hreading.mono fun _ => Reads.calls

theorem adapting_executeMethod (model method : String) (ids : List Int) (named : Payload)
    (companyIds : List Int) : Adapting (executeMethod model method ids named companyIds) :=
  Program.Straight.call (S := odooSignature) trivial

theorem sound_ensureModelReadAllowed (model : String) : Sound (ensureModelReadAllowed model) :=
  Sound.ensure ownError_modelDenied

theorem sound_ensureAccountingActionAllowed (model action : String) :
    Sound (ensureAccountingActionAllowed model action) :=
  Sound.ensure ownError_modelDenied

theorem reading_getCompanies (allowed : List Int) : Reading (getCompanies allowed) := by
  unfold getCompanies
  refine .bind (.ofExcept (Sound.ensure ownError_modelDenied)) fun _ => ?_
  refine .bind (reading_searchRead ..) fun rows => ?_
  refine .bind (.ofExcept (Sound.ensure (ownError_companyNotFound _ _))) fun _ => ?_
  exact .ret _

namespace AccountingReader

variable (reader : AccountingReader)

theorem sound_requireCompany (companyId : Int) : Sound (reader.requireCompany companyId) :=
  Sound.ensure (ownError_companyNotFound _ _)

theorem sound_ensureResponse (condition : Bool) : Sound (ensure condition invalidResponse) :=
  Sound.ensure ownError_invalidResponse

theorem sound_response {α : Type} (value : Option α) : Sound (orRaise value invalidResponse) :=
  Sound.orRaise ownError_invalidResponse

theorem sound_recordPage {α : Type} {convert : Payload → Except PyException α}
    (hconvert : ∀ row, Sound (convert row)) (rows : List Payload) (identifiers : List Int)
    (limit : Nat) (limit_pos : 1 ≤ limit) :
    Sound (recordPage convert rows identifiers limit limit_pos) := by
  have hitems := Sound.mapM ((rows.take limit).map record) hconvert
  unfold recordPage
  dsimp only
  split
  · rename_i error herror
    exact Sound.raise (hitems error herror)
  · exact Sound.ok _

theorem reading_anyRows (rows : List Payload) (companyId : Int) :
    Reading (anyRows rows companyId) :=
  .ret _

theorem reading_readPage {α : Type} (model : String) (companyId : Int) (scope : List PyValue)
    (filters : List FilterClause) (page : PageRequest) (fields : List String)
    {normalize : Payload → Except PyException α} {enforceOutputScope : α → Except PyException α}
    {validateRows : List Payload → Int → Odoo Unit}
    (hnormalize : ∀ row, Sound (normalize row))
    (henforce : ∀ item, Sound (enforceOutputScope item))
    (hvalidate : ∀ rows companyId, Reading (validateRows rows companyId)) :
    Reading (reader.readPage model companyId scope filters page fields normalize
      enforceOutputScope validateRows) := by
  have hcursor : Sound (page.cursor.mapM decodeCursor) := by
    cases page.cursor with
    | none => exact Sound.ok none
    | some cursor => exact (sound_decodeCursor cursor).bind fun _ => Sound.ok _
  unfold readPage
  refine .bind (.ofExcept (reader.sound_requireCompany companyId)) fun _ => ?_
  refine .bind (.ofExcept (sound_ensureModelReadAllowed model)) fun _ => ?_
  refine .bind (.ofExcept hcursor) fun cursorId => ?_
  refine .bind (.ofExcept (sound_filterDomain model filters)) fun filtered => ?_
  refine .bind (reading_searchRead ..) fun rows => ?_
  refine .bind (.ofExcept (sound_ensureResponse _)) fun _ => ?_
  refine .bind (.ofExcept (sound_response _)) fun identifiers => ?_
  refine .bind (.ofExcept (sound_ensureResponse _)) fun _ => ?_
  refine .bind (hvalidate _ _) fun _ => ?_
  exact .ofExcept (sound_recordPage
    (fun row => (hnormalize row).bind fun item => henforce item) _ _ _ _)

theorem sound_enforceScoped {α : Type} (companyOf : α → Int) (companyId : Int) (item : α) :
    Sound (enforceScoped companyOf companyId item) :=
  (sound_ensureResponse _).bind fun _ => Sound.ok _

theorem reading_getAccountMoves (companyId : Int) (filters : List FilterClause)
    (page : PageRequest) : Reading (reader.getAccountMoves companyId filters page) :=
  reader.reading_readPage _ _ _ _ _ _ sound_normalizeAccountMove (sound_enforceScoped _ _)
    reading_anyRows

theorem reading_getAccountMoveLines (companyId : Int) (filters : List FilterClause)
    (page : PageRequest) : Reading (reader.getAccountMoveLines companyId filters page) :=
  reader.reading_readPage _ _ _ _ _ _ sound_normalizeAccountMoveLine (sound_enforceScoped _ _)
    reading_anyRows

theorem reading_getInvoiceEffect (companyId moveId : Int) :
    Reading (reader.getInvoiceEffect companyId moveId) := by
  unfold getInvoiceEffect
  refine .bind (.ofExcept (reader.sound_requireCompany companyId)) fun _ => ?_
  refine .bind (.ofExcept (Sound.ensure (ownError_invalidInput _ _))) fun _ => ?_
  refine .bind (.ofExcept (sound_ensureModelReadAllowed _)) fun _ => ?_
  refine .bind (reading_searchRead ..) fun rows => ?_
  refine .bind (.ofExcept ?_) fun row => ?_
  · split
    · exact Sound.ok _
    · exact Sound.raise (ownError_invalidInput _ _)
  refine .bind (.ofExcept (sound_ensureModelReadAllowed _)) fun _ => ?_
  refine .bind (reading_searchRead ..) fun lineRows => ?_
  refine .bind (.ofExcept (sound_ensureResponse _)) fun _ => ?_
  exact .ofExcept (sound_response _)

/-- By induction on the number of lines that may still be read. -/
theorem reading_journalEntryLines (companyId moveId : Int) (lines : List JournalEntryLine)
    (cursor : Option String) :
    Reading (reader.journalEntryLines companyId moveId lines cursor) := by
  induction hroom : 10001 - lines.length using Nat.strong_induction_on
    generalizing lines cursor with
  | _ room ih =>
      rw [journalEntryLines]
      refine .bind (.ofExcept (sound_build _ _ _ _)) fun request => ?_
      refine .bind (reader.reading_getAccountMoveLines ..) fun page => ?_
      refine .bind (.ofExcept (sound_ensureResponse _)) fun _ => ?_
      split
      · dsimp only
        split
        · exact .raise ownError_invalidResponse
        · exact .ret _
      · rename_i next hnext
        dsimp only
        split
        · exact .raise ownError_invalidResponse
        · rename_i hbound
          have hitems : page.items ≠ [] := page.progress (by rw [hnext]; rfl)
          have hadded : 0 < page.items.length := List.length_pos_iff.mpr hitems
          refine ih _ ?_ _ _ rfl
          simp only [List.length_append, List.length_map] at hbound ⊢
          omega

theorem reading_getJournalEntry (companyId moveId : Int) :
    Reading (reader.getJournalEntry companyId moveId) := by
  unfold getJournalEntry
  refine .bind (.ofExcept (reader.sound_requireCompany companyId)) fun _ => ?_
  refine .bind (.ofExcept (Sound.ensure (ownError_invalidInput _ _))) fun _ => ?_
  refine .bind (.ofExcept (sound_build _ _ _ _)) fun request => ?_
  refine .bind (reader.reading_getAccountMoves ..) fun moves => ?_
  refine .bind (.ofExcept ?_) fun move => ?_
  · split
    · exact Sound.ok _
    · exact Sound.raise (ownError_invalidInput _ _)
  refine .bind (.ofExcept (sound_ensureResponse _)) fun _ => ?_
  refine .bind (reader.reading_journalEntryLines ..) fun lines => ?_
  exact .ret _

/-! ### The writes -/

theorem adapting_createDraftInvoice (draft : InvoiceDraft) :
    Adapting (reader.createDraftInvoice draft) := by
  unfold createDraftInvoice
  refine .bind (.ofExcept (reader.sound_requireCompany _)) fun _ => ?_
  refine .bind (.ofExcept (sound_ensureAccountingActionAllowed _ _)) fun _ => ?_
  refine .bind (adapting_executeMethod ..) fun result => ?_
  refine .bind (.ofExcept (sound_response _)) fun moveId => ?_
  refine .bind (reader.reading_getInvoiceEffect _ _).adapting fun effect => ?_
  refine .bind (.ofExcept (sound_ensureResponse _)) fun _ => ?_
  exact .ret _

theorem adapting_postInvoice (companyId moveId : Int) :
    Adapting (reader.postInvoice companyId moveId) := by
  unfold postInvoice
  refine .bind (.ofExcept (reader.sound_requireCompany _)) fun _ => ?_
  refine .bind (.ofExcept (sound_ensureAccountingActionAllowed _ _)) fun _ => ?_
  refine .bind (adapting_executeMethod ..) fun result => ?_
  refine .bind (reader.reading_getInvoiceEffect _ _).adapting fun effect => ?_
  refine .bind (.ofExcept (sound_ensureResponse _)) fun _ => ?_
  exact .ret _

theorem adapting_createJournalEntryDraft (draft : JournalEntryDraft) :
    Adapting (reader.createJournalEntryDraft draft) := by
  unfold createJournalEntryDraft
  refine .bind (.ofExcept (reader.sound_requireCompany _)) fun _ => ?_
  refine .bind (.ofExcept (sound_ensureAccountingActionAllowed _ _)) fun _ => ?_
  refine .bind (adapting_executeMethod ..) fun result => ?_
  refine .bind (.ofExcept (sound_response _)) fun moveId => ?_
  refine .bind (reader.reading_getJournalEntry _ _).adapting fun effect => ?_
  refine .bind (.ofExcept (sound_ensureResponse _)) fun _ => ?_
  exact .ret _

theorem adapting_postJournalEntry (companyId moveId : Int) :
    Adapting (reader.postJournalEntry companyId moveId) := by
  unfold postJournalEntry
  refine .bind (.ofExcept (reader.sound_requireCompany _)) fun _ => ?_
  refine .bind (.ofExcept (sound_ensureAccountingActionAllowed _ _)) fun _ => ?_
  refine .bind (reader.reading_getJournalEntry _ _).adapting fun current => ?_
  refine .bind (.ofExcept (Sound.ensure (by simp [OwnError]))) fun _ => ?_
  refine .bind (adapting_executeMethod ..) fun result => ?_
  refine .bind (reader.reading_getJournalEntry _ _).adapting fun effect => ?_
  refine .bind (.ofExcept (sound_ensureResponse _)) fun _ => ?_
  exact .ret _

theorem sound_rowIds (rows : List Payload) : Sound (rowIds rows) :=
  (sound_ensureResponse _).bind fun _ => sound_response _

theorem sound_reversalId (action : Option Int) (newIds : List Int) :
    Sound (reversalId action newIds) := by
  unfold reversalId
  split
  · exact (sound_ensureResponse _).bind fun _ => Sound.ok _
  · exact Sound.ok _
  · exact Sound.raise ownError_invalidResponse

theorem adapting_createCreditNote (companyId originalMoveId : Int) (creditDate : Date)
    (reason : String) :
    Adapting (reader.createCreditNote companyId originalMoveId creditDate reason) := by
  unfold createCreditNote
  refine .bind (.ofExcept (reader.sound_requireCompany _)) fun _ => ?_
  refine .bind (.ofExcept (sound_ensureAccountingActionAllowed _ _)) fun _ => ?_
  refine .bind (.ofExcept (sound_ensureAccountingActionAllowed _ _)) fun _ => ?_
  refine .bind (reader.reading_getInvoiceEffect _ _).adapting fun original => ?_
  refine .bind (.ofExcept (Sound.ensure (ownError_invalidInput _ _))) fun _ => ?_
  refine .bind (reading_searchRead ..).adapting fun existingRows => ?_
  refine .bind (.ofExcept (sound_rowIds _)) fun existingIds => ?_
  refine .bind (adapting_executeMethod ..) fun wizard => ?_
  refine .bind (.ofExcept (sound_response _)) fun wizardId => ?_
  refine .bind (.ofExcept (sound_ensureAccountingActionAllowed _ _)) fun _ => ?_
  refine .bind (adapting_executeMethod ..) fun result => ?_
  refine .bind (reading_searchRead ..).adapting fun rows => ?_
  refine .bind (.ofExcept (sound_rowIds _)) fun draftIds => ?_
  refine .bind (.ofExcept (sound_reversalId _ _)) fun moveId => ?_
  exact (reader.reading_getInvoiceEffect _ _).adapting

theorem adapting_paymentWizardRow (request : PaymentPreviewRequest)
    (journalId methodLineId : Option Int) (execution : Bool) :
    Adapting (paymentWizardRow request journalId methodLineId execution) := by
  unfold paymentWizardRow
  refine .bind (.ofExcept (sound_ensureAccountingActionAllowed _ _)) fun _ => ?_
  refine .bind (adapting_executeMethod ..) fun wizard => ?_
  refine .bind (.ofExcept (sound_response _)) fun wizardId => ?_
  refine .bind (.ofExcept (sound_ensureAccountingActionAllowed _ _)) fun _ => ?_
  refine .bind (adapting_executeMethod ..) fun result => ?_
  refine .bind (.ofExcept (sound_response _)) fun row => ?_
  exact .ret _

theorem adapting_registerPayment (registration : PaymentRegistration) :
    Adapting (reader.registerPayment registration) := by
  unfold registerPayment
  refine .bind (.ofExcept (reader.sound_requireCompany _)) fun _ => ?_
  refine .bind (reader.reading_getInvoiceEffect _ _).adapting fun effect => ?_
  refine .bind (.ofExcept (Sound.ensure (ownError_invalidInput _ _))) fun _ => ?_
  refine .bind (adapting_paymentWizardRow ..) fun wizard => ?_
  refine .bind (.ofExcept (sound_response _)) fun _ => ?_
  refine .bind (.ofExcept (sound_ensureAccountingActionAllowed _ _)) fun _ => ?_
  refine .bind (adapting_executeMethod ..) fun result => ?_
  exact (reader.reading_getInvoiceEffect _ _).adapting

end AccountingReader

end OdooMcp
