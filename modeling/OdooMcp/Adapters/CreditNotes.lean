import OdooMcp.Adapters.AccountingEffects
import OdooMcp.Adapters.AccountingPages
import OdooMcp.Effect.Interference

/-!
# Credit notes among other users

Odoo's journal entries while a credit note is created. Each request is answered from the books as
they are at that moment, and between the requests other users create, change, post and delete
entries, though not the drafts that this call's wizard created.
-/

namespace OdooMcp

open Effect

/-! ### The books -/

structure BookEntry where
  id : Int
  companyId : Int
  reversedEntryId : Option Int
  state : String

/-- A record of `account.move.reversal`. -/
structure ReversalWizard where
  id : Int
  companyId : Int
  moveId : Int

/-- The books and the wizards of one call. Identifiers are given out in order and never again;
`reversals` are the entries that the wizards of this call created. -/
structure Books where
  entries : List BookEntry
  nextId : Int
  wizards : List ReversalWizard
  reversals : List Int
  issued : ∀ entry ∈ entries, entry.id < nextId

namespace Books

def meets (entry : BookEntry) : PyValue → Bool
  | .list [.str "id", .str "=", .int id] => entry.id = id
  | .list [.str "company_id", .str "=", .int companyId] => entry.companyId = companyId
  | .list [.str "reversed_entry_id", .str "=", .int moveId] => entry.reversedEntryId = some moveId
  | .list [.str "state", .str "=", .str state] => entry.state = state
  | _ => false

def search (books : Books) (domain : List PyValue) : List Int :=
  (books.entries.filter fun entry => domain.all (meets entry)).map (·.id)

def Listing (identifiers : List Int) (limit offset : Nat) (rows : List Payload) : Prop :=
  ∃ ordered : List Int, ordered.Perm identifiers ∧
    rows.map (·.field "id") = ((ordered.drop offset).take limit).map .int

def add (books : Books) (entry : BookEntry) (hfresh : books.nextId ≤ entry.id) : Books :=
  { books with
    entries := books.entries ++ [entry]
    nextId := entry.id + 1
    issued := by
      intro found hfound
      rcases List.mem_append.mp hfound with hearlier | hlast
      · have hissued := books.issued found hearlier
        omega
      · rw [List.mem_singleton.mp hlast]
        omega }

def write (books : Books) (id : Int) (set : BookEntry → BookEntry)
    (hset : ∀ entry, (set entry).id = entry.id) : Books :=
  { books with
    entries := books.entries.map fun entry => if entry.id = id then set entry else entry
    issued := by
      intro found hfound
      obtain ⟨entry, hentry, rfl⟩ := List.mem_map.mp hfound
      have hissued := books.issued entry hentry
      split
      · rwa [hset]
      · exact hissued }

def unlink (books : Books) (id : Int) : Books :=
  { books with
    entries := books.entries.filter fun entry => entry.id ≠ id
    issued := fun found hfound => books.issued found (List.mem_of_mem_filter hfound) }

end Books

/-! ### What the transport answers -/

/-- What other users do: they create entries, and change, post and delete all but the drafts of this
call. -/
inductive UserStep : Books → Books → Prop
  | create (books : Books) (entry : BookEntry) (hfresh : books.nextId ≤ entry.id) :
      UserStep books (books.add entry hfresh)
  | write (books : Books) (id : Int) (set : BookEntry → BookEntry)
      (hset : ∀ entry, (set entry).id = entry.id) (hothers : id ∉ books.reversals) :
      UserStep books (books.write id set hset)
  | unlink (books : Books) (id : Int) (hothers : id ∉ books.reversals) :
      UserStep books (books.unlink id)

/-- The creation of a wizard for the entry and the company among the values. -/
structure OpensWizard (named : Payload) (before : Books) (answer : PyValue) (after : Books) where
  wizard : ReversalWizard
  values : PyDict
  values_eq : named.field "vals_list" = .dict values
  move : dictGet values (.str "move_ids") =
    some (.list [.list [.int 6, .int 0, .list [.int wizard.moveId]]])
  company : dictGet values (.str "company_id") = some (.int wizard.companyId)
  fresh : ∀ earlier ∈ before.wizards, earlier.id ≠ wizard.id
  answer_eq : answer = .int wizard.id ∨ answer = .list [.int wizard.id]
  after_eq : after = { before with wizards := before.wizards ++ [wizard] }

/-- The reversal by a wizard: one new draft that is linked to the wizard's entry. If the answer has
a `res_id`, that is its number. -/
structure ReversesMoves (wizardId : Int) (before : Books) (answer : PyValue) (after : Books) where
  wizard : ReversalWizard
  entry : BookEntry
  wizard_mem : wizard ∈ before.wizards
  wizard_id : wizard.id = wizardId
  fresh : before.nextId ≤ entry.id
  company : entry.companyId = wizard.companyId
  reversed : entry.reversedEntryId = some wizard.moveId
  draft : entry.state = "draft"
  named : ∀ action identifier, answer = .dict action →
    dictGet action (.str "res_id") = some (.int identifier) → identifier = entry.id
  after_eq : after =
    { before.add entry fresh with reversals := before.reversals ++ [entry.id] }

/-- The answer to a request, and what it does to the books. Nothing is assumed about methods of
other models. -/
def AnswersFrom (before after : Books) :
    (request : OdooRequest) → odooSignature.Result request → Prop
  | .searchRead model domain _ limit offset _ _, rows =>
      after = before ∧
        (model = "account.move" → Books.Listing (before.search domain) limit offset rows)
  | .executeMethod model method ids named _, answer =>
      (model = "account.move.reversal" → method = "create" →
        Nonempty (OpensWizard named before answer after)) ∧
      ∀ wizardId, model = "account.move.reversal" → method = "reverse_moves" → ids = [wizardId] →
        Nonempty (ReversesMoves wizardId before answer after)
  | _, _ => after = before

/-- A transport that answers every request, if it does, as Odoo's books are at that moment. A
request that ends with an error may have changed them in any way. -/
def Faithfully (request : OdooRequest) (before : Books) :
    Except PyException (odooSignature.Result request) → Books → Prop
  | .ok answer, after => AnswersFrom before after request answer
  | .error _, _ => True

/-! ### What others leave alone -/

theorem UserStep.keeps {before after : Books} (hstep : UserStep before after) :
    after.reversals = before.reversals ∧ after.wizards = before.wizards ∧
      before.nextId ≤ after.nextId ∧
      ∀ entry ∈ before.entries, entry.id ∈ before.reversals → entry ∈ after.entries := by
  cases hstep with
  | create entry hfresh =>
      refine ⟨rfl, rfl, ?_, fun found hfound _ => List.mem_append_left _ hfound⟩
      change before.nextId ≤ entry.id + 1
      omega
  | write id set hset hothers =>
      refine ⟨rfl, rfl, le_refl _, fun found hfound hown => ?_⟩
      refine List.mem_map.mpr ⟨found, hfound, if_neg ?_⟩
      rintro rfl
      exact hothers hown
  | unlink id hothers =>
      refine ⟨rfl, rfl, le_refl _, fun found hfound hown => ?_⟩
      refine List.mem_filter.mpr ⟨hfound, ?_⟩
      have hne : found.id ≠ id := by
        rintro rfl
        exact hothers hown
      simpa using hne

theorem stable_reversals (created : List Int) :
    Stable UserStep fun books => books.reversals = created := by
  intro before after hstep hcreated
  rw [hstep.keeps.1, hcreated]

theorem stable_wizards (holds : List ReversalWizard → Prop) :
    Stable UserStep fun books => holds books.wizards := by
  intro before after hstep hholds
  rwa [hstep.keeps.2.1]

theorem stable_issued (identifiers : List Int) :
    Stable UserStep fun books => ∀ id ∈ identifiers, id < books.nextId := by
  intro before after hstep hissued id hid
  have hbefore := hissued id hid
  have hnext := hstep.keeps.2.2.1
  omega

/-- The call has created this entry, and it is still in the books as it was created. -/
def Books.HasReversal (entry : BookEntry) (books : Books) : Prop :=
  books.reversals = [entry.id] ∧ entry ∈ books.entries

theorem stable_hasReversal (entry : BookEntry) : Stable UserStep (Books.HasReversal entry) := by
  rintro before after hstep ⟨hreversals, hentry⟩
  obtain ⟨hsame, -, -, hkept⟩ := hstep.keeps
  refine ⟨hsame.trans hreversals, hkept entry hentry ?_⟩
  rw [hreversals]
  exact List.mem_singleton_self _

/-- The entries of the first listing were there, and the call has not created any. -/
def Books.Listed (existingIds : List Int) (books : Books) : Prop :=
  books.reversals = [] ∧ ∀ id ∈ existingIds, id < books.nextId

/-- The wizards with this number reverse the entry. -/
def ReversesWith (companyId moveId wizardId : Int) (wizards : List ReversalWizard) : Prop :=
  ∀ wizard ∈ wizards, wizard.id = wizardId → wizard.companyId = companyId ∧ wizard.moveId = moveId

/-- The draft that the wizard created is new, and the wizard names no other. -/
structure IsCreditNote (companyId moveId : Int) (existingIds : List Int) (answer : PyValue)
    (entry : BookEntry) : Prop where
  new : entry.id ∉ existingIds
  company : entry.companyId = companyId
  reversed : entry.reversedEntryId = some moveId
  draft : entry.state = "draft"
  named : ∀ named, AccountingReader.actionMoveId answer = some named → named = entry.id

theorem stable_listed (existingIds : List Int) : Stable UserStep (Books.Listed existingIds) :=
  (stable_reversals []).and (stable_issued existingIds)

/-! ### Answers of a faithful transport -/

theorem Books.mem_search {books : Books} {domain : List PyValue} {id : Int} :
    id ∈ books.search domain ↔
      ∃ entry ∈ books.entries, domain.all (meets entry) = true ∧ entry.id = id := by
  simp [search, and_assoc]

theorem Books.Listing.mem {identifiers : List Int} {limit offset : Nat} {rows : List Payload}
    (hlisting : Listing identifiers limit offset rows) {row : Payload} (hrow : row ∈ rows) :
    ∃ id ∈ identifiers, row.field "id" = .int id := by
  obtain ⟨ordered, hperm, hrows⟩ := hlisting
  have hfield : row.field "id" ∈ ((ordered.drop offset).take limit).map PyValue.int := by
    rw [← hrows]
    exact List.mem_map_of_mem hrow
  obtain ⟨id, hid, hsame⟩ := List.mem_map.mp hfield
  exact ⟨id, hperm.subset (List.mem_of_mem_drop (List.mem_of_mem_take hid)), hsame.symm⟩

/-- A page that is not full has every entry of the domain. -/
theorem Books.Listing.complete {identifiers : List Int} {limit : Nat} {rows : List Payload}
    (hlisting : Listing identifiers limit 0 rows) (hshort : rows.length < limit) {id : Int}
    (hid : id ∈ identifiers) : ∃ row ∈ rows, row.field "id" = .int id := by
  obtain ⟨ordered, hperm, hrows⟩ := hlisting
  rw [List.drop_zero] at hrows
  have hlength : rows.length = (ordered.take limit).length := by
    rw [← List.length_map (fun row : Payload => row.field "id"), hrows, List.length_map]
  have hall : ordered.take limit = ordered := by
    refine List.take_of_length_le ?_
    rw [List.length_take] at hlength
    omega
  have hfield : PyValue.int id ∈ rows.map (·.field "id") := by
    rw [hrows, hall]
    exact List.mem_map_of_mem (hperm.symm.subset hid)
  obtain ⟨row, hrow, hsame⟩ := List.mem_map.mp hfield
  exact ⟨row, hrow, hsame⟩

namespace AccountingReader

theorem rowIds_ok {rows : List Payload} {identifiers : List Int}
    (hids : rowIds rows = .ok identifiers) :
    rows.length ≤ 1000 ∧ ∀ id, id ∈ identifiers ↔ ∃ row ∈ rows, row.field "id" = .int id := by
  obtain ⟨_, hlength, hread⟩ := except_bind_ok.mp hids
  have hrows := forall₂_of_mapM (orRaise_ok.mp hread)
  refine ⟨by simpa using ensure_ok.mp hlength, fun id => ⟨fun hid => ?_, ?_⟩⟩
  · obtain ⟨row, hrow, hfield⟩ := exists_of_forall₂_right hrows hid
    exact ⟨row, hrow, (positiveInt_eq_some.mp hfield).1⟩
  · rintro ⟨row, hrow, hfield⟩
    obtain ⟨found, hfound, hsame⟩ := exists_of_forall₂_left hrows hrow
    rw [(positiveInt_eq_some.mp hsame).1] at hfield
    cases hfield
    exact hfound

/-- Whatever else is new, the entry that the wizard created is the one that is chosen. -/
theorem reversalId_ok {action : Option Int} {newIds : List Int} {id created : Int}
    (hid : reversalId action newIds = .ok id) (hcreated : created ∈ newIds)
    (hnamed : ∀ named, action = some named → named = created) : id = created := by
  have hnew : created ∈ newIds.dedup := List.mem_dedup.mpr hcreated
  unfold reversalId at hid
  split at hid
  · obtain ⟨_, -, hsame⟩ := except_bind_ok.mp hid
    cases hsame
    exact hnamed _ rfl
  · rename_i only hnewIds
    cases hid
    rw [hnewIds] at hnew
    exact (List.mem_singleton.mp hnew).symm
  · cases hid

theorem yields_invoiceEffect (companyId : Int) (raw : Payload) (lineRows : List Payload) :
    Yields (fun effect => raw.field "id" = .int effect.id)
      (invoiceEffect companyId raw lineRows) := by
  unfold invoiceEffect
  refine .bind fun lines _ => yields_id fun identifier => ?_
  repeat' refine .bind fun _ _ => ?_
  exact .pure rfl

/-! ### Along the call -/

variable (reader : AccountingReader)

theorem ensures_entries {pre : Books → Prop} (hstable : Stable UserStep pre)
    (domain : List PyValue) (fields : List String) (limit offset : Nat) (order : String)
    (companyIds : List Int) :
    Program.Ensures Faithfully UserStep pre
      (searchRead "account.move" domain fields limit offset order companyIds)
      fun rows books => pre books ∧ Books.Listing (books.search domain) limit offset rows := by
  refine .call hstable ?_
  rintro before rows _ hpre ⟨rfl, hrows⟩
  exact ⟨hpre, hrows rfl⟩

theorem ensures_records {pre : Books → Prop} (hstable : Stable UserStep pre) (model : String)
    (domain : List PyValue) (fields : List String) (limit offset : Nat) (order : String)
    (companyIds : List Int) :
    Program.Ensures Faithfully UserStep pre
      (searchRead model domain fields limit offset order companyIds) fun _ books => pre books := by
  refine .call hstable ?_
  rintro before rows _ hpre ⟨rfl, -⟩
  exact hpre

/-- The effect that is read is that of the entry with this number. -/
theorem ensures_getInvoiceEffect {pre : Books → Prop} (hstable : Stable UserStep pre)
    (companyId moveId : Int) :
    Program.Ensures Faithfully UserStep pre (reader.getInvoiceEffect companyId moveId)
      fun effect books => effect.id = moveId ∧ pre books := by
  have hnumbered {books : Books} {rows : List Payload} {limit : Nat}
      (hlisting : Books.Listing (books.search
        [domainClause "id" "=" (.int moveId), domainClause "company_id" "=" (.int companyId)])
        limit 0 rows) : ∀ row ∈ rows, row.field "id" = .int moveId := by
    intro row hrow
    obtain ⟨id, hid, hfield⟩ := hlisting.mem hrow
    obtain ⟨entry, -, hmeets, rfl⟩ := Books.mem_search.mp hid
    simp only [List.all_cons, Bool.and_eq_true] at hmeets
    have hsame : entry.id = moveId := of_decide_eq_true hmeets.1
    rw [hfield, hsame]
  unfold getInvoiceEffect
  refine .ofExcept_bind fun _ _ => .ofExcept_bind fun _ _ => .ofExcept_bind fun _ _ => ?_
  refine .bind (.mono (ensures_entries hstable _ _ _ _ _ _) (fun _ hpre => hpre)
    fun rows books hlisting => ⟨hnumbered hlisting.2, hlisting.1⟩) fun rows =>
      .assuming fun hrows => ?_
  refine .ofExcept_bind fun row hrow => .ofExcept_bind fun _ _ => ?_
  have hfield : row.field "id" = .int moveId := by
    split at hrow
    · cases hrow
      exact hrows row (List.mem_singleton_self _)
    · cases hrow
  refine .bind (ensures_records hstable _ _ _ _ _ _ _) fun lineRows => .ofExcept_bind fun _ _ => ?_
  refine Program.Ensures.ofExcept.mono (fun _ hpre => hpre) ?_
  rintro effect books ⟨heffect, hpre⟩
  refine ⟨?_, hpre⟩
  have hid := yields_invoiceEffect _ _ _ effect (orRaise_ok.mp heffect)
  rw [field_record_id hfield] at hid
  cases hid
  rfl

/-! ### The credit note -/

theorem createdId_ok {answer : PyValue} {created wizardId : Int}
    (hanswer : answer = .int created ∨ answer = .list [.int created])
    (hcreated : createdId answer = .ok wizardId) : wizardId = created := by
  have hread : Field.positiveInt (.int created) = some wizardId := by
    rcases hanswer with rfl | rfl <;> exact orRaise_ok.mp hcreated
  exact (PyValue.int.inj (positiveInt_eq_some.mp hread).1).symm

theorem actionMoveId_eq_some {answer : PyValue} {named : Int}
    (hnamed : actionMoveId answer = some named) :
    ∃ action, answer = .dict action ∧ dictGet action (.str "res_id") = some (.int named) := by
  cases answer with
  | dict action =>
      obtain ⟨value, hvalue, hpositive⟩ := Option.bind_eq_some_iff.mp hnamed
      rw [(positiveInt_eq_some.mp hpositive).1] at hvalue
      exact ⟨action, rfl, hvalue⟩
  | _ => cases hnamed

/-- The entries that are listed before the reversal all had their numbers then. -/
theorem ensures_existing (domain : List PyValue) (companyIds : List Int) :
    Program.Ensures Faithfully UserStep (fun books => books.reversals = [])
      (searchRead "account.move" domain ["id"] 1001 0 "id asc" companyIds)
      fun rows books => ∀ existingIds, rowIds rows = .ok existingIds →
        books.Listed existingIds := by
  refine .mono (ensures_entries (stable_reversals []) _ _ _ _ _ _) (fun _ hpre => hpre) ?_
  rintro rows books ⟨hcreated, hlisting⟩ existingIds hids
  refine ⟨hcreated, fun id hid => ?_⟩
  obtain ⟨row, hrow, hfield⟩ := ((rowIds_ok hids).2 id).mp hid
  obtain ⟨found, hfound, hsame⟩ := hlisting.mem hrow
  rw [hfield] at hsame
  cases hsame
  obtain ⟨entry, hentry, -, rfl⟩ := Books.mem_search.mp hfound
  exact books.issued entry hentry

theorem ensures_openWizard {companyId moveId : Int} {existingIds : List Int} {values : PyDict}
    {named : Payload} {companyIds : List Int} (hvalues : named.field "vals_list" = .dict values)
    (hmove : dictGet values (.str "move_ids") =
      some (.list [.list [.int 6, .int 0, .list [.int moveId]]]))
    (hcompany : dictGet values (.str "company_id") = some (.int companyId)) :
    Program.Ensures Faithfully UserStep (Books.Listed existingIds)
      (executeMethod "account.move.reversal" "create" [] named companyIds)
      fun answer books => books.Listed existingIds ∧ ∀ wizardId, createdId answer = .ok wizardId →
        ReversesWith companyId moveId wizardId books.wizards := by
  refine .call (stable_listed existingIds) ?_
  rintro before answer after hlisted ⟨hopens, -⟩
  obtain ⟨wizard, found, hfound, hmoves, hcompanies, hfresh, hanswer, rfl⟩ := hopens rfl rfl
  rw [hvalues] at hfound
  cases hfound
  rw [hmove] at hmoves
  rw [hcompany] at hcompanies
  refine ⟨hlisted, fun wizardId hcreated => ?_⟩
  have hid : wizardId = wizard.id := createdId_ok hanswer hcreated
  intro earlier hearlier hsame
  rcases List.mem_append.mp hearlier with hbefore | hlast
  · exact absurd (hsame.trans hid) (hfresh earlier hbefore)
  · rw [List.mem_singleton.mp hlast]
    cases hmoves
    cases hcompanies
    exact ⟨rfl, rfl⟩

theorem ensures_reverseMoves {companyId moveId wizardId : Int} {existingIds : List Int}
    {named : Payload} {companyIds : List Int} :
    Program.Ensures Faithfully UserStep
      (fun books => books.Listed existingIds ∧ ReversesWith companyId moveId wizardId books.wizards)
      (executeMethod "account.move.reversal" "reverse_moves" [wizardId] named companyIds)
      fun answer books => ∃ entry, IsCreditNote companyId moveId existingIds answer entry ∧
        books.HasReversal entry := by
  refine .call ((stable_listed existingIds).and (stable_wizards _)) ?_
  rintro before answer after ⟨hlisted, hwizards⟩ ⟨-, hreverses⟩
  obtain ⟨wizard, entry, hwizard, hid, hfresh, hcompany, hreversed, hdraft, hnamed, rfl⟩ :=
    hreverses wizardId rfl rfl rfl
  obtain ⟨hsameCompany, hsameMove⟩ := hwizards wizard hwizard hid
  have hnew : entry.id ∉ existingIds := by
    intro hexisting
    have hissued := hlisted.2 entry.id hexisting
    omega
  refine ⟨entry, ⟨hnew, hcompany.trans hsameCompany, by rw [hreversed, hsameMove], hdraft,
    fun named hnames => ?_⟩, ?_, List.mem_append_right _ (List.mem_singleton_self _)⟩
  · obtain ⟨action, rfl, hfield⟩ := actionMoveId_eq_some hnames
    exact hnamed action named rfl hfield
  · change before.reversals ++ [entry.id] = [entry.id]
    rw [hlisted.1, List.nil_append]

/-- Among the drafts that are listed afterwards, the one that is chosen is the one the wizard
created. -/
theorem ensures_drafts {companyId moveId : Int} {existingIds : List Int} {answer : PyValue}
    {entry : BookEntry} (hentry : IsCreditNote companyId moveId existingIds answer entry)
    (order : String) (companyIds : List Int) :
    Program.Ensures Faithfully UserStep (Books.HasReversal entry)
      (searchRead "account.move"
        [domainClause "reversed_entry_id" "=" (.int moveId),
          domainClause "company_id" "=" (.int companyId), domainClause "state" "=" (.str "draft")]
        ["id"] 1001 0 order companyIds)
      fun rows books => (∀ draftIds id, rowIds rows = .ok draftIds →
        reversalId (actionMoveId answer)
          (draftIds.filter fun identifier => !existingIds.contains identifier) = .ok id →
        id = entry.id) ∧ books.HasReversal entry := by
  refine .mono (ensures_entries (stable_hasReversal entry) _ _ _ _ _ _) (fun _ hpre => hpre) ?_
  rintro rows books ⟨hreversal, hlisting⟩
  refine ⟨fun draftIds id hids hid => ?_, hreversal⟩
  obtain ⟨hlength, hrows⟩ := rowIds_ok hids
  have hsearch : entry.id ∈ books.search
      [domainClause "reversed_entry_id" "=" (.int moveId),
        domainClause "company_id" "=" (.int companyId),
        domainClause "state" "=" (.str "draft")] := by
    refine Books.mem_search.mpr ⟨entry, hreversal.2, ?_, rfl⟩
    simp [domainClause, Books.meets, hentry.reversed, hentry.company, hentry.draft]
  have hlisted : entry.id ∈ draftIds := (hrows _).mpr (hlisting.complete (by omega) hsearch)
  refine reversalId_ok hid (List.mem_filter.mpr ⟨hlisted, ?_⟩) hentry.named
  simpa using hentry.new

/-- **Attribution.** Whatever other users do between the requests, a credit note that is returned is
the one entry that the wizard of this call created, and still the draft it was created as. -/
theorem createCreditNote_returns_own (companyId originalMoveId : Int) (creditDate : Date)
    (reason : String) {books last : Books} {effect : InvoiceEffect}
    (hbooks : books.reversals = [])
    (hruns : Program.Interfered Faithfully UserStep books
      (reader.createCreditNote companyId originalMoveId creditDate reason) (.ok effect) last) :
    last.reversals = [effect.id] ∧
      ⟨effect.id, companyId, some originalMoveId, "draft"⟩ ∈ last.entries := by
  have hcall : Program.Ensures Faithfully UserStep (fun books => books.reversals = [])
      (reader.createCreditNote companyId originalMoveId creditDate reason)
      fun effect books => books.reversals = [effect.id] ∧
        ⟨effect.id, companyId, some originalMoveId, "draft"⟩ ∈ books.entries := by
    unfold createCreditNote
    refine .ofExcept_bind fun _ _ => .ofExcept_bind fun _ _ => .ofExcept_bind fun _ _ => ?_
    refine .bind (reader.ensures_getInvoiceEffect (stable_reversals []) _ _) fun original =>
      .assuming fun _ => ?_
    refine .ofExcept_bind fun _ _ => .bind (ensures_existing _ _) fun existingRows => ?_
    refine .ofExcept_bind fun existingIds hexisting => ?_
    refine .bind (.mono (ensures_openWizard rfl rfl rfl) (fun _ hlisted => hlisted _ hexisting)
      fun _ _ hpost => hpost) fun wizard => ?_
    refine .ofExcept_bind fun wizardId hwizard => .ofExcept_bind fun _ _ => ?_
    refine .bind (.mono ensures_reverseMoves (fun _ hpre => ⟨hpre.1, hpre.2 _ hwizard⟩)
      fun _ _ hpost => hpost) fun result => .exists_pre fun entry => .assuming fun hentry => ?_
    refine .bind (ensures_drafts hentry _ _) fun rows => .assuming fun hchosen => ?_
    refine .ofExcept_bind fun draftIds hdrafts => .ofExcept_bind fun moveId hmove => ?_
    obtain rfl := hchosen draftIds moveId hdrafts hmove
    refine .mono (reader.ensures_getInvoiceEffect (stable_hasReversal entry) _ _)
      (fun _ hpre => hpre) ?_
    rintro effect last ⟨hsame, hreversal⟩
    have hcreated : entry = ⟨effect.id, companyId, some originalMoveId, "draft"⟩ := by
      rw [hsame, ← hentry.company, ← hentry.reversed, ← hentry.draft]
    rw [← hcreated, hreversal.1, hsame]
    exact ⟨rfl, hreversal.2⟩
  exact hcall books effect last hbooks hruns

end AccountingReader

/-! ### Two users reverse one invoice -/

def reversedBooks : Books where
  entries := [⟨7, 1, none, "posted"⟩, ⟨8, 1, some 7, "draft"⟩]
  nextId := 9
  wizards := []
  reversals := []
  issued := by decide

def entryRow (entry : BookEntry) : Payload :=
  [("id", .int entry.id), ("name", .bool false), ("move_type", .str "out_invoice"),
    ("state", .str entry.state), ("company_id", .list [.int 1, .str "Company"]),
    ("partner_id", .list [.int 3, .str "Customer"]), ("invoice_date", .str "2026-03-01"),
    ("invoice_date_due", .bool false), ("journal_id", .list [.int 5, .str "Sales"]),
    ("fiscal_position_id", .bool false), ("currency_id", .list [.int 1, .str "EUR"]),
    ("invoice_payment_term_id", .bool false), ("amount_untaxed", .int 10),
    ("amount_tax", .int 0), ("amount_total", .int 10), ("amount_residual", .int 10),
    ("payment_state", .bool false)]

def reversalValues? (named : Payload) : Option (Int × Int) :=
  match named.field "vals_list" with
  | .dict values =>
      match dictGet values (.str "move_ids"), dictGet values (.str "company_id") with
      | some (.list [.list [.int 6, .int 0, .list [.int moveId]]]), some (.int companyId) =>
          some (moveId, companyId)
      | _, _ => none
  | _ => none

def Books.reverse (books : Books) (companyId moveId : Int) : Books :=
  books.add ⟨books.nextId, companyId, some moveId, "draft"⟩ (le_refl _)

/-- Odoo reads entries in the order of their numbers. When a wizard reverses an entry, another user
has just reversed it as well. -/
def answerReversal (request : OdooRequest) (books : Books) :
    Except PyException (odooSignature.Result request) × Books :=
  match request with
  | .searchRead model domain _ limit offset _ _ =>
      (.ok ((((books.entries.filter fun entry => domain.all (Books.meets entry)).drop offset).take
        limit).map fun entry => if model = "account.move" then entryRow entry else []), books)
  | .executeMethod "account.move.reversal" "create" _ named _ =>
      match reversalValues? named, books.wizards with
      | some (moveId, companyId), [] =>
          (.ok (.int 100), { books with wizards := [⟨100, companyId, moveId⟩] })
      | _, _ => (.error .cancelledError, books)
  | .executeMethod "account.move.reversal" "reverse_moves" [wizardId] _ _ =>
      match books.wizards with
      | [wizard] =>
          if wizard.id = wizardId then
            (.ok (.dict [(.str "res_id", .int (books.nextId + 1))]),
              { (books.reverse wizard.companyId wizard.moveId).reverse wizard.companyId
                  wizard.moveId with
                reversals := books.reversals ++ [books.nextId + 1] })
          else
            (.error .cancelledError, books)
      | _ => (.error .cancelledError, books)
  | _ => (.error .cancelledError, books)

theorem reversalValues?_eq_some {named : Payload} {moveId companyId : Int}
    (hvalues : reversalValues? named = some (moveId, companyId)) :
    ∃ values, named.field "vals_list" = .dict values ∧
      dictGet values (.str "move_ids") =
        some (.list [.list [.int 6, .int 0, .list [.int moveId]]]) ∧
      dictGet values (.str "company_id") = some (.int companyId) := by
  unfold reversalValues? at hvalues
  split at hvalues
  · rename_i values hnamed
    split at hvalues
    · rename_i hmove hcompany
      cases hvalues
      exact ⟨values, hnamed, hmove, hcompany⟩
    · cases hvalues
  · cases hvalues

theorem answerReversal_faithful (request : OdooRequest) (books : Books) :
    ∃ before, Relation.ReflTransGen UserStep books before ∧
      Faithfully request before (answerReversal request books).1
        (answerReversal request books).2 := by
  unfold answerReversal
  split
  · rename_i model domain _ limit offset _ _
    refine ⟨books, .refl, rfl, fun hmodel => ⟨books.search domain, .refl _, ?_⟩⟩
    simp [hmodel, Books.search, entryRow, Payload.field, dictGet, Function.comp_def, List.map_drop,
      List.map_take]
  · rename_i named _
    split
    · rename_i moveId companyId hvalues hwizards
      obtain ⟨values, hnamed, hmove, hcompany⟩ := reversalValues?_eq_some hvalues
      refine ⟨books, .refl, fun _ _ => ⟨⟨100, companyId, moveId⟩, values, hnamed, hmove, hcompany,
        by simp [hwizards], .inl rfl, by rw [hwizards]; rfl⟩, by simp⟩
    · exact ⟨books, .refl, trivial⟩
  · split
    · rename_i wizard hwizards
      split
      · rename_i hid
        refine ⟨books.reverse wizard.companyId wizard.moveId, .single (.create ..), by simp, ?_⟩
        rintro wizardId - - hids
        cases hids
        exact ⟨wizard, ⟨books.nextId + 1, wizard.companyId, some wizard.moveId, "draft"⟩,
          by simp [Books.reverse, Books.add, hwizards], hid, le_refl _, rfl, rfl, rfl, by
            rintro action identifier hanswer hnamed
            cases hanswer
            simpa [dictGet] using hnamed.symm, rfl⟩
      · exact ⟨books, .refl, trivial⟩
    · exact ⟨books, .refl, trivial⟩
  · exact ⟨books, .refl, trivial⟩

/-- A credit note for invoice 7, while another user creates one as well. -/
def sharedReversal : Except PyException InvoiceEffect × Books :=
  (AccountingReader.createCreditNote ⟨some [1]⟩ 1 7 ⟨738000⟩ "Returned").runWith answerReversal
    reversedBooks

theorem createCreditNote_returns_own_shared :
    ∃ effect last,
      Program.Interfered Faithfully UserStep reversedBooks
        (AccountingReader.createCreditNote ⟨some [1]⟩ 1 7 ⟨738000⟩ "Returned") (.ok effect) last ∧
      last.entries.map (·.id) = [7, 8, 9, 10] ∧ last.reversals = [effect.id] ∧
        ⟨effect.id, 1, some 7, "draft"⟩ ∈ last.entries := by
  have hruns := Program.interfered_runWith answerReversal_faithful
    (AccountingReader.createCreditNote ⟨some [1]⟩ 1 7 ⟨738000⟩ "Returned") reversedBooks
  have hreturned : sharedReversal.1.toBool = true := by decide +kernel
  have hentries : sharedReversal.2.entries.map (·.id) = [7, 8, 9, 10] := by decide +kernel
  cases heffect : sharedReversal.1 with
  | error error =>
      rw [heffect] at hreturned
      cases hreturned
  | ok effect =>
      have hcall : Program.Interfered Faithfully UserStep reversedBooks
          (AccountingReader.createCreditNote ⟨some [1]⟩ 1 7 ⟨738000⟩ "Returned") (.ok effect)
          sharedReversal.2 := by
        rw [← heffect]
        exact hruns
      exact ⟨effect, sharedReversal.2, hcall, hentries,
        AccountingReader.createCreditNote_returns_own ⟨some [1]⟩ 1 7 ⟨738000⟩ "Returned" rfl hcall⟩

end OdooMcp
