import Mathlib.Data.List.Dedup
import OdooMcp.Adapters.AccountingReads
import OdooMcp.Cursor
import OdooMcp.Effect.Loop

/-!
# What a page of records is

Whatever Odoo answers, a page that the reader returns holds the first rows of the answer, in the
order of their ids, all of them after the cursor it was asked from; and it names a next cursor only
if it is full, which is then the cursor of its last row.
-/

namespace OdooMcp

open Effect

/-! ### Cursors -/

/-- `_decode_cursor(_encode_cursor(identifier))`, for a cursor that a page request accepts. -/
theorem decodeCursor_encodeCursor {identifier : Int} (hidentifier : 0 < identifier)
    (hlength : (encodeCursor identifier).length ≤ 128) :
    decodeCursor (encodeCursor identifier) = .ok identifier := by
  obtain ⟨number, rfl⟩ : ∃ number : Nat, identifier = number :=
    ⟨identifier.toNat, (Int.toNat_of_nonneg (by omega)).symm⟩
  have hcharacters : ("v1:" ++ toString (number : Int)).toList =
      ['v', '1'] ++ ':' :: number.repr.toList := by
    rw [String.toList_append]
    rfl
  have hascii : ∀ character ∈ ['v', '1'] ++ ':' :: number.repr.toList,
      character.toNat < 0x80 := by
    intro character hcharacter
    simp only [List.cons_append, List.nil_append, List.mem_cons] at hcharacter
    rcases hcharacter with rfl | rfl | rfl | hdigit
    · decide
    · decide
    · decide
    · exact (ascii_of_isDigit (Decimal.isDigit_of_mem hdigit)).1
  have hdigits : number.repr.toList.length ≤ 4300 := by
    have hcoded : (encodeCursor number).length =
        (Base64.encode ((['v', '1'] ++ ':' :: number.repr.toList).map Char.toNat)).length := by
      rw [encodeCursor, hcharacters, String.length_ofList]
    rw [hcoded, Base64.length_encode] at hlength
    simp only [List.length_map, List.length_append, List.length_cons, List.length_nil] at hlength
    omega
  have hpayload : (Base64.decode (encodeCursor number).toList).bind Base64.utf8 =
      some (['v', '1'] ++ ':' :: number.repr.toList) := by
    rw [encodeCursor, String.toList_ofList, hcharacters]
    exact Base64.decode_text hascii
  have hplain : ':' ∉ ['v', '1'] := by decide
  obtain ⟨hversion, hrest⟩ := split_once number.repr.toList hplain
  unfold decodeCursor
  rw [hpayload, except_bind_ok]
  refine ⟨_, rfl, ?_⟩
  simp only [hversion, hrest, List.tail_cons, String.ofList_toList]
  rw [except_bind_ok]
  refine ⟨(), rfl, ?_⟩
  rw [Decimal.parseInt?_repr hdigits, except_bind_ok]
  refine ⟨number, rfl, ?_⟩
  rw [except_bind_ok]
  refine ⟨(), ?_, rfl⟩
  rw [ensure_ok, Bool.and_eq_true, decide_eq_true_eq, decide_eq_true_eq]
  exact ⟨by decide, hidentifier⟩

theorem mapM_decodeCursor {cursor : Option Int} (hpositive : ∀ identifier ∈ cursor, 0 < identifier)
    (hlength : ∀ identifier ∈ cursor, (encodeCursor identifier).length ≤ 128) :
    (cursor.map encodeCursor).mapM decodeCursor = .ok cursor := by
  cases cursor with
  | none => rfl
  | some identifier =>
      rw [Option.map_some, Option.mapM_some,
        decodeCursor_encodeCursor (hpositive identifier rfl) (hlength identifier rfl)]
      rfl

/-! ### Filters -/

def filterAllowed (model : String) (clause : FilterClause) : Bool :=
  !isDeniedField (leaf clause.field) && (!("company_id".toList <:+: clause.field.toList) &&
    (filterFields model).contains clause.field)

theorem filterDomain_ok {model : String} {clauses : List FilterClause}
    (hallowed : ∀ clause ∈ clauses, filterAllowed model clause = true) :
    filterDomain model clauses = .ok (clauses.map fun clause =>
      domainClause clause.field clause.operator (domainValue clause.value)) := by
  unfold filterDomain
  induction clauses with
  | nil => rfl
  | cons clause clauses ih =>
      obtain ⟨hclause, hrest⟩ := List.forall_mem_cons.mp hallowed
      rw [filterAllowed, Bool.and_eq_true] at hclause
      rw [List.mapM_cons, ih hrest]
      simp only [ensure, hclause.1, hclause.2, if_true]
      rfl

/-! ### Ids of rows -/

theorem positiveInt_eq_some {value : PyValue} {number : Int} :
    Field.positiveInt value = some number ↔ value = .int number ∧ 0 < number := by
  cases value with
  | int found =>
      simp only [Field.positiveInt, PyValue.int.injEq]
      constructor
      · intro hfound
        split at hfound
        · cases hfound
          exact ⟨rfl, ‹_›⟩
        · cases hfound
      · rintro ⟨rfl, hpositive⟩
        rw [if_pos hpositive]
  | _ => simp [Field.positiveInt]

/-- A field that is not denied keeps its place in the record of a row. -/
theorem dictGet_record {row : Payload} {name : String} (hallowed : isDeniedField name = false) :
    dictGet (record row) name = (dictGet row name).map stripDeniedFields := by
  unfold record
  induction row with
  | nil => rfl
  | cons entry row ih =>
      obtain ⟨key, value⟩ := entry
      simp only [List.map_cons, stripDeniedEntries]
      by_cases hkey : key = name
      · subst hkey
        simp [hallowed, dictGet]
      · have hskip : dictGet ((key, value) :: row) name = dictGet row name := by
          simp [dictGet, hkey]
        rw [hskip, ← ih]
        split
        · rfl
        · simp [dictGet, hkey]

/-- A row without denied fields is its own record. -/
theorem record_of_allowed {row : Payload}
    (hkeys : (row.map Prod.fst).all (fun key => !isDeniedField key) = true)
    (hvalues : ∀ entry ∈ row, stripDeniedFields entry.2 = entry.2) : record row = row := by
  unfold record
  induction row with
  | nil => rfl
  | cons entry row ih =>
      obtain ⟨key, value⟩ := entry
      rw [List.map_cons, List.all_cons, Bool.and_eq_true, Bool.not_eq_true'] at hkeys
      obtain ⟨hvalue, hrest⟩ := List.forall_mem_cons.mp hvalues
      rw [List.map_cons, stripDeniedEntries, hkeys.1, hvalue, ih hkeys.2 hrest]
      rfl

theorem field_record_id {row : Payload} {identifier : Int}
    (hrow : row.field "id" = .int identifier) : (record row).field "id" = .int identifier := by
  unfold Payload.field at hrow ⊢
  rw [dictGet_record (by decide)]
  cases hfound : dictGet row "id" with
  | none =>
      rw [hfound] at hrow
      cases hrow
  | some value =>
      rw [hfound] at hrow
      cases hrow
      rfl

/-! ### Ids of items -/

/-- What holds of every value that a pure step returns. -/
def Returns {α : Type} (holds : α → Prop) (outcome : Except PyException α) : Prop :=
  ∀ value, outcome = .ok value → holds value

def Yields {α : Type} (holds : α → Prop) (found : Option α) : Prop :=
  ∀ value, found = some value → holds value

theorem Yields.pure {α : Type} {holds : α → Prop} {value : α} (hvalue : holds value) :
    Yields holds (Pure.pure value) := by
  rintro _ ⟨⟩
  exact hvalue

theorem Yields.bind {α β : Type} {holds : β → Prop} {found : Option α} {next : α → Option β}
    (hnext : ∀ value, found = some value → Yields holds (next value)) :
    Yields holds (found >>= next) := by
  intro result hresult
  obtain ⟨value, hvalue, hrest⟩ := Option.bind_eq_some_iff.mp hresult
  exact hnext value hvalue result hrest

namespace Returns

variable {α β : Type}

theorem pure {holds : α → Prop} {value : α} (hvalue : holds value) :
    Returns holds (Pure.pure value) := by
  rintro _ ⟨⟩
  exact hvalue

theorem bind {holds : β → Prop} {outcome : Except PyException α}
    {next : α → Except PyException β}
    (hnext : ∀ value, outcome = .ok value → Returns holds (next value)) :
    Returns holds (outcome >>= next) := by
  intro result hresult
  obtain ⟨value, hvalue, hrest⟩ := except_bind_ok.mp hresult
  exact hnext value hvalue result hrest

theorem orRaise {holds : α → Prop} {found : Option α} {error : PyException}
    (hfound : Yields holds found) : Returns holds (orRaise found error) :=
  fun value hvalue => hfound value (orRaise_ok.mp hvalue)

end Returns

/-- The items that a conversion makes of records keep the id of the record. -/
def KeepsId {α : Type} (idOf : α → Int) (convert : Payload → Except PyException α) : Prop :=
  ∀ row, Returns (fun item => row.field "id" = .int (idOf item)) (convert row)

theorem KeepsId.enforced {α : Type} {idOf : α → Int} {normalize : Payload → Except PyException α}
    {enforceOutputScope : α → Except PyException α} (hnormalize : KeepsId idOf normalize)
    (henforce : ∀ item, Returns (fun kept => idOf kept = idOf item) (enforceOutputScope item)) :
    KeepsId idOf (fun row => do enforceOutputScope (← normalize row)) := by
  intro row
  refine .bind fun item hitem kept hkept => ?_
  rw [henforce item kept hkept]
  exact hnormalize row item hitem

theorem yields_id {α : Type} {idOf : α → Int} {value : PyValue} {next : Int → Option α}
    (hnext : ∀ identifier, Yields (fun item => idOf item = identifier) (next identifier)) :
    Yields (fun item => value = .int (idOf item)) (Field.positiveInt value >>= next) := by
  refine .bind fun identifier hidentifier item hitem => ?_
  rw [hnext identifier item hitem]
  exact (positiveInt_eq_some.mp hidentifier).1

theorem returns_id {α : Type} {idOf : α → Int} {row : Payload} {model : String}
    {next : Int → Except PyException α}
    (hnext : ∀ identifier, Returns (fun item => idOf item = identifier) (next identifier)) :
    Returns (fun item => row.field "id" = .int (idOf item))
      (readField row model "id" Field.positiveInt >>= next) := by
  refine .bind fun identifier hidentifier item hitem => ?_
  rw [hnext identifier item hitem]
  exact (positiveInt_eq_some.mp (orRaise_ok.mp hidentifier)).1

theorem keepsId_normalizeAccountMove : KeepsId AccountMove.id normalizeAccountMove := by
  intro row
  refine .orRaise (yields_id fun identifier => ?_)
  repeat' refine .bind fun _ _ => ?_
  exact .pure rfl

theorem keepsId_normalizePartialReconciliation :
    KeepsId PartialReconciliation.id normalizePartialReconciliation := by
  intro row
  refine .orRaise (yields_id fun identifier => ?_)
  repeat' refine .bind fun _ _ => ?_
  exact .pure rfl

theorem keepsId_normalizeJournal : KeepsId Journal.id normalizeJournal := by
  intro row
  refine .orRaise (yields_id fun identifier => ?_)
  repeat' refine .bind fun _ _ => ?_
  exact .pure rfl

theorem keepsId_normalizeBankStatementLine :
    KeepsId BankStatementLine.id normalizeBankStatementLine := by
  intro row
  refine .orRaise (yields_id fun identifier => ?_)
  repeat' refine .bind fun _ _ => ?_
  exact .pure rfl

theorem keepsId_normalizePaymentTerm : KeepsId PaymentTerm.id normalizePaymentTerm := by
  intro row
  refine .orRaise (yields_id fun identifier => ?_)
  repeat' refine .bind fun _ _ => ?_
  exact .pure rfl

theorem keepsId_normalizePartner : KeepsId Partner.id normalizePartner := by
  intro row
  refine .orRaise (yields_id fun identifier => ?_)
  repeat' refine .bind fun _ _ => ?_
  exact .pure rfl

theorem keepsId_normalizeProduct : KeepsId Product.id normalizeProduct := by
  intro row
  refine .orRaise (yields_id fun identifier => ?_)
  repeat' refine .bind fun _ _ => ?_
  exact .pure rfl

theorem keepsId_normalizeAccount : KeepsId Account.id normalizeAccount := by
  intro row
  refine .orRaise (yields_id fun identifier => ?_)
  repeat' refine .bind fun _ _ => ?_
  exact .pure rfl

theorem keepsId_normalizeAnalyticAccount : KeepsId AnalyticAccount.id normalizeAnalyticAccount := by
  intro row
  refine .orRaise (yields_id fun identifier => ?_)
  repeat' refine .bind fun _ _ => ?_
  exact .pure rfl

theorem keepsId_normalizeAccountMoveLine : KeepsId AccountMoveLine.id normalizeAccountMoveLine := by
  intro row
  refine returns_id fun identifier => ?_
  repeat' refine .bind fun _ _ => ?_
  exact .pure rfl

theorem keepsId_normalizeCurrency : KeepsId Currency.id normalizeCurrency := by
  intro row
  refine returns_id fun identifier => ?_
  repeat' refine .bind fun _ _ => ?_
  exact .pure rfl

/-! ### Pages -/

theorem forall₂_of_mapM {α β : Type} {next : α → Option β} {items : List α} {results : List β}
    (hresults : items.mapM next = some results) :
    List.Forall₂ (fun item result => next item = some result) items results := by
  induction items generalizing results with
  | nil =>
      cases hresults
      exact .nil
  | cons item items ih =>
      rw [List.mapM_cons] at hresults
      simp only [Option.bind_eq_bind, Option.bind_eq_some_iff, Option.pure_def,
        Option.some.injEq] at hresults
      obtain ⟨first, hfirst, remaining, hremaining, rfl⟩ := hresults
      exact .cons hfirst (ih hremaining)

theorem mapM_ok_of_forall₂ {ε α β : Type} {next : α → Except ε β} {items : List α}
    {results : List β} (hforall : List.Forall₂ (fun item result => next item = .ok result) items
      results) : items.mapM next = .ok results := by
  induction hforall with
  | nil => rfl
  | cons hfirst _ ih =>
      rw [List.mapM_cons, hfirst, ih]
      rfl

theorem mapM_positiveInt {rows : List Payload} {identifiers : List Int}
    (hrows : List.Forall₂ (fun row identifier => row.field "id" = .int identifier) rows identifiers)
    (hpositive : ∀ identifier ∈ identifiers, 0 < identifier) :
    rows.mapM (fun row => Field.positiveInt (row.field "id")) = some identifiers := by
  induction hrows with
  | nil => rfl
  | cons hfirst _ ih =>
      obtain ⟨hhead, htail⟩ := List.forall_mem_cons.mp hpositive
      rw [List.mapM_cons, positiveInt_eq_some.mpr ⟨hfirst, hhead⟩, ih htail]
      rfl

/-- A strictly increasing list is its own sorted set. -/
theorem sortedSet_of_pairwise {identifiers : List Int}
    (hordered : identifiers.Pairwise (· < ·)) : sortedSet identifiers = identifiers := by
  have hnodup : identifiers.Nodup := hordered.imp fun hlt => ne_of_lt hlt
  rw [sortedSet, List.dedup_eq_self.mpr hnodup]
  exact (hordered.imp fun hlt => le_of_lt hlt).insertionSort_eq

/-- A list that equals its sorted set is strictly increasing. -/
theorem pairwise_of_sortedSet {identifiers : List Int}
    (hsorted : identifiers = sortedSet identifiers) :
    identifiers.Pairwise (· < ·) := by
  have hordered : (sortedSet identifiers).Pairwise (· ≤ ·) := List.pairwise_insertionSort _ _
  have hnodup : (sortedSet identifiers).Nodup :=
    (List.perm_insertionSort _ _).nodup_iff.mpr (List.nodup_dedup _)
  rw [← hsorted] at hordered hnodup
  exact (hordered.and hnodup).imp fun hpair => lt_of_le_of_ne hpair.1 hpair.2

/-- Two lists related to a third, element by element, agree if the elements do. -/
theorem map_eq_of_forall₂ {α β γ : Type} {first : α → γ → Prop} {second : α → β → Prop}
    {left : β → γ} (hagree : ∀ origin image item, first origin image → second origin item →
      left item = image)
    {origins : List α} {images : List γ} {items : List β}
    (himages : List.Forall₂ first origins images) (hitems : List.Forall₂ second origins items) :
    items.map left = images := by
  induction himages generalizing items with
  | nil =>
      cases hitems
      rfl
  | cons hfirst _ ih =>
      cases hitems with
      | cons hsecond hrest => rw [List.map_cons, hagree _ _ _ hfirst hsecond, ih hrest]

theorem lt_of_head {identifiers : List Int} {cursor : Int} (hordered : identifiers.Pairwise (· < ·))
    (hhead : ∀ first ∈ identifiers.head?, cursor < first) {identifier : Int}
    (hidentifier : identifier ∈ identifiers) : cursor < identifier := by
  cases identifiers with
  | nil => cases hidentifier
  | cons first rest =>
      have hfirst := hhead first rfl
      rcases List.mem_cons.mp hidentifier with rfl | hrest
      · exact hfirst
      · exact hfirst.trans (List.rel_of_pairwise_cons hordered hrest)

namespace AccountingReader

/-- The clause that continues after a cursor. -/
def afterCursor (cursorId : Option Int) : List PyValue :=
  cursorId.toList.map fun cursor => domainClause "id" ">" (.int cursor)

structure PageOf {α : Type} (convert : Payload → Except PyException α) (limit : Nat)
    (cursorId : Option Int) (rows : List Payload) (page : RecordPage α) where
  identifiers : List Int
  fits : rows.length ≤ limit + 1
  identified : List.Forall₂ (fun row identifier => row.field "id" = .int identifier) rows
    identifiers
  positive : ∀ identifier ∈ identifiers, 0 < identifier
  ordered : identifiers.Pairwise (· < ·)
  after : ∀ cursor ∈ cursorId, ∀ identifier ∈ identifiers, cursor < identifier
  converted : List.Forall₂ (fun row item => convert (record row) = .ok item) (rows.take limit)
    page.items
  continued : page.nextCursor =
    if limit < rows.length then some (encodeCursor (identifiers.getD (limit - 1) 0)) else none

theorem PageOf.length_identifiers {α : Type} {convert : Payload → Except PyException α}
    {limit : Nat} {cursorId : Option Int} {rows : List Payload} {page : RecordPage α}
    (of : PageOf convert limit cursorId rows page) : of.identifiers.length = rows.length :=
  of.identified.length_eq.symm

variable (reader : AccountingReader)

section ReadPage

variable {α : Type} {model : String} {companyId : Int} {scope : List PyValue}
  {filters : List FilterClause} {request : PageRequest} {fields : List String}
  {normalize : Payload → Except PyException α} {enforceOutputScope : α → Except PyException α}
  {validateRows : List Payload → Int → Odoo Unit}

theorem recordPage_ok {convert : Payload → Except PyException α} {rows : List Payload}
    {identifiers : List Int} {limit : Nat} {limit_pos : 1 ≤ limit} {page : RecordPage α}
    (hpage : recordPage convert rows identifiers limit limit_pos = .ok page) :
    ((rows.take limit).map record).mapM convert = .ok page.items ∧
      page.nextCursor = if limit < rows.length then
        some (encodeCursor (identifiers.getD ((rows.take limit).length - 1) 0)) else none := by
  unfold recordPage at hpage
  dsimp only at hpage
  split at hpage
  · cases hpage
  · rename_i items hitems
    cases hpage
    exact ⟨hitems, rfl⟩

theorem recordPage_eq {convert : Payload → Except PyException α} {rows : List Payload}
    {identifiers : List Int} {limit : Nat} (limit_pos : 1 ≤ limit) {page : RecordPage α}
    (hitems : ((rows.take limit).map record).mapM convert = .ok page.items)
    (hnext : page.nextCursor =
      if limit < rows.length then some (encodeCursor (identifiers.getD (limit - 1) 0)) else none) :
    recordPage convert rows identifiers limit limit_pos = .ok page := by
  unfold recordPage
  dsimp only
  split
  · rename_i error herror
    rw [hitems] at herror
    cases herror
  · rename_i items hfound
    rw [hitems] at hfound
    cases hfound
    obtain ⟨items, nextCursor, progress⟩ := page
    dsimp only at hnext
    subst hnext
    congr 2
    split
    · rw [List.length_take, min_eq_left (by omega)]
    · rfl

/-- **A page that was returned.** The company is one of the validated ones; the first request is the
page's own search, whose rows make the page; what follows validates those rows. -/
theorem readPage_ok {trace : List OdooEvent} {page : RecordPage α}
    (hruns : Program.Runs (reader.readPage model companyId scope filters request fields normalize
      enforceOutputScope validateRows) trace (.ok page)) :
    reader.requireCompany companyId = .ok () ∧
      ∃ cursorId filtered rows validation,
        request.cursor.mapM decodeCursor = .ok cursorId ∧
        filterDomain model filters = .ok filtered ∧
        trace = ⟨.searchRead model (scope ++ filtered ++ afterCursor cursorId) fields
          (request.limit + 1) 0 "id asc" [companyId], .ok rows⟩ :: validation ∧
        Program.Runs (validateRows ((rows.take request.limit).map record) companyId) validation
          (.ok ()) ∧
        Nonempty (PageOf (fun row => do enforceOutputScope (← normalize row)) request.limit cursorId
          rows page) := by
  unfold readPage at hruns
  dsimp only at hruns
  obtain ⟨⟨⟩, hcompany, hruns⟩ := Program.runs_ofExcept_bind_ok.mp hruns
  obtain ⟨⟨⟩, -, hruns⟩ := Program.runs_ofExcept_bind_ok.mp hruns
  obtain ⟨cursorId, hcursor, hruns⟩ := Program.runs_ofExcept_bind_ok.mp hruns
  obtain ⟨filtered, hfiltered, hruns⟩ := Program.runs_ofExcept_bind_ok.mp hruns
  obtain ⟨rows, search, rest, rfl, hsearch, hrest⟩ := Program.runs_bind_ok.mp hruns
  obtain rfl := Program.runs_call.mp hsearch
  obtain ⟨⟨⟩, hfits, hrest⟩ := Program.runs_ofExcept_bind_ok.mp hrest
  obtain ⟨identifiers, hidentifiers, hrest⟩ := Program.runs_ofExcept_bind_ok.mp hrest
  obtain ⟨⟨⟩, hordered, hrest⟩ := Program.runs_ofExcept_bind_ok.mp hrest
  obtain ⟨⟨⟩, validation, last, rfl, hvalidation, hlast⟩ := Program.runs_bind_ok.mp hrest
  obtain ⟨rfl, hpage⟩ := Program.runs_ofExcept.mp hlast
  obtain ⟨hitems, hnext⟩ := recordPage_ok hpage.symm
  rw [orRaise_ok] at hidentifiers
  have hrows := forall₂_of_mapM hidentifiers
  simp only [ensure_ok, Bool.and_eq_true, decide_eq_true_eq, Option.all_eq_true] at hfits hordered
  refine ⟨hcompany, cursorId, filtered, rows, validation, hcursor, hfiltered, by simp [afterCursor],
    hvalidation, ⟨⟨identifiers, hfits, ?_, ?_, pairwise_of_sortedSet hordered.1, ?_, ?_, ?_⟩⟩⟩
  · exact hrows.imp fun row identifier hrow => (positiveInt_eq_some.mp hrow).1
  · intro identifier hidentifier
    obtain ⟨row, -, hrow⟩ := exists_of_forall₂_right hrows hidentifier
    exact (positiveInt_eq_some.mp hrow).2
  · intro cursor hcursor' identifier hidentifier
    exact lt_of_head (pairwise_of_sortedSet hordered.1)
      (fun first => hordered.2 cursor hcursor' first) hidentifier
  · have hforall := forall₂_of_mapM_ok hitems
    rwa [List.forall₂_map_left_iff] at hforall
  · rw [hnext]
    split
    · rw [List.length_take, min_eq_left (by omega)]
    · rfl

/-- Conversely, rows that make a page are read as that page. -/
theorem runs_readPage {cursorId : Option Int} {filtered : List PyValue} {rows : List Payload}
    {validation : List OdooEvent} {page : RecordPage α}
    (hcompany : reader.requireCompany companyId = .ok ())
    (hmodel : ensureModelReadAllowed model = .ok ())
    (hcursor : request.cursor.mapM decodeCursor = .ok cursorId)
    (hfiltered : filterDomain model filters = .ok filtered)
    (of : PageOf (fun row => do enforceOutputScope (← normalize row)) request.limit cursorId rows
      page)
    (hvalidation : Program.Runs (validateRows ((rows.take request.limit).map record) companyId)
      validation (.ok ())) :
    Program.Runs (reader.readPage model companyId scope filters request fields normalize
      enforceOutputScope validateRows)
      (⟨.searchRead model (scope ++ filtered ++ afterCursor cursorId) fields (request.limit + 1) 0
        "id asc" [companyId], .ok rows⟩ :: validation) (.ok page) := by
  have hidentifiers : rows.mapM (fun row => Field.positiveInt (row.field "id")) =
      some of.identifiers := mapM_positiveInt of.identified of.positive
  have hordered : of.identifiers = sortedSet of.identifiers :=
    (sortedSet_of_pairwise of.ordered).symm
  have hafter : ∀ cursor ∈ cursorId, ∀ first ∈ of.identifiers.head?, cursor < first :=
    fun cursor hcursor first hfirst => of.after cursor hcursor first (List.mem_of_mem_head? hfirst)
  have hitems : ((rows.take request.limit).map record).mapM
      (fun row => do enforceOutputScope (← normalize row)) = .ok page.items := by
    apply mapM_ok_of_forall₂
    rw [List.forall₂_map_left_iff]
    exact of.converted
  have hpage := recordPage_eq request.limit_pos hitems of.continued
  unfold readPage
  dsimp only
  refine Program.runs_ofExcept_bind_ok.mpr ⟨(), hcompany, ?_⟩
  refine Program.runs_ofExcept_bind_ok.mpr ⟨(), hmodel, ?_⟩
  refine Program.runs_ofExcept_bind_ok.mpr ⟨cursorId, hcursor, ?_⟩
  refine Program.runs_ofExcept_bind_ok.mpr ⟨filtered, hfiltered, ?_⟩
  refine Program.runs_bind_ok.mpr ⟨rows, _, validation, rfl, Program.runs_call.mpr rfl, ?_⟩
  refine Program.runs_ofExcept_bind_ok.mpr ⟨(), ?_, ?_⟩
  · rw [ensure_ok, decide_eq_true_eq]
    exact of.fits
  refine Program.runs_ofExcept_bind_ok.mpr ⟨of.identifiers, orRaise_ok.mpr hidentifiers, ?_⟩
  refine Program.runs_ofExcept_bind_ok.mpr ⟨(), ?_, ?_⟩
  · simp only [ensure_ok, Bool.and_eq_true, decide_eq_true_eq, Option.all_eq_true]
    exact ⟨hordered, hafter⟩
  refine Program.runs_bind_ok.mpr ⟨(), validation, [], by rw [List.append_nil], hvalidation, ?_⟩
  exact Program.runs_ofExcept.mpr ⟨rfl, hpage.symm⟩

/-- A page reads the model of its records once, if its validation reads other models. -/
theorem atMost_readPage {counted : OdooEvent → Bool}
    (hvalidate : ∀ rows companyId, Program.AtMost counted 0 (validateRows rows companyId)) :
    Program.AtMost counted 1 (reader.readPage model companyId scope filters request fields normalize
      enforceOutputScope validateRows) := by
  unfold readPage
  refine .ofExcept_bind fun _ => ?_
  refine .ofExcept_bind fun _ => ?_
  refine .ofExcept_bind fun cursorId => ?_
  refine .ofExcept_bind fun filtered => ?_
  refine (Program.AtMost.call _).bind_none fun rows => ?_
  refine .ofExcept_bind fun _ => ?_
  refine .ofExcept_bind fun identifiers => ?_
  refine .ofExcept_bind fun _ => ?_
  exact (hvalidate _ _).bind_none fun _ => .ofExcept _

end ReadPage

/-! ### Keyset pages -/

structure KeysetPage {α : Type} (idOf : α → Int) (request : PageRequest) (page : RecordPage α) :
    Prop where
  short : page.items.length ≤ request.limit
  positive : ∀ item ∈ page.items, 0 < idOf item
  ordered : (page.items.map idOf).Pairwise (· < ·)
  decoded : ∀ cursor ∈ request.cursor, ∃ identifier, decodeCursor cursor = .ok identifier
  after : ∀ cursor ∈ request.cursor, ∀ identifier, decodeCursor cursor = .ok identifier →
    ∀ item ∈ page.items, identifier < idOf item
  full : ∀ cursor ∈ page.nextCursor, page.items.length = request.limit
  next : ∀ cursor ∈ page.nextCursor, ∃ last ∈ page.items.getLast?,
    cursor = encodeCursor (idOf last)

section PageOf

variable {α : Type} {idOf : α → Int} {convert : Payload → Except PyException α} {limit : Nat}
  {cursorId : Option Int} {rows : List Payload} {page : RecordPage α}

theorem PageOf.map_id (of : PageOf convert limit cursorId rows page)
    (hconvert : KeepsId idOf convert) : page.items.map idOf = of.identifiers.take limit := by
  refine map_eq_of_forall₂ (fun row identifier item hrow hitem => ?_)
    (List.forall₂_take limit of.identified) of.converted
  have hkept := hconvert (record row) item hitem
  rw [field_record_id hrow] at hkept
  cases hkept
  rfl

theorem PageOf.length_items (of : PageOf convert limit cursorId rows page) :
    page.items.length = min limit rows.length := by
  rw [← of.converted.length_eq, List.length_take]

theorem PageOf.keyset {request : PageRequest}
    (hcursor : request.cursor.mapM decodeCursor = .ok cursorId)
    (of : PageOf convert request.limit cursorId rows page) (hconvert : KeepsId idOf convert) :
    KeysetPage idOf request page := by
  have hmap := of.map_id hconvert
  have hmem : ∀ item ∈ page.items, idOf item ∈ of.identifiers := by
    intro item hitem
    have hid := List.mem_map_of_mem (f := idOf) hitem
    rw [hmap] at hid
    exact List.mem_of_mem_take hid
  refine ⟨by rw [of.length_items]; omega, fun item hitem => of.positive _ (hmem item hitem), ?_, ?_,
    ?_, ?_, ?_⟩
  · rw [hmap]
    exact of.ordered.sublist (List.take_sublist _ _)
  · intro cursor hgiven
    rw [Option.mem_def] at hgiven
    rw [hgiven] at hcursor
    cases hdecoded : decodeCursor cursor with
    | ok identifier => exact ⟨identifier, rfl⟩
    | error error => simp [hdecoded] at hcursor
  · intro cursor hgiven identifier hdecoded item hitem
    refine of.after identifier ?_ _ (hmem item hitem)
    rw [Option.mem_def] at hgiven
    rw [hgiven] at hcursor
    exact (by simpa [hdecoded] using hcursor : some identifier = cursorId).symm
  · intro cursor hnext
    rw [of.continued, Option.mem_def] at hnext
    split at hnext
    · rw [of.length_items]
      omega
    · cases hnext
  · intro cursor hnext
    rw [of.continued, Option.mem_def] at hnext
    split at hnext
    · rename_i hmore
      cases hnext
      have hlength : page.items.length = request.limit := by
        rw [of.length_items]
        omega
      have hpos := request.limit_pos
      have hwithin : request.limit - 1 < page.items.length := by omega
      have hlast : page.items.getLast? = some page.items[request.limit - 1] := by
        rw [List.getLast?_eq_getElem?, ← List.getElem?_eq_getElem hwithin, hlength]
      refine ⟨_, hlast, ?_⟩
      have hentry : (page.items.map idOf)[request.limit - 1]? =
          (of.identifiers.take request.limit)[request.limit - 1]? := by rw [hmap]
      rw [List.getElem?_map, List.getElem?_eq_getElem hwithin,
        List.getElem?_take_of_lt (by omega)] at hentry
      rw [List.getD_eq_getElem?_getD, ← hentry]
      rfl
    · cases hnext

end PageOf

end AccountingReader

end OdooMcp
