import OdooMcp.Adapters.AccountingPages

/-!
# The paged reads of one company

Every kind of record is read through the same pages. A read for a company that was not validated
asks Odoo nothing, and a page that is returned holds no record of another company, whatever Odoo
answered.
-/

namespace OdooMcp

open Effect

/-- The paged reads of the reader, by the records they return. -/
inductive PagedRead : Type → Type
  | accountMoves (filters : List FilterClause) : PagedRead AccountMove
  | accountMoveLines (filters : List FilterClause) : PagedRead AccountMoveLine
  | partialReconciliations (filters : List FilterClause) : PagedRead PartialReconciliation
  | journals : PagedRead Journal
  | bankStatementLines (period : DatePeriod) (journalId : Option Int) : PagedRead BankStatementLine
  | paymentTerms : PagedRead PaymentTerm
  | partners (filters : List FilterClause) : PagedRead Partner
  | products (filters : List FilterClause) : PagedRead Product
  | accounts (filters : List FilterClause) : PagedRead Account
  | analyticAccounts (filters : List FilterClause) : PagedRead AnalyticAccount
  | currencies (currencyIds : List Int) : PagedRead Currency

namespace PagedRead

def idOf {α : Type} : PagedRead α → α → Int
  | .accountMoves _ => AccountMove.id
  | .accountMoveLines _ => AccountMoveLine.id
  | .partialReconciliations _ => PartialReconciliation.id
  | .journals => Journal.id
  | .bankStatementLines _ _ => BankStatementLine.id
  | .paymentTerms => PaymentTerm.id
  | .partners _ => Partner.id
  | .products _ => Product.id
  | .accounts _ => Account.id
  | .analyticAccounts _ => AnalyticAccount.id
  | .currencies _ => Currency.id

def model {α : Type} : PagedRead α → String
  | .accountMoves _ => "account.move"
  | .accountMoveLines _ => "account.move.line"
  | .partialReconciliations _ => "account.partial.reconcile"
  | .journals => "account.journal"
  | .bankStatementLines _ _ => "account.bank.statement.line"
  | .paymentTerms => "account.payment.term"
  | .partners _ => "res.partner"
  | .products _ => "product.product"
  | .accounts _ => "account.account"
  | .analyticAccounts _ => "account.analytic.account"
  | .currencies _ => "res.currency"

/-- `_filter_domain` of filters that are allowed. -/
def filterClauses (filters : List FilterClause) : List PyValue :=
  filters.map fun clause => domainClause clause.field clause.operator (domainValue clause.value)

def domain {α : Type} (companyId : Int) : PagedRead α → List PyValue
  | .accountMoves filters => AccountingReader.ownCompany companyId ++ filterClauses filters
  | .accountMoveLines filters => AccountingReader.ownCompany companyId ++ filterClauses filters
  | .partialReconciliations filters =>
      [domainClause "debit_move_id.company_id" "=" (.int companyId),
        domainClause "credit_move_id.company_id" "=" (.int companyId)] ++ filterClauses filters
  | .journals => AccountingReader.ownCompany companyId
  | .bankStatementLines period journalId =>
      AccountingReader.bankStatementLineScope companyId period journalId
  | .paymentTerms => AccountingReader.sharedOrOwnCompany companyId
  | .partners filters => AccountingReader.sharedOrOwnCompany companyId ++ filterClauses filters
  | .products filters => AccountingReader.sharedOrOwnCompany companyId ++ filterClauses filters
  | .accounts filters =>
      [domainClause "company_ids" "in" (.list [.int companyId])] ++ filterClauses filters
  | .analyticAccounts filters =>
      AccountingReader.sharedOrOwnCompany companyId ++ filterClauses filters
  | .currencies currencyIds => [domainClause "id" "in" (.list (currencyIds.map .int))]

def fields {α : Type} : PagedRead α → List String
  | .accountMoves _ => AccountingReader.accountMoveFields
  | .accountMoveLines _ => AccountingReader.accountMoveLineFields
  | .partialReconciliations _ => AccountingReader.partialReconciliationFields
  | .journals => ["id", "name", "code", "type", "company_id", "currency_id"]
  | .bankStatementLines _ _ => AccountingReader.bankStatementLineFields
  | .paymentTerms => ["id", "name", "company_id"]
  | .partners _ => ["id", "name", "company_id", "customer_rank", "supplier_rank"]
  | .products _ => ["id", "name", "default_code", "company_id", "list_price", "currency_id"]
  | .accounts _ =>
      ["id", "code", "name", "account_type", "company_ids", "currency_id", "reconcile"]
  | .analyticAccounts _ => ["id", "name", "code", "company_id", "currency_id"]
  | .currencies _ => ["id", "name", "rounding"]

def convert {α : Type} (companyId : Int) : PagedRead α → Payload → Except PyException α
  | .accountMoves _ => fun row => do
      AccountingReader.enforceScoped AccountMove.companyId companyId (← normalizeAccountMove row)
  | .accountMoveLines _ => fun row => do
      AccountingReader.enforceScoped AccountMoveLine.companyId companyId
        (← normalizeAccountMoveLine row)
  | .partialReconciliations _ => fun row => do
      AccountingReader.enforceNothing (← normalizePartialReconciliation row)
  | .journals => fun row => do
      AccountingReader.enforceScoped Journal.companyId companyId (← normalizeJournal row)
  | .bankStatementLines _ _ => fun row => do
      AccountingReader.enforceScoped BankStatementLine.companyId companyId
        (← normalizeBankStatementLine row)
  | .paymentTerms => fun row => do
      AccountingReader.enforceOptional PaymentTerm.companyId companyId (← normalizePaymentTerm row)
  | .partners _ => fun row => do
      AccountingReader.enforceOptional Partner.companyId companyId (← normalizePartner row)
  | .products _ => fun row => do
      AccountingReader.enforceOptional Product.companyId companyId (← normalizeProduct row)
  | .accounts _ => fun row => do
      AccountingReader.enforceAccount companyId (← normalizeAccount row)
  | .analyticAccounts _ => fun row => do
      AccountingReader.enforceOptional AnalyticAccount.companyId companyId
        (← normalizeAnalyticAccount row)
  | .currencies _ => fun row => do
      AccountingReader.enforceNothing (← normalizeCurrency row)

theorem id_mem_fields {α : Type} (read : PagedRead α) : "id" ∈ read.fields := by
  cases read <;> exact List.mem_cons_self

end PagedRead

namespace AccountingReader

variable (reader : AccountingReader)

def pagedRead {α : Type} (read : PagedRead α) (companyId : Int) (page : PageRequest) :
    Odoo (RecordPage α) :=
  match read with
  | .accountMoves filters => reader.getAccountMoves companyId filters page
  | .accountMoveLines filters => reader.getAccountMoveLines companyId filters page
  | .partialReconciliations filters => reader.getPartialReconciliations companyId filters page
  | .journals => reader.getJournals companyId page
  | .bankStatementLines period journalId =>
      reader.getBankStatementLines companyId period journalId page
  | .paymentTerms => reader.getPaymentTerms companyId page
  | .partners filters => reader.getPartners companyId filters page
  | .products filters => reader.getProducts companyId filters page
  | .accounts filters => reader.getAccountAccounts companyId filters page
  | .analyticAccounts filters => reader.getAnalyticAccounts companyId filters page
  | .currencies currencyIds => reader.getCurrencies companyId currencyIds page

/-! ### Keyset pages -/

theorem enforceScoped_ok {α : Type} {companyOf : α → Int} {companyId : Int} {item kept : α}
    (hkept : enforceScoped companyOf companyId item = .ok kept) :
    kept = item ∧ companyOf item = companyId := by
  obtain ⟨⟨⟩, hcompany, hitem⟩ := except_bind_ok.mp hkept
  cases hitem
  exact ⟨rfl, of_decide_eq_true (ensure_ok.mp hcompany)⟩

theorem enforceOptional_ok {α : Type} {companyOf : α → Option Int} {companyId : Int}
    {item kept : α} (hkept : enforceOptional companyOf companyId item = .ok kept) :
    kept = item ∧ (companyOf item = none ∨ companyOf item = some companyId) := by
  obtain ⟨⟨⟩, hcompany, hitem⟩ := except_bind_ok.mp hkept
  cases hitem
  rw [ensure_ok, Bool.or_eq_true, decide_eq_true_eq, decide_eq_true_eq] at hcompany
  exact ⟨rfl, hcompany⟩

theorem enforceAccount_ok {companyId : Int} {item kept : Account}
    (hkept : enforceAccount companyId item = .ok kept) :
    kept = { item with companyIds := [companyId] } ∧ companyId ∈ item.companyIds := by
  obtain ⟨⟨⟩, hcompany, hitem⟩ := except_bind_ok.mp hkept
  cases hitem
  exact ⟨rfl, List.contains_iff_mem.mp (ensure_ok.mp hcompany)⟩

theorem enforceNothing_ok {α : Type} {item kept : α} (hkept : enforceNothing item = .ok kept) :
    kept = item := by
  cases hkept
  rfl

variable {reader}

theorem filterClauses_of_filterDomain {model : String} {filters : List FilterClause}
    {filtered : List PyValue} (hfiltered : filterDomain model filters = .ok filtered) :
    filtered = PagedRead.filterClauses filters := by
  have hclauses := forall₂_of_mapM_ok hfiltered
  have hsame : List.Forall₂ (fun clause clause' => clause = clause') filters filters :=
    List.forall₂_same.mpr fun clause _ => rfl
  refine (map_eq_of_forall₂ (fun clause found clause' hfound hclause => ?_) hclauses hsame).symm
  cases hclause
  obtain ⟨⟨⟩, -, hrest⟩ := except_bind_ok.mp hfound
  obtain ⟨⟨⟩, -, hdone⟩ := except_bind_ok.mp hrest
  cases hdone
  rfl

/-- The conversions of all reads keep the id of the record. -/
theorem keepsId_convert {α : Type} (read : PagedRead α) (companyId : Int) :
    KeepsId read.idOf (read.convert companyId) := by
  have hscoped {β : Type} (companyOf idOf : β → Int) (item : β) :
      Returns (fun kept => idOf kept = idOf item) (enforceScoped companyOf companyId item) := by
    intro kept hkept
    rw [(enforceScoped_ok hkept).1]
  have hoptional {β : Type} (companyOf : β → Option Int) (idOf : β → Int) (item : β) :
      Returns (fun kept => idOf kept = idOf item) (enforceOptional companyOf companyId item) := by
    intro kept hkept
    rw [(enforceOptional_ok hkept).1]
  have hnothing {β : Type} (idOf : β → Int) (item : β) :
      Returns (fun kept => idOf kept = idOf item) (enforceNothing item) := by
    intro kept hkept
    rw [enforceNothing_ok hkept]
  cases read with
  | accountMoves filters => exact keepsId_normalizeAccountMove.enforced (hscoped _ _)
  | accountMoveLines filters => exact keepsId_normalizeAccountMoveLine.enforced (hscoped _ _)
  | partialReconciliations filters =>
      exact keepsId_normalizePartialReconciliation.enforced (hnothing _)
  | journals => exact keepsId_normalizeJournal.enforced (hscoped _ _)
  | bankStatementLines period journalId =>
      exact keepsId_normalizeBankStatementLine.enforced (hscoped _ _)
  | paymentTerms => exact keepsId_normalizePaymentTerm.enforced (hoptional _ _)
  | partners filters => exact keepsId_normalizePartner.enforced (hoptional _ _)
  | products filters => exact keepsId_normalizeProduct.enforced (hoptional _ _)
  | accounts filters =>
      refine keepsId_normalizeAccount.enforced fun item kept hkept => ?_
      rw [(enforceAccount_ok hkept).1]
  | analyticAccounts filters => exact keepsId_normalizeAnalyticAccount.enforced (hoptional _ _)
  | currencies currencyIds => exact keepsId_normalizeCurrency.enforced (hnothing _)

/-- The first request of a paged read is its search, whose rows make the page. -/
theorem pagedRead_ok {α : Type} (read : PagedRead α) {companyId : Int} {request : PageRequest}
    {trace : List OdooEvent} {page : RecordPage α}
    (hruns : Program.Runs (reader.pagedRead read companyId request) trace (.ok page)) :
    ∃ cursorId rows validation, request.cursor.mapM decodeCursor = .ok cursorId ∧
      trace = ⟨.searchRead read.model (read.domain companyId ++ afterCursor cursorId) read.fields
        (request.limit + 1) 0 "id asc" [companyId], .ok rows⟩ :: validation ∧
      Nonempty (PageOf (read.convert companyId) request.limit cursorId rows page) := by
  have hpage {β : Type} {model : String} {scope : List PyValue} {filters : List FilterClause}
      {fields : List String} {normalize : Payload → Except PyException β}
      {enforceOutputScope : β → Except PyException β}
      {validateRows : List Payload → Int → Odoo Unit} {trace : List OdooEvent}
      {page : RecordPage β}
      (hread : Program.Runs (reader.readPage model companyId scope filters request fields normalize
        enforceOutputScope validateRows) trace (.ok page)) :
      ∃ cursorId rows validation, request.cursor.mapM decodeCursor = .ok cursorId ∧
        trace = ⟨.searchRead model (scope ++ PagedRead.filterClauses filters ++
          afterCursor cursorId) fields (request.limit + 1) 0 "id asc" [companyId], .ok rows⟩ ::
            validation ∧
        Nonempty (PageOf (fun row => do enforceOutputScope (← normalize row)) request.limit cursorId
          rows page) := by
    obtain ⟨-, cursorId, filtered, rows, validation, hcursor, hfiltered, rfl, -, hof⟩ :=
      reader.readPage_ok hread
    obtain rfl := filterClauses_of_filterDomain hfiltered
    exact ⟨cursorId, rows, validation, hcursor, rfl, hof⟩
  cases read with
  | bankStatementLines period journalId =>
      obtain ⟨⟨⟩, -, hread⟩ := Program.runs_ofExcept_bind_ok.mp hruns
      have hfound := hpage hread
      rwa [show PagedRead.filterClauses [] = [] from rfl, List.append_nil] at hfound
  | currencies currencyIds =>
      obtain ⟨⟨⟩, -, hread⟩ := Program.runs_ofExcept_bind_ok.mp hruns
      obtain ⟨found, first, last, rfl, hfirst, hlast⟩ := Program.runs_bind_ok.mp hread
      obtain ⟨⟨⟩, -, hdone⟩ := Program.runs_ofExcept_bind_ok.mp hlast
      obtain ⟨rfl, ⟨⟩⟩ := Program.runs_ret.mp hdone
      rw [List.append_nil]
      exact hpage hfirst
  | _ => exact hpage hruns

/-- **Every paged read returns keyset pages.** -/
theorem keyset_pagedRead {α : Type} (read : PagedRead α) {companyId : Int} {request : PageRequest}
    {trace : List OdooEvent} {page : RecordPage α}
    (hruns : Program.Runs (reader.pagedRead read companyId request) trace (.ok page)) :
    KeysetPage read.idOf request page := by
  obtain ⟨cursorId, rows, validation, hcursor, -, ⟨of⟩⟩ := pagedRead_ok read hruns
  exact of.keyset hcursor (keepsId_convert read companyId)

/-! ### Requests -/

def searches (model : String) (event : OdooEvent) : Bool :=
  match event.request with
  | .searchRead found _ _ _ _ _ _ => found = model
  | _ => false

theorem atMost_validatePartialReconciliationRows (rows : List Payload) (companyId : Int) :
    Program.AtMost (searches "account.partial.reconcile") 0
      (validatePartialReconciliationRows rows companyId) := by
  refine .ofExcept_bind fun lineIds => ?_
  split
  · exact .ret _
  · refine .ofExcept_bind fun _ => ?_
    refine (Program.AtMost.call_other fun answer => rfl).none_bind fun rows => ?_
    refine .ofExcept_bind fun attributed => ?_
    exact .ofExcept _

/-- A paged read searches the model of its records at most once. -/
theorem atMost_pagedRead {α : Type} (read : PagedRead α) (companyId : Int)
    (request : PageRequest) :
    Program.AtMost (searches read.model) 1 (reader.pagedRead read companyId request) := by
  have hany (counted : OdooEvent → Bool) (rows : List Payload) (companyId : Int) :
      Program.AtMost counted 0 (anyRows rows companyId) := .ret _
  cases read with
  | bankStatementLines period journalId =>
      exact .ofExcept_bind fun _ => reader.atMost_readPage (hany _)
  | partialReconciliations filters =>
      exact reader.atMost_readPage atMost_validatePartialReconciliationRows
  | currencies currencyIds =>
      refine .ofExcept_bind fun _ => (reader.atMost_readPage (hany _)).bind_none fun found => ?_
      exact .ofExcept_bind fun _ => .ret _
  | _ => exact reader.atMost_readPage (hany _)

/-! ### Attribution of partial reconciliations -/

theorem mem_sortedSet {identifiers : List Int} {identifier : Int} :
    identifier ∈ sortedSet identifiers ↔ identifier ∈ identifiers := by
  rw [sortedSet, (List.perm_insertionSort _ _).mem_iff, List.mem_dedup]

/-- The attribution read listed the line, with the company. -/
def Attributed (companyId : Int) (trace : List OdooEvent) (lineId : Int) : Prop :=
  ∃ domain limit rows,
    (⟨.searchRead "account.move.line" domain ["id", "company_id"] limit 0 "id asc" [companyId],
      .ok rows⟩ : OdooEvent) ∈ trace ∧
    ∃ raw ∈ rows, (record raw).field "id" = .int lineId ∧
      Field.relatedId ((record raw).field "company_id") = some companyId

/-- By induction on the rows that are left. -/
theorem mem_attributedIds {companyId : Int} {attributed found : List Int} {rows : List Payload}
    (hfound : attributedIds companyId attributed rows = some found) {lineId : Int}
    (hline : lineId ∈ found) : lineId ∈ attributed ∨
      ∃ raw ∈ rows, (record raw).field "id" = .int lineId ∧
        Field.relatedId ((record raw).field "company_id") = some companyId := by
  induction rows generalizing attributed with
  | nil =>
      cases hfound
      exact .inl hline
  | cons raw rows ih =>
      simp only [attributedIds, Option.bind_eq_bind, Option.bind_eq_some_iff] at hfound
      obtain ⟨identifier, hidentifier, hfound⟩ := hfound
      split at hfound
      · cases hfound
      obtain ⟨company, hcompany, hfound⟩ := Option.bind_eq_some_iff.mp hfound
      split at hfound
      · cases hfound
      rename_i hsame
      rcases ih hfound with hold | ⟨row, hrow, hattributed⟩
      · rcases List.mem_cons.mp hold with rfl | hbefore
        · refine .inr ⟨raw, List.mem_cons_self, (positiveInt_eq_some.mp hidentifier).1, ?_⟩
          rw [hcompany, not_not.mp hsame]
        · exact .inl hbefore
      · exact .inr ⟨row, List.mem_cons_of_mem _ hrow, hattributed⟩

theorem mem_partialLineIds {rows : List Payload} {lineIds : List Int}
    (hlineIds : partialLineIds rows = some lineIds) {row : Payload} (hrow : row ∈ rows)
    {lineId : Int} (hline : Field.relatedId (row.field "debit_move_id") = some lineId ∨
      Field.relatedId (row.field "credit_move_id") = some lineId) : lineId ∈ lineIds := by
  simp only [partialLineIds, Option.bind_eq_bind, Option.bind_eq_some_iff, Option.pure_def,
    Option.some.injEq] at hlineIds
  obtain ⟨sides, hsides, rfl⟩ := hlineIds
  obtain ⟨side, hside, hpair⟩ := exists_of_forall₂_left (forall₂_of_mapM hsides) hrow
  simp only [Option.bind_eq_some_iff, Option.some.injEq] at hpair
  obtain ⟨debit, hdebit, credit, hcredit, rfl⟩ := hpair
  rw [mem_sortedSet, List.mem_flatten]
  refine ⟨_, hside, ?_⟩
  rcases hline with hdebit' | hcredit'
  · rw [hdebit] at hdebit'
    cases hdebit'
    exact List.mem_cons_self
  · rw [hcredit] at hcredit'
    cases hcredit'
    exact List.mem_cons_of_mem _ List.mem_cons_self

/-- Rows that pass the validation have the lines on both of their sides attributed. -/
theorem attributed_of_validated {rows : List Payload} {companyId : Int} {trace : List OdooEvent}
    (hruns : Program.Runs (validatePartialReconciliationRows rows companyId) trace (.ok ()))
    {row : Payload} (hrow : row ∈ rows) {lineId : Int}
    (hline : Field.relatedId (row.field "debit_move_id") = some lineId ∨
      Field.relatedId (row.field "credit_move_id") = some lineId) :
    Attributed companyId trace lineId := by
  obtain ⟨lineIds, hlineIds, hruns⟩ := Program.runs_ofExcept_bind_ok.mp hruns
  have hmem := mem_partialLineIds (orRaise_ok.mp hlineIds) hrow hline
  rw [if_neg (List.ne_nil_of_mem hmem)] at hruns
  obtain ⟨⟨⟩, -, hruns⟩ := Program.runs_ofExcept_bind_ok.mp hruns
  obtain ⟨attribution, search, rest, rfl, hsearch, hrest⟩ := Program.runs_bind_ok.mp hruns
  obtain rfl := Program.runs_call.mp hsearch
  obtain ⟨attributed, hattributed, hrest⟩ := Program.runs_ofExcept_bind_ok.mp hrest
  obtain ⟨-, hsame⟩ := Program.runs_ofExcept.mp hrest
  rw [eq_comm, ensure_ok, decide_eq_true_eq] at hsame
  rw [← hsame, mem_sortedSet] at hmem
  rcases mem_attributedIds (orRaise_ok.mp hattributed) hmem with hnone | hfound
  · cases hnone
  · exact ⟨_, _, _, List.mem_append_left _ (List.mem_singleton.mpr rfl), hfound⟩

/-! ### Company isolation -/

/-- The answer to the page's own search listed the account, with the company among its own. -/
def ListedFor (companyId : Int) (trace : List OdooEvent) (accountId : Int) : Prop :=
  ∃ domain fields limit rows,
    (⟨.searchRead "account.account" domain fields limit 0 "id asc" [companyId], .ok rows⟩ :
      OdooEvent) ∈ trace ∧
    ∃ raw ∈ rows, (record raw).field "id" = .int accountId ∧
      ∃ companyIds, Field.manyPositiveIds ((record raw).field "company_ids") = some companyIds ∧
        companyId ∈ companyIds

/-- The record belongs to the company, as far as records of its kind belong to one. -/
def Isolated {α : Type} (companyId : Int) (trace : List OdooEvent) : PagedRead α → α → Prop
  | .accountMoves _, item => item.companyId = companyId
  | .accountMoveLines _, item => item.companyId = companyId
  | .partialReconciliations _, item =>
      Attributed companyId trace item.debitMoveLine.id ∧
        Attributed companyId trace item.creditMoveLine.id
  | .journals, item => item.companyId = companyId
  | .bankStatementLines _ _, item => item.companyId = companyId
  | .paymentTerms, item => item.companyId = none ∨ item.companyId = some companyId
  | .partners _, item => item.companyId = none ∨ item.companyId = some companyId
  | .products _, item => item.companyId = none ∨ item.companyId = some companyId
  | .accounts _, item => item.companyIds = [companyId] ∧ ListedFor companyId trace item.id
  | .analyticAccounts _, item => item.companyId = none ∨ item.companyId = some companyId
  | .currencies _, _ => True

section ReadPage

variable {α : Type} {model : String} {companyId : Int} {scope : List PyValue}
  {filters : List FilterClause} {request : PageRequest} {fields : List String}
  {normalize : Payload → Except PyException α} {enforceOutputScope : α → Except PyException α}
  {validateRows : List Payload → Int → Odoo Unit}

/-- Every item of a page is a row of the answer, normalized and then admitted to the company. -/
theorem exists_row_of_item {trace : List OdooEvent} {page : RecordPage α}
    (hruns : Program.Runs (reader.readPage model companyId scope filters request fields normalize
      enforceOutputScope validateRows) trace (.ok page)) {item : α} (hitem : item ∈ page.items) :
    ∃ domain rows validation raw normalized,
      trace = ⟨.searchRead model domain fields (request.limit + 1) 0 "id asc" [companyId],
        .ok rows⟩ :: validation ∧
      Program.Runs (validateRows ((rows.take request.limit).map record) companyId) validation
        (.ok ()) ∧
      raw ∈ rows.take request.limit ∧ normalize (record raw) = .ok normalized ∧
      enforceOutputScope normalized = .ok item := by
  obtain ⟨-, cursorId, filtered, rows, validation, -, -, htrace, hvalidation, ⟨of⟩⟩ :=
    reader.readPage_ok hruns
  obtain ⟨raw, hraw, hconvert⟩ := exists_of_forall₂_right of.converted hitem
  obtain ⟨normalized, hnormalized, henforced⟩ := except_bind_ok.mp hconvert
  exact ⟨_, rows, validation, raw, normalized, htrace, hvalidation, hraw, hnormalized, henforced⟩

theorem scoped_of_page {companyOf : α → Int} {trace : List OdooEvent} {page : RecordPage α}
    (hruns : Program.Runs (reader.readPage model companyId scope filters request fields normalize
      (enforceScoped companyOf companyId) validateRows) trace (.ok page)) {item : α}
    (hitem : item ∈ page.items) : companyOf item = companyId := by
  obtain ⟨_, _, _, _, _, -, -, -, -, henforced⟩ := exists_row_of_item hruns hitem
  obtain ⟨rfl, hcompany⟩ := enforceScoped_ok henforced
  exact hcompany

theorem optional_of_page {companyOf : α → Option Int} {trace : List OdooEvent}
    {page : RecordPage α}
    (hruns : Program.Runs (reader.readPage model companyId scope filters request fields normalize
      (enforceOptional companyOf companyId) validateRows) trace (.ok page)) {item : α}
    (hitem : item ∈ page.items) : companyOf item = none ∨ companyOf item = some companyId := by
  obtain ⟨_, _, _, _, _, -, -, -, -, henforced⟩ := exists_row_of_item hruns hitem
  obtain ⟨rfl, hcompany⟩ := enforceOptional_ok henforced
  exact hcompany

end ReadPage

theorem normalizeAccount_companyIds {row : Payload} {item : Account}
    (hitem : normalizeAccount row = .ok item) :
    Field.manyPositiveIds (row.field "company_ids") = some item.companyIds := by
  suffices hreturns : Returns (fun found =>
      Field.manyPositiveIds (row.field "company_ids") = some found.companyIds)
      (normalizeAccount row) from hreturns item hitem
  refine .orRaise (.bind fun identifier _ => ?_)
  refine .bind fun code _ => .bind fun name _ => .bind fun accountType _ => ?_
  refine .bind fun companyIds hcompanyIds => .bind fun currency _ => .bind fun reconcile _ => ?_
  exact .pure hcompanyIds

theorem normalizePartialReconciliation_sides {row : Payload} {item : PartialReconciliation}
    (hitem : normalizePartialReconciliation row = .ok item) :
    Field.relatedId (row.field "debit_move_id") = some item.debitMoveLine.id ∧
      Field.relatedId (row.field "credit_move_id") = some item.creditMoveLine.id := by
  suffices hreturns : Returns (fun found =>
      Field.relatedId (row.field "debit_move_id") = some found.debitMoveLine.id ∧
        Field.relatedId (row.field "credit_move_id") = some found.creditMoveLine.id)
      (normalizePartialReconciliation row) from hreturns item hitem
  refine .orRaise (.bind fun identifier _ => ?_)
  refine .bind fun debit hdebit => .bind fun credit hcredit => ?_
  repeat' refine .bind fun _ _ => ?_
  exact .pure ⟨by simp [Field.relatedId, hdebit], by simp [Field.relatedId, hcredit]⟩

/-- **Company isolation.** Every record of a returned page belongs to the company. -/
theorem isolated_pagedRead {α : Type} (read : PagedRead α) {companyId : Int}
    {request : PageRequest} {trace : List OdooEvent} {page : RecordPage α}
    (hruns : Program.Runs (reader.pagedRead read companyId request) trace (.ok page)) :
    ∀ item ∈ page.items, Isolated companyId trace read item := by
  intro item hitem
  cases read with
  | accountMoves filters => exact scoped_of_page hruns hitem
  | accountMoveLines filters => exact scoped_of_page hruns hitem
  | partialReconciliations filters =>
      obtain ⟨domain, rows, validation, raw, normalized, rfl, hvalidation, hraw, hnormalized,
        henforced⟩ := exists_row_of_item hruns hitem
      obtain rfl := enforceNothing_ok henforced
      obtain ⟨hdebit, hcredit⟩ := normalizePartialReconciliation_sides hnormalized
      have hrow := List.mem_map_of_mem (f := record) hraw
      have hattributed {event : OdooEvent} {lineId : Int}
          (hline : Attributed companyId validation lineId) :
          Attributed companyId (event :: validation) lineId := by
        obtain ⟨domain, limit, rows, hevent, hrow⟩ := hline
        exact ⟨domain, limit, rows, List.mem_cons_of_mem _ hevent, hrow⟩
      exact ⟨hattributed (attributed_of_validated hvalidation hrow (.inl hdebit)),
        hattributed (attributed_of_validated hvalidation hrow (.inr hcredit))⟩
  | journals => exact scoped_of_page hruns hitem
  | bankStatementLines period journalId =>
      obtain ⟨⟨⟩, -, hpage⟩ := Program.runs_ofExcept_bind_ok.mp hruns
      exact scoped_of_page hpage hitem
  | paymentTerms => exact optional_of_page hruns hitem
  | partners filters => exact optional_of_page hruns hitem
  | products filters => exact optional_of_page hruns hitem
  | accounts filters =>
      obtain ⟨domain, rows, validation, raw, normalized, rfl, hvalidation, hraw, hnormalized,
        henforced⟩ := exists_row_of_item hruns hitem
      obtain ⟨rfl, hcompany⟩ := enforceAccount_ok henforced
      exact ⟨rfl, _, _, _, rows, List.mem_cons_self, raw, List.mem_of_mem_take hraw,
        keepsId_normalizeAccount _ normalized hnormalized, _,
          normalizeAccount_companyIds hnormalized,
        hcompany⟩
  | analyticAccounts filters => exact optional_of_page hruns hitem
  | currencies currencyIds => trivial

/-! ### Companies that were not validated -/

theorem requireCompany_error {companyId : Int}
    (hcompany : ∀ validated ∈ reader.validatedCompanyIds, companyId ∉ validated) :
    ∃ error, reader.requireCompany companyId = .error error := by
  have hdenied : reader.validatedCompanyIds.any (fun validated => validated.contains companyId) =
      false := by
    rw [Option.any_eq_false]
    intro validated hvalidated
    simpa using hcompany validated hvalidated
  rw [requireCompany, hdenied, Bool.and_false]
  exact ⟨_, rfl⟩

theorem readPage_of_refused {α : Type} {model : String} {companyId : Int} {scope : List PyValue}
    {filters : List FilterClause} {request : PageRequest} {fields : List String}
    {normalize : Payload → Except PyException α} {enforceOutputScope : α → Except PyException α}
    {validateRows : List Payload → Int → Odoo Unit} {error : PyException}
    (herror : reader.requireCompany companyId = .error error) :
    reader.readPage model companyId scope filters request fields normalize enforceOutputScope
      validateRows = .raise error := by
  rw [readPage, herror]
  rfl

theorem refused_readPage {α : Type} {model : String} {companyId : Int} {scope : List PyValue}
    {filters : List FilterClause} {request : PageRequest} {fields : List String}
    {normalize : Payload → Except PyException α} {enforceOutputScope : α → Except PyException α}
    {validateRows : List Payload → Int → Odoo Unit}
    (hcompany : ∀ validated ∈ reader.validatedCompanyIds, companyId ∉ validated) :
    ∃ error, reader.readPage model companyId scope filters request fields normalize
      enforceOutputScope validateRows = .raise error := by
  obtain ⟨error, herror⟩ := requireCompany_error hcompany
  exact ⟨error, readPage_of_refused herror⟩

/-- A read for a company that was not validated raises an error and asks nothing. -/
theorem refused_pagedRead {α : Type} (read : PagedRead α) {companyId : Int}
    {request : PageRequest}
    (hcompany : ∀ validated ∈ reader.validatedCompanyIds, companyId ∉ validated) :
    ∃ error, reader.pagedRead read companyId request = .raise error := by
  have hafter {β : Type} (outcome : Except PyException Unit) {next : Unit → Odoo β}
      (hnext : ∃ error, next () = .raise error) :
      ∃ error, (Program.ofExcept outcome >>= next) = .raise error := by
    cases outcome with
    | ok value => exact hnext
    | error error => exact ⟨error, rfl⟩
  cases read with
  | bankStatementLines period journalId => exact hafter _ (refused_readPage hcompany)
  | currencies currencyIds =>
      obtain ⟨error, herror⟩ := refused_readPage hcompany
      refine hafter _ ⟨error, ?_⟩
      rw [herror]
      rfl
  | _ => exact refused_readPage hcompany

/-- **Paged reads are isolated by company.** Whatever Odoo answers, a paged read either raises an
error or returns a page whose records all belong to the company; and neither it nor the read of
currency rates makes a single request for a company that was not validated. -/
theorem paged_reads_isolated (reader : AccountingReader) (companyId : Int) (request : PageRequest) :
    (∀ {α : Type} (read : PagedRead α) (trace : List OdooEvent) (page : RecordPage α),
      Program.Runs (reader.pagedRead read companyId request) trace (.ok page) →
        ∀ item ∈ page.items, Isolated companyId trace read item) ∧
    ((∀ validated ∈ reader.validatedCompanyIds, companyId ∉ validated) →
      (∀ {α : Type} (read : PagedRead α) (trace : List OdooEvent)
          (result : Except PyException (RecordPage α)),
        Program.Runs (reader.pagedRead read companyId request) trace result →
          trace = [] ∧ ∃ error, result = .error error) ∧
      ∀ (currencyId : Int) (throughDate : Date) (trace : List OdooEvent)
          (result : Except PyException CurrencyRatePage),
        Program.Runs (reader.getCurrencyRates companyId currencyId throughDate request) trace
          result → trace = [] ∧ ∃ error, result = .error error) := by
  refine ⟨fun read trace page hruns => isolated_pagedRead read hruns, fun hcompany => ⟨?_, ?_⟩⟩
  · intro α read trace result hruns
    obtain ⟨error, herror⟩ := refused_pagedRead read hcompany
    rw [herror] at hruns
    obtain ⟨rfl, rfl⟩ := Program.runs_raise.mp hruns
    exact ⟨rfl, error, rfl⟩
  · intro currencyId throughDate trace result hruns
    obtain ⟨error, herror⟩ := requireCompany_error hcompany
    rw [getCurrencyRates, herror] at hruns
    obtain ⟨rfl, rfl⟩ := Program.runs_raise.mp hruns
    exact ⟨rfl, error, rfl⟩

end AccountingReader

end OdooMcp
