import Mathlib.Data.Prod.Lex
import OdooMcp.DecimalSums
import OdooMcp.Workflows.OffsetPages
import OdooMcp.Workflows.ReportReads

/-!
# The cashbook

The cashbook lists the posted lines of the cash accounts in a period, in some journals and with some
partners, with the balance before the period and after it. What it reads is filtered by Odoo and
again in memory. The opening is summed from balances, the closing from debits and credits: every
line is checked to balance, so that the periods follow one another as long as no sum is rounded.
-/

namespace OdooMcp

namespace Cashbook

open Arithmetic Effect Pagination

structure CashbookInput where
  companyId : Int
  limit : Nat
  cursor : Option String
  period : DatePeriod
  journalIds : List Int
  partnerIds : List Int
  limit_pos : 1 ≤ limit
  limit_le : limit ≤ 500
  cursor_le : ∀ text ∈ cursor, text.length ≤ 128
  journals_nodup : journalIds.Nodup
  partners_nodup : partnerIds.Nodup

/-- The same request with a cursor; pydantic rejects one that is too long. -/
def CashbookInput.withCursor (request : CashbookInput) (cursor : Option String) :
    Except PyException CashbookInput :=
  if cursor_le : ∀ text ∈ cursor, text.length ≤ 128 then
    .ok { request with cursor := cursor, cursor_le := cursor_le }
  else
    .error (valueError "String should have at most 128 characters")

structure CashbookItem where
  lineId : Int
  moveId : Int
  journalId : Int
  journalName : String
  date : Date
  partnerId : Option Int
  partnerName : Option String
  reference : Option String
  currencyId : Option Int
  currencyName : String
  debit : Decimal
  credit : Decimal
  amount : Decimal

structure CashbookSummary where
  transactionCount : Nat
  openingBalance : Decimal
  totalDebit : Decimal
  totalCredit : Decimal
  closingBalance : Decimal

structure CashbookResponse where
  companyId : Int
  period : DatePeriod
  items : List CashbookItem
  nextCursor : Option String
  summary : CashbookSummary

/-! ### Reads -/

inductive CashbookRead
  | journals
  | lines (filters : List FilterClause)

abbrev cashbookReads : Signature where
  Request := CashbookRead
  Result
    | .journals => List Journal
    | .lines _ => List AccountMoveLine

abbrev CashbookProgram (α : Type) := Program cashbookReads PyException α

def CashbookRead.perform (reader : AccountingReader) (companyId : Int) (fuel : Nat) :
    (read : CashbookRead) → Odoo (Option (cashbookReads.Result read))
  | .journals => (Cashbook.journals companyId).readAll reader companyId fuel
  | .lines filters => (Cashbook.lines companyId filters).readAll reader companyId fuel

/-! ### The report -/

def journalsUnavailable : PyException :=
  .odooMcpError ⟨.journalNotFound,
    "One or more requested cash or bank journals are unavailable.",
    "Use cash or bank journal IDs available to the authorized company."⟩

def cursorErrors : CursorErrors where
  invalid := .odooMcpError ⟨.invalidInput, "The pagination cursor is invalid.",
    "Restart the cashbook without a cursor."⟩
  outside := .odooMcpError ⟨.invalidInput, "The pagination cursor is outside this cashbook.",
    "Restart the cashbook without a cursor."⟩

def cashJournals (available : List Journal) : List Journal :=
  available.filter fun journal => ["bank", "cash"].contains journal.journalType

def chosenJournals (request : CashbookInput) (cash : List Journal) : List Int :=
  if request.journalIds.isEmpty then sortedSet (cash.map (·.id)) else request.journalIds

def clauses (request : CashbookInput) (journalIds : List Int) : List FilterClause :=
  [⟨"move_id.state", "=", .text "posted"⟩, ⟨"date", "<=", .date request.period.finish⟩,
      ⟨"journal_id", "in", .tuple (journalIds.map .int)⟩,
      ⟨"account_id.account_type", "=", .text "asset_cash"⟩] ++
    if request.partnerIds.isEmpty then []
    else [⟨"partner_id", "in", .tuple (request.partnerIds.map .int)⟩]

def readLines (request : CashbookInput) (journalIds : List Int) :
    CashbookProgram (List AccountMoveLine) :=
  if journalIds.isEmpty then .ret []
  else Program.call (S := cashbookReads) (.lines (clauses request journalIds))

def selects (request : CashbookInput) (journalIds : List Int) (line : AccountMoveLine) : Bool :=
  journalIds.contains line.journal.id && line.date.ordinal ≤ request.period.finish.ordinal &&
    (request.partnerIds.isEmpty ||
      line.partner.any fun partner => request.partnerIds.contains partner.id)

def isBefore (request : CashbookInput) (line : AccountMoveLine) : Bool :=
  line.date.ordinal < request.period.start.ordinal

def cashbookItem (cash : List Journal) (line : AccountMoveLine) :
    Except PyException CashbookItem := do
  let journal ← orRaise (cash.find? (·.id = line.journal.id)) (.exception "KeyError")
  return {
    lineId := line.id
    moveId := line.move.id
    journalId := line.journal.id
    journalName := journal.name
    date := line.date
    partnerId := line.partner.map (·.id)
    partnerName := line.partner.map (·.name)
    reference := line.label
    currencyId := none
    currencyName := "Company currency"
    debit := line.debit
    credit := line.credit
    amount := line.balance }

def itemOrder (item : CashbookItem) : Nat ×ₗ Int ×ₗ Int :=
  toLex (item.date.ordinal, toLex (item.moveId, item.lineId))

def sortedItems (items : List CashbookItem) : List CashbookItem :=
  items.insertionSort fun first second => itemOrder first ≤ itemOrder second

def summaryOf (opening : Decimal) (items : List CashbookItem) : CashbookSummary :=
  let debit := total (items.map (·.debit))
  let credit := total (items.map (·.credit))
  ⟨items.length, opening, debit, credit, sub (add opening debit) credit⟩

def cashbookOf (request : CashbookInput) (cash : List Journal) (lines : List AccountMoveLine) :
    Except PyException CashbookResponse := do
  let filtered := lines.filter (selects request (chosenJournals request cash))
  let opening := total ((filtered.filter (isBefore request)).map (·.balance))
  let items ← (filtered.filter fun line => !isBefore request line).mapM (cashbookItem cash)
  let sorted := sortedItems items
  let (selected, nextCursor) ← offsetPage cursorErrors sorted request.limit request.cursor
  return ⟨request.companyId, request.period, selected, nextCursor, summaryOf opening sorted⟩

/-- `get_cashbook` -/
def getCashbook (request : CashbookInput) : CashbookProgram CashbookResponse := do
  let available ← Program.call (S := cashbookReads) .journals
  let cash := cashJournals available
  Program.ofExcept (ensure (request.journalIds.all fun identifier =>
    (cash.map (·.id)).contains identifier) journalsUnavailable)
  let lines ← readLines request (chosenJournals request cash)
  Program.ofExcept (cashbookOf request cash lines)

/-! ### Books -/

structure Books where
  ledger : Ledger
  journals : List Journal
  journals_nodup : (journals.map (·.id)).Nodup

def consistent (companyId : Int) (line : AccountMoveLine) : Bool :=
  line.companyId = companyId && Decimal.zero.le line.debit && Decimal.zero.le line.credit &&
    line.balance.same (line.debit.sub line.credit)

/-- Whatever Odoo answers, the lines that the loop returns are consistent, and not too many. -/
theorem lines_of_readAll {reader : AccountingReader} {companyId : Int} {filters : List FilterClause}
    {fuel : Nat} {trace : List OdooEvent} {found : List AccountMoveLine}
    (hruns : Program.Runs ((lines companyId filters).readAll reader companyId fuel) trace
      (.ok (some found))) :
    (∀ line ∈ found, consistent companyId line = true) ∧ found.length ≤ 100000 := by
  obtain ⟨result, hfound, hresult⟩ := PageLoop.run_of_readAll hruns
  have hadd {state : PageState AccountMoveLine} {events : List OdooEvent}
      (turn : PageLoop.Turn (lines companyId filters) reader companyId state events)
      (hstate : ∀ line ∈ state.items, consistent companyId line = true) :
      ∀ line ∈ ((lines companyId filters).add state turn.page).items,
        consistent companyId line = true := by
    obtain ⟨⟨⟩, -, hchecked⟩ := except_bind_ok.mp turn.checked
    rw [ensure_ok, Bool.and_eq_true, List.all_eq_true] at hchecked
    intro line hline
    rcases List.mem_append.mp hline with hold | hnew
    · exact hstate line hold
    · have hboth := hchecked.2 line (List.mem_of_mem_filter hnew)
      rw [Bool.and_eq_true] at hboth
      exact hboth.1
  match result, hresult with
  | .ok (some last), hresult =>
      cases hresult
      refine Program.loop_state_invariant
        (fun state => ∀ line ∈ state.items, consistent companyId line = true)
        (fun state => (∀ line ∈ state.items, consistent companyId line = true) ∧
          state.items.length ≤ 100000) ?_ ?_ (by simp [PageState.start]) hfound
      · intro state events next hstate hagain
        obtain ⟨turn, cursor, -, -, rfl⟩ := PageLoop.again_of_runs hagain
        exact hadd turn hstate
      · intro state events last hstate hleave
        obtain ⟨turn, -, rfl⟩ := PageLoop.leave_of_runs hleave
        exact ⟨hadd turn hstate, turn.within⟩

namespace Books

variable (books : Books)

/-- Whether a line passes a clause, as Odoo reads it. -/
def linePasses (line : AccountMoveLine) (clause : FilterClause) : Bool :=
  match clause.field, clause.operator, clause.value with
  | "journal_id", "in", ids => ids.containsId line.journal.id
  | _, _, _ => books.ledger.linePasses line clause

/-- What the loops return where Odoo has these books: the records that pass, if none is rejected. -/
def source (companyId : Int) :
    (read : CashbookRead) → Except PyException (cashbookReads.Result read)
  | .journals => do
      ensure (books.journals.all fun journal => journal.companyId = companyId)
        journalErrors.inconsistent
      ensure (books.journals.length ≤ 100000) journalErrors.tooMany
      return books.journals
  | .lines filters => do
      let found := books.ledger.lines.filter fun line => filters.all (books.linePasses line)
      ensure (found.all (consistent companyId)) lineErrors.inconsistent
      ensure (found.length ≤ 100000) lineErrors.tooMany
      return found

def cashbook (request : CashbookInput) : Except PyException CashbookResponse :=
  (getCashbook request).evaluate (books.source request.companyId)

def fetch (request : CashbookInput) (cursor : Option String) :
    Except PyException CashbookResponse := do
  books.cashbook (← request.withCursor cursor)

def chosen (request : CashbookInput) : List Int :=
  chosenJournals request (cashJournals books.journals)

/-- The posted lines of the cash accounts up to the end of the period that pass the filters. -/
def filtered (request : CashbookInput) : List AccountMoveLine :=
  books.ledger.lines.filter fun line => line.moveState = .posted &&
    books.ledger.accountType? line.account.id = some "asset_cash" &&
      selects request (books.chosen request) line

def linesBefore (request : CashbookInput) : List AccountMoveLine :=
  (books.filtered request).filter (isBefore request)

def periodLines (request : CashbookInput) : List AccountMoveLine :=
  (books.filtered request).filter fun line => !isBefore request line

variable {books} {request : CashbookInput}

theorem filter_clauses :
    (books.ledger.lines.filter fun line =>
      (clauses request (books.chosen request)).all (books.linePasses line)) =
        books.filtered request := by
  refine List.filter_congr fun line _ => ?_
  unfold clauses selects
  rw [Bool.eq_iff_iff]
  cases hids : request.partnerIds.isEmpty with
  | true =>
      simp [linePasses, Ledger.linePasses, text_posted, containsId_tuple]
      tauto
  | false =>
      simp [linePasses, Ledger.linePasses, text_posted, containsId_eq]
      tauto

theorem filtered_of_none (hnone : books.chosen request = []) : books.filtered request = [] := by
  rw [filtered, List.filter_eq_nil_iff]
  intro line _ hselected
  simp only [selects, hnone, List.contains_nil, Bool.false_and, Bool.and_false, Bool.false_eq_true]
    at hselected

/-- The reads of the request are accepted, whatever its cursor. -/
structure Readable (books : Books) (request : CashbookInput) : Prop where
  journals : books.source request.companyId .journals = .ok books.journals
  requested : (request.journalIds.all fun identifier =>
    ((cashJournals books.journals).map (·.id)).contains identifier) = true
  consistent : ∀ line ∈ books.filtered request, consistent request.companyId line = true
  bounded : (books.filtered request).length ≤ 100000

theorem journals_of_source {companyId : Int} {found : List Journal}
    (hfound : books.source companyId .journals = .ok found) : found = books.journals := by
  obtain ⟨⟨⟩, -, hrest⟩ := except_bind_ok.mp hfound
  obtain ⟨⟨⟩, -, hdone⟩ := except_bind_ok.mp hrest
  exact (Except.ok.inj hdone).symm

theorem lines_of_source :
    books.source request.companyId (.lines (clauses request (books.chosen request))) = do
      ensure ((books.filtered request).all (consistent request.companyId)) lineErrors.inconsistent
      ensure ((books.filtered request).length ≤ 100000) lineErrors.tooMany
      return books.filtered request := by
  unfold source
  dsimp only
  rw [filter_clauses]

theorem readLines_ok {found : List AccountMoveLine} :
    (readLines request (books.chosen request)).evaluate (books.source request.companyId) =
        .ok found ↔
      found = books.filtered request ∧
        (∀ line ∈ books.filtered request, consistent request.companyId line = true) ∧
        (books.filtered request).length ≤ 100000 := by
  unfold readLines
  cases hids : (books.chosen request).isEmpty with
  | true =>
      rw [if_pos rfl, filtered_of_none (List.isEmpty_iff.mp hids)]
      constructor
      · intro hfound
        exact ⟨(Except.ok.inj hfound).symm, fun _ hline => (nomatch hline), Nat.zero_le _⟩
      · rintro ⟨rfl, -, -⟩
        rfl
  | false =>
      rw [if_neg Bool.false_ne_true, Program.evaluate_call, lines_of_source]
      constructor
      · intro hfound
        obtain ⟨⟨⟩, hconsistent, hrest⟩ := except_bind_ok.mp hfound
        obtain ⟨⟨⟩, hbounded, hdone⟩ := except_bind_ok.mp hrest
        rw [ensure_ok] at hconsistent hbounded
        exact ⟨(Except.ok.inj hdone).symm, List.all_eq_true.mp hconsistent,
          of_decide_eq_true hbounded⟩
      · rintro ⟨rfl, hconsistent, hbounded⟩
        exact except_bind_ok.mpr ⟨(), ensure_ok.mpr (List.all_eq_true.mpr hconsistent),
          except_bind_ok.mpr ⟨(), ensure_ok.mpr (decide_eq_true hbounded), rfl⟩⟩

theorem cashbook_ok {response : CashbookResponse} :
    books.cashbook request = .ok response ↔
      books.Readable request ∧
        cashbookOf request (cashJournals books.journals) (books.filtered request) =
          .ok response := by
  unfold cashbook getCashbook
  rw [Program.evaluate_bind_ok]
  constructor
  · rintro ⟨available, havailable, hrest⟩
    rw [Program.evaluate_call] at havailable
    obtain rfl := journals_of_source havailable
    obtain ⟨⟨⟩, hrequested, hrest⟩ := Program.evaluate_bind_ok.mp hrest
    obtain ⟨found, hfound, hdone⟩ := Program.evaluate_bind_ok.mp hrest
    rw [Program.evaluate_ofExcept, ensure_ok] at hrequested
    rw [Program.evaluate_ofExcept] at hdone
    obtain ⟨rfl, hconsistent, hbounded⟩ := readLines_ok.mp hfound
    exact ⟨⟨havailable, hrequested, hconsistent, hbounded⟩, hdone⟩
  · rintro ⟨hreadable, hdone⟩
    refine ⟨books.journals, ?_, Program.evaluate_bind_ok.mpr ⟨(), ?_,
      Program.evaluate_bind_ok.mpr ⟨books.filtered request, ?_, ?_⟩⟩⟩
    · rw [Program.evaluate_call]
      exact hreadable.journals
    · rw [Program.evaluate_ofExcept, ensure_ok]
      exact hreadable.requested
    · exact readLines_ok.mpr ⟨rfl, hreadable.consistent, hreadable.bounded⟩
    · rw [Program.evaluate_ofExcept]
      exact hdone

/-! ### Items -/

structure Shows (line : AccountMoveLine) (item : CashbookItem) : Prop where
  lineId : item.lineId = line.id
  debit : item.debit = line.debit
  credit : item.credit = line.credit
  amount : item.amount = line.balance

theorem shows_of_ok {cash : List Journal} {line : AccountMoveLine} {item : CashbookItem}
    (hitem : cashbookItem cash line = .ok item) : Shows line item := by
  obtain ⟨journal, -, hdone⟩ := except_bind_ok.mp hitem
  cases hdone
  exact ⟨rfl, rfl, rfl, rfl⟩

theorem map_of_shows {lines : List AccountMoveLine} {items : List CashbookItem} {β : Type}
    {ofItem : CashbookItem → β} {ofLine : AccountMoveLine → β}
    (hfield : ∀ line item, Shows line item → ofItem item = ofLine line)
    (hshows : List.Forall₂ Shows lines items) : items.map ofItem = lines.map ofLine := by
  induction hshows with
  | nil => rfl
  | cons hshow _ ih => rw [List.map_cons, List.map_cons, hfield _ _ hshow, ih]

/-- What the cashbook is made of: the items of the lines in the period, sorted. -/
structure MadeOf (books : Books) (request : CashbookInput) (items : List CashbookItem) : Prop where
  readable : books.Readable request
  made : ((books.periodLines request).mapM (cashbookItem (cashJournals books.journals))) = .ok items

def opening (books : Books) (request : CashbookInput) : Decimal :=
  total ((books.linesBefore request).map (·.balance))

theorem cashbookOf_filtered :
    cashbookOf request (cashJournals books.journals) (books.filtered request) = do
      let items ← (books.periodLines request).mapM (cashbookItem (cashJournals books.journals))
      let sorted := sortedItems items
      let (selected, nextCursor) ← offsetPage cursorErrors sorted request.limit request.cursor
      return ⟨request.companyId, request.period, selected, nextCursor,
        summaryOf (opening books request) sorted⟩ := by
  have hself : (books.filtered request).filter
      (selects request (chosenJournals request (cashJournals books.journals))) =
        books.filtered request := by
    refine List.filter_eq_self.mpr fun line hline => ?_
    have hselected := (List.mem_filter.mp hline).2
    rw [Bool.and_eq_true, Bool.and_eq_true] at hselected
    exact hselected.2
  unfold cashbookOf
  rw [hself]
  rfl

theorem madeOf_ok {response : CashbookResponse}
    (hresponse : books.cashbook request = .ok response) :
    ∃ items, MadeOf books request items ∧
      response.summary = summaryOf (opening books request) (sortedItems items) := by
  obtain ⟨hreadable, hdone⟩ := cashbook_ok.mp hresponse
  rw [cashbookOf_filtered] at hdone
  obtain ⟨items, hitems, hrest⟩ := except_bind_ok.mp hdone
  obtain ⟨answer, -, hmade⟩ := except_bind_ok.mp hrest
  cases hmade
  exact ⟨items, ⟨hreadable, hitems⟩, rfl⟩

section Pages

variable {items : List CashbookItem}

theorem fetch_of_page (hmade : MadeOf books request items) {cursor : Option String}
    (hcursor : ∀ text ∈ cursor, text.length ≤ 128) {answer : List CashbookItem × Option String}
    (hanswer : offsetPage cursorErrors (sortedItems items) request.limit cursor = .ok answer) :
    books.fetch request cursor = .ok ⟨request.companyId, request.period, answer.1, answer.2,
      summaryOf (opening books request) (sortedItems items)⟩ := by
  have hreadable := hmade.readable
  unfold fetch CashbookInput.withCursor
  rw [dif_pos hcursor]
  refine cashbook_ok.mpr ⟨⟨hreadable.journals, hreadable.requested, hreadable.consistent,
    hreadable.bounded⟩, ?_⟩
  rw [cashbookOf_filtered]
  exact except_bind_ok.mpr ⟨items, hmade.made, except_bind_ok.mpr ⟨answer, hanswer, rfl⟩⟩

theorem length_items (hmade : MadeOf books request items) : items.length ≤ 100000 := by
  rw [← (forall₂_of_mapM_ok hmade.made).length_eq]
  exact (List.length_filter_le _ _).trans hmade.readable.bounded

theorem length_sortedItems : (sortedItems items).length = items.length :=
  List.length_insertionSort _ _

/-- The cursors of the cashbook stand for the offsets into its items. -/
theorem byOffset_fetch (hmade : MadeOf books request items) :
    ByOffset (books.fetch request) (·.items) (·.nextCursor) (sortedItems items) request.limit
      offsetCursor := by
  have hbounded : (sortedItems items).length ≤ sysMaxsize := by
    rw [length_sortedItems]
    exact (length_items hmade).trans (by decide)
  have hpages : ByOffset (offsetPage cursorErrors (sortedItems items) request.limit) Prod.fst
      Prod.snd (sortedItems items) request.limit offsetCursor := byOffset_offsetPage hbounded
  constructor
  · obtain ⟨answer, hanswer, hat⟩ := hpages.first
    exact ⟨_, fetch_of_page hmade (by simp) hanswer, hat.items_eq, hat.next_eq⟩
  · intro offset hpositive hlt
    obtain ⟨answer, hanswer, hat⟩ := hpages.later offset hpositive hlt
    have hcursor : ∀ text ∈ some (offsetCursor offset), text.length ≤ 128 := by
      rintro text ⟨⟩
      exact length_offsetCursor (Nat.lt_of_lt_of_le hlt hbounded)
    exact ⟨_, fetch_of_page hmade hcursor hanswer, hat.items_eq, hat.next_eq⟩

theorem summary_of_fetch (hmade : MadeOf books request items) {cursor : Option String}
    {page : CashbookResponse} (hpage : books.fetch request cursor = .ok page) :
    page.summary = summaryOf (opening books request) (sortedItems items) := by
  obtain ⟨renewed, hrenewed, hpage⟩ := except_bind_ok.mp hpage
  unfold CashbookInput.withCursor at hrenewed
  split at hrenewed
  · cases hrenewed
    obtain ⟨others, hothers, hsummary⟩ := madeOf_ok hpage
    have hsame : Except.ok others = Except.ok items := hothers.made.symm.trans hmade.made
    cases hsame
    exact hsummary
  · cases hrenewed

end Pages

end Books

end Cashbook

end OdooMcp
