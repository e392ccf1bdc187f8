import Mathlib.Data.Prod.Lex
import OdooMcp.Adapters.PayrollPages
import OdooMcp.CursorFields
import OdooMcp.Server.AccountingWrite
import OdooMcp.Workflows.ReadAll
import OdooMcp.Workflows.ReportReads

/-!
# The listing of journal entries

The entries of a period are listed in pages, and each entry with the first of its lines. Two kinds
of cursors go on from there: one to the next entries, the other to the next lines of one entry.
-/

namespace OdooMcp

namespace Journals

open Effect

def linePageSize : Nat := 100

structure JournalEntriesInput where
  companyId : Int
  limit : Nat
  cursor : Option String
  period : DatePeriod
  journalIds : List Int
  states : List MoveState
  limit_pos : 1 ≤ limit
  limit_le : limit ≤ 500
  cursor_le : ∀ text ∈ cursor, text.length ≤ 128
  journals_nodup : journalIds.Nodup
  states_nodup : states.Nodup

/-- The same request with a cursor; pydantic rejects one that is too long. -/
def JournalEntriesInput.withCursor (request : JournalEntriesInput) (cursor : Option String) :
    Except PyException JournalEntriesInput :=
  if cursor_le : ∀ text ∈ cursor, text.length ≤ 128 then
    .ok { request with cursor := cursor, cursor_le := cursor_le }
  else
    .error (valueError "String should have at most 128 characters")

structure JournalEntryLineItem where
  lineId : Int
  accountId : Int
  accountName : String
  partnerId : Option Int
  partnerName : Option String
  description : Option String
  debit : Decimal
  credit : Decimal
  analyticIds : List Int

structure JournalEntryItem where
  moveId : Int
  name : String
  date : Date
  journalId : Int
  journalName : String
  state : String
  reference : Option String
  currencyId : Int
  currencyName : String
  totalDebit : Decimal
  totalCredit : Decimal
  lines : List JournalEntryLineItem
  linesTruncated : Bool
  linesCursor : Option String

structure JournalEntriesSummary where
  entryCount : Nat
  draftCount : Nat
  postedCount : Nat

structure JournalEntriesResponse where
  companyId : Int
  period : DatePeriod
  items : List JournalEntryItem
  nextCursor : Option String
  summary : JournalEntriesSummary

/-! ### Cursors -/

inductive ListingCursor
  | entries (offset : Nat)
  | lines (moveId : Int) (offset : Nat)

def cursorFields (kind : String) (values : List Int) : List (List Char) :=
  "v1".toList :: kind.toList :: values.map fun value => (toString value).toList

/-- `_encode_cursor` -/
def encodeCursor (kind : String) (values : List Int) : String :=
  fieldsText (cursorFields kind values)

def ListingCursor.text : ListingCursor → String
  | .entries offset => encodeCursor "entries" [offset]
  | .lines moveId offset => encodeCursor "lines" [moveId, offset]

def invalidCursor : PyException :=
  .odooMcpError ⟨.invalidInput, "The pagination cursor is invalid.",
    "Restart the journal listing without a cursor."⟩

/-- `_decode_cursor` -/
def decodeCursor : Option String → Except PyException ListingCursor
  | none => .ok (.entries 0)
  | some cursor => do
      let payload ← orRaise ((Base64.decode cursor.toList).bind Base64.utf8) invalidCursor
      let parts := payload.splitOn ':'
      let values ← orRaise ((parts.drop 2).mapM fun value =>
        Decimal.parseInt? (String.ofList value)) invalidCursor
      ensure (parts[0]? = some "v1".toList) invalidCursor
      match parts[1]?.map String.ofList, values with
      | some "entries", [offset] => do
          ensure (0 ≤ offset) invalidCursor
          return .entries offset.toNat
      | some "lines", [moveId, offset] => do
          ensure (0 < moveId && 0 < offset) invalidCursor
          return .lines moveId offset.toNat
      | _, _ => throw invalidCursor

/-! ### Items -/

/-- A line as it is shown, with the analytic accounts of its distribution. -/
def lineItemWith (line : JournalEntryLine) (analyticIds : List Int) : JournalEntryLineItem where
  lineId := line.id
  accountId := line.account.id
  accountName := line.account.name
  partnerId := line.partner.map (·.id)
  partnerName := line.partner.map (·.name)
  description := line.description
  debit := line.debit
  credit := line.credit
  analyticIds := analyticIds

/-- `_line_item` -/
def journalLineItem (line : JournalEntryLine) : Except PyException JournalEntryLineItem := do
  return lineItemWith line (← analyticIds line.analyticDistribution)

/-- An entry as it is shown, with the items of its lines from an offset on. -/
def entryItemWith (entry : JournalEntry) (lineOffset : Nat) (items : List JournalEntryLineItem) :
    JournalEntryItem :=
  let nextOffset := lineOffset + items.length
  { moveId := entry.id
    name := entry.name
    date := entry.date
    journalId := entry.journal.id
    journalName := entry.journal.name
    state := entry.state
    reference := entry.reference
    currencyId := entry.currency.id
    currencyName := entry.currency.name
    totalDebit := sumDecimals (entry.lines.map (·.debit))
    totalCredit := sumDecimals (entry.lines.map (·.credit))
    lines := items
    linesTruncated := nextOffset < entry.lines.length
    linesCursor := if nextOffset < entry.lines.length then
      some (ListingCursor.lines entry.id nextOffset).text else none }

/-- `_entry_item` -/
def entryItem (entry : JournalEntry) (lineOffset : Nat) : Except PyException JournalEntryItem := do
  let items ← ((entry.lines.drop lineOffset).take linePageSize).mapM journalLineItem
  ensure (["draft", "posted"].contains entry.state)
    (valueError "validation error for JournalEntryItem")
  return entryItemWith entry lineOffset items

/-! ### Reads -/

inductive JournalRead
  | moves (filters : List FilterClause)
  | entry (moveId : Int)

abbrev journalReads : Signature where
  Request := JournalRead
  Result
    | .moves _ => List AccountMove
    | .entry _ => JournalEntry

abbrev JournalProgram (α : Type) := Program journalReads PyException α

/-- How a read is made: the moves by the loop over their pages, an entry by the reader. -/
def JournalRead.perform (reader : AccountingReader) (companyId : Int) (fuel : Nat) :
    (read : JournalRead) → Odoo (Option (journalReads.Result read))
  | .moves filters => (Journals.moves filters).readAll reader companyId fuel
  | .entry moveId => some <$> reader.getJournalEntry companyId moveId

/-- The moves of the loop have distinct ids, and are not too many. -/
theorem moves_of_readAll {reader : AccountingReader} {companyId : Int} {filters : List FilterClause}
    {fuel : Nat} {trace : List OdooEvent} {found : List AccountMove}
    (hruns : Program.Runs ((moves filters).readAll reader companyId fuel) trace
      (.ok (some found))) :
    (found.map (·.id)).Pairwise (· < ·) ∧ found.length ≤ 100000 := by
  obtain ⟨result, hfound, hresult⟩ := PageLoop.run_of_readAll hruns
  match result, hresult with
  | .ok (some last), hresult =>
      cases hresult
      exact ⟨PageLoop.pairwise_of_run (PageLoop.ordered_start _) hfound,
        PageLoop.length_of_run hfound⟩

/-- The lines of an entry are in the order of their ids, and not too many. -/
theorem lines_of_getJournalEntry {reader : AccountingReader} {companyId moveId : Int}
    {trace : List OdooEvent} {entry : JournalEntry}
    (hruns : Program.Runs (reader.getJournalEntry companyId moveId) trace (.ok entry)) :
    entry.id = moveId ∧ (entry.lines.map (·.id)).Pairwise (· < ·) ∧ entry.lines.length ≤ 10000 := by
  obtain ⟨⟨⟩, -, hruns⟩ := Program.runs_ofExcept_bind_ok.mp hruns
  obtain ⟨⟨⟩, -, hruns⟩ := Program.runs_ofExcept_bind_ok.mp hruns
  obtain ⟨request, -, hruns⟩ := Program.runs_ofExcept_bind_ok.mp hruns
  obtain ⟨moves, -, after, -, -, hruns⟩ := Program.runs_bind_ok.mp hruns
  obtain ⟨move, -, hruns⟩ := Program.runs_ofExcept_bind_ok.mp hruns
  obtain ⟨⟨⟩, hsame, hruns⟩ := Program.runs_ofExcept_bind_ok.mp hruns
  obtain ⟨read, during, rest, -, hread, hruns⟩ := Program.runs_bind_ok.mp hruns
  obtain ⟨-, hentry⟩ := Program.runs_ret.mp hruns
  cases hentry
  rw [ensure_ok] at hsame
  refine ⟨of_decide_eq_true hsame, ?_⟩
  have hloop : Program.Runs ((reader.journalEntryLines companyId moveId [] none).bind
      fun lines => .ret (some lines)) (during ++ []) (.ok (some read)) :=
    Program.runs_bind_ok.mpr ⟨read, during, [], rfl, hread, Program.runs_ret.mpr ⟨rfl, rfl⟩⟩
  have hsteps : (reader.journalEntryLines companyId moveId [] none).bind
      (fun lines => .ret (some lines)) =
      ((entryLines moveId).run reader companyId 10001 .start).bind
        fun found =>
          .ret (found.map fun last => last.items.map AccountingReader.journalEntryLine) :=
    journalEntryLines_eq 10001 .start (by decide)
  rw [hsteps] at hloop
  obtain ⟨found, before, after, -, hfound, hitems⟩ := Program.runs_bind_ok.mp hloop
  obtain ⟨-, hitems⟩ := Program.runs_ret.mp hitems
  cases found with
  | none => cases hitems
  | some last =>
      cases hitems
      have hordered := PageLoop.pairwise_of_run (PageLoop.ordered_start _) hfound
      refine ⟨?_, ?_⟩
      · rw [List.map_map]
        exact hordered
      · rw [List.length_map]
        exact PageLoop.length_of_run hfound

/-! ### The listing -/

def clauses (request : JournalEntriesInput) : List FilterClause :=
  [⟨"move_type", "=", .text "entry"⟩, ⟨"date", ">=", .date request.period.start⟩,
      ⟨"date", "<=", .date request.period.finish⟩] ++
    (if request.journalIds.isEmpty then []
    else [⟨"journal_id", "in", .tuple (request.journalIds.map .int)⟩]) ++
    [⟨"state", "in", .tuple ((if request.states.isEmpty then [.draft, .posted]
      else request.states).map fun state => .text state.text)⟩]

def moveOrder (move : AccountMove) : Nat ×ₗ Int := toLex (move.date.ordinal, move.id)

def sortedMoves (moves : List AccountMove) : List AccountMove :=
  moves.insertionSort fun first second => moveOrder first ≤ moveOrder second

def summaryOf (moves : List AccountMove) : JournalEntriesSummary :=
  ⟨moves.length, moves.countP (·.state = "draft"), moves.countP (·.state = "posted")⟩

def cursorOutside (subject : String) : PyException :=
  .odooMcpError ⟨.invalidInput, subject, "Restart the journal listing without a cursor."⟩

def linesPage (moves : List AccountMove) (moveId : Int) (offset : Nat) :
    JournalProgram (List JournalEntryItem × Option String) := do
  Program.ofExcept (ensure ((moves.map (·.id)).contains moveId)
    (cursorOutside "The line cursor is outside this journal listing."))
  let entry ← Program.call (S := journalReads) (.entry moveId)
  Program.ofExcept (ensure (offset < entry.lines.length)
    (cursorOutside "The line cursor is outside this journal entry."))
  let item ← Program.ofExcept (entryItem entry offset)
  return ([item], none)

def readEntries : List AccountMove → JournalProgram (List JournalEntry)
  | [] => .ret []
  | move :: rest => do
      let entry ← Program.call (S := journalReads) (.entry move.id)
      return entry :: (← readEntries rest)

def entriesPage (moves : List AccountMove) (limit offset : Nat) :
    JournalProgram (List JournalEntryItem × Option String) := do
  Program.ofExcept (ensure (offset ≤ moves.length)
    (cursorOutside "The pagination cursor is outside this journal listing."))
  let selected := (moves.drop offset).take limit
  let entries ← readEntries selected
  let items ← Program.ofExcept (entries.mapM fun entry => entryItem entry 0)
  let nextOffset := offset + selected.length
  return (items,
    if nextOffset < moves.length then some (ListingCursor.entries nextOffset).text else none)

/-- `list_journal_entries` -/
def listJournalEntries (request : JournalEntriesInput) :
    JournalProgram JournalEntriesResponse := do
  let found ← Program.call (S := journalReads) (.moves (clauses request))
  let moves := sortedMoves found
  let cursor ← Program.ofExcept (decodeCursor request.cursor)
  let (items, nextCursor) ← match cursor with
    | .entries offset => entriesPage moves request.limit offset
    | .lines moveId offset => linesPage moves moveId offset
  return ⟨request.companyId, request.period, items, nextCursor, summaryOf moves⟩

end Journals

end OdooMcp
