import OdooMcp.Pagination
import OdooMcp.Workflows.JournalListing

/-!
# Following the two cursors

The cursors of the listing stand for offsets into its entries, those of an entry for offsets into
its lines. Both chains end, and together they visit every line of every entry once, in the order of
the ids, as long as the listing refuses no entry.
-/

namespace OdooMcp

namespace Journals

open Effect Pagination

/-! ### Cursors -/

section Cursors

variable (kind : String) (values : List Nat)

theorem plain_cursorFields (hkind : PlainField kind.toList) :
    ∀ field ∈ cursorFields kind (values.map Nat.cast), PlainField field := by
  intro field hfield
  simp only [cursorFields, List.mem_cons, List.map_map, List.mem_map] at hfield
  rcases hfield with rfl | rfl | ⟨value, -, rfl⟩
  · decide
  · exact hkind
  · exact plainField_repr value

theorem mapM_parseInt? (hheld : ∀ value ∈ values, Held value) :
    ((cursorFields kind (values.map Nat.cast)).drop 2).mapM (fun value =>
      Decimal.parseInt? (String.ofList value)) = some (values.map Nat.cast) := by
  change ((values.map Nat.cast).map fun value : Int => (toString value).toList).mapM _ = _
  induction values with
  | nil => rfl
  | cons value values ih =>
      obtain ⟨hvalue, hvalues⟩ := List.forall_mem_cons.mp hheld
      have hparsed : Decimal.parseInt? (String.ofList (toString (value : Int)).toList) =
          some (value : Int) := parseInt?_of_held hvalue
      rw [List.map_cons, List.map_cons, List.mapM_cons, hparsed, ih hvalues]
      rfl

/-- What a cursor holds is read back. -/
theorem reads_encodeCursor (hkind : PlainField kind.toList)
    (hheld : ∀ value ∈ values, Held value) :
    ∃ payload,
      (Base64.decode (encodeCursor kind (values.map Nat.cast)).toList).bind Base64.utf8 =
        some payload ∧
      (((payload.splitOn ':').drop 2).mapM fun value =>
        Decimal.parseInt? (String.ofList value)) = some (values.map Nat.cast) ∧
      (payload.splitOn ':')[0]? = some "v1".toList ∧
      (payload.splitOn ':')[1]?.map String.ofList = some kind := by
  obtain ⟨payload, hpayload, hsplit⟩ :=
    splitOn_fieldsText (plain_cursorFields kind values hkind) (List.cons_ne_nil _ _)
  refine ⟨payload, hpayload, ?_⟩
  rw [hsplit]
  exact ⟨mapM_parseInt? kind values hheld, rfl, congrArg some String.ofList_toList⟩

theorem decodeCursor_entries {offset : Nat} (hoffset : Held offset) :
    decodeCursor (some (ListingCursor.entries offset).text) = .ok (.entries offset) := by
  have hplain : PlainField "entries".toList := by decide
  obtain ⟨payload, hpayload, hvalues, hversion, hkind⟩ :=
    reads_encodeCursor "entries" [offset] hplain (by simpa using hoffset)
  refine except_bind_ok.mpr ⟨payload, orRaise_ok.mpr hpayload, except_bind_ok.mpr
    ⟨[(offset : Int)], orRaise_ok.mpr hvalues, except_bind_ok.mpr
      ⟨(), ensure_ok.mpr (decide_eq_true hversion), ?_⟩⟩⟩
  rw [hkind]
  exact except_bind_ok.mpr ⟨(), ensure_ok.mpr (decide_eq_true (Int.natCast_nonneg offset)), rfl⟩

theorem decodeCursor_lines {moveId : Int} {offset : Nat} (hmove : 0 < moveId)
    (hheld : Held moveId.toNat) (hpositive : 0 < offset) (hoffset : Held offset) :
    decodeCursor (some (ListingCursor.lines moveId offset).text) = .ok (.lines moveId offset) := by
  obtain ⟨identifier, rfl⟩ := Int.eq_ofNat_of_zero_le hmove.le
  have hplain : PlainField "lines".toList := by decide
  obtain ⟨payload, hpayload, hvalues, hversion, hkind⟩ :=
    reads_encodeCursor "lines" [identifier, offset] hplain (by simpa using ⟨hheld, hoffset⟩)
  refine except_bind_ok.mpr ⟨payload, orRaise_ok.mpr hpayload, except_bind_ok.mpr
    ⟨[(identifier : Int), (offset : Int)], orRaise_ok.mpr hvalues, except_bind_ok.mpr
      ⟨(), ensure_ok.mpr (decide_eq_true hversion), ?_⟩⟩⟩
  rw [hkind]
  refine except_bind_ok.mpr ⟨(), ensure_ok.mpr ?_, rfl⟩
  rw [Bool.and_eq_true, decide_eq_true_eq, decide_eq_true_eq]
  exact ⟨hmove, by exact_mod_cast hpositive⟩

theorem sum_digits_le (hheld : ∀ value ∈ values, Held value) :
    (((values.map Nat.cast).map fun value : Int => (toString value).toList).map
      fun field => field.length + 1).sum ≤ 20 * values.length := by
  induction values with
  | nil => exact Nat.zero_le _
  | cons value values ih =>
      obtain ⟨hvalue, hvalues⟩ := List.forall_mem_cons.mp hheld
      have hdigits : (toString (value : Int)).toList.length ≤ 19 := by
        rw [String.length_toList]
        exact digits_of_held hvalue
      have hrest := ih hvalues
      rw [List.map_cons, List.map_cons, List.map_cons, List.sum_cons, List.length_cons]
      omega

theorem length_encodeCursor (hkind : kind.length ≤ 7) (hcount : values.length ≤ 2)
    (hheld : ∀ value ∈ values, Held value) :
    (encodeCursor kind (values.map Nat.cast)).length ≤ 128 := by
  have hdigits := sum_digits_le values hheld
  have hversion : "v1".length = 2 := by decide
  refine length_fieldsText_le ?_
  rw [cursorFields, List.map_cons, List.map_cons, List.sum_cons, List.sum_cons,
    String.length_toList, String.length_toList, hversion]
  omega

/-- A cursor that the listing issues is short enough to be sent back. -/
theorem length_entries {offset : Nat} (hoffset : Held offset) :
    (ListingCursor.entries offset).text.length ≤ 128 :=
  length_encodeCursor "entries" [offset] (by decide) (Nat.le_succ 1) (by simpa using hoffset)

theorem length_lines {moveId : Int} {offset : Nat} (hmove : 0 < moveId)
    (hheld : Held moveId.toNat) (hoffset : Held offset) :
    (ListingCursor.lines moveId offset).text.length ≤ 128 := by
  obtain ⟨identifier, rfl⟩ := Int.eq_ofNat_of_zero_le hmove.le
  exact length_encodeCursor "lines" [identifier, offset] (by decide) (Nat.le_refl 2)
    (by simpa using ⟨hheld, hoffset⟩)

end Cursors

/-! ### The journal entries of a company -/

/-- The journal entries of a company, each with its lines in the order of their ids. -/
structure JournalBooks where
  moves : List AccountMove
  lines : Int → List JournalEntryLine
  moves_nodup : (moves.map (·.id)).Nodup
  moves_pos : ∀ move ∈ moves, 0 < move.id
  lines_ordered : ∀ moveId, ((lines moveId).map (·.id)).Pairwise (· < ·)

def entryUnavailable : PyException :=
  invalidInput "The requested journal entry is unavailable."
    "Use a journal entry ID from the authorized company."

/-- Whether a move passes a clause, as Odoo reads it. -/
def movePasses (move : AccountMove) (clause : FilterClause) : Bool :=
  match clause.field, clause.operator, clause.value with
  | "move_type", "=", .text moveType => move.moveType = moveType
  | "date", ">=", .date date => date.ordinal ≤ move.date.ordinal
  | "date", "<=", .date date => move.date.ordinal ≤ date.ordinal
  | "journal_id", "in", ids => ids.containsId move.journal.id
  | "state", "in", .tuple states => states.any fun
      | .text state => move.state = state
      | _ => false
  | _, _, _ => false

namespace JournalBooks

def entryOf (books : JournalBooks) (move : AccountMove) : JournalEntry :=
  ⟨move.id, move.name, move.moveType, move.state, move.date, move.journal, move.companyId,
    move.currency, move.reference, books.lines move.id⟩

/-- What the reads return where Odoo has these entries. -/
def source (books : JournalBooks) :
    (read : JournalRead) → Except PyException (journalReads.Result read)
  | .moves filters => do
      let found := books.moves.filter fun move => filters.all (movePasses move)
      ensure (found.length ≤ 100000) (Journals.moves filters).tooMany
      return found
  | .entry moveId => do
      let move ← orRaise (books.moves.find? (·.id = moveId)) entryUnavailable
      ensure ((books.lines moveId).length ≤ 10000) invalidResponse
      return books.entryOf move

def listing (books : JournalBooks) (request : JournalEntriesInput) :
    Except PyException JournalEntriesResponse :=
  (listJournalEntries request).evaluate books.source

def fetch (books : JournalBooks) (request : JournalEntriesInput) (cursor : Option String) :
    Except PyException JournalEntriesResponse := do
  books.listing (← request.withCursor cursor)

def selects (request : JournalEntriesInput) (move : AccountMove) : Bool :=
  move.moveType = "entry" && request.period.start.ordinal ≤ move.date.ordinal &&
    move.date.ordinal ≤ request.period.finish.ordinal &&
    (request.journalIds.isEmpty || request.journalIds.contains move.journal.id) &&
    (if request.states.isEmpty then [.draft, .posted] else request.states).any
      fun state : MoveState =>
      move.state = state.text

def listed (books : JournalBooks) (request : JournalEntriesInput) : List AccountMove :=
  sortedMoves (books.moves.filter (selects request))

/-- The listing refuses none of its entries: there are not too many, their ids fit the cursors, none
has too many lines, and their analytic distributions can be read. -/
structure Listable (books : JournalBooks) (request : JournalEntriesInput) : Prop where
  entries : (books.listed request).length ≤ 100000
  held : ∀ move ∈ books.listed request, Held move.id.toNat
  lines : ∀ move ∈ books.listed request, (books.lines move.id).length ≤ 10000
  readable : ∀ move ∈ books.listed request, ∀ line ∈ books.lines move.id,
    ∃ identifiers, analyticIds line.analyticDistribution = .ok identifiers

variable {books : JournalBooks} {request : JournalEntriesInput}

theorem filter_clauses :
    (books.moves.filter fun move => (clauses request).all (movePasses move)) =
      books.moves.filter (selects request) := by
  refine List.filter_congr fun move _ => ?_
  unfold clauses selects
  rw [Bool.eq_iff_iff]
  cases hids : request.journalIds.isEmpty with
  | true =>
      simp [movePasses]
      tauto
  | false =>
      simp [movePasses, containsId_eq]
      tauto

theorem mem_moves {move : AccountMove} (hmove : move ∈ books.listed request) :
    move ∈ books.moves :=
  List.mem_of_mem_filter ((List.perm_insertionSort _ _).mem_iff.mp hmove)

theorem listed_nodup (books : JournalBooks) (request : JournalEntriesInput) :
    ((books.listed request).map (·.id)).Nodup :=
  (((List.perm_insertionSort _ _).map _).nodup_iff).mpr
    (books.moves_nodup.sublist (List.filter_sublist.map _))

theorem find_move {move : AccountMove} (hmove : move ∈ books.listed request) :
    books.moves.find? (·.id = move.id) = some move := by
  have hmem := mem_moves hmove
  obtain ⟨found, hfound⟩ : ∃ found, books.moves.find? (·.id = move.id) = some found :=
    Option.isSome_iff_exists.mp (List.find?_isSome.mpr ⟨move, hmem, decide_eq_true rfl⟩)
  have hsame : decide (found.id = move.id) = true :=
    List.find?_some (p := fun other : AccountMove => other.id = move.id) hfound
  rw [hfound, List.inj_on_of_nodup_map books.moves_nodup (List.mem_of_find?_eq_some hfound) hmem
    (of_decide_eq_true hsame)]

/-! ### What is shown -/

def shownLine (line : JournalEntryLine) : JournalEntryLineItem :=
  lineItemWith line ((analyticIds line.analyticDistribution).toOption.getD [])

def shownLines (books : JournalBooks) (moveId : Int) : List JournalEntryLineItem :=
  (books.lines moveId).map shownLine

def shownFrom (books : JournalBooks) (move : AccountMove) (offset : Nat) : JournalEntryItem :=
  entryItemWith (books.entryOf move) offset
    (((books.shownLines move.id).drop offset).take linePageSize)

theorem pageAt_shownFrom (books : JournalBooks) (move : AccountMove) (offset : Nat) :
    PageAt (·.lines) (·.linesCursor) (books.shownLines move.id) linePageSize
      (fun offset => (ListingCursor.lines move.id offset).text) offset
      (books.shownFrom move offset) where
  items_eq := rfl
  next_eq := by
    have hlength : (books.shownLines move.id).length = (books.lines move.id).length :=
      List.length_map _
    rw [hlength]
    rfl

section Listable

variable (hlistable : books.Listable request) {move : AccountMove}
  (hmove : move ∈ books.listed request)
include hlistable hmove

theorem mapM_journalLineItem (lines : List JournalEntryLine)
    (hlines : lines ⊆ books.lines move.id) :
    lines.mapM journalLineItem = .ok (lines.map shownLine) := by
  refine mapM_ok_of_forall₂ (List.forall₂_map_right_iff.mpr (List.forall₂_same.mpr ?_))
  intro line hline
  obtain ⟨identifiers, hidentifiers⟩ := hlistable.readable move hmove line (hlines hline)
  rw [journalLineItem, shownLine, hidentifiers]
  rfl

theorem entryItem_entryOf (offset : Nat) :
    entryItem (books.entryOf move) offset = .ok (books.shownFrom move offset) := by
  have hstate : ["draft", "posted"].contains move.state = true := by
    have hselected := (List.mem_filter.mp ((List.perm_insertionSort _ _).mem_iff.mp hmove)).2
    rw [selects, Bool.and_eq_true, List.any_eq_true] at hselected
    obtain ⟨state, -, hstate⟩ := hselected.2
    rw [of_decide_eq_true hstate]
    cases state <;> decide
  have hlines := mapM_journalLineItem hlistable hmove
    (((books.lines move.id).drop offset).take linePageSize)
    fun line hline => List.mem_of_mem_drop (List.mem_of_mem_take hline)
  rw [List.map_take, List.map_drop] at hlines
  exact except_bind_ok.mpr ⟨_, hlines, except_bind_ok.mpr ⟨(), ensure_ok.mpr hstate, rfl⟩⟩

theorem source_entry : books.source (.entry move.id) = .ok (books.entryOf move) :=
  except_bind_ok.mpr ⟨move, orRaise_ok.mpr (find_move hmove), except_bind_ok.mpr
    ⟨(), ensure_ok.mpr (decide_eq_true (hlistable.lines move hmove)), rfl⟩⟩

omit hmove in
theorem readEntries_evaluate {moves : List AccountMove} (hmoves : moves ⊆ books.listed request) :
    (readEntries moves).evaluate books.source = .ok (moves.map books.entryOf) := by
  induction moves with
  | nil => rfl
  | cons first rest ih =>
      obtain ⟨hfirst, hrest⟩ := List.cons_subset.mp hmoves
      refine Program.evaluate_bind_ok.mpr ⟨books.entryOf first, ?_, Program.evaluate_bind_ok.mpr
        ⟨rest.map books.entryOf, ih hrest, rfl⟩⟩
      rw [Program.evaluate_call]
      exact source_entry hlistable hfirst

omit hmove in
/-- The entries from an offset on, each with its first lines. -/
theorem entriesPage_evaluate {offset : Nat} (hoffset : offset ≤ (books.listed request).length)
    (limit : Nat) :
    (entriesPage (books.listed request) limit offset).evaluate books.source =
      .ok ((((books.listed request).drop offset).take limit).map (books.shownFrom · 0),
        if offset + (((books.listed request).drop offset).take limit).length <
            (books.listed request).length then
          some (ListingCursor.entries
            (offset + (((books.listed request).drop offset).take limit).length)).text
        else none) := by
  have hmoves : ((books.listed request).drop offset).take limit ⊆ books.listed request :=
    fun move hmove => List.mem_of_mem_drop (List.mem_of_mem_take hmove)
  refine Program.evaluate_bind_ok.mpr ⟨(), ?_, Program.evaluate_bind_ok.mpr
    ⟨_, readEntries_evaluate hlistable hmoves, Program.evaluate_bind_ok.mpr
      ⟨(((books.listed request).drop offset).take limit).map (books.shownFrom · 0), ?_, rfl⟩⟩⟩
  · rw [Program.evaluate_ofExcept]
    exact ensure_ok.mpr (decide_eq_true hoffset)
  · rw [Program.evaluate_ofExcept]
    refine mapM_ok_of_forall₂ (List.forall₂_map_left_iff.mpr (List.forall₂_map_right_iff.mpr
      (List.forall₂_same.mpr fun move hmove => ?_)))
    exact entryItem_entryOf hlistable (hmoves hmove) 0

/-- The lines of one entry from an offset on. -/
theorem linesPage_evaluate {offset : Nat} (hoffset : offset < (books.lines move.id).length) :
    (linesPage (books.listed request) move.id offset).evaluate books.source =
      .ok ([books.shownFrom move offset], none) := by
  refine Program.evaluate_bind_ok.mpr ⟨(), ?_, Program.evaluate_bind_ok.mpr
    ⟨books.entryOf move, ?_, Program.evaluate_bind_ok.mpr ⟨(), ?_, Program.evaluate_bind_ok.mpr
      ⟨books.shownFrom move offset, ?_, rfl⟩⟩⟩⟩
  · rw [Program.evaluate_ofExcept]
    exact ensure_ok.mpr (List.contains_iff_mem.mpr (List.mem_map_of_mem hmove))
  · rw [Program.evaluate_call]
    exact source_entry hlistable hmove
  · rw [Program.evaluate_ofExcept]
    exact ensure_ok.mpr (decide_eq_true hoffset)
  · rw [Program.evaluate_ofExcept]
    exact entryItem_entryOf hlistable hmove offset

end Listable

/-! ### Pages -/

def responseOf (books : JournalBooks) (request : JournalEntriesInput)
    (items : List JournalEntryItem)
    (nextCursor : Option String) : JournalEntriesResponse :=
  ⟨request.companyId, request.period, items, nextCursor, summaryOf (books.listed request)⟩

def entriesFrom (books : JournalBooks) (request : JournalEntriesInput) (offset : Nat) :
    JournalEntriesResponse :=
  let selected := ((books.listed request).drop offset).take request.limit
  books.responseOf request (selected.map (books.shownFrom · 0))
    (if offset + selected.length < (books.listed request).length then
      some (ListingCursor.entries (offset + selected.length)).text else none)

theorem source_moves (hlistable : books.Listable request) :
    books.source (.moves (clauses request)) = .ok (books.moves.filter (selects request)) := by
  have hlength : (books.moves.filter (selects request)).length ≤ 100000 := by
    have hlisted := hlistable.entries
    rwa [listed, sortedMoves, List.length_insertionSort] at hlisted
  unfold source
  dsimp only
  rw [filter_clauses]
  exact except_bind_ok.mpr ⟨(), ensure_ok.mpr (decide_eq_true hlength), rfl⟩

/-- The request is answered by the page that its cursor stands for. -/
theorem fetch_eq (hlistable : books.Listable request) {cursor : Option String}
    (hlength : ∀ text ∈ cursor, text.length ≤ 128) {decoded : ListingCursor}
    (hdecoded : decodeCursor cursor = .ok decoded) :
    books.fetch request cursor = (do
      let (items, nextCursor) ← (match decoded with
        | .entries offset => entriesPage (books.listed request) request.limit offset
        | .lines moveId offset => linesPage (books.listed request) moveId offset).evaluate
          books.source
      return books.responseOf request items nextCursor) := by
  unfold fetch JournalEntriesInput.withCursor
  rw [dif_pos hlength]
  change books.listing _ = _
  have hmoves : (Program.call (S := journalReads) (.moves (clauses request)) :
      JournalProgram (List AccountMove)).evaluate books.source =
        .ok (books.moves.filter (selects request)) := by
    rw [Program.evaluate_call]
    exact source_moves hlistable
  have hcursor : (Program.ofExcept (decodeCursor cursor) : JournalProgram ListingCursor).evaluate
      books.source = .ok decoded := by
    rw [Program.evaluate_ofExcept, hdecoded]
  refine (Program.evaluate_bind_of_ok hmoves _).trans
    ((Program.evaluate_bind_of_ok hcursor _).trans ?_)
  cases decoded with
  | entries offset => exact Program.evaluate_bind (entriesPage _ _ offset) _
  | lines moveId offset => exact Program.evaluate_bind (linesPage _ moveId offset) _

theorem fetch_entries (hlistable : books.Listable request) {cursor : Option String}
    (hlength : ∀ text ∈ cursor, text.length ≤ 128) {offset : Nat}
    (hdecoded : decodeCursor cursor = .ok (.entries offset))
    (hoffset : offset ≤ (books.listed request).length) :
    books.fetch request cursor = .ok (books.entriesFrom request offset) := by
  rw [fetch_eq hlistable hlength hdecoded, entriesPage_evaluate hlistable hoffset]
  rfl

theorem fetch_lines (hlistable : books.Listable request) {cursor : Option String}
    (hlength : ∀ text ∈ cursor, text.length ≤ 128) {move : AccountMove}
    (hmove : move ∈ books.listed request) {offset : Nat}
    (hdecoded : decodeCursor cursor = .ok (.lines move.id offset))
    (hoffset : offset < (books.lines move.id).length) :
    books.fetch request cursor =
      .ok (books.responseOf request [books.shownFrom move offset] none) := by
  rw [fetch_eq hlistable hlength hdecoded, linesPage_evaluate hlistable hmove hoffset]
  rfl

/-! ### Chains -/

/-- The cursors of the listing stand for the offsets into its entries. -/
theorem byOffset_entries (hlistable : books.Listable request) :
    ByOffset (books.fetch request) (·.items) (·.nextCursor)
      ((books.listed request).map (books.shownFrom · 0)) request.limit
      (fun offset => (ListingCursor.entries offset).text) := by
  have hat (offset : Nat) : PageAt (·.items) (·.nextCursor)
      ((books.listed request).map (books.shownFrom · 0)) request.limit
      (fun offset => (ListingCursor.entries offset).text) offset
      (books.entriesFrom request offset) := by
    have hitems : (books.entriesFrom request offset).items.length =
        (((books.listed request).drop offset).take request.limit).length := List.length_map _
    refine ⟨?_, ?_⟩
    · rw [← List.map_drop, ← List.map_take]
      rfl
    · rw [List.length_map, hitems]
      rfl
  refine ⟨⟨_, fetch_entries hlistable (by simp) rfl (Nat.zero_le _), hat 0⟩, ?_⟩
  intro offset _ hlt
  rw [List.length_map] at hlt
  have hheld : Held offset := Nat.lt_of_lt_of_le (hlt.trans_le hlistable.entries) (by decide)
  refine ⟨_, fetch_entries hlistable ?_ (decodeCursor_entries hheld) hlt.le, hat offset⟩
  rintro text ⟨⟩
  exact length_entries hheld

/-- An entry of the listing, and the one of the response that each of its line cursors brings. -/
def fetchLines (books : JournalBooks) (request : JournalEntriesInput) (item : JournalEntryItem) :
    Option String → Except PyException JournalEntryItem
  | none => .ok item
  | some cursor => do
      let response ← books.fetch request (some cursor)
      orRaise response.items.head? invalidCursor

/-- The line cursors of an entry stand for the offsets into its lines. -/
theorem byOffset_lines (hlistable : books.Listable request) {move : AccountMove}
    (hmove : move ∈ books.listed request) :
    ByOffset (books.fetchLines request (books.shownFrom move 0)) (·.lines) (·.linesCursor)
      (books.shownLines move.id) linePageSize
      (fun offset => (ListingCursor.lines move.id offset).text) := by
  refine ⟨⟨_, rfl, pageAt_shownFrom books move 0⟩, fun offset hpositive hlt =>
    ⟨books.shownFrom move offset, ?_, pageAt_shownFrom books move offset⟩⟩
  rw [shownLines, List.length_map] at hlt
  have hheld : Held offset :=
    Nat.lt_of_lt_of_le (hlt.trans_le (hlistable.lines move hmove)) (by decide)
  have hid := books.moves_pos move (mem_moves hmove)
  refine except_bind_ok.mpr ⟨_, fetch_lines hlistable ?_ hmove
    (decodeCursor_lines hid (hlistable.held move hmove) hpositive hheld) hlt, rfl⟩
  rintro text ⟨⟩
  exact length_lines hid (hlistable.held move hmove) hheld

/-! ### Single pages -/

/-- What a cursor brings: entries with their first lines, or more lines of one entry. -/
def Brings (books : JournalBooks) (request : JournalEntriesInput) :
    ListingCursor → JournalEntriesResponse → Prop
  | .entries offset, response =>
      response.items =
        (((books.listed request).drop offset).take request.limit).map (books.shownFrom · 0)
  | .lines moveId offset, response =>
      (∃ move ∈ books.listed request, move.id = moveId ∧ offset < (books.lines moveId).length ∧
        response.items = [books.shownFrom move offset]) ∧ response.nextCursor = none

theorem brings_of_fetch (hlistable : books.Listable request) {cursor : Option String}
    {response : JournalEntriesResponse} (hfetched : books.fetch request cursor = .ok response) :
    ∃ decoded, decodeCursor cursor = .ok decoded ∧ books.Brings request decoded response := by
  obtain ⟨asked, hasked, hlisted⟩ := except_bind_ok.mp hfetched
  have hlength : ∀ text ∈ cursor, text.length ≤ 128 := by
    by_contra hlong
    rw [JournalEntriesInput.withCursor, dif_neg hlong] at hasked
    cases hasked
  rw [JournalEntriesInput.withCursor, dif_pos hlength] at hasked
  cases hasked
  obtain ⟨found, -, hrest⟩ := Program.evaluate_bind_ok.mp hlisted
  obtain ⟨decoded, hdecoded, -⟩ := Program.evaluate_bind_ok.mp hrest
  rw [Program.evaluate_ofExcept] at hdecoded
  refine ⟨decoded, hdecoded, ?_⟩
  have hanswer := hfetched
  rw [fetch_eq hlistable hlength hdecoded] at hanswer
  obtain ⟨page, hpage, -⟩ := except_bind_ok.mp hanswer
  cases decoded with
  | entries offset =>
      obtain ⟨⟨⟩, hoffset, -⟩ := Program.evaluate_bind_ok.mp hpage
      rw [Program.evaluate_ofExcept, ensure_ok] at hoffset
      rw [fetch_entries hlistable hlength hdecoded (of_decide_eq_true hoffset)] at hfetched
      cases hfetched
      exact rfl
  | lines moveId offset =>
      obtain ⟨⟨⟩, hlisted, hrest⟩ := Program.evaluate_bind_ok.mp hpage
      rw [Program.evaluate_ofExcept, ensure_ok] at hlisted
      obtain ⟨move, hmove, rfl⟩ := List.mem_map.mp (List.contains_iff_mem.mp hlisted)
      obtain ⟨entry, hentry, hrest⟩ := Program.evaluate_bind_ok.mp hrest
      rw [Program.evaluate_call, source_entry hlistable hmove] at hentry
      cases hentry
      obtain ⟨⟨⟩, hoffset, -⟩ := Program.evaluate_bind_ok.mp hrest
      rw [Program.evaluate_ofExcept, ensure_ok] at hoffset
      have hlt := of_decide_eq_true hoffset
      rw [fetch_lines hlistable hlength hmove hdecoded hlt] at hfetched
      cases hfetched
      exact ⟨⟨move, hmove, rfl, hlt, rfl⟩, rfl⟩

/-- An item holds the lines of its entry from an offset on, and its cursor goes on where they
end. -/
structure Continues (books : JournalBooks) (moveId : Int) (offset : Nat) (item : JournalEntryItem) :
    Prop where
  moveId_eq : item.moveId = moveId
  lines_eq : item.lines = ((books.shownLines moveId).drop offset).take linePageSize
  remain : item.linesCursor.isSome ↔ offset + item.lines.length < (books.lines moveId).length
  next : ∀ cursor ∈ item.linesCursor,
    decodeCursor (some cursor) = .ok (.lines moveId (offset + item.lines.length))

theorem continues_shownFrom (hlistable : books.Listable request) {move : AccountMove}
    (hmove : move ∈ books.listed request) (offset : Nat) :
    books.Continues move.id offset (books.shownFrom move offset) := by
  have hat := pageAt_shownFrom books move offset
  have hlength : (books.shownLines move.id).length = (books.lines move.id).length :=
    List.length_map _
  have hnext := hat.next_eq
  rw [hlength] at hnext
  refine ⟨rfl, rfl, ?_, fun cursor hcursor => ?_⟩
  · rw [hnext]
    split <;> simp_all
  · by_cases hremain : offset + (books.shownFrom move offset).lines.length <
        (books.lines move.id).length
    · rw [hnext, if_pos hremain] at hcursor
      cases hcursor
      have hshown : (books.shownFrom move offset).lines.length =
          min linePageSize ((books.lines move.id).length - offset) := by
        rw [hat.items_eq, List.length_take, List.length_drop, hlength]
      have hpositive : 0 < offset + (books.shownFrom move offset).lines.length := by
        rw [linePageSize] at hshown
        omega
      exact decodeCursor_lines (books.moves_pos move (mem_moves hmove))
        (hlistable.held move hmove) hpositive
        (Nat.lt_of_lt_of_le (hremain.trans_le (hlistable.lines move hmove)) (by decide))
    · rw [hnext, if_neg hremain] at hcursor
      cases hcursor

/-! ### The whole listing -/

/-- What following the cursors reads: all entries with their first lines, and by the line cursors of
each entry all its lines. -/
structure Visits (books : JournalBooks) (request : JournalEntriesInput)
    (pages : List JournalEntriesResponse) : Prop where
  followed : ∀ fuel, (books.listed request).length < fuel →
    follow (books.fetch request) (·.nextCursor) fuel none = .ok (some pages)
  items_eq : pages.flatMap (·.items) = (books.listed request).map (books.shownFrom · 0)
  lines : ∀ move ∈ books.listed request, ∃ parts,
    (∀ fuel, (books.lines move.id).length < fuel →
      follow (books.fetchLines request (books.shownFrom move 0)) (·.linesCursor) fuel none =
        .ok (some parts)) ∧
    parts.flatMap (·.lines) = books.shownLines move.id

theorem exists_visits (hlistable : books.Listable request) :
    ∃ pages, books.Visits request pages := by
  obtain ⟨pages, hpages⟩ := (byOffset_entries hlistable).followed request.limit_pos
  refine ⟨pages, ⟨fun fuel hfuel => hpages.followed fuel ?_, hpages.items_eq, ?_⟩⟩
  · rw [List.length_map]
    exact hfuel
  · intro move hmove
    obtain ⟨parts, hparts⟩ := (byOffset_lines hlistable hmove).followed (by decide)
    refine ⟨parts, fun fuel hfuel => hparts.followed fuel ?_, hparts.items_eq⟩
    rw [shownLines, List.length_map]
    exact hfuel

/-- The entries stand by date and id, each once, and their lines by id. -/
structure InOrder (books : JournalBooks) (request : JournalEntriesInput) : Prop where
  entries : (books.listed request).Pairwise fun first second => moveOrder first ≤ moveOrder second
  once : ((books.listed request).map (·.id)).Nodup
  lines : ∀ moveId, ((books.shownLines moveId).map (·.lineId)).Pairwise (· < ·)

theorem inOrder (books : JournalBooks) (request : JournalEntriesInput) :
    books.InOrder request := by
  refine ⟨List.pairwise_insertionSort _ _, listed_nodup books request, fun moveId => ?_⟩
  rw [shownLines, List.map_map]
  exact books.lines_ordered moveId

end JournalBooks

open JournalBooks

variable {books : JournalBooks} {request : JournalEntriesInput}

/-- **The two cursors visit every line once.** Following the cursor of the listing shows every
entry, and following the line cursors of an entry shows all its lines, in the order of the ids. A
cursor of the listing brings entries with their first lines, and a line cursor lines of its own
entry, from where the page that issued it ended. -/
theorem journal_pagination (hlistable : books.Listable request) :
    (∃ pages, books.Visits request pages) ∧ books.InOrder request ∧
      (∀ cursor response, books.fetch request cursor = .ok response →
        ∃ decoded, decodeCursor cursor = .ok decoded ∧ books.Brings request decoded response) ∧
      ∀ move ∈ books.listed request, ∀ offset,
        books.Continues move.id offset (books.shownFrom move offset) :=
  ⟨exists_visits hlistable, inOrder books request,
    fun _ _ hfetched => brings_of_fetch hlistable hfetched,
    fun _ hmove offset => continues_shownFrom hlistable hmove offset⟩

/-! ### Entries of many lines -/

namespace JournalBooks

theorem lines_of_readEntries {moves : List AccountMove} {entries : List JournalEntry}
    (hentries : (readEntries moves).evaluate books.source = .ok entries) :
    ∀ move ∈ moves, (books.lines move.id).length ≤ 10000 := by
  induction moves generalizing entries with
  | nil => exact fun _ hmove => nomatch hmove
  | cons first rest ih =>
      obtain ⟨entry, hentry, hrest⟩ := Program.evaluate_bind_ok.mp hentries
      obtain ⟨others, hothers, -⟩ := Program.evaluate_bind_ok.mp hrest
      refine List.forall_mem_cons.mpr ⟨?_, ih hothers⟩
      rw [Program.evaluate_call] at hentry
      obtain ⟨move, -, hrest⟩ := except_bind_ok.mp hentry
      obtain ⟨⟨⟩, hbounded, -⟩ := except_bind_ok.mp hrest
      rw [ensure_ok] at hbounded
      exact of_decide_eq_true hbounded

/-- The entries of a first page have as many lines as may be read. -/
theorem lines_of_fetch {response : JournalEntriesResponse}
    (hfetched : books.fetch request none = .ok response) :
    ∀ move ∈ (books.listed request).take request.limit, (books.lines move.id).length ≤ 10000 := by
  have hlisting : books.listing { request with cursor := none, cursor_le := by simp } =
      .ok response := hfetched
  obtain ⟨found, hfound, hrest⟩ := Program.evaluate_bind_ok.mp hlisting
  rw [Program.evaluate_call] at hfound
  unfold source at hfound
  dsimp only at hfound
  obtain ⟨⟨⟩, -, hdone⟩ := except_bind_ok.mp hfound
  cases hdone
  obtain ⟨decoded, hdecoded, hpage⟩ := Program.evaluate_bind_ok.mp hrest
  rw [Program.evaluate_ofExcept] at hdecoded
  cases hdecoded
  obtain ⟨page, hpage, -⟩ := Program.evaluate_bind_ok.mp hpage
  obtain ⟨⟨⟩, -, hentries⟩ := Program.evaluate_bind_ok.mp hpage
  obtain ⟨entries, hentries, -⟩ := Program.evaluate_bind_ok.mp hentries
  have hselected : sortedMoves (books.moves.filter fun move =>
      (clauses request).all (movePasses move)) = books.listed request := by
    rw [filter_clauses]
    rfl
  change (readEntries (List.take _ (List.drop 0 (sortedMoves (books.moves.filter fun move =>
      (clauses request).all (movePasses move)))))).evaluate books.source = _ at hentries
  rw [hselected] at hentries
  exact lines_of_readEntries hentries

end JournalBooks

def manyLine (index : Nat) : JournalEntryLine where
  id := index + 1
  account := ⟨1, "Bank", Int.one_pos⟩
  partner := none
  description := none
  debit := .zero
  credit := .zero
  analyticDistribution := []

def manyMove : AccountMove where
  id := 7
  name := "MISC/7"
  moveType := "entry"
  state := "posted"
  date := ⟨739000⟩
  invoiceDate := none
  invoiceDateDue := none
  partner := none
  journal := .after 2 "Miscellaneous"
  companyId := 1
  currency := ⟨1, "EUR", Int.one_pos⟩
  amountTotal := .zero
  amountResidual := .zero
  amountResidualCompany := none
  paymentState := none
  reference := none

def manyBooks (count : Nat) : JournalBooks where
  moves := [manyMove]
  lines _ := (List.range count).map manyLine
  moves_nodup := List.nodup_singleton _
  moves_pos := by simp [manyMove]
  lines_ordered _ := by
    rw [List.map_map, List.pairwise_map]
    refine List.pairwise_lt_range.imp fun hlt => ?_
    simp only [Function.comp_apply, manyLine]
    omega

def manyRequest : JournalEntriesInput where
  companyId := 1
  limit := 50
  cursor := none
  period := .lasting 738990 20
  journalIds := []
  states := []
  limit_pos := Nat.succ_pos 49
  limit_le := by decide
  cursor_le := PageRequest.unset_cursor
  journals_nodup := .nil
  states_nodup := .nil

theorem listed_manyBooks (count : Nat) : (manyBooks count).listed manyRequest = [manyMove] := by
  have hselected : selects manyRequest manyMove = true := by decide
  rw [listed, manyBooks, List.filter_singleton, hselected]
  rfl

theorem lines_manyBooks (count : Nat) (moveId : Int) :
    ((manyBooks count).lines moveId).length = count := by
  rw [manyBooks, List.length_map, List.length_range]

/-- An entry of too many lines is not listed. -/
theorem not_fetch_manyBooks {count : Nat} (hcount : 10000 < count)
    (response : JournalEntriesResponse) :
    (manyBooks count).fetch manyRequest none ≠ .ok response := by
  intro hfetched
  have hmove : manyMove ∈ ((manyBooks count).listed manyRequest).take manyRequest.limit := by
    rw [listed_manyBooks]
    exact List.mem_singleton.mpr rfl
  have hbounded := lines_of_fetch hfetched manyMove hmove
  rw [lines_manyBooks] at hbounded
  omega

theorem journal_pagination_pages :
    (∃ pages, (manyBooks 250).Visits manyRequest pages) ∧ (manyBooks 250).InOrder manyRequest ∧
      (∀ cursor response, (manyBooks 250).fetch manyRequest cursor = .ok response →
        ∃ decoded, decodeCursor cursor = .ok decoded ∧
          (manyBooks 250).Brings manyRequest decoded response) ∧
      ∀ move ∈ (manyBooks 250).listed manyRequest, ∀ offset,
        (manyBooks 250).Continues move.id offset ((manyBooks 250).shownFrom move offset) := by
  refine journal_pagination ⟨?_, ?_, ?_, ?_⟩
  · rw [listed_manyBooks]
    decide
  · rw [listed_manyBooks]
    simp [manyMove, Held]
  · intro move _
    rw [lines_manyBooks]
    decide
  · intro move _ line hline
    obtain ⟨index, -, rfl⟩ := List.mem_map.mp hline
    exact ⟨[], rfl⟩

/-- Not every listing can be followed to its end. -/
theorem not_visits_long : ¬ ∀ (books : JournalBooks) (request : JournalEntriesInput),
    ∃ pages, books.Visits request pages := by
  intro hvisits
  obtain ⟨pages, hpages⟩ := hvisits (manyBooks 10001) manyRequest
  have hfollowed := hpages.followed 2 (by
    rw [listed_manyBooks]
    decide)
  rw [follow] at hfollowed
  cases hfetched : (manyBooks 10001).fetch manyRequest none with
  | error error =>
      rw [hfetched] at hfollowed
      cases hfollowed
  | ok response => exact not_fetch_manyBooks (by decide) response hfetched

end Journals

end OdooMcp
