import OdooMcp.Workflows.Sources

/-!
# Keyset completeness

The records of Odoo change between the requests of a loop, each of which is answered from the
records as they are then. What is there throughout the loop is returned, once; and if nothing
changes, all of it is, in the order of the ids.
-/

namespace OdooMcp

open Effect AccountingReader

/-! ### The records of Odoo -/

structure StoredRow where
  id : Int
  value : String → PyValue

/-- The fields of a row, as `search_read` returns them. -/
def StoredRow.read (fields : List String) (row : StoredRow) : Payload :=
  fields.map fun name => (name, if name = "id" then .int row.id else row.value name)

theorem StoredRow.field_id_read {fields : List String} (hfields : "id" ∈ fields)
    (row : StoredRow) : (row.read fields).field "id" = .int row.id := by
  have hget : dictGet (row.read fields) "id" = some (.int row.id) := by
    unfold StoredRow.read dictGet
    induction fields with
    | nil => cases hfields
    | cons first rest ih =>
        rw [List.map_cons, List.find?_cons]
        by_cases hfirst : first = "id"
        · simp [hfirst]
        · have hrest := ih ((List.mem_cons.mp hfields).resolve_left (Ne.symm hfirst))
          simpa [hfirst] using hrest
  rw [Payload.field, hget]
  rfl

/-- The records of every model in the order of their ids, and which of them a clause selects. -/
structure Records where
  rows : String → List StoredRow
  ordered : ∀ model, (rows model).Pairwise fun row later => row.id < later.id
  holds : String → PyValue → StoredRow → Bool
  holds_after : ∀ model cursor row,
    holds model (domainClause "id" ">" (.int cursor)) row = decide (cursor < row.id)

namespace Records

variable (records : Records)

def select (model : String) (domain : List PyValue) : List StoredRow :=
  (records.rows model).filter fun row => domain.all fun clause => records.holds model clause row

theorem pairwise_select (model : String) (domain : List PyValue) :
    (records.select model domain).Pairwise fun row later => row.id < later.id :=
  (records.ordered model).sublist List.filter_sublist

theorem select_after (model : String) (domain : List PyValue) (position : Option Int) :
    records.select model (domain ++ afterCursor position) =
      (records.select model domain).filter fun row =>
        !position.any fun cursor => decide (row.id ≤ cursor) := by
  unfold select
  rw [List.filter_filter]
  refine List.filter_congr fun row _ => ?_
  rw [List.all_append, Bool.and_comm]
  cases position with
  | none => rfl
  | some cursor =>
      have hafter : (!decide (row.id ≤ cursor)) = decide (cursor < row.id) := by
        rw [← decide_not, decide_eq_decide, not_le]
      simp [afterCursor, records.holds_after, hafter]

end Records

/-- A search that is answered with rows is answered with those that its domain selects, in the order
of their ids, from its offset on and up to its limit. -/
def Faithful (records : Records) (event : OdooEvent) : Prop :=
  match event with
  | ⟨.searchRead model domain fields limit offset order _, answer⟩ =>
      order = "id asc" → ∀ rows, answer = .ok rows →
        rows = (((records.select model domain).drop offset).take limit).map (StoredRow.read fields)
  | _ => True

/-- Every request is answered from the records at its time. -/
def AnsweredFrom (history : Nat → Records) : Nat → List OdooEvent → Prop
  | _, [] => True
  | time, event :: events => Faithful (history time) event ∧ AnsweredFrom history (time + 1) events

theorem answeredFrom_append {history : Nat → Records} {time : Nat} {first second : List OdooEvent} :
    AnsweredFrom history time (first ++ second) ↔
      AnsweredFrom history time first ∧ AnsweredFrom history (time + first.length) second := by
  induction first generalizing time with
  | nil => simp [AnsweredFrom]
  | cons event events ih =>
      rw [List.cons_append, AnsweredFrom, AnsweredFrom, ih, and_assoc, List.length_cons,
        Nat.add_comm events.length, ← Nat.add_assoc]

namespace PageLoop

variable {α : Type} (loop : PageLoop α) (companyId : Int)

def matching (records : Records) : List StoredRow :=
  records.select loop.source.model (loop.source.domain companyId)

def Converts (row : StoredRow) (item : α) : Prop :=
  loop.source.convert companyId (record (row.read loop.source.fields)) = .ok item

/-- A row with the id matches at the time of each request, and is one that the loop keeps. -/
def Stays (history : Nat → Records) (requests : Nat) (identifier : Int) : Prop :=
  ∀ time < requests, ∃ row ∈ loop.matching companyId (history time), row.id = identifier ∧
    ∀ item, loop.Converts companyId row item → loop.keep item = true

def ReadFrom (history : Nat → Records) (requests : Nat) (identifier : Int) (item : α) : Prop :=
  ∃ time < requests, ∃ row ∈ loop.matching companyId (history time), row.id = identifier ∧
    loop.Converts companyId row item

/-- The id is not after the position. -/
def passed (position : Option Int) (identifier : Int) : Bool :=
  position.any fun cursor => decide (identifier ≤ cursor)

def rowsAfter (position : Option Int) (records : Records) : List StoredRow :=
  (loop.matching companyId records).filter fun row => !passed position row.id

variable {loop companyId} {reader : AccountingReader} {history : Nat → Records}

theorem Converts.id_eq {row : StoredRow} {item : α} (hconverts : loop.Converts companyId row item) :
    loop.source.idOf item = row.id := by
  have hkept := keepsId_convert loop.source companyId _ item hconverts
  rw [field_record_id (row.field_id_read loop.source.id_mem_fields)] at hkept
  exact (PyValue.int.inj hkept).symm

theorem passed_none (identifier : Int) : passed none identifier = false := rfl

theorem passed_some {cursor identifier : Int} :
    passed (some cursor) identifier = true ↔ identifier ≤ cursor := by
  rw [passed, Option.any_some, decide_eq_true_eq]

theorem pairwise_rowsAfter (position : Option Int) (records : Records) :
    (loop.rowsAfter companyId position records).Pairwise fun row later => row.id < later.id :=
  (records.pairwise_select _ _).sublist List.filter_sublist

/-! ### One page -/

/-- The page of a turn holds the first rows after its position, and its cursor is the last of them,
unless there are no more. -/
structure Covers (loop : PageLoop α) (companyId : Int) (rows : List StoredRow)
    (page : RecordPage α) : Prop where
  converted : List.Forall₂ (loop.Converts companyId) (rows.take loop.limit) page.items
  last : page.nextCursor = none → rows.take loop.limit = rows
  next : ∀ next ∈ page.nextCursor, ∃ row ∈ (rows.take loop.limit).getLast?,
    0 < row.id ∧ next = encodeCursor row.id

theorem covers_of_pageOf {rows : List StoredRow} {page : RecordPage α} {cursorId : Option Int}
    (of : PageOf (loop.source.convert companyId) loop.limit cursorId
      ((rows.take (loop.limit + 1)).map (StoredRow.read loop.source.fields)) page) :
    Covers loop companyId rows page := by
  have hidentifiers : of.identifiers = (rows.take (loop.limit + 1)).map StoredRow.id := by
    have hidentified := of.identified
    rw [List.forall₂_map_left_iff] at hidentified
    refine (map_eq_of_forall₂ (fun row identifier row' hid hrow => ?_) hidentified
      (List.forall₂_same.mpr fun row _ => (rfl : row = row))).symm
    subst hrow
    rw [row.field_id_read loop.source.id_mem_fields] at hid
    cases hid
    rfl
  have hlength : ((rows.take (loop.limit + 1)).map (StoredRow.read loop.source.fields)).length =
      min (loop.limit + 1) rows.length := by
    rw [List.length_map, List.length_take]
  have hcontinued := of.continued
  rw [hlength] at hcontinued
  refine ⟨?_, fun hnone => ?_, fun next hnext => ?_⟩
  · have hconverted := of.converted
    rw [← List.map_take, List.take_take, min_eq_left (by omega),
      List.forall₂_map_left_iff] at hconverted
    exact hconverted
  · rw [hnone] at hcontinued
    split at hcontinued
    · cases hcontinued
    · exact List.take_of_length_le (by omega)
  · rw [Option.mem_def.mp hnext] at hcontinued
    split at hcontinued
    · rename_i hmore
      have hpos := loop.limit_pos
      have hrow : loop.limit - 1 < rows.length := by omega
      have hlast : of.identifiers.getD (loop.limit - 1) 0 = rows[loop.limit - 1].id := by
        rw [hidentifiers, List.getD_eq_getElem?_getD, List.getElem?_map,
          List.getElem?_take_of_lt (by omega), List.getElem?_eq_getElem hrow]
        rfl
      refine ⟨rows[loop.limit - 1], ?_, ?_, ?_⟩
      · rw [List.getLast?_eq_getElem?, List.length_take, min_eq_left (by omega),
          List.getElem?_take_of_lt (by omega), List.getElem?_eq_getElem hrow]
        rfl
      · have hmem : rows[loop.limit - 1].id ∈ of.identifiers := by
          rw [hidentifiers]
          refine List.mem_map_of_mem (List.mem_take_iff_getElem.mpr ⟨loop.limit - 1, ?_, rfl⟩)
          omega
        exact of.positive _ hmem
      · rw [← hlast]
        exact Option.some.inj hcontinued
    · cases hcontinued

theorem Turn.covers {state : PageState α} {trace : List OdooEvent} {time : Nat}
    (turn : Turn loop reader companyId state trace) (hanswered : AnsweredFrom history time trace)
    {position : Option Int} (hcursor : state.cursor = position.map encodeCursor)
    (hpositive : ∀ cursor ∈ position, 0 < cursor) :
    0 < trace.length ∧
      Covers loop companyId (loop.rowsAfter companyId position (history time)) turn.page := by
  obtain ⟨cursorId, rows, validation, hdecoded, htrace, ⟨of⟩⟩ :=
    pagedRead_ok loop.source turn.read
  have hgiven : turn.request.cursor = position.map encodeCursor := turn.continued.trans hcursor
  have hshort : ∀ cursor ∈ position, (encodeCursor cursor).length ≤ 128 := by
    intro cursor hposition
    refine turn.request.cursor_le _ ?_
    rw [hgiven, Option.mem_def.mp hposition]
    rfl
  rw [hgiven, mapM_decodeCursor hpositive hshort] at hdecoded
  cases hdecoded
  rw [htrace] at hanswered
  have hrows := hanswered.1 rfl rows rfl
  rw [List.drop_zero, Records.select_after] at hrows
  rw [turn.limited] at hrows of
  subst hrows
  refine ⟨by rw [htrace, List.length_cons]; omega, covers_of_pageOf of⟩

/-! ### Sorted rows -/

/-- In a sorted list the rows of a predicate that later rows inherit come last. -/
theorem filter_append_filter {rows : List StoredRow} (later : StoredRow → Bool)
    (hordered : rows.Pairwise fun row other => row.id < other.id)
    (hlater : ∀ row other, row.id < other.id → later row = true → later other = true) :
    rows.filter (fun row => !later row) ++ rows.filter later = rows := by
  induction rows with
  | nil => rfl
  | cons row rest ih =>
      obtain ⟨hrow, hrest⟩ := List.pairwise_cons.mp hordered
      cases hfirst : later row with
      | false => simpa [hfirst] using ih hrest
      | true =>
          have hall : ∀ other ∈ rest, later other = true :=
            fun other hother => hlater row other (hrow other hother) hfirst
          have hnone : rest.filter (fun row => !later row) = [] :=
            List.filter_eq_nil_iff.mpr fun other hother => by simp [hall other hother]
          simp [hfirst, hnone, List.filter_eq_self.mpr hall]

/-- The rows up to the last of the first rows are these. -/
theorem filter_passed_last {rows : List StoredRow} {size : Nat} {last : StoredRow}
    (hordered : rows.Pairwise fun row other => row.id < other.id)
    (hlast : last ∈ (rows.take size).getLast?) :
    rows.filter (fun row => passed (some last.id) row.id) = rows.take size := by
  have hsplit := List.take_append_drop size rows
  have htaken : ∀ row ∈ rows.take size, row.id ≤ last.id := by
    intro row hrow
    have hsorted : ((rows.take size).map StoredRow.id).Pairwise (· < ·) :=
      List.pairwise_map.mpr (hordered.sublist (List.take_sublist _ _))
    refine le_getLast hsorted ?_ (List.mem_map_of_mem hrow)
    rw [List.getLast?_map, Option.mem_def.mp hlast]
    rfl
  have hdropped : ∀ row ∈ rows.drop size, last.id < row.id := by
    intro row hrow
    rw [← hsplit] at hordered
    exact (List.pairwise_append.mp hordered).2.2 last (List.mem_of_getLast? hlast) row hrow
  have hfirst : (rows.take size).filter (fun row => passed (some last.id) row.id) =
      rows.take size :=
    List.filter_eq_self.mpr fun row hrow => by simpa [passed] using htaken row hrow
  have hsecond : (rows.drop size).filter (fun row => passed (some last.id) row.id) = [] :=
    List.filter_eq_nil_iff.mpr fun row hrow => by simpa [passed] using hdropped row hrow
  calc
    rows.filter (fun row => passed (some last.id) row.id) =
        (rows.take size ++ rows.drop size).filter (fun row => passed (some last.id) row.id) := by
      rw [hsplit]
    _ = rows.take size := by rw [List.filter_append, hfirst, hsecond, List.append_nil]

/-- The rows up to a later position are those up to an earlier one and some of those after it. -/
theorem filter_passed_append {rows : List StoredRow} (position : Option Int) {upTo : Int → Bool}
    (hordered : rows.Pairwise fun row other => row.id < other.id)
    (hupTo : ∀ identifier, passed position identifier = true → upTo identifier = true) :
    rows.filter (fun row => upTo row.id) = rows.filter (fun row => passed position row.id) ++
      (rows.filter fun row => !passed position row.id).filter fun row => upTo row.id := by
  have hsplit : rows.filter (fun row => passed position row.id) ++
      rows.filter (fun row => !passed position row.id) = rows := by
    have hlater := filter_append_filter (fun row => !passed position row.id) hordered
      fun row other hless hrow => by
        cases position with
        | none => rfl
        | some cursor =>
            simp only [passed, Option.any_some, Bool.not_eq_true',
              decide_eq_false_iff_not] at hrow ⊢
            omega
    simpa using hlater
  have hfirst : (rows.filter fun row => passed position row.id).filter (fun row => upTo row.id) =
      rows.filter fun row => passed position row.id :=
    List.filter_eq_self.mpr fun row hrow => hupTo _ (List.mem_filter.mp hrow).2
  calc
    rows.filter (fun row => upTo row.id) = (rows.filter (fun row => passed position row.id) ++
        rows.filter fun row => !passed position row.id).filter fun row => upTo row.id := by
      rw [hsplit]
    _ = _ := by rw [List.filter_append, hfirst]

/-! ### The loop -/

/-- What has been read of the rows up to some id: those that stayed, and all of them exactly if
nothing has changed. -/
structure HasRead (loop : PageLoop α) (companyId : Int) (history : Nat → Records) (requests : Nat)
    (items : List α) (upTo : Int → Bool) : Prop where
  stayed : ∀ identifier, upTo identifier = true →
    loop.Stays companyId history requests identifier →
      ∃ item ∈ items, loop.ReadFrom companyId history requests identifier item
  unchanged : ∀ records, (∀ time < requests, history time = records) →
    ∃ converted, List.Forall₂ (loop.Converts companyId)
      ((loop.matching companyId records).filter fun row => upTo row.id) converted ∧
      items = converted.filter loop.keep

theorem hasRead_start : HasRead loop companyId history 0 [] (passed none) := by
  refine ⟨(fun identifier hpassed => nomatch hpassed), fun records _ => ⟨[], ?_, rfl⟩⟩
  rw [List.filter_eq_nil_iff.mpr fun row _ => by simp [passed]]
  exact .nil

theorem ReadFrom.mono {requests more : Nat} (hmore : requests ≤ more) {identifier : Int} {item : α}
    (hread : loop.ReadFrom companyId history requests identifier item) :
    loop.ReadFrom companyId history more identifier item := by
  obtain ⟨time, htime, hrow⟩ := hread
  exact ⟨time, Nat.lt_of_lt_of_le htime hmore, hrow⟩

theorem ReadFrom.id_eq {requests : Nat} {identifier : Int} {item : α}
    (hread : loop.ReadFrom companyId history requests identifier item) :
    loop.source.idOf item = identifier := by
  obtain ⟨time, -, row, -, rfl, hconverts⟩ := hread
  exact hconverts.id_eq

/-- **A page adds the rows that follow.** -/
theorem HasRead.add {time requests : Nat} (htime : time < requests) {items : List α}
    {position : Option Int} (hread : HasRead loop companyId history time items (passed position))
    {page : RecordPage α}
    (covers : Covers loop companyId (loop.rowsAfter companyId position (history time)) page)
    {upTo : Int → Bool} (hupTo : ∀ identifier, passed position identifier = true →
      upTo identifier = true)
    (htaken : (loop.rowsAfter companyId position (history time)).filter (fun row => upTo row.id) =
      (loop.rowsAfter companyId position (history time)).take loop.limit) :
    HasRead loop companyId history requests (items ++ page.items.filter loop.keep) upTo := by
  refine ⟨fun identifier hidentifier hstays => ?_, fun records hrecords => ?_⟩
  · by_cases hpassed : passed position identifier = true
    · obtain ⟨item, hitem, hfrom⟩ := hread.stayed identifier hpassed
        fun earlier hearlier => hstays earlier (by omega)
      exact ⟨item, List.mem_append_left _ hitem, hfrom.mono (by omega)⟩
    · obtain ⟨row, hrow, rfl, hkept⟩ := hstays time htime
      have hafter : row ∈ loop.rowsAfter companyId position (history time) :=
        List.mem_filter.mpr ⟨hrow, by simpa using hpassed⟩
      have hmem : row ∈ (loop.rowsAfter companyId position (history time)).take loop.limit := by
        rw [← htaken]
        exact List.mem_filter.mpr ⟨hafter, hidentifier⟩
      obtain ⟨item, hitem, hconverts⟩ := exists_of_forall₂_left covers.converted hmem
      exact ⟨item, List.mem_append_right _ (List.mem_filter.mpr ⟨hitem, hkept item hconverts⟩),
        time, htime, row, hrow, rfl, hconverts⟩
  · obtain ⟨converted, hconverted, rfl⟩ := hread.unchanged records
      fun earlier hearlier => hrecords earlier (by omega)
    have hnow := hrecords time htime
    refine ⟨converted ++ page.items, ?_, (List.filter_append _ _).symm⟩
    have hsplit := filter_passed_append position
      (records.pairwise_select loop.source.model (loop.source.domain companyId)) hupTo
    have hrows := covers.converted
    rw [← htaken, hnow] at hrows
    unfold matching at hconverted ⊢
    rw [hsplit]
    exact List.rel_append hconverted hrows

/-- The state of a loop that has read everything up to its cursor. -/
structure ReadSoFar (loop : PageLoop α) (companyId : Int) (history : Nat → Records)
    (past : List OdooEvent) (state : PageState α) (position : Option Int) : Prop where
  cursor : state.cursor = position.map encodeCursor
  positive : ∀ cursor ∈ position, 0 < cursor
  read : HasRead loop companyId history past.length state.items (passed position)

theorem readSoFar_again {past : List OdooEvent} {state next : PageState α} {position : Option Int}
    (hread : ReadSoFar loop companyId history past state position) {events : List OdooEvent}
    (hanswered : AnsweredFrom history past.length events)
    (hruns : Program.Runs (loop.body reader companyId state) events (.ok (.again next))) :
    ∃ position, ReadSoFar loop companyId history (past ++ events) next position := by
  obtain ⟨turn, cursor, hcursor, -, rfl⟩ := again_of_runs hruns
  obtain ⟨hevents, covers⟩ := turn.covers hanswered hread.cursor hread.positive
  obtain ⟨last, hlast, hpositive, rfl⟩ := covers.next cursor hcursor
  have hafter : passed position last.id = false := by
    have hmem := List.mem_of_mem_take (List.mem_of_getLast? hlast)
    simpa using (List.mem_filter.mp hmem).2
  have hcursor : ∀ cursor ∈ some last.id, 0 < cursor := by
    intro cursor hsame
    cases hsame
    exact hpositive
  refine ⟨some last.id, rfl, hcursor, ?_⟩
  refine hread.read.add (by rw [List.length_append]; omega) covers (fun identifier hpassed => ?_)
    (filter_passed_last (pairwise_rowsAfter position _) hlast)
  cases hposition : position with
  | none =>
      rw [hposition, passed_none] at hpassed
      cases hpassed
  | some cursor =>
      rw [hposition] at hpassed hafter
      rw [passed_some] at hpassed ⊢
      rw [← Bool.not_eq_true, passed_some] at hafter
      omega

theorem hasRead_leave {past : List OdooEvent} {state last : PageState α} {position : Option Int}
    (hread : ReadSoFar loop companyId history past state position) {events : List OdooEvent}
    (hanswered : AnsweredFrom history past.length events)
    (hruns : Program.Runs (loop.body reader companyId state) events (.ok (.leave last))) :
    HasRead loop companyId history (past ++ events).length last.items fun _ => true := by
  obtain ⟨turn, hnone, rfl⟩ := leave_of_runs hruns
  obtain ⟨hevents, covers⟩ := turn.covers hanswered hread.cursor hread.positive
  refine hread.read.add (by rw [List.length_append]; omega) covers (fun _ _ => rfl) ?_
  rw [covers.last hnone]
  exact List.filter_eq_self.mpr fun row _ => rfl

theorem hasRead_of_run {fuel : Nat} {trace : List OdooEvent} {last : PageState α}
    (hanswered : AnsweredFrom history 0 trace)
    (hruns : Program.Runs (loop.run reader companyId fuel .start) trace (.ok (some last))) :
    HasRead loop companyId history trace.length last.items fun _ => true := by
  have hinvariant := Program.loop_invariant
    (fun past state => AnsweredFrom history 0 past →
      ∃ position, ReadSoFar loop companyId history past state position)
    (fun past last => AnsweredFrom history 0 past →
      HasRead loop companyId history past.length last.items fun _ => true)
    ?_ ?_ [] (fun _ => ⟨none, rfl, (fun _ hnone => nomatch hnone), hasRead_start⟩) hruns
  · exact hinvariant hanswered
  · intro past state events next hread hagain hanswered
    rw [answeredFrom_append, Nat.zero_add] at hanswered
    obtain ⟨position, hread⟩ := hread hanswered.1
    exact readSoFar_again hread hanswered.2 hagain
  · intro past state events last hread hleave hanswered
    rw [answeredFrom_append, Nat.zero_add] at hanswered
    obtain ⟨position, hread⟩ := hread hanswered.1
    exact hasRead_leave hread hanswered.2 hleave

end PageLoop

/-! ### Completeness -/

/-- **Keyset completeness.** Every row that stays throughout a loop that returns is returned exactly
once, as it was at one of the requests; and if nothing changes, all matching rows are returned in
the order of their ids. -/
theorem read_all_complete {α : Type} (loop : PageLoop α) (reader : AccountingReader)
    (companyId : Int)
    (history : Nat → Records) (fuel : Nat) (trace : List OdooEvent) (items : List α)
    (hanswered : AnsweredFrom history 0 trace)
    (hruns : Program.Runs (loop.readAll reader companyId fuel) trace (.ok (some items))) :
    (∀ identifier, loop.Stays companyId history trace.length identifier →
      (items.map loop.source.idOf).count identifier = 1 ∧
        ∃ item ∈ items, loop.source.idOf item = identifier ∧
          loop.ReadFrom companyId history trace.length identifier item) ∧
    ∀ records, (∀ time < trace.length, history time = records) →
      ∃ converted, List.Forall₂ (loop.Converts companyId) (loop.matching companyId records)
          converted ∧
        items = converted.filter loop.keep ∧ (items.map loop.source.idOf).Pairwise (· < ·) := by
  have hordered := PageLoop.pairwise_of_readAll hruns
  obtain ⟨found, hfound, hresult⟩ := PageLoop.run_of_readAll hruns
  match found, hresult with
  | .ok (some last), hresult =>
      cases hresult
      have hread := PageLoop.hasRead_of_run hanswered hfound
      refine ⟨fun identifier hstays => ?_, fun records hrecords => ?_⟩
      · obtain ⟨item, hitem, hfrom⟩ := hread.stayed identifier rfl hstays
        have hidentifier := hfrom.id_eq
        refine ⟨List.count_eq_one_of_mem (hordered.imp ne_of_lt) ?_, item, hitem,
          hidentifier, hfrom⟩
        exact List.mem_map.mpr ⟨item, hitem, hidentifier⟩
      · obtain ⟨converted, hconverted, hitems⟩ := hread.unchanged records hrecords
        rw [List.filter_eq_self.mpr fun row _ => rfl] at hconverted
        exact ⟨converted, hconverted, hitems, hordered⟩

/-! ### Journals that come and go -/

/-- Every search is answered with the rows it selects at its time. -/
def answerFrom (history : Nat → Records) (request : OdooRequest) (time : Nat) :
    Except PyException (odooSignature.Result request) × Nat :=
  match request with
  | .connect => (.ok (), time + 1)
  | .searchCount model domain _ =>
      (.ok (((history time).select model domain).length : Int), time + 1)
  | .searchRead model domain fields limit offset _ _ =>
      (.ok (((((history time).select model domain).drop offset).take limit).map
        (StoredRow.read fields)), time + 1)
  | .executeMethod _ _ _ _ _ => (.ok .none, time + 1)
  | .close => (.ok (), time + 1)

theorem answeredFrom_traceWith {α : Type} (history : Nat → Records) (program : Odoo α)
    (time : Nat) : AnsweredFrom history time (program.traceWith (answerFrom history) time) := by
  induction program generalizing time with
  | ret value => trivial
  | raise error => trivial
  | ask request continuation ih =>
      cases request with
      | searchRead model domain fields limit offset order companyIds =>
          refine ⟨?_, ih _ _⟩
          intro _ rows hrows
          exact (Except.ok.inj hrows).symm
      | _ => exact ⟨trivial, ih _ _⟩

/-- What a clause of the journal read selects. -/
def journalHolds (row : StoredRow) : PyValue → Bool
  | .list [.str "id", .str ">", .int cursor] => decide (cursor < row.id)
  | .list [.str "company_id", .str "=", .int companyId] =>
      match row.value "company_id" with
      | .list [.int found, _] => found = companyId
      | _ => false
  | _ => false

def storedJournal (identifier : Int) : StoredRow where
  id := identifier
  value
    | "name" => .str "Bank"
    | "code" => .str "BNK1"
    | "type" => .str "bank"
    | "company_id" => .list [.int 1, .str "Company"]
    | _ => .bool false

def storedJournals (identifiers : List Int) (hordered : identifiers.Pairwise (· < ·)) :
    Records where
  rows model := if model = "account.journal" then identifiers.map storedJournal else []
  ordered model := by
    split
    · exact List.pairwise_map.mpr hordered
    · exact .nil
  holds _ clause row := journalHolds row clause
  holds_after _ _ _ := rfl

/-- Between the two requests journals 4 and 11 are added, and 5 and 9 are deleted. -/
def journalHistory (time : Nat) : Records :=
  if time = 0 then storedJournals [3, 5, 7, 9] (by decide)
  else storedJournals [3, 4, 7, 11] (by decide)

/-- The read of the journals, two of them a page. -/
def journalsByTwo : PageLoop Journal :=
  { Cashbook.journals 1 with
    limit := 2
    limit_pos := Nat.two_pos
    limit_le := PageRequest.two_le_max }

def readJournals (history : Nat → Records) : Except PyException (Option (List Journal)) × Nat :=
  (journalsByTwo.readAll ⟨some [1]⟩ 1 2).runWith (answerFrom history) 0

def journalTrace (history : Nat → Records) : List OdooEvent :=
  (journalsByTwo.readAll ⟨some [1]⟩ 1 2).traceWith (answerFrom history) 0

theorem runs_readJournals (history : Nat → Records) (identifiers : List Int)
    (hread : ((readJournals history).1.toOption.bind fun items =>
      items.map (List.map Journal.id)) = some identifiers) :
    ∃ items : List Journal, items.map Journal.id = identifiers ∧
      Program.Runs (journalsByTwo.readAll ⟨some [1]⟩ 1 2) (journalTrace history)
        (.ok (some items)) := by
  have hruns : Program.Runs (journalsByTwo.readAll ⟨some [1]⟩ 1 2) (journalTrace history)
      (readJournals history).1 := Program.runs_traceWith _ 0
  cases hresult : (readJournals history).1 with
  | error error => simp [hresult, Except.toOption] at hread
  | ok found =>
      cases found with
      | none => simp [hresult, Except.toOption] at hread
      | some items =>
          rw [hresult] at hruns
          exact ⟨items, by simpa [hresult, Except.toOption] using hread, hruns⟩

/-- Journal 7 is there at both requests and is returned once, whatever happens around it; and from
journals at rest all are returned. -/
theorem read_all_complete_journals :
    (∃ items : List Journal, items.map Journal.id = [3, 5, 7, 11] ∧
      Program.Runs (journalsByTwo.readAll ⟨some [1]⟩ 1 2) (journalTrace journalHistory)
        (.ok (some items)) ∧
      (journalTrace journalHistory).length = 2 ∧
      ∃ item ∈ items, item.id = 7 ∧ journalsByTwo.ReadFrom 1 journalHistory 2 7 item) ∧
    ∃ items converted : List Journal, items.map Journal.id = [3, 5, 7, 9] ∧
      Program.Runs (journalsByTwo.readAll ⟨some [1]⟩ 1 2) (journalTrace fun _ => journalHistory 0)
        (.ok (some items)) ∧
      List.Forall₂ (journalsByTwo.Converts 1) ([3, 5, 7, 9].map storedJournal) converted ∧
      items = converted.filter fun _ => true := by
  refine ⟨?_, ?_⟩
  · obtain ⟨items, hidentifiers, hruns⟩ :=
      runs_readJournals journalHistory [3, 5, 7, 11] (by decide +kernel)
    have hlength : (journalTrace journalHistory).length = 2 := by decide +kernel
    have hstays : journalsByTwo.Stays 1 journalHistory (journalTrace journalHistory).length 7 := by
      intro time _
      refine ⟨storedJournal 7, ?_, rfl, fun _ _ => rfl⟩
      unfold journalHistory
      by_cases hfirst : time = 0
      · rw [if_pos hfirst]
        change storedJournal 7 ∈ [3, 5, 7, 9].map storedJournal
        exact List.mem_map_of_mem (by decide)
      · rw [if_neg hfirst]
        change storedJournal 7 ∈ [3, 4, 7, 11].map storedJournal
        exact List.mem_map_of_mem (by decide)
    obtain ⟨-, item, hitem, hidentifier, hread⟩ :=
      (read_all_complete journalsByTwo ⟨some [1]⟩ 1 journalHistory 2 (journalTrace journalHistory)
        items (answeredFrom_traceWith _ _ 0) hruns).1 7 hstays
    rw [hlength] at hread
    exact ⟨items, hidentifiers, hruns, hlength, item, hitem, hidentifier, hread⟩
  · obtain ⟨items, hidentifiers, hruns⟩ :=
      runs_readJournals (fun _ => journalHistory 0) [3, 5, 7, 9] (by decide +kernel)
    obtain ⟨converted, hconverted, hitems, -⟩ :=
      (read_all_complete journalsByTwo ⟨some [1]⟩ 1 (fun _ => journalHistory 0) 2 _ items
        (answeredFrom_traceWith _ _ 0) hruns).2 (journalHistory 0) fun _ _ => rfl
    exact ⟨items, converted, hidentifiers, hruns, hconverted, hitems⟩

end OdooMcp
