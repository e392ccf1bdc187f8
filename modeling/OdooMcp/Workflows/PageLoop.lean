import OdooMcp.Adapters.PagedReads

/-!
# Loops over the pages of a read

A workflow that needs all records of a read follows the cursors until a page names no next one. The
copies of that loop differ in what they check of a page and of a cursor, in the items they keep and
in how many of these they accept.
-/

namespace OdooMcp

open Effect AccountingReader

structure PageLoop (α : Type) where
  source : PagedRead α
  limit : Nat
  limit_pos : 1 ≤ limit
  limit_le : limit ≤ 500
  /-- What is checked of a page, given the ids seen before. -/
  checkPage : List Int → RecordPage α → Except PyException Unit
  keep : α → Bool
  bound : Nat
  tooMany : PyException
  /-- What is checked of a next cursor, given those seen before and the current one. -/
  checkNext : List String → Option String → String → Except PyException Unit

structure PageState (α : Type) where
  items : List α
  seenIds : List Int
  seenCursors : List String
  cursor : Option String

namespace PageState

variable {α : Type}

def start : PageState α := ⟨[], [], [], none⟩

/-- The state in which the next read of the same workflow starts. -/
def restart (state : PageState α) : PageState α := ⟨state.items, state.seenIds, [], none⟩

def follow (state : PageState α) (next : String) : PageState α :=
  { state with seenCursors := next :: state.seenCursors, cursor := some next }

end PageState

namespace PageLoop

variable {α : Type} (loop : PageLoop α) (reader : AccountingReader) (companyId : Int)

def add (state : PageState α) (page : RecordPage α) : PageState α :=
  { state with
    items := state.items ++ page.items.filter loop.keep
    seenIds := state.seenIds ++ page.items.map loop.source.idOf }

/-- One round: read a page, check it, and go on from its cursor or leave. -/
def body (state : PageState α) : Odoo (Round (PageState α) (PageState α)) := do
  let request ← Program.ofExcept
    (PageRequest.build loop.limit state.cursor loop.limit_pos loop.limit_le)
  let page ← reader.pagedRead loop.source companyId request
  Program.ofExcept (loop.checkPage state.seenIds page)
  let read := loop.add state page
  Program.ofExcept (ensure (read.items.length ≤ loop.bound) loop.tooMany)
  match page.nextCursor with
  | none => return .leave read
  | some next => do
      Program.ofExcept (loop.checkNext state.seenCursors state.cursor next)
      return .again (read.follow next)

def run (fuel : Nat) (state : PageState α) : Odoo (Option (PageState α)) :=
  Program.loop (loop.body reader companyId) fuel state

/-- All items of the read, in at most `fuel` rounds. -/
def readAll (fuel : Nat) : Odoo (Option (List α)) := do
  let found ← loop.run reader companyId fuel .start
  return found.map (·.items)

variable {loop reader companyId}

theorem build_ok {limit : Nat} {cursor : Option String} {limit_pos : 1 ≤ limit}
    {limit_le : limit ≤ 500} {request : PageRequest}
    (hrequest : PageRequest.build limit cursor limit_pos limit_le = .ok request) :
    request.limit = limit ∧ request.cursor = cursor := by
  unfold PageRequest.build at hrequest
  split at hrequest
  · cases hrequest
    exact ⟨rfl, rfl⟩
  · cases hrequest

/-- What a round has read when it does not raise an error. -/
structure Turn (loop : PageLoop α) (reader : AccountingReader) (companyId : Int)
    (state : PageState α) (trace : List OdooEvent) where
  request : PageRequest
  page : RecordPage α
  limited : request.limit = loop.limit
  continued : request.cursor = state.cursor
  read : Program.Runs (reader.pagedRead loop.source companyId request) trace (.ok page)
  checked : loop.checkPage state.seenIds page = .ok ()
  within : (loop.add state page).items.length ≤ loop.bound

theorem Turn.keyset {state : PageState α} {trace : List OdooEvent}
    (turn : Turn loop reader companyId state trace) :
    KeysetPage loop.source.idOf turn.request turn.page :=
  keyset_pagedRead loop.source turn.read

/-- How the round ends: it goes on from the next cursor of the page, or leaves if there is none. -/
def Turn.Ends {state : PageState α} {trace : List OdooEvent}
    (turn : Turn loop reader companyId state trace) (round : Round (PageState α) (PageState α)) :
    Prop :=
  match turn.page.nextCursor with
  | none => round = .leave (loop.add state turn.page)
  | some next => loop.checkNext state.seenCursors state.cursor next = .ok () ∧
      round = .again ((loop.add state turn.page).follow next)

theorem turn_of_runs {state : PageState α} {trace : List OdooEvent}
    {round : Round (PageState α) (PageState α)}
    (hruns : Program.Runs (loop.body reader companyId state) trace (.ok round)) :
    ∃ turn : Turn loop reader companyId state trace, turn.Ends round := by
  obtain ⟨request, hrequest, hruns⟩ := Program.runs_ofExcept_bind_ok.mp hruns
  obtain ⟨page, first, last, rfl, hpage, hrest⟩ := Program.runs_bind_ok.mp hruns
  obtain ⟨⟨⟩, hchecked, hrest⟩ := Program.runs_ofExcept_bind_ok.mp hrest
  obtain ⟨⟨⟩, hwithin, hrest⟩ := Program.runs_ofExcept_bind_ok.mp hrest
  obtain ⟨hlimited, hcontinued⟩ := build_ok hrequest
  rw [ensure_ok, decide_eq_true_eq] at hwithin
  cases hnext : page.nextCursor with
  | none =>
      rw [hnext] at hrest
      obtain ⟨rfl, hround⟩ := Program.runs_ret.mp hrest
      cases hround
      rw [List.append_nil]
      refine ⟨⟨request, page, hlimited, hcontinued, hpage, hchecked, hwithin⟩, ?_⟩
      simp only [Turn.Ends, hnext]
  | some next =>
      rw [hnext] at hrest
      obtain ⟨⟨⟩, hcheckedNext, hlast⟩ := Program.runs_ofExcept_bind_ok.mp hrest
      obtain ⟨rfl, hround⟩ := Program.runs_ret.mp hlast
      cases hround
      rw [List.append_nil]
      refine ⟨⟨request, page, hlimited, hcontinued, hpage, hchecked, hwithin⟩, ?_⟩
      simp only [Turn.Ends, hnext]
      exact ⟨hcheckedNext, trivial⟩

theorem again_of_runs {state next : PageState α} {trace : List OdooEvent}
    (hruns : Program.Runs (loop.body reader companyId state) trace (.ok (.again next))) :
    ∃ turn : Turn loop reader companyId state trace, ∃ cursor ∈ turn.page.nextCursor,
      loop.checkNext state.seenCursors state.cursor cursor = .ok () ∧
      next = (loop.add state turn.page).follow cursor := by
  obtain ⟨turn, hends⟩ := turn_of_runs hruns
  unfold Turn.Ends at hends
  split at hends
  · cases hends
  · rename_i cursor hcursor
    exact ⟨turn, cursor, hcursor, hends.1, Round.again.inj hends.2⟩

theorem leave_of_runs {state last : PageState α} {trace : List OdooEvent}
    (hruns : Program.Runs (loop.body reader companyId state) trace (.ok (.leave last))) :
    ∃ turn : Turn loop reader companyId state trace, turn.page.nextCursor = none ∧
      last = loop.add state turn.page := by
  obtain ⟨turn, hends⟩ := turn_of_runs hruns
  unfold Turn.Ends at hends
  split at hends
  · rename_i hnone
    exact ⟨turn, hnone, Round.leave.inj hends⟩
  · cases hends.2

theorem atMost_body (state : PageState α) :
    Program.AtMost (searches loop.source.model) 1
      (loop.body reader companyId state) := by
  refine .ofExcept_bind fun request => ?_
  refine (atMost_pagedRead loop.source companyId request).bind_none fun page => ?_
  refine .ofExcept_bind fun _ => .ofExcept_bind fun _ => ?_
  split
  · exact .ret _
  · exact .ofExcept_bind fun _ => .ret _

/-! ### How many pages are read -/

section Bound

variable (hkeep : ∀ item, loop.keep item = true)
include hkeep

theorem items_add (state : PageState α) (page : RecordPage α) :
    (loop.add state page).items = state.items ++ page.items := by
  rw [add, List.filter_eq_self.mpr fun item _ => hkeep item]

/-- Every continued round adds a full page. -/
theorem length_again {state next : PageState α} {trace : List OdooEvent}
    (hagain : Program.Runs (loop.body reader companyId state) trace (.ok (.again next))) :
    next.items.length = state.items.length + loop.limit ∧ next.items.length ≤ loop.bound := by
  obtain ⟨turn, cursor, hcursor, -, rfl⟩ := again_of_runs hagain
  refine ⟨?_, turn.within⟩
  change (loop.add state turn.page).items.length = _
  rw [items_add hkeep, List.length_append, turn.keyset.full cursor hcursor, turn.limited]

theorem size_again {state next : PageState α} {trace : List OdooEvent}
    (hagain : Program.Runs (loop.body reader companyId state) trace (.ok (.again next))) :
    True ∧ (loop.bound - next.items.length) / loop.limit <
      (loop.bound - state.items.length) / loop.limit := by
  obtain ⟨hlength, hbound⟩ := length_again hkeep hagain
  refine ⟨trivial, ?_⟩
  have hsplit : loop.bound - state.items.length =
      loop.bound - next.items.length + loop.limit := by omega
  rw [hsplit, Nat.add_div_right _ loop.limit_pos]
  exact Nat.lt_succ_self _

/-- The loop makes at most as many page reads as full pages fit its bound, and one more. -/
theorem atMost_run (fuel : Nat) (state : PageState α) :
    Program.AtMost (searches loop.source.model)
      ((loop.bound - state.items.length) / loop.limit + 1)
      (loop.run reader companyId fuel state) :=
  Program.countP_loop_le (fun _ => True)
    (fun state => (loop.bound - state.items.length) / loop.limit) atMost_body
    (fun _ _ _ _ hagain => size_again hkeep hagain) trivial

theorem run_terminates {fuel : Nat} {state : PageState α}
    (hfuel : (loop.bound - state.items.length) / loop.limit < fuel) {trace : List OdooEvent}
    {result : Except PyException (Option (PageState α))}
    (hruns : Program.Runs (loop.run reader companyId fuel state) trace result) :
    result ≠ .ok none :=
  Program.loop_terminates (fun _ => True)
    (fun state => (loop.bound - state.items.length) / loop.limit)
    (fun _ _ _ _ hagain => size_again hkeep hagain) trivial hfuel hruns

end Bound

/-! ### What is returned -/

/-- The items are in the order of their ids, and the cursor is not before any of them. -/
structure Ordered (idOf : α → Int) (state : PageState α) : Prop where
  ordered : (state.items.map idOf).Pairwise (· < ·)
  before : ∀ item ∈ state.items, ∃ cursor ∈ state.cursor, cursor.length ≤ 128 →
    ∀ identifier, decodeCursor cursor = .ok identifier → idOf item ≤ identifier

theorem map_id_add {idOf : α → Int} (state : PageState α) (page : RecordPage α) :
    ((loop.add state page).items.map idOf) =
      state.items.map idOf ++ (page.items.filter loop.keep).map idOf := by
  rw [add, List.map_append]

section Turn

variable {state : PageState α} {trace : List OdooEvent}

/-- The items of a page come after those read before it. -/
theorem Turn.before_page (turn : Turn loop reader companyId state trace)
    (hordered : Ordered loop.source.idOf state) {item other : α} (hitem : item ∈ state.items)
    (hother : other ∈ turn.page.items) : loop.source.idOf item < loop.source.idOf other := by
  have hkeyset := turn.keyset
  obtain ⟨cursor, hcursor, hbefore⟩ := hordered.before item hitem
  rw [← turn.continued] at hcursor
  obtain ⟨identifier, hidentifier⟩ := hkeyset.decoded cursor hcursor
  exact lt_of_le_of_lt (hbefore (turn.request.cursor_le cursor hcursor) identifier hidentifier)
    (hkeyset.after cursor hcursor identifier hidentifier other hother)

theorem Turn.ordered (turn : Turn loop reader companyId state trace)
    (hordered : Ordered loop.source.idOf state) :
    ((loop.add state turn.page).items.map loop.source.idOf).Pairwise (· < ·) := by
  rw [map_id_add]
  refine List.pairwise_append.mpr ⟨hordered.ordered, ?_, ?_⟩
  · exact turn.keyset.ordered.sublist (List.filter_sublist.map _)
  · intro first hfirst second hsecond
    obtain ⟨item, hitem, rfl⟩ := List.mem_map.mp hfirst
    obtain ⟨other, hother, rfl⟩ := List.mem_map.mp hsecond
    exact turn.before_page hordered hitem (List.mem_of_mem_filter hother)

theorem le_getLast {identifiers : List Int} (hordered : identifiers.Pairwise (· < ·))
    {last identifier : Int} (hlast : last ∈ identifiers.getLast?)
    (hidentifier : identifier ∈ identifiers) : identifier ≤ last := by
  obtain ⟨before, rfl⟩ := List.getLast?_eq_some_iff.mp hlast
  rcases List.mem_append.mp hidentifier with hbefore | hsame
  · exact le_of_lt ((List.pairwise_append.mp hordered).2.2 _ hbefore _ (List.mem_singleton.mpr rfl))
  · exact le_of_eq (List.mem_singleton.mp hsame)

theorem Turn.ordered_follow (turn : Turn loop reader companyId state trace)
    (hordered : Ordered loop.source.idOf state) {cursor : String}
    (hcursor : cursor ∈ turn.page.nextCursor) :
    Ordered loop.source.idOf ((loop.add state turn.page).follow cursor) := by
  have hkeyset := turn.keyset
  refine ⟨turn.ordered hordered,
    fun item hitem => ⟨cursor, rfl, fun hlength identifier hidentifier => ?_⟩⟩
  obtain ⟨last, hlast, rfl⟩ := hkeyset.next cursor hcursor
  have hmem := List.mem_of_getLast? hlast
  rw [decodeCursor_encodeCursor (hkeyset.positive last hmem) hlength] at hidentifier
  cases hidentifier
  rcases List.mem_append.mp hitem with hold | hnew
  · exact le_of_lt (turn.before_page hordered hold hmem)
  · refine le_getLast hkeyset.ordered ?_ (List.mem_map_of_mem (List.mem_of_mem_filter hnew))
    rw [List.getLast?_map, Option.mem_def.mp hlast]
    rfl

end Turn

theorem ordered_start (idOf : α → Int) : Ordered idOf PageState.start :=
  ⟨.nil, fun _ hitem => nomatch hitem⟩

/-- **What a loop returns is in the order of the ids.** -/
theorem pairwise_of_run {fuel : Nat} {state : PageState α}
    (hordered : Ordered loop.source.idOf state) {trace : List OdooEvent} {last : PageState α}
    (hruns : Program.Runs (loop.run reader companyId fuel state) trace (.ok (some last))) :
    (last.items.map loop.source.idOf).Pairwise (· < ·) := by
  refine Program.loop_state_invariant (Ordered loop.source.idOf)
    (fun last => (last.items.map loop.source.idOf).Pairwise (· < ·)) ?_ ?_ hordered hruns
  · intro state events next hstate hagain
    obtain ⟨turn, cursor, hcursor, -, rfl⟩ := again_of_runs hagain
    exact turn.ordered_follow hstate hcursor
  · intro state events last hstate hleave
    obtain ⟨turn, -, rfl⟩ := leave_of_runs hleave
    exact turn.ordered hstate

/-- What a loop returns is not more than its bound. -/
theorem length_of_run {fuel : Nat} {state : PageState α} {trace : List OdooEvent}
    {last : PageState α}
    (hruns : Program.Runs (loop.run reader companyId fuel state) trace (.ok (some last))) :
    last.items.length ≤ loop.bound := by
  refine Program.loop_state_invariant (fun _ => True) (fun last => last.items.length ≤ loop.bound)
    (fun _ _ _ _ _ => trivial) ?_ trivial hruns
  intro state events last _ hleave
  obtain ⟨turn, -, rfl⟩ := leave_of_runs hleave
  exact turn.within

/-! ### Reads that share their items -/

/-- The loop rejects a page with an id it has seen before. -/
def ChecksSeen (loop : PageLoop α) : Prop :=
  ∀ seenIds page, loop.checkPage seenIds page = .ok () →
    ∀ item ∈ page.items, loop.source.idOf item ∉ seenIds

/-- All ids that were seen are those of the items, and no two are equal. -/
structure Distinct (idOf : α → Int) (state : PageState α) : Prop where
  seen : state.seenIds = state.items.map idOf
  nodup : (state.items.map idOf).Nodup

theorem distinct_start (idOf : α → Int) : Distinct idOf PageState.start :=
  ⟨rfl, List.nodup_nil⟩

theorem Turn.distinct (hkeep : ∀ item, loop.keep item = true) (hchecks : loop.ChecksSeen)
    {state : PageState α} {trace : List OdooEvent}
    (turn : Turn loop reader companyId state trace) (hdistinct : Distinct loop.source.idOf state) :
    Distinct loop.source.idOf (loop.add state turn.page) := by
  have hitems := items_add hkeep state turn.page
  refine ⟨?_, ?_⟩
  · rw [hitems, List.map_append, ← hdistinct.seen]
    rfl
  · rw [hitems, List.map_append]
    refine List.Nodup.append hdistinct.nodup (turn.keyset.ordered.imp fun hlt => ne_of_lt hlt) ?_
    intro identifier hold hnew
    obtain ⟨item, hitem, rfl⟩ := List.mem_map.mp hnew
    rw [← hdistinct.seen] at hold
    exact hchecks _ _ turn.checked item hitem hold

theorem distinct_of_run (hkeep : ∀ item, loop.keep item = true) (hchecks : loop.ChecksSeen)
    {fuel : Nat} {state : PageState α} (hdistinct : Distinct loop.source.idOf state)
    {trace : List OdooEvent} {last : PageState α}
    (hruns : Program.Runs (loop.run reader companyId fuel state) trace (.ok (some last))) :
    Distinct loop.source.idOf last := by
  refine Program.loop_state_invariant (Distinct loop.source.idOf)
    (Distinct loop.source.idOf) ?_ ?_ hdistinct hruns
  · intro state events next hstate hagain
    obtain ⟨turn, cursor, -, -, rfl⟩ := again_of_runs hagain
    have hadded := turn.distinct hkeep hchecks hstate
    exact ⟨hadded.seen, hadded.nodup⟩
  · intro state events last hstate hleave
    obtain ⟨turn, -, rfl⟩ := leave_of_runs hleave
    exact turn.distinct hkeep hchecks hstate

/-- A read makes at most one page read more than the items it added fill pages. -/
theorem countP_run_le (hkeep : ∀ item, loop.keep item = true) {fuel : Nat} {state : PageState α}
    {trace : List OdooEvent} {last : PageState α}
    (hruns : Program.Runs (loop.run reader companyId fuel state) trace (.ok (some last))) :
    state.items.length ≤ last.items.length ∧ last.items.length ≤ loop.bound ∧
      trace.countP (searches loop.source.model) ≤
        (last.items.length - state.items.length) / loop.limit + 1 := by
  have hends := Program.loop_invariant
    (fun past found => past.countP (searches loop.source.model) * loop.limit +
      state.items.length ≤ found.items.length)
    (fun past found => (past.countP (searches loop.source.model) - 1) * loop.limit +
      state.items.length ≤ found.items.length ∧ found.items.length ≤ loop.bound)
    ?_ ?_ [] (by simp) hruns
  · obtain ⟨hcount, hbound⟩ := hends
    rw [List.nil_append] at hcount
    refine ⟨by omega, hbound, ?_⟩
    have hrounds := (Nat.le_div_iff_mul_le loop.limit_pos).mpr (Nat.le_sub_of_add_le hcount)
    omega
  · intro past found events next hholds hagain
    have hone := atMost_body found events _ hagain
    obtain ⟨hlength, -⟩ := length_again hkeep hagain
    rw [List.countP_append, Nat.add_mul, hlength]
    have hmul := Nat.mul_le_mul_right loop.limit hone
    omega
  · intro past found events last hholds hleave
    have hone := atMost_body found events _ hleave
    obtain ⟨turn, -, rfl⟩ := leave_of_runs hleave
    rw [List.countP_append]
    refine ⟨?_, turn.within⟩
    have hmul : (past.countP (searches loop.source.model) +
        events.countP (searches loop.source.model) - 1) * loop.limit ≤
          past.countP (searches loop.source.model) * loop.limit :=
      Nat.mul_le_mul_right _ (by omega)
    rw [items_add hkeep, List.length_append]
    omega

end PageLoop

/-- `identifiers[start : start + size]` for `start in range(0, len(identifiers), size)`. -/
def pageChunks (size : Nat) (identifiers : List Int) : List (List Int) :=
  (List.range ((identifiers.length + size - 1) / size)).map fun index =>
    (identifiers.drop (index * size)).take size

/-- One read after the other, each of a chunk of ids, into one list of items. -/
def readChunks {α : Type} (loopOf : List Int → PageLoop α) (reader : AccountingReader)
    (companyId : Int) (fuel : Nat) :
    List (List Int) → PageState α → Odoo (Option (PageState α))
  | [], state => return some state
  | chunk :: chunks, state => do
      let found ← (loopOf chunk).run reader companyId fuel state.restart
      match found with
      | none => return none
      | some next => readChunks loopOf reader companyId fuel chunks next

/-! ### Programs that end -/

/-- Whatever the answers are, the program makes at most so many searches of the model, it ends with
that much fuel, and no two items it returns have the same id. -/
structure EndsWithin {α : Type} (idOf : α → Int) (model : String) (reads : Nat)
    (program : Nat → Odoo (Option (List α))) : Prop where
  reads_le : ∀ fuel, Program.AtMost (searches model) reads (program fuel)
  ends : ∀ fuel, reads ≤ fuel → ∀ trace result, Program.Runs (program fuel) trace result →
    result ≠ .ok none
  distinct : ∀ fuel trace items, Program.Runs (program fuel) trace (.ok (some items)) →
    (items.map idOf).Nodup

/-- The same against one transport: the searches are so many at most, the program ends, and what it
returns has distinct ids. -/
structure EndsWithinOn {α World : Type}
    (transport : (request : OdooRequest) → World →
      Except PyException (odooSignature.Result request) × World)
    (world : World) (idOf : α → Int) (model : String) (reads : Nat)
    (program : Nat → Odoo (Option (List α))) : Prop where
  reads_le : ∀ fuel, ((program fuel).traceWith transport world).countP (searches model) ≤ reads
  ends : ∃ fuel, ((program fuel).runWith transport world).1 ≠ .ok none
  distinct : ∀ fuel items, ((program fuel).runWith transport world).1 = .ok (some items) →
    (items.map idOf).Nodup

theorem EndsWithin.on {α World : Type} {idOf : α → Int} {model : String} {reads : Nat}
    {program : Nat → Odoo (Option (List α))} (hends : EndsWithin idOf model reads program)
    (transport : (request : OdooRequest) → World →
      Except PyException (odooSignature.Result request) × World) (world : World) :
    EndsWithinOn transport world idOf model reads program where
  reads_le fuel := hends.reads_le fuel _ _ (Program.runs_traceWith (program fuel) world)
  ends := ⟨reads, hends.ends reads le_rfl _ _ (Program.runs_traceWith (program reads) world)⟩
  distinct fuel items hitems := by
    have hruns : Program.Runs (program fuel) ((program fuel).traceWith transport world) _ :=
      Program.runs_traceWith (program fuel) world
    rw [hitems] at hruns
    exact hends.distinct fuel _ items hruns

namespace PageLoop

variable {α : Type} {loop : PageLoop α} {reader : AccountingReader} {companyId : Int}

theorem run_of_readAll {fuel : Nat} {trace : List OdooEvent}
    {result : Except PyException (Option (List α))}
    (hruns : Program.Runs (loop.readAll reader companyId fuel) trace result) :
    ∃ found, Program.Runs (loop.run reader companyId fuel .start) trace found ∧
      result = found.map (Option.map (·.items)) := by
  rw [readAll, Program.bind_eq, Program.runs_bind] at hruns
  rcases hruns with ⟨found, first, rest, rfl, hfirst, hrest⟩ | ⟨error, rfl, herror⟩
  · obtain ⟨rfl, rfl⟩ := Program.runs_ret.mp hrest
    rw [List.append_nil]
    exact ⟨.ok found, hfirst, rfl⟩
  · exact ⟨.error error, herror, rfl⟩

theorem runs_readAll {fuel : Nat} {trace : List OdooEvent}
    {found : Except PyException (Option (PageState α))}
    (hruns : Program.Runs (loop.run reader companyId fuel .start) trace found) :
    Program.Runs (loop.readAll reader companyId fuel) trace
      (found.map (Option.map (·.items))) := by
  rw [readAll, Program.bind_eq, Program.runs_bind]
  cases found with
  | ok found => exact .inl ⟨found, trace, [], by rw [List.append_nil], hruns, .ret _⟩
  | error error => exact .inr ⟨error, rfl, hruns⟩

/-- What a read that returned has returned is in the order of the ids. -/
theorem pairwise_of_readAll {fuel : Nat} {trace : List OdooEvent} {items : List α}
    (hruns : Program.Runs (loop.readAll reader companyId fuel) trace (.ok (some items))) :
    (items.map loop.source.idOf).Pairwise (· < ·) := by
  obtain ⟨found, hfound, hresult⟩ := run_of_readAll hruns
  match found, hresult with
  | .ok (some last), hresult =>
      cases hresult
      exact pairwise_of_run (ordered_start _) hfound

/-- **A loop that keeps every item ends**, after at most one page read more than full pages fit its
bound. -/
theorem endsWithin_readAll (hkeep : ∀ item, loop.keep item = true) :
    EndsWithin loop.source.idOf loop.source.model (loop.bound / loop.limit + 1)
      (loop.readAll reader companyId) := by
  refine ⟨fun fuel => ?_, fun fuel hfuel trace result hruns => ?_, fun fuel trace items hruns => ?_⟩
  · exact (atMost_run hkeep fuel .start).bind_none fun _ => .ret _
  · obtain ⟨found, hfound, rfl⟩ := run_of_readAll hruns
    have hnone := run_terminates hkeep hfuel hfound
    match found, hnone with
    | .ok (some last), _ => simp [Except.map]
    | .error error, _ => simp [Except.map]
  · exact (pairwise_of_readAll hruns).imp fun hlt => ne_of_lt hlt

end PageLoop

end OdooMcp
