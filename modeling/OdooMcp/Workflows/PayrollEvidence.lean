import OdooMcp.Adapters.PayrollListings
import OdooMcp.Effect.Loop

/-!
# Collecting pages of payroll records

The evidence workflows read all pages of an adapter. They trust nothing that it hands over, and stop
after a bounded number of pages.
-/

namespace OdooMcp

open Effect Pagination

namespace PayrollEvidence

/-- `_malformed_source` -/
def malformedSource : PyException :=
  payrollError .odooApiError "Odoo returned invalid or incomplete Payroll data."
    "Check Odoo Payroll compatibility, data integrity, and access, then retry."

/-- `_too_large` -/
def tooLargeResult : PyException :=
  payrollError .payrollResultTooLarge "The Payroll result exceeds the safe processing bound."
    "Narrow the Payroll period or identifiers and retry."

/-! ### Collecting pages -/

/-- `_PAGE_SIZE` -/
def pageSize : Nat := 200

/-- What an adapter hands over as a page, with `none` for items that are no list and for an item of
another type. -/
structure FetchedPage (α : Type) where
  items : Option (List (Option α))
  totalCount : PyValue
  nextCursor : PyValue

/-- An adapter is asked for pages. What it hands over may be no page at all. -/
abbrev fetchSignature (α : Type) : Signature where
  Request := PayrollPageRequest
  Result _ := Option (FetchedPage α)

abbrev Fetching (α β : Type) : Type := Program (fetchSignature α) PyException β

/-- The local variables of `_collect_pages`. -/
structure Collected (α : Type) where
  items : List α
  seenIds : List Int
  seenCursors : List String
  cursor : Option String
  expectedTotal : Option Nat

def Collected.start {α : Type} : Collected α := ⟨[], [], [], none, none⟩

section Collecting

variable {α : Type}

def nextCursorOf : PyValue → Except PyException (Option String)
  | .none => .ok none
  | .str cursor => .ok (some cursor)
  | _ => .error malformedSource

def checkPage (fetched : Option (FetchedPage α)) :
    Except PyException (List (Option α) × Nat × Option String) := do
  let page ← orRaise fetched malformedSource
  let items ← orRaise page.items malformedSource
  let total ← orRaise (Field.nonNegativeInt page.totalCount) malformedSource
  let next ← nextCursorOf page.nextCursor
  ensure (items.length ≤ pageSize && next.all fun cursor => cursor.length ≤ 128) malformedSource
  return (items, total.toNat, next)

def checkTotal (cap : Nat) (expected : Option Nat) (total : Nat) : Except PyException Unit :=
  match expected with
  | none => ensure (total ≤ cap) tooLargeResult
  | some expected => ensure (total = expected) malformedSource

variable (cap total : Nat) (idOf : α → PyValue)

/-- The item loop of `_collect_pages`. -/
def acceptItems (items : List α) (seen : List Int) :
    List (Option α) → Except PyException (List α × List Int)
  | [] => .ok (items, seen)
  | fetched :: rest => do
      let item ← orRaise fetched malformedSource
      let identifier ← orRaise (Field.positiveInt (idOf item)) malformedSource
      ensure (!seen.contains identifier) malformedSource
      ensure (items.length + 1 ≤ cap && items.length + 1 ≤ total) malformedSource
      acceptItems (items ++ [item]) (identifier :: seen) rest

/-- The body of the loop of `_collect_pages`. -/
def collectRound (state : Collected α) : Fetching α (Round (Collected α) (List α)) := do
  let request ← Program.ofExcept (PayrollPageRequest.build pageSize state.cursor)
  let fetched ← Program.call request
  let (pageItems, total, next) ← Program.ofExcept (checkPage fetched)
  Program.ofExcept (checkTotal cap state.expectedTotal total)
  Program.ofExcept (ensure (!(next.isSome && pageItems.isEmpty)) malformedSource)
  let (items, seenIds) ← Program.ofExcept
    (acceptItems cap total idOf state.items state.seenIds pageItems)
  match next with
  | none => do
      Program.ofExcept (ensure (items.length = total) malformedSource)
      return .leave items
  | some cursor => do
      Program.ofExcept (ensure (!state.seenCursors.contains cursor) malformedSource)
      return .again ⟨items, seenIds, cursor :: state.seenCursors, some cursor, some total⟩

/-- `_collect_pages`, for at most `fuel` rounds. -/
def collectPages (fuel : Nat) : Fetching α (Option (List α)) :=
  Program.loop (collectRound cap idOf) fuel .start

end Collecting

/-! ### What collecting keeps -/

section Collecting

variable {α : Type} {cap : Nat} {idOf : α → PyValue}

/-- The items have distinct positive ids, and there are no more of them than the cap allows. -/
structure Collecting (cap : Nat) (idOf : α → PyValue) (items : List α) (seenIds : List Int) :
    Prop where
  ids : items.map idOf = seenIds.reverse.map .int
  positive : ∀ identifier ∈ seenIds, 0 < identifier
  nodup : seenIds.Nodup
  bounded : items.length ≤ cap

theorem acceptItems_ok {total : Nat} {items accepted : List α} {seen seenAfter : List Int}
    {fetched : List (Option α)}
    (haccepted : acceptItems cap total idOf items seen fetched = .ok (accepted, seenAfter))
    (hitems : Collecting cap idOf items seen) :
    Collecting cap idOf accepted seenAfter ∧
      accepted.length = items.length + fetched.length := by
  induction fetched generalizing items seen with
  | nil =>
      cases haccepted
      exact ⟨hitems, rfl⟩
  | cons fetched rest ih =>
      obtain ⟨item, -, hrest⟩ := except_bind_ok.mp haccepted
      obtain ⟨identifier, hidentifier, hrest⟩ := except_bind_ok.mp hrest
      obtain ⟨⟨⟩, hfresh, hrest⟩ := except_bind_ok.mp hrest
      obtain ⟨⟨⟩, hbounded, hrest⟩ := except_bind_ok.mp hrest
      have hid : idOf item = .int identifier ∧ 0 < identifier := by
        have hread := orRaise_ok.mp hidentifier
        unfold Field.positiveInt at hread
        split at hread
        · rename_i value hvalue
          split at hread
          · rename_i hpositive
            cases hread
            exact ⟨hvalue, hpositive⟩
          · cases hread
        · cases hread
      have hnew : identifier ∉ seen := by simpa using ensure_ok.mp hfresh
      simp only [ensure_ok, Bool.and_eq_true, decide_eq_true_eq] at hbounded
      obtain ⟨hkept, hlength⟩ := ih hrest {
        ids := by simp [hitems.ids, hid.1]
        positive := List.forall_mem_cons.mpr ⟨hid.2, hitems.positive⟩
        nodup := List.nodup_cons.mpr ⟨hnew, hitems.nodup⟩
        bounded := by simpa using hbounded.1 }
      refine ⟨hkept, ?_⟩
      rw [hlength, List.length_append, List.length_singleton, List.length_cons]
      omega

def nextRound (state : Collected α) (total : Nat) (items : List α) (seenIds : List Int) :
    Option String → Round (Collected α) (List α)
  | none => .leave items
  | some cursor => .again ⟨items, seenIds, cursor :: state.seenCursors, some cursor, some total⟩

/-- A round asks for one page. It goes on with more items than before, and leaves with as many as
the page says. -/
structure RoundDone (cap : Nat) (idOf : α → PyValue) (state : Collected α)
    (event : Event (fetchSignature α) PyException) (total : Nat) (items : List α)
    (seenIds : List Int) (next : Option String) : Prop where
  answered : ∃ page, event.answer = .ok (some page) ∧ page.totalCount = .int total
  expected : ∀ expected ∈ state.expectedTotal, total = expected
  kept : Collecting cap idOf state.items state.seenIds →
    Collecting cap idOf items seenIds ∧ (next.isSome → state.items.length < items.length)
  complete : next = none → items.length = total

theorem collectRound_ok {state : Collected α} {round : Round (Collected α) (List α)}
    {events : List (Event (fetchSignature α) PyException)}
    (hruns : Program.Runs (collectRound cap idOf state) events (.ok round)) :
    ∃ event total items seenIds next, events = [event] ∧
      round = nextRound state total items seenIds next ∧
      RoundDone cap idOf state event total items seenIds next := by
  unfold collectRound at hruns
  obtain ⟨request, -, hruns⟩ := Program.runs_ofExcept_bind_ok.mp hruns
  obtain ⟨fetched, first, rest, rfl, hfetched, hrest⟩ := Program.runs_bind_ok.mp hruns
  obtain rfl := Program.runs_call.mp hfetched
  obtain ⟨⟨pageItems, total, next⟩, hpage, hrest⟩ := Program.runs_ofExcept_bind_ok.mp hrest
  obtain ⟨⟨⟩, htotal, hrest⟩ := Program.runs_ofExcept_bind_ok.mp hrest
  obtain ⟨⟨⟩, hmore, hrest⟩ := Program.runs_ofExcept_bind_ok.mp hrest
  obtain ⟨⟨items, seenIds⟩, haccepted, hrest⟩ := Program.runs_ofExcept_bind_ok.mp hrest
  have hanswered : ∃ page, fetched = some page ∧ page.totalCount = .int total := by
    obtain ⟨page, hsome, hrest⟩ := except_bind_ok.mp hpage
    obtain ⟨found, -, hrest⟩ := except_bind_ok.mp hrest
    obtain ⟨count, hcount, hrest⟩ := except_bind_ok.mp hrest
    obtain ⟨cursor, -, hrest⟩ := except_bind_ok.mp hrest
    obtain ⟨⟨⟩, -, hdone⟩ := except_bind_ok.mp hrest
    cases hdone
    refine ⟨page, orRaise_ok.mp hsome, ?_⟩
    have hread := orRaise_ok.mp hcount
    unfold Field.nonNegativeInt at hread
    split at hread
    · rename_i value hvalue
      split at hread
      · rename_i hnonneg
        cases hread
        rw [hvalue, Int.toNat_of_nonneg hnonneg]
      · cases hread
    · cases hread
  have hdone (hcomplete : next = none → items.length = total) : RoundDone cap idOf state
      ⟨request, .ok fetched⟩ total items seenIds next := by
    refine ⟨?_, ?_, fun hstate => ?_, hcomplete⟩
    · obtain ⟨page, hsome, hcount⟩ := hanswered
      exact ⟨page, congrArg Except.ok hsome, hcount⟩
    · intro expected hexpected
      rw [Option.mem_def.mp hexpected] at htotal
      simpa [checkTotal] using htotal
    · obtain ⟨hkept, hlength⟩ := acceptItems_ok haccepted hstate
      refine ⟨hkept, fun hsome => ?_⟩
      rw [ensure_ok, hsome, Bool.true_and, Bool.not_eq_true', List.isEmpty_eq_false_iff] at hmore
      have hpositive := List.length_pos_of_ne_nil hmore
      omega
  cases next with
  | none =>
      obtain ⟨⟨⟩, hcomplete, hlast⟩ := Program.runs_ofExcept_bind_ok.mp hrest
      obtain ⟨rfl, hround⟩ := Program.runs_ret.mp hlast
      cases hround
      rw [ensure_ok, decide_eq_true_eq] at hcomplete
      exact ⟨_, total, items, seenIds, none, rfl, rfl, hdone fun _ => hcomplete⟩
  | some cursor =>
      obtain ⟨⟨⟩, -, hlast⟩ := Program.runs_ofExcept_bind_ok.mp hrest
      obtain ⟨rfl, hround⟩ := Program.runs_ret.mp hlast
      cases hround
      exact ⟨_, total, items, seenIds, some cursor, rfl, rfl, hdone (by rintro ⟨⟩)⟩

theorem collecting_start (cap : Nat) (idOf : α → PyValue) :
    Collecting cap idOf (Collected.start : Collected α).items
      (Collected.start : Collected α).seenIds :=
  ⟨rfl, by simp [Collected.start], List.nodup_nil, Nat.zero_le _⟩

def room (cap : Nat) (state : Collected α) : Nat := cap - state.items.length

theorem collectRound_again {state next : Collected α}
    {events : List (Event (fetchSignature α) PyException)}
    (hstate : Collecting cap idOf state.items state.seenIds)
    (hruns : Program.Runs (collectRound cap idOf state) events (.ok (.again next))) :
    Collecting cap idOf next.items next.seenIds ∧ room cap next < room cap state := by
  obtain ⟨event, total, items, seenIds, cursor, -, hround, hdone⟩ := collectRound_ok hruns
  obtain ⟨hkept, hgrown⟩ := hdone.kept hstate
  cases cursor with
  | none => cases hround
  | some cursor =>
      cases hround
      refine ⟨hkept, ?_⟩
      have hmore := hgrown rfl
      have hbounded := hkept.bounded
      simp only [room]
      omega

/-- A round asks for a page once. -/
theorem atMost_collectRound (state : Collected α) :
    Program.AtMost (fun _ => true) 1 (collectRound cap idOf state) := by
  unfold collectRound
  refine .ofExcept_bind fun request => ?_
  refine (Program.AtMost.call (S := fetchSignature α) request).bind_none fun fetched => ?_
  refine .ofExcept_bind fun checked => .ofExcept_bind fun _ => .ofExcept_bind fun _ => ?_
  refine .ofExcept_bind fun accepted => ?_
  obtain ⟨items, total, next⟩ := checked
  cases next with
  | none => exact .ofExcept_bind fun _ => .ret _
  | some cursor => exact .ofExcept_bind fun _ => .ret _

/-- **Whatever the adapter answers**, collecting asks for one page more than the cap allows items,
and ends. -/
theorem collectPages_bounded (cap : Nat) (idOf : α → PyValue) (fuel : Nat) :
    Program.AtMost (fun _ => true) (cap + 1) (collectPages cap idOf fuel) ∧
      (cap < fuel → ∀ trace result, Program.Runs (collectPages cap idOf fuel) trace result →
        result ≠ .ok none) := by
  have hagain (state : Collected α) (events : List (Event (fetchSignature α) PyException))
      (next : Collected α) (hstate : Collecting cap idOf state.items state.seenIds)
      (hruns : Program.Runs (collectRound cap idOf state) events (.ok (.again next))) :
      Collecting cap idOf next.items next.seenIds ∧ room cap next < room cap state :=
    collectRound_again hstate hruns
  constructor
  · exact Program.countP_loop_le (fun state => Collecting cap idOf state.items state.seenIds)
      (room cap) atMost_collectRound hagain (collecting_start cap idOf)
  · intro hfuel trace result hruns
    exact Program.loop_terminates (fun state => Collecting cap idOf state.items state.seenIds)
      (room cap) hagain (collecting_start cap idOf) hfuel hruns

/-- The pages read so far agree on the number of items. -/
def Agreed (past : List (Event (fetchSignature α) PyException)) (expected : Option Nat) : Prop :=
  ∀ event ∈ past, ∃ page, ∃ total : Nat, event.answer = .ok (some page) ∧
    page.totalCount = .int total ∧ expected = some total

theorem Agreed.snoc {state : Collected α} {past : List (Event (fetchSignature α) PyException)}
    (hpast : Agreed past state.expectedTotal) {event : Event (fetchSignature α) PyException}
    {total : Nat} {items : List α} {seenIds : List Int} {next : Option String}
    (hdone : RoundDone cap idOf state event total items seenIds next) :
    Agreed (past ++ [event]) (some total) := by
  intro asked hasked
  rcases List.mem_append.mp hasked with hbefore | hlast
  · obtain ⟨page, before, hanswer, hcount, hexpected⟩ := hpast asked hbefore
    have hsame := hdone.expected before hexpected
    exact ⟨page, total, hanswer, by rw [hcount, hsame], rfl⟩
  · obtain rfl := List.mem_singleton.mp hlast
    obtain ⟨page, hanswer, hcount⟩ := hdone.answered
    exact ⟨page, total, hanswer, hcount, rfl⟩

/-- What is returned is as long as every page said, and its ids are distinct. -/
theorem collectPages_returned {fuel : Nat} {items : List α}
    {trace : List (Event (fetchSignature α) PyException)}
    (hruns : Program.Runs (collectPages cap idOf fuel) trace (.ok (some items))) :
    Agreed trace (some items.length) ∧ (items.map idOf).Nodup ∧ items.length ≤ cap := by
  have hids {found : List α} {seenIds : List Int} (hfound : Collecting cap idOf found seenIds) :
      (found.map idOf).Nodup := by
    rw [hfound.ids]
    exact (List.nodup_reverse.mpr hfound.nodup).map fun first second hsame => PyValue.int.inj hsame
  refine Program.loop_invariant
    (fun past state => Collecting cap idOf state.items state.seenIds ∧
      Agreed past state.expectedTotal)
    (fun past found => Agreed past (some found.length) ∧ (found.map idOf).Nodup ∧
      found.length ≤ cap)
    ?_ ?_ [] ⟨collecting_start cap idOf, fun event hevent => nomatch hevent⟩ hruns
  · rintro past state events next ⟨hstate, hpast⟩ hround
    obtain ⟨event, total, found, seenIds, cursor, rfl, hnext, hdone⟩ := collectRound_ok hround
    cases cursor with
    | none => cases hnext
    | some cursor =>
        cases hnext
        exact ⟨(hdone.kept hstate).1, hpast.snoc hdone⟩
  · rintro past state events found ⟨hstate, hpast⟩ hround
    obtain ⟨event, total, items, seenIds, cursor, rfl, hleft, hdone⟩ := collectRound_ok hround
    cases cursor with
    | none =>
        cases hleft
        obtain ⟨hkept, -⟩ := hdone.kept hstate
        have hagreed := hpast.snoc hdone
        rw [← hdone.complete rfl] at hagreed
        exact ⟨hagreed, hids hkept, hkept.bounded⟩
    | some cursor => cases hleft

end Collecting

/-! ### Collecting a listing -/

section Steady

variable {α : Type}

def cursorValue : Option String → PyValue
  | none => .none
  | some cursor => .str cursor

def handed (page : PayrollPage α) : Option (FetchedPage α) :=
  some ⟨some (page.items.map some), .int page.totalCount, cursorValue page.nextCursor⟩

def adapterOf (read : PayrollPageRequest → Except PyException (PayrollPage α))
    (request : PayrollPageRequest) : Except PyException (Option (FetchedPage α)) :=
  (read request).map handed

theorem checkPage_handed {page : PayrollPage α} (hitems : page.items.length ≤ pageSize)
    (hcursor : ∀ cursor ∈ page.nextCursor, cursor.length ≤ 128) :
    checkPage (handed page) = .ok (page.items.map some, page.totalCount, page.nextCursor) := by
  have hnext : nextCursorOf (cursorValue page.nextCursor) = .ok page.nextCursor := by
    cases page.nextCursor <;> rfl
  have hcount : Field.nonNegativeInt (.int page.totalCount) = some (page.totalCount : Int) := by
    simp [Field.nonNegativeInt]
  have hall : (page.nextCursor.all fun cursor => cursor.length ≤ 128) = true := by
    cases hsome : page.nextCursor with
    | none => rfl
    | some cursor => simpa using hcursor cursor hsome
  have hlimits : ensure ((page.items.map some).length ≤ pageSize &&
      page.nextCursor.all fun cursor => cursor.length ≤ 128) malformedSource = .ok () := by
    rw [ensure_ok, List.length_map, hall, decide_eq_true hitems]
    rfl
  refine except_bind_ok.mpr ⟨_, rfl, except_bind_ok.mpr ⟨_, rfl, ?_⟩⟩
  refine except_bind_ok.mpr ⟨(page.totalCount : Int), orRaise_ok.mpr hcount, ?_⟩
  exact except_bind_ok.mpr ⟨_, hnext, except_bind_ok.mpr ⟨(), hlimits, rfl⟩⟩

theorem acceptItems_distinct {cap total : Nat} {idOf : α → Int} {items fetched : List α}
    (hpositive : ∀ item ∈ fetched, 0 < idOf item) (hnodup : ((items ++ fetched).map idOf).Nodup)
    (hcap : (items ++ fetched).length ≤ cap) (htotal : (items ++ fetched).length ≤ total) :
    acceptItems cap total (fun item => .int (idOf item)) items (items.map idOf).reverse
        (fetched.map some) =
      .ok (items ++ fetched, ((items ++ fetched).map idOf).reverse) := by
  induction fetched generalizing items with
  | nil => rw [List.append_nil]; rfl
  | cons item rest ih =>
      obtain ⟨hitem, hrest⟩ := List.forall_mem_cons.mp hpositive
      have hassoc : items ++ item :: rest = (items ++ [item]) ++ rest := by simp
      rw [hassoc] at hnodup hcap htotal ⊢
      have hfresh : idOf item ∉ items.map idOf := by
        rw [List.map_append, List.map_append] at hnodup
        have hfront := (List.nodup_append.mp hnodup).1
        rw [List.nodup_append] at hfront
        exact fun hmem => hfront.2.2 _ hmem _ (List.mem_singleton.mpr rfl) rfl
      have hlength : items.length + 1 ≤ (items ++ [item] ++ rest).length := by
        simp only [List.length_append, List.length_singleton]
        omega
      refine except_bind_ok.mpr ⟨item, rfl, except_bind_ok.mpr ⟨idOf item, ?_, ?_⟩⟩
      · exact orRaise_ok.mpr (if_pos hitem)
      refine except_bind_ok.mpr ⟨(), ?_, except_bind_ok.mpr ⟨(), ?_, ?_⟩⟩
      · simpa using hfresh
      · rw [ensure_ok, Bool.and_eq_true, decide_eq_true_eq, decide_eq_true_eq]
        exact ⟨Nat.le_trans hlength hcap, Nat.le_trans hlength htotal⟩
      · have hseen : (idOf item :: (items.map idOf).reverse) =
            ((items ++ [item]).map idOf).reverse := by simp
        rw [hseen]
        exact ih hrest hnodup hcap htotal

structure PagesOf (read : PayrollPageRequest → Except PyException (PayrollPage α)) (idOf : α → Int)
    (all : List α) (encode : Nat → String) : Prop where
  paged : ByOffset (fun cursor => do read (← PayrollPageRequest.build pageSize cursor))
    PayrollPage.items PayrollPage.nextCursor all pageSize encode
  total : ∀ request page, read request = .ok page → page.totalCount = all.length
  positive : ∀ item ∈ all, 0 < idOf item
  nodup : (all.map idOf).Nodup
  short : ∀ offset < all.length, (encode offset).length ≤ 128
  injective : ∀ first, 0 < first → first < all.length → ∀ second, 0 < second →
    second < all.length → encode first = encode second → first = second

/-- The collector has read the items before an offset, and its cursor stands for the offset. -/
structure ReadUpTo (read : PayrollPageRequest → Except PyException (PayrollPage α)) (idOf : α → Int)
    (all : List α) (encode : Nat → String) (offset : Nat) (state : Collected α)
    (page : PayrollPage α) : Prop where
  items : state.items = all.take offset
  seenIds : state.seenIds = ((all.take offset).map idOf).reverse
  seenCursors : ∀ cursor ∈ state.seenCursors, ∃ earlier ≤ offset, 0 < earlier ∧
    earlier < all.length ∧ cursor = encode earlier
  expected : ∀ expected ∈ state.expectedTotal, expected = all.length
  fetched : (do read (← PayrollPageRequest.build pageSize state.cursor)) = .ok page
  pageAt : PageAt PayrollPage.items PayrollPage.nextCursor all pageSize encode offset page

variable {read : PayrollPageRequest → Except PyException (PayrollPage α)} {idOf : α → Int}
  {all : List α} {encode : Nat → String}

theorem collectRound_steady (pages : PagesOf read idOf all encode) {cap : Nat}
    (hcap : all.length ≤ cap) {offset : Nat} {state : Collected α} {page : PayrollPage α}
    (hstate : ReadUpTo read idOf all encode offset state page) :
    (collectRound cap (fun item => .int (idOf item)) state).evaluate (adapterOf read) =
      .ok (nextRound state all.length (all.take (offset + page.items.length))
        ((all.take (offset + page.items.length)).map idOf).reverse page.nextCursor) := by
  obtain ⟨request, hrequest, hread⟩ := except_bind_ok.mp hstate.fetched
  have hlength : page.items.length = min pageSize (all.length - offset) := by
    rw [hstate.pageAt.items_eq, List.length_take, List.length_drop]
  have hcursor : ∀ cursor ∈ page.nextCursor, cursor = encode (offset + page.items.length) ∧
      offset + page.items.length < all.length := by
    intro cursor hcursor
    rw [Option.mem_def, hstate.pageAt.next_eq] at hcursor
    split at hcursor
    · rename_i hmore
      exact ⟨(Option.some.inj hcursor).symm, hmore⟩
    · cases hcursor
  have htaken : all.take (offset + page.items.length) = all.take offset ++ page.items := by
    rw [List.take_add, hstate.pageAt.items_eq]
    congr 1
    rw [List.length_take, List.length_drop]
    rcases Nat.le_total pageSize (all.length - offset) with hless | hmore
    · rw [Nat.min_eq_left hless]
    · rw [Nat.min_eq_right hmore, List.take_of_length_le (by rw [List.length_drop]),
        List.take_of_length_le (by rw [List.length_drop]; exact hmore)]
  have hchecked : checkPage (handed page) =
      .ok (page.items.map some, page.totalCount, page.nextCursor) := by
    refine checkPage_handed (by omega) fun cursor hmem => ?_
    obtain ⟨rfl, hmore⟩ := hcursor cursor hmem
    exact pages.short _ hmore
  have htotal : page.totalCount = all.length := pages.total request page hread
  have hexpected : checkTotal cap state.expectedTotal page.totalCount = .ok () := by
    rw [htotal]
    cases hsome : state.expectedTotal with
    | none => simpa [checkTotal] using hcap
    | some expected => simpa [checkTotal] using (hstate.expected expected hsome).symm
  have hmore : ensure (!(page.nextCursor.isSome && (page.items.map some).isEmpty))
      malformedSource = .ok () := by
    rw [ensure_ok]
    cases hsome : page.nextCursor with
    | none => rfl
    | some cursor =>
        obtain ⟨-, hlast⟩ := hcursor cursor hsome
        have hpage : 0 < pageSize := by decide
        rw [Option.isSome_some, Bool.true_and, Bool.not_eq_true', List.isEmpty_eq_false_iff,
          ← List.length_pos_iff, List.length_map]
        omega
  have haccepted : acceptItems cap page.totalCount (fun item => .int (idOf item)) state.items
      state.seenIds (page.items.map some) = .ok (all.take (offset + page.items.length),
        ((all.take (offset + page.items.length)).map idOf).reverse) := by
    rw [hstate.items, hstate.seenIds, htaken]
    have hshort : (all.take offset ++ page.items).length ≤ all.length := by
      rw [← htaken]
      exact List.length_take_le' _ _
    refine acceptItems_distinct (fun item hitem => pages.positive item ?_) ?_ ?_ ?_
    · rw [hstate.pageAt.items_eq] at hitem
      exact List.mem_of_mem_drop (List.mem_of_mem_take hitem)
    · rw [← htaken]
      exact pages.nodup.sublist ((List.take_sublist _ _).map idOf)
    · exact Nat.le_trans hshort hcap
    · rw [htotal]
      exact hshort
  unfold collectRound
  refine Program.evaluate_bind_ok.mpr ⟨request, ?_, ?_⟩
  · rw [Program.evaluate_ofExcept, hrequest]
  refine Program.evaluate_bind_ok.mpr ⟨handed page, ?_, ?_⟩
  · rw [Program.evaluate_call, adapterOf, hread]
    rfl
  refine Program.evaluate_bind_ok.mpr ⟨_, (Program.evaluate_ofExcept _).trans hchecked, ?_⟩
  refine Program.evaluate_bind_ok.mpr ⟨(), (Program.evaluate_ofExcept _).trans hexpected, ?_⟩
  refine Program.evaluate_bind_ok.mpr ⟨(), (Program.evaluate_ofExcept _).trans hmore, ?_⟩
  refine Program.evaluate_bind_ok.mpr ⟨_, (Program.evaluate_ofExcept _).trans haccepted, ?_⟩
  rw [htotal]
  cases hsome : page.nextCursor with
  | none =>
      have hlast : ¬ offset + page.items.length < all.length := by
        intro hless
        have hnext := hstate.pageAt.next_eq
        rw [hsome, if_pos hless] at hnext
        cases hnext
      refine Program.evaluate_bind_ok.mpr ⟨(), ?_, rfl⟩
      rw [Program.evaluate_ofExcept, ensure_ok, decide_eq_true_eq, List.length_take]
      omega
  | some cursor =>
      obtain ⟨rfl, hless⟩ := hcursor cursor hsome
      refine Program.evaluate_bind_ok.mpr ⟨(), ?_, rfl⟩
      rw [Program.evaluate_ofExcept, ensure_ok]
      have hfresh : encode (offset + page.items.length) ∉ state.seenCursors := by
        intro hseen
        obtain ⟨earlier, hearlier, hpositive, hwithin, hsame⟩ := hstate.seenCursors _ hseen
        have hpage : 0 < pageSize := by decide
        have hequal := pages.injective _ (by omega) hless _ hpositive hwithin hsame
        omega
      simpa using hfresh

theorem readUpTo_next (pages : PagesOf read idOf all encode) {offset : Nat} {state : Collected α}
    {page : PayrollPage α} (hstate : ReadUpTo read idOf all encode offset state page)
    {cursor : String} (hcursor : page.nextCursor = some cursor) :
    offset < offset + page.items.length ∧ offset + page.items.length < all.length ∧
      ∃ following, ReadUpTo read idOf all encode (offset + page.items.length)
        ⟨all.take (offset + page.items.length),
          ((all.take (offset + page.items.length)).map idOf).reverse,
          cursor :: state.seenCursors, some cursor, some all.length⟩ following := by
  have hlength : page.items.length = min pageSize (all.length - offset) := by
    rw [hstate.pageAt.items_eq, List.length_take, List.length_drop]
  have hpage : 0 < pageSize := by decide
  rw [hstate.pageAt.next_eq] at hcursor
  split at hcursor
  · rename_i hmore
    obtain rfl := Option.some.inj hcursor
    obtain ⟨following, hfollowing, hat⟩ := pages.paged.later _ (by omega) hmore
    refine ⟨by omega, hmore, following, rfl, rfl, ?_, ?_, hfollowing, hat⟩
    · intro cursor hseen
      rcases List.mem_cons.mp hseen with rfl | hearlier
      · exact ⟨_, Nat.le_refl _, by omega, hmore, rfl⟩
      · obtain ⟨earlier, hle, hpositive, hwithin, hsame⟩ := hstate.seenCursors cursor hearlier
        exact ⟨earlier, by omega, hpositive, hwithin, hsame⟩
    · rintro expected ⟨⟩
      rfl
  · cases hcursor

/-- **Collecting reads the listing.** -/
theorem collectPages_steady (pages : PagesOf read idOf all encode) {cap : Nat}
    (hcap : all.length ≤ cap) {fuel : Nat} (hfuel : cap < fuel) :
    (collectPages cap (fun item => .int (idOf item)) fuel).evaluate (adapterOf read) =
      .ok (some all) := by
  have hloop (left : Nat) : ∀ offset fuel state page, all.length - offset = left → left < fuel →
      ReadUpTo read idOf all encode offset state page →
        (Program.loop (collectRound cap (fun item => .int (idOf item))) fuel state).evaluate
          (adapterOf read) = .ok (some all) := by
    induction left using Nat.strongRecOn with
    | ind left ih =>
        intro offset fuel state page hleft hfuel hstate
        obtain ⟨fuel, rfl⟩ : ∃ rest, fuel = rest + 1 := ⟨fuel - 1, by omega⟩
        have hround := collectRound_steady pages hcap hstate
        cases hsome : page.nextCursor with
        | none =>
            have hlast : all.length ≤ offset + page.items.length := by
              have hnext := hstate.pageAt.next_eq
              rw [hsome] at hnext
              split at hnext
              · cases hnext
              · omega
            rw [hsome, List.take_of_length_le hlast] at hround
            exact Program.evaluate_loop_leave hround fuel
        | some cursor =>
            obtain ⟨hmore, hless, following, hfollowing⟩ := readUpTo_next pages hstate hsome
            rw [hsome] at hround
            rw [Program.evaluate_loop_again hround]
            exact ih (all.length - (offset + page.items.length)) (by omega) _ fuel _ following rfl
              (by omega) hfollowing
  obtain ⟨page, hpage, hat⟩ := pages.paged.first
  refine hloop all.length 0 fuel .start page rfl (by omega) ⟨rfl, rfl, ?_, ?_, hpage, hat⟩
  · intro cursor hcursor
    cases hcursor
  · intro expected hexpected
    cases hexpected

end Steady

/-! ### Collecting a reading -/

theorem encodePayrollCursor_inj {fingerprint : String} (hplain : Plain fingerprint)
    {first second : Nat} (hfirst : 0 < first) (hsecond : 0 < second)
    (hdigits : first.repr.toList.length ≤ 4300) (hdigits' : second.repr.toList.length ≤ 4300)
    (hsame : encodePayrollCursor fingerprint first = encodePayrollCursor fingerprint second) :
    first = second := by
  have hdecoded := decodePayrollCursor_encode hplain hfirst hdigits fingerprint
  rw [hsame, decodePayrollCursor_encode hplain hsecond hdigits', if_pos rfl, if_pos rfl] at hdecoded
  exact (Except.ok.inj hdecoded).symm

variable {α : Type}

theorem totalCount_of_pageOf {reader : PayrollReader} {listing : Listing α}
    {request : PayrollPageRequest} {page : PayrollPage α}
    (hpage : reader.pageOf listing request = .ok page) :
    page.totalCount = listing.items.length := by
  obtain ⟨hpositive, text, htext⟩ := PayrollReader.text_of_pageOf hpage
  rw [PayrollReader.pageOf_eq hpositive htext] at hpage
  obtain ⟨offset, -, hrest⟩ := except_bind_ok.mp hpage
  obtain ⟨⟨⟩, -, hdone⟩ := except_bind_ok.mp hrest
  cases hdone
  rfl

/-- The pages of a reading are those of its listing. -/
theorem pagesOf_reading {reading : PayrollReading α} {listing : Listing α}
    (hlisting : reading.Lists listing)
    (hpositive : ∀ item ∈ listing.items, 0 < listing.idOf item) {text : String}
    (htext : (listing.scope reading.reader.version).text = .ok text)
    (hplain : Plain (reading.reader.fingerprint text)) :
    PagesOf reading.page reading.read.idOf listing.items
      (encodePayrollCursor (reading.reader.fingerprint text)) := by
  have hsize := hlisting.gathered.distinct.bounded
  have hfetch : (fun cursor => do reading.page (← PayrollPageRequest.build pageSize cursor)) =
      reading.reader.fetchPage listing pageSize := by
    funext cursor
    unfold PayrollReader.fetchPage
    congr 1
    funext request
    exact hlisting.page_eq request
  have hfits {offset : Nat} (hoffset : offset < listing.items.length) :=
    PayrollReader.length_cursor_le hplain
      (PayrollReader.length_fingerprint_le reading.reader text) (Nat.lt_of_lt_of_le hoffset hsize)
  refine ⟨?_, fun request page hpage => ?_, ?_, hlisting.gathered.distinct.nodup,
    fun offset hoffset => (hfits hoffset).1, fun first hfirst hless second hsecond hless' => ?_⟩
  · rw [hfetch]
    exact PayrollReader.byOffset_fetchPage (by decide) hsize hpositive htext hplain
  · rw [hlisting.page_eq] at hpage
    exact totalCount_of_pageOf hpage
  · rw [← hlisting.gathered.idOf_eq]
    exact hpositive
  · exact encodePayrollCursor_inj hplain hfirst hsecond (hfits hless).2 (hfits hless').2

end PayrollEvidence

end OdooMcp
