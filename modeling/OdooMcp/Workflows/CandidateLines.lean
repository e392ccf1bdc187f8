import Mathlib.Data.List.GetD
import Mathlib.Data.Nat.Digits.Defs
import OdooMcp.Workflows.ReadAll

/-!
# The candidate lines of a reconciliation

This loop counts against its bound only the lines it keeps. Reconciled lines, which the search asks
Odoo to leave out, are read and dropped; pages of them do not bring the loop closer to its bound.
-/

namespace OdooMcp

open Effect AccountingReader

namespace ReconcileBank

/-- A transport that answers one search after the other from a sequence. -/
def answering (answers : Nat → Except PyException (List Payload)) (request : OdooRequest)
    (time : Nat) : Except PyException (odooSignature.Result request) × Nat :=
  match request with
  | .searchRead _ _ _ _ _ _ _ => (answers time, time + 1)
  | .connect | .searchCount _ _ _ | .executeMethod _ _ _ _ _ | .close =>
      (.error (.exception "only searches are answered"), time + 1)

def companyLine (companyId : Int) (row : Payload) : Except PyException AccountMoveLine := do
  enforceScoped AccountMoveLine.companyId companyId (← normalizeAccountMoveLine row)

def keptOf (page : RecordPage AccountMoveLine) : Nat :=
  (page.items.filter fun item => !item.reconciled).length

/-- The first answers are each accepted as a full page with a next one, up to a cursor, and hold
so many lines that are not reconciled, which the bound still allows. -/
inductive Continued (companyId : Int) (answers : Nat → Except PyException (List Payload)) :
    Nat → Option Int → Nat → Prop
  | start : Continued companyId answers 0 none 0
  | page {rounds kept : Nat} {cursor : Option Int} {rows : List Payload}
      {page : RecordPage AccountMoveLine} (hbefore : Continued companyId answers rounds cursor kept)
      (hcursor : ∀ identifier ∈ cursor, (encodeCursor identifier).length ≤ 128)
      (hanswer : answers rounds = .ok rows)
      (of : PageOf (companyLine companyId) 100 cursor rows page) (hmore : 100 < rows.length)
      (hkept : kept + keptOf page ≤ 100000) :
      Continued companyId answers (rounds + 1) (some (of.identifiers.getD 99 0))
        (kept + keptOf page)

section Loop

variable {reader : AccountingReader} {companyId : Int}
  {answers : Nat → Except PyException (List Payload)}

theorem positive_of_continued {rounds kept : Nat} {cursor : Option Int}
    (hcontinued : Continued companyId answers rounds cursor kept) :
    ∀ identifier ∈ cursor, 0 < identifier := by
  cases hcontinued with
  | start => simp
  | page hbefore hcursor hanswer of hmore hkept =>
      rintro identifier ⟨⟩
      have hlength := of.length_identifiers
      rw [List.getD_eq_getElem _ _ (by omega)]
      exact of.positive _ (List.getElem_mem _)

/-- The loop is where that many continued pages bring it. -/
structure Reaches (companyId : Int) (answers : Nat → Except PyException (List Payload))
    (rounds : Nat) (state : PageState AccountMoveLine) (cursor : Option Int) : Prop where
  continued : Continued companyId answers rounds cursor state.items.length
  cursor_eq : state.cursor = cursor.map encodeCursor

theorem reaches_start : Reaches companyId answers 0 .start none :=
  ⟨.start, rfl⟩

theorem runs_pagedRead_lines {request : PageRequest} {trace : List OdooEvent}
    {page : RecordPage AccountMoveLine}
    (hruns : Program.Runs (reader.pagedRead (.accountMoveLines candidateFilters) companyId request)
      trace (.ok page)) :
    ∃ cursorId domain fields rows, request.cursor.mapM decodeCursor = .ok cursorId ∧
      trace = [⟨.searchRead "account.move.line" domain fields (request.limit + 1) 0 "id asc"
        [companyId], .ok rows⟩] ∧
      Nonempty (PageOf (companyLine companyId) request.limit cursorId rows page) := by
  obtain ⟨-, cursorId, filtered, rows, validation, hcursor, -, htrace, hvalidation, hof⟩ :=
    reader.readPage_ok hruns
  obtain ⟨rfl, -⟩ := Program.runs_ret.mp hvalidation
  exact ⟨cursorId, _, _, rows, hcursor, htrace, hof⟩

/-- A continued round takes the next answer as a full page. -/
theorem reaches_again {rounds : Nat} {state next : PageState AccountMoveLine} {cursor : Option Int}
    (hreaches : Reaches companyId answers rounds state cursor) {trace : List OdooEvent}
    {later : Nat} (hfollows : Program.Follows (answering answers) rounds trace later)
    (hruns : Program.Runs ((candidateLines companyId).body reader companyId state) trace
      (.ok (.again next))) :
    later = rounds + 1 ∧ trace.length = 1 ∧
      ∃ cursor, Reaches companyId answers (rounds + 1) next cursor := by
  obtain ⟨⟨request, page, hlimited, hcontinued, hread, hchecked, hwithin⟩, text, htext, -, rfl⟩ :=
    PageLoop.again_of_runs hruns
  dsimp only at htext
  obtain ⟨cursorId, domain, fields, rows, hdecoded, rfl, ⟨of⟩⟩ := runs_pagedRead_lines hread
  have hlength : ∀ identifier ∈ cursor, (encodeCursor identifier).length ≤ 128 := by
    rintro identifier ⟨⟩
    refine request.cursor_le _ ?_
    rw [hcontinued, hreaches.cursor_eq]
    rfl
  rw [hcontinued, hreaches.cursor_eq,
    mapM_decodeCursor (positive_of_continued hreaches.continued) hlength] at hdecoded
  cases hdecoded
  change request.limit = 100 at hlimited
  rw [hlimited] at of
  obtain ⟨hanswer, hlater⟩ := Program.follows_cons.mp hfollows
  obtain rfl := Program.follows_nil.mp hlater
  have hnext := of.continued
  rw [Option.mem_def.mp htext] at hnext
  split at hnext
  · rename_i hmore
    cases hnext
    have hkept : ((candidateLines companyId).add state page).items.length =
        state.items.length + keptOf page := List.length_append
    refine ⟨rfl, rfl, some (of.identifiers.getD 99 0), ?_, rfl⟩
    change Continued _ _ _ _ ((candidateLines companyId).add state page).items.length
    rw [hkept]
    refine .page hreaches.continued hlength hanswer.symm of hmore ?_
    rw [← hkept]
    exact hwithin
  · cases hnext

/-- A round that asks anything has been given a cursor of an acceptable length. -/
theorem cursor_le_of_runs {state : PageState AccountMoveLine} {trace : List OdooEvent}
    {result : Except PyException (Round (PageState AccountMoveLine) (PageState AccountMoveLine))}
    (hruns : Program.Runs ((candidateLines companyId).body reader companyId state) trace result)
    (htrace : trace ≠ []) : ∀ text ∈ state.cursor, text.length ≤ 128 := by
  rcases Program.runs_ofExcept_bind.mp hruns with ⟨request, hrequest, -⟩ | ⟨error, -, rfl, -⟩
  · obtain ⟨-, hcursor⟩ := PageLoop.build_ok hrequest
    intro text htext
    rw [← hcursor] at htext
    exact request.cursor_le text htext
  · exact absurd rfl htrace

theorem length_body_le {state : PageState AccountMoveLine} {trace : List OdooEvent}
    {result : Except PyException (Round (PageState AccountMoveLine) (PageState AccountMoveLine))}
    (hruns : Program.Runs ((candidateLines companyId).body reader companyId state) trace result) :
    trace.length ≤ 1 := by
  have hmost : Program.AtMost (fun _ => true) 1
      ((candidateLines companyId).body reader companyId state) := by
    refine .ofExcept_bind fun request => ?_
    refine (reader.atMost_readPage fun _ _ => .ret ()).bind_none fun page => ?_
    refine .ofExcept_bind fun _ => .ofExcept_bind fun _ => ?_
    split
    · exact .ret _
    · exact .ofExcept_bind fun _ => .ret _
  simpa using hmost trace result hruns

theorem Reaches.length_le {rounds : Nat} {state : PageState AccountMoveLine}
    {cursor : Option Int} (hreaches : Reaches companyId answers rounds state cursor)
    {trace : List OdooEvent}
    {result : Except PyException (Round (PageState AccountMoveLine) (PageState AccountMoveLine))}
    (hruns : Program.Runs ((candidateLines companyId).body reader companyId state) trace result)
    (htrace : trace ≠ []) : ∀ identifier ∈ cursor, (encodeCursor identifier).length ≤ 128 := by
  rintro identifier ⟨⟩
  refine cursor_le_of_runs hruns htrace _ ?_
  rw [hreaches.cursor_eq]
  rfl

/-- A run that asks more often than that has continued after that many pages. -/
theorem continued_of_run {fuel rounds more : Nat} {state : PageState AccountMoveLine}
    {cursor : Option Int} (hreaches : Reaches companyId answers rounds state cursor)
    {trace : List OdooEvent} {later : Nat}
    {result : Except PyException (Option (PageState AccountMoveLine))}
    (hfollows : Program.Follows (answering answers) rounds trace later)
    (hruns : Program.Runs ((candidateLines companyId).run reader companyId fuel state) trace result)
    (hmore : more < trace.length) :
    ∃ last kept, Continued companyId answers (rounds + more) last kept ∧
      ∀ identifier ∈ last, (encodeCursor identifier).length ≤ 128 := by
  induction fuel generalizing rounds more state cursor trace with
  | zero =>
      rw [(Program.runs_loop_zero.mp hruns).1] at hmore
      cases hmore
  | succ fuel ih =>
      rcases Program.runs_loop_succ.mp hruns with
        ⟨next, first, rest, rfl, hfirst, hrest⟩ | hlast
      · obtain ⟨middle, hbefore, hafter⟩ := Program.follows_append.mp hfollows
        obtain ⟨rfl, hlength, last, hnext⟩ := reaches_again hreaches hbefore hfirst
        cases more with
        | zero =>
            exact ⟨cursor, _, hreaches.continued,
              hreaches.length_le hfirst (List.ne_nil_of_length_eq_add_one hlength)⟩
        | succ more =>
            rw [List.length_append, hlength] at hmore
            have hfound := ih hnext hafter hrest (show more < rest.length by omega)
            rwa [show rounds + 1 + more = rounds + (more + 1) by omega] at hfound
      · have hround : ∃ round, Program.Runs ((candidateLines companyId).body reader companyId state)
            trace round := by
          rcases hlast with ⟨value, -, hvalue⟩ | ⟨error, -, herror⟩
          · exact ⟨_, hvalue⟩
          · exact ⟨_, herror⟩
        obtain ⟨round, hround⟩ := hround
        have hone := length_body_le hround
        obtain rfl : more = 0 := by omega
        exact ⟨cursor, _, hreaches.continued,
          hreaches.length_le hround (List.length_pos_iff.mp (by omega))⟩

/-! ### Pages that continue the loop -/

/-- What the loop has seen when it is about to ask after a cursor. -/
structure Seen (cursor : Option Int) (state : PageState AccountMoveLine) : Prop where
  cursor_eq : state.cursor = cursor.map encodeCursor
  ids : ∀ identifier ∈ state.seenIds, ∃ last ∈ cursor, identifier ≤ last
  cursors : ∀ text ∈ state.seenCursors, ∃ identifier, 0 < identifier ∧
    text = encodeCursor identifier ∧ ∃ last ∈ cursor, identifier ≤ last

theorem seen_start : Seen none .start :=
  ⟨rfl, (fun _ hmem => nomatch hmem), (fun _ hmem => nomatch hmem)⟩

theorem keepsId_companyLine (companyId : Int) :
    KeepsId AccountMoveLine.id (companyLine companyId) := by
  refine keepsId_normalizeAccountMoveLine.enforced fun item kept hkept => ?_
  rw [(enforceScoped_ok hkept).1]

/-- The last row that a full page takes has the greatest id of those it takes. -/
theorem le_last {cursor : Option Int} {rows : List Payload} {page : RecordPage AccountMoveLine}
    (of : PageOf (companyLine companyId) 100 cursor rows page) (hmore : 100 < rows.length)
    {identifier : Int} (hidentifier : identifier ∈ of.identifiers.take 100) :
    identifier ≤ of.identifiers.getD 99 0 := by
  have hlength := of.length_identifiers
  refine PageLoop.le_getLast (of.ordered.sublist (List.take_sublist _ _)) ?_ hidentifier
  have hwithin : 99 < of.identifiers.length := by omega
  simp [List.getLast?_take, List.getElem?_eq_getElem hwithin]

/-- The checks of the loop accept a full page of the company's lines. -/
theorem checkPage_ok {cursor : Option Int} {state : PageState AccountMoveLine}
    (hseen : Seen cursor state) {rows : List Payload} {page : RecordPage AccountMoveLine}
    (of : PageOf (companyLine companyId) 100 cursor rows page) :
    (candidateLines companyId).checkPage state.seenIds page = .ok () := by
  have hids := of.map_id (keepsId_companyLine companyId)
  have hordered : (page.items.map AccountMoveLine.id).Pairwise (· < ·) := by
    rw [hids]
    exact of.ordered.sublist (List.take_sublist _ _)
  refine except_bind_ok.mpr ⟨(), ?_, ?_⟩
  · rw [ensure_ok, decide_eq_true_eq, of.length_items]
    exact min_le_left _ _
  · rw [ensure_ok, Bool.and_eq_true, decide_eq_true_eq, List.all_eq_true]
    refine ⟨hordered.imp fun hlt => ne_of_lt hlt, fun item hitem => ?_⟩
    obtain ⟨row, -, hconvert⟩ := exists_of_forall₂_right of.converted hitem
    obtain ⟨found, -, henforced⟩ := except_bind_ok.mp hconvert
    obtain ⟨rfl, hcompany⟩ := enforceScoped_ok henforced
    have hid : item.id ∈ of.identifiers := by
      have hmapped := List.mem_map_of_mem (f := AccountMoveLine.id) hitem
      rw [hids] at hmapped
      exact List.mem_of_mem_take hmapped
    have hfresh : item.id ∉ state.seenIds := by
      intro hmem
      obtain ⟨last, hlast, hle⟩ := hseen.ids _ hmem
      have hlt := of.after last hlast _ hid
      omega
    simpa [hcompany, PagedRead.idOf] using hfresh

theorem checkNext_ok {cursor : Option Int} {state : PageState AccountMoveLine}
    (hseen : Seen cursor state) {next : Int} (hpositive : 0 < next)
    (hafter : ∀ last ∈ cursor, last < next) (hlength : (encodeCursor next).length ≤ 128) :
    (candidateLines companyId).checkNext state.seenCursors state.cursor (encodeCursor next) =
      .ok () := by
  have hfresh : encodeCursor next ∉ state.seenCursors := by
    intro hmem
    obtain ⟨identifier, hidentifier, htext, last, hlast, hle⟩ := hseen.cursors _ hmem
    have hdecoded := decodeCursor_encodeCursor hpositive hlength
    rw [htext] at hdecoded hlength
    rw [decodeCursor_encodeCursor hidentifier hlength] at hdecoded
    cases hdecoded
    have hlt := hafter last hlast
    omega
  change ensure _ _ = _
  rw [ensure_ok]
  simpa using hfresh

def candidateSearch (companyId : Int) (cursor : Option Int) : OdooRequest :=
  .searchRead "account.move.line"
    (domainClause "company_id" "=" (.int companyId) ::
      domainClause "move_id.state" "=" (.str "posted") ::
      domainClause "reconciled" "=" (.bool false) :: afterCursor cursor)
    accountMoveLineFields 101 0 "id asc" [companyId]

theorem Seen.cursor_le {cursor : Option Int} {state : PageState AccountMoveLine}
    (hseen : Seen cursor state)
    (hlength : ∀ identifier ∈ cursor, (encodeCursor identifier).length ≤ 128) :
    ∀ text, state.cursor = some text → text.length ≤ 128 := by
  intro text htext
  rw [hseen.cursor_eq] at htext
  obtain ⟨identifier, hidentifier, rfl⟩ := Option.map_eq_some_iff.mp htext
  exact hlength identifier hidentifier

theorem Seen.build_eq {cursor : Option Int} {state : PageState AccountMoveLine}
    (hseen : Seen cursor state)
    (hlength : ∀ identifier ∈ cursor, (encodeCursor identifier).length ≤ 128) :
    PageRequest.build (candidateLines companyId).limit state.cursor
      (candidateLines companyId).limit_pos (candidateLines companyId).limit_le =
        .ok ⟨100, state.cursor, by decide, by decide, hseen.cursor_le hlength⟩ :=
  dif_pos fun text htext => hseen.cursor_le hlength text htext

theorem Seen.decoded {cursor : Option Int} {state : PageState AccountMoveLine}
    (hseen : Seen cursor state) (hpositive : ∀ identifier ∈ cursor, 0 < identifier)
    (hlength : ∀ identifier ∈ cursor, (encodeCursor identifier).length ≤ 128) :
    state.cursor.mapM decodeCursor = .ok cursor := by
  rw [hseen.cursor_eq]
  exact mapM_decodeCursor hpositive hlength

theorem filterDomain_candidateFilters : filterDomain "account.move.line" candidateFilters =
    .ok [domainClause "move_id.state" "=" (.str "posted"),
      domainClause "reconciled" "=" (.bool false)] := by
  refine filterDomain_ok fun clause hclause => ?_
  have hallowed : candidateFilters.all (filterAllowed "account.move.line") = true := by
    decide +kernel
  exact List.all_eq_true.mp hallowed clause hclause

theorem moveLines_allowed : ensureModelReadAllowed "account.move.line" = .ok () :=
  ensure_ok.mpr (by decide +kernel)

/-- A full page of the company's lines makes the loop go on. -/
theorem runs_again_of_page {cursor : Option Int} {state : PageState AccountMoveLine}
    (hcompany : reader.requireCompany companyId = .ok ()) (hseen : Seen cursor state)
    (hpositive : ∀ identifier ∈ cursor, 0 < identifier)
    (hlength : ∀ identifier ∈ cursor, (encodeCursor identifier).length ≤ 128)
    {rows : List Payload} {page : RecordPage AccountMoveLine}
    (of : PageOf (companyLine companyId) 100 cursor rows page) (hmore : 100 < rows.length)
    (hkept : state.items.length + keptOf page ≤ 100000)
    (hnext : (encodeCursor (of.identifiers.getD 99 0)).length ≤ 128) :
    ∃ next, Program.Runs ((candidateLines companyId).body reader companyId state)
        [⟨candidateSearch companyId cursor, .ok rows⟩] (.ok (.again next)) ∧
      Seen (some (of.identifiers.getD 99 0)) next ∧
      next.items.length = state.items.length + keptOf page := by
  have hread : Program.Runs (reader.pagedRead (candidateLines companyId).source companyId
      ⟨100, state.cursor, by decide, by decide, hseen.cursor_le hlength⟩)
      [⟨candidateSearch companyId cursor, .ok rows⟩] (.ok page) :=
    reader.runs_readPage hcompany moveLines_allowed (hseen.decoded hpositive hlength)
      filterDomain_candidateFilters of (Program.Runs.ret ())
  have hlast : page.nextCursor = some (encodeCursor (of.identifiers.getD 99 0)) := by
    rw [of.continued, if_pos hmore]
  have hids := of.length_identifiers
  have hwithin : 99 < of.identifiers.length := by omega
  have hmem : of.identifiers.getD 99 0 ∈ of.identifiers := by
    rw [List.getD_eq_getElem _ _ hwithin]
    exact List.getElem_mem _
  have hlength_add : ((candidateLines companyId).add state page).items.length =
      state.items.length + keptOf page := List.length_append
  refine ⟨((candidateLines companyId).add state page).follow
    (encodeCursor (of.identifiers.getD 99 0)), ?_, ?_, hlength_add⟩
  · refine Program.runs_ofExcept_bind_ok.mpr ⟨_, hseen.build_eq hlength, ?_⟩
    refine Program.runs_bind_ok.mpr ⟨page, _, [], by rw [List.append_nil], hread, ?_⟩
    refine Program.runs_ofExcept_bind_ok.mpr ⟨(), checkPage_ok hseen of, ?_⟩
    refine Program.runs_ofExcept_bind_ok.mpr ⟨(), ?_, ?_⟩
    · rw [ensure_ok, decide_eq_true_eq, hlength_add]
      exact hkept
    · rw [hlast]
      refine Program.runs_ofExcept_bind_ok.mpr ⟨(), ?_, Program.runs_ret.mpr ⟨rfl, rfl⟩⟩
      exact checkNext_ok hseen (of.positive _ hmem) (fun last hlast => of.after last hlast _ hmem)
        hnext
  · refine ⟨rfl, fun identifier hidentifier => ⟨_, rfl, ?_⟩, fun text htext => ?_⟩
    · rcases List.mem_append.mp hidentifier with hold | hnew
      · obtain ⟨last, hlast, hle⟩ := hseen.ids _ hold
        exact le_trans hle (le_of_lt (of.after last hlast _ hmem))
      · refine le_last of hmore ?_
        rw [← of.map_id (keepsId_companyLine companyId)]
        exact hnew
    · rcases List.mem_cons.mp htext with rfl | hold
      · exact ⟨_, of.positive _ hmem, rfl, _, rfl, le_refl _⟩
      · obtain ⟨identifier, hidentifier, htext, last, hlast, hle⟩ := hseen.cursors _ hold
        exact ⟨identifier, hidentifier, htext, _, rfl,
          le_trans hle (le_of_lt (of.after last hlast _ hmem))⟩

/-- Pages that continue the loop bring it to a state from which it asks again. -/
theorem run_of_continued (hcompany : reader.requireCompany companyId = .ok ())
    {rounds kept : Nat} {cursor : Option Int}
    (hcontinued : Continued companyId answers rounds cursor kept)
    (hlength : ∀ identifier ∈ cursor, (encodeCursor identifier).length ≤ 128) :
    ∃ state trace, Seen cursor state ∧ state.items.length = kept ∧
      Program.Follows (answering answers) 0 trace rounds ∧
      trace.countP (searches "account.move.line") = rounds ∧
      ∀ fuel later result, Program.Runs ((candidateLines companyId).run reader companyId fuel state)
        later result → Program.Runs ((candidateLines companyId).run reader companyId (rounds + fuel)
          .start) (trace ++ later) result := by
  induction hcontinued with
  | start =>
      refine ⟨.start, [], seen_start, rfl, .nil 0, rfl, fun fuel later result hruns => ?_⟩
      rwa [Nat.zero_add]
  | page hbefore hcursor hanswer of hmore hkept ih =>
      rename_i rounds kept cursor rows page
      obtain ⟨state, trace, hseen, hitems, hfollows, hcount, hcontinues⟩ := ih hcursor
      rw [← hitems] at hkept
      obtain ⟨next, hagain, hnextSeen, hnextItems⟩ := runs_again_of_page hcompany hseen
        (positive_of_continued hbefore) hcursor of hmore hkept (hlength _ rfl)
      refine ⟨next, trace ++ [⟨candidateSearch companyId cursor, .ok rows⟩], hnextSeen,
        by rw [hnextItems, hitems], ?_, ?_, fun fuel later result hruns => ?_⟩
      · refine Program.follows_append.mpr ⟨rounds, hfollows, Program.follows_cons.mpr ⟨?_, ?_⟩⟩
        · exact hanswer.symm
        · exact .nil _
      · rw [List.countP_append, hcount]
        rfl
      · rw [List.append_assoc, show rounds + 1 + fuel = rounds + (fuel + 1) by omega]
        refine hcontinues (fuel + 1) _ result (Program.runs_loop_succ.mpr (.inl ?_))
        exact ⟨next, _, later, rfl, hagain, hruns⟩

/-! ### When the loop ends in time -/

/-- A round asks for a page unless the cursor is too long or the company is not validated. -/
theorem one_le_of_runs (hcompany : reader.requireCompany companyId = .ok ())
    {cursor : Option Int} {state : PageState AccountMoveLine} (hseen : Seen cursor state)
    (hpositive : ∀ identifier ∈ cursor, 0 < identifier)
    (hlength : ∀ identifier ∈ cursor, (encodeCursor identifier).length ≤ 128)
    {trace : List OdooEvent}
    {result : Except PyException (Round (PageState AccountMoveLine) (PageState AccountMoveLine))}
    (hruns : Program.Runs ((candidateLines companyId).body reader companyId state) trace result) :
    1 ≤ trace.countP (searches "account.move.line") := by
  have hpage := Program.runs_of_ofExcept_ok (hseen.build_eq hlength) hruns
  obtain ⟨first, rest, outcome, rfl, hread⟩ := Program.exists_first_of_runs hpage
  have hsearch := Program.runs_of_ofExcept_ok hcompany hread
  have hsearch := Program.runs_of_ofExcept_ok moveLines_allowed hsearch
  have hsearch := Program.runs_of_ofExcept_ok (hseen.decoded hpositive hlength) hsearch
  have hsearch := Program.runs_of_ofExcept_ok filterDomain_candidateFilters hsearch
  obtain ⟨search, others, answer, rfl, hcall⟩ := Program.exists_first_of_runs hsearch
  rw [Program.runs_call.mp hcall]
  simp [searches]

theorem one_le_of_run (hcompany : reader.requireCompany companyId = .ok ())
    {cursor : Option Int} {state : PageState AccountMoveLine} (hseen : Seen cursor state)
    (hpositive : ∀ identifier ∈ cursor, 0 < identifier)
    (hlength : ∀ identifier ∈ cursor, (encodeCursor identifier).length ≤ 128) {fuel : Nat}
    {trace : List OdooEvent} {result : Except PyException (Option (PageState AccountMoveLine))}
    (hruns : Program.Runs ((candidateLines companyId).run reader companyId (fuel + 1) state) trace
      result) : 1 ≤ trace.countP (searches "account.move.line") := by
  rcases Program.runs_loop_succ.mp hruns with
    ⟨next, first, rest, rfl, hfirst, -⟩ | ⟨value, -, hlast⟩ | ⟨error, -, hlast⟩
  · rw [List.countP_append]
    exact Nat.le_add_right_of_le (one_le_of_runs hcompany hseen hpositive hlength hfirst)
  · exact one_le_of_runs hcompany hseen hpositive hlength hlast
  · exact one_le_of_runs hcompany hseen hpositive hlength hlast

theorem length_of_none {fuel rounds : Nat} {state : PageState AccountMoveLine}
    {cursor : Option Int} (hreaches : Reaches companyId answers rounds state cursor)
    {trace : List OdooEvent} {later : Nat}
    (hfollows : Program.Follows (answering answers) rounds trace later)
    (hruns : Program.Runs ((candidateLines companyId).run reader companyId fuel state) trace
      (.ok none)) : trace.length = fuel := by
  induction fuel generalizing rounds state cursor trace with
  | zero =>
      rw [(Program.runs_loop_zero.mp hruns).1]
      rfl
  | succ fuel ih =>
      rcases Program.runs_loop_succ.mp hruns with
        ⟨next, first, rest, rfl, hfirst, hrest⟩ | ⟨value, hvalue, -⟩ | ⟨error, herror, -⟩
      · obtain ⟨middle, hbefore, hafter⟩ := Program.follows_append.mp hfollows
        obtain ⟨rfl, hlength, last, hnext⟩ := reaches_again hreaches hbefore hfirst
        rw [List.length_append, hlength, ih hnext hafter hrest]
        omega
      · cases hvalue
      · cases herror

/-- So many pages continue the loop, and it asks for one more. -/
def Outlasts (reader : AccountingReader) (companyId : Int)
    (answers : Nat → Except PyException (List Payload)) (rounds : Nat) : Prop :=
  reader.requireCompany companyId = .ok () ∧
    ∃ last kept, Continued companyId answers rounds (some last) kept ∧
      (encodeCursor last).length ≤ 128

theorem length_of_refused {fuel : Nat} {error : PyException}
    (hcompany : reader.requireCompany companyId = .error error)
    {state : PageState AccountMoveLine} {trace : List OdooEvent}
    {result : Except PyException (Option (PageState AccountMoveLine))}
    (hruns : Program.Runs ((candidateLines companyId).run reader companyId fuel state) trace
      result) : trace.length = 0 := by
  have hbody {first : List OdooEvent} {round : Except PyException
        (Round (PageState AccountMoveLine) (PageState AccountMoveLine))}
      (hround : Program.Runs ((candidateLines companyId).body reader companyId state) first round) :
      first = [] ∧ ∃ raised, round = .error raised := by
    rcases Program.runs_ofExcept_bind.mp hround with ⟨request, -, hread⟩ | ⟨raised, -, rfl, rfl⟩
    · have hpage : reader.pagedRead (candidateLines companyId).source companyId request =
          .raise error := readPage_of_refused hcompany
      rw [hpage] at hread
      obtain ⟨rfl, rfl⟩ := Program.runs_raise.mp hread
      exact ⟨rfl, error, rfl⟩
    · exact ⟨rfl, raised, rfl⟩
  cases fuel with
  | zero => rw [(Program.runs_loop_zero.mp hruns).1, List.length_nil]
  | succ fuel =>
      rcases Program.runs_loop_succ.mp hruns with
        ⟨next, first, rest, rfl, hfirst, hrest⟩ | ⟨value, -, hlast⟩ | ⟨raised, -, hlast⟩
      · obtain ⟨-, raised, hraised⟩ := hbody hfirst
        cases hraised
      · rw [(hbody hlast).1, List.length_nil]
      · rw [(hbody hlast).1, List.length_nil]

theorem outlasts_of_length {fuel rounds : Nat} {trace : List OdooEvent} {later : Nat}
    {result : Except PyException (Option (PageState AccountMoveLine))}
    (hfollows : Program.Follows (answering answers) 0 trace later)
    (hruns : Program.Runs ((candidateLines companyId).run reader companyId fuel .start)
      trace result)
    (hlength : rounds + 1 < trace.length) : Outlasts reader companyId answers (rounds + 1) := by
  obtain ⟨last, kept, hcontinued, hle⟩ := continued_of_run reaches_start hfollows hruns hlength
  rw [Nat.zero_add] at hcontinued
  refine ⟨?_, ?_⟩
  · cases hcompany : reader.requireCompany companyId with
    | ok value => rfl
    | error error =>
        refine absurd (length_of_refused hcompany hruns) ?_
        omega
  · cases hcontinued with
    | page hbefore hcursor hanswer of hmore hkept =>
        exact ⟨_, _, .page hbefore hcursor hanswer of hmore hkept, hle _ rfl⟩

theorem count_of_outlasts {rounds : Nat} (houtlasts : Outlasts reader companyId answers rounds) :
    rounds < (((candidateLines companyId).readAll reader companyId (rounds + 1)).traceWith
      (answering answers) 0).countP (searches "account.move.line") := by
  obtain ⟨hcompany, last, kept, hcontinued, hlast⟩ := houtlasts
  have hlength : ∀ identifier ∈ some last, (encodeCursor identifier).length ≤ 128 := by
    rintro identifier ⟨⟩
    exact hlast
  obtain ⟨state, trace, hseen, -, hfollows, hcount, hcontinues⟩ :=
    run_of_continued hcompany hcontinued hlength
  have hnext : Program.Runs ((candidateLines companyId).run reader companyId 1 state)
      (((candidateLines companyId).run reader companyId 1 state).traceWith (answering answers)
        rounds) _ := Program.runs_traceWith _ _
  have hfollowsNext : Program.Follows (answering answers) rounds
      (((candidateLines companyId).run reader companyId 1 state).traceWith (answering answers)
        rounds) _ := Program.follows_traceWith _ _
  have hone := one_le_of_run hcompany hseen (positive_of_continued hcontinued) hlength hnext
  have hwhole := PageLoop.runs_readAll (hcontinues 1 _ _ hnext)
  obtain ⟨htrace, -⟩ := Program.traceWith_of_runs hwhole
    (Program.follows_append.mpr ⟨rounds, hfollows, hfollowsNext⟩)
  rw [htrace, List.countP_append, hcount]
  omega

/-- **The candidate loop ends in time exactly when no stream of full pages outlasts its bound.** -/
theorem candidateLines_endsWithinOn :
    EndsWithinOn (answering answers) 0 AccountMoveLine.id "account.move.line" 1001
      ((candidateLines companyId).readAll reader companyId) ↔
        ¬ Outlasts reader companyId answers 1001 := by
  constructor
  · intro hends houtlasts
    have hcount := count_of_outlasts houtlasts
    have hle := hends.reads_le (1001 + 1)
    omega
  · intro hnot
    have hlong {fuel : Nat} {found : Except PyException (Option (PageState AccountMoveLine))}
        (hruns : Program.Runs ((candidateLines companyId).run reader companyId fuel .start)
          (((candidateLines companyId).readAll reader companyId fuel).traceWith (answering answers)
            0) found) :
        (((candidateLines companyId).readAll reader companyId fuel).traceWith (answering answers)
          0).length ≤ 1001 := by
      by_contra hlength
      exact hnot (outlasts_of_length (Program.follows_traceWith _ _) hruns (by omega))
    have hrun (fuel : Nat) : ∃ found,
        Program.Runs ((candidateLines companyId).run reader companyId fuel .start)
          (((candidateLines companyId).readAll reader companyId fuel).traceWith (answering answers)
            0) found ∧
        (((candidateLines companyId).readAll reader companyId fuel).runWith (answering answers)
          0).1 = found.map (Option.map (·.items)) :=
      PageLoop.run_of_readAll (Program.runs_traceWith _ _)
    refine ⟨fun fuel => ?_, ⟨1002, fun hnone => ?_⟩, fun fuel items hitems => ?_⟩
    · obtain ⟨found, hruns, -⟩ := hrun fuel
      exact List.countP_le_length.trans (hlong hruns)
    · obtain ⟨found, hruns, hresult⟩ := hrun 1002
      rw [hnone] at hresult
      have hfound : found = .ok none := by
        match found, hresult with
        | .ok none, _ => rfl
      rw [hfound] at hruns
      have hlength := length_of_none reaches_start (Program.follows_traceWith _ _) hruns
      have hshort := hlong hruns
      omega
    · have hruns : Program.Runs _ _ (((candidateLines companyId).readAll reader companyId
          fuel).runWith (answering answers) 0).1 := Program.runs_traceWith _ _
      rw [hitems] at hruns
      exact (PageLoop.pairwise_of_readAll hruns).imp fun hlt => ne_of_lt hlt

end Loop

/-! ### A stream of reconciled lines -/

theorem length_encodeCursor_le {number : Nat} (hnumber : number < 10 ^ 90) :
    (encodeCursor number).length ≤ 128 := by
  have hdigits : (number.repr).length ≤ 90 := Nat.repr_length number 90 (by decide) hnumber
  have hlength : ("v1:" ++ toString (number : Int)).toList.length = 3 + number.repr.length := by
    rw [String.toList_append, List.length_append, String.length_toList, String.length_toList]
    rfl
  rw [encodeCursor, String.length_ofList, Base64.length_encode, List.length_map, hlength]
  omega

/-- `[identifier, name]` -/
def named (identifier : Int) (name : String) : PyValue := .list [.int identifier, .str name]

def reconciledRow (identifier : Int) : Payload :=
  [("id", .int identifier), ("move_id", named 1 "MISC/1"), ("parent_state", .str "posted"),
    ("account_id", named 1 "Bank"), ("journal_id", named 1 "Bank"), ("company_id", named 1 "Base"),
    ("date", .str "2026-01-31"), ("debit", .int 0), ("credit", .int 0), ("balance", .int 0),
    ("amount_currency", .int 0), ("amount_residual", .int 0),
    ("amount_residual_currency", .int 0), ("reconciled", .bool true)]

def reconciledLine (identifier : Int) : AccountMoveLine where
  id := identifier
  move := ⟨1, "MISC/1", Int.one_pos⟩
  moveState := .posted
  account := ⟨1, "Bank", Int.one_pos⟩
  journal := ⟨1, "Bank", Int.one_pos⟩
  partner := none
  companyId := 1
  currency := none
  date := (Date.fromisoformat "2026-01-31").get (by decide +kernel)
  maturityDate := none
  label := none
  debit := .ofInt 0
  credit := .ofInt 0
  balance := .ofInt 0
  amountCurrency := .ofInt 0
  residual := .ofInt 0
  residualCurrency := .ofInt 0
  reconciled := true
  analyticDistribution := []

theorem record_reconciledRow (identifier : Int) :
    record (reconciledRow identifier) = reconciledRow identifier := by
  have hkeys : (reconciledRow identifier).map Prod.fst = (reconciledRow 0).map Prod.fst := rfl
  refine record_of_allowed (by rw [hkeys]; decide +kernel) fun entry hentry => ?_
  simp only [reconciledRow, List.mem_cons, List.not_mem_nil, or_false] at hentry
  rcases hentry with rfl | rfl | rfl | rfl | rfl | rfl | rfl | rfl | rfl | rfl | rfl | rfl | rfl |
    rfl
  all_goals simp [named, stripDeniedFields, stripDeniedItems]

theorem companyLine_reconciledRow {identifier : Int} (hidentifier : 0 < identifier) :
    companyLine 1 (record (reconciledRow identifier)) = .ok (reconciledLine identifier) := by
  rw [record_reconciledRow]
  have hid : Field.positiveInt ((reconciledRow identifier).field "id") = some identifier :=
    positiveInt_eq_some.mpr ⟨rfl, hidentifier⟩
  simp only [companyLine, normalizeAccountMoveLine, readField, hid]
  rfl

def endlessIds (time : Nat) : List Int :=
  (List.range 101).map fun index => ((100 * time + index + 1 : Nat) : Int)

/-- Every answer holds one more row than a page takes, and all of them are reconciled. -/
def endlessAnswers (time : Nat) : Except PyException (List Payload) :=
  .ok ((endlessIds time).map reconciledRow)

def endlessPage (time : Nat) : RecordPage AccountMoveLine where
  items := ((endlessIds time).take 100).map reconciledLine
  nextCursor := some (encodeCursor ((100 * (time + 1) : Nat) : Int))
  progress _ hempty := by simp [endlessIds] at hempty

theorem getElem_endlessIds (time index : Nat) (hindex : index < 101) :
    (endlessIds time)[index]? = some ((100 * time + index + 1 : Nat) : Int) := by
  rw [endlessIds, List.getElem?_map, List.getElem?_range hindex]
  rfl

theorem mem_endlessIds {time : Nat} {identifier : Int} (hmem : identifier ∈ endlessIds time) :
    ((100 * time : Nat) : Int) < identifier := by
  obtain ⟨index, -, rfl⟩ := List.mem_map.mp hmem
  omega

/-- The answer at a time is a full page after the cursor of the page before. -/
def endlessPageOf (time : Nat) (cursor : Option Int)
    (hcursor : ∀ identifier ∈ cursor, identifier = ((100 * time : Nat) : Int)) :
    PageOf (companyLine 1) 100 cursor ((endlessIds time).map reconciledRow)
      (endlessPage time) where
  identifiers := endlessIds time
  fits := by simp [endlessIds]
  identified := by
    rw [List.forall₂_map_left_iff]
    exact List.forall₂_same.mpr fun identifier _ => rfl
  positive identifier hidentifier := by
    have hlt := mem_endlessIds hidentifier
    omega
  ordered := by
    refine List.pairwise_map.mpr (List.pairwise_lt_range.imp fun hlt => ?_)
    omega
  after cursor hgiven identifier hidentifier := by
    rw [hcursor cursor hgiven]
    exact mem_endlessIds hidentifier
  converted := by
    rw [← List.map_take, endlessPage, List.forall₂_map_left_iff, List.forall₂_map_right_iff]
    refine List.forall₂_same.mpr fun identifier hidentifier => ?_
    have hlt := mem_endlessIds (List.mem_of_mem_take hidentifier)
    exact companyLine_reconciledRow (by omega)
  continued := by
    rw [if_pos (by simp [endlessIds]), List.getD_eq_getElem?_getD,
      getElem_endlessIds time 99 (by decide)]
    rfl

theorem keptOf_endlessPage (time : Nat) : keptOf (endlessPage time) = 0 := by
  rw [keptOf, List.length_eq_zero_iff, List.filter_eq_nil_iff]
  intro item hitem
  obtain ⟨identifier, -, rfl⟩ := List.mem_map.mp hitem
  simp [reconciledLine]

theorem continued_next {rounds : Nat} {cursor : Option Int}
    (hbefore : Continued 1 endlessAnswers rounds cursor 0)
    (hcursor : ∀ identifier ∈ cursor, identifier = ((100 * rounds : Nat) : Int))
    (hrounds : 100 * rounds < 10 ^ 90) :
    Continued 1 endlessAnswers (rounds + 1) (some ((100 * (rounds + 1) : Nat) : Int)) 0 := by
  have hlength : ∀ identifier ∈ cursor, (encodeCursor identifier).length ≤ 128 := by
    intro identifier hidentifier
    rw [hcursor identifier hidentifier]
    exact length_encodeCursor_le hrounds
  have hlast : (endlessIds rounds).getD 99 0 = ((100 * (rounds + 1) : Nat) : Int) := by
    rw [List.getD_eq_getElem?_getD, getElem_endlessIds rounds 99 (by decide)]
    rfl
  have hpage := Continued.page hbefore hlength rfl (endlessPageOf rounds cursor hcursor)
    (by simp [endlessIds]) (by rw [keptOf_endlessPage]; decide)
  rw [keptOf_endlessPage] at hpage
  change Continued _ _ _ (some ((endlessIds rounds).getD 99 0)) 0 at hpage
  rwa [hlast] at hpage

/-- By induction on the pages: each continues the loop, and none brings it closer to its bound. -/
theorem continued_endless (rounds : Nat) (hrounds : 100 * rounds < 10 ^ 90) :
    Continued 1 endlessAnswers (rounds + 1) (some ((100 * (rounds + 1) : Nat) : Int)) 0 := by
  induction rounds with
  | zero => exact continued_next .start (by simp) hrounds
  | succ rounds ih =>
      refine continued_next (ih (by omega)) ?_ hrounds
      rintro identifier ⟨⟩
      rfl

theorem outlasts_endless {rounds : Nat} (hrounds : 100 * (rounds + 1) < 10 ^ 90) :
    Outlasts ⟨some [1]⟩ 1 endlessAnswers (rounds + 1) :=
  ⟨ensure_ok.mpr (by decide), _, 0, continued_endless rounds (by omega),
    length_encodeCursor_le hrounds⟩

/-- No bound on the page reads that a cursor can still count holds of this stream. -/
theorem not_endsWithinOn_endless {reads : Nat} (hreads : 100 * (reads + 1) < 10 ^ 90) :
    ¬ EndsWithinOn (answering endlessAnswers) 0 AccountMoveLine.id "account.move.line" (reads + 1)
      ((candidateLines 1).readAll ⟨some [1]⟩ 1) := by
  intro hends
  have hcount := count_of_outlasts (outlasts_endless hreads)
  have hle := hends.reads_le (reads + 1 + 1)
  omega

end ReconcileBank

end OdooMcp
