import Mathlib.Data.Int.ConditionallyCompleteOrder
import OdooMcp.Adapters.PayrollReader
import OdooMcp.DoubleCollect

/-!
# The stable rows of the payroll reader

The database behind the transport changes between any two calls. The rows that a stable read returns
are nevertheless those of one instant.
-/

namespace OdooMcp

open Effect

/-! ### The database -/

/-- One state of a row: its fields, and the write date that is one of them. -/
structure OdooRow where
  id : Int
  values : String → PyValue
  writeDate : DateTime
  id_value : values "id" = .int id
  write_date_value : Field.datetime (values "write_date") = some writeDate

namespace OdooRow

def stamp (row : OdooRow) : Int := row.writeDate.normal.wall

def project (fields : List String) (row : OdooRow) : Payload :=
  fields.map fun field => (field, row.values field)

theorem field_project {fields : List String} {field : String} (hfield : field ∈ fields)
    (row : OdooRow) : (row.project fields).field field = row.values field := by
  have hfind : ((row.project fields).find? fun entry => entry.1 = field) =
      some (field, row.values field) := by
    induction fields with
    | nil => cases hfield
    | cons head tail ih =>
        rw [project, List.map_cons]
        by_cases hhead : head = field
        · subst hhead
          simp
        · rw [List.find?_cons_of_neg (by simpa using hhead)]
          exact ih ((List.mem_cons.mp hfield).resolve_left (Ne.symm hhead))
  rw [Payload.field, dictGet, hfind]
  rfl

end OdooRow

/-- The tables of the models over time, and which rows a domain selects for a request in the context
of some companies. -/
structure OdooDatabase (Instant : Type) [LinearOrder Instant] where
  table : String → TableHistory Instant OdooRow.id OdooRow.stamp
  selects : String → List PyValue → List Int → OdooRow → Bool

namespace OdooDatabase

variable {Instant : Type} [LinearOrder Instant] (database : OdooDatabase Instant)

def matching (instant : Instant) (model : String) (domain : List PyValue)
    (companyIds : List Int) : List OdooRow :=
  ((database.table model).tableAt instant).filter (database.selects model domain companyIds)

/-- The call is answered from the state of one instant; rows may come in any order. -/
def Answers (instant : Instant) : OdooEvent → Prop
  | ⟨.searchCount model domain companyIds, answer⟩ =>
      answer = .ok ((database.matching instant model domain companyIds).length : Int)
  | ⟨.searchRead model domain fields limit offset _ companyIds, answer⟩ =>
      ∃ arranged : List OdooRow,
        arranged.Perm (database.matching instant model domain companyIds) ∧
        answer = .ok (((arranged.drop offset).take limit).map (OdooRow.project fields))
  | _ => True

end OdooDatabase

def countsRows : OdooRequest → Bool
  | .searchCount _ _ _ => true
  | _ => false

namespace PayrollReader

section Collecting

variable {Instant : Type} [LinearOrder Instant] {database : OdooDatabase Instant} {model : String}
  {companyId : Int} {domain : List PyValue} {fields : List String} {order : String}
  {timed : List (Instant × OdooEvent)} {rows : List Payload}

/-- The rows are projections of selected rows of the database, read at the instants of the calls,
which are no counts. -/
def Fetched (database : OdooDatabase Instant) (model : String) (companyId : Int)
    (domain : List PyValue) (fields : List String) (timed : List (Instant × OdooEvent))
    (rows : List Payload) (found : List OdooRow) : Prop :=
  rows = found.map (OdooRow.project fields) ∧
    (∀ row ∈ found, database.selects model domain [companyId] row = true ∧
      ∃ call ∈ timed, row ∈ (database.table model).tableAt call.1) ∧
    ∀ call ∈ timed, countsRows call.2.request = false

theorem fetched_of_fullPage {count requested offset : Nat}
    (hruns : Program.Runs (fullPage model companyId domain fields order count requested offset)
      (timed.map Prod.snd) (.ok rows))
    (hanswers : ∀ call ∈ timed, database.Answers call.1 call.2) :
    rows.length = requested ∧
      ∃ found, Fetched database model companyId domain fields timed rows found := by
  unfold fullPage at hruns
  obtain ⟨page, first, rest, hsplit, hpage, hrest⟩ := Program.runs_bind_ok.mp hruns
  obtain rfl := Program.runs_call.mp hpage
  split at hrest
  · rename_i hlength
    obtain ⟨rfl, hsame⟩ := Program.runs_ret.mp hrest
    cases hsame
    obtain ⟨call, rfl, hcall⟩ : ∃ call, timed = [call] ∧
        call.2 = ⟨.searchRead model domain fields requested offset order [companyId],
          .ok rows⟩ := by
      simpa [List.map_eq_cons_iff] using hsplit
    have hanswer := hanswers call (List.mem_singleton_self call)
    rw [hcall] at hanswer
    obtain ⟨arranged, hperm, hrows⟩ := hanswer
    cases hrows
    refine ⟨hlength, _, rfl, fun row hrow => ?_, ?_⟩
    · have hmem := hperm.subset (List.mem_of_mem_drop (List.mem_of_mem_take hrow))
      obtain ⟨htable, hselected⟩ := List.mem_filter.mp hmem
      exact ⟨hselected, call, List.mem_singleton_self call, htable⟩
    · intro other hother
      obtain rfl := List.mem_singleton.mp hother
      rw [hcall]
      rfl
  · obtain ⟨current, _, _, -, -, hrest⟩ := Program.runs_bind_ok.mp hrest
    obtain ⟨_, -, hrest⟩ := Program.runs_ofExcept_bind_ok.mp hrest
    cases hrest

theorem acceptRows_project {seen accepted : List Int} (hid : "id" ∈ fields)
    {found : List OdooRow}
    (haccept : acceptRows fields seen (found.map (OdooRow.project fields)) = .ok accepted) :
    (found.map OdooRow.id).Nodup ∧ (∀ row ∈ found, row.id ∉ seen) ∧
      ∀ identifier, identifier ∈ accepted ↔
        identifier ∈ seen ∨ ∃ row ∈ found, row.id = identifier := by
  induction found generalizing seen with
  | nil =>
      cases haccept
      simp
  | cons row found ih =>
      rw [List.map_cons, acceptRows, except_bind_ok] at haccept
      obtain ⟨record, hrecord, haccept⟩ := haccept
      obtain ⟨_, -, hsame⟩ := except_bind_ok.mp hrecord
      cases hsame
      obtain ⟨identifier, hidentifier, haccept⟩ := except_bind_ok.mp haccept
      obtain ⟨_, hnew, haccept⟩ := except_bind_ok.mp haccept
      have hrow : identifier = row.id := by
        rw [payrollField, orRaise_ok, row.field_project hid, row.id_value] at hidentifier
        simp only [Field.positiveInt] at hidentifier
        split at hidentifier
        · exact (Option.some.inj hidentifier).symm
        · cases hidentifier
      subst hrow
      obtain ⟨hnodup, hunseen, hmem⟩ := ih haccept
      have hfresh : row.id ∉ seen := by simpa using ensure_ok.mp hnew
      refine ⟨?_, ?_, ?_⟩
      · rw [List.map_cons, List.nodup_cons]
        refine ⟨fun hdouble => ?_, hnodup⟩
        obtain ⟨other, hother, hsame⟩ := List.mem_map.mp hdouble
        exact hunseen other hother (by simp [hsame])
      · intro other hother
        rcases List.mem_cons.mp hother with rfl | hlater
        · exact hfresh
        · exact fun hseen => hunseen other hlater (List.mem_cons_of_mem _ hseen)
      · intro candidate
        rw [hmem]
        simp only [List.mem_cons, exists_eq_or_imp]
        constructor
        · rintro ((rfl | hseen) | hlater)
          · exact .inr (.inl rfl)
          · exact .inl hseen
          · exact .inr (.inr hlater)
        · rintro (hseen | rfl | hlater)
          · exact .inl (.inr hseen)
          · exact .inl (.inl rfl)
          · exact .inr hlater

/-- By induction on the number of rows that are still missing. -/
theorem fetched_of_fetchPages (hid : "id" ∈ fields) {count : Nat} {seen : List Int}
    {remaining : Nat}
    (hruns : Program.Runs (fetchPages model companyId domain fields order count seen remaining)
      (timed.map Prod.snd) (.ok rows))
    (hanswers : ∀ call ∈ timed, database.Answers call.1 call.2) :
    ∃ found, Fetched database model companyId domain fields timed rows found ∧
      found.length = remaining ∧ (found.map OdooRow.id).Nodup ∧ ∀ row ∈ found, row.id ∉ seen := by
  induction remaining using Nat.strong_induction_on generalizing seen timed rows with
  | _ remaining ih =>
      rw [fetchPages] at hruns
      split at hruns
      · rename_i hzero
        obtain ⟨hnil, hsame⟩ := Program.runs_ret.mp hruns
        cases hsame
        obtain rfl : timed = [] := by simpa using hnil
        exact ⟨[], ⟨rfl, by simp, by simp⟩, hzero.symm, by simp, by simp⟩
      · rename_i hremaining
        obtain ⟨page, first, tail, hsplit, hpage, hruns⟩ := Program.runs_bind_ok.mp hruns
        obtain ⟨early, late, rfl, rfl, rfl⟩ := List.map_eq_append_iff.mp hsplit
        obtain ⟨accepted, haccept, hruns⟩ := Program.runs_ofExcept_bind_ok.mp hruns
        obtain ⟨rest, middle, last, hsplit, hrest, hruns⟩ := Program.runs_bind_ok.mp hruns
        obtain ⟨rfl, hsame⟩ := Program.runs_ret.mp hruns
        cases hsame
        rw [List.append_nil] at hsplit
        subst hsplit
        obtain ⟨hlength, found, hfound, hcollected, hreads⟩ := fetched_of_fullPage hpage
          fun call hcall => hanswers call (List.mem_append_left _ hcall)
        subst hfound
        obtain ⟨others, ⟨rfl, hcollectedRest, hreadsRest⟩, hlengthRest, hnodupRest, hunseenRest⟩ :=
          ih _ (by omega) hrest fun call hcall => hanswers call (List.mem_append_right _ hcall)
        obtain ⟨hnodup, hunseen, hmem⟩ := acceptRows_project hid haccept
        refine ⟨found ++ others, ⟨by simp, ?_, ?_⟩, ?_, ?_, ?_⟩
        · intro row hrow
          rcases List.mem_append.mp hrow with hmemFound | hmemOthers
          · obtain ⟨hselected, call, hcall, htable⟩ := hcollected row hmemFound
            exact ⟨hselected, call, List.mem_append_left _ hcall, htable⟩
          · obtain ⟨hselected, call, hcall, htable⟩ := hcollectedRest row hmemOthers
            exact ⟨hselected, call, List.mem_append_right _ hcall, htable⟩
        · intro call hcall
          rcases List.mem_append.mp hcall with hearly | hlate
          · exact hreads call hearly
          · exact hreadsRest call hlate
        · rw [List.length_map] at hlength
          rw [List.length_append]
          omega
        · rw [List.map_append]
          refine hnodup.append hnodupRest ?_
          intro identifier hleft hright
          obtain ⟨row, hrow, rfl⟩ := List.mem_map.mp hleft
          obtain ⟨other, hother, hsame⟩ := List.mem_map.mp hright
          exact hunseenRest other hother ((hmem _).mpr (.inr ⟨row, hrow, hsame.symm⟩))
        · intro row hrow
          rcases List.mem_append.mp hrow with hmemFound | hmemOthers
          · exact hunseen row hmemFound
          · exact fun hseen => hunseenRest row hmemOthers ((hmem _).mpr (.inl hseen))

theorem fetched_of_fetchRows (hid : "id" ∈ fields) {count : Nat}
    (hruns : Program.Runs (fetchRows model companyId domain fields order count)
      (timed.map Prod.snd) (.ok rows))
    (hanswers : ∀ call ∈ timed, database.Answers call.1 call.2) :
    ∃ found, Fetched database model companyId domain fields timed rows found ∧
      found.length = count ∧ (found.map OdooRow.id).Nodup := by
  unfold fetchRows at hruns
  split at hruns
  · rename_i hzero
    obtain ⟨page, first, rest, hsplit, hpage, hruns⟩ := Program.runs_bind_ok.mp hruns
    obtain rfl := Program.runs_call.mp hpage
    obtain ⟨_, -, hruns⟩ := Program.runs_ofExcept_bind_ok.mp hruns
    obtain ⟨rfl, hsame⟩ := Program.runs_ret.mp hruns
    cases hsame
    refine ⟨[], ⟨rfl, by simp, ?_⟩, hzero.symm, by simp⟩
    intro call hcall
    have hmem : call.2 ∈ timed.map Prod.snd := List.mem_map_of_mem hcall
    rw [hsplit, List.append_nil, List.mem_singleton] at hmem
    rw [hmem]
    rfl
  · obtain ⟨found, hfetched, hlength, hnodup, -⟩ := fetched_of_fetchPages hid hruns hanswers
    exact ⟨found, hfetched, hlength, hnodup⟩

theorem anchors_project (hid : "id" ∈ fields) (hdate : "write_date" ∈ fields)
    {found : List OdooRow} {result : List (Int × DateTime)}
    (hanchors : anchors (found.map (OdooRow.project fields)) = .ok result) :
    result = found.map fun row => (row.id, row.writeDate) := by
  induction found generalizing result with
  | nil =>
      cases hanchors
      rfl
  | cons row found ih =>
      rw [anchors, List.map_cons, List.mapM_cons, except_bind_ok] at hanchors
      obtain ⟨first, hfirst, hrest⟩ := hanchors
      obtain ⟨others, hothers, hdone⟩ := except_bind_ok.mp hrest
      cases hdone
      obtain ⟨identifier, hidentifier, hfirst⟩ := except_bind_ok.mp hfirst
      obtain ⟨written, hwritten, hfirst⟩ := except_bind_ok.mp hfirst
      cases hfirst
      rw [payrollField, orRaise_ok, row.field_project hid, row.id_value] at hidentifier
      rw [payrollField, orRaise_ok, row.field_project hdate, row.write_date_value] at hwritten
      simp only [Field.positiveInt] at hidentifier
      split at hidentifier
      · cases hidentifier
        cases hwritten
        rw [List.map_cons, ih hothers]
      · cases hidentifier

theorem stamps_of_sameAnchors {first second : List OdooRow}
    (hsame : sameAnchors (second.map fun row => (row.id, row.writeDate))
      (first.map fun row => (row.id, row.writeDate)) = true) :
    (first.map fun row => (row.id, row.stamp)) = second.map fun row => (row.id, row.stamp) := by
  have hnormal : (second.map fun row => (row.id, row.writeDate.normal)) =
      first.map fun row => (row.id, row.writeDate.normal) := by
    simpa [sameAnchors, Function.comp_def] using hsame
  have hwalls :=
    congrArg (List.map fun anchor : Int × DateTime => (anchor.1, anchor.2.wall)) hnormal
  simpa [Function.comp_def, OdooRow.stamp] using hwalls.symm

theorem mem_fields {reader : PayrollReader} (hfields : reader.fields model = .ok fields) :
    "id" ∈ fields ∧ "write_date" ∈ fields := by
  obtain ⟨_, -, hfields⟩ := except_bind_ok.mp hfields
  have hsome : payrollModelFields reader.version model = some fields := orRaise_ok.mp hfields
  cases hversion : reader.version <;> rw [hversion, payrollModelFields.eq_def] at hsome <;>
    split at hsome <;> cases hsome <;> simp

/-- **The stable rows are a snapshot.** While the database changes between the calls, the rows that
a stable read returns are the rows the domain matches at the instant of its second count, with their
contents of that instant. -/
theorem stableRows_snapshot (reader : PayrollReader) (database : OdooDatabase Instant)
    {cap : Nat}
    (hruns : Program.Runs (reader.stableRows model companyId domain order cap)
      (timed.map Prod.snd) (.ok rows))
    (hordered : timed.Pairwise fun first second => first.1 ≤ second.1)
    (hanswers : ∀ call ∈ timed, database.Answers call.1 call.2) :
    ∃ fields before counted after, reader.fields model = .ok fields ∧
      timed = before ++ counted :: after ∧
      counted.2.request = .searchCount model domain [companyId] ∧
      before.countP (fun call => countsRows call.2.request) = 1 ∧
      rows.Perm ((database.matching counted.1 model domain [companyId]).map
        (OdooRow.project fields)) := by
  unfold stableRows at hruns
  obtain ⟨_, -, hruns⟩ := Program.runs_ofExcept_bind_ok.mp hruns
  obtain ⟨fields, hfields, hruns⟩ := Program.runs_ofExcept_bind_ok.mp hruns
  obtain ⟨hid, hdate⟩ := mem_fields hfields
  obtain ⟨count, _, _, hsplit, hcount, hruns⟩ := Program.runs_bind_ok.mp hruns
  obtain rfl := Program.runs_call.mp hcount
  obtain ⟨opening, afterOpening, rfl, hopening, rfl⟩ := List.map_eq_append_iff.mp hsplit
  obtain ⟨_, hpositive, hruns⟩ := Program.runs_ofExcept_bind_ok.mp hruns
  obtain ⟨_, -, hruns⟩ := Program.runs_ofExcept_bind_ok.mp hruns
  obtain ⟨collected, _, _, hsplit, hcollect, hruns⟩ := Program.runs_bind_ok.mp hruns
  obtain ⟨early, afterEarly, rfl, rfl, rfl⟩ := List.map_eq_append_iff.mp hsplit
  obtain ⟨firstAnchors, hfirstAnchors, hruns⟩ := Program.runs_ofExcept_bind_ok.mp hruns
  obtain ⟨finalCount, _, _, hsplit, hfinalCount, hruns⟩ := Program.runs_bind_ok.mp hruns
  obtain rfl := Program.runs_call.mp hfinalCount
  obtain ⟨closing, afterClosing, rfl, hclosing, rfl⟩ := List.map_eq_append_iff.mp hsplit
  obtain ⟨_, hsameCount, hruns⟩ := Program.runs_ofExcept_bind_ok.mp hruns
  obtain ⟨again, _, _, hsplit, hagain, hruns⟩ := Program.runs_bind_ok.mp hruns
  obtain ⟨late, afterLate, rfl, rfl, rfl⟩ := List.map_eq_append_iff.mp hsplit
  obtain ⟨finalAnchors, hfinalAnchors, hruns⟩ := Program.runs_ofExcept_bind_ok.mp hruns
  obtain ⟨_, hsameAnchors, hruns⟩ := Program.runs_ofExcept_bind_ok.mp hruns
  obtain ⟨-, hsame⟩ := Program.runs_ret.mp hruns
  cases hsame
  obtain ⟨opened, rfl, hopened⟩ : ∃ call, opening = [call] ∧
      call.2 = ⟨.searchCount model domain [companyId], .ok count⟩ := by
    simpa [List.map_eq_cons_iff] using hopening
  obtain ⟨counted, rfl, hcounted⟩ : ∃ call, closing = [call] ∧
      call.2 = ⟨.searchCount model domain [companyId], .ok finalCount⟩ := by
    simpa [List.map_eq_cons_iff] using hclosing
  -- both passes collect rows of the table, on the two sides of the second count
  obtain ⟨found, ⟨rfl, hcollected, hreads⟩, hlength, hnodup⟩ := fetched_of_fetchRows
    hid hcollect fun call hcall => hanswers call (by simp [hcall])
  obtain ⟨refound, ⟨rfl, hrecollected, -⟩, -, -⟩ := fetched_of_fetchRows
    (by simp) hagain fun call hcall => hanswers call (by simp [hcall])
  have hearly : (database.table model).Collected (database.selects model domain [companyId])
      (· ≤ counted.1) found := by
    intro row hrow
    obtain ⟨hselected, call, hcall, htable⟩ := hcollected row hrow
    refine ⟨hselected, call.1, ?_, htable⟩
    simp only [List.pairwise_append] at hordered
    exact hordered.2.1.2.2 call hcall counted (by simp)
  have hlate : (database.table model).Collected (database.selects model domain [companyId])
      (counted.1 ≤ ·) refound := by
    intro row hrow
    obtain ⟨hselected, call, hcall, htable⟩ := hrecollected row hrow
    refine ⟨hselected, call.1, ?_, htable⟩
    simp only [List.pairwise_append] at hordered
    exact hordered.2.1.2.1.2.2 counted (by simp) call (by simp [hcall])
  have hstamps : (found.map fun row => (row.id, row.stamp)) =
      refound.map fun row => (row.id, row.stamp) := by
    rw [anchors_project hid hdate hfirstAnchors,
      anchors_project (by simp) (by simp) hfinalAnchors] at hsameAnchors
    exact stamps_of_sameAnchors (ensure_ok.mp hsameAnchors)
  have hmatching :
      found.length = (database.matching counted.1 model domain [companyId]).length := by
    have hanswer := hanswers counted (by simp)
    rw [hcounted] at hanswer
    have hfinal : finalCount =
        ((database.matching counted.1 model domain [companyId]).length : Int) := by
      injection hanswer
    have hequal : finalCount = count := by simpa using ensure_ok.mp hsameCount
    omega
  refine ⟨fields, opened :: early, counted, late ++ afterLate, hfields, by simp, ?_, ?_, ?_⟩
  · rw [hcounted]
  · have hnone : early.countP (fun call => countsRows call.2.request) = 0 :=
      List.countP_eq_zero.mpr fun call hcall => by simp [hreads call hcall]
    rw [List.countP_cons, hnone, hopened]
    rfl
  · exact ((database.table model).perm_of_collected hearly hlate hstamps hnodup hmatching).map _

end Collecting

/-! ### Answers of one instant -/

/-- Answer every call from the state of one instant. -/
def answerAt {Instant : Type} [LinearOrder Instant] (database : OdooDatabase Instant)
    (instant : Instant) (request : OdooRequest) (world : Unit) :
    Except PyException (odooSignature.Result request) × Unit :=
  match request with
  | .connect => (.ok (), world)
  | .searchCount model domain companyIds =>
      (.ok ((database.matching instant model domain companyIds).length : Int), world)
  | .searchRead model domain fields limit offset _ companyIds =>
      (.ok ((((database.matching instant model domain companyIds).drop offset).take limit).map
        (OdooRow.project fields)), world)
  | .executeMethod _ _ _ _ _ => (.ok .none, world)
  | .close => (.ok (), world)

theorem answers_answerAt {Instant : Type} [LinearOrder Instant] (database : OdooDatabase Instant)
    (instant : Instant) (request : OdooRequest) (world : Unit) :
    database.Answers instant ⟨request, (answerAt database instant request world).1⟩ := by
  cases request with
  | searchCount model domain companyIds => rfl
  | searchRead model domain fields limit offset order companyIds =>
      exact ⟨database.matching instant model domain companyIds, .refl _, rfl⟩
  | _ => trivial

/-! ### A database that changes between the calls -/

/-- The calls of a program, each one answered from the state of the next instant. -/
def timedCalls {α : Type} (database : OdooDatabase Nat) :
    Odoo α → Nat → List (Nat × OdooEvent)
  | .ask request continuation, instant =>
      (instant, ⟨request, (answerAt database instant request ()).1⟩) ::
        timedCalls database (continuation (answerAt database instant request ()).1) (instant + 1)
  | .ret _, _ => []
  | .raise _, _ => []

def resultInTurn {α : Type} (database : OdooDatabase Nat) :
    Odoo α → Nat → Except PyException α
  | .ask request continuation, instant =>
      resultInTurn database (continuation (answerAt database instant request ()).1) (instant + 1)
  | .ret value, _ => .ok value
  | .raise error, _ => .error error

theorem runs_timedCalls {α : Type} (database : OdooDatabase Nat) (program : Odoo α)
    (instant : Nat) :
    Program.Runs program ((timedCalls database program instant).map Prod.snd)
      (resultInTurn database program instant) := by
  induction program generalizing instant with
  | ret value => exact .ret value
  | raise error => exact .raise error
  | ask request continuation ih => exact .ask _ _ _ (ih _ _)

theorem timedCalls_answers {α : Type} (database : OdooDatabase Nat) (program : Odoo α)
    (instant : Nat) :
    ∀ call ∈ timedCalls database program instant,
      instant ≤ call.1 ∧ database.Answers call.1 call.2 := by
  induction program generalizing instant with
  | ret value => simp [timedCalls]
  | raise error => simp [timedCalls]
  | ask request continuation ih =>
      intro call hcall
      rcases List.mem_cons.mp hcall with rfl | hlater
      · exact ⟨le_refl instant, answers_answerAt database instant request ()⟩
      · obtain ⟨hinstant, hanswers⟩ := ih _ (instant + 1) call hlater
        exact ⟨by omega, hanswers⟩

theorem timedCalls_ordered {α : Type} (database : OdooDatabase Nat) (program : Odoo α)
    (instant : Nat) :
    (timedCalls database program instant).Pairwise fun first second => first.1 ≤ second.1 := by
  induction program generalizing instant with
  | ret value => exact .nil
  | raise error => exact .nil
  | ask request continuation ih =>
      refine .cons ?_ (ih _ _)
      intro call hcall
      have hinstant := (timedCalls_answers database _ (instant + 1) call hcall).1
      dsimp only
      omega

/-- An employee, as every model shows it, last written at the start of a day of July 2021. -/
def employeeRow (identifier : Int) (name : String) (later : Bool) : OdooRow where
  id := identifier
  values
    | "id" => .int identifier
    | "name" => .str name
    | "active" => .bool true
    | "company_id" => .list [.int 1, .str "Company"]
    | "write_date" => .str (if later then "2021-07-27 00:00:00" else "2021-07-26 00:00:00")
    | _ => .none
  writeDate := ⟨(if later then 737997 else 737996) * DateTime.dayLength, none⟩
  id_value := rfl
  write_date_value := by
    change Field.datetime (.str (if later then _ else _)) =
      some ⟨(if later then _ else _) * _, none⟩
    cases later <;> decide +kernel

/-- After the first instant employee 5 is renamed, 6 is added and 8 is deleted; 9 is added after the
third. -/
def employeesAt (instant : Nat) : List OdooRow :=
  if instant = 0 then [employeeRow 5 "Ada" false, employeeRow 8 "Cleo" false]
  else if instant ≤ 2 then [employeeRow 5 "Ada L." true, employeeRow 6 "Ben" true]
  else [employeeRow 5 "Ada L." true, employeeRow 6 "Ben" true, employeeRow 9 "Eve" true]

theorem mem_employeesAt {instant : Nat} {row : OdooRow} :
    row ∈ employeesAt instant ↔
      (instant = 0 ∧ row = employeeRow 5 "Ada" false) ∨
      (instant = 0 ∧ row = employeeRow 8 "Cleo" false) ∨
      (1 ≤ instant ∧ row = employeeRow 5 "Ada L." true) ∨
      (1 ≤ instant ∧ row = employeeRow 6 "Ben" true) ∨
      (3 ≤ instant ∧ row = employeeRow 9 "Eve" true) := by
  unfold employeesAt
  by_cases hfirst : instant = 0
  · simp [hfirst]
  · have hpositive : 1 ≤ instant := by omega
    by_cases hearly : instant ≤ 2
    · simp [hfirst, hearly, hpositive, show ¬ 3 ≤ instant by omega]
    · simp [hfirst, hearly, hpositive, show 3 ≤ instant by omega]

def employeeTable : TableHistory Nat OdooRow.id OdooRow.stamp where
  tableAt := employeesAt
  changed := by
    intro earlier later hle first hfirst second hsecond hsame
    rw [mem_employeesAt] at hfirst hsecond
    rcases hfirst with ⟨hfirst, rfl⟩ | ⟨hfirst, rfl⟩ | ⟨hfirst, rfl⟩ | ⟨hfirst, rfl⟩ |
        ⟨hfirst, rfl⟩ <;>
      rcases hsecond with ⟨hsecond, rfl⟩ | ⟨hsecond, rfl⟩ | ⟨hsecond, rfl⟩ | ⟨hsecond, rfl⟩ |
        ⟨hsecond, rfl⟩ <;>
      first
      | exact absurd hsame (by decide)
      | exact .inl rfl
      | exact .inr (by decide)
      | omega
  present := by
    intro earlier instant later hearlier hlater first hfirst second hsecond hsame
    rcases mem_employeesAt.mp hfirst with ⟨hstart, rfl⟩ | ⟨hstart, rfl⟩ | ⟨hstart, rfl⟩ |
      ⟨hstart, rfl⟩ | ⟨hstart, rfl⟩
    · by_cases hinstant : instant = 0
      · exact ⟨_, mem_employeesAt.mpr (.inl ⟨hinstant, rfl⟩), rfl⟩
      · have hpositive : 1 ≤ instant := by omega
        exact ⟨_, mem_employeesAt.mpr (.inr (.inr (.inl ⟨hpositive, rfl⟩))), rfl⟩
    · have hend : later = 0 := by
        rcases mem_employeesAt.mp hsecond with ⟨hend, rfl⟩ | ⟨hend, rfl⟩ | ⟨-, rfl⟩ | ⟨-, rfl⟩ |
            ⟨-, rfl⟩ <;>
          first
          | exact hend
          | exact absurd hsame (by decide)
      exact ⟨_, mem_employeesAt.mpr (.inr (.inl ⟨by omega, rfl⟩)), rfl⟩
    · exact ⟨_, mem_employeesAt.mpr (.inr (.inr (.inl ⟨by omega, rfl⟩))), rfl⟩
    · exact ⟨_, mem_employeesAt.mpr (.inr (.inr (.inr (.inl ⟨by omega, rfl⟩)))), rfl⟩
    · exact ⟨_, mem_employeesAt.mpr (.inr (.inr (.inr (.inr ⟨by omega, rfl⟩)))), rfl⟩

def employeeDatabase : OdooDatabase Nat where
  table _ := employeeTable
  selects _ _ _ _ := true

def employeeReader : PayrollReader := ⟨.v19, some [1], fun text => text⟩

def employeeRead : Odoo (List Payload) :=
  employeeReader.stableRows "hr.employee" 1 [] "id asc" 5000

/-- The employees read while the table changes are those at the second count, the third call; the
first count had found others. -/
theorem stableRows_snapshot_employeeRead :
    (timedCalls employeeDatabase employeeRead 0).map Prod.fst = [0, 1, 2, 3] ∧
    ∃ rows, resultInTurn employeeDatabase employeeRead 0 = .ok rows ∧
      ∃ fields before counted after, employeeReader.fields "hr.employee" = .ok fields ∧
        timedCalls employeeDatabase employeeRead 0 = before ++ counted :: after ∧
        counted.2.request = .searchCount "hr.employee" [] [1] ∧
        before.countP (fun call => countsRows call.2.request) = 1 ∧
        rows.Perm ((employeeDatabase.matching counted.1 "hr.employee" [] [1]).map
          (OdooRow.project fields)) := by
  have hreturns : (resultInTurn employeeDatabase employeeRead 0).toOption.isSome = true := by
    decide +kernel
  obtain ⟨rows, hrows⟩ : ∃ rows, resultInTurn employeeDatabase employeeRead 0 = .ok rows := by
    cases hresult : resultInTurn employeeDatabase employeeRead 0 with
    | ok rows => exact ⟨rows, rfl⟩
    | error error => simp [hresult, Except.toOption] at hreturns
  have hruns := runs_timedCalls employeeDatabase employeeRead 0
  rw [hrows] at hruns
  refine ⟨by decide +kernel, rows, hrows,
    employeeReader.stableRows_snapshot employeeDatabase hruns ?_ ?_⟩
  · exact timedCalls_ordered employeeDatabase employeeRead 0
  · intro call hcall
    exact (timedCalls_answers employeeDatabase employeeRead 0 call hcall).2

end PayrollReader

end OdooMcp
