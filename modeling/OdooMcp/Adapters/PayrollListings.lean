import Mathlib.Data.List.ReduceOption
import OdooMcp.Adapters.AccountingPages
import OdooMcp.Adapters.PayrollEntries
import OdooMcp.Adapters.PayrollPages

/-!
# The paged reads of the payroll reader

Each of them gathers a listing before it makes a page of it. The items have ids of their own, since
the rows they are made of do.
-/

namespace OdooMcp

open Effect Pagination

def rowId (row : Payload) : Option Int := Field.positiveInt (row.field "id")

/-! ### Rows -/

/-- The rows have ids, and no two the same. -/
structure Identified (rows : List Payload) (identifiers : List Int) : Prop where
  ids : rows.map rowId = identifiers.map some
  nodup : identifiers.Nodup

namespace PayrollReader

theorem identified_of_acceptRows {fields : List String} {seen accepted : List Int}
    {rows : List Payload} (haccepted : acceptRows fields seen rows = .ok accepted) :
    ∃ identifiers : List Int, rows.map rowId = identifiers.map some ∧
      accepted = identifiers.reverse ++ seen ∧ (seen.Nodup → accepted.Nodup) := by
  induction rows generalizing seen with
  | nil =>
      cases haccepted
      exact ⟨[], rfl, rfl, id⟩
  | cons value rows ih =>
      obtain ⟨row, hrow, hrest⟩ := except_bind_ok.mp haccepted
      obtain ⟨⟨⟩, -, hsame⟩ := except_bind_ok.mp hrow
      cases hsame
      obtain ⟨identifier, hidentifier, hrest⟩ := except_bind_ok.mp hrest
      obtain ⟨⟨⟩, hfresh, hrest⟩ := except_bind_ok.mp hrest
      obtain ⟨identifiers, hids, rfl, hnodup⟩ := ih hrest
      refine ⟨identifier :: identifiers, ?_, by simp, fun hseen => hnodup ?_⟩
      · rw [List.map_cons, List.map_cons, hids, rowId, orRaise_ok.mp hidentifier]
      · have hnew : identifier ∉ seen := by simpa using ensure_ok.mp hfresh
        exact List.nodup_cons.mpr ⟨hnew, hseen⟩

theorem length_of_fullPage {model : String} {companyId : Int} {domain : List PyValue}
    {fields : List String} {order : String} {count requested offset : Nat} {trace : List OdooEvent}
    {page : List Payload}
    (hruns : Program.Runs (fullPage model companyId domain fields order count requested offset)
      trace (.ok page)) : page.length = requested := by
  unfold fullPage at hruns
  obtain ⟨found, -, rest, -, -, hrest⟩ := Program.runs_bind_ok.mp hruns
  by_cases hfull : found.length = requested
  · rw [if_pos hfull] at hrest
    obtain ⟨-, hpage⟩ := Program.runs_ret.mp hrest
    cases hpage
    exact hfull
  · rw [if_neg hfull] at hrest
    obtain ⟨current, -, rest, -, -, hrest⟩ := Program.runs_bind_ok.mp hrest
    obtain ⟨⟨⟩, -, hrest⟩ := Program.runs_ofExcept_bind_ok.mp hrest
    obtain ⟨-, herror⟩ := Program.runs_raise.mp hrest
    cases herror

theorem identified_of_fetchPages {model : String} {companyId : Int} {domain : List PyValue}
    {fields : List String} {order : String} {count remaining : Nat} {seen : List Int}
    (hseen : seen.Nodup) {trace : List OdooEvent} {rows : List Payload}
    (hruns : Program.Runs (fetchPages model companyId domain fields order count seen remaining)
      trace (.ok rows)) :
    ∃ identifiers : List Int, rows.map rowId = identifiers.map some ∧
      (identifiers.reverse ++ seen).Nodup ∧ rows.length = remaining := by
  induction remaining using Nat.strongRecOn generalizing seen trace rows with
  | ind remaining ih =>
      rw [fetchPages] at hruns
      by_cases hremaining : remaining = 0
      · rw [dif_pos hremaining] at hruns
        obtain ⟨-, hrows⟩ := Program.runs_ret.mp hruns
        cases hrows
        exact ⟨[], rfl, hseen, hremaining.symm⟩
      · rw [dif_neg hremaining] at hruns
        obtain ⟨page, asked, rest, -, hpage, hrest⟩ := Program.runs_bind_ok.mp hruns
        obtain ⟨accepted, haccepted, hrest⟩ := Program.runs_ofExcept_bind_ok.mp hrest
        obtain ⟨others, last, done, rfl, hothers, hdone⟩ := Program.runs_bind_ok.mp hrest
        obtain ⟨-, hrows⟩ := Program.runs_ret.mp hdone
        cases hrows
        obtain ⟨identifiers, hids, rfl, hnodup⟩ := identified_of_acceptRows haccepted
        obtain ⟨more, hmore, hall, hlength⟩ := ih (remaining - min 500 remaining) (by omega)
          (hnodup hseen) hothers
        refine ⟨identifiers ++ more, by rw [List.map_append, List.map_append, hids, hmore], ?_, ?_⟩
        · rwa [List.reverse_append, List.append_assoc]
        · rw [List.length_append, length_of_fullPage hpage, hlength]
          omega

theorem identified_of_stableRows {reader : PayrollReader} {model : String} {companyId : Int}
    {domain : List PyValue} {order : String} {cap : Nat} {trace : List OdooEvent}
    {rows : List Payload}
    (hruns : Program.Runs (reader.stableRows model companyId domain order cap) trace (.ok rows)) :
    rows.length ≤ cap ∧ ∃ identifiers, Identified rows identifiers := by
  obtain ⟨⟨⟩, -, hrest⟩ := Program.runs_ofExcept_bind_ok.mp hruns
  obtain ⟨fields, -, hrest⟩ := Program.runs_ofExcept_bind_ok.mp hrest
  obtain ⟨count, -, rest, -, -, hrest⟩ := Program.runs_bind_ok.mp hrest
  obtain ⟨⟨⟩, -, hrest⟩ := Program.runs_ofExcept_bind_ok.mp hrest
  obtain ⟨⟨⟩, hcap, hrest⟩ := Program.runs_ofExcept_bind_ok.mp hrest
  obtain ⟨found, fetching, rest, -, hfetched, hrest⟩ := Program.runs_bind_ok.mp hrest
  obtain ⟨anchors, -, hrest⟩ := Program.runs_ofExcept_bind_ok.mp hrest
  obtain ⟨finalCount, -, rest, -, -, hrest⟩ := Program.runs_bind_ok.mp hrest
  obtain ⟨⟨⟩, -, hrest⟩ := Program.runs_ofExcept_bind_ok.mp hrest
  obtain ⟨finalRows, -, rest, -, -, hrest⟩ := Program.runs_bind_ok.mp hrest
  obtain ⟨finalAnchors, -, hrest⟩ := Program.runs_ofExcept_bind_ok.mp hrest
  obtain ⟨⟨⟩, -, hrest⟩ := Program.runs_ofExcept_bind_ok.mp hrest
  obtain ⟨-, hrows⟩ := Program.runs_ret.mp hrest
  cases hrows
  unfold fetchRows at hfetched
  split at hfetched
  · obtain ⟨page, -, rest, -, -, hrest⟩ := Program.runs_bind_ok.mp hfetched
    obtain ⟨⟨⟩, -, hrest⟩ := Program.runs_ofExcept_bind_ok.mp hrest
    obtain ⟨-, hrows⟩ := Program.runs_ret.mp hrest
    cases hrows
    exact ⟨Nat.zero_le _, [], rfl, List.nodup_nil⟩
  · obtain ⟨identifiers, hids, hnodup, hlength⟩ := identified_of_fetchPages List.nodup_nil hfetched
    rw [List.append_nil, List.nodup_reverse] at hnodup
    rw [ensure_ok, decide_eq_true_eq] at hcap
    exact ⟨by omega, identifiers, hids, hnodup⟩

end PayrollReader

/-! ### Items -/

/-- A conversion of rows keeps their ids, and the items it makes have a write date. -/
def ReadsRow {α : Type} (idOf : α → Int) (writeDateOf : α → DateTime)
    (convert : Payload → Except PyException α) : Prop :=
  ∀ row, Returns (fun item => rowId row = some (idOf item) ∧ (writeDateOf item).Valid) (convert row)

theorem rowId_of_read {row : Payload} {identifier : Int}
    (hread : payrollField row Field.positiveInt "id" = .ok identifier) :
    rowId row = some identifier := orRaise_ok.mp hread

theorem valid_of_read {row : Payload} {field : String} {moment : DateTime}
    (hread : payrollField row Field.datetime field = .ok moment) : moment.Valid := by
  obtain ⟨text, -, htext⟩ := Option.bind_eq_some_iff.mp (orRaise_ok.mp hread)
  exact DateTime.valid_of_fromisoformat htext

theorem readsRow_normalizePayslip (version : PayrollVersion) :
    ReadsRow Payslip.id Payslip.writeDate (normalizePayslip version) := by
  intro row
  unfold normalizePayslip
  repeat' refine .bind fun _ _ => ?_
  exact .pure ⟨rowId_of_read (by assumption), valid_of_read (by assumption)⟩

theorem readsRow_normalizeLine (version : PayrollVersion) :
    ReadsRow PayslipLine.id PayslipLine.writeDate (normalizeLine version) := by
  intro row
  unfold normalizeLine
  repeat' refine .bind fun _ _ => ?_
  exact .pure ⟨rowId_of_read (by assumption), valid_of_read (by assumption)⟩

theorem readsRow_normalizeWorkedDay (version : PayrollVersion) :
    ReadsRow PayslipWorkedDay.id PayslipWorkedDay.writeDate (normalizeWorkedDay version) := by
  intro row
  unfold normalizeWorkedDay
  repeat' refine .bind fun _ _ => ?_
  exact .pure ⟨rowId_of_read (by assumption), valid_of_read (by assumption)⟩

theorem readsRow_normalizeInput (version : PayrollVersion) :
    ReadsRow PayslipInput.id PayslipInput.writeDate (normalizeInput version) := by
  intro row
  unfold normalizeInput
  repeat' refine .bind fun _ _ => ?_
  exact .pure ⟨rowId_of_read (by assumption), valid_of_read (by assumption)⟩

theorem readsRow_normalizeInputType :
    ReadsRow PayrollInputType.id PayrollInputType.writeDate normalizeInputType := by
  intro row
  unfold normalizeInputType
  repeat' refine .bind fun _ _ => ?_
  exact .pure ⟨rowId_of_read (by assumption), valid_of_read (by assumption)⟩

theorem readsRow_normalizeEmployee :
    ReadsRow PayrollEmployee.id PayrollEmployee.writeDate normalizeEmployee := by
  intro row
  unfold normalizeEmployee
  repeat' refine .bind fun _ _ => ?_
  exact .pure ⟨rowId_of_read (by assumption), valid_of_read (by assumption)⟩

theorem readsRow_normalizeBatch (version : PayrollVersion) :
    ReadsRow PayrollBatch.id PayrollBatch.writeDate (normalizeBatch version) := by
  intro row
  unfold normalizeBatch
  repeat' refine .bind fun _ _ => ?_
  exact .pure ⟨rowId_of_read (by assumption), valid_of_read (by assumption)⟩

theorem readsRow_normalizeWorkEntry (version : PayrollVersion) (companyId : Int)
    (filters : PayrollWorkEntryFilters) :
    ReadsRow PayrollWorkEntry.id PayrollWorkEntry.writeDate
      (normalizeWorkEntry version companyId filters) := by
  intro row
  unfold normalizeWorkEntry
  repeat' refine .bind fun _ _ => ?_
  exact .pure ⟨rowId_of_read (by assumption), valid_of_read (by assumption)⟩

theorem readsRow_contractCommon (sourceModel : ContractSource) (sourceStatus : ContractStatus)
    (revisionDate : Option Date) (effectiveStart effectiveEnd : Date) :
    ReadsRow PayrollContractSegment.id PayrollContractSegment.writeDate fun row =>
      contractCommon row sourceModel sourceStatus revisionDate effectiveStart effectiveEnd := by
  intro row
  unfold contractCommon
  repeat' refine .bind fun _ _ => ?_
  exact .pure ⟨rowId_of_read (by assumption), valid_of_read (by assumption)⟩

/-- The items have ids of their own and write dates, and there are not too many of them. -/
structure Distinct {α : Type} (idOf : α → Int) (writeDateOf : α → DateTime) (cap : Nat)
    (items : List α) : Prop where
  nodup : (items.map idOf).Nodup
  valid : ∀ item ∈ items, (writeDateOf item).Valid
  bounded : items.length ≤ cap

theorem Distinct.sorted {α : Type} {idOf : α → Int} {writeDateOf : α → DateTime} {cap : Nat}
    {items : List α} (hitems : Distinct idOf writeDateOf cap items) (before : α → α → Prop)
    [DecidableRel before] : Distinct idOf writeDateOf cap (items.insertionSort before) := by
  have hperm := List.perm_insertionSort before items
  refine ⟨(hperm.map idOf).nodup_iff.mpr hitems.nodup, fun item hitem => ?_, ?_⟩
  · exact hitems.valid item (hperm.mem_iff.mp hitem)
  · rw [hperm.length_eq]
    exact hitems.bounded

/-- The items made of rows have the ids of the rows. -/
theorem Identified.distinct {α : Type} {idOf : α → Int} {writeDateOf : α → DateTime}
    {convert : Payload → Except PyException α} (hconvert : ReadsRow idOf writeDateOf convert)
    {rows : List Payload} {identifiers : List Int} (hidentified : Identified rows identifiers)
    {cap : Nat} (hbounded : rows.length ≤ cap) {items : List α}
    (hitems : rows.mapM convert = .ok items) : Distinct idOf writeDateOf cap items := by
  have hforall := forall₂_of_mapM_ok hitems
  have hsome : (items.map idOf).map some = identifiers.map some := by
    rw [← hidentified.ids, List.map_map]
    clear hidentified hitems hbounded
    induction hforall with
    | nil => rfl
    | cons hitem _ ih =>
        rw [List.map_cons, List.map_cons, ih]
        rw [(hconvert _ _ hitem).1]
        rfl
  refine ⟨?_, fun item hitem => ?_, ?_⟩
  · rw [List.map_injective_iff.mpr (Option.some_injective _) hsome]
    exact hidentified.nodup
  · obtain ⟨row, -, hrow⟩ := exists_of_forall₂_right hforall hitem
    exact (hconvert row item hrow).2
  · rwa [← hforall.length_eq]

/-! ### Contract segments -/

theorem readsRow_contractSegment18 (period : PayrollPeriod) :
    ReadsRow PayrollContractSegment.id PayrollContractSegment.writeDate
      (contractSegment18 period) := by
  intro row
  unfold contractSegment18
  refine .bind fun start _ => .bind fun sourceEnd _ => .bind fun _ _ => .bind fun _ _ => ?_
  refine .bind fun state _ => .bind fun status _ => ?_
  exact readsRow_contractCommon _ _ _ _ _ row

/-- A segment of Odoo 19 has the id of its row. -/
theorem kept_contractSegment19 {period : PayrollPeriod} {row : Payload}
    {nextRevision : Option Date} {segment : PayrollContractSegment}
    (hsegment : contractSegment19 period row nextRevision = .ok (some segment)) :
    rowId row = some segment.id ∧ segment.writeDate.Valid := by
  obtain ⟨revision, -, hrest⟩ := except_bind_ok.mp hsegment
  obtain ⟨contractStart, -, hrest⟩ := except_bind_ok.mp hrest
  obtain ⟨contractEnd, -, hrest⟩ := except_bind_ok.mp hrest
  obtain ⟨⟨⟩, -, hrest⟩ := except_bind_ok.mp hrest
  obtain ⟨item, hitem, hdone⟩ := except_bind_ok.mp hrest
  have hkept := readsRow_contractCommon _ _ _ _ _ row item hitem
  have hreturned := Except.ok.inj hdone
  split at hreturned
  · cases hreturned
  · cases hreturned
    exact hkept

theorem map_fst_withSuccessors (ordered : List ((Date × Int) × Payload)) :
    (withSuccessors ordered).map Prod.fst = ordered.map Prod.snd := by
  induction ordered using withSuccessors.induct with
  | case1 => rfl
  | case2 last => rfl
  | case3 first second rest ih => simp only [withSuccessors, List.map_cons, ih]

theorem sublist_segments {period : PayrollPeriod} {entries : List (Payload × Option Date)}
    {found : List (Option PayrollContractSegment)}
    (hfound : entries.mapM (fun entry => contractSegment19 period entry.1 entry.2) = .ok found) :
    ((found.reduceOption).map fun segment => some segment.id).Sublist
      (entries.map fun entry => rowId entry.1) := by
  have hforall := forall₂_of_mapM_ok hfound
  clear hfound
  induction hforall with
  | nil => exact List.Sublist.slnil
  | @cons entry outcome entries outcomes hentry _ ih =>
      cases outcome with
      | none => exact ih.cons _
      | some segment =>
          rw [List.map_cons, (kept_contractSegment19 hentry).1]
          exact ih.cons_cons _

/-- The segments of an employee have ids of the employee's rows, each at most once. -/
theorem subperm_employeeSegments19 {period : PayrollPeriod} {rows : List Payload}
    {segments : List PayrollContractSegment}
    (hsegments : employeeSegments19 period rows = .ok segments) :
    (segments.map fun segment => some segment.id).Subperm (rows.map rowId) := by
  obtain ⟨revisions, hrevisions, hrest⟩ := except_bind_ok.mp hsegments
  obtain ⟨⟨⟩, -, hrest⟩ := except_bind_ok.mp hrest
  obtain ⟨found, hfound, hdone⟩ := except_bind_ok.mp hrest
  cases hdone
  have hlength : revisions.length = rows.length := (forall₂_of_mapM_ok hrevisions).length_eq.symm
  have hsublist := sublist_segments hfound
  have hids : (withSuccessors ((revisions.zip rows).insertionSort (revisionBefore · ·))).map
      (fun entry => rowId entry.1) =
        ((revisions.zip rows).insertionSort (revisionBefore · ·)).map fun entry =>
          rowId entry.2 := by
    have hfst := congrArg (List.map rowId)
      (map_fst_withSuccessors ((revisions.zip rows).insertionSort (revisionBefore · ·)))
    rwa [List.map_map, List.map_map] at hfst
  have hperm := (List.perm_insertionSort (revisionBefore · ·) (revisions.zip rows)).map
    fun entry => rowId entry.2
  have hzip : (revisions.zip rows).map (fun entry => rowId entry.2) = rows.map rowId := by
    have hsnd := congrArg (List.map rowId) (List.map_snd_zip (Nat.le_of_eq hlength.symm))
    rwa [List.map_map] at hsnd
  rw [hids] at hsublist
  rw [hzip] at hperm
  exact hsublist.subperm.trans hperm.subperm

theorem valid_employeeSegments19 {period : PayrollPeriod} {rows : List Payload}
    {segments : List PayrollContractSegment}
    (hsegments : employeeSegments19 period rows = .ok segments) :
    ∀ segment ∈ segments, segment.writeDate.Valid := by
  obtain ⟨revisions, -, hrest⟩ := except_bind_ok.mp hsegments
  obtain ⟨⟨⟩, -, hrest⟩ := except_bind_ok.mp hrest
  obtain ⟨found, hfound, hdone⟩ := except_bind_ok.mp hrest
  cases hdone
  intro segment hsegment
  have hreturned : some segment ∈ found := List.reduceOption_mem_iff.mp hsegment
  obtain ⟨entry, -, hentry⟩ := exists_of_forall₂_right (forall₂_of_mapM_ok hfound) hreturned
  exact (kept_contractSegment19 hentry).2

theorem pairwise_of_forall₂ {α β : Type} {related : α → β → Prop} {apart : α → α → Prop}
    {kept : β → β → Prop}
    (hkept : ∀ first second one other, related first one → related second other →
      apart first second → kept one other)
    {firsts : List α} {seconds : List β} (hrelated : List.Forall₂ related firsts seconds)
    (hapart : firsts.Pairwise apart) : seconds.Pairwise kept := by
  induction hrelated with
  | nil => exact .nil
  | @cons first second firsts seconds hfirst hrest ih =>
      obtain ⟨hhead, htail⟩ := List.pairwise_cons.mp hapart
      refine .cons (fun other hother => ?_) (ih htail)
      obtain ⟨origin, horigin, hrelates⟩ := exists_of_forall₂_right hrest hother
      exact hkept first origin second other hfirst hrelates (hhead origin horigin)

theorem nodup_eraseDups (values : List Int) : values.eraseDups.Nodup := by
  induction hlength : values.length using Nat.strongRecOn generalizing values with
  | ind length ih =>
      cases values with
      | nil => exact List.nodup_nil
      | cons value rest =>
          have hshorter := List.length_filter_le (fun other => !other == value) rest
          rw [List.eraseDups_cons, List.nodup_cons]
          refine ⟨fun hmem => ?_, ih _ ?_ _ rfl⟩
          · simpa using (List.mem_filter.mp (List.mem_eraseDups.mp hmem)).2
          · rw [← hlength, List.length_cons]
            omega

theorem distinct_contractSegments19 {period : PayrollPeriod} {rows : List Payload}
    {identifiers : List Int} (hidentified : Identified rows identifiers) {cap : Nat}
    (hbounded : rows.length ≤ cap) {segments : List PayrollContractSegment}
    (hsegments : contractSegments19 period rows = .ok segments) :
    Distinct PayrollContractSegment.id PayrollContractSegment.writeDate cap segments := by
  obtain ⟨employees, hemployees, hrest⟩ := except_bind_ok.mp hsegments
  obtain ⟨found, hfound, hdone⟩ := except_bind_ok.mp hrest
  cases hdone
  have hlength : employees.length = rows.length := (forall₂_of_mapM_ok hemployees).length_eq.symm
  have hids : (employees.zip rows).map (fun entry => rowId entry.2) = identifiers.map some := by
    have hsnd := congrArg (List.map rowId) (List.map_snd_zip (Nat.le_of_eq hlength.symm))
    rw [List.map_map, hidentified.ids] at hsnd
    exact hsnd
  have hnodup : ((employees.zip rows).map fun entry => rowId entry.2).Nodup := by
    rw [hids]
    exact hidentified.nodup.map (Option.some_injective _)
  have hgroups := forall₂_of_mapM_ok hfound
  have hsubperm {employee : Int} {group : List PayrollContractSegment}
      (hgroup : employeeSegments19 period
        (((employees.zip rows).filter fun entry => entry.1 = employee).map Prod.snd) = .ok group) :
      (group.map fun segment => some segment.id).Subperm
        (((employees.zip rows).filter fun entry => entry.1 = employee).map
          fun entry => rowId entry.2) := by
    have hsub := subperm_employeeSegments19 hgroup
    rwa [List.map_map] at hsub
  have hsome : ((found.flatten.map fun segment => some segment.id)).Nodup := by
    rw [List.map_flatten, List.nodup_flatten]
    constructor
    · intro group hgroup
      obtain ⟨segments, hsegments, rfl⟩ := List.mem_map.mp hgroup
      obtain ⟨employee, -, hof⟩ := exists_of_forall₂_right hgroups hsegments
      obtain ⟨ids, hperm, hsublist⟩ := hsubperm hof
      exact hperm.nodup_iff.mp ((hnodup.sublist (List.filter_sublist.map _)).sublist hsublist)
    · rw [List.pairwise_map]
      refine pairwise_of_forall₂ (fun first second one other hone hother hapart => ?_) hgroups
        (nodup_eraseDups _)
      intro identifier hfirst hsecond
      obtain ⟨entry, hentry, hid⟩ := List.mem_map.mp ((hsubperm hone).subset hfirst)
      obtain ⟨entry', hentry', hid'⟩ := List.mem_map.mp ((hsubperm hother).subset hsecond)
      obtain ⟨hmem, hemployee⟩ := List.mem_filter.mp hentry
      obtain ⟨hmem', hemployee'⟩ := List.mem_filter.mp hentry'
      have hsame := List.inj_on_of_nodup_map hnodup hmem hmem' (hid.trans hid'.symm)
      rw [decide_eq_true_eq] at hemployee hemployee'
      exact hapart (by rw [← hemployee, ← hemployee', hsame])
  have hsubset : found.flatten.map (fun segment => some segment.id) ⊆ rows.map rowId := by
    intro identifier hidentifier
    obtain ⟨segment, hsegment, rfl⟩ := List.mem_map.mp hidentifier
    obtain ⟨group, hgroup, hmem⟩ := List.mem_flatten.mp hsegment
    obtain ⟨employee, -, hof⟩ := exists_of_forall₂_right hgroups hgroup
    obtain ⟨entry, hentry, hid⟩ := List.mem_map.mp
      ((hsubperm hof).subset (List.mem_map_of_mem hmem))
    rw [← hid]
    exact List.mem_map_of_mem (List.of_mem_zip (List.mem_filter.mp hentry).1).2
  have hmap : found.flatten.map (fun segment => some segment.id) =
      (found.flatten.map PayrollContractSegment.id).map some := by rw [List.map_map]; rfl
  refine ⟨List.Nodup.of_map some (hmap ▸ hsome), fun segment hsegment => ?_, ?_⟩
  · obtain ⟨group, hgroup, hmem⟩ := List.mem_flatten.mp hsegment
    obtain ⟨employee, -, hof⟩ := exists_of_forall₂_right hgroups hgroup
    exact valid_employeeSegments19 hof segment hmem
  · have hlength := (hsome.subperm hsubset).length_le
    rw [List.length_map, List.length_map] at hlength
    exact Nat.le_trans hlength hbounded

theorem distinct_contractSegments {version : PayrollVersion} {period : PayrollPeriod}
    {rows : List Payload} {identifiers : List Int} (hidentified : Identified rows identifiers)
    {cap : Nat} (hbounded : rows.length ≤ cap) {segments : List PayrollContractSegment}
    (hsegments : contractSegments version period rows = .ok segments) :
    Distinct PayrollContractSegment.id PayrollContractSegment.writeDate cap segments := by
  cases version with
  | v18 => exact hidentified.distinct (readsRow_contractSegment18 period) hbounded hsegments
  | v19 => exact distinct_contractSegments19 hidentified hbounded hsegments

/-! ### Domains -/

theorem loadedItems_iff {items : List PyValue} :
    PyValue.LoadedItems items ↔ ∀ item ∈ items, item.Loaded := by
  induction items with
  | nil => simp [PyValue.LoadedItems]
  | cons item items ih => simp [PyValue.LoadedItems, ih]

@[simp]
theorem loadedItems_append {first second : List PyValue} :
    PyValue.LoadedItems (first ++ second) ↔
      PyValue.LoadedItems first ∧ PyValue.LoadedItems second := by
  simp only [loadedItems_iff, List.mem_append, or_imp, forall_and]

@[simp]
theorem loaded_domainClause {field operator : String} {value : PyValue} :
    (domainClause field operator value).Loaded ↔ value.Loaded := by
  simp [domainClause, PyValue.Loaded, PyValue.LoadedItems]

@[simp]
theorem loaded_dumpIds (identifiers : List Int) : (dumpIds identifiers).Loaded := by
  simp [dumpIds, PyValue.Loaded, loadedItems_iff]

theorem loadedItems_ite {condition : Prop} [Decidable condition] {items : List PyValue}
    (hitems : PyValue.LoadedItems items) :
    PyValue.LoadedItems (if condition then [] else items) := by
  split
  · trivial
  · exact hitems

theorem loadedItems_option {α : Type} (found : Option α) {clauses : α → List PyValue}
    (hclauses : ∀ value, PyValue.LoadedItems (clauses value)) :
    PyValue.LoadedItems (found.toList.flatMap clauses) := by
  cases found with
  | none => trivial
  | some value =>
      rw [Option.toList_some, List.flatMap_singleton]
      exact hclauses value

theorem loaded_texts (texts : List String) : (PyValue.list (texts.map .str)).Loaded := by
  simp [PyValue.Loaded, loadedItems_iff]

/-! ### Listings -/

/-- The listing is that of a company, with items that have ids of their own. -/
structure Listing.Gathered {α : Type} (listing : Listing α) (companyId : Int) (idOf : α → Int)
    (writeDateOf : α → DateTime) : Prop where
  idOf_eq : listing.idOf = idOf
  writeDateOf_eq : listing.writeDateOf = writeDateOf
  companyId_eq : listing.companyId = companyId
  distinct : Distinct idOf writeDateOf sysMaxsize listing.items
  domain : (PyValue.list listing.domain).Loaded
  binding : listing.binding.Loaded

theorem Listing.Gathered.wellFormed {α : Type} {listing : Listing α} {companyId : Int}
    {idOf : α → Int} {writeDateOf : α → DateTime}
    (hlisting : listing.Gathered companyId idOf writeDateOf) (version : PayrollVersion) :
    (listing.scope version).WellFormed := by
  refine ⟨hlisting.domain, hlisting.binding, fun anchor hanchor => ?_⟩
  obtain ⟨item, hitem, rfl⟩ := List.mem_map.mp hanchor
  rw [hlisting.writeDateOf_eq]
  exact hlisting.distinct.valid item hitem

/-- The paged reads of the reader, by the records they return. -/
inductive PayrollRead : Type → Type
  | batches (filters : PayrollBatchFilters) : PayrollRead PayrollBatch
  | payslips (filters : PayslipFilters) : PayrollRead Payslip
  | payslipLines (filters : PayslipChildFilters) : PayrollRead PayslipLine
  | payslipWorkedDays (filters : PayslipChildFilters) : PayrollRead PayslipWorkedDay
  | payslipInputs (filters : PayslipChildFilters) : PayrollRead PayslipInput
  | inputTypes (filters : PayrollInputTypeFilters) : PayrollRead PayrollInputType
  | employees (employeeIds : List Int) : PayrollRead PayrollEmployee
  | contractSegments (filters : PayrollContractFilters) : PayrollRead PayrollContractSegment
  | workEntries (filters : PayrollWorkEntryFilters) : PayrollRead PayrollWorkEntry

namespace PayrollRead

variable {α : Type}

def idOf : PayrollRead α → α → Int
  | .batches _ => PayrollBatch.id
  | .payslips _ => Payslip.id
  | .payslipLines _ => PayslipLine.id
  | .payslipWorkedDays _ => PayslipWorkedDay.id
  | .payslipInputs _ => PayslipInput.id
  | .inputTypes _ => PayrollInputType.id
  | .employees _ => PayrollEmployee.id
  | .contractSegments _ => PayrollContractSegment.id
  | .workEntries _ => PayrollWorkEntry.id

def writeDateOf : PayrollRead α → α → DateTime
  | .batches _ => PayrollBatch.writeDate
  | .payslips _ => Payslip.writeDate
  | .payslipLines _ => PayslipLine.writeDate
  | .payslipWorkedDays _ => PayslipWorkedDay.writeDate
  | .payslipInputs _ => PayslipInput.writeDate
  | .inputTypes _ => PayrollInputType.writeDate
  | .employees _ => PayrollEmployee.writeDate
  | .contractSegments _ => PayrollContractSegment.writeDate
  | .workEntries _ => PayrollWorkEntry.writeDate

end PayrollRead

namespace PayrollReader

variable {α β : Type} (reader : PayrollReader)

def payrollRead (read : PayrollRead α) (companyId : Int) (request : PayrollPageRequest) :
    Odoo (PayrollPage α) :=
  match read with
  | .batches filters => reader.getPayrollBatches companyId filters request
  | .payslips filters => reader.getPayslips companyId filters request
  | .payslipLines filters => reader.getPayslipLines companyId filters request
  | .payslipWorkedDays filters => reader.getPayslipWorkedDays companyId filters request
  | .payslipInputs filters => reader.getPayslipInputs companyId filters request
  | .inputTypes filters => reader.getPayrollInputTypes companyId filters request
  | .employees employeeIds => reader.getPayrollEmployees companyId employeeIds request
  | .contractSegments filters => reader.getPayrollContractSegments companyId filters request
  | .workEntries filters => reader.getPayrollWorkEntries companyId filters request

variable {reader}

/-- The read gathers a listing without regard to the page, and makes the page of it. What holds of
the listing may depend on a fact. -/
def Gathers (reader : PayrollReader) (fact : Prop) (holds : Listing α → Prop)
    (read : PayrollPageRequest → Odoo (PayrollPage α)) : Prop :=
  ∃ gather : Odoo (Listing α),
    (∀ request, read request =
      gather >>= fun listing => Program.ofExcept (reader.pageOf listing request)) ∧
    (fact → ∀ trace listing, Program.Runs gather trace (.ok listing) → holds listing)

theorem Gathers.page {fact : Prop} {holds : Listing α → Prop} (listing : Listing α)
    (hlisting : fact → holds listing) :
    Gathers reader fact holds fun request => Program.ofExcept (reader.pageOf listing request) := by
  refine ⟨.ret listing, fun request => rfl, fun hfact trace found hruns => ?_⟩
  obtain ⟨-, hfound⟩ := Program.runs_ret.mp hruns
  cases hfound
  exact hlisting hfact

theorem Gathers.bind {fact : Prop} {holds : Listing α → Prop} {program : Odoo β}
    {next : β → PayrollPageRequest → Odoo (PayrollPage α)}
    (hnext : ∀ value, Gathers reader
      (fact ∧ ∃ trace, Program.Runs program trace (.ok value)) holds (next value)) :
    Gathers reader fact holds fun request => program >>= fun value => next value request := by
  choose gather hread hholds using hnext
  refine ⟨program >>= gather, fun request => ?_, fun hfact trace listing hruns => ?_⟩
  · have hstep : (program >>= fun value => next value request) =
        program >>= fun value => gather value >>= fun listing =>
          Program.ofExcept (reader.pageOf listing request) := by
      congr 1
      funext value
      exact hread value request
    refine hstep.trans ?_
    simp only [Program.bind_eq, Program.bind_assoc]
  · obtain ⟨value, first, rest, -, hfirst, hrest⟩ := Program.runs_bind_ok.mp hruns
    exact hholds value ⟨hfact, first, hfirst⟩ rest listing hrest

theorem ok_of_runs {outcome : Except PyException β} {value : β}
    (hruns : ∃ trace, Program.Runs (Program.ofExcept outcome : Odoo β) trace (.ok value)) :
    outcome = .ok value := by
  obtain ⟨trace, hruns⟩ := hruns
  exact (Program.runs_ofExcept.mp hruns).2.symm

theorem payrollSourceCap_le (model : String) : payrollSourceCap model ≤ sysMaxsize := by
  unfold payrollSourceCap
  split <;> decide

/-- The rows of a read make items that have ids of their own. -/
theorem distinct_of_rows {model : String} {companyId : Int} {domain : List PyValue} {order : String}
    {idOf : α → Int} {writeDateOf : α → DateTime} {convert : Payload → Except PyException α}
    (hconvert : ReadsRow idOf writeDateOf convert) {rows : List Payload} {items : List α}
    (hrows : ∃ trace, Program.Runs (reader.stableRows model companyId domain order
      (payrollSourceCap model)) trace (.ok rows))
    (hitems : ∃ trace, Program.Runs (Program.ofExcept (rows.mapM convert) : Odoo (List α)) trace
      (.ok items))
    (before : α → α → Prop) [DecidableRel before] :
    Distinct idOf writeDateOf sysMaxsize (items.insertionSort before) := by
  obtain ⟨trace, hrows⟩ := hrows
  obtain ⟨hbounded, identifiers, hidentified⟩ := identified_of_stableRows hrows
  exact (hidentified.distinct hconvert (Nat.le_trans hbounded (payrollSourceCap_le model))
    (ok_of_runs hitems)).sorted before

theorem gathers_children {kind : ChildKind α}
    (hkind : ReadsRow kind.idOf kind.writeDateOf kind.normalize) (companyId : Int)
    (filters : PayslipChildFilters) :
    Gathers reader True (fun listing => listing.Gathered companyId kind.idOf kind.writeDateOf)
      (reader.children kind companyId filters) := by
  unfold children
  refine Gathers.bind fun rows => Gathers.bind fun normalized => Gathers.bind fun parents => ?_
  refine Gathers.bind fun _ => Gathers.page ⟨kind.idOf, kind.writeDateOf, _, _, _, _, _, _⟩ ?_
  rintro ⟨⟨⟨⟨-, hrows⟩, hnormalized⟩, -⟩, -⟩
  refine ⟨rfl, rfl, rfl, distinct_of_rows hkind hrows hnormalized _, ?_, trivial⟩
  exact loadedItems_append.mpr ⟨by simp [PyValue.LoadedItems, PyValue.Loaded],
    loadedItems_ite (by simp [PyValue.LoadedItems])⟩

theorem loaded_payslipDomain (companyId : Int) (filters : PayslipFilters) :
    (PyValue.list (reader.payslipDomain companyId filters)).Loaded := by
  change PyValue.LoadedItems _
  unfold payslipDomain
  simp only [loadedItems_append]
  refine ⟨⟨⟨⟨⟨⟨⟨?_, trivial⟩, ?_⟩, ?_⟩, ?_⟩, ?_⟩, ?_⟩, ?_⟩
  · exact loaded_domainClause.mpr trivial
  · exact loadedItems_ite ⟨loaded_domainClause.mpr (loaded_dumpIds _), trivial⟩
  · cases filters.batchId with
    | none => trivial
    | some batch => exact ⟨loaded_domainClause.mpr trivial, trivial⟩
  · exact loadedItems_option _ fun period =>
      ⟨loaded_domainClause.mpr trivial, loaded_domainClause.mpr trivial, trivial⟩
  · exact loadedItems_option _ fun window =>
      ⟨loaded_domainClause.mpr trivial, loaded_domainClause.mpr trivial, trivial⟩
  · exact loadedItems_ite ⟨loaded_domainClause.mpr (loaded_dumpIds _), trivial⟩
  · exact loadedItems_ite ⟨loaded_domainClause.mpr (loaded_texts _), trivial⟩

theorem loaded_batchDomain (companyId : Int) (filters : PayrollBatchFilters) :
    (PyValue.list (reader.batchDomain companyId filters)).Loaded := by
  change PyValue.LoadedItems _
  unfold batchDomain
  simp only [loadedItems_append]
  refine ⟨⟨⟨⟨?_, trivial⟩, ?_⟩, ?_⟩, ?_⟩
  · exact loaded_domainClause.mpr trivial
  · exact loadedItems_ite ⟨loaded_domainClause.mpr (loaded_dumpIds _), trivial⟩
  · exact loadedItems_option _ fun window =>
      ⟨loaded_domainClause.mpr trivial, loaded_domainClause.mpr trivial, trivial⟩
  · exact loadedItems_ite ⟨loaded_domainClause.mpr (loaded_texts _), trivial⟩

theorem loaded_contractDomain (companyId : Int) (filters : PayrollContractFilters) :
    (PyValue.list (reader.contractDomain companyId filters)).Loaded := by
  change PyValue.LoadedItems _
  unfold contractDomain
  rw [loadedItems_append]
  refine ⟨by simp [PyValue.LoadedItems, PyValue.Loaded], ?_⟩
  split <;> simp [PyValue.LoadedItems, PyValue.Loaded, isoValue]

theorem loaded_workEntryDomain (companyId : Int) (filters : PayrollWorkEntryFilters) :
    (PyValue.list (reader.workEntryDomain companyId filters)).Loaded := by
  change PyValue.LoadedItems _
  unfold workEntryDomain
  rw [loadedItems_append, loadedItems_append]
  refine ⟨⟨by simp [PyValue.LoadedItems, PyValue.Loaded], ?_⟩, ?_⟩
  · split <;> simp [PyValue.LoadedItems, PyValue.Loaded, isoValue]
  · exact loadedItems_ite ⟨loaded_domainClause.mpr (loaded_texts _), trivial⟩

theorem loaded_contractBinding (filters : PayrollContractFilters) :
    (contractBinding filters).Loaded := by
  have hkeys : ([PyKey.str "employee_ids", .str "period"]).Nodup := by decide
  have hperiod : ([PyKey.str "start", .str "end"]).Nodup := by decide
  refine ⟨hkeys, rfl, loaded_dumpIds _, rfl, ⟨hperiod, ?_⟩, trivial⟩
  exact ⟨rfl, trivial, rfl, trivial, trivial⟩

/-- **Every read gathers before it pages.** -/
theorem gathers_payrollRead (read : PayrollRead α) (companyId : Int) :
    Gathers reader True (fun listing => listing.Gathered companyId read.idOf read.writeDateOf)
      (reader.payrollRead read companyId) := by
  cases read with
  | batches filters =>
      unfold payrollRead getPayrollBatches
      refine Gathers.bind fun rows => Gathers.bind fun normalized => Gathers.bind fun _ => ?_
      refine Gathers.page ⟨PayrollBatch.id, PayrollBatch.writeDate, _, _, _, _, _, _⟩ ?_
      rintro ⟨⟨⟨-, hrows⟩, hnormalized⟩, -⟩
      exact ⟨rfl, rfl, rfl, distinct_of_rows (readsRow_normalizeBatch _) hrows hnormalized _,
        loaded_batchDomain companyId filters, trivial⟩
  | payslips filters =>
      unfold payrollRead getPayslips
      refine Gathers.bind fun rows => Gathers.bind fun normalized => Gathers.bind fun _ => ?_
      refine Gathers.page ⟨Payslip.id, Payslip.writeDate, _, _, _, _, _, _⟩ ?_
      rintro ⟨⟨⟨-, hrows⟩, hnormalized⟩, -⟩
      exact ⟨rfl, rfl, rfl, distinct_of_rows (readsRow_normalizePayslip _) hrows hnormalized _,
        loaded_payslipDomain companyId filters, trivial⟩
  | payslipLines filters => exact gathers_children (readsRow_normalizeLine _) companyId filters
  | payslipWorkedDays filters =>
      exact gathers_children (readsRow_normalizeWorkedDay _) companyId filters
  | payslipInputs filters => exact gathers_children (readsRow_normalizeInput _) companyId filters
  | inputTypes filters =>
      unfold payrollRead getPayrollInputTypes
      refine Gathers.bind fun found => Gathers.bind fun rows => Gathers.bind fun normalized => ?_
      refine Gathers.bind fun _ => ?_
      refine Gathers.page ⟨PayrollInputType.id, PayrollInputType.writeDate, _, _, _, _, _, _⟩ ?_
      rintro ⟨⟨⟨⟨-, -⟩, hrows⟩, hnormalized⟩, -⟩
      refine ⟨rfl, rfl, rfl, distinct_of_rows readsRow_normalizeInputType hrows hnormalized _, ?_,
        trivial⟩
      exact loadedItems_append.mpr ⟨by simp [PyValue.LoadedItems, PyValue.Loaded],
        loadedItems_ite (by simp [PyValue.LoadedItems])⟩
  | employees employeeIds =>
      unfold payrollRead getPayrollEmployees
      refine Gathers.bind fun _ => Gathers.bind fun rows => Gathers.bind fun normalized => ?_
      refine Gathers.bind fun _ => ?_
      refine Gathers.page ⟨PayrollEmployee.id, PayrollEmployee.writeDate, _, _, _, _, _, _⟩ ?_
      rintro ⟨⟨⟨⟨-, -⟩, hrows⟩, hnormalized⟩, -⟩
      exact ⟨rfl, rfl, rfl, distinct_of_rows readsRow_normalizeEmployee hrows hnormalized _,
        by simp [PyValue.LoadedItems, PyValue.Loaded], trivial⟩
  | contractSegments filters =>
      unfold payrollRead getPayrollContractSegments
      refine Gathers.bind fun rows => Gathers.bind fun _ => Gathers.bind fun segments => ?_
      refine Gathers.bind fun _ => ?_
      refine Gathers.page
        ⟨PayrollContractSegment.id, PayrollContractSegment.writeDate, _, _, _, _, _, _⟩ ?_
      rintro ⟨⟨⟨⟨-, trace, hrows⟩, -⟩, hsegments⟩, -⟩
      obtain ⟨hbounded, identifiers, hidentified⟩ := identified_of_stableRows hrows
      have hdistinct := (distinct_contractSegments hidentified
        (Nat.le_trans hbounded (payrollSourceCap_le _)) (ok_of_runs hsegments)).sorted
          (segmentBefore · ·)
      exact ⟨rfl, rfl, rfl, hdistinct, loaded_contractDomain companyId filters,
        loaded_contractBinding filters⟩
  | workEntries filters =>
      unfold payrollRead getPayrollWorkEntries
      refine Gathers.bind fun rows => Gathers.bind fun normalized => ?_
      refine Gathers.page ⟨PayrollWorkEntry.id, PayrollWorkEntry.writeDate, _, _, _, _, _, _⟩ ?_
      rintro ⟨⟨-, hrows⟩, hnormalized⟩
      exact ⟨rfl, rfl, rfl,
        distinct_of_rows (readsRow_normalizeWorkEntry _ _ _) hrows hnormalized _,
        loaded_workEntryDomain companyId filters, trivial⟩

end PayrollReader

/-! ### Readings -/

/-- A read of a company, from an Odoo that does not change. -/
structure PayrollReading (α : Type) where
  reader : PayrollReader
  read : PayrollRead α
  companyId : Int
  source : (request : OdooRequest) → Except PyException (odooSignature.Result request)

namespace PayrollReading

variable {α : Type} (reading : PayrollReading α)

def page (request : PayrollPageRequest) : Except PyException (PayrollPage α) :=
  (reading.reader.payrollRead reading.read reading.companyId request).evaluate reading.source

/-- The page that a caller gets for a limit and a cursor. -/
def pageAt (limit : Nat) (cursor : Option String) : Except PyException (PayrollPage α) := do
  reading.page (← PayrollPageRequest.build limit cursor)

structure Lists (listing : Listing α) : Prop where
  page_eq : ∀ request, reading.page request = reading.reader.pageOf listing request
  gathered : listing.Gathered reading.companyId reading.read.idOf reading.read.writeDateOf

variable {reading}

/-- A reading that answers has a listing. -/
theorem exists_lists {request : PayrollPageRequest} {page : PayrollPage α}
    (hpage : reading.page request = .ok page) : ∃ listing, reading.Lists listing := by
  have hgathers : PayrollReader.Gathers reading.reader True
      (fun listing => listing.Gathered reading.companyId reading.read.idOf reading.read.writeDateOf)
      (reading.reader.payrollRead reading.read reading.companyId) :=
    PayrollReader.gathers_payrollRead reading.read reading.companyId
  obtain ⟨gather, hread, hgathered⟩ := hgathers
  have hevaluated (request : PayrollPageRequest) : reading.page request =
      gather.evaluate reading.source >>= fun listing => reading.reader.pageOf listing request := by
    unfold PayrollReading.page
    rw [hread, Program.evaluate_bind]
    congr 1
    funext listing
    exact Program.evaluate_ofExcept _
  rw [hevaluated] at hpage
  obtain ⟨listing, hlisting, -⟩ := except_bind_ok.mp hpage
  refine ⟨listing, fun other => ?_, ?_⟩
  · rw [hevaluated, hlisting]
    rfl
  · obtain ⟨trace, hruns, -⟩ := Program.runs_evaluate gather
    rw [hlisting] at hruns
    exact hgathered trivial trace listing hruns

end PayrollReading

end OdooMcp
