import Mathlib.Data.List.ReduceOption
import OdooMcp.Adapters.PayrollListings
import OdooMcp.Adapters.PayrollSnapshot

/-!
# Contract versions, day by day

An employee's versions follow one another by their dates: a version holds from its own date to the
day before the next one's. On a day of the period the employee is in the segment of the version that
holds, if the contract of the version has started and not ended by then, and in none otherwise.
-/

namespace OdooMcp

open Effect

/-! ### Versions -/

structure EmployeeVersion where
  id : Int
  employee : Int
  dateVersion : Date
  contractStart : Date
  contractEnd : Option Date

namespace EmployeeVersion

/-- The version that a row of `hr.version` describes. -/
def ofRow (row : Payload) : Except PyException EmployeeVersion := do
  return {
    id := ← payrollField row Field.positiveInt "id"
    employee := ← payrollField row Field.relatedId "employee_id"
    dateVersion := ← payrollField row Field.date "date_version"
    contractStart := ← payrollField row Field.date "contract_date_start"
    contractEnd := ← payrollField row (Field.optional Field.date) "contract_date_end" }

/-- The contract of the version has started by the day and has not ended before it. -/
def InContract (version : EmployeeVersion) (day : Date) : Prop :=
  version.contractStart.ordinal ≤ day.ordinal ∧
    ∀ finish ∈ version.contractEnd, day.ordinal ≤ finish.ordinal

/-- The latest version of an employee that is dated on or before the day. -/
structure HoldsOn (versions : List EmployeeVersion) (employee : Int) (day : Date)
    (version : EmployeeVersion) : Prop where
  mem : version ∈ versions
  employee_eq : version.employee = employee
  dated : version.dateVersion.ordinal ≤ day.ordinal
  latest : ∀ other ∈ versions, other.employee = employee → other.dateVersion.ordinal ≤ day.ordinal →
    other.dateVersion.ordinal ≤ version.dateVersion.ordinal

end EmployeeVersion

namespace PayrollContractSegment

def Contains (segment : PayrollContractSegment) (day : Date) : Prop :=
  segment.effectiveStart.ordinal ≤ day.ordinal ∧ day.ordinal ≤ segment.effectiveEnd.ordinal

/-- The segment is that of a version: all but its dates is read from the version's row. -/
def OfVersion (rows : List Payload) (segment : PayrollContractSegment)
    (version : EmployeeVersion) : Prop :=
  ∃ row ∈ rows, EmployeeVersion.ofRow row = .ok version ∧
    contractCommon row .hrVersion .unavailable (some version.dateVersion) segment.effectiveStart
      segment.effectiveEnd = .ok segment

end PayrollContractSegment

namespace PayrollPeriod

def Contains (period : PayrollPeriod) (day : Date) : Prop :=
  period.start.ordinal ≤ day.ordinal ∧ day.ordinal ≤ period.finish.ordinal

end PayrollPeriod

/-! ### One row -/

variable {period : PayrollPeriod} {row : Payload} {rows : List Payload}

theorem ordinal_max (first second : Date) :
    (first.max second).ordinal = max first.ordinal second.ordinal := by
  unfold Date.max
  split <;> omega

theorem ordinal_min (first second : Date) :
    (first.min second).ordinal = min first.ordinal second.ordinal := by
  unfold Date.min
  split <;> omega

theorem of_contractCommon {sourceModel : ContractSource} {sourceStatus : ContractStatus}
    {revisionDate : Option Date} {effectiveStart effectiveEnd : Date} :
    Returns (fun segment : PayrollContractSegment =>
      payrollField row Field.positiveInt "id" = .ok segment.id ∧
        payrollField row Field.relation "employee_id" = .ok segment.employee ∧
        segment.effectiveStart = effectiveStart ∧ segment.effectiveEnd = effectiveEnd)
      (contractCommon row sourceModel sourceStatus revisionDate effectiveStart effectiveEnd) := by
  unfold contractCommon
  repeat' refine .bind fun _ _ => ?_
  exact .pure ⟨by assumption, by assumption, rfl, rfl⟩

theorem relatedId_of_relation {field : String} {record : RelatedRecord}
    (hrelation : payrollField row Field.relation field = .ok record) :
    payrollField row Field.relatedId field = .ok record.id := by
  have hfound : Field.relation (row.field field) = some record := orRaise_ok.mp hrelation
  refine orRaise_ok.mpr ?_
  unfold Field.relatedId
  rw [hfound]
  rfl

theorem ordinal_earlierEnd {first second : Option Date} {day : Date} :
    (∀ finish ∈ earlierEnd first second, day.ordinal ≤ finish.ordinal) ↔
      (∀ finish ∈ first, day.ordinal ≤ finish.ordinal) ∧
        ∀ finish ∈ second, day.ordinal ≤ finish.ordinal := by
  cases first with
  | none => simp [earlierEnd]
  | some finish =>
      cases second with
      | none => simp [earlierEnd]
      | some other => simp [earlierEnd, ordinal_min]

theorem of_ofRow :
    Returns (fun version : EmployeeVersion =>
      payrollField row Field.relatedId "employee_id" = .ok version.employee ∧
        payrollField row Field.date "date_version" = .ok version.dateVersion)
      (EmployeeVersion.ofRow row) := by
  unfold EmployeeVersion.ofRow
  repeat' refine .bind fun _ _ => ?_
  exact .pure ⟨by assumption, by assumption⟩

/-- What `_contract_segments_19` makes of one row, given the date of the next version. -/
structure SegmentOfRow (period : PayrollPeriod) (row : Payload) (next : Option Date)
    (version : EmployeeVersion) (outcome : Option PayrollContractSegment) : Prop where
  read : EmployeeVersion.ofRow row = .ok version
  kept : ∀ segment, outcome = some segment → segment.employee.id = version.employee ∧
    period.start.ordinal ≤ segment.effectiveStart.ordinal ∧
    segment.effectiveEnd.ordinal ≤ period.finish.ordinal ∧
    contractCommon row .hrVersion .unavailable (some version.dateVersion) segment.effectiveStart
      segment.effectiveEnd = .ok segment
  contains : ∀ day, period.Contains day → ((∃ segment, outcome = some segment ∧
    segment.Contains day) ↔ version.dateVersion.ordinal ≤ day.ordinal ∧ version.InContract day ∧
      ∀ later ∈ next, day.ordinal ≤ later.ordinal - 1)

theorem segmentOfRow {next : Option Date} {outcome : Option PayrollContractSegment}
    (hrow : contractSegment19 period row next = .ok outcome) :
    ∃ version, SegmentOfRow period row next version outcome := by
  obtain ⟨revision, hrevision, hrest⟩ := except_bind_ok.mp hrow
  obtain ⟨contractStart, hstart, hrest⟩ := except_bind_ok.mp hrest
  obtain ⟨contractEnd, hend, hrest⟩ := except_bind_ok.mp hrest
  obtain ⟨⟨⟩, -, hrest⟩ := except_bind_ok.mp hrest
  obtain ⟨segment, hsegment, hdone⟩ := except_bind_ok.mp hrest
  obtain ⟨hid, hemployee, heffectiveStart, heffectiveEnd⟩ := of_contractCommon _ hsegment
  have hreturned := Except.ok.inj hdone
  refine ⟨⟨segment.id, segment.employee.id, revision, contractStart, contractEnd⟩, ?_, ?_, ?_⟩
  · unfold EmployeeVersion.ofRow
    rw [hid, relatedId_of_relation hemployee, hrevision, hstart, hend]
    rfl
  · intro kept hkept
    rw [hkept] at hreturned
    split at hreturned
    · cases hreturned
    · cases hreturned
      refine ⟨rfl, ?_, ?_, ?_⟩
      · rw [heffectiveStart, ordinal_max]
        exact le_max_right ..
      · rw [heffectiveEnd, ordinal_min]
        exact min_le_right ..
      · rw [heffectiveStart, heffectiveEnd]
        exact hsegment
  · intro day hday
    have hbefore : (∀ finish ∈ earlierEnd contractEnd (next.map fun later => ⟨later.ordinal - 1⟩),
        day.ordinal ≤ finish.ordinal) ↔ (∀ finish ∈ contractEnd, day.ordinal ≤ finish.ordinal) ∧
          ∀ later ∈ next, day.ordinal ≤ later.ordinal - 1 := by
      rw [ordinal_earlierEnd]
      simp
    generalize earlierEnd contractEnd (next.map fun later => ⟨later.ordinal - 1⟩) = sourceEnd
      at hbefore hreturned heffectiveEnd
    have hcontains : segment.Contains day ↔ revision.ordinal ≤ day.ordinal ∧
        contractStart.ordinal ≤ day.ordinal ∧
          ∀ finish ∈ sourceEnd, day.ordinal ≤ finish.ordinal := by
      unfold PayrollContractSegment.Contains
      rw [heffectiveStart, heffectiveEnd, ordinal_max, ordinal_max, ordinal_min, max_le_iff,
        max_le_iff, le_min_iff, and_iff_left hday.1, and_iff_left hday.2, and_assoc]
      refine and_congr_right fun _ => and_congr_right fun _ => ?_
      cases sourceEnd with
      | none => simpa using hday.2
      | some finish => simp
    have hkept : (∃ kept, outcome = some kept ∧ kept.Contains day) ↔ segment.Contains day := by
      constructor
      · rintro ⟨kept, rfl, hkept⟩
        split at hreturned
        · cases hreturned
        · cases hreturned
          exact hkept
      · intro hsegment
        obtain ⟨hrevision, hcontractStart, hsourceEnd⟩ := hcontains.mp hsegment
        refine ⟨segment, ?_, hsegment⟩
        rw [if_neg] at hreturned
        · exact hreturned.symm
        · rw [Bool.or_eq_true, decide_eq_true_eq, ordinal_max, lt_max_iff]
          rintro (hlate | hended)
          · have := hday.2
            omega
          · cases sourceEnd with
            | none => cases hended
            | some finish =>
                have hfinish := hsourceEnd finish rfl
                have hstart := hday.1
                have hlast : finish.ordinal < period.start.ordinal := of_decide_eq_true hended
                omega
    rw [hkept, hcontains, hbefore]
    exact ⟨fun ⟨hdated, hstarted, hended, hnext⟩ => ⟨hdated, ⟨hstarted, hended⟩, hnext⟩,
      fun ⟨hdated, ⟨hstarted, hended⟩, hnext⟩ => ⟨hdated, hstarted, hended, hnext⟩⟩

/-! ### One employee -/

/-- The date and the row of every version, in order, with the date of the next one. -/
theorem mem_withSuccessors {ordered : List ((Date × Int) × Payload)}
    {entry : Payload × Option Date} :
    entry ∈ withSuccessors ordered ↔ ∃ before one after, ordered = before ++ one :: after ∧
      entry = (one.2, after.head?.map fun later => later.1.1) := by
  induction ordered using withSuccessors.induct with
  | case1 => simp [withSuccessors]
  | case2 last =>
      rw [withSuccessors, List.mem_singleton]
      constructor
      · rintro rfl
        exact ⟨[], last, [], rfl, rfl⟩
      · rintro ⟨before, one, after, hsplit, rfl⟩
        cases before with
        | nil =>
            obtain ⟨rfl, rfl⟩ := List.cons.inj hsplit
            rfl
        | cons first before => simp at hsplit
  | case3 first second rest ih =>
      rw [withSuccessors, List.mem_cons, ih]
      constructor
      · rintro (rfl | ⟨before, one, after, hsplit, rfl⟩)
        · exact ⟨[], first, second :: rest, rfl, rfl⟩
        · exact ⟨first :: before, one, after, by rw [hsplit]; rfl, rfl⟩
      · rintro ⟨before, one, after, hsplit, rfl⟩
        cases before with
        | nil =>
            obtain ⟨rfl, rfl⟩ := List.cons.inj hsplit
            exact .inl rfl
        | cons other before => exact .inr ⟨before, one, after, (List.cons.inj hsplit).2, rfl⟩

theorem pairwise_sorted {ordered : List ((Date × Int) × Payload)}
    (hdates : (ordered.map fun entry => entry.1.1).Nodup) :
    (ordered.insertionSort (revisionBefore · ·)).Pairwise fun first second =>
      first.1.1.ordinal < second.1.1.ordinal := by
  have htotal : Std.Total fun first second : (Date × Int) × Payload =>
      revisionBefore first second = true := by
    refine ⟨fun first second => ?_⟩
    simp only [revisionBefore, Bool.or_eq_true, Bool.and_eq_true, decide_eq_true_eq]
    omega
  have htrans : IsTrans ((Date × Int) × Payload) fun first second =>
      revisionBefore first second = true := by
    refine ⟨fun first second third => ?_⟩
    simp only [revisionBefore, Bool.or_eq_true, Bool.and_eq_true, decide_eq_true_eq]
    omega
  have hsorted := List.pairwise_insertionSort
    (fun first second : (Date × Int) × Payload => revisionBefore first second = true) ordered
  have hperm := List.perm_insertionSort
    (fun first second : (Date × Int) × Payload => revisionBefore first second = true) ordered
  have hapart := List.pairwise_map.mp ((hperm.map fun entry => entry.1.1).nodup_iff.mpr hdates)
  refine (hsorted.and hapart).imp fun {first second} hboth => ?_
  obtain ⟨hbefore, hdiffer⟩ := hboth
  have hordinal : first.1.1.ordinal ≠ second.1.1.ordinal := fun hsame =>
    hdiffer (by rw [show first.1.1 = ⟨first.1.1.ordinal⟩ from rfl, hsame])
  simp only [revisionBefore, Bool.or_eq_true, Bool.and_eq_true, decide_eq_true_eq] at hbefore
  omega

/-- The version of a row of one employee's rows that holds on a day. -/
structure HoldsOnDay (rows : List Payload) (day : Date) (row : Payload)
    (version : EmployeeVersion) : Prop where
  mem : row ∈ rows
  read : EmployeeVersion.ofRow row = .ok version
  dated : version.dateVersion.ordinal ≤ day.ordinal
  latest : ∀ other ∈ rows, ∀ found, EmployeeVersion.ofRow other = .ok found →
    found.dateVersion.ordinal ≤ day.ordinal →
    found.dateVersion.ordinal ≤ version.dateVersion.ordinal

structure OrderedRows (period : PayrollPeriod) (rows : List Payload)
    (segments : List PayrollContractSegment) (ordered : List ((Date × Int) × Payload)) : Prop where
  increasing : ordered.Pairwise fun first second => first.1.1.ordinal < second.1.1.ordinal
  mem_rows : ∀ entry ∈ ordered, entry.2 ∈ rows
  dated : ∀ entry ∈ ordered, payrollField entry.2 Field.date "date_version" = .ok entry.1.1
  covered : ∀ row ∈ rows, ∃ entry ∈ ordered, entry.2 = row
  made : ∀ entry ∈ withSuccessors ordered, ∃ outcome,
    contractSegment19 period entry.1 entry.2 = .ok outcome ∧
      ∀ segment, outcome = some segment → segment ∈ segments
  only : ∀ segment ∈ segments, ∃ entry ∈ withSuccessors ordered,
    contractSegment19 period entry.1 entry.2 = .ok (some segment)

theorem exists_orderedRows {segments : List PayrollContractSegment}
    (hsegments : employeeSegments19 period rows = .ok segments) :
    ∃ ordered, OrderedRows period rows segments ordered := by
  obtain ⟨revisions, hrevisions, hrest⟩ := except_bind_ok.mp hsegments
  obtain ⟨⟨⟩, hnodup, hrest⟩ := except_bind_ok.mp hrest
  obtain ⟨found, hfound, hdone⟩ := except_bind_ok.mp hrest
  cases hdone
  have hforall := forall₂_of_mapM_ok hrevisions
  have hlength : revisions.length = rows.length := hforall.length_eq.symm
  have hperm := List.perm_insertionSort (revisionBefore · ·) (revisions.zip rows)
  have hdates : ((revisions.zip rows).map fun entry => entry.1.1).Nodup := by
    have hfst := congrArg (List.map Prod.fst) (List.map_fst_zip (Nat.le_of_eq hlength))
    rw [List.map_map] at hfst
    rw [show ((revisions.zip rows).map fun entry => entry.1.1) = revisions.map Prod.fst from hfst]
    simpa using ensure_ok.mp hnodup
  have hread {entry : (Date × Int) × Payload} (hentry : entry ∈ revisions.zip rows) :
      revisionOf entry.2 = .ok entry.1 :=
    (List.forall₂_iff_zip.mp hforall.flip).2 hentry
  have houtcomes := forall₂_of_mapM_ok hfound
  refine ⟨_, pairwise_sorted hdates, fun entry hentry => ?_, fun entry hentry => ?_,
    fun row hrow => ?_, fun entry hentry => ?_, fun segment hsegment => ?_⟩
  · exact (List.of_mem_zip (hperm.subset hentry)).2
  · obtain ⟨date, hdate, hrest⟩ := except_bind_ok.mp (hread (hperm.subset hentry))
    obtain ⟨identifier, -, hdone⟩ := except_bind_ok.mp hrest
    rw [hdate, ← Except.ok.inj hdone]
  · have hsnd := List.map_snd_zip (Nat.le_of_eq hlength.symm)
    rw [← hsnd] at hrow
    obtain ⟨entry, hentry, hsame⟩ := List.mem_map.mp hrow
    exact ⟨entry, hperm.symm.subset hentry, hsame⟩
  · obtain ⟨outcome, houtcome, hmade⟩ := exists_of_forall₂_left houtcomes hentry
    refine ⟨outcome, hmade, ?_⟩
    rintro segment rfl
    exact List.reduceOption_mem_iff.mpr houtcome
  · obtain ⟨entry, hentry, hmade⟩ := exists_of_forall₂_right houtcomes
      (List.reduceOption_mem_iff.mp hsegment)
    exact ⟨entry, hentry, hmade⟩

namespace OrderedRows

variable {segments : List PayrollContractSegment} {ordered : List ((Date × Int) × Payload)}

/-- The version of a row in order, between the versions dated earlier and those dated later. -/
theorem segmentAt (hordered : OrderedRows period rows segments ordered)
    {before after : List ((Date × Int) × Payload)} {one : (Date × Int) × Payload}
    (hsplit : ordered = before ++ one :: after) :
    ∃ version outcome, SegmentOfRow period one.2 (after.head?.map fun later => later.1.1) version
      outcome ∧ version.dateVersion = one.1.1 ∧
      ∀ segment, outcome = some segment → segment ∈ segments := by
  obtain ⟨outcome, hmade, hkept⟩ := hordered.made _ (mem_withSuccessors.mpr
    ⟨before, one, after, hsplit, rfl⟩)
  obtain ⟨version, hversion⟩ := segmentOfRow hmade
  refine ⟨version, outcome, hversion, ?_, hkept⟩
  have hdated := hordered.dated one (by rw [hsplit]; simp)
  exact Except.ok.inj ((of_ofRow _ hversion.read).2.symm.trans hdated)

/-- A segment contains a day of the period only if its version holds then. -/
theorem holds_of_contains (hordered : OrderedRows period rows segments ordered) {day : Date}
    (hday : period.Contains day) {segment : PayrollContractSegment} (hsegment : segment ∈ segments)
    (hcontains : segment.Contains day) :
    ∃ row version, HoldsOnDay rows day row version ∧ version.InContract day ∧
      contractCommon row .hrVersion .unavailable (some version.dateVersion) segment.effectiveStart
        segment.effectiveEnd = .ok segment := by
  obtain ⟨entry, hentry, hmade⟩ := hordered.only segment hsegment
  obtain ⟨before, one, after, hsplit, rfl⟩ := mem_withSuccessors.mp hentry
  obtain ⟨version, hversion⟩ := segmentOfRow hmade
  have hone : one ∈ ordered := by
    rw [hsplit]
    simp
  have hdate : version.dateVersion = one.1.1 :=
    Except.ok.inj ((of_ofRow _ hversion.read).2.symm.trans (hordered.dated one hone))
  obtain ⟨hdated, hcontract, hnext⟩ := (hversion.contains day hday).mp ⟨segment, rfl, hcontains⟩
  refine ⟨one.2, version, ⟨hordered.mem_rows one (by rw [hsplit]; simp), hversion.read, hdated, ?_⟩,
    hcontract, (hversion.kept segment rfl).2.2.2⟩
  intro other hother found hfound hfoundDated
  obtain ⟨entry, hentry, rfl⟩ := hordered.covered other hother
  have hfoundDate : found.dateVersion = entry.1.1 :=
    Except.ok.inj ((of_ofRow _ hfound).2.symm.trans (hordered.dated entry hentry))
  have hincreasing := hordered.increasing
  rw [hsplit, List.pairwise_append, List.pairwise_cons] at hincreasing
  obtain ⟨-, ⟨hafter, hrest⟩, hbefore⟩ := hincreasing
  rw [hsplit] at hentry
  rw [hdate, hfoundDate]
  rw [hfoundDate] at hfoundDated
  rcases List.mem_append.mp hentry with hearlier | hlater
  · exact le_of_lt (hbefore entry hearlier one List.mem_cons_self)
  · rcases List.mem_cons.mp hlater with rfl | hlater
    · exact le_refl _
    · -- the next version is dated after the day, and the entry no earlier than that one
      exfalso
      cases after with
      | nil => cases hlater
      | cons next rest =>
          have hnextDay := hnext next.1.1 rfl
          have hone := hafter next List.mem_cons_self
          have hle : next.1.1.ordinal ≤ entry.1.1.ordinal := by
            rcases List.mem_cons.mp hlater with rfl | hlast
            · exact le_refl _
            · exact le_of_lt ((List.pairwise_cons.mp hrest).1 entry hlast)
          omega

/-- The version that holds on a day of the period has a segment that contains it, if the day is in
its contract. -/
theorem contains_of_holds (hordered : OrderedRows period rows segments ordered) {day : Date}
    (hday : period.Contains day) {row : Payload} {version : EmployeeVersion}
    (hholds : HoldsOnDay rows day row version) (hcontract : version.InContract day) :
    ∃ segment ∈ segments, segment.Contains day ∧ segment.employee.id = version.employee := by
  obtain ⟨one, hone, rfl⟩ := hordered.covered row hholds.mem
  obtain ⟨before, after, hsplit⟩ := List.append_of_mem hone
  obtain ⟨found, outcome, hfound, hdate, hkept⟩ := hordered.segmentAt hsplit
  obtain rfl : found = version := Except.ok.inj (hfound.read.symm.trans hholds.read)
  have hincreasing := hordered.increasing
  rw [hsplit, List.pairwise_append, List.pairwise_cons] at hincreasing
  obtain ⟨-, ⟨hafter, -⟩, -⟩ := hincreasing
  have hnext : ∀ later ∈ after.head?.map fun later => later.1.1,
      day.ordinal ≤ later.ordinal - 1 := by
    cases after with
    | nil => simp
    | cons next rest =>
        rintro later ⟨⟩
        by_contra hlate
        change ¬day.ordinal ≤ next.1.1.ordinal - 1 at hlate
        have hsplitNext : ordered = (before ++ [one]) ++ next :: rest := by
          rw [hsplit, List.append_assoc]
          rfl
        obtain ⟨other, _, hother, hotherDate, -⟩ := hordered.segmentAt hsplitNext
        have hlatest := hholds.latest next.2 (hordered.mem_rows next (by rw [hsplit]; simp)) other
          hother.read (by rw [hotherDate]; omega)
        have hlt := hafter next List.mem_cons_self
        rw [hotherDate, hdate] at hlatest
        omega
  obtain ⟨segment, rfl, hcontains⟩ := (hfound.contains day hday).mpr
    ⟨hholds.dated, hcontract, hnext⟩
  exact ⟨segment, hkept segment rfl, hcontains, (hfound.kept segment rfl).1⟩

end OrderedRows

/-! ### All employees -/

/-- The rows of one employee, as `_contract_segments_19` groups them. -/
def employeeRows (employees : List Int) (rows : List Payload) (employee : Int) : List Payload :=
  ((employees.zip rows).filter fun entry => entry.1 = employee).map Prod.snd

structure GroupedRows (period : PayrollPeriod) (rows : List Payload)
    (segments : List PayrollContractSegment) (employees : List Int) : Prop where
  mem_employeeRows : ∀ employee row, row ∈ employeeRows employees rows employee ↔
    row ∈ rows ∧ payrollField row Field.relatedId "employee_id" = .ok employee
  made : ∀ employee ∈ employees, ∃ group ordered,
    OrderedRows period (employeeRows employees rows employee) group ordered ∧
      ∀ segment ∈ group, segment ∈ segments
  only : ∀ segment ∈ segments, ∃ employee ∈ employees, ∃ group ordered,
    OrderedRows period (employeeRows employees rows employee) group ordered ∧ segment ∈ group
  mem_employees : ∀ row ∈ rows, ∃ employee ∈ employees,
    payrollField row Field.relatedId "employee_id" = .ok employee
  distinct : rows.Pairwise fun first second => ∀ employee one other,
    payrollField first Field.relatedId "employee_id" = .ok employee →
    payrollField second Field.relatedId "employee_id" = .ok employee →
    payrollField first Field.date "date_version" = .ok one →
    payrollField second Field.date "date_version" = .ok other → one ≠ other

theorem distinct_revisions {segments : List PayrollContractSegment}
    (hsegments : employeeSegments19 period rows = .ok segments) :
    rows.Pairwise fun first second => ∀ one other,
      payrollField first Field.date "date_version" = .ok one →
      payrollField second Field.date "date_version" = .ok other → one ≠ other := by
  obtain ⟨revisions, hrevisions, hrest⟩ := except_bind_ok.mp hsegments
  obtain ⟨⟨⟩, hnodup, -⟩ := except_bind_ok.mp hrest
  have hdates : revisions.Pairwise fun first second => first.1 ≠ second.1 := by
    have hensured : (revisions.map fun revision => revision.1).Nodup := by
      simpa using ensure_ok.mp hnodup
    exact List.pairwise_map.mp hensured
  have hdate {found : Payload} {revision : Date × Int} {date : Date}
      (hread : revisionOf found = .ok revision)
      (hfound : payrollField found Field.date "date_version" = .ok date) : revision.1 = date := by
    obtain ⟨first, hfirst, hrest⟩ := except_bind_ok.mp hread
    obtain ⟨identifier, -, hdone⟩ := except_bind_ok.mp hrest
    rw [← Except.ok.inj hdone]
    exact Except.ok.inj (hfirst.symm.trans hfound)
  refine pairwise_of_forall₂ (fun revision revision' first second hread hread' hapart => ?_)
    (forall₂_of_mapM_ok hrevisions).flip hdates
  intro one other hone hother
  rw [← hdate hread hone, ← hdate hread' hother]
  exact hapart

theorem exists_groupedRows {segments : List PayrollContractSegment}
    (hsegments : contractSegments19 period rows = .ok segments) :
    ∃ employees, GroupedRows period rows segments employees := by
  obtain ⟨employees, hemployees, hrest⟩ := except_bind_ok.mp hsegments
  obtain ⟨found, hfound, hdone⟩ := except_bind_ok.mp hrest
  cases hdone
  have hforall := forall₂_of_mapM_ok hemployees
  have hgroups := forall₂_of_mapM_ok hfound
  refine ⟨employees, fun employee row => ?_, fun employee hemployee => ?_,
    fun segment hsegment => ?_, fun row hrow => ?_, ?_⟩
  · unfold employeeRows
    constructor
    · intro hrow
      obtain ⟨entry, hentry, rfl⟩ := List.mem_map.mp hrow
      obtain ⟨hzip, hsame⟩ := List.mem_filter.mp hentry
      have hread := (List.forall₂_iff_zip.mp hforall.flip).2 hzip
      exact ⟨(List.of_mem_zip hzip).2, by rw [← of_decide_eq_true hsame]; exact hread⟩
    · rintro ⟨hrow, hread⟩
      have hsnd := List.map_snd_zip (Nat.le_of_eq hforall.length_eq)
      rw [← hsnd] at hrow
      obtain ⟨entry, hentry, rfl⟩ := List.mem_map.mp hrow
      have hemployee := (List.forall₂_iff_zip.mp hforall.flip).2 hentry
      refine List.mem_map_of_mem (List.mem_filter.mpr ⟨hentry, decide_eq_true ?_⟩)
      exact Except.ok.inj (hemployee.symm.trans hread)
  · obtain ⟨group, hgroup, hmade⟩ := exists_of_forall₂_left hgroups
      (List.mem_eraseDups.mpr hemployee)
    obtain ⟨ordered, hordered⟩ := exists_orderedRows hmade
    exact ⟨group, ordered, hordered, fun segment hsegment =>
      List.mem_flatten.mpr ⟨group, hgroup, hsegment⟩⟩
  · obtain ⟨group, hgroup, hmem⟩ := List.mem_flatten.mp hsegment
    obtain ⟨employee, hemployee, hmade⟩ := exists_of_forall₂_right hgroups hgroup
    obtain ⟨ordered, hordered⟩ := exists_orderedRows hmade
    exact ⟨employee, List.mem_eraseDups.mp hemployee, group, ordered, hordered, hmem⟩
  · obtain ⟨employee, hemployee, hread⟩ := exists_of_forall₂_left hforall hrow
    exact ⟨employee, hemployee, hread⟩
  · refine List.pairwise_iff_forall_sublist.mpr fun {first second} hsublist => ?_
    intro employee one other hfirst hsecond hone hother
    have hsnd := List.map_snd_zip (Nat.le_of_eq hforall.length_eq)
    rw [← hsnd] at hsublist
    obtain ⟨pairs, hpairs, hsame⟩ := List.sublist_map_iff.mp hsublist
    obtain ⟨firstPair, secondPair, rfl⟩ : ∃ firstPair secondPair,
        pairs = [firstPair, secondPair] := by
      match pairs, hsame with
      | [firstPair, secondPair], _ => exact ⟨firstPair, secondPair, rfl⟩
    obtain ⟨rfl, hrest⟩ := List.cons.inj hsame
    obtain ⟨rfl, -⟩ := List.cons.inj hrest
    have hemployee {pair : Int × Payload} (hpair : pair ∈ [firstPair, secondPair])
        (hread : payrollField pair.2 Field.relatedId "employee_id" = .ok employee) :
        pair.1 = employee := by
      have hpairRead := (List.forall₂_iff_zip.mp hforall.flip).2 (hpairs.subset hpair)
      exact Except.ok.inj (hpairRead.symm.trans hread)
    have hgroup : [firstPair.2, secondPair.2].Sublist (employeeRows employees rows employee) := by
      have hfiltered := (hpairs.filter fun entry => entry.1 = employee).map Prod.snd
      rwa [List.filter_eq_self.mpr] at hfiltered
      intro pair hpair
      refine decide_eq_true ?_
      rcases List.mem_cons.mp hpair with rfl | hlast
      · exact hemployee hpair hfirst
      · rw [List.mem_singleton] at hlast
        subst hlast
        exact hemployee hpair hsecond
    have hmem := hemployee List.mem_cons_self hfirst
    have hin : employee ∈ employees := by
      rw [← hmem]
      exact (List.of_mem_zip (hpairs.subset List.mem_cons_self)).1
    obtain ⟨group, -, hmade⟩ := exists_of_forall₂_left hgroups (List.mem_eraseDups.mpr hin)
    have hapart := List.pairwise_iff_forall_sublist.mp (distinct_revisions hmade) hgroup
    exact hapart one other hone hother

namespace GroupedRows

variable {segments : List PayrollContractSegment} {employees : List Int}

/-- Every row was read as a version. -/
theorem exists_version (hgrouped : GroupedRows period rows segments employees) {row : Payload}
    (hrow : row ∈ rows) : ∃ version, EmployeeVersion.ofRow row = .ok version := by
  obtain ⟨employee, hemployee, hread⟩ := hgrouped.mem_employees row hrow
  obtain ⟨group, ordered, hordered, -⟩ := hgrouped.made employee hemployee
  obtain ⟨one, hone, rfl⟩ := hordered.covered row ((hgrouped.mem_employeeRows employee row).mpr
    ⟨hrow, hread⟩)
  obtain ⟨before, after, hsplit⟩ := List.append_of_mem hone
  obtain ⟨version, outcome, hversion, -, -⟩ := hordered.segmentAt hsplit
  exact ⟨version, hversion.read⟩

end GroupedRows

/-! ### The checks of the sorted segments -/

/-- Segments of one employee, each after the one before. -/
def Follows (first second : PayrollContractSegment) : Prop :=
  first.employee.id = second.employee.id →
    first.effectiveEnd.ordinal < second.effectiveStart.ordinal

theorem follows_of_checkSegments {companyId : Int} {employeeIds : List Int}
    {previous : List (Int × PayrollContractSegment)} {items : List PayrollContractSegment}
    (hchecked : checkSegments companyId employeeIds previous items = .ok ()) :
    (∀ item ∈ items, item.companyId = companyId ∧ item.employee.id ∈ employeeIds ∧
        item.effectiveStart.ordinal ≤ item.effectiveEnd.ordinal) ∧
      (∀ item ∈ items, ∀ prior, dictGet previous item.employee.id = some prior →
        prior.effectiveEnd.ordinal < item.effectiveStart.ordinal) ∧
      items.Pairwise Follows := by
  induction items generalizing previous with
  | nil => exact ⟨by simp, by simp, .nil⟩
  | cons item items ih =>
      obtain ⟨⟨⟩, hselected, hrest⟩ := except_bind_ok.mp hchecked
      obtain ⟨⟨⟩, hprior, hrest⟩ := except_bind_ok.mp hrest
      obtain ⟨hall, hafter, hfollows⟩ := ih hrest
      have hitem : item.companyId = companyId ∧ item.employee.id ∈ employeeIds ∧
          item.effectiveStart.ordinal ≤ item.effectiveEnd.ordinal := by
        simpa [and_assoc] using ensure_ok.mp hselected
      have hown : ∀ other ∈ items, Follows item other := by
        intro other hother hsame
        refine hafter other hother item ?_
        rw [dictGet_dictSet, if_pos hsame]
      refine ⟨List.forall_mem_cons.mpr ⟨hitem, hall⟩, ?_, List.pairwise_cons.mpr ⟨hown, hfollows⟩⟩
      have hfirst : ∀ prior, dictGet previous item.employee.id = some prior →
          prior.effectiveEnd.ordinal < item.effectiveStart.ordinal := by
        intro prior hfound
        have hall := ensure_ok.mp hprior
        rw [hfound] at hall
        exact of_decide_eq_true hall
      refine List.forall_mem_cons.mpr ⟨hfirst, fun other hother prior hfound => ?_⟩
      by_cases hsame : item.employee.id = other.employee.id
      · have hbefore := hfirst prior (by rw [hsame, hfound])
        have hbetween := hown other hother hsame
        have hnonempty := hitem.2.2
        omega
      · refine hafter other hother prior ?_
        rw [dictGet_dictSet, if_neg hsame, hfound]

/-! ### The whole list -/

/-- The segments of the period, day by day: a day is in a segment exactly if the version that holds
then has a contract for it, and the segment is that version's. -/
structure SegmentsByDay (period : PayrollPeriod) (employeeIds : List Int) (rows : List Payload)
    (versions : List EmployeeVersion) (items : List PayrollContractSegment) : Prop where
  contains_iff : ∀ employee ∈ employeeIds, ∀ day, period.Contains day →
    ((∃ item ∈ items, item.employee.id = employee ∧ item.Contains day) ↔
      ∃ version, EmployeeVersion.HoldsOn versions employee day version ∧ version.InContract day)
  ofVersion : ∀ item ∈ items, ∀ day, item.Contains day →
    ∃ version, EmployeeVersion.HoldsOn versions item.employee.id day version ∧
      item.OfVersion rows version
  inside : ∀ item ∈ items, item.employee.id ∈ employeeIds ∧
    period.start.ordinal ≤ item.effectiveStart.ordinal ∧
    item.effectiveStart.ordinal ≤ item.effectiveEnd.ordinal ∧
    item.effectiveEnd.ordinal ≤ period.finish.ordinal
  apart : items.Pairwise Follows
  sorted : items.Pairwise (segmentBefore · ·)

/-- The versions of these employees that Odoo has, of which only those dated up to the end of the
period are read. -/
def ReadUpTo (finish : Date) (employeeIds : List Int) (all versions : List EmployeeVersion) :
    Prop :=
  ∀ version, version.employee ∈ employeeIds → version.dateVersion.ordinal ≤ finish.ordinal →
    (version ∈ all ↔ version ∈ versions)

theorem holdsOn_of_readUpTo {finish day : Date} {employeeIds : List Int}
    {all versions : List EmployeeVersion} (hread : ReadUpTo finish employeeIds all versions)
    {employee : Int} (hemployee : employee ∈ employeeIds) (hday : day.ordinal ≤ finish.ordinal)
    {version : EmployeeVersion} :
    EmployeeVersion.HoldsOn all employee day version ↔
      EmployeeVersion.HoldsOn versions employee day version := by
  have hmem {one : EmployeeVersion} (hone : one.employee = employee)
      (hdated : one.dateVersion.ordinal ≤ day.ordinal) : one ∈ all ↔ one ∈ versions :=
    hread one (hone ▸ hemployee) (by omega)
  constructor
  · intro hholds
    exact ⟨(hmem hholds.employee_eq hholds.dated).mp hholds.mem, hholds.employee_eq, hholds.dated,
      fun other hother hsame hdated =>
        hholds.latest other ((hmem hsame hdated).mpr hother) hsame hdated⟩
  · intro hholds
    exact ⟨(hmem hholds.employee_eq hholds.dated).mpr hholds.mem, hholds.employee_eq, hholds.dated,
      fun other hother hsame hdated =>
        hholds.latest other ((hmem hsame hdated).mp hother) hsame hdated⟩

theorem exists_versions (hrows : ∀ row ∈ rows, ∃ version, EmployeeVersion.ofRow row = .ok version) :
    ∃ versions, rows.mapM EmployeeVersion.ofRow = .ok versions := by
  induction rows with
  | nil => exact ⟨[], rfl⟩
  | cons row rows ih =>
      obtain ⟨⟨version, hversion⟩, hrest⟩ := List.forall_mem_cons.mp hrows
      obtain ⟨versions, hversions⟩ := ih hrest
      refine ⟨version :: versions, ?_⟩
      rw [List.mapM_cons, hversion, hversions]
      rfl

theorem mem_versions {versions : List EmployeeVersion}
    (hversions : rows.mapM EmployeeVersion.ofRow = .ok versions) {version : EmployeeVersion} :
    version ∈ versions ↔ ∃ row ∈ rows, EmployeeVersion.ofRow row = .ok version := by
  have hforall := forall₂_of_mapM_ok hversions
  refine ⟨fun hmem => exists_of_forall₂_right hforall hmem, ?_⟩
  rintro ⟨row, hrow, hread⟩
  obtain ⟨found, hfound, hsame⟩ := exists_of_forall₂_left hforall hrow
  obtain rfl : found = version := Except.ok.inj (hsame.symm.trans hread)
  exact hfound

namespace GroupedRows

variable {segments : List PayrollContractSegment} {employees : List Int}
  {versions : List EmployeeVersion}

theorem holdsOn_iff (hgrouped : GroupedRows period rows segments employees)
    (hversions : rows.mapM EmployeeVersion.ofRow = .ok versions) {employee : Int} {day : Date}
    {version : EmployeeVersion} :
    EmployeeVersion.HoldsOn versions employee day version ↔
      ∃ row, HoldsOnDay (employeeRows employees rows employee) day row version := by
  have hemployee {row : Payload} {one : EmployeeVersion}
      (hread : EmployeeVersion.ofRow row = .ok one) : (row ∈ rows ∧ one.employee = employee) ↔
        row ∈ employeeRows employees rows employee := by
    rw [hgrouped.mem_employeeRows, (of_ofRow _ hread).1]
    exact and_congr_right fun _ => ⟨fun hsame => by rw [hsame], fun hsame => Except.ok.inj hsame⟩
  constructor
  · intro hholds
    obtain ⟨row, hrow, hread⟩ := (mem_versions hversions).mp hholds.mem
    refine ⟨row, (hemployee hread).mp ⟨hrow, hholds.employee_eq⟩, hread, hholds.dated, ?_⟩
    intro other hother found hfound hdated
    obtain ⟨hmem, hsame⟩ := (hemployee hfound).mpr hother
    exact hholds.latest found ((mem_versions hversions).mpr ⟨other, hmem, hfound⟩) hsame hdated
  · rintro ⟨row, hholds⟩
    obtain ⟨hrow, hsame⟩ := (hemployee hholds.read).mpr hholds.mem
    refine ⟨(mem_versions hversions).mpr ⟨row, hrow, hholds.read⟩, hsame, hholds.dated, ?_⟩
    intro other hother hemployeeOther hdated
    obtain ⟨found, hfound, hread⟩ := (mem_versions hversions).mp hother
    exact hholds.latest found ((hemployee hread).mp ⟨hfound, hemployeeOther⟩) other hread hdated

/-- What the segment of a group carries. -/
theorem kept (hgrouped : GroupedRows period rows segments employees)
    {segment : PayrollContractSegment} (hsegment : segment ∈ segments) :
    period.start.ordinal ≤ segment.effectiveStart.ordinal ∧
      segment.effectiveEnd.ordinal ≤ period.finish.ordinal := by
  obtain ⟨employee, -, group, ordered, hordered, hmem⟩ := hgrouped.only segment hsegment
  obtain ⟨entry, -, hmade⟩ := hordered.only segment hmem
  obtain ⟨version, hversion⟩ := segmentOfRow hmade
  obtain ⟨-, hstart, hend, -⟩ := hversion.kept segment rfl
  exact ⟨hstart, hend⟩

theorem ofVersion (hgrouped : GroupedRows period rows segments employees)
    (hversions : rows.mapM EmployeeVersion.ofRow = .ok versions)
    {segment : PayrollContractSegment} (hsegment : segment ∈ segments) {day : Date}
    (hcontains : segment.Contains day) :
    ∃ version, EmployeeVersion.HoldsOn versions segment.employee.id day version ∧
      version.InContract day ∧ segment.OfVersion rows version := by
  obtain ⟨hstart, hend⟩ := hgrouped.kept hsegment
  have hday : period.Contains day := ⟨by have := hcontains.1; omega, by have := hcontains.2; omega⟩
  obtain ⟨employee, hemployee, group, ordered, hordered, hmem⟩ := hgrouped.only segment hsegment
  obtain ⟨row, version, hholds, hcontract, hcommon⟩ :=
    hordered.holds_of_contains hday hmem hcontains
  have hrow := (hgrouped.mem_employeeRows employee row).mp hholds.mem
  have hsame : segment.employee.id = employee := by
    have hrelation := (of_contractCommon _ hcommon).2.1
    exact Except.ok.inj ((relatedId_of_relation hrelation).symm.trans hrow.2)
  refine ⟨version, ?_, hcontract, row, hrow.1, hholds.read, hcommon⟩
  rw [hsame]
  exact (hgrouped.holdsOn_iff hversions).mpr ⟨row, hholds⟩

theorem contains (hgrouped : GroupedRows period rows segments employees)
    (hversions : rows.mapM EmployeeVersion.ofRow = .ok versions) {employee : Int} {day : Date}
    (hday : period.Contains day) {version : EmployeeVersion}
    (hholds : EmployeeVersion.HoldsOn versions employee day version)
    (hcontract : version.InContract day) :
    ∃ segment ∈ segments, segment.employee.id = employee ∧ segment.Contains day := by
  obtain ⟨row, hrow⟩ := (hgrouped.holdsOn_iff hversions).mp hholds
  obtain ⟨hmem, hread⟩ := (hgrouped.mem_employeeRows employee row).mp hrow.mem
  obtain ⟨other, hother, hsame⟩ := hgrouped.mem_employees row hmem
  obtain rfl : other = employee := Except.ok.inj (hsame.symm.trans hread)
  obtain ⟨group, ordered, hordered, hkept⟩ := hgrouped.made other hother
  obtain ⟨segment, hsegment, hcontains, hemployee⟩ :=
    hordered.contains_of_holds hday hrow hcontract
  exact ⟨segment, hkept segment hsegment, hemployee.trans hholds.employee_eq, hcontains⟩

/-- No two versions of an employee have one date. -/
theorem distinct_versions (hgrouped : GroupedRows period rows segments employees)
    (hversions : rows.mapM EmployeeVersion.ofRow = .ok versions) :
    versions.Pairwise fun first second => first.employee = second.employee →
      first.dateVersion ≠ second.dateVersion := by
  refine pairwise_of_forall₂ (fun row other first second hread hread' hapart hsame => ?_)
    (forall₂_of_mapM_ok hversions) hgrouped.distinct
  obtain ⟨hemployee, hdate⟩ := of_ofRow _ hread
  obtain ⟨hemployee', hdate'⟩ := of_ofRow _ hread'
  exact hapart first.employee _ _ hemployee (hsame ▸ hemployee') hdate hdate'

end GroupedRows

theorem pairwise_segmentBefore (segments : List PayrollContractSegment) :
    (segments.insertionSort (segmentBefore · ·)).Pairwise (segmentBefore · ·) := by
  have htotal : Std.Total fun first second : PayrollContractSegment =>
      segmentBefore first second = true := by
    refine ⟨fun first second => ?_⟩
    simp only [segmentBefore, Bool.or_eq_true, Bool.and_eq_true, decide_eq_true_eq]
    omega
  have htrans : IsTrans PayrollContractSegment fun first second =>
      segmentBefore first second = true := by
    refine ⟨fun first second third => ?_⟩
    simp only [segmentBefore, Bool.or_eq_true, Bool.and_eq_true, decide_eq_true_eq]
    omega
  exact List.pairwise_insertionSort
    (fun first second : PayrollContractSegment => segmentBefore first second = true) segments

namespace PayrollReader

/-- **Contract segments, day by day.** A read of Odoo 19's versions that returns has made a list of
segments, of which it returns a page: on every day of the period an employee is in a segment exactly
if the latest version by then has a contract for the day, and the segment is that version's; the
segments of an employee are disjoint, in order and inside the period. Versions of one employee with
one date are refused. -/
theorem contract_segments_by_day (reader : PayrollReader) (hversion : reader.version = .v19)
    {companyId : Int} {filters : PayrollContractFilters} {request : PayrollPageRequest}
    {trace : List OdooEvent} {page : PayrollPage PayrollContractSegment}
    (hruns : Program.Runs (reader.getPayrollContractSegments companyId filters request) trace
      (.ok page)) :
    ∃ rows versions items,
      Program.Runs (reader.stableRows "hr.version" companyId
        (reader.contractDomain companyId filters) "employee_id asc, date_version asc, id asc"
        (payrollSourceCap "hr.version")) trace (.ok rows) ∧
      rows.mapM EmployeeVersion.ofRow = .ok versions ∧
      reader.page (·.id) (·.writeDate) items companyId request "hr.version"
        (reader.contractDomain companyId filters) "employee_id asc, date_version asc, id asc"
        (contractBinding filters) = .ok page ∧
      (∀ all, ReadUpTo filters.period.finish filters.employeeIds all versions →
        SegmentsByDay filters.period filters.employeeIds rows all items) ∧
      versions.Pairwise fun first second => first.employee = second.employee →
        first.dateVersion ≠ second.dateVersion := by
  unfold getPayrollContractSegments at hruns
  rw [hversion] at hruns
  obtain ⟨rows, first, rest, rfl, hrows, hruns⟩ := Program.runs_bind_ok.mp hruns
  obtain ⟨_, -, hruns⟩ := Program.runs_ofExcept_bind_ok.mp hruns
  obtain ⟨segments, hsegments, hruns⟩ := Program.runs_ofExcept_bind_ok.mp hruns
  obtain ⟨⟨⟩, hchecked, hruns⟩ := Program.runs_ofExcept_bind_ok.mp hruns
  obtain ⟨rfl, hpage⟩ := Program.runs_ofExcept.mp hruns
  obtain ⟨employees, hgrouped⟩ := exists_groupedRows hsegments
  obtain ⟨versions, hversions⟩ := exists_versions fun row hrow => hgrouped.exists_version hrow
  have hmem {segment : PayrollContractSegment} :
      segment ∈ segments.insertionSort (segmentBefore · ·) ↔ segment ∈ segments :=
    List.mem_insertionSort _
  obtain ⟨hselected, -, hfollows⟩ := follows_of_checkSegments hchecked
  refine ⟨rows, versions, segments.insertionSort (segmentBefore · ·), ?_, hversions, hpage.symm,
    fun all hread => ?_, hgrouped.distinct_versions hversions⟩
  · rw [List.append_nil]
    exact hrows
  have hholds {employee : Int} (hemployee : employee ∈ filters.employeeIds) {day : Date}
      (hday : day.ordinal ≤ filters.period.finish.ordinal) {version : EmployeeVersion} :=
    @holdsOn_of_readUpTo filters.period.finish day filters.employeeIds all versions hread employee
      hemployee hday version
  refine ⟨fun employee hemployee day hday => ⟨?_, ?_⟩, fun item hitem day hcontains => ?_,
    fun item hitem => ?_, hfollows, pairwise_segmentBefore segments⟩
  · rintro ⟨item, hitem, rfl, hcontains⟩
    obtain ⟨version, hversion, hcontract, -⟩ :=
      hgrouped.ofVersion hversions (hmem.mp hitem) hcontains
    exact ⟨version, (hholds hemployee hday.2).mpr hversion, hcontract⟩
  · rintro ⟨version, hversion, hcontract⟩
    obtain ⟨segment, hsegment, hsame, hcontains⟩ :=
      hgrouped.contains hversions hday ((hholds hemployee hday.2).mp hversion) hcontract
    exact ⟨segment, hmem.mpr hsegment, hsame, hcontains⟩
  · obtain ⟨version, hversion, -, hof⟩ := hgrouped.ofVersion hversions (hmem.mp hitem) hcontains
    have hend := (hgrouped.kept (hmem.mp hitem)).2
    have hday : day.ordinal ≤ filters.period.finish.ordinal := by
      have hlast := hcontains.2
      omega
    exact ⟨version, (hholds (hselected item hitem).2.1 hday).mpr hversion, hof⟩
  · obtain ⟨hstart, hend⟩ := hgrouped.kept (hmem.mp hitem)
    obtain ⟨-, hemployee, hnonempty⟩ := hselected item hitem
    exact ⟨hemployee, hstart, hnonempty, hend⟩

/-- A version of employee 5 from this date on, with a contract from the same day. -/
def versionRow (id : Int) (date : String) : OdooRow where
  id := id
  values
    | "id" => .int id
    | "employee_id" => .list [.int 5, .str "Ada"]
    | "company_id" => .list [.int 1, .str "Company"]
    | "active" => .bool true
    | "date_version" => .str date
    | "contract_date_start" => .str date
    | "wage" => .int 1000
    | "currency_id" => .list [.int 2, .str "EUR"]
    | "write_date" => .str "2021-07-26 00:00:00"
    | _ => .bool false
  writeDate := ⟨737996 * DateTime.dayLength, none⟩
  id_value := rfl
  write_date_value := show Field.datetime (.str "2021-07-26 00:00:00") = _ by decide +kernel

theorem id_versionRow (id : Int) (date : String) : (versionRow id date).id = id := rfl

def versionDatabase : OdooDatabase Nat where
  table _ :=
    { tableAt := fun _ => [versionRow 7 "2021-01-01", versionRow 8 "2021-01-20"]
      changed := by simp [id_versionRow]
      present := by simp [id_versionRow] }
  selects _ _ _ _ := true

def january : PayrollPeriod := ⟨⟨737791⟩, ⟨737821⟩, by decide, by decide⟩

def januaryFilters : PayrollContractFilters :=
  ⟨[5], january⟩

def januaryRead : Odoo (PayrollPage PayrollContractSegment) :=
  employeeReader.getPayrollContractSegments 1 januaryFilters
    (PayrollPageRequest.ofLimit 50 (by decide) (by decide))

theorem contract_segments_by_day_january : ∃ trace page rows versions items,
    Program.Runs januaryRead trace (.ok page) ∧
      page.items.map (fun segment => (segment.id, segment.effectiveStart, segment.effectiveEnd)) =
        [(7, ⟨737791⟩, ⟨737808⟩), (8, ⟨737809⟩, ⟨737821⟩)] ∧
      rows.mapM EmployeeVersion.ofRow = .ok versions ∧
      SegmentsByDay january [5] rows versions items := by
  have hitems : ((januaryRead.runWith (answerAt versionDatabase 0) ()).1.toOption.map fun page =>
      page.items.map fun segment => (segment.id, segment.effectiveStart, segment.effectiveEnd)) =
        some [(7, ⟨737791⟩, ⟨737808⟩), (8, ⟨737809⟩, ⟨737821⟩)] := by
    decide +kernel
  have hruns : Program.Runs januaryRead (januaryRead.traceWith (answerAt versionDatabase 0) ())
      (januaryRead.runWith (answerAt versionDatabase 0) ()).1 := januaryRead.runs_traceWith ()
  cases hresult : (januaryRead.runWith (answerAt versionDatabase 0) ()).1 with
  | error error =>
      rw [hresult] at hitems
      cases hitems
  | ok page =>
      rw [hresult] at hitems hruns
      obtain ⟨rows, versions, items, -, hversions, -, hdays, -⟩ :=
        employeeReader.contract_segments_by_day rfl hruns
      exact ⟨_, page, rows, versions, items, hruns, Option.some.inj hitems, hversions,
        hdays versions fun _ _ _ => Iff.rfl⟩

end PayrollReader

end OdooMcp
