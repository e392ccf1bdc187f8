import OdooMcp.Workflows.AgedBalance

/-!
# Residuals as of a day

If what is open of a line today is its balance with all reconciliations counted, then undoing those
after a day leaves the balance with those up to the day counted. The aged balance distributes these
residuals over buckets and partners.
-/

namespace OdooMcp

namespace Residuals

variable {α : Type}

theorem adjust_apply (identifier other : Int) (change : α → α) (residuals : Residuals α) :
    adjust identifier change residuals other =
      if identifier = other then (residuals other).map change else residuals other := by
  unfold adjust
  by_cases hid : identifier = other
  · rw [if_pos hid, hid, Function.update_self]
  · rw [if_neg hid, Function.update_of_ne (Ne.symm hid)]

/-- Lines with distinct ids keep what the dictionary was made from. -/
theorem ofLines_apply {of : AccountMoveLine → α} {lines : List AccountMoveLine}
    (hids : (lines.map (·.id)).Nodup) {line : AccountMoveLine} (hline : line ∈ lines) :
    ofLines of lines line.id = some (of line) := by
  have hkept (rest : List AccountMoveLine) (hother : line.id ∉ rest.map (·.id))
      (residuals : Residuals α) :
      rest.foldl (enter of) residuals line.id = residuals line.id := by
    induction rest generalizing residuals with
    | nil => rfl
    | cons first rest ih =>
        rw [List.map_cons, List.mem_cons, not_or] at hother
        rw [List.foldl_cons, ih hother.2, enter, Function.update_of_ne hother.1]
  have hfold (residuals : Residuals α) : lines.foldl (enter of) residuals line.id =
      some (of line) := by
    induction lines generalizing residuals with
    | nil => cases hline
    | cons first lines ih =>
        rw [List.map_cons, List.nodup_cons] at hids
        rw [List.foldl_cons]
        rcases List.mem_cons.mp hline with rfl | hlater
        · rw [hkept lines hids.1, enter, Function.update_self]
        · exact ih hids.2 hlater _
  exact hfold _

section Groups

variable [AddCommGroup α]

def sideOf (side : PartialReconciliation → RelatedRecord) (amount : PartialReconciliation → α)
    (reconciliations : List PartialReconciliation) (identifier : Int) : α :=
  ((reconciliations.filter fun reconciliation => (side reconciliation).id = identifier).map
    amount).sum

/-- What is open of a line that starts with an amount, with some reconciliations counted. -/
def openOf (start : AccountMoveLine → α) (debited credited : PartialReconciliation → α)
    (reconciliations : List PartialReconciliation) (line : AccountMoveLine) : α :=
  start line - sideOf (·.debitMoveLine) debited reconciliations line.id +
    sideOf (·.creditMoveLine) credited reconciliations line.id

variable {side : PartialReconciliation → RelatedRecord}
  {debited credited : PartialReconciliation → α} {start : AccountMoveLine → α}

theorem sideOf_cons (amount : PartialReconciliation → α) (reconciliation : PartialReconciliation)
    (rest : List PartialReconciliation) (identifier : Int) :
    sideOf side amount (reconciliation :: rest) identifier =
      (if (side reconciliation).id = identifier then amount reconciliation else 0) +
        sideOf side amount rest identifier := by
  unfold sideOf
  rw [List.filter_cons]
  split
  · rename_i hside
    rw [List.map_cons, List.sum_cons, if_pos (of_decide_eq_true hside)]
  · rename_i hside
    rw [if_neg fun heq => hside (decide_eq_true heq), zero_add]

theorem sideOf_split (amount : PartialReconciliation → α) (selects : PartialReconciliation → Bool)
    (reconciliations : List PartialReconciliation) (identifier : Int) :
    sideOf side amount reconciliations identifier =
      sideOf side amount (reconciliations.filter selects) identifier +
        sideOf side amount (reconciliations.filter fun item => !selects item) identifier := by
  induction reconciliations with
  | nil => exact (add_zero 0).symm
  | cons reconciliation rest ih =>
      rw [sideOf_cons, ih, List.filter_cons, List.filter_cons]
      cases selects reconciliation with
      | true =>
          simp only [if_true, Bool.not_true, Bool.false_eq_true, if_false, sideOf_cons]
          abel
      | false =>
          simp only [if_true, Bool.not_false, Bool.false_eq_true, if_false, sideOf_cons]
          abel

/-- Undoing adds what was reconciled on the debit side and takes what was on the credit side. -/
theorem undoAll_apply (reconciliations : List PartialReconciliation) (residuals : Residuals α)
    (identifier : Int) :
    undoAll (fun reconciliation amount => amount + debited reconciliation)
        (fun reconciliation amount => amount - credited reconciliation) reconciliations residuals
        identifier =
      (residuals identifier).map fun amount =>
        amount + sideOf (·.debitMoveLine) debited reconciliations identifier -
          sideOf (·.creditMoveLine) credited reconciliations identifier := by
  induction reconciliations generalizing residuals with
  | nil =>
      cases hfound : residuals identifier with
      | none => simp [undoAll, hfound]
      | some amount => simp [undoAll, hfound, sideOf]
  | cons reconciliation rest ih =>
      have hrest := ih (undo (fun reconciliation amount => amount + debited reconciliation)
        (fun reconciliation amount => amount - credited reconciliation) residuals reconciliation)
      refine hrest.trans ?_
      unfold undo
      rw [adjust_apply, adjust_apply]
      simp only [sideOf_cons]
      cases residuals identifier with
      | none => split <;> split <;> rfl
      | some amount =>
          split <;> split <;> simp only [Option.map_some, Option.some.injEq] <;> abel

/-- Undoing the reconciliations after a day leaves those up to the day. -/
theorem undone_eq_openOf {reconciliations : List PartialReconciliation}
    (selects : PartialReconciliation → Bool) (current : AccountMoveLine → α)
    {lines : List AccountMoveLine} (hids : (lines.map (·.id)).Nodup)
    {line : AccountMoveLine} (hline : line ∈ lines)
    (hcurrent : current line = openOf start debited credited reconciliations line) :
    undoAll (fun reconciliation amount => amount + debited reconciliation)
        (fun reconciliation amount => amount - credited reconciliation)
        (reconciliations.filter selects) (ofLines current lines) line.id =
      some (openOf start debited credited
        (reconciliations.filter fun reconciliation => !selects reconciliation) line) := by
  rw [undoAll_apply, ofLines_apply hids hline, Option.map_some, hcurrent]
  unfold openOf
  rw [sideOf_split debited selects reconciliations, sideOf_split credited selects reconciliations]
  congr 1
  abel

end Groups

end Residuals

namespace Reports

open Arithmetic Effect

/-! ### Lines in buckets -/

def AgingBucket.Holds (overdueDays : Int) : AgingBucket → Prop
  | .notYetDue => overdueDays ≤ 0
  | .days1To30 => 1 ≤ overdueDays ∧ overdueDays ≤ 30
  | .days31To60 => 31 ≤ overdueDays ∧ overdueDays ≤ 60
  | .days61To90 => 61 ≤ overdueDays ∧ overdueDays ≤ 90
  | .days90Plus => 91 ≤ overdueDays

instance (overdueDays : Int) : DecidablePred (AgingBucket.Holds overdueDays)
  | .notYetDue => inferInstanceAs (Decidable (overdueDays ≤ 0))
  | .days1To30 => inferInstanceAs (Decidable (1 ≤ overdueDays ∧ overdueDays ≤ 30))
  | .days31To60 => inferInstanceAs (Decidable (31 ≤ overdueDays ∧ overdueDays ≤ 60))
  | .days61To90 => inferInstanceAs (Decidable (61 ≤ overdueDays ∧ overdueDays ≤ 90))
  | .days90Plus => inferInstanceAs (Decidable (91 ≤ overdueDays))

theorem bucketOf_eq_iff {dueDate asOfDate : Date} {bucket : AgingBucket} :
    bucketOf dueDate asOfDate = bucket ↔ bucket.Holds (asOfDate.ordinal - dueDate.ordinal) := by
  unfold bucketOf
  simp only
  generalize (asOfDate.ordinal : Int) - dueDate.ordinal = days
  cases bucket <;> unfold AgingBucket.Holds <;> split_ifs <;> simp <;> omega

/-- A due date is in one bucket. -/
theorem existsUnique_bucket (dueDate asOfDate : Date) :
    ∃! bucket : AgingBucket, bucket.Holds (asOfDate.ordinal - dueDate.ordinal) :=
  ⟨bucketOf dueDate asOfDate, bucketOf_eq_iff.mp rfl,
    fun _ hholds => (bucketOf_eq_iff.mpr hholds).symm⟩

theorem addAgingLine_ok {asOfDate : Date} {residuals : Residuals ℚ}
    {grouped next : Tally Int (AgingAccumulator ℚ)} {line : AccountMoveLine} {residual : ℚ}
    (hresidual : residuals line.id = some residual)
    (hadd : addAgingLine asOfDate residuals grouped line = .ok next) :
    (residual = 0 ∧ next = grouped) ∨
      (residual ≠ 0 ∧ ∃ partner, line.partner = some partner ∧
        next = grouped.change partner.id
          ⟨partner.name, zero, emptyBuckets, some (dueDateOf line)⟩
          (AgingAccumulator.addLine asOfDate line residual)) := by
  unfold addAgingLine at hadd
  obtain ⟨found, hfound, hrest⟩ := except_bind_ok.mp hadd
  rw [hresidual] at hfound
  cases hfound
  split at hrest
  · rename_i hsame
    cases hrest
    exact .inl ⟨(of_decide_eq_true hsame).trans (total_exact []), rfl⟩
  · rename_i hdiffer
    obtain ⟨partner, hpartner, hrest⟩ := except_bind_ok.mp hrest
    obtain ⟨_, -, hdone⟩ := except_bind_ok.mp hrest
    cases hdone
    refine .inr ⟨fun hzero => hdiffer (decide_eq_true ?_), partner, orRaise_ok.mp hpartner, rfl⟩
    exact hzero.trans (total_exact []).symm

def countsFor (residual : AccountMoveLine → ℚ) (partnerId : Int) (line : AccountMoveLine) : Bool :=
  residual line ≠ 0 && line.partner.any fun partner => partner.id = partnerId

/-- What a line adds to the accumulator of its partner, if something is open of it. -/
def addedBy (residual : AccountMoveLine → ℚ) (gain : Int → AccountMoveLine → ℚ)
    (line : AccountMoveLine) : ℚ :=
  if residual line = 0 then 0 else line.partner.elim 0 fun partner => gain partner.id line

/-- What the accumulators weigh after the lines, for a weight to which a line adds a gain. -/
theorem weigh_agingLines {asOfDate : Date} {residuals : Residuals ℚ}
    {residual : AccountMoveLine → ℚ} {lines : List AccountMoveLine}
    (weight : Int → AgingAccumulator ℚ → ℚ) (gain : Int → AccountMoveLine → ℚ)
    (hinitial : ∀ partnerId name dueDate, weight partnerId ⟨name, zero, emptyBuckets, dueDate⟩ = 0)
    (hadds : ∀ partnerId line accumulator,
      weight partnerId (AgingAccumulator.addLine asOfDate line (residual line) accumulator) =
        weight partnerId accumulator + gain partnerId line)
    (hresiduals : ∀ line ∈ lines, residuals line.id = some (residual line))
    {grouped last : Tally Int (AgingAccumulator ℚ)}
    (hlast : lines.foldlM (addAgingLine asOfDate residuals) grouped = .ok last) :
    Tally.weigh weight last =
      Tally.weigh weight grouped + (lines.map (addedBy residual gain)).sum := by
  induction lines generalizing grouped with
  | nil =>
      cases hlast
      exact (add_zero _).symm
  | cons line lines ih =>
      rw [List.forall_mem_cons] at hresiduals
      rw [List.foldlM_cons] at hlast
      obtain ⟨next, hnext, hrest⟩ := except_bind_ok.mp hlast
      rw [ih hresiduals.2 hrest, List.map_cons, List.sum_cons, ← add_assoc]
      congr 1
      unfold addedBy
      rcases addAgingLine_ok hresiduals.1 hnext with ⟨hzero, rfl⟩ | ⟨hopen, partner, hpartner, rfl⟩
      · rw [if_pos hzero, add_zero]
      · rw [if_neg hopen, hpartner]
        exact Tally.weigh_change (hinitial partner.id _ _) (hadds partner.id line) grouped

/-- The keys are the partners that some line counts for, and each such line has a partner. -/
theorem keys_agingLines {asOfDate : Date} {residuals : Residuals ℚ}
    {residual : AccountMoveLine → ℚ} {lines : List AccountMoveLine}
    (hresiduals : ∀ line ∈ lines, residuals line.id = some (residual line))
    {grouped last : Tally Int (AgingAccumulator ℚ)}
    (hlast : lines.foldlM (addAgingLine asOfDate residuals) grouped = .ok last)
    (hnodup : (grouped.map Prod.fst).Nodup) :
    (last.map Prod.fst).Nodup ∧
      (∀ partnerId, partnerId ∈ last.map Prod.fst ↔
        partnerId ∈ grouped.map Prod.fst ∨ ∃ line ∈ lines, countsFor residual partnerId line) ∧
      ∀ line ∈ lines, residual line ≠ 0 → line.partner.isSome := by
  induction lines generalizing grouped with
  | nil =>
      cases hlast
      exact ⟨hnodup, by simp, by simp⟩
  | cons line lines ih =>
      rw [List.forall_mem_cons] at hresiduals
      rw [List.foldlM_cons] at hlast
      obtain ⟨next, hnext, hrest⟩ := except_bind_ok.mp hlast
      rcases addAgingLine_ok hresiduals.1 hnext with ⟨hzero, rfl⟩ | ⟨hopen, partner, hpartner, rfl⟩
      · obtain ⟨hkeys, hmem, hsome⟩ := ih hresiduals.2 hrest hnodup
        refine ⟨hkeys, fun partnerId => ?_, List.forall_mem_cons.mpr ⟨absurd hzero, hsome⟩⟩
        have hskips : ¬countsFor residual partnerId line = true := by simp [countsFor, hzero]
        rw [hmem, List.exists_mem_cons_iff]
        exact or_congr_right ⟨.inr, fun heither => heither.resolve_left hskips⟩
      · obtain ⟨hkeys, hmem, hsome⟩ := ih hresiduals.2 hrest (Tally.nodup_change hnodup)
        refine ⟨hkeys, fun partnerId => ?_,
          List.forall_mem_cons.mpr ⟨fun _ => hpartner ▸ rfl, hsome⟩⟩
        have hcounts : countsFor residual partnerId line = true ↔ partnerId = partner.id := by
          simp [countsFor, hopen, hpartner, eq_comm]
        rw [hmem, Tally.mem_keys_change, List.exists_mem_cons_iff, hcounts, or_assoc]

/-! ### The report -/

/-- The bucket of a line, and no other, gains its residual. -/
theorem sum_addLine_buckets (asOfDate : Date) (line : AccountMoveLine) (residual : ℚ)
    (accumulator : AgingAccumulator ℚ) :
    (AgingBucket.all.map
        (AgingAccumulator.addLine asOfDate line residual accumulator).buckets).sum =
      (AgingBucket.all.map accumulator.buckets).sum + residual := by
  unfold AgingAccumulator.addLine
  simp only [AgingBucket.all, List.map_cons, List.map_nil, List.sum_cons, List.sum_nil]
  cases bucketOf (dueDateOf line) asOfDate <;>
    simp only [Function.update_self, ne_eq, reduceCtorEq, not_false_eq_true, Function.update_of_ne,
      Arithmetic.add] <;> ring

theorem addLine_bucket {asOfDate : Date} (line : AccountMoveLine) (residual : ℚ)
    (accumulator : AgingAccumulator ℚ) (bucket : AgingBucket) :
    (AgingAccumulator.addLine asOfDate line residual accumulator).buckets bucket =
      accumulator.buckets bucket +
        if bucketOf (dueDateOf line) asOfDate = bucket then residual else 0 := by
  unfold AgingAccumulator.addLine
  by_cases hbucket : bucketOf (dueDateOf line) asOfDate = bucket
  · simp only [hbucket, Function.update_self, if_true]
    rfl
  · simp only [Function.update_of_ne (Ne.symm hbucket), if_neg hbucket, add_zero]

/-- A line is open, is the partner's, and is as many days overdue as the bucket says. -/
def agesIn (residual : AccountMoveLine → ℚ) (asOfDate : Date) (partnerId : Int)
    (bucket : AgingBucket) (line : AccountMoveLine) : Bool :=
  countsFor residual partnerId line && bucket.Holds (asOfDate.ordinal - (dueDateOf line).ordinal)

/-- An aged balance distributes the residuals of its lines over partners and buckets. -/
structure Ages (residual : AccountMoveLine → ℚ) (asOfDate : Date) (lines : List AccountMoveLine)
    (report : WholeReport (AgingItem ℚ) (AgingSummary ℚ)) : Prop where
  partners_nodup : (report.items.map (·.partnerId)).Nodup
  assigned : ∀ line ∈ lines, residual line ≠ 0 → line.partner.isSome
  listed : ∀ partnerId, partnerId ∈ report.items.map (·.partnerId) ↔
    ∃ line ∈ lines, countsFor residual partnerId line
  bucket : ∀ item ∈ report.items, ∀ bucket, item.buckets bucket =
    ((lines.filter (agesIn residual asOfDate item.partnerId bucket)).map residual).sum
  partner_total : ∀ item ∈ report.items,
    item.residualTotal = (AgingBucket.all.map item.buckets).sum
  summary_total : report.summary.residualTotal = (report.items.map (·.residualTotal)).sum
  summary_bucket : ∀ bucket,
    report.summary.buckets bucket = (report.items.map (·.buckets bucket)).sum

/-- What the lines make of the accumulator of a partner. -/
theorem measure_agingLines {asOfDate : Date} {residuals : Residuals ℚ}
    {residual : AccountMoveLine → ℚ} {lines : List AccountMoveLine}
    (measure : AgingAccumulator ℚ → ℚ) (gain : AccountMoveLine → ℚ)
    (hinitial : ∀ name dueDate, measure ⟨name, zero, emptyBuckets, dueDate⟩ = 0)
    (hadds : ∀ line accumulator,
      measure (AgingAccumulator.addLine asOfDate line (residual line) accumulator) =
        measure accumulator + gain line)
    (hresiduals : ∀ line ∈ lines, residuals line.id = some (residual line))
    {last : Tally Int (AgingAccumulator ℚ)}
    (hlast : lines.foldlM (addAgingLine asOfDate residuals) [] = .ok last)
    {entry : Int × AgingAccumulator ℚ} (hentry : entry ∈ last) :
    measure entry.2 = ((lines.filter (countsFor residual entry.1)).map gain).sum := by
  have hnodup := (keys_agingLines hresiduals hlast List.nodup_nil).1
  have hweigh := weigh_agingLines (fun key value => if key = entry.1 then measure value else 0)
    (fun key line => if key = entry.1 then gain line else 0)
    (fun _ name dueDate => by rw [hinitial, ite_self])
    (fun key line accumulator => by
      by_cases hkey : key = entry.1
      · rw [if_pos hkey, if_pos hkey, if_pos hkey, hadds]
      · rw [if_neg hkey, if_neg hkey, if_neg hkey, add_zero])
    hresiduals hlast
  have hadded : (lines.map (addedBy residual fun key line =>
      if key = entry.1 then gain line else 0)) =
        lines.map fun line => if countsFor residual entry.1 line then gain line else 0 := by
    refine List.map_congr_left fun line _ => ?_
    unfold addedBy countsFor
    cases line.partner with
    | none => simp
    | some partner =>
        by_cases hzero : residual line = 0
        · simp [hzero]
        · simp [hzero]
  rw [Tally.weigh_of_mem hnodup hentry measure, hadded, Tally.sum_selected] at hweigh
  exact hweigh.trans (zero_add _)

theorem agedBalanceOf_ages {casefold : String → String} {asOfDate : Date}
    {lines : List AccountMoveLine} {later : List PartialReconciliation}
    {residual : AccountMoveLine → ℚ} {report : WholeReport (AgingItem ℚ) (AgingSummary ℚ)}
    (hresiduals : ∀ line ∈ lines, agingResiduals lines later line.id = some (residual line))
    (hreport : agedBalanceOf casefold asOfDate lines later = .ok report) :
    Ages residual asOfDate lines report := by
  unfold agedBalanceOf at hreport
  obtain ⟨grouped, hgrouped, hrest⟩ := except_bind_ok.mp hreport
  obtain ⟨found, hfound, hdone⟩ := except_bind_ok.mp hrest
  cases hdone
  obtain ⟨hnodup, hkeys, hassigned⟩ := keys_agingLines hresiduals hgrouped List.nodup_nil
  have hzero : (zero : ℚ) = 0 := total_exact []
  have hforall : List.Forall₂ (fun entry item => item.partnerId = entry.1 ∧
      item.residualTotal = entry.2.total ∧ item.buckets = entry.2.buckets) grouped found := by
    refine (forall₂_of_mapM_ok hfound).imp fun entry item hitem => ?_
    obtain ⟨oldest, -, hdone⟩ := except_bind_ok.mp hitem
    cases hdone
    exact ⟨rfl, rfl, rfl⟩
  have hperm : (sortedAgingItems casefold found).Perm found := List.perm_insertionSort _ _
  have hids : found.map (·.partnerId) = grouped.map Prod.fst :=
    map_of_forall₂ hforall fun _ _ hsame => hsame.1
  have hentry : ∀ item ∈ sortedAgingItems casefold found, ∃ entry ∈ grouped,
      item.partnerId = entry.1 ∧ item.residualTotal = entry.2.total ∧
        item.buckets = entry.2.buckets := fun item hitem =>
    exists_of_forall₂_right hforall (hperm.mem_iff.mp hitem)
  refine
    { partners_nodup := (hperm.map _).nodup_iff.mpr (hids ▸ hnodup)
      assigned := hassigned
      listed := fun partnerId => ?_
      bucket := fun item hitem bucket => ?_
      partner_total := fun item hitem => ?_
      summary_total := total_exact _
      summary_bucket := fun bucket => total_exact _ }
  · rw [(hperm.map (·.partnerId)).mem_iff, hids, hkeys]
    simp
  · obtain ⟨entry, hmem, hid, -, hbuckets⟩ := hentry item hitem
    have hgained := measure_agingLines (fun accumulator => accumulator.buckets bucket)
      (fun line => if bucketOf (dueDateOf line) asOfDate = bucket then residual line else 0)
      (fun _ _ => hzero) (fun line accumulator => addLine_bucket line _ accumulator bucket)
      hresiduals hgrouped hmem
    have hselected := Tally.sum_selected (fun line => bucketOf (dueDateOf line) asOfDate = bucket)
      residual (lines.filter (countsFor residual entry.1))
    simp only [decide_eq_true_eq] at hselected
    have haged : ((lines.filter (countsFor residual entry.1)).filter fun line =>
        bucketOf (dueDateOf line) asOfDate = bucket) =
          lines.filter (agesIn residual asOfDate entry.1 bucket) := by
      rw [List.filter_filter]
      refine List.filter_congr fun line _ => ?_
      simp only [agesIn, bucketOf_eq_iff, Bool.and_comm]
    rw [hbuckets, hgained, hselected, haged, hid]
  · obtain ⟨entry, hmem, -, htotal, hbuckets⟩ := hentry item hitem
    have hdifference := measure_agingLines
      (fun accumulator => accumulator.total - (AgingBucket.all.map accumulator.buckets).sum)
      (fun _ => 0) (fun _ _ => by simp [emptyBuckets, AgingBucket.all, hzero])
      (fun line accumulator => by
        rw [sum_addLine_buckets]
        exact (add_sub_add_right_eq_sub _ _ _).trans (add_zero _).symm)
      hresiduals hgrouped hmem
    rw [List.map_const', List.sum_replicate, nsmul_zero] at hdifference
    rw [htotal, hbuckets]
    exact sub_eq_zero.mp hdifference

end Reports

end OdooMcp
