import OdooMcp.Workflows.BankDecisions

/-!
# The reconciliation proposal

What the rules of the matching say of a statement, in terms of its eligible candidates, and that the
proposal follows them: no move line is matched twice, a match is the one best candidate, and each
statement that is not matched is listed with the reason.
-/

namespace OdooMcp

namespace ReconcileBank

open Arithmetic

variable {N : Type} [Arithmetic N] [LawfulArithmetic N]

/-! ### The rules -/

/-- A listed line in the bucket of the statement's opposite amount that the candidate check lets
through. -/
def Eligible (matching : Matching) (candidates : List AccountMoveLine)
    (statement : BankStatementLine) (found : Candidate N) : Prop :=
  ∃ companyCurrency journal currency, ∃ key : N,
    matching.currencies matching.companyCurrency.id = some companyCurrency ∧
    statementJournal matching statement = .ok journal ∧
    effectiveCurrency matching companyCurrency journal = .ok currency ∧
    roundCurrencyAmount (neg (ofDecimal statement.amount)) currency = .ok key ∧
    found.line ∈ candidates ∧ inBucket matching companyCurrency journal key found.line = true ∧
    candidate matching statement journal currency found.line = .ok (some found)

/-- The eligible candidate that scores more than every other. -/
structure Best (matching : Matching) (candidates : List AccountMoveLine)
    (statement : BankStatementLine) (found : Candidate N) : Prop where
  eligible : Eligible matching candidates statement found
  highest : ∀ other : Candidate N, Eligible matching candidates statement other →
    other.line.id ≠ found.line.id →
      LawfulArithmetic.value other.score < LawfulArithmetic.value found.score

/-- What the statement is matched with unless another statement takes the line too. -/
structure Chooses (matching : Matching) (candidates : List AccountMoveLine) (threshold : N)
    (statement : BankStatementLine) (found : Candidate N) : Prop where
  best : Best matching candidates statement found
  confident : LawfulArithmetic.value threshold ≤ LawfulArithmetic.value found.score

/-- Another statement takes the line. -/
def Contended (matching : Matching) (selected : List BankStatementLine)
    (candidates : List AccountMoveLine) (threshold : N) (statement : BankStatementLine)
    (id : Int) : Prop :=
  ∃ other ∈ selected, other.id ≠ statement.id ∧
    ∃ found, Chooses matching candidates threshold other found ∧ found.line.id = id

def Justified (matching : Matching) (selected : List BankStatementLine)
    (candidates : List AccountMoveLine) (threshold : N) (statement : BankStatementLine) :
    UnmatchedReason → Prop
  | .noEligibleCandidate => ∀ found : Candidate N, ¬ Eligible matching candidates statement found
  | .ambiguousBestMatch => ∃ first second : Candidate N,
      Eligible matching candidates statement first ∧
      Eligible matching candidates statement second ∧ first.line.id ≠ second.line.id ∧
      LawfulArithmetic.value first.score = LawfulArithmetic.value second.score ∧
      ∀ other : Candidate N, Eligible matching candidates statement other →
        LawfulArithmetic.value other.score ≤ LawfulArithmetic.value first.score
  | .belowConfidenceThreshold => ∃ found : Candidate N,
      Best matching candidates statement found ∧
      LawfulArithmetic.value found.score < LawfulArithmetic.value threshold
  | .candidateConflict => ∃ found, Chooses matching candidates threshold statement found ∧
      Contended matching selected candidates threshold statement found.line.id

/-- The line has the currency of the statement's journal and the opposite amount, is open and is no
line of the statement's own move. -/
structure Fits (matching : Matching) (statement : BankStatementLine) (journal : Journal)
    (currency : Currency) (line : AccountMoveLine) : Prop where
  sameCurrency : ∃ own, line.currency = some own ∧
    own.id = (journal.currency.getD matching.companyCurrency).id
  opposite : ∃ stated opposite : N,
    roundCurrencyAmount (ofDecimal statement.amount) currency = .ok stated ∧
    roundCurrencyAmount (neg (ofDecimal (candidateAmount journal line))) currency = .ok opposite ∧
    LawfulArithmetic.value stated = LawfulArithmetic.value opposite
  unreconciled : line.reconciled = false
  otherMove : ∀ move ∈ statement.move, move.id ≠ line.move.id

variable {matching : Matching} {candidates : List AccountMoveLine} {threshold : N}
  {selected : List BankStatementLine} {statement : BankStatementLine}

theorem Eligible.fits {found : Candidate N}
    (heligible : Eligible matching candidates statement found) :
    ∃ companyCurrency journal currency,
      matching.currencies matching.companyCurrency.id = some companyCurrency ∧
      statementJournal matching statement = .ok journal ∧
      effectiveCurrency matching companyCurrency journal = .ok currency ∧
      Fits (N := N) matching statement journal currency found.line := by
  obtain ⟨companyCurrency, journal, currency, _, hcompany, hjournal, hcurrency, -, -, -, hfound⟩ :=
    heligible
  obtain ⟨-, hown, ⟨stated, opposite, hstated, hopposite, hsame⟩, hopen, hmove, -⟩ :=
    candidate_some hfound
  exact ⟨companyCurrency, journal, currency, hcompany, hjournal, hcurrency, hown,
    ⟨stated, opposite, hstated, hopposite, (LawfulArithmetic.same_iff _ _).mp hsame⟩, hopen, hmove⟩

omit [LawfulArithmetic N] in
/-- The line of a candidate determines it. -/
theorem Eligible.eq_of_id (hids : (candidates.map (·.id)).Nodup) {first second : Candidate N}
    (hfirst : Eligible matching candidates statement first)
    (hsecond : Eligible matching candidates statement second)
    (hid : first.line.id = second.line.id) : first = second := by
  obtain ⟨company, journal, currency, _, hcompany, hjournal, hcurrency, -, hline, -, hcandidate⟩ :=
    hfirst
  obtain ⟨_, _, _, _, hcompany', hjournal', hcurrency', -, hline', -, hcandidate'⟩ := hsecond
  cases hcompany.symm.trans hcompany'
  cases hjournal.symm.trans hjournal'
  cases hcurrency.symm.trans hcurrency'
  rw [List.inj_on_of_nodup_map hids hline hline' hid, hcandidate'] at hcandidate
  cases hcandidate
  rfl

theorem Best.unique (hids : (candidates.map (·.id)).Nodup) {first second : Candidate N}
    (hfirst : Best matching candidates statement first)
    (hsecond : Best matching candidates statement second) : first = second := by
  refine Eligible.eq_of_id hids hfirst.eligible hsecond.eligible ?_
  by_contra hdiffer
  have hless := hsecond.highest first hfirst.eligible hdiffer
  have hmore := hfirst.highest second hsecond.eligible (Ne.symm hdiffer)
  exact lt_irrefl _ (hless.trans hmore)

/-! ### A statement alone -/

omit [LawfulArithmetic N] in
theorem eligible_iff {companyCurrency : Currency} {scored : List (Candidate N)}
    (hcompany : matching.currencies matching.companyCurrency.id = some companyCurrency)
    (hoffers : offers matching companyCurrency candidates statement = .ok scored)
    {found : Candidate N} :
    Eligible matching candidates statement found ↔ found ∈ scored := by
  obtain ⟨journal, currency, key, hjournal, hcurrency, hkey, hscored⟩ := offers_ok.mp hoffers
  rw [mem_scored_iff hscored]
  constructor
  · rintro ⟨_, _, _, _, hcompany', hjournal', hcurrency', hkey', hline, hbucket, hcandidate⟩
    cases hcompany.symm.trans hcompany'
    cases hjournal.symm.trans hjournal'
    cases hcurrency.symm.trans hcurrency'
    cases hkey.symm.trans hkey'
    exact ⟨found.line, List.mem_filter.mpr ⟨hline, hbucket⟩, hcandidate⟩
  · rintro ⟨line, hline, hcandidate⟩
    obtain ⟨hlisted, hbucket⟩ := List.mem_filter.mp hline
    obtain ⟨-, -, -, -, -, components, -, rfl⟩ := candidate_some hcandidate
    exact ⟨companyCurrency, journal, currency, key, hcompany, hjournal, hcurrency, hkey, hlisted,
      hbucket, hcandidate⟩

omit [LawfulArithmetic N] in
theorem scoreComponents_cons {line : AccountMoveLine} {components : List (String × N)}
    (hcomponents : scoreComponents matching statement line = .ok components) :
    ∃ first rest, components = first :: rest := by
  unfold scoreComponents at hcomponents
  simp only at hcomponents
  split at hcomponents
  · obtain ⟨_, -, hdone⟩ := except_bind_ok.mp hcomponents
    cases hdone
    exact ⟨_, _, rfl⟩
  · cases hcomponents
    exact ⟨_, _, rfl⟩

omit [LawfulArithmetic N] in
theorem summed_of_offers {companyCurrency : Currency} {scored : List (Candidate N)}
    (hoffers : offers matching companyCurrency candidates statement = .ok scored)
    {found : Candidate N} (hfound : found ∈ scored) : Summed found := by
  obtain ⟨journal, currency, key, -, -, -, hscored⟩ := offers_ok.mp hoffers
  obtain ⟨line, -, hcandidate⟩ := (mem_scored_iff hscored).mp hfound
  obtain ⟨-, -, -, -, -, components, hcomponents, rfl⟩ := candidate_some hcandidate
  obtain ⟨first, rest, rfl⟩ := scoreComponents_cons hcomponents
  exact Candidate.summed_total line first rest

/-- A statement alone chooses as the rules say, or has a reason not to. -/
theorem provisionalDecision_spec (selected : List BankStatementLine) {companyCurrency : Currency}
    {index : CandidateIndex N}
    {decision : Decision N} (hids : (candidates.map (·.id)).Nodup)
    (hcompany : matching.currencies matching.companyCurrency.id = some companyCurrency)
    (hindex : candidateIndex matching companyCurrency candidates = .ok index)
    (hdecision : provisionalDecision matching companyCurrency index threshold statement =
      .ok decision) :
    decision.statement = statement ∧
      ((∃ found, decision.candidate = some found ∧
          Chooses matching candidates threshold statement found) ∨
        ∃ reason, decision.candidate = none ∧ decision.reason = some reason ∧
          (∀ found, ¬ Chooses matching candidates threshold statement found) ∧
          Justified matching selected candidates threshold statement reason) := by
  rw [provisionalDecision_eq hindex] at hdecision
  obtain ⟨scored, hoffers, hdone⟩ := except_bind_ok.mp hdecision
  have heligible (found : Candidate N) :
      Eligible matching candidates statement found ↔ found ∈ scored :=
    eligible_iff hcompany hoffers
  cases hdone
  rcases decisionOf_cases threshold statement (oneEach_of_offers hids hoffers)
    (fun _ hfound => summed_of_offers hoffers hfound) with
    ⟨hnone, hdecided⟩ | ⟨best, hbest, hhighest, hcases⟩
  · rw [hdecided]
    have hnever (found : Candidate N) : ¬ Eligible matching candidates statement found := by
      rw [heligible, hnone]
      exact List.not_mem_nil
    exact ⟨rfl, .inr ⟨.noEligibleCandidate, rfl, rfl,
      fun found hchooses => hnever found hchooses.best.eligible, hnever⟩⟩
  · rcases hcases with ⟨other, hother, hid, hequal, hdecided⟩ | ⟨hstrict, hcases⟩
    · rw [hdecided]
      refine ⟨rfl, .inr ⟨.ambiguousBestMatch, rfl, rfl, fun found hchooses => ?_, best, other,
        (heligible best).mpr hbest, (heligible other).mpr hother, hid.symm, hequal.symm,
        fun third hthird => hhighest third ((heligible third).mp hthird)⟩⟩
      have hfound := hhighest found ((heligible found).mp hchooses.best.eligible)
      by_cases hsame : best.line.id = found.line.id
      · have hless := hchooses.best.highest other ((heligible other).mpr hother) (hsame ▸ hid)
        linarith
      · have hless := hchooses.best.highest best ((heligible best).mpr hbest) hsame
        linarith
    · have hunique : Best matching candidates statement best :=
        ⟨(heligible best).mpr hbest, fun third hthird =>
          hstrict third ((heligible third).mp hthird)⟩
      rcases hcases with ⟨hbelow, hdecided⟩ | ⟨habove, hdecided⟩
      · rw [hdecided]
        refine ⟨rfl, .inr ⟨.belowConfidenceThreshold, rfl, rfl, fun found hchooses => ?_, best,
          hunique, hbelow⟩⟩
        have hconfident := hchooses.confident
        rw [Best.unique hids hchooses.best hunique] at hconfident
        linarith
      · rw [hdecided]
        exact ⟨rfl, .inl ⟨best, rfl, hunique, habove⟩⟩

/-! ### Statements together -/

/-- A value is found more than once if and only if another item, of another key, has it too. -/
theorem one_lt_count_filterMap {α β κ : Type} [DecidableEq β] {choice : α → Option β} {key : α → κ}
    {items : List α} (hkeys : (items.map key).Nodup) {item : α} (hitem : item ∈ items) {value : β}
    (hvalue : choice item = some value) :
    1 < (items.filterMap choice).count value ↔
      ∃ other ∈ items, key other ≠ key item ∧ choice other = some value := by
  obtain ⟨before, after, rfl⟩ := List.append_of_mem hitem
  rw [List.map_append, List.map_cons, List.nodup_middle, List.nodup_cons,
    ← List.map_append] at hkeys
  have hcount : ((before ++ item :: after).filterMap choice).count value =
      ((before ++ after).filterMap choice).count value + 1 := by
    rw [List.filterMap_append, List.filterMap_cons_some hvalue, List.filterMap_append,
      List.count_append, List.count_cons_self, List.count_append, Nat.add_assoc]
  rw [hcount, Nat.lt_add_left_iff_pos, List.count_pos_iff, List.mem_filterMap]
  constructor
  · rintro ⟨other, hother, hchoice⟩
    refine ⟨other, ?_, fun hkey => ?_, hchoice⟩
    · simp only [List.mem_append, List.mem_cons] at hother ⊢
      tauto
    · exact hkeys.1 (hkey ▸ List.mem_map_of_mem hother)
  · rintro ⟨other, hother, hkey, hchoice⟩
    refine ⟨other, ?_, hchoice⟩
    simp only [List.mem_append, List.mem_cons] at hother ⊢
    rcases hother with hbefore | rfl | hafter
    · exact .inl hbefore
    · exact absurd rfl hkey
    · exact .inr hafter

omit [Arithmetic N] [LawfulArithmetic N] in
theorem chosen_resolveConflict (chosen : List Int) (decision : Decision N) :
    (resolveConflict chosen decision).chosen? =
      decision.chosen?.filter fun id => chosen.count id ≤ 1 := by
  unfold resolveConflict
  cases hchosen : decision.chosen? with
  | none => exact hchosen
  | some id =>
      by_cases hconflict : 1 < chosen.count id
      · simp only [if_pos hconflict]
        rw [Option.filter_some, if_neg (by simpa using hconflict)]
        rfl
      · simp only [if_neg hconflict]
        rw [Option.filter_some, if_pos (by simpa using hconflict), hchosen]

omit [Arithmetic N] [LawfulArithmetic N] in
/-- No line is kept by two statements. -/
theorem nodup_chosen (provisional : List (Decision N)) :
    ((provisional.map (resolveConflict (provisional.filterMap Decision.chosen?))).filterMap
      Decision.chosen?).Nodup := by
  have hkept := List.filter_filterMap (f := Decision.chosen?) (l := provisional)
    (p := fun id => decide ((provisional.filterMap Decision.chosen?).count id ≤ 1))
  rw [List.filterMap_map, Function.comp_def]
  simp only [chosen_resolveConflict]
  rw [← hkept, List.nodup_iff_count_le_one]
  intro id
  by_cases honce : (provisional.filterMap Decision.chosen?).count id ≤ 1
  · exact (List.Sublist.count_le id List.filter_sublist).trans honce
  · refine le_of_eq_of_le (List.count_eq_zero.mpr fun hmem => ?_) (Nat.zero_le 1)
    exact honce (of_decide_eq_true (List.mem_filter.mp hmem).2)

/-- A statement takes a line that another takes too if and only if the line is chosen twice. -/
theorem contended_iff {provisional : List (Decision N)} {decision : Decision N} {id : Int}
    (hids : (candidates.map (·.id)).Nodup) (hstatements : (selected.map (·.id)).Nodup)
    (hselected : provisional.map (·.statement) = selected)
    (hspec : ∀ decision ∈ provisional,
      (∃ found, decision.candidate = some found ∧
        Chooses matching candidates threshold decision.statement found) ∨
      decision.candidate = none ∧
        ∀ found, ¬ Chooses matching candidates threshold decision.statement found)
    (hdecision : decision ∈ provisional) (hchosen : decision.chosen? = some id) :
    1 < (provisional.filterMap Decision.chosen?).count id ↔
      Contended matching selected candidates threshold decision.statement id := by
  have hkeys : (provisional.map (·.statement.id)).Nodup := by
    rw [← hselected, List.map_map] at hstatements
    exact hstatements
  rw [one_lt_count_filterMap hkeys hdecision hchosen]
  constructor
  · rintro ⟨other, hother, hid, hsame⟩
    refine ⟨other.statement, hselected ▸ List.mem_map_of_mem hother, hid, ?_⟩
    rcases hspec other hother with ⟨found, hfound, hchooses⟩ | ⟨hnone, -⟩
    · rw [Decision.chosen?, hfound] at hsame
      exact ⟨found, hchooses, Option.some.inj hsame⟩
    · rw [Decision.chosen?, hnone] at hsame
      cases hsame
  · rintro ⟨statement, hstatement, hid, found, hchooses, hline⟩
    rw [← hselected] at hstatement
    obtain ⟨other, hother, rfl⟩ := List.mem_map.mp hstatement
    refine ⟨other, hother, hid, ?_⟩
    rcases hspec other hother with ⟨own, hown, howns⟩ | ⟨-, hnever⟩
    · rw [Decision.chosen?, hown, Best.unique hids howns.best hchooses.best, ← hline]
      rfl
    · exact absurd hchooses (hnever found)

/-- Each statement has one decision: the line it alone chooses, or the reason there is none. -/
theorem decisions_spec {decided : List (Decision N)} (hids : (candidates.map (·.id)).Nodup)
    (hstatements : (selected.map (·.id)).Nodup)
    (hdecided : decisions matching selected candidates threshold = .ok decided) :
    decided.map (·.statement) = selected ∧ (decided.filterMap Decision.chosen?).Nodup ∧
      ∀ decision ∈ decided,
        (∃ found, decision.candidate = some found ∧
          Chooses matching candidates threshold decision.statement found ∧
          ¬ Contended matching selected candidates threshold decision.statement found.line.id) ∨
        ∃ reason, decision.candidate = none ∧ decision.reason = some reason ∧
          Justified matching selected candidates threshold decision.statement reason := by
  obtain ⟨companyCurrency, index, provisional, hcompany, hindex, hprovisional, rfl⟩ :=
    decisions_ok.mp hdecided
  have hforall := forall₂_of_mapM_ok hprovisional
  have hselected : provisional.map (·.statement) = selected := by
    clear hprovisional hstatements hdecided
    induction hforall with
    | nil => rfl
    | cons hdecision _ ih =>
        rw [List.map_cons, ih,
          (provisionalDecision_spec [] hids hcompany hindex hdecision).1]
  have hspec (decision : Decision N) (hdecision : decision ∈ provisional) :
      (∃ found, decision.candidate = some found ∧
        Chooses matching candidates threshold decision.statement found) ∨
      ∃ reason, decision.candidate = none ∧ decision.reason = some reason ∧
        (∀ found, ¬ Chooses matching candidates threshold decision.statement found) ∧
        Justified matching selected candidates threshold decision.statement reason := by
    obtain ⟨statement, -, hresult⟩ := exists_of_forall₂_right hforall hdecision
    obtain ⟨rfl, hcases⟩ :=
      provisionalDecision_spec selected hids hcompany hindex hresult
    exact hcases
  have hchoices (decision : Decision N) (hdecision : decision ∈ provisional) :
      (∃ found, decision.candidate = some found ∧
        Chooses matching candidates threshold decision.statement found) ∨
      decision.candidate = none ∧
        ∀ found, ¬ Chooses matching candidates threshold decision.statement found := by
    rcases hspec decision hdecision with hchosen | ⟨_, hnone, -, hnever, -⟩
    · exact .inl hchosen
    · exact .inr ⟨hnone, hnever⟩
  refine ⟨?_, nodup_chosen provisional, ?_⟩
  · rw [← hselected, List.map_map]
    refine List.map_congr_left fun decision _ => ?_
    simp only [Function.comp_apply, resolveConflict]
    split
    · split <;> rfl
    · rfl
  · intro resolved hresolved
    obtain ⟨decision, hdecision, rfl⟩ := List.mem_map.mp hresolved
    rcases hspec decision hdecision with
      ⟨found, hfound, hchooses⟩ | ⟨reason, hnone, hreason, -, hjustified⟩
    · have hchosen : decision.chosen? = some found.line.id := by
        rw [Decision.chosen?, hfound]
        rfl
      have hcontended := contended_iff hids hstatements hselected hchoices hdecision hchosen
      by_cases hconflict : 1 < (provisional.filterMap Decision.chosen?).count found.line.id
      · refine .inr ⟨.candidateConflict, ?_⟩
        unfold resolveConflict
        rw [hchosen]
        simp only [if_pos hconflict]
        exact ⟨trivial, trivial, found, hchooses, hcontended.mp hconflict⟩
      · refine .inl ⟨found, ?_⟩
        simp only [resolveConflict, hchosen, if_neg hconflict]
        exact ⟨hfound, hchooses, fun hother => hconflict (hcontended.mpr hother)⟩
    · have hchosen : decision.chosen? = none := by
        rw [Decision.chosen?, hnone]
        rfl
      refine .inr ⟨reason, ?_⟩
      simp only [resolveConflict, hchosen]
      exact ⟨hnone, hreason, hjustified⟩

/-! ### The proposal -/

omit [LawfulArithmetic N] in
theorem proposal_ok {journal : Journal} {result : ReconciliationProposal N}
    (hproposal : proposal matching journal selected candidates threshold = .ok result) :
    ∃ decided items, decisions matching selected candidates threshold = .ok decided ∧
      List.Forall₂ (fun decision item =>
          unmatched matching.companyCurrency journal decision = .ok item)
        (decided.filter (·.candidate.isNone)) items ∧
      result.matched = decided.filterMap (reconciliationMatch matching.companyCurrency journal) ∧
      result.unmatched = items ∧ result.summary.statementLineCount = selected.length ∧
      result.summary.matchedCount = result.matched.length ∧
      result.summary.unmatchedCount = items.length ∧
      result.summary.matchedAmount = total ((decided.filter (·.candidate.isSome)).map
        fun decision => ofDecimal decision.statement.amount) ∧
      result.summary.unmatchedAmount = total (items.map fun item => ofDecimal item.amount) := by
  unfold proposal at hproposal
  obtain ⟨decided, hdecided, hrest⟩ := except_bind_ok.mp hproposal
  obtain ⟨items, hitems, hdone⟩ := except_bind_ok.mp hrest
  cases hdone
  exact ⟨decided, items, hdecided, forall₂_of_mapM_ok hitems, rfl, rfl, rfl, rfl, rfl, rfl, rfl⟩

omit [Arithmetic N] [LawfulArithmetic N] in
theorem unmatched_ok {currency : RelatedRecord} {journal : Journal} {decision : Decision N}
    {item : UnmatchedStatementLineItem N} (hitem : unmatched currency journal decision = .ok item) :
    item.statementLineId = decision.statement.id ∧ item.amount = decision.statement.amount ∧
      decision.reason = some item.reasonCode := by
  obtain ⟨reason, hreason, hdone⟩ := except_bind_ok.mp hitem
  cases hdone
  exact ⟨rfl, rfl, orRaise_ok.mp hreason⟩

omit [Arithmetic N] [LawfulArithmetic N] in
/-- What the matches list is read off the decisions with a candidate. -/
theorem map_matched {β : Type} (currency : RelatedRecord) (journal : Journal)
    (ofMatch : ReconciliationMatch N → β) (ofDecision : Decision N → β)
    (hmatch : ∀ decision item, reconciliationMatch currency journal decision = some item →
      ofMatch item = ofDecision decision) (decided : List (Decision N)) :
    (decided.filterMap (reconciliationMatch currency journal)).map ofMatch =
      (decided.filter (·.candidate.isSome)).map ofDecision := by
  induction decided with
  | nil => rfl
  | cons decision decided ih =>
      cases hcandidate : decision.candidate with
      | none =>
          have hnone : reconciliationMatch currency journal decision = none := by
            rw [reconciliationMatch, hcandidate]
            rfl
          rw [List.filterMap_cons_none hnone, List.filter_cons_of_neg (by simp [hcandidate]), ih]
      | some found =>
          obtain ⟨item, hitem⟩ : ∃ item, reconciliationMatch currency journal decision =
            some item := by
            rw [reconciliationMatch, hcandidate]
            exact ⟨_, rfl⟩
          rw [List.filterMap_cons_some hitem, List.filter_cons_of_pos (by simp [hcandidate]),
            List.map_cons, List.map_cons, ih, hmatch decision item hitem]

/-- **Soundness of the proposal.** No move line is in two matches. A match pairs a selected
statement with its strictly best eligible candidate, which fits it, reaches the threshold and is
chosen by no other statement. Every selected statement is listed once, and if it is unmatched the
rule of its reason holds. The counts and amounts of the summary are those of the listed items. -/
theorem proposal_sound {journal : Journal} {result : ReconciliationProposal N}
    (hstatements : (selected.map (·.id)).Nodup) (hids : (candidates.map (·.id)).Nodup)
    (hproposal : proposal matching journal selected candidates threshold = .ok result) :
    (result.matched.map (·.moveLineId)).Nodup ∧
    (∀ item ∈ result.matched, ∃ statement ∈ selected, ∃ found,
      item.statementLineId = statement.id ∧ item.moveLineId = found.line.id ∧
      item.confidence = found.score ∧ item.amount = statement.amount ∧
      Chooses matching candidates threshold statement found ∧
      ¬ Contended matching selected candidates threshold statement found.line.id ∧
      ∃ companyCurrency journal currency,
        matching.currencies matching.companyCurrency.id = some companyCurrency ∧
        statementJournal matching statement = .ok journal ∧
        effectiveCurrency matching companyCurrency journal = .ok currency ∧
        Fits (N := N) matching statement journal currency found.line) ∧
    (result.matched.map (·.statementLineId) ++ result.unmatched.map (·.statementLineId)).Perm
      (selected.map (·.id)) ∧
    (∀ item ∈ result.unmatched, ∃ statement ∈ selected, item.statementLineId = statement.id ∧
      item.amount = statement.amount ∧
      Justified matching selected candidates threshold statement item.reasonCode) ∧
    result.summary.statementLineCount = result.matched.length + result.unmatched.length ∧
    result.summary.matchedCount = result.matched.length ∧
    result.summary.unmatchedCount = result.unmatched.length ∧
    result.summary.matchedAmount = total (result.matched.map fun item => ofDecimal item.amount) ∧
    result.summary.unmatchedAmount =
      total (result.unmatched.map fun item => ofDecimal item.amount) := by
  obtain ⟨decided, items, hdecided, hitems, hmatched, hunmatched, hlines, hmatchedCount,
    hunmatchedCount, hmatchedAmount, hunmatchedAmount⟩ := proposal_ok hproposal
  obtain ⟨hselected, hnodup, hspec⟩ := decisions_spec hids hstatements hdecided
  have hmember {decision : Decision N} (hdecision : decision ∈ decided) :
      decision.statement ∈ selected := hselected ▸ List.mem_map_of_mem hdecision
  have hperm : (result.matched.map (·.statementLineId) ++
      result.unmatched.map (·.statementLineId)).Perm (selected.map (·.id)) := by
    have hmatches := map_matched matching.companyCurrency journal (·.statementLineId)
      (·.statement.id) (by
        intro decision item hitem
        obtain ⟨found, -, rfl⟩ := Option.map_eq_some_iff.mp hitem
        rfl) decided
    have hrest : items.map (·.statementLineId) =
        (decided.filter (·.candidate.isNone)).map (·.statement.id) :=
      map_of_forall₂ hitems fun decision item hitem => (unmatched_ok hitem).1
    rw [hmatched, hmatches, hunmatched, hrest, ← List.map_append, ← hselected, List.map_map]
    refine List.Perm.map _ ?_
    have hsplit := List.filter_append_perm (fun decision : Decision N => decision.candidate.isSome)
      decided
    simpa using hsplit
  refine ⟨?_, ?_, hperm, ?_, ?_, ?_, ?_, ?_, ?_⟩
  · have hlineIds : result.matched.map (·.moveLineId) = decided.filterMap Decision.chosen? := by
      rw [hmatched, List.map_filterMap]
      refine List.filterMap_congr fun decision _ => ?_
      unfold reconciliationMatch Decision.chosen?
      cases decision.candidate <;> rfl
    rw [hlineIds]
    exact hnodup
  · intro item hitem
    rw [hmatched] at hitem
    obtain ⟨decision, hdecision, hmatch⟩ := List.mem_filterMap.mp hitem
    obtain ⟨found, hfound, rfl⟩ := Option.map_eq_some_iff.mp hmatch
    rcases hspec decision hdecision with ⟨own, hown, hchooses, hfree⟩ | ⟨_, hnone, -⟩
    · cases hfound.symm.trans hown
      exact ⟨decision.statement, hmember hdecision, found, rfl, rfl, rfl, rfl, hchooses, hfree,
        hchooses.best.eligible.fits⟩
    · rw [hfound] at hnone
      cases hnone
  · intro item hitem
    rw [hunmatched] at hitem
    obtain ⟨decision, hdecision, hunmatchedItem⟩ := exists_of_forall₂_right hitems hitem
    obtain ⟨hlisted, hcandidate⟩ := List.mem_filter.mp hdecision
    obtain ⟨hid, hamount, hreason⟩ := unmatched_ok hunmatchedItem
    refine ⟨decision.statement, hmember hlisted, hid, hamount, ?_⟩
    rcases hspec decision hlisted with ⟨found, hfound, -⟩ | ⟨reason, -, hown, hjustified⟩
    · simp [hfound] at hcandidate
    · cases hreason.symm.trans hown
      exact hjustified
  · have hlength := hperm.length_eq
    simp only [List.length_append, List.length_map] at hlength
    rw [hlines, hlength]
  · exact hmatchedCount
  · rw [hunmatchedCount, hunmatched]
  · have hamounts := map_matched matching.companyCurrency journal
      (fun item => (ofDecimal item.amount : N))
      (fun decision => ofDecimal decision.statement.amount) (by
        intro decision item hitem
        obtain ⟨found, -, rfl⟩ := Option.map_eq_some_iff.mp hitem
        rfl) decided
    rw [hmatchedAmount, hmatched, hamounts]
  · rw [hunmatchedAmount, hunmatched]

/-- Of two statements one is matched; the other has no line of its amount. -/
theorem proposal_sound_sample :
    ∃ result : ReconciliationProposal Decimal,
      proposal sampleMatching sampleJournal sampleStatements [sampleLine 1 ⟨true, 10, 0⟩]
        ⟨false, 5, -1⟩ = .ok result ∧
      result.matched.map (·.moveLineId) = [1] ∧
      (result.matched.map (·.statementLineId) ++ result.unmatched.map (·.statementLineId)).Perm
        [3, 4] ∧
      ∀ item ∈ result.unmatched, ∃ statement ∈ sampleStatements,
        Justified sampleMatching sampleStatements [sampleLine 1 ⟨true, 10, 0⟩]
          (⟨false, 5, -1⟩ : Decimal) statement item.reasonCode := by
  have hmatched : (proposal (N := Decimal) sampleMatching sampleJournal sampleStatements
      [sampleLine 1 ⟨true, 10, 0⟩] ⟨false, 5, -1⟩).toOption.map
        (fun result => result.matched.map (·.moveLineId)) = some [1] := by
    decide +kernel
  cases hproposal : proposal (N := Decimal) sampleMatching sampleJournal sampleStatements
      [sampleLine 1 ⟨true, 10, 0⟩] ⟨false, 5, -1⟩ with
  | error error =>
      rw [hproposal] at hmatched
      cases hmatched
  | ok result =>
      rw [hproposal] at hmatched
      obtain ⟨-, -, hperm, hreasons, -⟩ := proposal_sound (by decide) (by decide) hproposal
      refine ⟨result, rfl, Option.some.inj hmatched, hperm, fun item hitem => ?_⟩
      obtain ⟨statement, hstatement, -, -, hjustified⟩ := hreasons item hitem
      exact ⟨statement, hstatement, hjustified⟩

end ReconcileBank

end OdooMcp
