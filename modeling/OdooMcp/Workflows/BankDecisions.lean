import OdooMcp.Adapters.AccountingPages
import OdooMcp.Workflows.BankIndex

/-!
# Decisions of the bank matching

What a statement alone decides depends on its candidates as a set: the highest score, whether it is
alone, and the threshold. The choices of all statements are then compared, and a move line chosen
twice is taken from both. So the order of the lines plays no part, and the proposal is sound.
-/

namespace OdooMcp

namespace ReconcileBank

open Arithmetic

/-! ### Ranking -/

section Ranking

variable {N : Type} [Arithmetic N] [LawfulArithmetic N]

/-- Sorting by a total order in which distinct members are comparable one way only forgets the order
of the list. -/
theorem mergeSort_eq_of_perm {α : Type} {le : α → α → Bool} {first second : List α}
    (htrans : ∀ one two three, le one two = true → le two three = true → le one three = true)
    (htotal : ∀ one two, (le one two || le two one) = true)
    (hantisymm : ∀ one ∈ first, ∀ two ∈ first, le one two = true → le two one = true → one = two)
    (hperm : first.Perm second) : first.mergeSort le = second.mergeSort le := by
  have hsorted : (first.mergeSort le).Perm (second.mergeSort le) :=
    (List.mergeSort_perm first le).trans (hperm.trans (List.mergeSort_perm second le).symm)
  refine hsorted.eq_of_pairwise (fun one two hone htwo => hantisymm one ?_ two ?_)
    (List.pairwise_mergeSort htrans htotal first) (List.pairwise_mergeSort htrans htotal second)
  · exact List.mem_mergeSort.mp hone
  · exact hperm.mem_iff.mpr (List.mem_mergeSort.mp htwo)

theorem rankedBefore_iff (first second : Candidate N) :
    rankedBefore first second = true ↔
      LawfulArithmetic.value (neg first.score) < LawfulArithmetic.value (neg second.score) ∨
        LawfulArithmetic.value (neg first.score) = LawfulArithmetic.value (neg second.score) ∧
          first.line.id ≤ second.line.id := by
  unfold rankedBefore
  split
  · rename_i hsame
    rw [LawfulArithmetic.same_iff] at hsame
    simp [hsame]
  · rename_i hdiffer
    rw [LawfulArithmetic.same_iff] at hdiffer
    rw [LawfulArithmetic.lt_iff]
    exact ⟨.inl, fun hbefore => hbefore.resolve_right fun hequal => hdiffer hequal.1⟩

theorem rankedBefore_trans (first second third : Candidate N)
    (hfirst : rankedBefore first second = true) (hsecond : rankedBefore second third = true) :
    rankedBefore first third = true := by
  rw [rankedBefore_iff] at *
  rcases hfirst with hfirst | ⟨hfirst, hfirstId⟩ <;>
    rcases hsecond with hsecond | ⟨hsecond, hsecondId⟩
  · exact .inl (hfirst.trans hsecond)
  · exact .inl (hsecond ▸ hfirst)
  · exact .inl (hfirst ▸ hsecond)
  · exact .inr ⟨hfirst.trans hsecond, hfirstId.trans hsecondId⟩

theorem rankedBefore_total (first second : Candidate N) :
    (rankedBefore first second || rankedBefore second first) = true := by
  rw [Bool.or_eq_true, rankedBefore_iff, rankedBefore_iff]
  rcases lt_trichotomy (LawfulArithmetic.value (neg first.score))
    (LawfulArithmetic.value (neg second.score)) with hlt | hequal | hgt
  · exact .inl (.inl hlt)
  · rcases Int.le_total first.line.id second.line.id with hle | hle
    · exact .inl (.inr ⟨hequal, hle⟩)
    · exact .inr (.inr ⟨hequal.symm, hle⟩)
  · exact .inr (.inl hgt)

theorem rankedBefore_antisymm {first second : Candidate N}
    (hfirst : rankedBefore first second = true) (hsecond : rankedBefore second first = true) :
    first.line.id = second.line.id := by
  rw [rankedBefore_iff] at *
  rcases hfirst with hfirst | ⟨hfirst, hfirstId⟩ <;>
    rcases hsecond with hsecond | ⟨hsecond, hsecondId⟩
  · exact absurd (hfirst.trans hsecond) (lt_irrefl _)
  · exact absurd (hsecond ▸ hfirst) (lt_irrefl _)
  · exact absurd (hfirst ▸ hsecond) (lt_irrefl _)
  · exact le_antisymm hfirstId hsecondId

/-- The line of a candidate identifies it. -/
def OneEach (scored : List (Candidate N)) : Prop := (scored.map (·.line.id)).Nodup

theorem ranked_eq_of_perm {first second : List (Candidate N)} (hone : OneEach first)
    (hperm : first.Perm second) : first.mergeSort rankedBefore = second.mergeSort rankedBefore :=
  mergeSort_eq_of_perm rankedBefore_trans rankedBefore_total
    (fun _ hfirst _ hsecond hbefore hafter =>
      List.inj_on_of_nodup_map hone hfirst hsecond (rankedBefore_antisymm hbefore hafter)) hperm

def Summed (candidate : Candidate N) : Prop :=
  ∃ first second, candidate.score = add first second

omit [LawfulArithmetic N] in
theorem Candidate.summed_total (line : AccountMoveLine) (first : String × N)
    (components : List (String × N)) :
    Summed ⟨line, total ((first :: components).map Prod.snd), first :: components⟩ := by
  have hfold (values : List N) (one two : N) :
      ∃ last sum, values.foldl add (add one two) = add last sum := by
    induction values generalizing one two with
    | nil => exact ⟨one, two, rfl⟩
    | cons value values ih => exact ih _ _
  exact hfold _ _ _

/-- What a statement decides alone: nothing without candidates; otherwise some candidate has the
highest score, and is chosen if it has it alone and reaches the threshold. -/
theorem decisionOf_cases (threshold : N) (statement : BankStatementLine)
    {scored : List (Candidate N)} (hone : OneEach scored)
    (hsummed : ∀ candidate ∈ scored, Summed candidate) :
    (scored = [] ∧ decisionOf threshold statement (scored.mergeSort rankedBefore) =
      ⟨statement, none, none, some .noEligibleCandidate⟩) ∨
    ∃ best ∈ scored,
      (∀ other ∈ scored,
        LawfulArithmetic.value other.score ≤ LawfulArithmetic.value best.score) ∧
      ((∃ other ∈ scored, other.line.id ≠ best.line.id ∧
          LawfulArithmetic.value other.score = LawfulArithmetic.value best.score ∧
          decisionOf threshold statement (scored.mergeSort rankedBefore) =
            ⟨statement, none, some best.score, some .ambiguousBestMatch⟩) ∨
        (∀ other ∈ scored, other.line.id ≠ best.line.id →
          LawfulArithmetic.value other.score < LawfulArithmetic.value best.score) ∧
        ((LawfulArithmetic.value best.score < LawfulArithmetic.value threshold ∧
            decisionOf threshold statement (scored.mergeSort rankedBefore) =
              ⟨statement, none, some best.score, some .belowConfidenceThreshold⟩) ∨
          (LawfulArithmetic.value threshold ≤ LawfulArithmetic.value best.score ∧
            decisionOf threshold statement (scored.mergeSort rankedBefore) =
              ⟨statement, some best, some best.score, none⟩))) := by
  have hsorted : (scored.mergeSort rankedBefore).Pairwise (rankedBefore · ·) :=
    List.pairwise_mergeSort rankedBefore_trans rankedBefore_total scored
  have hperm : (scored.mergeSort rankedBefore).Perm scored := List.mergeSort_perm scored _
  cases hranked : scored.mergeSort rankedBefore with
  | nil =>
      rw [hranked] at hperm
      exact .inl ⟨hperm.symm.eq_nil, rfl⟩
  | cons first rest =>
      rw [hranked] at hsorted hperm
      obtain ⟨hfirst, -⟩ := List.pairwise_cons.mp hsorted
      have hmem : first ∈ scored := hperm.mem_iff.mp List.mem_cons_self
      have hlines : OneEach (first :: rest) :=
        (hperm.map fun candidate : Candidate N => candidate.line.id).nodup_iff.mpr hone
      have hids : first.line.id ∉ rest.map (·.line.id) := (List.nodup_cons.mp hlines).1
      have hneg (candidate : Candidate N) (hcandidate : candidate ∈ scored) :
          LawfulArithmetic.value (neg candidate.score) =
            -LawfulArithmetic.value candidate.score := by
        obtain ⟨one, two, hscore⟩ := hsummed candidate hcandidate
        rw [hscore, LawfulArithmetic.value_neg_add]
      have hrest (other : Candidate N) (hother : other ∈ rest) : other ∈ scored :=
        hperm.mem_iff.mp (List.mem_cons_of_mem first hother)
      have hle (other : Candidate N) (hother : other ∈ rest) :
          LawfulArithmetic.value other.score ≤ LawfulArithmetic.value first.score := by
        have hbefore := (rankedBefore_iff first other).mp (hfirst other hother)
        rw [hneg first hmem, hneg other (hrest other hother)] at hbefore
        rcases hbefore with hlt | ⟨hequal, -⟩
        · linarith
        · linarith
      have hcases (other : Candidate N) (hother : other ∈ scored) : other = first ∨ other ∈ rest :=
        List.mem_cons.mp (hperm.mem_iff.mpr hother)
      refine .inr ⟨first, hmem, fun other hother => ?_, ?_⟩
      · rcases hcases other hother with rfl | hlater
        · exact le_refl _
        · exact hle other hlater
      · have hself : same first.score first.score = true :=
          (LawfulArithmetic.same_iff _ _).mpr rfl
        have hbest : (first :: rest).filter (fun item => same item.score first.score) =
            first :: rest.filter fun item => same item.score first.score :=
          List.filter_cons_of_pos hself
        unfold decisionOf
        simp only [hbest]
        cases hties : rest.filter fun item => same item.score first.score with
        | cons tie ties =>
            have htie : tie ∈ rest.filter fun item => same item.score first.score := by
              rw [hties]
              exact List.mem_cons_self
            obtain ⟨hlater, hsame⟩ := List.mem_filter.mp htie
            refine .inl ⟨tie, hrest tie hlater, fun hid => ?_, ?_, ?_⟩
            · exact hids (hid ▸ List.mem_map_of_mem hlater)
            · exact (LawfulArithmetic.same_iff _ _).mp hsame
            · rw [if_pos (by simp)]
        | nil =>
            refine .inr ⟨fun other hother hid => ?_, ?_⟩
            · rcases hcases other hother with rfl | hlater
              · exact absurd rfl hid
              · refine lt_of_le_of_ne (hle other hlater) fun hequal => ?_
                have htie : other ∈ rest.filter fun item => same item.score first.score :=
                  List.mem_filter.mpr ⟨hlater, (LawfulArithmetic.same_iff _ _).mpr hequal⟩
                rw [hties] at htie
                cases htie
            · rw [if_neg (by simp)]
              split
              · rename_i hbelow
                exact .inl ⟨(LawfulArithmetic.lt_iff _ _).mp hbelow, rfl⟩
              · rename_i habove
                rw [LawfulArithmetic.lt_iff, not_lt] at habove
                exact .inr ⟨habove, rfl⟩

end Ranking

/-! ### The candidates of a statement -/

variable {N : Type} [Arithmetic N] {matching : Matching} {companyCurrency : Currency}
  {candidates others : List AccountMoveLine} {statement : BankStatementLine}

def offers (matching : Matching) (companyCurrency : Currency) (candidates : List AccountMoveLine)
    (statement : BankStatementLine) : Except PyException (List (Candidate N)) := do
  let journal ← statementJournal matching statement
  let currency ← effectiveCurrency matching companyCurrency journal
  let key ← roundCurrencyAmount (N := N) (neg (ofDecimal statement.amount)) currency
  scoredCandidates matching statement journal currency
    (candidates.filter (inBucket matching companyCurrency journal key))

theorem provisionalDecision_eq [LawfulArithmetic N] {index : CandidateIndex N} {threshold : N}
    (hindex : candidateIndex matching companyCurrency candidates = .ok index) :
    provisionalDecision matching companyCurrency index threshold statement = do
      let scored ← offers matching companyCurrency candidates statement
      return decisionOf threshold statement (scored.mergeSort rankedBefore) := by
  unfold provisionalDecision offers
  simp only [bind, Except.bind]
  cases statementJournal matching statement with
  | error error => rfl
  | ok journal =>
      simp only
      cases effectiveCurrency matching companyCurrency journal with
      | error error => rfl
      | ok currency =>
          simp only
          cases hkey : roundCurrencyAmount (N := N) (neg (ofDecimal statement.amount)) currency with
          | error error =>
              have hlines : eligibleAmounts index statement journal currency = .error error := by
                unfold eligibleAmounts
                rw [hkey]
                rfl
              rw [hlines]
          | ok key =>
              rw [(eligibleAmounts_ok hindex).mpr ⟨key, hkey, rfl⟩]

theorem scoredCandidates_ok {journal : Journal} {currency : Currency}
    {lines : List AccountMoveLine} {scored : List (Candidate N)} :
    scoredCandidates matching statement journal currency lines = .ok scored ↔
      ∃ found, lines.mapM (candidate matching statement journal currency) = .ok found ∧
        scored = found.filterMap id := by
  unfold scoredCandidates
  rw [except_bind_ok]
  refine exists_congr fun found => and_congr_right fun _ => ?_
  change Except.ok _ = _ ↔ _
  rw [Except.ok.injEq, eq_comm]

/-- The lines of the candidates are among the lines, in their order. -/
theorem sublist_of_scored {journal : Journal} {currency : Currency}
    {lines : List AccountMoveLine} {scored : List (Candidate N)}
    (hscored : scoredCandidates matching statement journal currency lines = .ok scored) :
    (scored.map (·.line)).Sublist lines := by
  induction lines generalizing scored with
  | nil =>
      cases hscored
      exact .slnil
  | cons line lines ih =>
      rw [scoredCandidates_cons] at hscored
      obtain ⟨found, hfound, hrest⟩ := except_bind_ok.mp hscored
      obtain ⟨rest, hlater, hdone⟩ := except_bind_ok.mp hrest
      cases hdone
      cases found with
      | none => exact .cons line (ih hlater)
      | some found =>
          obtain ⟨-, -, -, -, -, components, -, rfl⟩ := candidate_some hfound
          exact .cons_cons line (ih hlater)

/-- A candidate is one that its line's check returned. -/
theorem mem_scored_iff {journal : Journal} {currency : Currency} {lines : List AccountMoveLine}
    {scored : List (Candidate N)}
    (hscored : scoredCandidates matching statement journal currency lines = .ok scored)
    {found : Candidate N} :
    found ∈ scored ↔
      ∃ line ∈ lines, candidate matching statement journal currency line = .ok (some found) := by
  obtain ⟨outcomes, houtcomes, rfl⟩ := scoredCandidates_ok.mp hscored
  have hforall := forall₂_of_mapM_ok houtcomes
  simp only [List.mem_filterMap, id_eq, exists_eq_right]
  constructor
  · intro hfound
    exact exists_of_forall₂_right hforall hfound
  · rintro ⟨line, hline, hfound⟩
    obtain ⟨outcome, houtcome, hok⟩ := exists_of_forall₂_left hforall hline
    rw [hfound] at hok
    cases hok
    exact houtcome

/-! ### The order of the lines -/

theorem mapM_of_perm {ε α β : Type} {next : α → Except ε β} {first second : List α}
    {results : List β} (hperm : first.Perm second) (hresults : first.mapM next = .ok results) :
    ∃ others, second.mapM next = .ok others ∧ results.Perm others := by
  induction hperm generalizing results with
  | nil => exact ⟨results, hresults, .refl _⟩
  | cons item _ ih =>
      rw [List.mapM_cons] at hresults
      obtain ⟨head, hhead, hrest⟩ := except_bind_ok.mp hresults
      obtain ⟨rest, hlater, hdone⟩ := except_bind_ok.mp hrest
      cases hdone
      obtain ⟨others, hothers, hperm⟩ := ih hlater
      refine ⟨head :: others, ?_, hperm.cons head⟩
      rw [List.mapM_cons, hhead, hothers]
      rfl
  | swap one two items =>
      rw [List.mapM_cons] at hresults
      obtain ⟨second, hsecond, hrest⟩ := except_bind_ok.mp hresults
      obtain ⟨both, hboth, hdone⟩ := except_bind_ok.mp hrest
      cases hdone
      rw [List.mapM_cons] at hboth
      obtain ⟨first, hfirst, hrest⟩ := except_bind_ok.mp hboth
      obtain ⟨rest, hlater, hdone⟩ := except_bind_ok.mp hrest
      cases hdone
      refine ⟨first :: second :: rest, ?_, .swap first second rest⟩
      rw [List.mapM_cons, List.mapM_cons, hfirst, hsecond, hlater]
      rfl
  | trans _ _ ih ih' =>
      obtain ⟨middle, hmiddle, hfirst⟩ := ih hresults
      obtain ⟨others, hothers, hsecond⟩ := ih' hmiddle
      exact ⟨others, hothers, hfirst.trans hsecond⟩

/-- What a function returns, or the fallback where it raises. -/
def returnedOr {ε α β : Type} (next : α → Except ε β) (fallback : α → β) (item : α) : β :=
  match next item with
  | .ok result => result
  | .error _ => fallback item

theorem eq_map_of_mapM {ε α β : Type} {next : α → Except ε β} {items : List α} {results : List β}
    (fallback : α → β) (hresults : items.mapM next = .ok results) :
    results = items.map (returnedOr next fallback) := by
  have hforall := forall₂_of_mapM_ok hresults
  clear hresults
  induction hforall with
  | nil => rfl
  | cons hitem _ ih => rw [List.map_cons, returnedOr, hitem, ← ih]

/-- Whether a line can be indexed does not depend on the index. -/
theorem addCandidate_ok {index later : CandidateIndex N} {line : AccountMoveLine}
    (hadd : addCandidate matching companyCurrency index line = .ok later)
    (other : CandidateIndex N) :
    ∃ found, addCandidate matching companyCurrency other line = .ok found := by
  unfold addCandidate at hadd ⊢
  cases hcurrency : line.currency with
  | none => exact ⟨other, rfl⟩
  | some own =>
      rw [hcurrency] at hadd
      simp only at hadd ⊢
      cases hknown : matching.currencies own.id with
      | none => exact ⟨other, rfl⟩
      | some lineCurrency =>
          rw [hknown] at hadd
          obtain ⟨company, hcompany, hrest⟩ := except_bind_ok.mp hadd
          obtain ⟨key, hkey, -⟩ := except_bind_ok.mp hrest
          have hother : ∃ buckets, addToCompany matching companyCurrency other line own =
              .ok buckets := by
            unfold addToCompany at hcompany ⊢
            split
            · rename_i hown
              rw [if_pos hown] at hcompany
              obtain ⟨companyKey, hcompanyKey, -⟩ := except_bind_ok.mp hcompany
              exact ⟨_, except_bind_ok.mpr ⟨companyKey, hcompanyKey, rfl⟩⟩
            · exact ⟨_, rfl⟩
          obtain ⟨buckets, hbuckets⟩ := hother
          exact ⟨_, except_bind_ok.mpr ⟨buckets, hbuckets, except_bind_ok.mpr ⟨key, hkey, rfl⟩⟩⟩

theorem candidateIndex_iff :
    (∃ index : CandidateIndex N, candidateIndex matching companyCurrency candidates = .ok index) ↔
      ∀ line ∈ candidates, ∀ index : CandidateIndex N, ∃ later,
        addCandidate matching companyCurrency index line = .ok later := by
  unfold candidateIndex
  generalize (⟨[], []⟩ : CandidateIndex N) = start
  induction candidates generalizing start with
  | nil => exact iff_of_true ⟨start, rfl⟩ (by simp)
  | cons line candidates ih =>
      rw [List.forall_mem_cons, List.foldlM_cons]
      constructor
      · rintro ⟨index, hindex⟩
        obtain ⟨later, hadd, hrest⟩ := except_bind_ok.mp hindex
        exact ⟨addCandidate_ok hadd, (ih later).mp ⟨index, hrest⟩⟩
      · rintro ⟨hline, hrest⟩
        obtain ⟨later, hadd⟩ := hline start
        obtain ⟨index, hindex⟩ := (ih later).mpr hrest
        exact ⟨index, except_bind_ok.mpr ⟨later, hadd, hindex⟩⟩

theorem candidateIndex_of_perm {index : CandidateIndex N} (hperm : candidates.Perm others)
    (hindex : candidateIndex matching companyCurrency candidates = .ok index) :
    ∃ other : CandidateIndex N, candidateIndex matching companyCurrency others = .ok other :=
  candidateIndex_iff.mpr fun line hline =>
    candidateIndex_iff.mp ⟨index, hindex⟩ line (hperm.mem_iff.mpr hline)

variable [LawfulArithmetic N] {scored : List (Candidate N)}

omit [LawfulArithmetic N] in
theorem offers_ok :
    offers matching companyCurrency candidates statement = .ok scored ↔
      ∃ journal currency, ∃ key : N, statementJournal matching statement = .ok journal ∧
        effectiveCurrency matching companyCurrency journal = .ok currency ∧
        roundCurrencyAmount (neg (ofDecimal statement.amount)) currency = .ok key ∧
        scoredCandidates matching statement journal currency
          (candidates.filter (inBucket matching companyCurrency journal key)) = .ok scored := by
  unfold offers
  simp only [except_bind_ok]
  constructor
  · rintro ⟨journal, hjournal, currency, hcurrency, key, hkey, hscored⟩
    exact ⟨journal, currency, key, hjournal, hcurrency, hkey, hscored⟩
  · rintro ⟨journal, currency, key, hjournal, hcurrency, hkey, hscored⟩
    exact ⟨journal, hjournal, currency, hcurrency, key, hkey, hscored⟩

omit [LawfulArithmetic N] in
theorem oneEach_of_offers (hids : (candidates.map (·.id)).Nodup)
    (hoffers : offers matching companyCurrency candidates statement = .ok scored) :
    OneEach scored := by
  obtain ⟨journal, currency, key, -, -, -, hscored⟩ := offers_ok.mp hoffers
  have hsublist := (sublist_of_scored hscored).trans List.filter_sublist
  have hnodup := (hsublist.map (·.id)).nodup hids
  rwa [List.map_map] at hnodup

omit [LawfulArithmetic N] in
theorem offers_of_perm (hperm : candidates.Perm others)
    (hoffers : offers matching companyCurrency candidates statement = .ok scored) :
    ∃ found, offers matching companyCurrency others statement = .ok found ∧
      scored.Perm found := by
  obtain ⟨journal, currency, key, hjournal, hcurrency, hkey, hscored⟩ := offers_ok.mp hoffers
  obtain ⟨outcomes, houtcomes, rfl⟩ := scoredCandidates_ok.mp hscored
  obtain ⟨permuted, hpermuted, hsame⟩ := mapM_of_perm (hperm.filter _) houtcomes
  exact ⟨permuted.filterMap id, offers_ok.mpr ⟨journal, currency, key, hjournal, hcurrency, hkey,
    scoredCandidates_ok.mpr ⟨permuted, hpermuted, rfl⟩⟩, hsame.filterMap id⟩

theorem provisionalDecision_of_perm {index other : CandidateIndex N} {threshold : N}
    {decision : Decision N} (hids : (candidates.map (·.id)).Nodup) (hperm : candidates.Perm others)
    (hindex : candidateIndex matching companyCurrency candidates = .ok index)
    (hother : candidateIndex matching companyCurrency others = .ok other)
    (hdecision : provisionalDecision matching companyCurrency index threshold statement =
      .ok decision) :
    provisionalDecision matching companyCurrency other threshold statement = .ok decision := by
  rw [provisionalDecision_eq hindex] at hdecision
  rw [provisionalDecision_eq hother]
  obtain ⟨scored, hscored, hdone⟩ := except_bind_ok.mp hdecision
  obtain ⟨found, hfound, hsame⟩ := offers_of_perm hperm hscored
  refine except_bind_ok.mpr ⟨found, hfound, ?_⟩
  rwa [← ranked_eq_of_perm (oneEach_of_offers hids hscored) hsame]

omit [LawfulArithmetic N] in
theorem decisions_ok {statements : List BankStatementLine} {threshold : N}
    {decided : List (Decision N)} :
    decisions matching statements candidates threshold = .ok decided ↔
      ∃ companyCurrency index provisional,
        matching.currencies matching.companyCurrency.id = some companyCurrency ∧
        candidateIndex matching companyCurrency candidates = .ok index ∧
        statements.mapM (provisionalDecision matching companyCurrency index threshold) =
          .ok provisional ∧
        decided = provisional.map (resolveConflict (provisional.filterMap Decision.chosen?)) := by
  unfold decisions
  simp only [except_bind_ok, orRaise_ok]
  constructor
  · rintro ⟨companyCurrency, hcompany, index, hindex, provisional, hprovisional, hdecided⟩
    cases hdecided
    exact ⟨companyCurrency, index, provisional, hcompany, hindex, hprovisional, rfl⟩
  · rintro ⟨companyCurrency, index, provisional, hcompany, hindex, hprovisional, rfl⟩
    exact ⟨companyCurrency, hcompany, index, hindex, provisional, hprovisional, rfl⟩

omit [Arithmetic N] [LawfulArithmetic N] in
theorem resolveConflict_of_perm {first second : List Int} (hperm : first.Perm second)
    (decision : Decision N) : resolveConflict first decision = resolveConflict second decision := by
  unfold resolveConflict
  cases decision.chosen? with
  | none => rfl
  | some id => simp only [hperm.count_eq]

/-- **Order independence.** There is one decision for each statement: permuting the statements
permutes the decisions with them, and permuting the candidates changes none. -/
theorem decisions_of_perm {statements permuted : List BankStatementLine} {threshold : N}
    {decided : List (Decision N)} (hids : (candidates.map (·.id)).Nodup)
    (hstatements : statements.Perm permuted) (hcandidates : candidates.Perm others)
    (hdecided : decisions matching statements candidates threshold = .ok decided) :
    ∃ decisionFor : BankStatementLine → Decision N, decided = statements.map decisionFor ∧
      decisions matching permuted others threshold = .ok (permuted.map decisionFor) := by
  obtain ⟨companyCurrency, index, provisional, hcompany, hindex, hprovisional, rfl⟩ :=
    decisions_ok.mp hdecided
  obtain ⟨other, hother⟩ := candidateIndex_of_perm hcandidates hindex
  obtain ⟨found, hfound, hsame⟩ := mapM_of_perm hstatements hprovisional
  have hdecisions : permuted.mapM (provisionalDecision matching companyCurrency other threshold) =
      .ok found :=
    mapM_ok_of_forall₂ ((forall₂_of_mapM_ok hfound).imp fun _ _ hdecision =>
      provisionalDecision_of_perm hids hcandidates hindex hother hdecision)
  have hchosen := hsame.filterMap Decision.chosen?
  let alone := returnedOr (provisionalDecision matching companyCurrency index threshold)
    fun statement => ⟨statement, none, none, none⟩
  have halone : provisional = statements.map alone := eq_map_of_mapM _ hprovisional
  have hpermuted : found = permuted.map alone := eq_map_of_mapM _ hfound
  refine ⟨fun statement => resolveConflict (provisional.filterMap Decision.chosen?)
    (alone statement), ?_, ?_⟩
  · conv_lhs => arg 2; rw [halone]
    rw [List.map_map]
    rfl
  · refine decisions_ok.mpr ⟨companyCurrency, other, found, hcompany, hother, hdecisions, ?_⟩
    conv_rhs => arg 2; rw [hpermuted]
    rw [List.map_map]
    refine List.map_congr_left fun statement _ => ?_
    exact resolveConflict_of_perm hchosen _

def sampleStatements : List BankStatementLine :=
  [sampleStatement 3 ⟨false, 10, 0⟩, sampleStatement 4 ⟨false, 5, 0⟩]

def sampleLines : List AccountMoveLine := [sampleLine 1 ⟨true, 10, 0⟩, sampleLine 2 ⟨true, 5, 0⟩]

/-- Two statements are matched with two lines, whatever their order. -/
theorem decisions_of_perm_sample :
    ∃ decided : List (Decision Decimal),
      decisions sampleMatching sampleStatements sampleLines ⟨false, 5, -1⟩ = .ok decided ∧
      decided.map Decision.chosen? = [some 1, some 2] ∧
      ∃ decisionFor : BankStatementLine → Decision Decimal,
        decided = sampleStatements.map decisionFor ∧
        decisions sampleMatching sampleStatements.reverse sampleLines.reverse ⟨false, 5, -1⟩ =
          .ok (sampleStatements.reverse.map decisionFor) := by
  have hchosen : (decisions (N := Decimal) sampleMatching sampleStatements sampleLines
      ⟨false, 5, -1⟩).toOption.map (List.map Decision.chosen?) = some [some 1, some 2] := by
    decide +kernel
  cases hdecided : decisions (N := Decimal) sampleMatching sampleStatements sampleLines
      ⟨false, 5, -1⟩ with
  | error error =>
      rw [hdecided] at hchosen
      cases hchosen
  | ok decided =>
      rw [hdecided] at hchosen
      exact ⟨decided, rfl, Option.some.inj hchosen,
        decisions_of_perm (by decide) (List.reverse_perm _).symm (List.reverse_perm _).symm
          hdecided⟩

end ReconcileBank

end OdooMcp
