import OdooMcp.Workflows.BankMatching

/-!
# The index of the bank matching

The index puts every candidate line under its rounded amounts. A lookup therefore selects the lines
with an amount, in their order; over exact numbers it leaves out no line that the candidate check
would accept.
-/

namespace OdooMcp

namespace ReconcileBank

open Arithmetic

variable {N : Type} [Arithmetic N] {matching : Matching} {companyCurrency : Currency}

/-- The amount rounds, and to the number of the key. -/
def roundsTo (amount : Decimal) (currency : Currency) (key : N) : Bool :=
  (roundCurrencyAmount (ofDecimal amount) currency).toOption.any fun rounded => same rounded key

/-- The line is in the bucket of the company currency with this key. -/
def inCompanyBucket (matching : Matching) (companyCurrency : Currency) (key : N)
    (line : AccountMoveLine) : Bool :=
  line.currency.any fun own => (matching.currencies own.id).isSome &&
    (own.id = matching.companyCurrency.id && roundsTo line.residual companyCurrency key)

def inCurrencyBucket (matching : Matching) (key : Int × N) (line : AccountMoveLine) : Bool :=
  line.currency.any fun own => (matching.currencies own.id).any fun lineCurrency =>
    own.id = key.1 && roundsTo line.residualCurrency lineCurrency key.2

variable [LawfulArithmetic N]

theorem sameKey_iff (first second : Int × N) :
    sameKey first second = true ↔
      (first.1, LawfulArithmetic.value first.2) = (second.1, LawfulArithmetic.value second.2) := by
  simp [sameKey, LawfulArithmetic.same_iff]

theorem get_addCandidate {index later : CandidateIndex N} {line : AccountMoveLine}
    (hadd : addCandidate matching companyCurrency index line = .ok later) :
    (∀ key, Buckets.get same later.company key = Buckets.get same index.company key ++
      if inCompanyBucket matching companyCurrency key line then [line] else []) ∧
    ∀ key, Buckets.get sameKey later.currency key = Buckets.get sameKey index.currency key ++
      if inCurrencyBucket matching key line then [line] else [] := by
  unfold addCandidate at hadd
  cases hcurrency : line.currency with
  | none =>
      rw [hcurrency] at hadd
      cases hadd
      simp [inCompanyBucket, inCurrencyBucket, hcurrency]
  | some own =>
      rw [hcurrency] at hadd
      cases hknown : matching.currencies own.id with
      | none =>
          simp only [hknown] at hadd
          cases hadd
          simp [inCompanyBucket, inCurrencyBucket, hcurrency, hknown]
      | some lineCurrency =>
          simp only [hknown] at hadd
          obtain ⟨company, hcompany, hrest⟩ := except_bind_ok.mp hadd
          obtain ⟨currencyKey, hcurrencyKey, hlater⟩ := except_bind_ok.mp hrest
          cases hlater
          constructor
          · intro key
            unfold addToCompany at hcompany
            split at hcompany
            · rename_i hown
              obtain ⟨companyKey, hcompanyKey, hcompany⟩ := except_bind_ok.mp hcompany
              cases hcompany
              have hbucket : inCompanyBucket matching companyCurrency key line =
                  same companyKey key := by
                unfold inCompanyBucket roundsTo
                rw [hcurrency, Option.any_some, hknown, hcompanyKey]
                simp [hown, Except.toOption]
              rw [Buckets.get_append LawfulArithmetic.value LawfulArithmetic.same_iff, hbucket]
            · rename_i hown
              cases hcompany
              simp [inCompanyBucket, hcurrency, hown]
          · intro key
            rw [Buckets.get_append _ sameKey_iff]
            simp [inCurrencyBucket, hcurrency, hknown, roundsTo, hcurrencyKey, Except.toOption,
              sameKey]

/-- The buckets of the index hold the lines with their amounts. -/
theorem get_candidateIndex {candidates : List AccountMoveLine} {index : CandidateIndex N}
    (hindex : candidateIndex matching companyCurrency candidates = .ok index) :
    (∀ key, Buckets.get same index.company key =
      candidates.filter (inCompanyBucket matching companyCurrency key)) ∧
    ∀ key, Buckets.get sameKey index.currency key =
      candidates.filter (inCurrencyBucket matching key) := by
  have hfold (start : CandidateIndex N)
      (hstart : candidates.foldlM (addCandidate matching companyCurrency) start = .ok index) :
      (∀ key, Buckets.get same index.company key = Buckets.get same start.company key ++
        candidates.filter (inCompanyBucket matching companyCurrency key)) ∧
      ∀ key, Buckets.get sameKey index.currency key = Buckets.get sameKey start.currency key ++
        candidates.filter (inCurrencyBucket matching key) := by
    clear hindex
    induction candidates generalizing start with
    | nil =>
        cases hstart
        simp
    | cons line candidates ih =>
        rw [List.foldlM_cons] at hstart
        obtain ⟨later, hadd, hrest⟩ := except_bind_ok.mp hstart
        obtain ⟨hcompany, hcurrency⟩ := get_addCandidate hadd
        obtain ⟨hcompanyRest, hcurrencyRest⟩ := ih later hrest
        constructor
        · intro key
          rw [hcompanyRest, hcompany, List.filter_cons, List.append_assoc]
          split <;> rfl
        · intro key
          rw [hcurrencyRest, hcurrency, List.filter_cons, List.append_assoc]
          split <;> rfl
  exact hfold ⟨[], []⟩ hindex

/-- The line is in the bucket a statement of the journal looks up with this key. -/
def inBucket (matching : Matching) (companyCurrency : Currency) (journal : Journal) (key : N)
    (line : AccountMoveLine) : Bool :=
  match journal.currency with
  | none => inCompanyBucket matching companyCurrency key line
  | some own => inCurrencyBucket matching (own.id, key) line

theorem eligibleAmounts_ok {candidates lines : List AccountMoveLine} {index : CandidateIndex N}
    {statement : BankStatementLine} {journal : Journal} {currency : Currency}
    (hindex : candidateIndex matching companyCurrency candidates = .ok index) :
    eligibleAmounts index statement journal currency = .ok lines ↔
      ∃ key : N, roundCurrencyAmount (neg (ofDecimal statement.amount)) currency = .ok key ∧
        lines = candidates.filter (inBucket matching companyCurrency journal key) := by
  obtain ⟨hcompany, hcurrency⟩ := get_candidateIndex hindex
  unfold eligibleAmounts
  rw [except_bind_ok]
  refine exists_congr fun key => and_congr_right fun _ => ?_
  unfold inBucket
  cases journal.currency with
  | none =>
      change Except.ok _ = _ ↔ _
      rw [hcompany, Except.ok.injEq, eq_comm]
  | some own =>
      change Except.ok _ = _ ↔ _
      rw [hcurrency, Except.ok.injEq, eq_comm]

omit [LawfulArithmetic N] in
theorem scoredCandidates_cons {statement : BankStatementLine} {journal : Journal}
    {currency : Currency} {line : AccountMoveLine} {lines : List AccountMoveLine} :
    scoredCandidates (N := N) matching statement journal currency (line :: lines) = do
      let found ← candidate matching statement journal currency line
      let rest ← scoredCandidates matching statement journal currency lines
      return found.toList ++ rest := by
  unfold scoredCandidates
  rw [List.mapM_cons]
  cases candidate (N := N) matching statement journal currency line with
  | error error => rfl
  | ok found =>
      cases lines.mapM (candidate (N := N) matching statement journal currency) with
      | error error => rfl
      | ok rest => cases found <;> rfl

omit [LawfulArithmetic N] in
/-- Lines that the candidate check passes over can be left out. -/
theorem scoredCandidates_filter {statement : BankStatementLine} {journal : Journal}
    {currency : Currency} {selects : AccountMoveLine → Bool} {lines : List AccountMoveLine}
    (hrejected : ∀ line ∈ lines, selects line = false →
      candidate (N := N) matching statement journal currency line = .ok none) :
    scoredCandidates (N := N) matching statement journal currency (lines.filter selects) =
      scoredCandidates matching statement journal currency lines := by
  induction lines with
  | nil => rfl
  | cons line lines ih =>
      have hrest := ih fun other hother => hrejected other (List.mem_cons_of_mem line hother)
      rw [scoredCandidates_cons, ← hrest, List.filter_cons]
      cases hselects : selects line with
      | true => exact scoredCandidates_cons
      | false =>
          rw [hrejected line List.mem_cons_self hselects, if_neg Bool.false_ne_true]
          change _ = (do return Option.toList none ++ (← scoredCandidates (N := N) _ _ _ _ _))
          cases scoredCandidates (N := N) matching statement journal currency
            (lines.filter selects) <;> rfl

/-! ### Exact numbers -/

omit [LawfulArithmetic N] in
/-- What the candidate check lets through has the effective currency and the opposite amount. -/
theorem candidate_some {statement : BankStatementLine} {journal : Journal} {currency : Currency}
    {line : AccountMoveLine} {found : Candidate N}
    (hcandidate : candidate matching statement journal currency line = .ok (some found)) :
    (∀ foreign ∈ statement.foreignCurrency,
        foreign.id = (journal.currency.getD matching.companyCurrency).id) ∧
      (∃ own, line.currency = some own ∧
        own.id = (journal.currency.getD matching.companyCurrency).id) ∧
      (∃ stated opposite : N,
        roundCurrencyAmount (ofDecimal statement.amount) currency = .ok stated ∧
        roundCurrencyAmount (neg (ofDecimal (candidateAmount journal line))) currency =
          .ok opposite ∧
        same stated opposite = true) ∧
      line.reconciled = false ∧ (∀ move ∈ statement.move, move.id ≠ line.move.id) ∧
      ∃ components, scoreComponents matching statement line = .ok components ∧
        found = ⟨line, total (components.map Prod.snd), components⟩ := by
  unfold candidate at hcandidate
  simp only at hcandidate
  split at hcandidate
  · cases hcandidate
  rename_i hforeign
  split at hcandidate
  · cases hcandidate
  rename_i hown
  obtain ⟨stated, hstated, hrest⟩ := except_bind_ok.mp hcandidate
  obtain ⟨opposite, hopposite, hrest⟩ := except_bind_ok.mp hrest
  split at hrest
  · cases hrest
  rename_i hamounts
  split at hrest
  · cases hrest
  rename_i hmove
  obtain ⟨components, hcomponents, hfound⟩ := except_bind_ok.mp hrest
  cases hfound
  refine ⟨?_, ?_, ⟨stated, opposite, hstated, hopposite, ?_⟩, ?_, ?_, components, hcomponents, rfl⟩
  · intro foreign hstatement
    rw [Option.mem_def.mp hstatement] at hforeign
    simpa using hforeign
  · cases hcurrency : line.currency with
    | none => simp [hcurrency] at hown
    | some own => exact ⟨own, rfl, by simpa [hcurrency] using hown⟩
  · simp at hamounts
    exact hamounts.2
  · simp at hamounts
    exact hamounts.1
  · intro move hstatement
    rw [Option.mem_def.mp hstatement] at hmove
    simpa using hmove

theorem scoreComponents_exact (statement : BankStatementLine) (line : AccountMoveLine) :
    ∃ components, scoreComponents (N := ℚ) matching statement line = .ok components := by
  have hthirty : (ofDecimal (Decimal.ofInt 30) : ℚ) ≠ 0 := by
    change (Decimal.ofInt 30).value ≠ 0
    norm_num [Decimal.ofInt, Decimal.value, Decimal.sign]
  unfold scoreComponents
  simp only
  split
  · rw [div_exact hthirty]
    exact ⟨_, rfl⟩
  · exact ⟨_, rfl⟩

/-- Over exact numbers the candidate check raises for a zero increment only. -/
theorem candidate_exact {statement : BankStatementLine} {journal : Journal} {currency : Currency}
    (hincrement : currency.rounding.value ≠ 0) (line : AccountMoveLine) :
    ∃ found, candidate (N := ℚ) matching statement journal currency line = .ok found := by
  obtain ⟨components, hcomponents⟩ :
      ∃ components, scoreComponents (N := ℚ) matching statement line = .ok components :=
    scoreComponents_exact statement line
  have hrounds (amount : ℚ) : ∃ rounded, roundCurrencyAmount amount currency = .ok rounded :=
    ⟨_, roundedTo_exact hincrement⟩
  obtain ⟨stated, hstated⟩ := hrounds (ofDecimal statement.amount)
  obtain ⟨opposite, hopposite⟩ := hrounds (neg (ofDecimal (candidateAmount journal line)))
  unfold candidate
  simp only [hstated, hopposite, hcomponents]
  split
  · exact ⟨_, rfl⟩
  split
  · exact ⟨_, rfl⟩
  simp only [bind, Except.bind]
  split
  · exact ⟨_, rfl⟩
  split
  · exact ⟨_, rfl⟩
  · exact ⟨_, rfl⟩

/-- Exact rounding is symmetric, so that an amount rounds to the key of its opposite. -/
theorem roundsTo_of_opposite {amount residual : Decimal} {currency : Currency}
    (hincrement : currency.rounding.value ≠ 0) {key stated opposite : ℚ}
    (hkey : roundCurrencyAmount (neg (ofDecimal amount : ℚ)) currency = .ok key)
    (hstated : roundCurrencyAmount (ofDecimal amount : ℚ) currency = .ok stated)
    (hopposite : roundCurrencyAmount (neg (ofDecimal residual : ℚ)) currency = .ok opposite)
    (hsame : same stated opposite = true) : roundsTo residual currency key = true := by
  have hrounded (value : ℚ) : roundCurrencyAmount value currency =
      .ok (halfUp (value / currency.rounding.value) * currency.rounding.value) :=
    roundedTo_exact hincrement
  have hnegated (value : ℚ) :
      halfUp (neg value / currency.rounding.value) = -halfUp (value / currency.rounding.value) := by
    change halfUp (-value / _) = _
    rw [neg_div, halfUp_neg]
  rw [hrounded, Except.ok.injEq] at hkey hstated hopposite
  rw [hnegated] at hkey hopposite
  have hequal : stated = opposite := of_decide_eq_true hsame
  unfold roundsTo
  rw [hrounded]
  change decide (_ = key) = true
  rw [decide_eq_true_iff, ← hkey]
  linarith

/-- Over exact numbers, a line outside the bucket is not a candidate. -/
theorem candidate_outside {statement : BankStatementLine} {journal : Journal} {currency : Currency}
    {line : AccountMoveLine} {key : ℚ}
    (hcompany : matching.currencies matching.companyCurrency.id = some companyCurrency)
    (heffective : effectiveCurrency matching companyCurrency journal = .ok currency)
    (hkey : roundCurrencyAmount (neg (ofDecimal statement.amount : ℚ)) currency = .ok key)
    (houtside : inBucket matching companyCurrency journal key line = false) :
    candidate (N := ℚ) matching statement journal currency line = .ok none := by
  have hincrement : currency.rounding.value ≠ 0 := by
    intro hzero
    change roundedTo _ currency.rounding.value = _ at hkey
    rw [hzero, roundedTo_zero] at hkey
    cases hkey
  obtain ⟨found, hfound⟩ : ∃ found,
      candidate (N := ℚ) matching statement journal currency line = .ok found :=
    candidate_exact hincrement line
  cases found with
  | none => exact hfound
  | some accepted =>
      exfalso
      obtain ⟨-, ⟨own, hown, hid⟩, ⟨stated, opposite, hstated, hopposite, hsame⟩, -⟩ :=
        candidate_some hfound
      have hrounds := roundsTo_of_opposite hincrement hkey hstated hopposite hsame
      unfold inBucket at houtside
      unfold effectiveCurrency at heffective
      unfold candidateAmount at hrounds
      cases hjournal : journal.currency with
      | none =>
          rw [hjournal] at houtside heffective hid hrounds
          cases heffective
          have hinside : inCompanyBucket matching companyCurrency key line = true := by
            unfold inCompanyBucket
            rw [hown, Option.any_some, hid, Option.getD_none, hcompany]
            simpa using hrounds
          rw [hinside] at houtside
          cases houtside
      | some own' =>
          rw [hjournal] at houtside heffective hid hrounds
          change inCurrencyBucket matching (own'.id, key) line = false at houtside
          have hknown := orRaise_ok.mp heffective
          have hinside : inCurrencyBucket matching (own'.id, key) line = true := by
            unfold inCurrencyBucket
            rw [hown, Option.any_some, hid, Option.getD_some, hknown]
            simpa using hrounds
          rw [hinside] at houtside
          cases houtside

/-- With nonzero increments, the index is built. -/
theorem candidateIndex_exact {candidates : List AccountMoveLine}
    (hincrement : companyCurrency.rounding.value ≠ 0)
    (hincrements : ∀ id currency, matching.currencies id = some currency →
      currency.rounding.value ≠ 0) :
    ∃ index, candidateIndex (N := ℚ) matching companyCurrency candidates = .ok index := by
  have hrounds (amount : ℚ) {currency : Currency} (hcurrency : currency.rounding.value ≠ 0) :
      ∃ rounded, roundCurrencyAmount amount currency = .ok rounded := ⟨_, roundedTo_exact hcurrency⟩
  have hadds (index : CandidateIndex ℚ) (line : AccountMoveLine) :
      ∃ later, addCandidate matching companyCurrency index line = .ok later := by
    unfold addCandidate
    cases line.currency with
    | none => exact ⟨_, rfl⟩
    | some own =>
        cases hknown : matching.currencies own.id with
        | none => exact ⟨index, by simp only [hknown]⟩
        | some lineCurrency =>
            obtain ⟨companyKey, hcompanyKey⟩ := hrounds (ofDecimal line.residual) hincrement
            obtain ⟨key, hkey⟩ := hrounds (ofDecimal line.residualCurrency)
              (hincrements _ _ hknown)
            simp only [hknown, addToCompany, hcompanyKey, hkey]
            split <;> exact ⟨_, rfl⟩
  unfold candidateIndex
  generalize (⟨[], []⟩ : CandidateIndex ℚ) = start
  induction candidates generalizing start with
  | nil => exact ⟨start, rfl⟩
  | cons line candidates ih =>
      obtain ⟨later, hlater⟩ := hadds start line
      obtain ⟨index, hindex⟩ := ih later
      exact ⟨index, by rw [List.foldlM_cons]; exact except_bind_ok.mpr ⟨later, hlater, hindex⟩⟩

/-- **The index loses no candidate.** Over exact numbers, the candidates that a statement gets
through the index are those of a scan of all lines. -/
theorem indexed_scan_eq_full_scan {candidates lines : List AccountMoveLine}
    {index : CandidateIndex ℚ} {statement : BankStatementLine} {journal : Journal}
    {currency : Currency}
    (hcompany : matching.currencies matching.companyCurrency.id = some companyCurrency)
    (hindex : candidateIndex matching companyCurrency candidates = .ok index)
    (heffective : effectiveCurrency matching companyCurrency journal = .ok currency)
    (hlines : eligibleAmounts index statement journal currency = .ok lines) :
    scoredCandidates (N := ℚ) matching statement journal currency lines =
      scoredCandidates matching statement journal currency candidates := by
  obtain ⟨key, hkey, rfl⟩ := (eligibleAmounts_ok hindex).mp hlines
  exact scoredCandidates_filter fun line _ houtside =>
    candidate_outside hcompany heffective hkey houtside

/-! ### A statement of ten euros -/

def sampleCurrency : Currency := ⟨1, "EUR", ⟨false, 1, -2⟩⟩

def sampleJournal : Journal := ⟨7, "Bank", "BNK1", "bank", 1, none⟩

def sampleMatching : Matching where
  casefold reference := reference
  journals id := if id = 7 then some sampleJournal else none
  companyCurrency := .after 0 "EUR"
  currencies id := if id = 1 then some sampleCurrency else none

def sampleStatement (id : Int) (amount : Decimal) : BankStatementLine :=
  ⟨id, ⟨739000⟩, none, amount, none, none, none, .after 6 "Bank", 1, false, none⟩

def sampleLine (id : Int) (residual : Decimal) : AccountMoveLine where
  id := id
  move := .after 20 "INV/1"
  moveState := .posted
  account := .after 30 "Receivable"
  journal := .after 8 "Sales"
  partner := none
  companyId := 1
  currency := some (.after 0 "EUR")
  date := ⟨739000⟩
  maturityDate := none
  label := none
  debit := Decimal.zero
  credit := Decimal.zero
  balance := Decimal.zero
  amountCurrency := Decimal.zero
  residual := residual
  residualCurrency := residual
  reconciled := false
  analyticDistribution := []

theorem indexed_scan_eq_full_scan_sample :
    ∃ index lines, candidateIndex (N := ℚ) sampleMatching sampleCurrency
        [sampleLine 1 ⟨true, 10005, -3⟩, sampleLine 2 ⟨false, 5, 0⟩] = .ok index ∧
      eligibleAmounts index (sampleStatement 3 ⟨false, 10005, -3⟩) sampleJournal sampleCurrency =
        .ok lines ∧
      scoredCandidates (N := ℚ) sampleMatching (sampleStatement 3 ⟨false, 10005, -3⟩) sampleJournal
          sampleCurrency lines =
        scoredCandidates sampleMatching (sampleStatement 3 ⟨false, 10005, -3⟩) sampleJournal
          sampleCurrency [sampleLine 1 ⟨true, 10005, -3⟩, sampleLine 2 ⟨false, 5, 0⟩] := by
  have hincrement : sampleCurrency.rounding.value ≠ 0 := by
    norm_num [sampleCurrency, Decimal.value, Decimal.sign]
  have hincrements (id : Int) (currency : Currency)
      (hcurrency : sampleMatching.currencies id = some currency) :
      currency.rounding.value ≠ 0 := by
    simp only [sampleMatching, Option.ite_none_right_eq_some, Option.some.injEq] at hcurrency
    exact hcurrency.2 ▸ hincrement
  obtain ⟨index, hindex⟩ : ∃ index, candidateIndex (N := ℚ) sampleMatching sampleCurrency
      [sampleLine 1 ⟨true, 10005, -3⟩, sampleLine 2 ⟨false, 5, 0⟩] = .ok index :=
    candidateIndex_exact hincrement hincrements
  obtain ⟨lines, hlines⟩ : ∃ lines, eligibleAmounts index (sampleStatement 3 ⟨false, 10005, -3⟩)
      sampleJournal sampleCurrency = .ok lines :=
    ⟨_, (eligibleAmounts_ok hindex).mpr ⟨_, roundedTo_exact hincrement, rfl⟩⟩
  exact ⟨index, lines, hindex, hlines, indexed_scan_eq_full_scan rfl hindex rfl hlines⟩

end ReconcileBank

end OdooMcp
