import OdooMcp.DateTimeText
import OdooMcp.Pagination
import OdooMcp.Workflows.RateHistory

/-!
# Pages of a rate history

Whatever the order in which the rates are read, and however they are split into pages, the same rate
is chosen for each date. The pages of the history show the chosen rates of the period, the latest
first.
-/

namespace OdooMcp

namespace RateHistory

open Effect Pagination

/-- The rates of a currency that a company sees: its own and those that are shared. -/
structure RateBook (rootId : Int) where
  rates : List CurrencyRate
  nodup : (rates.map (·.id)).Nodup
  visible : ∀ rate ∈ rates, rate.companyId = none ∨ rate.companyId = some rootId
  bounded : rates.length ≤ 100000

/-! ### The choice -/

/-- A rate goes before all others of its date: one of the company if there is any, and then the one
with the highest id. -/
structure Chosen (rootId : Int) (rates : List CurrencyRate) (rate : CurrencyRate) : Prop where
  mem : rate ∈ rates
  company : ∀ other ∈ rates, other.effectiveDate = rate.effectiveDate →
    other.companyId = some rootId → rate.companyId = some rootId
  highest : ∀ other ∈ rates, other.effectiveDate = rate.effectiveDate →
    other.companyId = rate.companyId → other.id ≤ rate.id

section Choice

variable {rootId : Int} {rates others : List CurrencyRate} {rate : CurrencyRate}

theorem chooses_byDate (rootId : Int) (rates : List CurrencyRate) :
    BestByKey.Chooses (·.effectiveDate.ordinal) (rank rootId) rates (byDate rootId rates) :=
  BestByKey.chooses_best rates

theorem mem_ordered : rate ∈ ordered rootId rates ↔ rate ∈ byDate rootId rates :=
  (List.perm_insertionSort _ _).mem_iff

theorem date_ext {first second : Date} (hsame : first.ordinal = second.ordinal) :
    first = second := by
  cases first
  cases second
  exact congrArg Date.mk hsame

theorem chosen_of_mem (hrate : rate ∈ ordered rootId rates) : Chosen rootId rates rate := by
  have hchooses := chooses_byDate rootId rates
  have hmem := mem_ordered.mp hrate
  have hrank (other : CurrencyRate) (hother : other ∈ rates)
      (hdate : other.effectiveDate = rate.effectiveDate) : rank rootId other ≤ rank rootId rate :=
    hchooses.best rate hmem other hother (congrArg Date.ordinal hdate)
  refine ⟨hchooses.mem rate hmem, fun other hother hdate hcompany => ?_,
    fun other hother hdate hscope => ?_⟩
  · have hle := Prod.Lex.toLex_le_toLex.mp (hrank other hother hdate)
    by_contra hshared
    rw [decide_eq_true hcompany, decide_eq_false hshared] at hle
    rcases hle with hlt | ⟨hsame, -⟩
    · exact absurd (show true < false from hlt) (by decide)
    · cases hsame
  · have hle := Prod.Lex.toLex_le_toLex.mp (hrank other hother hdate)
    rw [hscope] at hle
    rcases hle with hlt | ⟨-, hid⟩
    · exact absurd hlt (lt_irrefl _)
    · exact hid

theorem exists_ordered (rootId : Int) (hrate : rate ∈ rates) :
    ∃ chosen ∈ ordered rootId rates, chosen.effectiveDate = rate.effectiveDate := by
  obtain ⟨chosen, hchosen, hdate⟩ :=
    List.mem_map.mp ((chooses_byDate rootId rates).keys rate hrate)
  exact ⟨chosen, mem_ordered.mpr hchosen, date_ext hdate⟩

theorem nodup_ordered (rootId : Int) (rates : List CurrencyRate) :
    ((ordered rootId rates).map (·.effectiveDate.ordinal)).Nodup :=
  (((List.perm_insertionSort _ _).map _).nodup_iff).mpr (chooses_byDate rootId rates).nodup

/-- The chosen rates stand from the latest to the earliest. -/
theorem pairwise_ordered (rootId : Int) (rates : List CurrencyRate) :
    (ordered rootId rates).Pairwise fun first second =>
      second.effectiveDate.ordinal < first.effectiveDate.ordinal := by
  have hsorted : (ordered rootId rates).Pairwise fun first second =>
      rateOrder second ≤ rateOrder first := List.pairwise_insertionSort _ _
  have hdistinct := List.pairwise_map.mp (nodup_ordered rootId rates)
  refine (hsorted.and hdistinct).imp fun ⟨hle, hne⟩ => ?_
  rcases Prod.Lex.toLex_le_toLex.mp hle with hlt | ⟨hsame, -⟩
  · exact hlt
  · exact absurd hsame.symm hne

/-- The choice does not depend on the order of the rates. -/
theorem ordered_perm (hnodup : (rates.map (·.id)).Nodup) (hperm : rates.Perm others) :
    ordered rootId rates = ordered rootId others := by
  have hchosen : (byDate rootId rates).Perm (byDate rootId others) := by
    refine BestByKey.Chooses.perm hperm ?_ (chooses_byDate rootId rates)
      (chooses_byDate rootId others)
    intro first hfirst second hsecond _ hrank
    exact List.inj_on_of_nodup_map hnodup hfirst hsecond
      (congrArg (fun rank => (ofLex rank).2) hrank)
  have hsorted : (ordered rootId rates).Perm (ordered rootId others) :=
    (List.perm_insertionSort _ _).trans (hchosen.trans (List.perm_insertionSort _ _).symm)
  refine hsorted.eq_of_pairwise ?_ (pairwise_ordered rootId rates) (pairwise_ordered rootId others)
  intro first second _ _ hlt hgt
  omega

end Choice

/-! ### Pages of rates -/

abbrev RateSource := (read : RateRead) → Except PyException (rateReads.Result read)

section Reading

variable {source : RateSource} {currency : RelatedRecord} {rootId : Int}

/-- The source returns some rates from a cursor on, and then those of the cursors that follow. -/
def Serves (source : RateSource) (currency : RelatedRecord) (rootId : Int) :
    Option String → List CurrencyRate → List (String × List CurrencyRate) → Prop
  | cursor, items, [] => source (.rates cursor) = .ok ⟨currency, rootId, items, none⟩
  | cursor, items, (next, following) :: rest =>
      source (.rates cursor) = .ok ⟨currency, rootId, items, some next⟩ ∧ items ≠ [] ∧
        Serves source currency rootId (some next) following rest

theorem pageAccepted_of_new {read items : List CurrencyRate} {next : Option String}
    (hids : ((read ++ items).map (·.id)).Nodup) (hitems : next.isSome → items ≠ []) :
    pageAccepted currency rootId read ⟨currency, rootId, items, next⟩ = true := by
  rw [List.map_append] at hids
  have hnew : (items.all fun item => !(read.map (·.id)).contains item.id) = true := by
    refine List.all_eq_true.mpr fun item hitem => ?_
    rw [Bool.not_eq_true', Bool.eq_false_iff, Ne, List.contains_iff_mem]
    exact fun hold => List.disjoint_of_nodup_append hids hold (List.mem_map_of_mem hitem)
  cases next with
  | none => simpa [pageAccepted] using hnew
  | some next =>
      have hsome := hitems rfl
      simp [pageAccepted, hsome]
      simpa using hnew

/-- The loop reads all rates of the pages. -/
theorem readRates_of_serves {rest : List (String × List CurrencyRate)} :
    ∀ {read items : List CurrencyRate} {seenCursors : List String} {cursor : Option String},
    Serves source currency rootId cursor items rest →
    (∀ seen ∈ seenCursors, seen ∉ rest.map (·.1)) → (rest.map (·.1)).Nodup →
    ((read ++ items ++ rest.flatMap (·.2)).map (·.id)).Nodup →
    (read ++ items ++ rest.flatMap (·.2)).length ≤ 100000 →
    (readRates currency rootId read seenCursors cursor).evaluate source =
      .ok (read ++ items ++ rest.flatMap (·.2)) := by
  induction rest with
  | nil =>
      intro read items seenCursors cursor hserves _ _ hids hbound
      have hpage : source (.rates cursor) = .ok ⟨currency, rootId, items, none⟩ := hserves
      rw [List.flatMap_nil, List.append_nil] at hids hbound ⊢
      have haccepted : pageAccepted currency rootId read ⟨currency, rootId, items, none⟩ = true :=
        pageAccepted_of_new hids (by simp)
      have hgo : ¬(pageAccepted currency rootId read ⟨currency, rootId, items, none⟩ = false ∨
          100000 < (read ++ items).length) := by
        rw [haccepted]
        simpa using hbound
      rw [readRates, Program.evaluate_bind_of_ok ((Program.evaluate_call _).trans hpage),
        dif_neg hgo]
      rfl
  | cons page rest ih =>
      obtain ⟨next, following⟩ := page
      rintro read items seenCursors cursor ⟨hpage, hitems, hserves⟩ hseen hcursors hids hbound
      have hsplit : read ++ items ++ ((next, following) :: rest).flatMap (·.2) =
          read ++ items ++ following ++ rest.flatMap (·.2) := by
        rw [List.flatMap_cons, List.append_assoc (read ++ items)]
      rw [hsplit] at hids hbound ⊢
      have hidsRead : ((read ++ items).map (·.id)).Nodup := by
        refine hids.sublist (List.Sublist.map _ ?_)
        rw [List.append_assoc]
        exact List.sublist_append_left _ _
      have haccepted : pageAccepted currency rootId read ⟨currency, rootId, items, some next⟩ =
          true := pageAccepted_of_new hidsRead fun _ => hitems
      have hlength : (read ++ items).length ≤ 100000 := by
        refine le_trans ?_ hbound
        rw [List.append_assoc (read ++ items)]
        exact (List.sublist_append_left _ _).length_le
      rw [List.map_cons, List.nodup_cons] at hcursors
      have hnext : seenCursors.contains next = false := by
        rw [Bool.eq_false_iff, Ne, List.contains_iff_mem]
        exact fun hmem => hseen next hmem List.mem_cons_self
      have hgo : ¬(pageAccepted currency rootId read ⟨currency, rootId, items, some next⟩ = false ∨
          100000 < (read ++ items).length) := by
        rw [haccepted]
        simpa using hlength
      rw [readRates, Program.evaluate_bind_of_ok ((Program.evaluate_call _).trans hpage),
        dif_neg hgo]
      dsimp only
      rw [hnext]
      refine ih hserves ?_ hcursors.2 hids hbound
      intro seen hmem
      rcases List.mem_cons.mp hmem with rfl | hmem
      · exact hcursors.1
      · exact fun hrest => hseen seen hmem (List.mem_cons_of_mem _ hrest)

end Reading

/-! ### Cursors -/

section Cursors

variable {request : CurrencyRateHistoryInput}

theorem plainField_padded (width value : Nat) :
    PlainField (Calendar.padded width value).toList := by
  rw [Calendar.padded, String.toList_append, String.toList_ofList]
  refine PlainField.append (fun character hcharacter => ?_) (plainField_repr value)
  obtain rfl := List.eq_of_mem_replicate hcharacter
  decide

theorem plainField_isoformat (date : Date) : PlainField date.isoformat.toList := by
  have hdash : PlainField "-".toList := by decide
  rw [Date.isoformat]
  simp only [String.toList_append]
  exact ((((plainField_padded _ _).append hdash).append (plainField_padded _ _)).append
    hdash).append (plainField_padded _ _)

theorem length_isoformat {date : Date} (hdate : date.ordinal < endOfDates) :
    date.isoformat.toList.length = 10 := by
  obtain ⟨hyear, hmonth, hday⟩ := Calendar.civil_bounds hdate
  rw [Date.isoformat]
  simp only [String.toList_append, Calendar.padded_toList 3 hyear, Calendar.padded_toList 1 hmonth,
    Calendar.padded_toList 1 hday, List.length_append, Calendar.length_lastDigits]
  rfl

theorem plainField_toString {number : Int} (hpositive : 0 < number) :
    PlainField (toString number).toList := by
  obtain ⟨value, rfl⟩ := Int.eq_ofNat_of_zero_le hpositive.le
  exact plainField_repr value

theorem plain_cursorFields (request : CurrencyRateHistoryInput) (offset : Nat) :
    ∀ field ∈ cursorFields request (toString offset), PlainField field := by
  have hversion : PlainField "v1".toList := by decide
  simp only [cursorFields, List.forall_mem_cons]
  exact ⟨hversion, plainField_toString request.company_pos,
    plainField_toString request.currency_pos,
    plainField_isoformat _, plainField_isoformat _, plainField_repr offset,
    fun _ hnone => absurd hnone List.not_mem_nil⟩

/-- A cursor of the history stands for its offset. -/
theorem rateOffset_rateCursor {offset : Nat} (hpositive : 0 < offset) (hoffset : Held offset) :
    rateOffset request (some (rateCursor request offset)) = .ok offset := by
  obtain ⟨payload, hpayload, hsplit⟩ :=
    splitOn_fieldsText (plain_cursorFields request offset) (List.cons_ne_nil _ _)
  refine except_bind_ok.mpr ⟨payload, orRaise_ok.mpr hpayload, ?_⟩
  rw [hsplit, cursorFields]
  refine except_bind_ok.mpr ⟨(offset : Int), orRaise_ok.mpr (parseInt?_of_held hoffset),
    except_bind_ok.mpr ⟨(), ensure_ok.mpr ?_, rfl⟩⟩
  rw [Bool.and_eq_true, decide_eq_true_eq, decide_eq_true_eq, cursorFields, String.ofList_toList]
  exact ⟨rfl, by exact_mod_cast hpositive⟩

theorem length_rateCursor (hcompany : Held request.companyId.toNat)
    (hcurrency : Held request.currencyId.toNat) {offset : Nat} (hoffset : offset < 100000) :
    (rateCursor request offset).length ≤ 128 := by
  have hversion : "v1".length = 2 := by decide
  have hdigits : (toString offset).length ≤ 5 := Nat.repr_length offset 5 (by decide) hoffset
  have hstart := length_isoformat
    (Nat.lt_of_le_of_lt request.period.ordered request.finish_lt)
  have hfinish := length_isoformat request.finish_lt
  have hnumber {number : Int} (hpositive : 0 < number) (hheld : Held number.toNat) :
      (toString number).length ≤ 19 := by
    obtain ⟨value, rfl⟩ := Int.eq_ofNat_of_zero_le hpositive.le
    exact digits_of_held hheld
  have hcompanyText := hnumber request.company_pos hcompany
  have hcurrencyText := hnumber request.currency_pos hcurrency
  refine length_fieldsText_le ?_
  simp only [cursorFields, List.map_cons, List.map_nil, List.sum_cons, List.sum_nil,
    String.length_toList] at hstart hfinish ⊢
  omega

end Cursors

/-! ### The history of a book -/

section Shown

variable {rootId : Int} (book : RateBook rootId) (request : CurrencyRateHistoryInput)

/-- The rate that is in force at the start of the period. -/
def prior : Option CurrencyRate :=
  (ordered rootId book.rates).find? fun rate =>
    rate.effectiveDate.ordinal ≤ request.period.start.ordinal

def inPeriod (rate : CurrencyRate) : Bool :=
  request.period.start.ordinal ≤ rate.effectiveDate.ordinal &&
    rate.effectiveDate.ordinal ≤ request.period.finish.ordinal

def points : List CurrencyRateItem :=
  ((ordered rootId book.rates).filter (inPeriod request)).map (rateItem rootId)

def shownHistory : History where
  effective := (prior book request).map fun rate => (rateItem rootId rate).effective
  items := points book request
  status := if (prior book request).isSome then .available else .missing

variable {book request}

theorem point_of_visible {rate : CurrencyRate} (hrate : rate ∈ ordered rootId book.rates) :
    point rootId rate = .ok (rateItem rootId rate) := by
  refine except_bind_ok.mpr ⟨(), ensure_ok.mpr ?_, rfl⟩
  rw [Bool.or_eq_true, decide_eq_true_eq, decide_eq_true_eq]
  exact book.visible rate (chosen_of_mem hrate).mem

/-- In whatever order the rates were read, the history is that of the book. -/
theorem historyOf_perm {rates : List CurrencyRate} (hperm : rates.Perm book.rates) :
    historyOf request rootId rates = .ok (shownHistory book request) := by
  have hsame : ordered rootId rates = ordered rootId book.rates :=
    ordered_perm (((hperm.map _).nodup_iff).mpr book.nodup) hperm
  have hitems : ((ordered rootId book.rates).filter (inPeriod request)).mapM (point rootId) =
      .ok (points book request) := by
    refine mapM_ok_of_forall₂ (List.forall₂_map_right_iff.mpr (List.forall₂_same.mpr ?_))
    exact fun rate hrate => point_of_visible (List.mem_of_mem_filter hrate)
  have heffective : (prior book request).mapM (point rootId) =
      .ok ((prior book request).map (rateItem rootId)) := by
    cases hprior : prior book request with
    | none => rfl
    | some rate =>
        change (some <$> point rootId rate) = _
        rw [point_of_visible (List.mem_of_find?_eq_some hprior)]
        rfl
  unfold historyOf
  dsimp only
  rw [hsame]
  refine except_bind_ok.mpr ⟨_, heffective, except_bind_ok.mpr ⟨_, hitems, ?_⟩⟩
  rw [shownHistory, Option.map_map, Option.isSome_map]
  rfl

end Shown

/-! ### Requests -/

structure Setting (request : CurrencyRateHistoryInput) where
  company : Company
  currency : RelatedRecord
  rootId : Int
  requested : CurrencyRateDescriptor
  company_currency : company.currency = some currency
  company_root : company.rootId = some rootId
  requested_id : requested.id = request.currencyId

variable {request : CurrencyRateHistoryInput} {setting : Setting request}

/-- A source returns the rates of a book, split into some pages, in some order. -/
structure Splits (setting : Setting request) (book : RateBook setting.rootId)
    (source : RateSource) : Prop where
  currencies : ∃ page, source .currencies = .ok page ∧
    requestedCurrency request page = .ok setting.requested
  rates : ∃ first rest, Serves source setting.currency setting.rootId none first rest ∧
    (rest.map (·.1)).Nodup ∧ (first ++ rest.flatMap (·.2)).Perm book.rates

/-- The page that a cursor stands for; each request has its own source. -/
def fetch (setting : Setting request) (sources : Option String → RateSource)
    (cursor : Option String) : Except PyException CurrencyRateHistoryResponse := do
  let asked ← request.withCursor cursor
  (getCurrencyRateHistory asked setting.company).evaluate (sources cursor)

theorem readRates_of_splits {book : RateBook setting.rootId} {source : RateSource}
    (hsplits : Splits setting book source) :
    ∃ rates, (readRates setting.currency setting.rootId [] [] none).evaluate source = .ok rates ∧
      rates.Perm book.rates := by
  obtain ⟨first, rest, hserves, hcursors, hperm⟩ := hsplits.rates
  have hread : (readRates setting.currency setting.rootId [] [] none).evaluate source =
      .ok ([] ++ first ++ rest.flatMap (·.2)) := by
    refine readRates_of_serves hserves (fun _ hseen => absurd hseen List.not_mem_nil) hcursors ?_ ?_
    · exact ((hperm.map _).nodup_iff).mpr book.nodup
    · exact hperm.length_eq.trans_le book.bounded
  exact ⟨_, hread, hperm⟩

/-- A request is answered with a page of the history that is read for it. -/
theorem fetch_of_history {sources : Option String → RateSource} {cursor : Option String}
    {page : RecordPage Currency} (hpage : sources cursor .currencies = .ok page)
    (hrequested : requestedCurrency request page = .ok setting.requested)
    (hnamed : request.currencyId ≠ setting.currency.id ∨
      setting.requested.name = setting.currency.name) {history : History}
    (hhistory : (readHistory request setting.currency setting.rootId).evaluate (sources cursor) =
      .ok history) :
    fetch setting sources cursor = (do
      let _ ← request.withCursor cursor
      let offset ← rateOffset request cursor
      historyPage request setting.currency setting.requested history offset) := by
  unfold fetch CurrencyRateHistoryInput.withCursor
  split
  · rename_i hlength
    have hcurrency : (Program.ofExcept (orRaise setting.company.currency invalidData) :
        RateProgram RelatedRecord).evaluate (sources cursor) = .ok setting.currency := by
      rw [Program.evaluate_ofExcept, setting.company_currency]
      rfl
    have hroot : (Program.ofExcept (orRaise setting.company.rootId invalidData) :
        RateProgram Int).evaluate (sources cursor) = .ok setting.rootId := by
      rw [Program.evaluate_ofExcept, setting.company_root]
      rfl
    have hcall : (Program.call (S := rateReads) .currencies :
        RateProgram (RecordPage Currency)).evaluate (sources cursor) = .ok page :=
      (Program.evaluate_call _).trans hpage
    have hasked : (Program.ofExcept (requestedCurrency request page) :
        RateProgram CurrencyRateDescriptor).evaluate (sources cursor) = .ok setting.requested :=
      (Program.evaluate_ofExcept _).trans hrequested
    have hsame : (Program.ofExcept (ensure (request.currencyId ≠ setting.currency.id ||
        setting.requested.name = setting.currency.name) invalidData) :
          RateProgram Unit).evaluate (sources cursor) = .ok () := by
      rw [Program.evaluate_ofExcept, ensure_ok, Bool.or_eq_true, decide_eq_true_eq,
        decide_eq_true_eq]
      exact hnamed
    change Program.evaluate (sources cursor) (getCurrencyRateHistory _ setting.company) = _
    refine (Program.evaluate_bind_of_ok hcurrency _).trans ?_
    refine (Program.evaluate_bind_of_ok hroot _).trans ?_
    refine (Program.evaluate_bind_of_ok hcall _).trans ?_
    refine (Program.evaluate_bind_of_ok hasked _).trans ?_
    refine (Program.evaluate_bind_of_ok hsame _).trans ?_
    rw [Program.evaluate_bind, Program.evaluate_ofExcept]
    refine congrArg (rateOffset request cursor >>= ·) (funext fun offset => ?_)
    refine (Program.evaluate_bind_of_ok hhistory _).trans ?_
    rw [Program.evaluate_ofExcept]
    rfl
  · rfl

/-- What a request for a foreign currency is answered with. -/
theorem fetch_foreign {book : RateBook setting.rootId} {sources : Option String → RateSource}
    (hforeign : request.currencyId ≠ setting.currency.id) (cursor : Option String)
    (hsplits : Splits setting book (sources cursor)) :
    fetch setting sources cursor = (do
      let _ ← request.withCursor cursor
      let offset ← rateOffset request cursor
      historyPage request setting.currency setting.requested (shownHistory book request)
        offset) := by
  obtain ⟨page, hpage, hrequested⟩ := hsplits.currencies
  obtain ⟨rates, hrates, hperm⟩ := readRates_of_splits hsplits
  refine fetch_of_history hpage hrequested (.inl hforeign) ?_
  rw [readHistory, if_neg hforeign, Program.evaluate_bind_of_ok hrates, Program.evaluate_ofExcept,
    historyOf_perm hperm]

/-- The history of the company's own currency is empty, whatever rates it has. -/
theorem fetch_own {book : RateBook setting.rootId} {sources : Option String → RateSource}
    (hown : request.currencyId = setting.currency.id)
    (hnamed : setting.requested.name = setting.currency.name) (cursor : Option String)
    (hsplits : Splits setting book (sources cursor)) :
    fetch setting sources cursor = (do
      let _ ← request.withCursor cursor
      let offset ← rateOffset request cursor
      historyPage request setting.currency setting.requested (identityHistory request) offset) := by
  obtain ⟨page, hpage, hrequested⟩ := hsplits.currencies
  refine fetch_of_history hpage hrequested (.inr hnamed) ?_
  rw [readHistory, if_pos hown]
  rfl

/-- What a whole history shows: for each date of the period that has a rate the chosen one, the
latest first, and at its start the choice of the latest date up to then. -/
structure Describes (request : CurrencyRateHistoryInput) (rootId : Int)
    (rates : List CurrencyRate) (effective : Option EffectiveCurrencyRate)
    (items : List CurrencyRateItem) : Prop where
  decreasing : (items.map (·.effectiveDate.ordinal)).Pairwise (· > ·)
  dates : ∀ date : Date, date ∈ items.map (·.effectiveDate) ↔
    request.period.start.ordinal ≤ date.ordinal ∧ date.ordinal ≤ request.period.finish.ordinal ∧
      ∃ rate ∈ rates, rate.effectiveDate = date
  chosen : ∀ item ∈ items, ∃ rate, Chosen rootId rates rate ∧ item = rateItem rootId rate
  absent : effective = none ↔
    ∀ rate ∈ rates, ¬ rate.effectiveDate.ordinal ≤ request.period.start.ordinal
  atStart : ∀ shown ∈ effective, ∃ rate, Chosen rootId rates rate ∧
    rate.effectiveDate.ordinal ≤ request.period.start.ordinal ∧
    (∀ other ∈ rates, other.effectiveDate.ordinal ≤ request.period.start.ordinal →
      other.effectiveDate.ordinal ≤ rate.effectiveDate.ordinal) ∧
    shown = (rateItem rootId rate).effective

section Described

variable {rootId : Int} {book : RateBook rootId}

theorem prior_eq_none : prior book request = none ↔
    ∀ rate ∈ book.rates, ¬ rate.effectiveDate.ordinal ≤ request.period.start.ordinal := by
  rw [prior, List.find?_eq_none]
  constructor
  · intro hnone rate hrate hle
    obtain ⟨chosen, hchosen, hdate⟩ := exists_ordered rootId hrate
    refine hnone chosen hchosen ?_
    rw [hdate]
    exact decide_eq_true hle
  · intro hnone rate hrate hle
    exact hnone rate (chosen_of_mem hrate).mem (of_decide_eq_true hle)

/-- The rate in force at the start is the choice of the latest date up to it. -/
theorem latest_of_prior {rate : CurrencyRate} (hprior : prior book request = some rate) :
    rate ∈ ordered rootId book.rates ∧
      rate.effectiveDate.ordinal ≤ request.period.start.ordinal ∧
      ∀ other ∈ book.rates, other.effectiveDate.ordinal ≤ request.period.start.ordinal →
        other.effectiveDate.ordinal ≤ rate.effectiveDate.ordinal := by
  obtain ⟨hle, before, after, hsplit, hbefore⟩ := List.find?_eq_some_iff_append.mp hprior
  have hmem : rate ∈ ordered rootId book.rates := List.mem_of_find?_eq_some hprior
  refine ⟨hmem, of_decide_eq_true hle, fun other hother hotherLe => ?_⟩
  obtain ⟨chosen, hchosen, hdate⟩ := exists_ordered rootId hother
  rw [← hdate] at hotherLe ⊢
  have hsorted := pairwise_ordered rootId book.rates
  rw [hsplit] at hchosen hsorted
  rcases List.mem_append.mp hchosen with hfirst | hrest
  · have hnot := hbefore chosen hfirst
    rw [Bool.not_eq_true', decide_eq_false_iff_not] at hnot
    exact absurd hotherLe hnot
  · rcases List.mem_cons.mp hrest with rfl | hlater
    · exact le_rfl
    · have htail := (List.pairwise_append.mp hsorted).2.1
      exact ((List.pairwise_cons.mp htail).1 chosen hlater).le

theorem describes_shownHistory (book : RateBook rootId) (request : CurrencyRateHistoryInput) :
    Describes request rootId book.rates (shownHistory book request).effective
      (shownHistory book request).items := by
  refine ⟨?_, fun date => ?_, fun item hitem => ?_, ?_, fun shown hshown => ?_⟩
  · change ((((ordered rootId book.rates).filter (inPeriod request)).map (rateItem rootId)).map
      (·.effectiveDate.ordinal)).Pairwise (· > ·)
    rw [List.map_map, List.pairwise_map]
    exact (pairwise_ordered rootId book.rates).sublist List.filter_sublist
  · change date ∈ (((ordered rootId book.rates).filter (inPeriod request)).map
      (rateItem rootId)).map (·.effectiveDate) ↔ _
    rw [List.map_map, List.mem_map]
    constructor
    · rintro ⟨rate, hrate, rfl⟩
      obtain ⟨hmem, hperiod⟩ := List.mem_filter.mp hrate
      rw [inPeriod, Bool.and_eq_true, decide_eq_true_eq, decide_eq_true_eq] at hperiod
      exact ⟨hperiod.1, hperiod.2, rate, (chosen_of_mem hmem).mem, rfl⟩
    · rintro ⟨hstart, hfinish, rate, hrate, rfl⟩
      obtain ⟨chosen, hchosen, hdate⟩ := exists_ordered rootId hrate
      refine ⟨chosen, List.mem_filter.mpr ⟨hchosen, ?_⟩, hdate⟩
      rw [inPeriod, hdate, Bool.and_eq_true, decide_eq_true_eq, decide_eq_true_eq]
      exact ⟨hstart, hfinish⟩
  · obtain ⟨rate, hrate, rfl⟩ := List.mem_map.mp hitem
    exact ⟨rate, chosen_of_mem (List.mem_of_mem_filter hrate), rfl⟩
  · rw [shownHistory, Option.map_eq_none_iff, prior_eq_none]
  · obtain ⟨rate, hprior, rfl⟩ := Option.map_eq_some_iff.mp hshown
    obtain ⟨hmem, hle, hlatest⟩ := latest_of_prior hprior
    exact ⟨rate, chosen_of_mem hmem, hle, hlatest, rfl⟩

theorem length_points_le (book : RateBook rootId) (request : CurrencyRateHistoryInput) :
    (points book request).length ≤ book.rates.length := by
  have hchooses := chooses_byDate rootId book.rates
  have hchosen : (byDate rootId book.rates).length ≤ book.rates.length :=
    (hchooses.nodup.of_map.subperm hchooses.mem).length_le
  refine le_trans ?_ hchosen
  rw [points, List.length_map]
  refine (List.length_filter_le _ _).trans ?_
  rw [ordered, List.length_insertionSort]

end Described

/-! ### All pages -/

/-- Following the cursors ends, the pages show the history of the rates, and each of them tells the
same of the start of the period. -/
def Shows (setting : Setting request) (rates : List CurrencyRate)
    (sources : Option String → RateSource) : Prop :=
  ∃ effective pages,
    (∀ fuel, rates.length < fuel →
      follow (fetch setting sources) (·.nextCursor) fuel none = .ok (some pages)) ∧
    Describes request setting.rootId rates effective (pages.flatMap (·.items)) ∧
    ∀ page ∈ pages, page.effectiveAtStart = effective

section Pages

variable {book : RateBook setting.rootId} {sources : Option String → RateSource}
  (hforeign : request.currencyId ≠ setting.currency.id)
  (hsplits : ∀ cursor, Splits setting book (sources cursor))
include hforeign hsplits

theorem fetch_ok {cursor : Option String} {offset : Nat}
    (hlength : ∀ text ∈ cursor, text.length ≤ 128)
    (hoffset : rateOffset request cursor = .ok offset)
    (hle : offset ≤ (points book request).length) :
    fetch setting sources cursor = .ok (historyResponse request setting.currency setting.requested
      (shownHistory book request) offset) := by
  rw [fetch_foreign hforeign cursor (hsplits cursor), CurrencyRateHistoryInput.withCursor,
    dif_pos hlength]
  exact except_bind_ok.mpr ⟨_, rfl, except_bind_ok.mpr ⟨offset, hoffset, except_bind_ok.mpr
    ⟨(), ensure_ok.mpr (decide_eq_true hle), rfl⟩⟩⟩

/-- The cursors of a history stand for the offsets into its points. -/
theorem byOffset_fetch (hcompany : Held request.companyId.toNat)
    (hcurrency : Held request.currencyId.toNat) :
    ByOffset (fetch setting sources) (·.items) (·.nextCursor) (points book request) request.limit
      (rateCursor request) := by
  have hat (offset : Nat) : PageAt (·.items) (·.nextCursor) (points book request) request.limit
      (rateCursor request) offset (historyResponse request setting.currency setting.requested
        (shownHistory book request) offset) := ⟨rfl, rfl⟩
  refine ⟨⟨_, fetch_ok hforeign hsplits (by simp) rfl (Nat.zero_le _), hat 0⟩,
    fun offset hpositive hlt => ?_⟩
  have hbounded : offset < 100000 :=
    hlt.trans_le ((length_points_le book request).trans book.bounded)
  refine ⟨_, fetch_ok hforeign hsplits ?_ (rateOffset_rateCursor hpositive
    (Nat.lt_trans hbounded (by decide))) hlt.le, hat offset⟩
  rintro text ⟨⟩
  exact length_rateCursor hcompany hcurrency hbounded

theorem effective_of_fetch {cursor : Option String} {page : CurrencyRateHistoryResponse}
    (hpage : fetch setting sources cursor = .ok page) :
    page.effectiveAtStart = (shownHistory book request).effective := by
  rw [fetch_foreign hforeign cursor (hsplits cursor)] at hpage
  obtain ⟨asked, -, hrest⟩ := except_bind_ok.mp hpage
  obtain ⟨offset, -, hrest⟩ := except_bind_ok.mp hrest
  obtain ⟨⟨⟩, -, hdone⟩ := except_bind_ok.mp hrest
  cases hdone
  rfl

theorem shows_of_splits (hcompany : Held request.companyId.toNat)
    (hcurrency : Held request.currencyId.toNat) : Shows setting book.rates sources := by
  obtain ⟨pages, hpages⟩ :=
    (byOffset_fetch hforeign hsplits hcompany hcurrency).followed request.limit_pos
  refine ⟨(shownHistory book request).effective, pages, fun fuel hfuel => hpages.followed fuel ?_,
    ?_, fun page hpage => ?_⟩
  · exact Nat.lt_of_le_of_lt (length_points_le book request) hfuel
  · rw [hpages.items_eq]
    exact describes_shownHistory book request
  · obtain ⟨cursor, hfetched⟩ := hpages.fetched page hpage
    exact effective_of_fetch hforeign hsplits hfetched

end Pages

/-- **The history of a foreign currency.** In whatever order and pages the rates are read, even if
anew for each request, the pages show one point for each date of the period that has a rate, the
latest first: of the company if it has a rate of that date, and of those the one with the highest
id. At the start of the period the choice of the latest date is in force. -/
theorem currency_rate_history {book : RateBook setting.rootId}
    {sources : Option String → RateSource} (hforeign : request.currencyId ≠ setting.currency.id)
    (hcompany : Held request.companyId.toNat) (hcurrency : Held request.currencyId.toNat)
    (hsplits : ∀ cursor, Splits setting book (sources cursor)) :
    Shows setting book.rates sources ∧
      ∀ others : Option String → RateSource, (∀ cursor, Splits setting book (others cursor)) →
        ∀ cursor, fetch setting sources cursor = fetch setting others cursor := by
  refine ⟨shows_of_splits hforeign hsplits hcompany hcurrency, fun others hothers cursor => ?_⟩
  rw [fetch_foreign hforeign cursor (hsplits cursor),
    fetch_foreign hforeign cursor (hothers cursor)]

/-! ### Two rates of a date -/

def rateOf (id : Int) (companyId : Option Int) (units : Nat) : CurrencyRate where
  id := id
  effectiveDate := ⟨739000⟩
  currencyId := 2
  companyId := companyId
  companyRate := ⟨false, units, 0⟩
  inverseCompanyRate := ⟨false, units, 0⟩

def twoRates : RateBook 1 where
  rates := [rateOf 5 (some 1) 3, rateOf 9 none 4]
  nodup := by decide
  visible := by simp [rateOf]
  bounded := by decide

def rateRequest (currencyId : Nat) (hcurrency : 0 < currencyId) : CurrencyRateHistoryInput where
  companyId := 1
  limit := 1
  cursor := none
  currencyId := currencyId
  period := .lasting 738990 20
  company_pos := Int.one_pos
  limit_pos := Nat.one_pos
  limit_le := PageRequest.one_le_max
  cursor_le := PageRequest.unset_cursor
  currency_pos := by exact_mod_cast hcurrency
  days_le := by decide
  finish_lt := by decide

def rateSetting (currencyId : Nat) (hcurrency : 0 < currencyId) :
    Setting (rateRequest currencyId hcurrency) where
  company := ⟨1, "Main", some ⟨1, "EUR", Int.one_pos⟩, some 1⟩
  currency := ⟨1, "EUR", Int.one_pos⟩
  rootId := 1
  requested := ⟨currencyId, "EUR"⟩
  company_currency := rfl
  company_root := rfl
  requested_id := rfl

def rateSource (currencyId : Nat) : RateSource
  | .currencies => .ok ⟨[⟨currencyId, "EUR", ⟨false, 1, -2⟩⟩], none, by simp⟩
  | .rates none => .ok ⟨⟨1, "EUR", Int.one_pos⟩, 1, [rateOf 9 none 4], some "next"⟩
  | .rates (some _) => .ok ⟨⟨1, "EUR", Int.one_pos⟩, 1, [rateOf 5 (some 1) 3], none⟩

theorem splits_rateSource (currencyId : Nat) (hcurrency : 0 < currencyId) :
    Splits (rateSetting currencyId hcurrency) twoRates (rateSource currencyId) where
  currencies := by
    refine ⟨_, rfl, ?_⟩
    simp [requestedCurrency, rateRequest, rateSetting]
  rates := ⟨[rateOf 9 none 4], [("next", [rateOf 5 (some 1) 3])],
    ⟨rfl, List.cons_ne_nil _ _, rfl⟩, by decide, List.Perm.swap _ _ _⟩

theorem currency_rate_history_two :
    Shows (rateSetting 2 (by decide)) twoRates.rates (fun _ => rateSource 2) ∧
      ∀ others : Option String → RateSource,
        (∀ cursor, Splits (rateSetting 2 (by decide)) twoRates (others cursor)) →
          ∀ cursor, fetch (rateSetting 2 (by decide)) (fun _ => rateSource 2) cursor =
            fetch (rateSetting 2 (by decide)) others cursor :=
  currency_rate_history (by decide) (by decide) (by decide)
    fun _ => splits_rateSource 2 (by decide)

/-- The history of the company's own currency does not show its rates. -/
theorem not_shows_own : ¬ ∀ (request : CurrencyRateHistoryInput) (setting : Setting request)
    (book : RateBook setting.rootId) (sources : Option String → RateSource),
    Held request.companyId.toNat → Held request.currencyId.toNat →
      (∀ cursor, Splits setting book (sources cursor)) → Shows setting book.rates sources := by
  intro hshows
  obtain ⟨effective, pages, hfollowed, hdescribes, -⟩ :=
    hshows (rateRequest 1 (by decide)) (rateSetting 1 (by decide)) twoRates (fun _ => rateSource 1)
      (by decide) (by decide) fun _ => splits_rateSource 1 (by decide)
  have hfetched : fetch (rateSetting 1 (by decide)) (fun _ => rateSource 1) none =
      .ok (historyResponse (rateRequest 1 (by decide)) ⟨1, "EUR", by decide⟩ ⟨1, "EUR"⟩
        (identityHistory (rateRequest 1 (by decide))) 0) := by
    rw [fetch_own rfl rfl none (splits_rateSource 1 (by decide))]
    rfl
  have hpages := hfollowed 3 (by decide)
  rw [follow, hfetched] at hpages
  cases hpages
  have hdate := (hdescribes.dates ⟨739000⟩).mpr
    ⟨by decide, by decide, rateOf 9 none 4, List.mem_cons_of_mem _ List.mem_cons_self, rfl⟩
  cases hdate

end RateHistory

end OdooMcp
