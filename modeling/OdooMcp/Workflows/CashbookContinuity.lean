import OdooMcp.Workflows.Cashbook
import OdooMcp.Workflows.TrialBalance

/-!
# Cashbooks of adjacent periods

What is before the period after a cashbook's is what is before the cashbook's and what is in it. As
every line balances, the closing is the next opening, where the context rounds none of the sums.
-/

namespace OdooMcp

namespace Cashbook

open Arithmetic Pagination

/-- Amounts of so many places, and debits and credits that are together below what the digits of the
context hold with these places: none of their sums is rounded. -/
structure Fits (places : Nat) (lines : List AccountMoveLine) : Prop where
  debit : ∀ line ∈ lines, line.debit.HasPlaces places
  credit : ∀ line ∈ lines, line.credit.HasPlaces places
  balance : ∀ line ∈ lines, line.balance.HasPlaces places
  below : sumOf (·.debit) lines + sumOf (·.credit) lines < Decimal.capacity places

/-! ### Lines that balance -/

structure Balanced (line : AccountMoveLine) : Prop where
  debit : 0 ≤ line.debit.value
  credit : 0 ≤ line.credit.value
  balance : line.balance.value = line.debit.value - line.credit.value

section Sums

variable {lines : List AccountMoveLine} {places : Nat}

theorem sumOf_nonneg {amount : AccountMoveLine → Decimal}
    (hnonneg : ∀ line ∈ lines, 0 ≤ (amount line).value) : 0 ≤ sumOf amount lines :=
  List.sum_nonneg (by simpa using hnonneg)

theorem le_sumOf {amount : AccountMoveLine → Decimal}
    (hnonneg : ∀ line ∈ lines, 0 ≤ (amount line).value) {line : AccountMoveLine}
    (hline : line ∈ lines) : (amount line).value ≤ sumOf amount lines :=
  List.single_le_sum (by simpa using hnonneg) _ (List.mem_map_of_mem hline)

theorem sum_abs_of_nonneg {amount : AccountMoveLine → Decimal}
    (hnonneg : ∀ line ∈ lines, 0 ≤ (amount line).value) :
    ((lines.map amount).map fun value => |value.value|).sum = sumOf amount lines := by
  rw [List.map_map]
  exact congrArg List.sum (List.map_congr_left fun line hline => abs_of_nonneg (hnonneg line hline))

theorem zero_le_iff (decimal : Decimal) : Decimal.zero.le decimal = true ↔ 0 ≤ decimal.value := by
  rw [Decimal.le, Bool.not_eq_true', Bool.eq_false_iff, Ne, Decimal.lt_iff, not_lt,
    Decimal.value_zero]

/-- The check of the lines compares what is not rounded. -/
theorem balanced_of_consistent {companyId : Int} (hfits : Fits places lines)
    (hconsistent : ∀ line ∈ lines, consistent companyId line = true) :
    ∀ line ∈ lines, Balanced line := by
  have hdebit (line : AccountMoveLine) (hline : line ∈ lines) : 0 ≤ line.debit.value := by
    have hall := hconsistent line hline
    simp only [consistent, Bool.and_eq_true] at hall
    exact (zero_le_iff _).mp hall.1.1.2
  have hcredit (line : AccountMoveLine) (hline : line ∈ lines) : 0 ≤ line.credit.value := by
    have hall := hconsistent line hline
    simp only [consistent, Bool.and_eq_true] at hall
    exact (zero_le_iff _).mp hall.1.2
  intro line hline
  refine ⟨hdebit line hline, hcredit line hline, ?_⟩
  have hall := hconsistent line hline
  simp only [consistent, Bool.and_eq_true] at hall
  have hbelow : |line.debit.value - line.credit.value| < Decimal.capacity places := by
    have hlarge := le_sumOf hdebit hline
    have hlarge' := le_sumOf hcredit hline
    refine lt_of_le_of_lt
      (abs_sub_le_of_nonneg_of_le (hdebit line hline) ?_ (hcredit line hline) ?_)
      hfits.below
    · exact hlarge.trans (le_add_of_nonneg_right (sumOf_nonneg hcredit))
    · exact hlarge'.trans (le_add_of_nonneg_left (sumOf_nonneg hdebit))
  rw [(Decimal.same_iff _ _).mp hall.2,
    (Decimal.value_sub (hfits.debit line hline) (hfits.credit line hline) hbelow).1]

theorem sumOf_balance (hbalanced : ∀ line ∈ lines, Balanced line) :
    sumOf (·.balance) lines = sumOf (·.debit) lines - sumOf (·.credit) lines := by
  induction lines with
  | nil => exact (sub_zero _).symm
  | cons line lines ih =>
      obtain ⟨hline, hlines⟩ := List.forall_mem_cons.mp hbalanced
      rw [sumOf_cons, sumOf_cons, sumOf_cons, hline.balance, ih hlines]
      ring

theorem sum_abs_balance_le (hbalanced : ∀ line ∈ lines, Balanced line) :
    ((lines.map (·.balance)).map fun value => |value.value|).sum ≤
      sumOf (·.debit) lines + sumOf (·.credit) lines := by
  induction lines with
  | nil => exact (add_zero (0 : ℚ)).ge
  | cons line lines ih =>
      obtain ⟨hline, hlines⟩ := List.forall_mem_cons.mp hbalanced
      have hrest := ih hlines
      have hdebit := hline.debit
      have hcredit := hline.credit
      have hsize : |line.balance.value| ≤ line.debit.value + line.credit.value := by
        rw [hline.balance, abs_le]
        constructor <;> linarith
      rw [sumOf_cons, sumOf_cons, List.map_cons, List.map_cons, List.sum_cons]
      linarith

theorem value_balances (hbalanced : ∀ line ∈ lines, Balanced line)
    (hplaces : ∀ line ∈ lines, line.balance.HasPlaces places)
    (hbelow : sumOf (·.debit) lines + sumOf (·.credit) lines < Decimal.capacity places) :
    (total (lines.map (·.balance)) : Decimal).value = sumOf (·.balance) lines ∧
      (total (lines.map (·.balance)) : Decimal).HasPlaces places := by
  have hvalues : ∀ value ∈ lines.map (·.balance), value.HasPlaces places := by
    intro value hvalue
    obtain ⟨line, hline, rfl⟩ := List.mem_map.mp hvalue
    exact hplaces line hline
  obtain ⟨hvalue, hresult⟩ := Decimal.value_total hvalues
    (lt_of_le_of_lt (sum_abs_balance_le hbalanced) hbelow)
  refine ⟨hvalue.trans ?_, hresult⟩
  rw [sumOf, List.map_map]
  rfl

end Sums

/-! ### Totals -/

section Totals

variable {books : Books} {request : CashbookInput} {places : Nat} {items : List CashbookItem}

theorem mem_filtered {line : AccountMoveLine}
    (hline : line ∈ books.linesBefore request ∨ line ∈ books.periodLines request) :
    line ∈ books.filtered request :=
  hline.elim List.mem_of_mem_filter List.mem_of_mem_filter

structure Summed (books : Books) (request : CashbookInput) (places : Nat) : Prop where
  before : ∀ line ∈ books.linesBefore request, Balanced line
  period : ∀ line ∈ books.periodLines request, Balanced line
  fits : Fits places (books.filtered request)
  below : sumOf (·.debit) (books.linesBefore request) +
      sumOf (·.credit) (books.linesBefore request) +
    (sumOf (·.debit) (books.periodLines request) + sumOf (·.credit) (books.periodLines request)) <
      Decimal.capacity places

theorem summed_of_fits (hreadable : books.Readable request)
    (hfits : Fits places (books.filtered request)) : Summed books request places := by
  have hbalanced := balanced_of_consistent hfits hreadable.consistent
  refine ⟨fun line hline => hbalanced line (mem_filtered (.inl hline)),
    fun line hline => hbalanced line (mem_filtered (.inr hline)), hfits, ?_⟩
  have hsplit (amount : AccountMoveLine → Decimal) : sumOf amount (books.filtered request) =
      sumOf amount (books.linesBefore request) + sumOf amount (books.periodLines request) :=
    sumOf_split (isBefore request) (books.filtered request)
  have hbelow := hfits.below
  rw [hsplit, hsplit] at hbelow
  linarith

variable (hsummed : Summed books request places)
include hsummed

theorem value_opening :
    (Books.opening books request).value = sumOf (·.balance) (books.linesBefore request) ∧
      (Books.opening books request).HasPlaces places := by
  have hperiod := sumOf_nonneg fun line hline => (hsummed.period line hline).debit
  have hperiod' := sumOf_nonneg fun line hline => (hsummed.period line hline).credit
  have hbelow := hsummed.below
  exact value_balances hsummed.before
    (fun line hline => hsummed.fits.balance line (mem_filtered (.inl hline))) (by linarith)

omit hsummed in
/-- The total of an amount of the items is the sum of that of the lines. -/
theorem value_periodTotal (hmade : Books.MadeOf books request items)
    {ofItem : CashbookItem → Decimal} {ofLine : AccountMoveLine → Decimal}
    (hfield : ∀ line item, Books.Shows line item → ofItem item = ofLine line)
    (hplaces : ∀ line ∈ books.filtered request, (ofLine line).HasPlaces places)
    (hnonneg : ∀ line ∈ books.periodLines request, 0 ≤ (ofLine line).value)
    (hbelow : sumOf ofLine (books.periodLines request) < Decimal.capacity places) :
    (total ((sortedItems items).map ofItem)).value = sumOf ofLine (books.periodLines request) ∧
      (total ((sortedItems items).map ofItem) : Decimal).HasPlaces places := by
  have hshows : List.Forall₂ Books.Shows (books.periodLines request) items :=
    (forall₂_of_mapM_ok hmade.made).imp fun _ _ => Books.shows_of_ok
  have hperm : ((sortedItems items).map ofItem).Perm ((books.periodLines request).map ofLine) := by
    rw [← Books.map_of_shows hfield hshows]
    exact (List.perm_insertionSort _ items).map ofItem
  have hitems : ∀ value ∈ (sortedItems items).map ofItem, value.HasPlaces places := by
    intro value hvalue
    obtain ⟨line, hline, rfl⟩ := List.mem_map.mp (hperm.mem_iff.mp hvalue)
    exact hplaces line (mem_filtered (.inr hline))
  have hsize : (((sortedItems items).map ofItem).map fun value => |value.value|).sum <
      Decimal.capacity places := by
    rw [(hperm.map fun value => |value.value|).sum_eq, sum_abs_of_nonneg hnonneg]
    exact hbelow
  obtain ⟨hvalue, hresult⟩ := Decimal.value_total hitems hsize
  refine ⟨hvalue.trans ?_, hresult⟩
  rw [(hperm.map Decimal.value).sum_eq, List.map_map]
  rfl

/-- The closing balance is the sum of all balances up to the end of the period. -/
theorem value_closing (hmade : Books.MadeOf books request items) :
    (summaryOf (Books.opening books request) (sortedItems items)).closingBalance.value =
      sumOf (·.balance) (books.linesBefore request) +
        sumOf (·.balance) (books.periodLines request) := by
  have hdebit := sumOf_nonneg fun line hline => (hsummed.period line hline).debit
  have hcredit := sumOf_nonneg fun line hline => (hsummed.period line hline).credit
  have hdebit' := sumOf_nonneg fun line hline => (hsummed.before line hline).debit
  have hcredit' := sumOf_nonneg fun line hline => (hsummed.before line hline).credit
  have hbelow := hsummed.below
  obtain ⟨hopening, hopeningPlaces⟩ := value_opening hsummed
  obtain ⟨hdebits, hdebitPlaces⟩ := value_periodTotal hmade
    (fun _ _ hshow => hshow.debit) hsummed.fits.debit
    (fun line hline => (hsummed.period line hline).debit) (by linarith)
  obtain ⟨hcredits, hcreditPlaces⟩ := value_periodTotal hmade
    (fun _ _ hshow => hshow.credit) hsummed.fits.credit
    (fun line hline => (hsummed.period line hline).credit) (by linarith)
  have hbefore := sumOf_balance hsummed.before
  obtain ⟨hadded, haddedPlaces⟩ := Decimal.value_add hopeningPlaces hdebitPlaces (by
    rw [hopening, hdebits, hbefore, abs_lt]
    constructor <;> linarith)
  obtain ⟨hclosing, -⟩ := Decimal.value_sub haddedPlaces hcreditPlaces (by
    rw [hadded, hopening, hdebits, hcredits, hbefore, abs_lt]
    constructor <;> linarith)
  refine hclosing.trans ?_
  rw [hadded, hopening, hdebits, hcredits, sumOf_balance hsummed.period]
  ring

end Totals

/-! ### Periods -/

/-- The same journals and partners, in the period that starts on the day after. -/
structure Adjacent (first second : CashbookInput) : Prop where
  companyId : second.companyId = first.companyId
  journalIds : second.journalIds = first.journalIds
  partnerIds : second.partnerIds = first.partnerIds
  start : second.period.start.ordinal = first.period.finish.ordinal + 1

/-- What a cashbook says of the lines of its books, on all its pages. -/
structure Accounts (books : Books) (request : CashbookInput)
    (response : CashbookResponse) : Prop where
  opening : response.summary.openingBalance.value = sumOf (·.balance) (books.linesBefore request)
  counted : (books.linesBefore request ++ books.periodLines request).Perm (books.filtered request)
  apart : (books.linesBefore request).Disjoint (books.periodLines request)
  paged : ∃ pages : List CashbookResponse,
    (∀ fuel, (books.periodLines request).length < fuel →
      follow (books.fetch request) (·.nextCursor) fuel none = .ok (some pages)) ∧
    (∀ page ∈ pages, page.summary = response.summary) ∧
    ((pages.flatMap (·.items)).map (·.lineId)).Perm ((books.periodLines request).map (·.id)) ∧
    response.summary.closingBalance.value = response.summary.openingBalance.value +
      ((pages.flatMap (·.items)).map (·.amount.value)).sum

variable {books : Books} {request : CashbookInput} {response : CashbookResponse} {places : Nat}

/-- What is before the next period is all up to the end of this one. -/
theorem linesBefore_adjacent {next : CashbookInput} (hadjacent : Adjacent request next) :
    books.linesBefore next = books.filtered request := by
  unfold Books.linesBefore Books.filtered
  rw [List.filter_filter]
  refine List.filter_congr fun line _ => ?_
  have hchosen : books.chosen next = books.chosen request := by
    unfold Books.chosen chosenJournals
    rw [hadjacent.journalIds]
  have hdates : (isBefore next line && decide (line.date.ordinal ≤ next.period.finish.ordinal)) =
      decide (line.date.ordinal ≤ request.period.finish.ordinal) := by
    have hstart := hadjacent.start
    have hordered := next.period.ordered
    rw [Bool.eq_iff_iff, Bool.and_eq_true]
    simp only [isBefore, decide_eq_true_eq]
    omega
  unfold selects
  rw [hchosen, hadjacent.partnerIds, ← hdates]
  simp only [Bool.and_assoc, Bool.and_left_comm]

theorem accounts_of_ok (hresponse : books.cashbook request = .ok response)
    (hfits : Fits places (books.filtered request)) : Accounts books request response := by
  obtain ⟨items, hmade, hsummary⟩ := Books.madeOf_ok hresponse
  have hsummed := summed_of_fits hmade.readable hfits
  have hshows : List.Forall₂ Books.Shows (books.periodLines request) items :=
    (forall₂_of_mapM_ok hmade.made).imp fun _ _ => Books.shows_of_ok
  have hsorted : (sortedItems items).Perm items := List.perm_insertionSort _ items
  have hopening := (value_opening hsummed).1
  refine ⟨?_, List.filter_append_perm _ _, fun line hbefore hperiod => ?_, ?_⟩
  · rw [hsummary]
    exact hopening
  · have hnot := (List.mem_filter.mp hperiod).2
    rw [(List.mem_filter.mp hbefore).2] at hnot
    cases hnot
  · obtain ⟨pages, hpages⟩ := (Books.byOffset_fetch hmade).followed request.limit_pos
    have hitems : pages.flatMap (·.items) = sortedItems items := hpages.items_eq
    refine ⟨pages, fun fuel hfuel => hpages.followed fuel ?_, fun page hpage => ?_, ?_, ?_⟩
    · rwa [Books.length_sortedItems, ← hshows.length_eq, Nat.sub_zero]
    · obtain ⟨cursor, hfetched⟩ := hpages.fetched page hpage
      rw [hsummary, Books.summary_of_fetch hmade hfetched]
    · rw [hitems, ← Books.map_of_shows (fun _ _ hshow => hshow.lineId) hshows]
      exact hsorted.map _
    · have hclosing := value_closing hsummed hmade
      have hamounts : ((sortedItems items).map (·.amount.value)).sum =
          sumOf (·.balance) (books.periodLines request) := by
        rw [(hsorted.map _).sum_eq, Books.map_of_shows
          (fun _ _ hshow => congrArg Decimal.value hshow.amount) hshows]
        rfl
      rw [hitems, hamounts, hsummary, hclosing]
      exact congrArg (· + _) hopening.symm

/-- **Continuity.** Where no sum is rounded, a cashbook's closing balance is its opening balance and
the amounts of all its items, every line counts for one of the two, and the closing balance is the
opening balance of the next period. -/
theorem cashbook_continuity (hresponse : books.cashbook request = .ok response)
    (hfits : Fits places (books.filtered request)) :
    Accounts books request response ∧
      ∀ next later, Adjacent request next → books.cashbook next = .ok later →
        later.summary.openingBalance.value = response.summary.closingBalance.value := by
  refine ⟨accounts_of_ok hresponse hfits, fun next later hadjacent hlater => ?_⟩
  obtain ⟨items, hmade, hsummary⟩ := Books.madeOf_ok hresponse
  obtain ⟨others, hothers, hnext⟩ := Books.madeOf_ok hlater
  have hsummed := summed_of_fits hmade.readable hfits
  have hall := value_balances (balanced_of_consistent hfits hmade.readable.consistent)
    hfits.balance hfits.below
  rw [← linesBefore_adjacent hadjacent] at hall
  rw [hnext, hsummary, value_closing hsummed hmade]
  refine hall.1.trans ?_
  rw [linesBefore_adjacent hadjacent]
  exact sumOf_split (isBefore request) (books.filtered request)

/-! ### A large amount in and out, and one -/

def cashLine (id : Int) (debit credit balance : Decimal) : AccountMoveLine :=
  Reports.bookedLine id 1 (739000 + id.toNat) debit credit balance

/-- An amount comes in and goes out again, and one comes in. -/
def cashBooks (amount : Decimal) : Books where
  ledger :=
    { lines := [cashLine 1 amount Decimal.zero amount,
        cashLine 2 Decimal.zero amount amount.negated,
        cashLine 3 ⟨false, 1, 0⟩ Decimal.zero ⟨false, 1, 0⟩]
      documents := []
      partials := []
      accounts := [Reports.bookedAccount 1 "1000" "asset_cash"]
      rounding := ⟨false, 1, -2⟩
      lines_nodup := by simp [cashLine, Reports.bookedLine]
      documents_nodup := List.nodup_nil
      accounts_nodup := by decide
      rounding_pos := Decimal.cent_pos }
  journals := [⟨9, "Cash", "CSH1", "cash", 1, none⟩]
  journals_nodup := by decide

/-- A month of thirty days, with pages of two items. -/
def cashMonth (start : Nat) : CashbookInput where
  companyId := 1
  limit := 2
  cursor := none
  period := .lasting start 29
  journalIds := []
  partnerIds := []
  limit_pos := Nat.two_pos
  limit_le := PageRequest.two_le_max
  cursor_le := PageRequest.unset_cursor
  journals_nodup := List.nodup_nil
  partners_nodup := List.nodup_nil

theorem adjacent_cashMonth (start : Nat) : Adjacent (cashMonth start) (cashMonth (start + 30)) :=
  ⟨rfl, rfl, rfl, rfl⟩

theorem cashbook_continuity_hundred :
    ∃ response later : CashbookResponse,
      (cashBooks ⟨false, 100, 0⟩).cashbook (cashMonth 739000) = .ok response ∧
      (cashBooks ⟨false, 100, 0⟩).cashbook (cashMonth 739030) = .ok later ∧
      Accounts (cashBooks ⟨false, 100, 0⟩) (cashMonth 739000) response ∧
      later.summary.openingBalance.value = response.summary.closingBalance.value := by
  have hresponse : ((cashBooks ⟨false, 100, 0⟩).cashbook (cashMonth 739000)).isOk = true := by
    decide +kernel
  have hlater : ((cashBooks ⟨false, 100, 0⟩).cashbook (cashMonth 739030)).isOk = true := by
    decide +kernel
  obtain ⟨response, hresponse⟩ := ok_of_isOk hresponse
  obtain ⟨later, hlater⟩ := ok_of_isOk hlater
  have hfits : Fits 0 ((cashBooks ⟨false, 100, 0⟩).filtered (cashMonth 739000)) :=
    ⟨by decide +kernel, by decide +kernel, by decide +kernel, by decide +kernel⟩
  obtain ⟨haccounts, hnext⟩ := cashbook_continuity hresponse hfits
  exact ⟨response, later, hresponse, hlater, haccounts,
    hnext _ later (adjacent_cashMonth 739000) hlater⟩

/-- With an amount of 29 digits the sum of the debits is rounded, and that of the balances is
not. -/
theorem cashbook_discontinuity_rounded :
    ¬∀ (books : Books) (request next : CashbookInput) (response later : CashbookResponse),
      Adjacent request next → books.cashbook request = .ok response →
        books.cashbook next = .ok later →
          later.summary.openingBalance.value = response.summary.closingBalance.value := by
  intro hcontinuous
  have hresponse : ((cashBooks ⟨false, 1, 28⟩).cashbook (cashMonth 739000)).toOption.map
      (fun response => response.summary.closingBalance.value) = some 0 := by decide +kernel
  have hlater : ((cashBooks ⟨false, 1, 28⟩).cashbook (cashMonth 739030)).toOption.map
      (fun later => later.summary.openingBalance.value) = some 1 := by decide +kernel
  cases hfirst : (cashBooks ⟨false, 1, 28⟩).cashbook (cashMonth 739000) with
  | error _ =>
      rw [hfirst] at hresponse
      cases hresponse
  | ok response =>
      cases hsecond : (cashBooks ⟨false, 1, 28⟩).cashbook (cashMonth 739030) with
      | error _ =>
          rw [hsecond] at hlater
          cases hlater
      | ok later =>
          rw [hfirst] at hresponse
          rw [hsecond] at hlater
          have hsame := hcontinuous _ _ _ response later (adjacent_cashMonth 739000) hfirst hsecond
          have hclosing : response.summary.closingBalance.value = 0 := Option.some.inj hresponse
          have hopening : later.summary.openingBalance.value = 1 := Option.some.inj hlater
          rw [hopening, hclosing] at hsame
          norm_num at hsame

end Cashbook

end OdooMcp
