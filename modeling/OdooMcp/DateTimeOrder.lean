import Mathlib.Algebra.Order.Ring.Nat
import Mathlib.Data.String.Basic
import OdooMcp.DateTimeText

/-!
# The order of written instants

Texts compare character by character, as under a binary collation. Up to the seconds two written
instants compare as the instants do; what follows the seconds is compared case by case.
-/

namespace OdooMcp

namespace Calendar

/-! ### Digits -/

theorem digitChar_lt_iff {first second : Nat} (hfirst : first < 10) (hsecond : second < 10) :
    Nat.digitChar first < Nat.digitChar second ↔ first < second := by
  have hall : ∀ one < 10, ∀ other < 10,
      Nat.digitChar one < Nat.digitChar other ↔ one < other := by decide
  exact hall first hfirst second hsecond

theorem digitChar_inj {first second : Nat} (hfirst : first < 10) (hsecond : second < 10) :
    Nat.digitChar first = Nat.digitChar second ↔ first = second := by
  have hall : ∀ one < 10, ∀ other < 10,
      Nat.digitChar one = Nat.digitChar other ↔ one = other := by decide
  exact hall first hfirst second hsecond

/-- Texts that start with digits of one width compare by the numbers, then by what follows. -/
theorem lastDigits_append_lt_iff {width first second : Nat} (hfirst : first < 10 ^ width)
    (hsecond : second < 10 ^ width) {rest other : List Char} :
    lastDigits width first ++ rest < lastDigits width second ++ other ↔
      first < second ∨ (first = second ∧ rest < other) := by
  induction width generalizing first second rest other with
  | zero =>
      obtain rfl : first = 0 := by simpa using hfirst
      obtain rfl : second = 0 := by simpa using hsecond
      simp [lastDigits]
  | succ width ih =>
      have htenth {value : Nat} (hvalue : value < 10 ^ (width + 1)) : value / 10 < 10 ^ width := by
        rw [Nat.div_lt_iff_lt_mul (by decide), ← Nat.pow_succ]
        exact hvalue
      have hmod (value : Nat) : value % 10 < 10 := Nat.mod_lt _ (by decide)
      simp only [lastDigits, List.append_assoc, List.singleton_append]
      rw [ih (htenth hfirst) (htenth hsecond), List.cons_lt_cons_iff,
        digitChar_lt_iff (hmod first) (hmod second), digitChar_inj (hmod first) (hmod second)]
      constructor
      · rintro (htens | ⟨htens, hdigit | ⟨hdigit, hrest⟩⟩)
        · left
          omega
        · left
          omega
        · right
          exact ⟨by omega, hrest⟩
      · rintro (hlt | ⟨rfl, hrest⟩)
        · rcases Nat.lt_or_ge (first / 10) (second / 10) with htens | htens
          · exact .inl htens
          · exact .inr ⟨by omega, .inl (by omega)⟩
        · exact .inr ⟨rfl, .inr ⟨rfl, hrest⟩⟩

/-- Digits are none of the marks of a date-time. -/
theorem lastDigits_unmarked (width value : Nat) : ∀ character ∈ lastDigits width value,
    character ≠ '-' ∧ character ≠ '+' ∧ character ≠ 'Z' := by
  induction width generalizing value with
  | zero => exact fun _ hnil => absurd hnil List.not_mem_nil
  | succ width ih =>
      intro character hcharacter
      rcases List.mem_append.mp hcharacter with hfront | hlast
      · exact ih _ character hfront
      · obtain ⟨hminus, hplus, -, hzulu, -⟩ := digitChar_ne value
        rw [List.mem_singleton.mp hlast]
        exact ⟨hminus, hplus, hzulu⟩

/-! ### Days -/

theorem sum_take_add_le {lengths : List Nat} {first second : Nat} (hlt : first < second) :
    (lengths.take first).sum + lengths.getD first 0 ≤ (lengths.take second).sum := by
  induction lengths generalizing first second with
  | nil => simp
  | cons length lengths ih =>
      obtain ⟨second, rfl⟩ := Nat.exists_eq_add_of_lt (Nat.zero_lt_of_lt hlt)
      cases first with
      | zero => simp
      | succ first =>
          have hlater := @ih first (0 + second) (by omega)
          simp only [List.take_succ_cons, List.sum_cons, List.getD_cons_succ]
          omega

theorem isLeap_iff (year : Nat) :
    isLeap year = true ↔ 4 ∣ year ∧ (¬100 ∣ year ∨ 400 ∣ year) := by
  simp [isLeap, Nat.dvd_iff_mod_eq_zero]

theorem daysBeforeYear_succ {year : Nat} (hyear : 1 ≤ year) :
    daysBeforeYear year + (monthLengths year).sum = daysBeforeYear (year + 1) := by
  obtain ⟨before, rfl⟩ : ∃ before, year = before + 1 := ⟨year - 1, by omega⟩
  have hsum : (monthLengths (before + 1)).sum =
      365 + if isLeap (before + 1) = true then 1 else 0 := by
    unfold monthLengths
    split <;> rfl
  have hquads : before / 100 ≤ before / 4 := Nat.div_le_div_left (by decide) (by decide)
  have hcentury : 100 ∣ before + 1 → 4 ∣ before + 1 := fun hdvd => (by decide : 4 ∣ 100).trans hdvd
  have hcycle : 400 ∣ before + 1 → 100 ∣ before + 1 := fun hdvd =>
    (by decide : 100 ∣ 400).trans hdvd
  rw [hsum]
  unfold daysBeforeYear
  rw [Nat.add_sub_cancel, Nat.add_sub_cancel, Nat.succ_div, Nat.succ_div, Nat.succ_div]
  simp only [isLeap_iff]
  generalize before / 4 = quads at *
  generalize before / 100 = centuries at *
  generalize before / 400 = cycles at *
  by_cases hfour : 4 ∣ before + 1
  · by_cases hhundred : 100 ∣ before + 1
    · by_cases hfull : 400 ∣ before + 1
      · simp only [hfour, hhundred, hfull, if_true, not_true, or_true, and_true]
        omega
      · simp only [hfour, hhundred, hfull, if_true, not_true, or_false, and_false, if_false]
        omega
    · have hfull : ¬400 ∣ before + 1 := fun hdvd => hhundred (hcycle hdvd)
      simp only [hfour, hhundred, hfull, if_true, not_false_eq_true, true_or, and_true, if_false]
      omega
  · have hhundred : ¬100 ∣ before + 1 := fun hdvd => hfour (hcentury hdvd)
    have hfull : ¬400 ∣ before + 1 := fun hdvd => hhundred (hcycle hdvd)
    simp only [hfour, hhundred, hfull, false_and, if_false]
    omega

theorem daysBeforeYear_mono {first second : Nat} (hfirst : 1 ≤ first) (hle : first ≤ second) :
    daysBeforeYear first ≤ daysBeforeYear second := by
  induction second, hle using Nat.le_induction with
  | base => exact le_refl _
  | succ year hle ih =>
      have hnext := daysBeforeYear_succ (hfirst.trans hle)
      omega

structure IsDay (day year month dayOfMonth : Nat) : Prop where
  year_pos : 1 ≤ year
  month_pos : 1 ≤ month
  month_le : month ≤ 12
  day_pos : 1 ≤ dayOfMonth
  day_le : dayOfMonth ≤ (monthLengths year).getD (month - 1) 0
  ordinal : day = daysBeforeYear year + ((monthLengths year).take (month - 1)).sum +
    (dayOfMonth - 1)

theorem isDay_civil {day : Nat} (hday : day < 3652059) :
    IsDay day (civil day).1 (civil day).2.1 (civil day).2.2 := by
  have hcivil := ofCivil?_civil hday
  unfold Date.ofCivil? at hcivil
  dsimp only at hcivil
  split at hcivil
  · rename_i hvalid
    simp only [Bool.and_eq_true, decide_eq_true_eq] at hvalid
    obtain ⟨⟨⟨⟨⟨hyear, -⟩, hmonth⟩, hmonth'⟩, hfirst⟩, hlast⟩ := hvalid
    exact ⟨hyear, hmonth, hmonth', hfirst, hlast,
      (congrArg Date.ordinal (Option.some.inj hcivil)).symm⟩
  · cases hcivil

section Days

variable {day later year month dayOfMonth otherYear otherMonth otherDay : Nat}
  (hday : IsDay day year month dayOfMonth) (hlater : IsDay later otherYear otherMonth otherDay)

include hday hlater

theorem IsDay.lt_of_year_lt (hyear : year < otherYear) : day < later := by
  have hwithin := Date.dayOfYear_lt ⟨hday.month_pos, hday.month_le⟩ ⟨hday.day_pos, hday.day_le⟩
  have hnext := daysBeforeYear_succ hday.year_pos
  have hmono : daysBeforeYear (year + 1) ≤ daysBeforeYear otherYear :=
    daysBeforeYear_mono (Nat.le_add_left 1 year) hyear
  have hfirst := hday.ordinal
  have hsecond := hlater.ordinal
  omega

theorem IsDay.lt_of_month_lt (hyear : year = otherYear) (hmonth : month < otherMonth) :
    day < later := by
  subst hyear
  have hfirst := hday.ordinal
  have hsecond := hlater.ordinal
  have hposition : month - 1 < otherMonth - 1 := by
    have hpos := hday.month_pos
    omega
  have hsum : ((monthLengths year).take (month - 1)).sum + (monthLengths year).getD (month - 1) 0 ≤
      ((monthLengths year).take (otherMonth - 1)).sum := sum_take_add_le hposition
  have hpos := hday.day_pos
  have hle := hday.day_le
  omega

theorem IsDay.lt_of_day_lt (hyear : year = otherYear) (hmonth : month = otherMonth)
    (hdayOfMonth : dayOfMonth < otherDay) : day < later := by
  subst hyear hmonth
  have hfirst := hday.ordinal
  have hsecond := hlater.ordinal
  have hpos := hday.day_pos
  omega

theorem IsDay.eq_of_parts_eq (hyear : year = otherYear) (hmonth : month = otherMonth)
    (hdayOfMonth : dayOfMonth = otherDay) : day = later := by
  subst hyear hmonth hdayOfMonth
  exact hday.ordinal.trans hlater.ordinal.symm

/-- Days compare as their dates do: by year, then month, then day of the month. -/
theorem IsDay.lt_iff : day < later ↔ year < otherYear ∨ (year = otherYear ∧
    (month < otherMonth ∨ (month = otherMonth ∧ dayOfMonth < otherDay))) := by
  constructor
  · intro hlt
    rcases Nat.lt_trichotomy year otherYear with hyear | hyear | hyear
    · exact .inl hyear
    · rcases Nat.lt_trichotomy month otherMonth with hmonth | hmonth | hmonth
      · exact .inr ⟨hyear, .inl hmonth⟩
      · rcases Nat.lt_trichotomy dayOfMonth otherDay with hless | hless | hless
        · exact .inr ⟨hyear, .inr ⟨hmonth, hless⟩⟩
        · exact absurd hlt (hday.eq_of_parts_eq hlater hyear hmonth hless).not_lt
        · exact absurd hlt (hlater.lt_of_day_lt hday hyear.symm hmonth.symm hless).not_gt
      · exact absurd hlt (hlater.lt_of_month_lt hday hyear.symm hmonth).not_gt
    · exact absurd hlt (hlater.lt_of_year_lt hday hyear).not_gt
  · rintro (hyear | ⟨hyear, hmonth | ⟨hmonth, hless⟩⟩)
    · exact hday.lt_of_year_lt hlater hyear
    · exact hday.lt_of_month_lt hlater hyear hmonth
    · exact hday.lt_of_day_lt hlater hyear hmonth hless

theorem IsDay.eq_iff : day = later ↔
    year = otherYear ∧ month = otherMonth ∧ dayOfMonth = otherDay := by
  constructor
  · intro hsame
    have hnot : ¬day < later := hsame.not_lt
    have hnot' : ¬later < day := hsame.not_gt
    rw [hday.lt_iff hlater] at hnot
    rw [hlater.lt_iff hday] at hnot'
    omega
  · rintro ⟨hyear, hmonth, hdayOfMonth⟩
    exact hday.eq_of_parts_eq hlater hyear hmonth hdayOfMonth

/-- Dates at the front of a comparison stand for their days. -/
theorem IsDay.lex_iff (further : Prop) :
    (year < otherYear ∨ year = otherYear ∧ (month < otherMonth ∨ month = otherMonth ∧
      (dayOfMonth < otherDay ∨ dayOfMonth = otherDay ∧ further))) ↔
        day < later ∨ (day = later ∧ further) := by
  rw [hday.lt_iff hlater, hday.eq_iff hlater]
  simp only [and_or_left, or_assoc, and_assoc]

end Days

end Calendar

/-! ### Written instants -/

open Calendar DateTime

/-- `moment.isoformat()` of an instant in UTC. -/
def isoText (instant : Nat) : String := DateTime.isoformat ⟨instant, some 0⟩

def secondText (instant : Nat) (rest : List Char) : List Char :=
  lastDigits 4 (civil (instant / dayLength)).1 ++ '-' ::
    (lastDigits 2 (civil (instant / dayLength)).2.1 ++ '-' ::
      (lastDigits 2 (civil (instant / dayLength)).2.2 ++ 'T' ::
        (lastDigits 2 (instant % dayLength / hourLength) ++ ':' ::
          (lastDigits 2 (instant % dayLength / minuteLength % 60) ++ ':' ::
            (lastDigits 2 (instant % dayLength / secondLength % 60) ++ rest)))))

section Written

variable {first second : Nat} (hfirst : first < endOfTime) (hsecond : second < endOfTime)

theorem day_lt {instant : Nat} (hinstant : instant < endOfTime) :
    instant / dayLength < 3652059 := by
  change instant < 3652059 * 86400000000 at hinstant
  simp only [dayLength]
  omega

theorem clock_lt (instant : Nat) :
    instant % dayLength / hourLength < 10 ^ 2 ∧ instant % dayLength / minuteLength % 60 < 10 ^ 2 ∧
      instant % dayLength / secondLength % 60 < 10 ^ 2 := by
  simp only [dayLength, hourLength, minuteLength, secondLength]
  omega

/-- A number compares by its quotient, then by its remainder. -/
theorem lex_div_mod_iff (divisor : Nat) {value other : Nat} {later : Prop} :
    (value / divisor < other / divisor ∨ value / divisor = other / divisor ∧
      (value % divisor < other % divisor ∨ value % divisor = other % divisor ∧ later)) ↔
      value < other ∨ (value = other ∧ later) := by
  have hvalue := Nat.div_add_mod value divisor
  have hother := Nat.div_add_mod other divisor
  rcases Nat.lt_trichotomy (value / divisor) (other / divisor) with
    hquotient | hquotient | hquotient
  · have hlt : value < other := Nat.lt_of_div_lt_div hquotient
    simp [hquotient, hlt]
  · rw [hquotient] at hvalue
    have hless : value % divisor < other % divisor ↔ value < other := by omega
    have hsame : value % divisor = other % divisor ↔ value = other := by omega
    simp only [hquotient, lt_irrefl, true_and, false_or, hless, hsame]
  · have hlt : other < value := Nat.lt_of_div_lt_div hquotient
    simp [hquotient.not_gt, hquotient.ne', hlt.not_gt, hlt.ne']

theorem lt_div_mod_iff (divisor value other : Nat) :
    (value / divisor < other / divisor ∨
      value / divisor = other / divisor ∧ value % divisor < other % divisor) ↔ value < other := by
  have hlex : _ ↔ value < other ∨ (value = other ∧ False) := lex_div_mod_iff divisor
  simpa only [and_false, or_false] using hlex

/-- The parts of a date-time from its seconds. -/
theorem clock_parts (instant : Nat) :
    instant / dayLength = instant / secondLength / 86400 ∧
      instant % dayLength / hourLength = instant / secondLength % 86400 / 60 / 60 ∧
        instant % dayLength / minuteLength % 60 = instant / secondLength % 86400 / 60 % 60 ∧
          instant % dayLength / secondLength % 60 = instant / secondLength % 86400 % 60 := by
  simp only [dayLength, hourLength, minuteLength, secondLength]
  refine ⟨?_, ?_, ?_, ?_⟩ <;> omega

include hfirst hsecond in
/-- Texts with the same layout up to the seconds compare by the seconds, then by what follows. -/
theorem secondText_lt_iff {rest other : List Char} :
    secondText first rest < secondText second other ↔
      first / secondLength < second / secondLength ∨
        (first / secondLength = second / secondLength ∧ rest < other) := by
  obtain ⟨hyear, hmonth, hday⟩ := civil_bounds (day_lt hfirst)
  obtain ⟨hyear', hmonth', hday'⟩ := civil_bounds (day_lt hsecond)
  obtain ⟨hhour, hminute, hseconds⟩ := clock_lt first
  obtain ⟨hhour', hminute', hseconds'⟩ := clock_lt second
  have hdays := (isDay_civil (day_lt hfirst)).lex_iff (isDay_civil (day_lt hsecond))
  unfold secondText
  rw [lastDigits_append_lt_iff hyear hyear', List.cons_lt_cons_iff,
    lastDigits_append_lt_iff hmonth hmonth', List.cons_lt_cons_iff,
    lastDigits_append_lt_iff hday hday', List.cons_lt_cons_iff,
    lastDigits_append_lt_iff hhour hhour', List.cons_lt_cons_iff,
    lastDigits_append_lt_iff hminute hminute', List.cons_lt_cons_iff,
    lastDigits_append_lt_iff hseconds hseconds']
  simp only [lt_irrefl, false_or, true_and]
  obtain ⟨hday, hhour, hminute, hsecond⟩ := clock_parts first
  obtain ⟨hday', hhour', hminute', hsecond'⟩ := clock_parts second
  rw [hdays, hday, hday', hhour, hhour', hminute, hminute', hsecond, hsecond',
    lex_div_mod_iff 60, lex_div_mod_iff 60, lex_div_mod_iff 86400]

theorem isoText_toList (hfirst : first < endOfTime) :
    (isoText first).toList =
      secondText first (fractionText (first % dayLength) ++ "+00:00".toList) := by
  have hvalid : DateTime.Valid ⟨first, some 0⟩ :=
    ⟨Int.natCast_nonneg first, Int.ofNat_lt.mpr hfirst, by simp [dayLength]⟩
  rw [isoText, DateTime.isoformat_toList hvalid, secondsText_toList, List.append_assoc]
  rfl

theorem timestamp_eq_secondText (hfirst : first < endOfTime) :
    (timestamp first).toList =
      secondText first ('.' :: (lastDigits 6 (first % secondLength) ++ ['Z'])) := by
  obtain ⟨hyear, hmonth, hday⟩ := civil_bounds (day_lt hfirst)
  obtain ⟨hhour, hminute, hseconds⟩ := clock_lt first
  have hordinal : first / 1000000 / 86400 = first / dayLength := by
    rw [Nat.div_div_eq_div_mul]
    rfl
  have hhours : first / 1000000 % 86400 / 3600 = first % dayLength / hourLength := by
    simp only [dayLength, hourLength]
    omega
  have hminutes : first / 1000000 % 3600 / 60 = first % dayLength / minuteLength % 60 := by
    simp only [dayLength, minuteLength]
    omega
  have hsecond : first / 1000000 % 60 = first % dayLength / secondLength % 60 := by
    simp only [dayLength, secondLength]
    omega
  have hfraction : first % 1000000 < 10 ^ (5 + 1) := Nat.mod_lt _ (by decide)
  unfold timestamp secondText
  simp only [String.toList_append]
  rw [hordinal, hhours, hminutes, hsecond, padded_toList 3 hyear, padded_toList 1 hmonth,
    padded_toList 1 hday, padded_toList 1 hhour, padded_toList 1 hminute, padded_toList 1 hseconds,
    padded_toList 5 hfraction]
  simp [secondLength]

theorem fraction_of_day (instant : Nat) :
    instant % dayLength % secondLength = instant % secondLength :=
  Nat.mod_mod_of_dvd _ (by decide)

/-- After the same seconds, the fraction of the stored text decides. -/
theorem isoRest_lt_isoRest_iff :
    fractionText (first % dayLength) ++ "+00:00".toList <
        fractionText (second % dayLength) ++ "+00:00".toList ↔
      first % secondLength < second % secondLength := by
  have hbound (instant : Nat) : instant % secondLength < 10 ^ 6 := Nat.mod_lt _ (by decide)
  unfold fractionText
  simp only [fraction_of_day]
  split <;> split
  · rename_i hone hother
    simp [hone, hother]
  · rename_i hone hother
    have hmark : "+00:00".toList < '.' :: lastDigits 6 (second % secondLength) ++ "+00:00".toList :=
      List.cons_lt_cons_iff.mpr (.inl (by decide))
    simp only [List.nil_append, hmark, true_iff]
    omega
  · rename_i hone hother
    have hmark : ¬('.' :: lastDigits 6 (first % secondLength) ++ "+00:00".toList <
        "+00:00".toList) := by
      intro hless
      rcases List.cons_lt_cons_iff.mp hless with hmark | ⟨hmark, -⟩
      · revert hmark
        decide
      · cases hmark
    simp only [List.nil_append, hmark, false_iff]
    omega
  · rw [List.cons_append, List.cons_append, List.cons_lt_cons_iff,
      lastDigits_append_lt_iff (hbound first) (hbound second)]
    simp

theorem stampRest_lt_isoRest_iff :
    '.' :: (lastDigits 6 (first % secondLength) ++ ['Z']) <
        fractionText (second % dayLength) ++ "+00:00".toList ↔
      first % secondLength < second % secondLength := by
  have hbound (instant : Nat) : instant % secondLength < 10 ^ 6 := Nat.mod_lt _ (by decide)
  unfold fractionText
  simp only [fraction_of_day]
  split
  · rename_i hzero
    have hmark : ¬('.' :: (lastDigits 6 (first % secondLength) ++ ['Z']) < "+00:00".toList) := by
      intro hless
      rcases List.cons_lt_cons_iff.mp hless with hmark | ⟨hmark, -⟩
      · revert hmark
        decide
      · cases hmark
    simp only [List.nil_append, hmark, false_iff]
    omega
  · have hzone : ¬(['Z'] < "+00:00".toList) := by decide
    rw [List.cons_append, List.cons_lt_cons_iff,
      lastDigits_append_lt_iff (hbound first) (hbound second)]
    simp only [lt_irrefl, hzone, and_false, or_false, true_and, false_or]

include hfirst hsecond

/-- Instants written alike compare as texts as they do as instants. -/
theorem isoText_lt_isoText_iff : isoText first < isoText second ↔ first < second := by
  rw [String.lt_iff_toList_lt, isoText_toList hfirst, isoText_toList hsecond,
    secondText_lt_iff hfirst hsecond, isoRest_lt_isoRest_iff]
  exact lt_div_mod_iff secondLength first second

/-- A timestamp compares with an instant written by `isoformat` as the instants do. -/
theorem timestamp_lt_isoText_iff : timestamp first < isoText second ↔ first < second := by
  rw [String.lt_iff_toList_lt, timestamp_eq_secondText hfirst, isoText_toList hsecond,
    secondText_lt_iff hfirst hsecond, stampRest_lt_isoRest_iff]
  exact lt_div_mod_iff secondLength first second

end Written

/-! ### Reading -/

def Unmarked (characters : List Char) : Prop :=
  ∀ character ∈ characters, character ≠ '-' ∧ character ≠ '+' ∧ character ≠ 'Z'

theorem Unmarked.append {front back : List Char} (hfront : Unmarked front) (hback : Unmarked back) :
    Unmarked (front ++ back) := by
  intro character hcharacter
  rcases List.mem_append.mp hcharacter with hmem | hmem
  · exact hfront character hmem
  · exact hback character hmem

theorem Unmarked.colon {back : List Char} (hback : Unmarked back) : Unmarked (':' :: back) := by
  intro character hcharacter
  rcases List.mem_cons.mp hcharacter with rfl | hmem
  · decide
  · exact hback character hmem

theorem unmarked_fractionText (microseconds : Nat) : Unmarked (fractionText microseconds) := by
  intro character hcharacter
  unfold fractionText at hcharacter
  split at hcharacter
  · exact absurd hcharacter List.not_mem_nil
  · rcases List.mem_cons.mp hcharacter with rfl | hdigit
    · decide
    · exact lastDigits_unmarked 6 _ character hdigit

theorem fraction?_fractionText (microseconds : Nat) :
    fraction? (fractionText microseconds) = some (microseconds % secondLength) := by
  unfold fractionText
  split
  · rename_i hzero
    rw [hzero]
    rfl
  · exact fraction?_lastDigits (Nat.mod_lt _ (by decide))

/-- The time of day as `isoformat` writes it. -/
def clockText (hour minute second microseconds : Nat) : List Char :=
  lastDigits 2 hour ++ ':' :: (lastDigits 2 minute ++ ':' ::
    (lastDigits 2 second ++ fractionText microseconds))

section Reading

variable {hour minute second : Nat} (hhour : hour < 24) (hminute : minute < 60)
  (hsecond : second < 60) (microseconds : Nat)

theorem unmarked_clockText (hour minute second microseconds : Nat) :
    Unmarked (clockText hour minute second microseconds) :=
  Unmarked.append (lastDigits_unmarked 2 hour)
    (Unmarked.colon (Unmarked.append (lastDigits_unmarked 2 minute)
    (Unmarked.colon
      (Unmarked.append (lastDigits_unmarked 2 second) (unmarked_fractionText microseconds)))))

include hhour hminute hsecond

theorem clock?_clockText : clock? (clockText hour minute second microseconds) =
    some (hour, minute, second, microseconds % secondLength) := by
  change ((digits? (lastDigits 2 hour)).bind fun hours =>
    (digits? (lastDigits 2 minute)).bind fun minutes =>
      (digits? (lastDigits 2 second)).bind fun seconds =>
        (fraction? (fractionText microseconds)).bind fun fraction =>
          some (hours, minutes, seconds, fraction)) = _
  rw [digits?_lastDigits (by omega : hour < 10 ^ 2),
    digits?_lastDigits (by omega : minute < 10 ^ 2),
    digits?_lastDigits (by omega : second < 10 ^ 2), fraction?_fractionText]
  rfl

theorem time?_isoText :
    time? (clockText hour minute second microseconds ++ "+00:00".toList) =
      some (hour * hourLength + minute * minuteLength + second * secondLength +
        microseconds % secondLength, some 0) := by
  have hplain := unmarked_clockText hour minute second microseconds
  have hbefore : ∀ character ∈ clockText hour minute second microseconds,
      decide (character ≠ '+') = true := fun character hmem =>
    decide_eq_true (hplain character hmem).2.1
  have htake : (clockText hour minute second microseconds ++ "+00:00".toList).takeWhile
      (· ≠ '+') = clockText hour minute second microseconds := by
    rw [List.takeWhile_append_of_pos hbefore]
    exact List.append_nil _
  have hdrop : (clockText hour minute second microseconds ++ "+00:00".toList).dropWhile
      (· ≠ '+') = "+00:00".toList := by
    rw [List.dropWhile_append_of_pos hbefore]
    rfl
  have hcontains : (clockText hour minute second microseconds ++ "+00:00".toList).contains '-' =
      false := by
    rw [Bool.eq_false_iff, ne_eq, List.contains_iff_mem, List.mem_append]
    rintro (hmem | hmem)
    · exact (hplain _ hmem).1 rfl
    · revert hmem
      decide
  have hempty : (clockText hour minute second microseconds ++ "+00:00".toList).isEmpty =
      false := rfl
  have hzone : clock? ['0', '0', ':', '0', '0'] = some (0, 0, 0, 0) := by rfl
  have hrange : (decide (24 ≤ hour) || decide (60 ≤ minute) || decide (60 ≤ second)) = false := by
    simp only [Bool.or_eq_false_iff, decide_eq_false_iff_not]
    omega
  unfold time?
  simp only [hempty, hcontains, Bool.false_eq_true, if_false, htake, hdrop,
    clock?_clockText hhour hminute hsecond]
  change (if (decide (24 ≤ hour) || decide (60 ≤ minute) || decide (60 ≤ second)) = true then _
    else (clock? ['0', '0', ':', '0', '0']).bind _) = _
  rw [hrange, hzone]
  rfl

end Reading

theorem isoText_eq_clockText {instant : Nat} (hinstant : instant < endOfTime) :
    (isoText instant).toList =
      lastDigits 4 (civil (instant / dayLength)).1 ++ '-' ::
        (lastDigits 2 (civil (instant / dayLength)).2.1 ++ '-' ::
          (lastDigits 2 (civil (instant / dayLength)).2.2 ++ 'T' ::
            (clockText (instant % dayLength / hourLength) (instant % dayLength / minuteLength % 60)
              (instant % dayLength / secondLength % 60) (instant % dayLength) ++
                "+00:00".toList))) := by
  rw [isoText_toList hinstant, secondText, clockText]
  simp only [List.append_assoc, List.cons_append]

/-- Nothing is replaced in a text without a `Z`. -/
theorem replace_unmarked {characters : List Char}
    (hplain : ∀ character ∈ characters, character ≠ 'Z') :
    (characters.flatMap fun character =>
      if character = 'Z' then "+00:00".toList else [character]) = characters := by
  induction characters with
  | nil => rfl
  | cons character characters ih =>
      obtain ⟨hfirst, hrest⟩ := List.forall_mem_cons.mp hplain
      rw [List.flatMap_cons, if_neg hfirst, ih hrest]
      rfl

theorem isoText_no_zulu {instant : Nat} (hinstant : instant < endOfTime) :
    ∀ character ∈ (isoText instant).toList, character ≠ 'Z' := by
  have hdigits (width value : Nat) : ∀ character ∈ lastDigits width value, character ≠ 'Z' :=
    fun character hmem => (lastDigits_unmarked width value character hmem).2.2
  have hclock (hour minute second microseconds : Nat) :
      ∀ character ∈ clockText hour minute second microseconds, character ≠ 'Z' :=
    fun character hmem => (unmarked_clockText hour minute second microseconds character hmem).2.2
  rw [isoText_eq_clockText hinstant]
  simp only [List.forall_mem_append, List.forall_mem_cons]
  have hdash : '-' ≠ 'Z' := by decide +kernel
  have hseparator : 'T' ≠ 'Z' := by decide +kernel
  exact ⟨hdigits _ _, hdash, hdigits _ _, hdash, hdigits _ _, hseparator, hclock _ _ _ _,
    nofun⟩

/-- **The round trip of `isoformat`.** An instant written by `isoformat` is read as it was. -/
theorem fromisoformat_isoText {instant : Nat} (hinstant : instant < endOfTime) :
    DateTime.fromisoformat (isoText instant) = some ⟨instant, some 0⟩ := by
  obtain ⟨hyear, hmonth, hday⟩ := civil_bounds (day_lt hinstant)
  have hhour : instant % dayLength / hourLength < 24 := by
    simp only [dayLength, hourLength]
    omega
  have hminute : instant % dayLength / minuteLength % 60 < 60 := Nat.mod_lt _ (by decide)
  have hsecond : instant % dayLength / secondLength % 60 < 60 := Nat.mod_lt _ (by decide)
  have htime := time?_isoText hhour hminute hsecond (instant % dayLength)
  have hdate := ofCivil?_civil (day_lt hinstant)
  rw [fromisoformat, isoText_eq_clockText hinstant]
  generalize clockText (instant % dayLength / hourLength) (instant % dayLength / minuteLength % 60)
    (instant % dayLength / secondLength % 60) (instant % dayLength) ++ "+00:00".toList = clock at *
  generalize (civil (instant / dayLength)).1 = year at *
  generalize (civil (instant / dayLength)).2.1 = month at *
  generalize (civil (instant / dayLength)).2.2 = dayOfMonth at *
  have hlength : dateLength? (lastDigits 4 year ++ '-' :: (lastDigits 2 month ++ '-' ::
      (lastDigits 2 dayOfMonth ++ 'T' :: clock))) = some 10 := by
    have hweek : ¬Nat.digitChar (month / 10 % 10) = 'W' := (digitChar_ne (month / 10)).2.2.1
    unfold dateLength?
    simp [lastDigits, hweek]
  rw [hlength]
  change (Date.fromisoformat (String.ofList
      (lastDigits 4 year ++ '-' :: (lastDigits 2 month ++ '-' :: lastDigits 2 dayOfMonth)))).bind
        (fun date => (time? clock).bind
          fun time => some (⟨date.ordinal * dayLength + time.1, time.2⟩ : DateTime)) = _
  rw [fromisoformat_date year month dayOfMonth hyear hmonth hday, hdate, htime]
  simp only [Option.bind_some, Option.some.injEq, DateTime.mk.injEq, and_true,
    dayLength, hourLength,
    minuteLength, secondLength]
  omega

theorem parseTimestamp_isoText {instant : Nat} (hinstant : instant < endOfTime) :
    parseTimestamp (isoText instant) = .ok ⟨instant, some 0⟩ := by
  unfold parseTimestamp
  rw [replace_unmarked (isoText_no_zulu hinstant), String.ofList_toList,
    fromisoformat_isoText hinstant]

end OdooMcp
