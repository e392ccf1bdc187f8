import OdooMcp.Storage.Models

/-!
# Stored timestamps

A timestamp is written in UTC with microseconds, and reading it gives the instant it was written
for.
-/

namespace OdooMcp

/-- `parse_timestamp` -/
def parseTimestamp (value : String) : Except PyException DateTime :=
  match DateTime.fromisoformat (String.ofList (value.toList.flatMap fun character =>
    if character = 'Z' then "+00:00".toList else [character])) with
  | some moment => .ok moment
  | none => .error (valueError "Invalid isoformat string")

/-! ### Digits -/

namespace Calendar

def lastDigits : Nat → Nat → List Char
  | 0, _ => []
  | width + 1, value => lastDigits width (value / 10) ++ [Nat.digitChar (value % 10)]

theorem lastDigits_zero (width : Nat) : lastDigits width 0 = List.replicate width '0' := by
  induction width with
  | zero => rfl
  | succ width ih =>
      rw [lastDigits, Nat.zero_div, ih, List.replicate_succ']
      rfl

theorem padded_toList (width : Nat) {value : Nat} (hvalue : value < 10 ^ (width + 1)) :
    (padded (width + 1) value).toList = lastDigits (width + 1) value := by
  have hchars (size number : Nat) : (padded size number).toList =
      List.replicate (size - (Nat.toDigits 10 number).length) '0' ++ Nat.toDigits 10 number := by
    simp [padded, String.toList_append, ← Nat.toList_repr, String.length_toList]
  induction width generalizing value with
  | zero =>
      have hdigits : Nat.toDigits 10 value = [Nat.digitChar value] :=
        Nat.toDigits_of_lt_base (by omega)
      rw [hchars, hdigits, lastDigits, lastDigits, Nat.mod_eq_of_lt (by omega : value < 10)]
      rfl
  | succ width ih =>
      by_cases hsmall : value < 10
      · have hdigits : Nat.toDigits 10 value = [Nat.digitChar value] :=
          Nat.toDigits_of_lt_base hsmall
        rw [hchars, hdigits, lastDigits, Nat.div_eq_of_lt hsmall, lastDigits_zero,
          Nat.mod_eq_of_lt hsmall]
        rfl
      · have hdigits : Nat.toDigits 10 value =
            Nat.toDigits 10 (value / 10) ++ [Nat.digitChar (value % 10)] :=
          Nat.toDigits_of_base_le (by decide) (by omega)
        have hsmaller : value / 10 < 10 ^ (width + 1) := by
          rw [Nat.div_lt_iff_lt_mul (by decide), ← Nat.pow_succ]
          exact hvalue
        rw [lastDigits, ← ih hsmaller, hchars, hchars, hdigits, List.length_append,
          List.length_singleton, Nat.add_sub_add_right, List.append_assoc]

theorem digit?_digitChar (value : Nat) :
    digit? (Nat.digitChar (value % 10)) = some (value % 10) := by
  have hall : ∀ digit < 10, digit? (Nat.digitChar digit) = some digit := by decide
  exact hall (value % 10) (Nat.mod_lt _ (by decide))

theorem digits?_append (front : List Char) (last : Char) :
    digits? (front ++ [last]) =
      (digits? front).bind fun value => (digit? last).map (value * 10 + ·) := by
  unfold digits?
  rw [List.foldlM_append]
  cases List.foldlM (fun value character => do return value * 10 + (← digit? character))
    0 front with
  | none => rfl
  | some value => cases hlast : digit? last <;> simp [hlast]

theorem digits?_lastDigits {width value : Nat} (hvalue : value < 10 ^ width) :
    digits? (lastDigits width value) = some value := by
  induction width generalizing value with
  | zero =>
      obtain rfl : value = 0 := by omega
      rfl
  | succ width ih =>
      have hsmaller : value / 10 < 10 ^ width := by
        rw [Nat.div_lt_iff_lt_mul (by decide), ← Nat.pow_succ]
        exact hvalue
      rw [lastDigits, digits?_append, ih hsmaller, digit?_digitChar]
      simp only [Option.bind_some, Option.map_some, Option.some.injEq]
      omega

/-- A digit is none of the marks a date-time is split at. -/
theorem digitChar_ne (value : Nat) :
    Nat.digitChar (value % 10) ≠ '-' ∧ Nat.digitChar (value % 10) ≠ '+' ∧
      Nat.digitChar (value % 10) ≠ 'W' ∧ Nat.digitChar (value % 10) ≠ 'Z' ∧
        Nat.digitChar (value % 10) ≠ ':' := by
  have hall : ∀ digit < 10, Nat.digitChar digit ≠ '-' ∧ Nat.digitChar digit ≠ '+' ∧
      Nat.digitChar digit ≠ 'W' ∧ Nat.digitChar digit ≠ 'Z' ∧ Nat.digitChar digit ≠ ':' := by
    decide
  exact hall (value % 10) (Nat.mod_lt _ (by decide))

/-! ### Days -/

theorem monthDay_spec {lengths : List Nat} (month : Nat) {day : Nat} (hday : day < lengths.sum) :
    ∃ index < lengths.length, (monthDay month day lengths).1 = month + index ∧
      (lengths.take index).sum + ((monthDay month day lengths).2 - 1) = day ∧
        1 ≤ (monthDay month day lengths).2 ∧
          (monthDay month day lengths).2 ≤ lengths.getD index 0 := by
  induction lengths generalizing month day with
  | nil => simp at hday
  | cons length lengths ih =>
      unfold monthDay
      by_cases hfirst : day < length
      · refine ⟨0, by simp, ?_⟩
        simp only [if_pos hfirst, List.take_zero, List.sum_nil, List.getD_cons_zero]
        omega
      · rw [List.sum_cons] at hday
        obtain ⟨index, hindex, hmonth, hsum, hpositive, hbound⟩ :=
          ih (month + 1) (by omega : day - length < lengths.sum)
        refine ⟨index + 1, by simpa using hindex, ?_⟩
        simp only [if_neg hfirst, List.take_succ_cons, List.sum_cons, List.getD_cons_succ]
        omega

theorem daysBeforeYear_parts {cycles centuries quads years : Nat} (hcenturies : centuries ≤ 3)
    (hquads : quads ≤ 24) (hyears : years ≤ 3) :
    daysBeforeYear (cycles * 400 + centuries * 100 + quads * 4 + years + 1) =
      cycles * 146097 + centuries * 36524 + quads * 1461 + years * 365 := by
  have hfour : (cycles * 400 + centuries * 100 + quads * 4 + years) / 4 =
      cycles * 100 + centuries * 25 + quads := by omega
  have hhundred : (cycles * 400 + centuries * 100 + quads * 4 + years) / 100 =
      cycles * 4 + centuries := by omega
  have hfourHundred : (cycles * 400 + centuries * 100 + quads * 4 + years) / 400 =
      cycles := by omega
  unfold daysBeforeYear
  rw [Nat.add_sub_cancel, hfour, hhundred, hfourHundred]
  omega

/-- The parts a day is split into, and the years with a day 366. -/
theorem civil_parts (day : Nat) :
    ∃ cycles centuries quads years dayOfYear, centuries ≤ 3 ∧ quads ≤ 24 ∧ years ≤ 3 ∧
      cycles * 146097 + centuries * 36524 + quads * 1461 + years * 365 + dayOfYear = day ∧
        (dayOfYear < 365 ∨ dayOfYear = 365 ∧ years = 3 ∧ (quads < 24 ∨ centuries = 3)) ∧
          civil day = (cycles * 400 + centuries * 100 + quads * 4 + years + 1,
            monthDay 1 dayOfYear
              (monthLengths (cycles * 400 + centuries * 100 + quads * 4 + years + 1))) := by
  refine ⟨day / 146097, min (day % 146097 / 36524) 3,
    (day % 146097 - min (day % 146097 / 36524) 3 * 36524) / 1461,
    min ((day % 146097 - min (day % 146097 / 36524) 3 * 36524) % 1461 / 365) 3,
    (day % 146097 - min (day % 146097 / 36524) 3 * 36524) % 1461 -
      min ((day % 146097 - min (day % 146097 / 36524) 3 * 36524) % 1461 / 365) 3 * 365,
    by omega, by omega, by omega, by omega, by omega, rfl⟩

/-- The year and the day of the year that `civil` finds, and the days before them. -/
theorem civil_year (day : Nat) :
    ∃ year dayOfYear, civil day = (year, monthDay 1 dayOfYear (monthLengths year)) ∧ 1 ≤ year ∧
      daysBeforeYear year + dayOfYear = day ∧ dayOfYear < (monthLengths year).sum := by
  obtain ⟨cycles, centuries, quads, years, dayOfYear, hcenturies, hquads, hyears, hday, hbound,
    hcivil⟩ := civil_parts day
  refine ⟨_, dayOfYear, hcivil, by omega, ?_, ?_⟩
  · rw [daysBeforeYear_parts hcenturies hquads hyears]
    exact hday
  · have hlength (year : Nat) : (monthLengths year).sum = if isLeap year then 366 else 365 := by
      unfold monthLengths
      cases isLeap year <;> rfl
    rw [hlength]
    rcases hbound with hcommon | ⟨rfl, rfl, hlong⟩
    · split <;> omega
    · rw [if_pos]
      · omega
      · unfold isLeap
        simp only [Bool.and_eq_true, Bool.or_eq_true, decide_eq_true_eq, bne_iff_ne]
        omega

theorem ofCivil?_civil {day : Nat} (hday : day < 3652059) :
    Date.ofCivil? (civil day).1 (civil day).2.1 (civil day).2.2 = some ⟨day⟩ := by
  obtain ⟨year, dayOfYear, hcivil, hyear, hsum, hbound⟩ := civil_year day
  obtain ⟨index, hindex, hmonth, hmonthSum, hpositive, hlength⟩ := monthDay_spec 1 hbound
  have hmonths : index < 12 := hindex
  have hlast : year ≤ 9999 := by
    unfold daysBeforeYear at hsum
    omega
  have hmonthIndex : (monthDay 1 dayOfYear (monthLengths year)).1 - 1 = index := by omega
  rw [hcivil]
  unfold Date.ofCivil?
  simp only [hmonthIndex]
  rw [if_pos]
  · congr 2
    omega
  · simp only [Bool.and_eq_true, decide_eq_true_eq]
    refine ⟨⟨⟨⟨⟨hyear, hlast⟩, ?_⟩, ?_⟩, hpositive⟩, hlength⟩
    · omega
    · omega

theorem civil_bounds {day : Nat} (hday : day < 3652059) :
    (civil day).1 < 10 ^ 4 ∧ (civil day).2.1 < 10 ^ 2 ∧ (civil day).2.2 < 10 ^ 2 := by
  have hcivil := ofCivil?_civil hday
  unfold Date.ofCivil? at hcivil
  dsimp only at hcivil
  split at hcivil
  · rename_i hvalid
    simp only [Bool.and_eq_true, decide_eq_true_eq] at hvalid
    have hlength : ∀ index < 12, (monthLengths (civil day).1).getD index 0 ≤ 31 := by
      unfold monthLengths
      cases isLeap (civil day).1 <;> decide
    have hmonth := hlength ((civil day).2.1 - 1) (by omega)
    omega
  · cases hcivil

end Calendar

open Calendar

/-! ### Reading what was written -/

/-- The characters of a timestamp. -/
theorem timestamp_toList {instant : Nat} (hinstant : instant < endOfTime) :
    ∃ year month day hour minute second fraction,
      (timestamp instant).toList = lastDigits 4 year ++ '-' :: (lastDigits 2 month ++ '-' ::
        (lastDigits 2 day ++ 'T' :: (lastDigits 2 hour ++ ':' :: (lastDigits 2 minute ++ ':' ::
          (lastDigits 2 second ++ '.' :: (lastDigits 6 fraction ++ ['Z'])))))) ∧
        year < 10 ^ 4 ∧ month < 10 ^ 2 ∧ day < 10 ^ 2 ∧ hour < 24 ∧ minute < 60 ∧ second < 60 ∧
          fraction < 10 ^ 6 ∧
            Date.ofCivil? year month day = some ⟨instant / 86400000000⟩ ∧
              hour * 3600000000 + minute * 60000000 + second * 1000000 + fraction =
                instant % 86400000000 := by
  have hend : instant < 3652059 * 86400000000 := hinstant
  have hday : instant / 1000000 / 86400 < 3652059 := by omega
  obtain ⟨hyear, hmonth, hdayOfMonth⟩ := civil_bounds hday
  refine ⟨(civil (instant / 1000000 / 86400)).1, (civil (instant / 1000000 / 86400)).2.1,
    (civil (instant / 1000000 / 86400)).2.2, instant / 1000000 % 86400 / 3600,
    instant / 1000000 % 3600 / 60, instant / 1000000 % 60, instant % 1000000, ?_, hyear, hmonth,
    hdayOfMonth, ?_, ?_, ?_, ?_, ?_, ?_⟩
  · unfold timestamp
    simp only [String.toList_append]
    rw [padded_toList 3 hyear, padded_toList 1 hmonth, padded_toList 1 hdayOfMonth,
      padded_toList 1 (by omega), padded_toList 1 (by omega), padded_toList 1 (by omega),
      padded_toList 5 (by omega)]
    simp
  · omega
  · omega
  · omega
  · omega
  · rw [ofCivil?_civil hday, Nat.div_div_eq_div_mul]
  · omega

theorem fromisoformat_date (year month day : Nat) (hyear : year < 10 ^ 4) (hmonth : month < 10 ^ 2)
    (hday : day < 10 ^ 2) :
    Date.fromisoformat (String.ofList
      (lastDigits 4 year ++ '-' :: (lastDigits 2 month ++ '-' :: lastDigits 2 day))) =
        Date.ofCivil? year month day := by
  have hyearDigits := digits?_lastDigits hyear
  have hmonthDigits := digits?_lastDigits hmonth
  have hdayDigits := digits?_lastDigits hday
  unfold Date.fromisoformat
  rw [String.toList_ofList]
  simp only [lastDigits, List.nil_append, List.cons_append] at hyearDigits hmonthDigits hdayDigits ⊢
  simp only [hyearDigits, hmonthDigits, hdayDigits]
  rfl

theorem fraction?_lastDigits {fraction : Nat} (hfraction : fraction < 10 ^ 6) :
    DateTime.fraction? ('.' :: lastDigits 6 fraction) = some fraction := by
  have hdigits := digits?_lastDigits hfraction
  have hall : (lastDigits 6 fraction).any (digit? · |>.isNone) = false := by
    simp [lastDigits, digit?_digitChar]
  have htake : (lastDigits 6 fraction).take 6 = lastDigits 6 fraction := rfl
  have hfilled : (lastDigits 6 fraction).isEmpty = false := rfl
  unfold DateTime.fraction?
  simp only [hall, htake, hfilled, hdigits]
  simp [lastDigits]

theorem clock?_written {hour minute second fraction : Nat} (hhour : hour < 10 ^ 2)
    (hminute : minute < 10 ^ 2) (hsecond : second < 10 ^ 2) (hfraction : fraction < 10 ^ 6) :
    DateTime.clock? (lastDigits 2 hour ++ ':' :: (lastDigits 2 minute ++ ':' ::
      (lastDigits 2 second ++ '.' :: lastDigits 6 fraction))) =
        some (hour, minute, second, fraction) := by
  change ((digits? (lastDigits 2 hour)).bind fun hours =>
    (digits? (lastDigits 2 minute)).bind fun minutes =>
      (digits? (lastDigits 2 second)).bind fun seconds =>
        (DateTime.fraction? ('.' :: lastDigits 6 fraction)).bind fun microseconds =>
          some (hours, minutes, seconds, microseconds)) = _
  rw [digits?_lastDigits hhour, digits?_lastDigits hminute, digits?_lastDigits hsecond,
    fraction?_lastDigits hfraction]
  rfl

theorem time?_utc {hour minute second fraction : Nat} (hhour : hour < 24) (hminute : minute < 60)
    (hsecond : second < 60) (hfraction : fraction < 10 ^ 6) :
    DateTime.time? (lastDigits 2 hour ++ ':' :: (lastDigits 2 minute ++ ':' ::
      (lastDigits 2 second ++ '.' :: (lastDigits 6 fraction ++ "+00:00".toList)))) =
        some (hour * 3600000000 + minute * 60000000 + second * 1000000 + fraction, some 0) := by
  have hplain (value : Nat) : (Nat.digitChar (value % 10) = '-') = False ∧
      (Nat.digitChar (value % 10) = '+') = False := by
    obtain ⟨hminus, hplus, -⟩ := digitChar_ne value
    simp [hminus, hplus]
  have htake : (lastDigits 2 hour ++ ':' :: (lastDigits 2 minute ++ ':' ::
      (lastDigits 2 second ++ '.' :: (lastDigits 6 fraction ++ "+00:00".toList)))).takeWhile
        (· ≠ '+') = lastDigits 2 hour ++ ':' :: (lastDigits 2 minute ++ ':' ::
          (lastDigits 2 second ++ '.' :: lastDigits 6 fraction)) := by
    simp [lastDigits, hplain]
  have hdrop : (lastDigits 2 hour ++ ':' :: (lastDigits 2 minute ++ ':' ::
      (lastDigits 2 second ++ '.' :: (lastDigits 6 fraction ++ "+00:00".toList)))).dropWhile
        (· ≠ '+') = "+00:00".toList := by
    simp [lastDigits, hplain]
  have hcontains : (lastDigits 2 hour ++ ':' :: (lastDigits 2 minute ++ ':' ::
      (lastDigits 2 second ++ '.' :: (lastDigits 6 fraction ++ "+00:00".toList)))).contains '-' =
        false := by
    simp [lastDigits, eq_comm]
  have hclock := clock?_written (by omega : hour < 10 ^ 2)
    (by omega : minute < 10 ^ 2) (by omega : second < 10 ^ 2) hfraction
  have hzone : DateTime.clock? ['0', '0', ':', '0', '0'] = some (0, 0, 0, 0) := by rfl
  have hempty : (lastDigits 2 hour ++ ':' :: (lastDigits 2 minute ++ ':' ::
      (lastDigits 2 second ++ '.' :: (lastDigits 6 fraction ++ "+00:00".toList)))).isEmpty =
        false := rfl
  unfold DateTime.time?
  simp only [hempty, hcontains, Bool.false_eq_true, if_false, htake, hdrop, hclock]
  have hrange : (decide (24 ≤ hour) || decide (60 ≤ minute) || decide (60 ≤ second)) = false := by
    simp only [Bool.or_eq_false_iff, decide_eq_false_iff_not]
    omega
  change (if (decide (24 ≤ hour) || decide (60 ≤ minute) || decide (60 ≤ second)) = true then _
    else (DateTime.clock? ['0', '0', ':', '0', '0']).bind _) = _
  rw [hrange, hzone]
  rfl

/-- **The timestamp round trip.** A stored timestamp is read as its instant in UTC. -/
theorem parseTimestamp_timestamp {instant : Nat} (hinstant : instant < endOfTime) :
    parseTimestamp (timestamp instant) = .ok ⟨instant, some 0⟩ := by
  obtain ⟨year, month, day, hour, minute, second, fraction, htext, hyear, hmonth, hday, hhour,
    hminute, hsecond, hfraction, hdate, htime⟩ := timestamp_toList hinstant
  have hreplaced : (timestamp instant).toList.flatMap (fun character =>
      if character = 'Z' then "+00:00".toList else [character]) =
        lastDigits 4 year ++ '-' :: (lastDigits 2 month ++ '-' :: (lastDigits 2 day ++ 'T' ::
          (lastDigits 2 hour ++ ':' :: (lastDigits 2 minute ++ ':' ::
            (lastDigits 2 second ++ '.' :: (lastDigits 6 fraction ++ "+00:00".toList)))))) := by
    have hplain (value : Nat) : ¬Nat.digitChar (value % 10) = 'Z' := (digitChar_ne value).2.2.2.1
    rw [htext]
    simp [lastDigits, List.flatMap_cons, hplain]
  have hlength : DateTime.dateLength? (lastDigits 4 year ++ '-' :: (lastDigits 2 month ++ '-' ::
      (lastDigits 2 day ++ 'T' :: (lastDigits 2 hour ++ ':' :: (lastDigits 2 minute ++ ':' ::
        (lastDigits 2 second ++ '.' :: (lastDigits 6 fraction ++ "+00:00".toList))))))) =
          some 10 := by
    have hweek : ¬Nat.digitChar (month / 10 % 10) = 'W' := (digitChar_ne (month / 10)).2.2.1
    unfold DateTime.dateLength?
    simp [lastDigits, hweek]
  unfold parseTimestamp
  rw [hreplaced, DateTime.fromisoformat, String.toList_ofList, hlength]
  change (match (Date.fromisoformat (String.ofList
      (lastDigits 4 year ++ '-' :: (lastDigits 2 month ++ '-' :: lastDigits 2 day)))).bind
        (fun date => (DateTime.time? (lastDigits 2 hour ++ ':' :: (lastDigits 2 minute ++ ':' ::
          (lastDigits 2 second ++ '.' :: (lastDigits 6 fraction ++ "+00:00".toList))))).bind
            fun time => some (⟨date.ordinal * DateTime.dayLength + time.1, time.2⟩ : DateTime)) with
    | some moment => Except.ok moment
    | none => Except.error (valueError "Invalid isoformat string")) = _
  rw [fromisoformat_date year month day hyear hmonth hday, hdate,
    time?_utc hhour hminute hsecond hfraction]
  simp only [Option.bind_some, Except.ok.injEq, DateTime.mk.injEq, and_true, DateTime.dayLength]
  omega

end OdooMcp
