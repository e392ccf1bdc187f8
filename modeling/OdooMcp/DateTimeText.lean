import OdooMcp.Storage.Timestamps

/-!
# Written date-times

Two date-times that are written alike are the same reading of the same clock, and the ones that are
read are in the range of Python's.
-/

namespace OdooMcp

open Calendar

namespace Calendar

theorem length_lastDigits (width value : Nat) : (lastDigits width value).length = width := by
  induction width generalizing value with
  | zero => rfl
  | succ width ih => rw [lastDigits, List.length_append, ih, List.length_singleton]

/-- Digits of one width at the front of equal texts are those of one number. -/
theorem lastDigits_append_inj {width first second : Nat} (hfirst : first < 10 ^ width)
    (hsecond : second < 10 ^ width) {rest other : List Char}
    (hsame : lastDigits width first ++ rest = lastDigits width second ++ other) :
    first = second ∧ rest = other := by
  obtain ⟨hdigits, hrest⟩ := List.append_inj hsame (by simp only [length_lastDigits])
  refine ⟨?_, hrest⟩
  have hvalue := digits?_lastDigits hfirst
  rw [hdigits, digits?_lastDigits hsecond] at hvalue
  exact (Option.some.inj hvalue).symm

end Calendar

namespace DateTime

/-- The range of the clock readings and of the offsets of Python's date-times. -/
structure Valid (moment : DateTime) : Prop where
  nonneg : 0 ≤ moment.wall
  before_end : moment.wall < endOfTime
  offset_lt : ∀ offset ∈ moment.offset, offset.natAbs < dayLength

theorem Valid.ordinal_lt {moment : DateTime} (hvalid : moment.Valid) :
    moment.date.ordinal < 3652059 := by
  have hend := hvalid.before_end
  have hnonneg := hvalid.nonneg
  simp only [DateTime.date, dayLength]
  change moment.wall < ((3652059 * 86400000000 : Nat) : Int) at hend
  omega

/-! ### Parts of the text -/

def fractionText (microseconds : Nat) : List Char :=
  if microseconds % secondLength = 0 then []
  else '.' :: lastDigits 6 (microseconds % secondLength)

theorem secondsText_toList (microseconds : Nat) :
    (secondsText microseconds).toList =
      lastDigits 2 (microseconds / secondLength % 60) ++ fractionText microseconds := by
  have hseconds : microseconds / secondLength % 60 < 10 ^ (1 + 1) :=
    Nat.lt_of_lt_of_le (Nat.mod_lt _ (by decide)) (by decide)
  have hfraction : microseconds % secondLength < 10 ^ (5 + 1) := Nat.mod_lt _ (by decide)
  unfold secondsText fractionText
  rw [String.toList_append, padded_toList 1 hseconds]
  split
  · rfl
  · rw [String.toList_append, padded_toList 5 hfraction]
    rfl

/-- Seconds at the front of equal texts are the same, if no decimal point follows them. -/
theorem secondsText_append_inj {first second : Nat} {rest other : List Char}
    (hrest : rest.head? ≠ some '.') (hother : other.head? ≠ some '.')
    (hsame : (secondsText first).toList ++ rest = (secondsText second).toList ++ other) :
    first % minuteLength = second % minuteLength ∧ rest = other := by
  rw [secondsText_toList, secondsText_toList, List.append_assoc, List.append_assoc] at hsame
  have hbound (microseconds : Nat) : microseconds / secondLength % 60 < 10 ^ 2 :=
    Nat.lt_of_lt_of_le (Nat.mod_lt _ (by decide)) (by decide)
  obtain ⟨hseconds, hfractions⟩ := lastDigits_append_inj (hbound first) (hbound second) hsame
  suffices hfraction : first % secondLength = second % secondLength ∧ rest = other by
    refine ⟨?_, hfraction.2⟩
    have hparts := hfraction.1
    simp only [secondLength, minuteLength] at hseconds hparts ⊢
    omega
  unfold fractionText at hfractions
  split at hfractions <;> split at hfractions
  · rename_i hfirst hsecond
    exact ⟨hfirst.trans hsecond.symm, hfractions⟩
  · rw [List.nil_append] at hfractions
    rw [hfractions] at hrest
    exact absurd rfl hrest
  · rw [List.nil_append] at hfractions
    rw [← hfractions] at hother
    exact absurd rfl hother
  · rw [List.cons_append, List.cons_append] at hfractions
    exact lastDigits_append_inj (Nat.mod_lt _ (by decide)) (Nat.mod_lt _ (by decide))
      (List.cons.inj hfractions).2

def signText (offset : Int) : Char := if offset < 0 then '-' else '+'

def offsetSeconds (distance : Nat) : List Char :=
  if distance % minuteLength = 0 then [] else ':' :: (secondsText distance).toList

theorem offsetText_toList {offset : Int} (hoffset : offset.natAbs < dayLength) :
    (offsetText offset).toList = signText offset :: (lastDigits 2 (offset.natAbs / hourLength) ++
      ':' :: (lastDigits 2 (offset.natAbs / minuteLength % 60) ++
        offsetSeconds offset.natAbs)) := by
  have hhours : offset.natAbs / hourLength < 10 ^ (1 + 1) := by
    simp only [dayLength, hourLength] at hoffset ⊢
    omega
  have hminutes : offset.natAbs / minuteLength % 60 < 10 ^ (1 + 1) :=
    Nat.lt_of_lt_of_le (Nat.mod_lt _ (by decide)) (by decide)
  unfold offsetText signText offsetSeconds
  simp only [String.toList_append, padded_toList 1 hhours, padded_toList 1 hminutes,
    apply_ite String.toList]
  split <;> split <;> simp

theorem head?_offsetText {offset : Int} (hoffset : offset.natAbs < dayLength) :
    (offsetText offset).toList.head? ≠ some '.' := by
  rw [offsetText_toList hoffset, List.head?_cons]
  unfold signText
  split <;> decide

/-- Offsets that are written alike are equal. -/
theorem offsetText_inj {first second : Int} (hfirst : first.natAbs < dayLength)
    (hsecond : second.natAbs < dayLength)
    (hsame : (offsetText first).toList = (offsetText second).toList) : first = second := by
  rw [offsetText_toList hfirst, offsetText_toList hsecond] at hsame
  obtain ⟨hsign, hdistance⟩ := List.cons.inj hsame
  have hhours {offset : Int} (hoffset : offset.natAbs < dayLength) :
      offset.natAbs / hourLength < 10 ^ 2 := by
    simp only [dayLength, hourLength] at hoffset ⊢
    omega
  have hminutes (offset : Int) : offset.natAbs / minuteLength % 60 < 10 ^ 2 :=
    Nat.lt_of_lt_of_le (Nat.mod_lt _ (by decide)) (by decide)
  obtain ⟨hhour, hrest⟩ := lastDigits_append_inj (hhours hfirst) (hhours hsecond) hdistance
  obtain ⟨hminute, hseconds⟩ := lastDigits_append_inj (hminutes first) (hminutes second)
    (List.cons.inj hrest).2
  have hpart : first.natAbs % minuteLength = second.natAbs % minuteLength := by
    unfold offsetSeconds at hseconds
    split at hseconds <;> split at hseconds
    · rename_i hone hother
      exact hone.trans hother.symm
    · cases hseconds
    · cases hseconds
    · have hend : ([] : List Char).head? ≠ some '.' := by simp
      refine (secondsText_append_inj hend hend ?_).1
      rw [List.append_nil, List.append_nil]
      exact (List.cons.inj hseconds).2
  have hsize : first.natAbs = second.natAbs := by
    simp only [minuteLength, hourLength] at hhour hminute hpart
    omega
  unfold signText at hsign
  split at hsign <;> split at hsign
  · omega
  · cases hsign
  · cases hsign
  · omega

/-! ### The whole text -/

def zoneText (offset : Option Int) : List Char := ((offset.map offsetText).getD "").toList

theorem isoformat_toList {moment : DateTime} (hvalid : moment.Valid) :
    moment.isoformat.toList =
      lastDigits 4 (civil moment.date.ordinal).1 ++ '-' ::
        (lastDigits 2 (civil moment.date.ordinal).2.1 ++ '-' ::
          (lastDigits 2 (civil moment.date.ordinal).2.2 ++ 'T' ::
            (lastDigits 2 (moment.wall.toNat % dayLength / hourLength) ++ ':' ::
              (lastDigits 2 (moment.wall.toNat % dayLength / minuteLength % 60) ++ ':' ::
                ((secondsText (moment.wall.toNat % dayLength)).toList ++
                  zoneText moment.offset))))) := by
  obtain ⟨hyear, hmonth, hdayOfMonth⟩ := civil_bounds hvalid.ordinal_lt
  have hhour : moment.wall.toNat % dayLength / hourLength < 10 ^ (1 + 1) := by
    simp only [dayLength, hourLength]
    omega
  have hminute : moment.wall.toNat % dayLength / minuteLength % 60 < 10 ^ (1 + 1) :=
    Nat.lt_of_lt_of_le (Nat.mod_lt _ (by decide)) (by decide)
  unfold isoformat Date.isoformat zoneText
  simp only [String.toList_append, padded_toList 3 hyear, padded_toList 1 hmonth,
    padded_toList 1 hdayOfMonth, padded_toList 1 hhour, padded_toList 1 hminute]
  simp

theorem head?_zoneText {moment : DateTime} (hvalid : moment.Valid) :
    (zoneText moment.offset).head? ≠ some '.' := by
  cases hoffset : moment.offset with
  | none => simp [zoneText]
  | some offset => exact head?_offsetText (hvalid.offset_lt offset hoffset)

theorem zoneText_inj {first second : DateTime} (hfirst : first.Valid) (hsecond : second.Valid)
    (hsame : zoneText first.offset = zoneText second.offset) : first.offset = second.offset := by
  have hlength {moment : DateTime} (hvalid : moment.Valid) {offset : Int}
      (hoffset : moment.offset = some offset) : zoneText moment.offset ≠ [] := by
    rw [hoffset]
    change (offsetText offset).toList ≠ []
    rw [offsetText_toList (hvalid.offset_lt offset hoffset)]
    exact List.cons_ne_nil _ _
  cases hone : first.offset with
  | none =>
      cases hother : second.offset with
      | none => rfl
      | some other =>
          rw [hone] at hsame
          exact absurd hsame.symm (hlength hsecond hother)
  | some offset =>
      cases hother : second.offset with
      | none =>
          rw [hother] at hsame
          exact absurd hsame (hlength hfirst hone)
      | some other =>
          rw [hone, hother] at hsame
          exact congrArg some (offsetText_inj (hfirst.offset_lt offset hone)
            (hsecond.offset_lt other hother) hsame)

/-- **Date-times that are written alike are equal.** -/
theorem isoformat_inj {first second : DateTime} (hfirst : first.Valid) (hsecond : second.Valid)
    (hsame : first.isoformat = second.isoformat) : first = second := by
  have htext := congrArg String.toList hsame
  rw [isoformat_toList hfirst, isoformat_toList hsecond] at htext
  obtain ⟨hyear, hmonth, hday⟩ := civil_bounds hfirst.ordinal_lt
  obtain ⟨hyear', hmonth', hday'⟩ := civil_bounds hsecond.ordinal_lt
  have hhour (wall : Nat) : wall % dayLength / hourLength < 10 ^ 2 := by
    simp only [dayLength, hourLength]
    omega
  have hminute (wall : Nat) : wall % dayLength / minuteLength % 60 < 10 ^ 2 :=
    Nat.lt_of_lt_of_le (Nat.mod_lt _ (by decide)) (by decide)
  obtain ⟨hyears, hrest⟩ := lastDigits_append_inj hyear hyear' htext
  obtain ⟨hmonths, hrest⟩ := lastDigits_append_inj hmonth hmonth' (List.cons.inj hrest).2
  obtain ⟨hdays, hrest⟩ := lastDigits_append_inj hday hday' (List.cons.inj hrest).2
  obtain ⟨hhours, hrest⟩ := lastDigits_append_inj (hhour _) (hhour _) (List.cons.inj hrest).2
  obtain ⟨hminutes, hrest⟩ := lastDigits_append_inj (hminute _) (hminute _) (List.cons.inj hrest).2
  obtain ⟨hseconds, hzone⟩ := secondsText_append_inj (head?_zoneText hfirst)
    (head?_zoneText hsecond) (List.cons.inj hrest).2
  have hordinal : first.date = second.date := by
    have hcivil := ofCivil?_civil hfirst.ordinal_lt
    rw [hyears, hmonths, hdays, ofCivil?_civil hsecond.ordinal_lt] at hcivil
    exact (Option.some.inj hcivil).symm
  have hwall : first.wall = second.wall := by
    have hnonneg := hfirst.nonneg
    have hnonneg' := hsecond.nonneg
    have hsame := congrArg Date.ordinal hordinal
    simp only [DateTime.date, dayLength, hourLength, minuteLength] at hsame hhours hminutes hseconds
    omega
  have hoffset := zoneText_inj hfirst hsecond hzone
  obtain ⟨wall, offset⟩ := first
  obtain ⟨wall', offset'⟩ := second
  dsimp only at hwall hoffset
  rw [hwall, hoffset]

end DateTime

/-! ### Date-times that were read -/

namespace Calendar

theorem digit?_lt {character : Char} {value : Nat} (hvalue : digit? character = some value) :
    value < 10 := by
  unfold digit? at hvalue
  split at hvalue
  · rename_i hdigit
    obtain rfl := Option.some.inj hvalue
    simp only [Bool.and_eq_true, decide_eq_true_eq, Char.le_def, UInt32.le_iff_toNat_le] at hdigit
    have hnine : ('9' : Char).val.toNat = 57 := rfl
    have hzero : ('0' : Char).toNat = 48 := rfl
    have htoNat : character.toNat = character.val.toNat := rfl
    omega
  · cases hvalue

theorem digits?_lt {characters : List Char} {value : Nat}
    (hvalue : digits? characters = some value) : value < 10 ^ characters.length := by
  induction hlength : characters.length generalizing characters value with
  | zero =>
      obtain rfl := List.length_eq_zero_iff.mp hlength
      obtain rfl := Option.some.inj hvalue
      decide
  | succ length ih =>
      obtain ⟨front, last, rfl⟩ := (List.eq_nil_or_concat characters).resolve_left
        (List.ne_nil_of_length_eq_add_one hlength)
      rw [List.concat_eq_append] at hvalue hlength
      rw [digits?_append] at hvalue
      obtain ⟨earlier, hearlier, hlast⟩ := Option.bind_eq_some_iff.mp hvalue
      obtain ⟨digit, hdigit, rfl⟩ := Option.map_eq_some_iff.mp hlast
      have hfront := ih hearlier (by simpa using hlength)
      have hten := digit?_lt hdigit
      rw [Nat.pow_succ]
      omega

end Calendar

namespace Date

theorem daysBeforeYear_le {year : Nat} (hyear : year ≤ 9998) : daysBeforeYear year ≤ 3651329 := by
  unfold daysBeforeYear
  omega

theorem dayOfYear_lt {year month day : Nat} (hmonth : 1 ≤ month ∧ month ≤ 12)
    (hday : 1 ≤ day ∧ day ≤ (monthLengths year).getD (month - 1) 0) :
    ((monthLengths year).take (month - 1)).sum + (day - 1) < (monthLengths year).sum := by
  have hsplit : ((monthLengths year).take (month - 1)).sum +
      ((monthLengths year).drop (month - 1)).sum = (monthLengths year).sum := by
    rw [← List.sum_append, List.take_append_drop]
  have hlength : month - 1 < (monthLengths year).length := by
    simp only [monthLengths, List.length_cons, List.length_nil]
    omega
  rw [List.drop_eq_getElem_cons hlength, List.sum_cons] at hsplit
  rw [List.getD_eq_getElem?_getD, List.getElem?_eq_getElem hlength, Option.getD_some] at hday
  omega

theorem ofCivil?_lt {year month day : Nat} {date : Date}
    (hdate : ofCivil? year month day = some date) : date.ordinal < 3652059 := by
  unfold ofCivil? at hdate
  dsimp only at hdate
  split at hdate
  · rename_i hvalid
    simp only [Bool.and_eq_true, decide_eq_true_eq] at hvalid
    obtain ⟨⟨⟨⟨⟨hfirst, hlast⟩, hmonth⟩, hmonth'⟩, hday⟩, hday'⟩ := hvalid
    obtain rfl := Option.some.inj hdate
    have hwithin := dayOfYear_lt ⟨hmonth, hmonth'⟩ ⟨hday, hday'⟩
    dsimp only
    rcases Nat.lt_or_ge year 9999 with hearlier | hlater
    · have hstart := daysBeforeYear_le (Nat.le_of_lt_succ hearlier)
      have hsum : (monthLengths year).sum ≤ 366 := by
        unfold monthLengths
        split <;> decide
      omega
    · obtain rfl : year = 9999 := by omega
      have hstart : daysBeforeYear 9999 = 3651694 := by decide
      have hsum : (monthLengths 9999).sum = 365 := by decide
      omega
  · cases hdate

theorem ofIsoWeek?_lt {year week day : Nat} {date : Date}
    (hdate : ofIsoWeek? year week day = some date) : date.ordinal < 3652059 := by
  unfold ofIsoWeek? at hdate
  extract_lets first weekday long monday ordinal at hdate
  by_cases hvalid : (1 ≤ year && year ≤ 9999 && 1 ≤ week && (week ≤ 52 || (week = 53 && long)) &&
      1 ≤ day && day ≤ 7 && ordinal < daysBeforeYear 10000) = true
  · rw [if_pos hvalid] at hdate
    obtain rfl := Option.some.inj hdate
    simp only [Bool.and_eq_true, decide_eq_true_eq] at hvalid
    exact hvalid.2
  · rw [if_neg hvalid] at hdate
    cases hdate

/-- A date lies before the end of the year 9999. -/
theorem fromisoformat_lt {text : String} {date : Date} (hdate : fromisoformat text = some date) :
    date.ordinal < 3652059 := by
  unfold fromisoformat at hdate
  split at hdate <;>
    simp only [Option.bind_eq_bind, Option.bind_eq_some_iff, reduceCtorEq] at hdate
  · obtain ⟨_, -, _, -, _, -, hcivil⟩ := hdate
    exact ofCivil?_lt hcivil
  · obtain ⟨_, -, _, -, _, -, hweek⟩ := hdate
    exact ofIsoWeek?_lt hweek
  · obtain ⟨_, -, _, -, hweek⟩ := hdate
    exact ofIsoWeek?_lt hweek
  · obtain ⟨_, -, _, -, _, -, hweek⟩ := hdate
    exact ofIsoWeek?_lt hweek
  · obtain ⟨_, -, _, -, hweek⟩ := hdate
    exact ofIsoWeek?_lt hweek
  · obtain ⟨_, -, _, -, _, -, hcivil⟩ := hdate
    exact ofCivil?_lt hcivil

end Date

namespace DateTime

theorem fraction?_lt {characters : List Char} {fraction : Nat}
    (hfraction : fraction? characters = some fraction) : fraction < secondLength := by
  unfold fraction? at hfraction
  split at hfraction
  · obtain rfl := Option.some.inj hfraction
    decide
  · rename_i mark digits
    dsimp only at hfraction
    split at hfraction
    · cases hfraction
    · simp only [Option.bind_eq_bind, Option.pure_def, Option.bind_eq_some_iff,
        Option.some.injEq] at hfraction
      obtain ⟨value, hvalue, rfl⟩ := hfraction
      have hlt := digits?_lt hvalue
      have hlength : (digits.take 6).length ≤ 6 := List.length_take_le 6 digits
      calc value * 10 ^ (6 - (digits.take 6).length)
          < 10 ^ (digits.take 6).length * 10 ^ (6 - (digits.take 6).length) :=
            Nat.mul_lt_mul_of_pos_right hlt (Nat.pow_pos (by decide))
        _ = secondLength := by
            rw [← Nat.pow_add, Nat.add_sub_cancel' hlength]
            rfl

theorem clock?_fraction_lt {characters : List Char} {clock : Nat × Nat × Nat × Nat}
    (hclock : clock? characters = some clock) : clock.2.2.2 < secondLength := by
  unfold clock? at hclock
  split at hclock <;>
    simp only [Option.bind_eq_bind, Option.pure_def, Option.bind_eq_some_iff, Option.some.injEq,
      reduceCtorEq] at hclock
  · obtain ⟨_, -, rfl⟩ := hclock
    exact (by decide : 0 < secondLength)
  · obtain ⟨_, -, _, -, rfl⟩ := hclock
    exact (by decide : 0 < secondLength)
  · obtain ⟨_, -, _, -, rfl⟩ := hclock
    exact (by decide : 0 < secondLength)
  · obtain ⟨_, -, _, -, _, -, fraction, hfraction, rfl⟩ := hclock
    exact fraction?_lt hfraction
  · obtain ⟨_, -, _, -, _, -, fraction, hfraction, rfl⟩ := hclock
    exact fraction?_lt hfraction

theorem time?_lt {characters : List Char} {time : Nat} {offset : Option Int}
    (htime : time? characters = some (time, offset)) :
    time < dayLength ∧ ∀ distance ∈ offset, distance.natAbs < dayLength := by
  unfold time? at htime
  split at htime
  · cases htime
    exact ⟨by decide, by simp⟩
  · dsimp only at htime
    simp only [Option.bind_eq_bind, Option.bind_eq_some_iff] at htime
    obtain ⟨clock, hclock, hrest⟩ := htime
    have hfraction := clock?_fraction_lt hclock
    split at hrest
    · cases hrest
    · rename_i hrange
      simp only [Bool.or_eq_true, decide_eq_true_eq, not_or, Nat.not_le] at hrange
      have hlength : clockLength clock < dayLength := by
        simp only [clockLength, hourLength, minuteLength, secondLength, dayLength] at *
        omega
      split at hrest
      · cases hrest
        exact ⟨hlength, by simp⟩
      · simp only [Option.bind_eq_some_iff] at hrest
        obtain ⟨zone, -, hrest⟩ := hrest
        split at hrest
        · cases hrest
        · rename_i hdistance
          cases hrest
          refine ⟨hlength, fun distance hoffset => ?_⟩
          cases hoffset
          split <;> omega

/-- A date-time that was read is one of Python's. -/
theorem valid_of_fromisoformat {text : String} {moment : DateTime}
    (hmoment : fromisoformat text = some moment) : moment.Valid := by
  unfold fromisoformat at hmoment
  simp only [Option.bind_eq_bind, Option.bind_eq_some_iff] at hmoment
  obtain ⟨length, -, date, hdate, ⟨time, offset⟩, htime, hdone⟩ := hmoment
  obtain rfl := Option.some.inj hdone
  have hordinal := Date.fromisoformat_lt hdate
  obtain ⟨hlength, hoffset⟩ := time?_lt htime
  refine ⟨?_, ?_, hoffset⟩
  · change (0 : Int) ≤ ((date.ordinal * dayLength + time : Nat) : Int)
    omega
  · change ((date.ordinal * dayLength + time : Nat) : Int) < ((3652059 * 86400000000 : Nat) : Int)
    simp only [dayLength] at *
    omega

end DateTime

end OdooMcp
