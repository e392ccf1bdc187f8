import Mathlib.Algebra.Group.Nat.Defs
import Mathlib.Algebra.GroupWithZero.Nat
import Mathlib.Tactic.Common

/-!
# Dates

A date is the number of days since 0001-01-01, in the proleptic Gregorian calendar.
-/

namespace OdooMcp

namespace Calendar

def isLeap (year : Nat) : Bool :=
  year % 4 = 0 && (year % 100 != 0 || year % 400 = 0)

def monthLengths (year : Nat) : List Nat :=
  [31, if isLeap year then 29 else 28, 31, 30, 31, 30, 31, 31, 30, 31, 30, 31]

/-- Month and day of a zero-based day of the year. -/
def monthDay (month day : Nat) : List Nat → Nat × Nat
  | [] => (month, day + 1)
  | length :: lengths =>
      if day < length then (month, day + 1) else monthDay (month + 1) (day - length) lengths

/-- Year, month and day of a day counted from 0001-01-01. -/
def civil (day : Nat) : Nat × Nat × Nat :=
  let cycles := day / 146097
  let inCycle := day % 146097
  let centuries := min (inCycle / 36524) 3
  let inCentury := inCycle - centuries * 36524
  let quads := inCentury / 1461
  let inQuad := inCentury % 1461
  let years := min (inQuad / 365) 3
  let year := cycles * 400 + centuries * 100 + quads * 4 + years + 1
  (year, monthDay 1 (inQuad - years * 365) (monthLengths year))

def padded (width value : Nat) : String :=
  let digits := toString value
  String.ofList (List.replicate (width - digits.length) '0') ++ digits

def digit? (character : Char) : Option Nat :=
  if '0' ≤ character && character ≤ '9' then some (character.toNat - '0'.toNat) else none

def digits? (characters : List Char) : Option Nat :=
  characters.foldlM (fun value character => do return value * 10 + (← digit? character)) 0

def daysBeforeYear (year : Nat) : Nat :=
  (year - 1) * 365 + (year - 1) / 4 - (year - 1) / 100 + (year - 1) / 400

end Calendar

open Calendar

structure Date where
  ordinal : Nat
  deriving DecidableEq, Repr

namespace Date

def ofCivil? (year month day : Nat) : Option Date :=
  let lengths := monthLengths year
  if 1 ≤ year && year ≤ 9999 && 1 ≤ month && month ≤ 12 && 1 ≤ day &&
      day ≤ lengths.getD (month - 1) 0 then
    some ⟨daysBeforeYear year + (lengths.take (month - 1)).sum + (day - 1)⟩
  else
    none

/-- A week of the ISO calendar starts on a Monday, and the first one holds the first Thursday. -/
def ofIsoWeek? (year week day : Nat) : Option Date :=
  let first := daysBeforeYear year
  let weekday := first % 7
  let long := weekday = 3 || (weekday = 2 && isLeap year)
  let monday := if weekday ≤ 3 then first - weekday else first + 7 - weekday
  let ordinal := monday + (week - 1) * 7 + (day - 1)
  if 1 ≤ year && year ≤ 9999 && 1 ≤ week && (week ≤ 52 || (week = 53 && long)) && 1 ≤ day &&
      day ≤ 7 && ordinal < daysBeforeYear 10000 then
    some ⟨ordinal⟩
  else
    none

/-- `date.fromisoformat` -/
def fromisoformat (text : String) : Option Date :=
  match text.toList with
  | [y1, y2, y3, y4, '-', m1, m2, '-', d1, d2] => do
      ofCivil? (← digits? [y1, y2, y3, y4]) (← digits? [m1, m2]) (← digits? [d1, d2])
  | [y1, y2, y3, y4, '-', 'W', w1, w2, '-', d] => do
      ofIsoWeek? (← digits? [y1, y2, y3, y4]) (← digits? [w1, w2]) (← digit? d)
  | [y1, y2, y3, y4, '-', 'W', w1, w2] => do
      ofIsoWeek? (← digits? [y1, y2, y3, y4]) (← digits? [w1, w2]) 1
  | [y1, y2, y3, y4, 'W', w1, w2, d] => do
      ofIsoWeek? (← digits? [y1, y2, y3, y4]) (← digits? [w1, w2]) (← digit? d)
  | [y1, y2, y3, y4, 'W', w1, w2] => do
      ofIsoWeek? (← digits? [y1, y2, y3, y4]) (← digits? [w1, w2]) 1
  | [y1, y2, y3, y4, m1, m2, d1, d2] => do
      ofCivil? (← digits? [y1, y2, y3, y4]) (← digits? [m1, m2]) (← digits? [d1, d2])
  | _ => none

def isoformat (date : Date) : String :=
  let (year, month, day) := civil date.ordinal
  padded 4 year ++ "-" ++ padded 2 month ++ "-" ++ padded 2 day

end Date

example : (Date.fromisoformat "2024-02-29").map Date.isoformat = some "2024-02-29" := by
  decide +kernel

example : Date.fromisoformat "2020-W53-7" = Date.fromisoformat "20210103" := by
  decide +kernel

end OdooMcp
