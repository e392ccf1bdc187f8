import OdooMcp.Calendar

/-!
# Date-times

A date-time is a wall clock reading in microseconds since 0001-01-01, with the offset from UTC if it
is an aware one. Aware date-times are equal when they are one instant; an aware and a naive one
never are.
-/

namespace OdooMcp

structure DateTime where
  wall : Int
  offset : Option Int
  deriving DecidableEq, Repr

namespace DateTime

open Calendar

/-- The same instant, written in UTC. Date-times are equal when their normal forms are. -/
def normal (moment : DateTime) : DateTime :=
  match moment.offset with
  | none => moment
  | some offset => ⟨moment.wall - offset, some 0⟩

def hourLength : Nat := 3600000000

def minuteLength : Nat := 60000000

def secondLength : Nat := 1000000

def dayLength : Nat := 86400000000

/-! ### Parsing -/

/-- The digits after the decimal point, cut to microseconds. -/
def fraction? (characters : List Char) : Option Nat :=
  match characters with
  | [] => some 0
  | mark :: digits => do
      if (mark ≠ '.' && mark ≠ ',') || digits.isEmpty || digits.any (digit? · |>.isNone) then none
      let kept := digits.take 6
      return (← digits? kept) * 10 ^ (6 - kept.length)

/-- `HH[:MM[:SS[.fff[fff]]]]`, with or without the colons: hours, minutes, seconds and
microseconds. -/
def clock? (characters : List Char) : Option (Nat × Nat × Nat × Nat) :=
  match characters with
  | [h1, h2] => do return (← digits? [h1, h2], 0, 0, 0)
  | [h1, h2, ':', m1, m2] => do return (← digits? [h1, h2], ← digits? [m1, m2], 0, 0)
  | [h1, h2, m1, m2] => do return (← digits? [h1, h2], ← digits? [m1, m2], 0, 0)
  | h1 :: h2 :: ':' :: m1 :: m2 :: ':' :: s1 :: s2 :: rest => do
      return (← digits? [h1, h2], ← digits? [m1, m2], ← digits? [s1, s2], ← fraction? rest)
  | h1 :: h2 :: m1 :: m2 :: s1 :: s2 :: rest => do
      return (← digits? [h1, h2], ← digits? [m1, m2], ← digits? [s1, s2], ← fraction? rest)
  | _ => none

def clockLength (clock : Nat × Nat × Nat × Nat) : Nat :=
  clock.1 * hourLength + clock.2.1 * minuteLength + clock.2.2.1 * secondLength + clock.2.2.2

/-- A time of day with its offset: a minus starts the offset, or else a plus. -/
def time? (characters : List Char) : Option (Nat × Option Int) := do
  if characters.isEmpty then return (0, none)
  let mark := if characters.contains '-' then '-' else '+'
  let clock ← clock? (characters.takeWhile (· ≠ mark))
  if 24 ≤ clock.1 || 60 ≤ clock.2.1 || 60 ≤ clock.2.2.1 then none
  match characters.dropWhile (· ≠ mark) with
  | [] => return (clockLength clock, none)
  | _ :: zone =>
      let distance := clockLength (← clock? zone)
      if dayLength ≤ distance then none
      return (clockLength clock, some (if mark = '-' then -(distance : Int) else distance))

def dateLength? (characters : List Char) : Option Nat :=
  let length := characters.length
  let digitAt (index : Nat) : Bool := (characters[index]?.bind digit?).isSome
  if length < 7 then
    none
  else if characters[4]? = some '-' then
    if characters[5]? ≠ some 'W' then
      some 10
    else if characters[8]? ≠ some '-' then
      some 8
    else if length = 9 then
      none
    else
      some (if 10 < length && digitAt 10 then 8 else 10)
  else if characters[4]? = some 'W' then
    let index :=
      7 + ((characters.drop 7).takeWhile fun character => (digit? character).isSome).length
    some (if index < 9 then index else if index % 2 = 0 then 7 else 8)
  else
    some 8

/-- `datetime.fromisoformat` of a text without the letter `Z`. -/
def fromisoformat (text : String) : Option DateTime := do
  let characters := text.toList
  let length ← dateLength? characters
  let date ← Date.fromisoformat (String.ofList (characters.take length))
  let (time, offset) ← time? (characters.drop (length + 1))
  return ⟨date.ordinal * dayLength + time, offset⟩

/-! ### Writing -/

def date (moment : DateTime) : Date := ⟨moment.wall.toNat / dayLength⟩

def secondsText (microseconds : Nat) : String :=
  padded 2 (microseconds / secondLength % 60) ++
    if microseconds % secondLength = 0 then "" else "." ++ padded 6 (microseconds % secondLength)

def offsetText (offset : Int) : String :=
  let distance := offset.natAbs
  (if offset < 0 then "-" else "+") ++ padded 2 (distance / hourLength) ++ ":" ++
    padded 2 (distance / minuteLength % 60) ++
    if distance % minuteLength = 0 then "" else ":" ++ secondsText distance

def isoformat (moment : DateTime) : String :=
  let time := moment.wall.toNat % dayLength
  moment.date.isoformat ++ "T" ++ padded 2 (time / hourLength) ++ ":" ++
    padded 2 (time / minuteLength % 60) ++ ":" ++ secondsText time ++
    (moment.offset.map offsetText).getD ""

end DateTime

example : (DateTime.fromisoformat "2024-02-29 13:05:00.25+02:00").map DateTime.isoformat =
    some "2024-02-29T13:05:00.250000+02:00" := by
  decide +kernel

end OdooMcp
