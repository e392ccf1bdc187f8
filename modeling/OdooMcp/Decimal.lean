import Mathlib.Algebra.Group.Int.Defs
import Mathlib.Algebra.Group.Nat.Defs
import OdooMcp.PyValue

/-!
# Decimal numbers

A finite `Decimal`: a sign, a coefficient and an exponent. Two of them are equal when they denote
one number; their texts may still differ. Arithmetic rounds half to even at 28 significant digits.
-/

namespace OdooMcp

structure Decimal where
  negative : Bool
  coefficient : Nat
  exponent : Int
  deriving DecidableEq, Repr

namespace Decimal

def zero : Decimal := ⟨false, 0, 0⟩

def ofInt (value : Int) : Decimal := ⟨value < 0, value.natAbs, 0⟩

/-- The number in units of ten to the given exponent, which is at most the decimal's own. -/
def scaled (value : Decimal) (exponent : Int) : Int :=
  let magnitude : Int := value.coefficient * 10 ^ (value.exponent - exponent).toNat
  if value.negative then -magnitude else magnitude

def lt (first second : Decimal) : Bool :=
  let exponent := min first.exponent second.exponent
  first.scaled exponent < second.scaled exponent

def le (first second : Decimal) : Bool := !second.lt first

/-- `==` -/
def same (first second : Decimal) : Bool := first.le second && second.le first

def precision : Nat := 28

/-- Divide by a power of ten, half to even. -/
def shorten (coefficient drop : Nat) : Nat :=
  let quotient := coefficient / 10 ^ drop
  let twice := 2 * (coefficient % 10 ^ drop)
  if 10 ^ drop < twice || (twice = 10 ^ drop && quotient % 2 = 1) then quotient + 1 else quotient

def digitCount (coefficient : Nat) : Nat := (toString coefficient).length

def rounded (value : Decimal) : Decimal :=
  let drop := digitCount value.coefficient - precision
  if drop = 0 then
    value
  else
    let shortened := shorten value.coefficient drop
    if digitCount shortened ≤ precision then
      ⟨value.negative, shortened, value.exponent + drop⟩
    else
      ⟨value.negative, shortened / 10, value.exponent + drop + 1⟩

def add (first second : Decimal) : Decimal :=
  let exponent := min first.exponent second.exponent
  let sum := first.scaled exponent + second.scaled exponent
  rounded ⟨sum < 0 || (sum = 0 && first.negative && second.negative), sum.natAbs, exponent⟩

/-- `abs(value)`, which rounds as every operation does. -/
def abs (value : Decimal) : Decimal := rounded { value with negative := false }

/-- `str(value)` -/
def text (value : Decimal) : String :=
  let sign := if value.negative then "-" else ""
  let digits := toString value.coefficient
  let leftDigits : Int := value.exponent + digits.length
  let zeros (count : Int) : String := String.ofList (List.replicate count.toNat '0')
  let (point, scientific) : Int × Bool :=
    if value.exponent ≤ 0 && -6 < leftDigits then (leftDigits, false) else (1, true)
  let number :=
    if point ≤ 0 then
      "0." ++ zeros (-point) ++ digits
    else if digits.length ≤ point then
      digits ++ zeros (point - digits.length)
    else
      String.ofList (digits.toList.take point.toNat) ++ "." ++
        String.ofList (digits.toList.drop point.toNat)
  let power := leftDigits - point
  let marked := if scientific && power ≠ 0 then
    "E" ++ (if 0 ≤ power then "+" else "") ++ toString power else ""
  sign ++ number ++ marked

/-! ### Parsing -/

/-- The characters from which ten consecutive ones have the decimal digit values. -/
def digitZeros : List Nat :=
  [0x30, 0x660, 0x6F0, 0x7C0, 0x966, 0x9E6, 0xA66, 0xAE6, 0xB66, 0xBE6, 0xC66, 0xCE6, 0xD66,
    0xDE6, 0xE50, 0xED0, 0xF20, 0x1040, 0x1090, 0x17E0, 0x1810, 0x1946, 0x19D0, 0x1A80, 0x1A90,
    0x1B50, 0x1BB0, 0x1C40, 0x1C50, 0xA620, 0xA8D0, 0xA900, 0xA9D0, 0xA9F0, 0xAA50, 0xABF0,
    0xFF10, 0x104A0, 0x10D30, 0x11066, 0x110F0, 0x11136, 0x111D0, 0x112F0, 0x11450, 0x114D0,
    0x11650, 0x116C0, 0x11730, 0x118E0, 0x11950, 0x11C50, 0x11D50, 0x11DA0, 0x11F50, 0x16A60,
    0x16AC0, 0x16B50, 0x1D7CE, 0x1D7D8, 0x1D7E2, 0x1D7EC, 0x1D7F6, 0x1E140, 0x1E2F0, 0x1E4D0,
    0x1E950, 0x1FBF0]

def digit? (character : Char) : Option Nat :=
  (digitZeros.find? fun first => first ≤ character.toNat && character.toNat < first + 10).map
    (character.toNat - ·)

def isDigit (character : Char) : Bool := (digit? character).isSome

def digitsValue (digits : List Char) : Nat :=
  digits.foldl (fun value character => value * 10 + (digit? character).getD 0) 0

def splitSign : List Char → Bool × List Char
  | '-' :: rest => (true, rest)
  | '+' :: rest => (false, rest)
  | rest => (false, rest)

/-- The exponent part: nothing, or `e` and a number. -/
def exponent? : List Char → Option Int
  | [] => some 0
  | mark :: rest =>
      let (negative, digits) := splitSign rest
      if (mark = 'e' || mark = 'E') && !digits.isEmpty && digits.all isDigit then
        some (if negative then -(digitsValue digits : Int) else digitsValue digits)
      else
        none

/-- A finite number in the grammar of `Decimal(text)`, blanks and underscores removed. -/
def unsigned? (negative : Bool) (characters : List Char) : Option Decimal := do
  let whole := characters.takeWhile isDigit
  let rest := characters.dropWhile isDigit
  let (fraction, rest) := match rest with
    | '.' :: rest => (rest.takeWhile isDigit, rest.dropWhile isDigit)
    | rest => ([], rest)
  if whole.isEmpty && fraction.isEmpty then none
  let exponent ← exponent? rest
  return ⟨negative, digitsValue (whole ++ fraction), exponent - fraction.length⟩

/-- `Decimal(text)` where that is a finite number. -/
def ofText? (text : String) : Option Decimal :=
  let (negative, characters) := splitSign ((strip text).toList.filter (· ≠ '_'))
  unsigned? negative characters

/-- The text between the blanks that `int(text)` skips: of an ASCII text only those of C. -/
def stripForInt (text : String) : String :=
  if text.toList.all (·.toNat < 0x80) then
    stripWhere
      (fun character => character = ' ' || (9 ≤ character.toNat && character.toNat ≤ 13)) text
  else
    strip text

/-- `int(text)`, which accepts single underscores between digits and at most 4300 digits. -/
def parseInt? (text : String) : Option Int :=
  let (negative, characters) := splitSign (stripForInt text).toList
  let groups := characters.splitOn '_'
  let digits := groups.flatten
  if groups.all (fun group => !group.isEmpty && group.all isDigit) && digits.length ≤ 4300 then
    some (if negative then -(digitsValue digits : Int) else digitsValue digits)
  else
    none

/-- `float(value)`, written as the decimal it is rounded from. -/
def toFloat (value : Decimal) : PyValue := .float value.text true

end Decimal

end OdooMcp
