import Criteria.Number.Binary64
import Criteria.Text.Letter

/-!
# Decimal numerals

A numeral is a sign, digits with an optional point, and an optional power of ten. It denotes an
exact decimal fraction, and its value as a number is that fraction rounded to the nearest.
-/

namespace Criteria

/-- The decimal fraction `± digits * 10 ^ exponent`. -/
structure Numeral where
  negative : Bool
  digits : Nat
  exponent : Int
  deriving DecidableEq

/-- The integer that a run of decimal digits denotes. -/
def digitsValue (ds : List Char) : Nat :=
  ds.foldl (fun n c => 10 * n + (c.toNat - '0'.toNat)) 0

namespace Numeral

/-- The nearest number. -/
def value (n : Numeral) : Binary64 := .ofDecimal n.negative n.digits n.exponent

/-- Takes a leading sign off a text; a text without one counts as positive. -/
def splitSign : List Char → Bool × List Char
  | [] => (false, [])
  | c :: rest =>
    if c = '-' then (true, rest) else if c = '+' then (false, rest) else (false, c :: rest)

/-- Reads a non-empty run of digits with an optional sign, up to the end of the text. -/
def readInteger? (cs : List Char) : Option Int :=
  let (negative, ds) := splitSign cs
  if ds.isEmpty || !ds.all isDigit then none
  else some (if negative then -(digitsValue ds : Int) else digitsValue ds)

/-- Reads the power of ten that follows the digits: nothing, or `e` and an integer. -/
def readPower? : List Char → Option Int
  | [] => some 0
  | c :: rest => if c = 'e' || c = 'E' then readInteger? rest else none

/-- Splits the digits after a point from the text behind them; without a point there are none. -/
def splitFraction : List Char → List Char × List Char
  | [] => ([], [])
  | c :: rest =>
    if c = '.' then (rest.takeWhile isDigit, rest.dropWhile isDigit) else ([], c :: rest)

/-- A numeral as it is written: the digits before and behind the point, and the power of ten. -/
structure Written where
  negative : Bool
  whole : List Char
  fraction : List Char
  power : Int

/-- Reads a whole text as a numeral. At least one digit has to stand before the power of ten. -/
def Written.read? (cs : List Char) : Option Written :=
  let (negative, unsigned) := splitSign cs
  let whole := unsigned.takeWhile isDigit
  let (fraction, tail) := splitFraction (unsigned.dropWhile isDigit)
  if whole.isEmpty && fraction.isEmpty then none
  else (readPower? tail).map fun power => { negative, whole, fraction, power }

/-- The fraction that is written. -/
def Written.exact (w : Written) : Numeral where
  negative := w.negative
  digits := digitsValue (w.whole ++ w.fraction)
  exponent := w.power - w.fraction.length

/-- The fraction that a whole text denotes. -/
def read? (cs : List Char) : Option Numeral := (Written.read? cs).map Written.exact

end Numeral

end Criteria
