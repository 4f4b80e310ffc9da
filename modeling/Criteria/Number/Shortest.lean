import Criteria.Number.Binary64

/-!
# Shortest decimals

The shortest decimal of a number is the one with the fewest digits that rounds to the number,
and among those of that length the nearest. The reals that round to a finite number form an
interval that reaches half way to its neighbours; its ends belong to it when the number's own
significand is even. On the grid of the decimals with a given count of digits, if any point lies
in the interval, then so does one of the two points next to the number, so these two decide.
-/

namespace Criteria

/-- What becomes of a number that lies half way between two decimals of the same length. -/
inductive TieRule where
  /-- The larger decimal is taken. -/
  | up
  /-- The decimal whose last digit is even is taken. -/
  | even

/-- The decimal `digits * 10 ^ exponent`. -/
structure Decimal where
  digits : Nat
  exponent : Int

namespace Decimal

/-- A positive magnitude with the interval that rounds to it, all over one denominator. -/
structure Interval where
  low : Nat
  middle : Nat
  high : Nat
  den : Nat
  closed : Bool

/-- The interval of the magnitudes that round to a given rank. Below a power of two the lower
neighbour is only half as far away as the upper one, the smallest such power left out. -/
def Interval.ofRank (rank : Nat) : Interval :=
  let (m, q) := Binary64.scaled rank
  let down := if m = Binary64.leadingBit && 2 * Binary64.leadingBit ≤ rank then 1 else 2
  let (unit, den) := Binary64.timesPower 2 (q - 2) 1 1
  ⟨(4 * m - down) * unit, 4 * m * unit, (4 * m + 2) * unit, den, m % 2 = 0⟩

/-- Whether `digits * 10 ^ exponent` lies in an interval. -/
def Interval.contains (i : Interval) (d : Decimal) : Bool :=
  let (num, den) := Binary64.timesPower 10 d.exponent d.digits 1
  if i.closed then i.low * den ≤ num * i.den && num * i.den ≤ i.high * den
  else i.low * den < num * i.den && num * i.den < i.high * den

/-- The exponent of the largest power of ten that is at most `num / den`, sought upwards from a
first guess. -/
def floorLog10From (num den : Nat) : Nat → Int → Int
  | 0, guess => guess
  | steps + 1, guess =>
    let (n, d) := Binary64.timesPower 10 (-(guess + 1)) num den
    if d ≤ n then floorLog10From num den steps (guess + 1) else guess

/-- The exponent of the leading digit of `num / den`. The guess is low by two at most. -/
def floorLog10 (num den : Nat) : Int :=
  let binary : Int := (num.log2 : Int) - den.log2
  floorLog10From num den 4 (Int.fdiv (binary * 30103) 100000 - 2)

/-- The decimal in the interval that is next to its middle, if one of the two neighbours on the
grid of the multiples of `10 ^ exponent` lies in it. -/
def onGrid (tie : TieRule) (i : Interval) (exponent : Int) : Option Decimal :=
  let (num, den) := Binary64.timesPower 10 (-exponent) i.middle i.den
  let below : Decimal := ⟨num / den, exponent⟩
  let above : Decimal := ⟨num / den + 1, exponent⟩
  let remainder := num % den
  let takeAbove : Bool :=
    if 2 * remainder < den then false
    else if den < 2 * remainder then true
    else match tie with
      | .up => true
      | .even => below.digits % 2 = 1
  match i.contains below, i.contains above with
  | true, true => some (if takeAbove then above else below)
  | true, false => some below
  | false, true => some above
  | false, false => none

/-- Tries grids that are finer and finer, at most `steps` of them. -/
def firstOnGrid (tie : TieRule) (i : Interval) : Nat → Int → Decimal
  | 0, exponent => ⟨i.middle / i.den, exponent⟩
  | steps + 1, exponent =>
    match onGrid tie i exponent with
    | some d => d
    | none => firstOnGrid tie i steps (exponent - 1)

/-- The shortest decimal of the magnitude with a positive finite rank. Seventeen digits always
suffice. -/
def shortest (tie : TieRule) (rank : Nat) : Decimal :=
  let i := Interval.ofRank rank
  firstOnGrid tie i 18 (floorLog10 i.middle i.den)

end Decimal

end Criteria
