import Criteria.Number.Shortest

/-!
# Texts of numbers

A number is written with its shortest digits, either **positionally**, with at least one digit
on each side of the point, or with a power of ten. A *layout* says where positional notation
ends and how the rest is spelled.
-/

namespace Criteria

/-- How finite numbers are written. -/
structure NumberLayout where
  /-- The least exponent of the leading digit that is written positionally. -/
  lowest : Int
  /-- The least exponent above `lowest` that is no longer written positionally. -/
  highest : Int
  /-- Whether a positive exponent has a plus sign. -/
  plusSign : Bool
  tie : TieRule

namespace NumberLayout

/-- The layout of numbers in messages and trees: positional from `0.0001` up to sixteen digits,
bare exponents, a tie upwards. -/
def plain : NumberLayout := ⟨-4, 16, false, .up⟩

/-- The layout of numbers in JSON texts: positional from `0.00001` up to sixteen digits, signed
exponents, a tie to the even digit. -/
def json : NumberLayout := ⟨-5, 16, true, .even⟩

/-- The digits of a decimal, the trailing zeros left out. -/
def significantDigits (n : Nat) : List Char :=
  ((Nat.toDigits 10 n).reverse.dropWhile (· == '0')).reverse

/-- Digits with the point after the first `point` of them; zeros fill up on either side. -/
def positional (digits : List Char) (point : Int) : List Char :=
  if point ≤ 0 then '0' :: '.' :: (List.replicate (-point).toNat '0' ++ digits)
  else if digits.length ≤ point.toNat then
    digits ++ List.replicate (point.toNat - digits.length) '0' ++ ['.', '0']
  else digits.take point.toNat ++ '.' :: digits.drop point.toNat

/-- One digit before the point, the others behind it, and the power of ten. -/
def exponential (plusSign : Bool) (digits : List Char) (exponent : Int) : List Char :=
  let mantissa := match digits with
    | d :: e :: rest => d :: '.' :: e :: rest
    | short => short
  let sign := if exponent < 0 then ['-'] else if plusSign then ['+'] else []
  mantissa ++ 'e' :: sign ++ Nat.toDigits 10 exponent.natAbs

/-- The text of a finite magnitude. -/
def magnitude (layout : NumberLayout) (rank : Nat) : List Char :=
  if rank = 0 then ['0', '.', '0']
  else
    let d := Decimal.shortest layout.tie rank
    let exponent := d.exponent + ((Nat.toDigits 10 d.digits).length : Int) - 1
    let digits := significantDigits d.digits
    if layout.lowest ≤ exponent && exponent < layout.highest then positional digits (exponent + 1)
    else exponential layout.plusSign digits exponent

/-- The text of a number. Infinities and NaN have the same names in every layout. -/
def write (layout : NumberLayout) : Binary64 → String
  | .nan => "NaN"
  | .signed negative rank _ =>
    let body :=
      if rank < Binary64.infinityRank then String.ofList (layout.magnitude rank) else "inf"
    if negative then "-" ++ body else body

end NumberLayout

end Criteria
