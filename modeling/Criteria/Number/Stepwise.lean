import Criteria.Number.Numeral

/-!
# Reading numerals step by step

The nearest number to a numeral takes exact integers as long as the numeral. Reading **stepwise**
keeps to a fixed size instead. The leading digits that make up an integer of 64 bits are taken up
(`Numeral.Written.clipped`), this integer becomes a number, and the number is multiplied or divided
by a power of ten that is a number itself (`Numeral.stepwise`).

Each step rounds to the nearest, so for numerals of few digits and small powers of ten the result
is exact or the nearest number, and otherwise it may be one of the next ones.
-/

namespace Criteria

/-! ### Taking up digits -/

/-- Digits are taken up below this bound. -/
def digitsBound : Nat := 0x10000000000000000

/-- Writes digits behind an integer up to the first one that would lead to the bound. The second
component counts the digits from there on. -/
def takeUp (n : Nat) : List Char → Nat × Nat
  | [] => (n, 0)
  | d :: rest =>
    let m := 10 * n + (d.toNat - '0'.toNat)
    if m < digitsBound then takeUp m rest else (n, rest.length + 1)

namespace Numeral

/-- The fraction of the leading digits. Digits left out before the point raise the power of ten,
and the digits behind the point are tried once more from the first one on. -/
def Written.clipped (w : Written) : Numeral :=
  let (n, left) := takeUp 0 w.whole
  let (digits, leftBehind) := takeUp n w.fraction
  { negative := w.negative
    digits
    exponent := w.power + left - (w.fraction.length - leftBehind : Nat) }

/-! ### Powers of ten -/

/-- The exponent of the largest power of ten that is a number. -/
def largestPower : Nat := 308

/-- The rank of the number nearest to a power of ten. -/
def powerRank (exponent : Nat) : Nat := Binary64.rankOfRatio (Nat.pow 10 exponent) 1

/-- A magnitude times a power of ten; powers that are no numbers lead beyond all numbers. -/
def mulPower (rank exponent : Nat) : Nat :=
  if rank = 0 then 0
  else if largestPower < exponent then Binary64.infinityRank
  else Binary64.mulRank rank (powerRank exponent)

/-- A magnitude over a power of ten. As long as the power is no number, the largest one that is
goes first. -/
def divPower (rank exponent : Nat) : Nat :=
  if rank = 0 then 0
  else if largestPower < exponent then
    divPower (Binary64.divRank rank (powerRank largestPower)) (exponent - largestPower)
  else Binary64.divRank rank (powerRank exponent)
termination_by exponent
decreasing_by simp only [largestPower] at *; omega

/-- The number that a numeral leads to in single steps; it is infinite beyond the range. -/
def stepwise (n : Numeral) : Binary64 :=
  let rank := Binary64.rankOfRatio n.digits 1
  .ofRank n.negative
    (if 0 ≤ n.exponent then mulPower rank n.exponent.toNat
      else divPower rank (-n.exponent).toNat)

end Numeral

/-- How a numeral that is written becomes a number. -/
inductive Rounding where
  | nearest
  | stepwise

/-- The number that is read. -/
def Rounding.value : Rounding → Numeral.Written → Binary64
  | nearest, w => w.exact.value
  | stepwise, w => w.clipped.stepwise

end Criteria
