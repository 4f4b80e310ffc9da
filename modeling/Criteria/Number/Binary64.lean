/-!
# Floating-point numbers

The numbers of the language are those of the double format of IEEE 754. A number other than NaN
is a sign and a **rank**: the place of its magnitude among all magnitudes in ascending order,
zero first and infinity last. The rank is also the bit pattern of the magnitude, so the order of
the numbers is the order of signed ranks, with the two zeros at the same place.

Numbers are made from exact quotients of integers by rounding to the nearest neighbour, and
halfway to the one with the even rank.
-/

namespace Criteria

/-- The rank of infinity, which is the largest. -/
def Binary64.infinityRank : Nat := 0x7FF0000000000000

/-- A double-precision number. All NaNs are one. -/
inductive Binary64 where
  | nan
  | signed (negative : Bool) (rank : Nat) (rank_le : rank ≤ Binary64.infinityRank)
  deriving DecidableEq

namespace Binary64

/-- The zero without a sign. -/
def zero : Binary64 := signed false 0 (Nat.zero_le _)

/-- One of the two infinities. -/
def infinity (negative : Bool) : Binary64 := signed negative infinityRank (Nat.le_refl _)

/-- Whether a number is neither NaN nor infinite. -/
def isFinite : Binary64 → Bool
  | nan => false
  | signed _ rank _ => rank < infinityRank

/-! ### Order -/

/-- The place of a number in the order, the same for the two zeros; NaN has none. -/
def key? : Binary64 → Option Int
  | nan => none
  | signed negative rank _ => some (if negative then -(rank : Int) else rank)

/-- Which of two numbers comes first; no answer when one of them is NaN. -/
def order? (x y : Binary64) : Option Ordering :=
  match x.key?, y.key? with
  | some i, some j => some (compare i j)
  | _, _ => none

/-- Numerical equality: the zeros are equal, and NaN equals nothing. -/
def equals (x y : Binary64) : Bool := x.order? y == some .eq

/-! ### Bits -/

/-- The bit of the sign, above the bits of the rank. -/
def signBit : Nat := 0x8000000000000000

/-- The bit above those of the fraction. Significands of full precision have it set. -/
def leadingBit : Nat := 0x10000000000000

/-- The bit pattern; all NaNs have the one of the quiet NaN without payload. -/
def toBits : Binary64 → Nat
  | nan => 0x7FF8000000000000
  | signed negative rank _ => (if negative then signBit else 0) + rank

/-- The number with a bit pattern of 64 bits. -/
def ofBits (bits : Nat) : Binary64 :=
  if h : bits % signBit ≤ infinityRank then signed (signBit ≤ bits) (bits % signBit) h else nan

/-- The integer `m` and the exponent `q` for which a finite magnitude is `m * 2 ^ q`. -/
def scaled (rank : Nat) : Nat × Int :=
  if rank < leadingBit then (rank, -1074)
  else (leadingBit + rank % leadingBit, (rank / leadingBit : Nat) - 1075)

/-! ### Rounding -/

/-- The quotient `num / den` times a power of a base, again as a quotient. -/
def timesPower (base : Nat) (exponent : Int) (num den : Nat) : Nat × Nat :=
  if 0 ≤ exponent then (num * Nat.pow base exponent.toNat, den)
  else (num, den * Nat.pow base (-exponent).toNat)

/-- The integer nearest to a quotient; halfway the even one. -/
def roundHalfEven (num den : Nat) : Nat :=
  let quotient := num / den
  let remainder := num % den
  if 2 * remainder < den then quotient
  else if den < 2 * remainder then quotient + 1
  else quotient + quotient % 2

/-- The integer nearest to `num / den` counted in units of `2 ^ q`. -/
def roundScaled (num den : Nat) (q : Int) : Nat :=
  let (n, d) := timesPower 2 (-q) num den
  roundHalfEven n d

/-- The exponent of the largest power of two that is at most `num / den`. -/
def floorLog2 (num den : Nat) : Int :=
  let guess : Int := (num.log2 : Int) - den.log2
  let (n, d) := timesPower 2 (-guess) num den
  if d ≤ n then guess else guess - 1

/-- The rank of the magnitude nearest to `num / den`. Neighbours lie `2 ^ q` apart there, and
counting in that unit gives the rank, also when rounding reaches the next power of two. -/
def rankOfRatio (num den : Nat) : Nat :=
  if num = 0 then 0
  else
    let q := max (floorLog2 num den - 52) (-1074)
    min ((q + 1074).toNat * leadingBit + roundScaled num den q) infinityRank

/-- No quotient has a rank beyond infinity. -/
theorem rankOfRatio_le (num den : Nat) : rankOfRatio num den ≤ infinityRank := by
  unfold rankOfRatio
  split
  · exact Nat.zero_le _
  · exact Nat.min_le_right _ _

/-- The number nearest to `num / den`, with the given sign. -/
def ofRatio (negative : Bool) (num den : Nat) : Binary64 :=
  signed negative (rankOfRatio num den) (rankOfRatio_le num den)

/-- The number nearest to an integer. -/
def ofInt (n : Int) : Binary64 := ofRatio (n < 0) n.natAbs 1

/-- The number nearest to `digits * 10 ^ exponent`, with the given sign. Exponents far outside
the range of the format are answered without computing the power. -/
def ofDecimal (negative : Bool) (digits : Nat) (exponent : Int) : Binary64 :=
  if digits = 0 then signed negative 0 (Nat.zero_le _)
  else if 400 < exponent then infinity negative
  else if 3 * exponent + digits.log2 < -1100 then signed negative 0 (Nat.zero_le _)
  else
    let (num, den) := timesPower 10 exponent digits 1
    ofRatio negative num den

/-! ### Products and quotients of magnitudes -/

/-- The number with a sign and a rank; ranks beyond infinity count as infinity. -/
def ofRank (negative : Bool) (rank : Nat) : Binary64 :=
  signed negative (min rank infinityRank) (Nat.min_le_right _ _)

/-- A finite magnitude as a quotient of integers. -/
def ratio (rank : Nat) : Nat × Nat :=
  let (m, q) := scaled rank
  timesPower 2 q m 1

/-- The rank of the magnitude nearest to the product of two finite magnitudes. -/
def mulRank (r s : Nat) : Nat :=
  let (a, b) := ratio r
  let (c, d) := ratio s
  rankOfRatio (a * c) (b * d)

/-- The rank of the magnitude nearest to the quotient of two finite magnitudes, the second of
which is not zero. -/
def divRank (r s : Nat) : Nat :=
  let (a, b) := ratio r
  let (c, d) := ratio s
  rankOfRatio (a * d) (b * c)

end Binary64

end Criteria
