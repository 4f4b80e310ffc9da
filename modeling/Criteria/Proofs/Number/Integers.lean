import Criteria.Number.Binary64
import Mathlib

/-!
# Integers as numbers

The binary length of an integer is the place of its leading bit, so the units in which integers are
rounded are known: they are such that 53 bits remain, and what is rounded stays within
one bit of that (`Criteria.Binary64.roundScaled_le`). Hence the rank of an integer is bounded by its
length (`Criteria.Binary64.rankOfRatio_one_le`), and the integers that a host holds, of 64 bits, are
far from the end of the format: **none of them becomes infinite**
(`Criteria.Binary64.isFinite_ofInt64`).
-/

namespace Criteria.Binary64

/-- Rounding goes to a neighbour. -/
theorem roundHalfEven_le (num den : Nat) : roundHalfEven num den ≤ num / den + 1 := by
  simp only [roundHalfEven]
  split
  · omega
  · split <;> omega

/-- The unit of an integer is given by its binary length. -/
theorem floorLog2_one {n : Nat} (hn : n ≠ 0) : floorLog2 n 1 = n.log2 := by
  have hself : 2 ^ n.log2 ≤ n := Nat.log2_self_le hn
  have hlog : (1 : Nat).log2 = 0 := by decide
  simp only [floorLog2, timesPower, hlog, Nat.pow_eq]
  by_cases hzero : n.log2 = 0
  · simp only [hzero]
    simp
    omega
  · have hneg : ¬ (0 : Int) ≤ -((n.log2 : Int) - (0 : Nat)) := by omega
    have hexp : (-(-((n.log2 : Int) - (0 : Nat)))).toNat = n.log2 := by omega
    rw [if_neg hneg, hexp, Nat.one_mul]
    simp only [hself, if_true]
    omega

/-- Counted in its unit, an integer keeps 53 bits, or rounding reaches the next power of two. -/
theorem roundScaled_le (n : Nat) : roundScaled n 1 ((n.log2 : Int) - 52) ≤ 2 ^ 53 := by
  have hlt : n < 2 ^ (n.log2 + 1) := Nat.lt_log2_self
  simp only [roundScaled, timesPower, Nat.pow_eq]
  by_cases hshort : n.log2 ≤ 52
  · -- a short integer is shifted to the left
    have hexp : (-((n.log2 : Int) - 52)).toNat = 52 - n.log2 := by omega
    rw [if_pos (by omega), hexp]
    have hbits : n * 2 ^ (52 - n.log2) < 2 ^ 53 := by
      calc n * 2 ^ (52 - n.log2)
          < 2 ^ (n.log2 + 1) * 2 ^ (52 - n.log2) :=
            Nat.mul_lt_mul_of_pos_right hlt (Nat.two_pow_pos _)
        _ = 2 ^ 53 := by rw [← Nat.pow_add]; congr 1; omega
    have hround := roundHalfEven_le (n * 2 ^ (52 - n.log2)) 1
    rw [Nat.div_one] at hround
    exact Nat.le_trans hround hbits
  · have hexp : (-(-((n.log2 : Int) - 52))).toNat = n.log2 - 52 := by omega
    rw [if_neg (by omega), hexp, Nat.one_mul]
    have hbits : n / 2 ^ (n.log2 - 52) < 2 ^ 53 := by
      rw [Nat.div_lt_iff_lt_mul (Nat.two_pow_pos _), ← Nat.pow_add]
      have hsum : 53 + (n.log2 - 52) = n.log2 + 1 := by omega
      rwa [hsum]
    exact Nat.le_trans (roundHalfEven_le _ _) hbits

/-- The rank that a positive integer would have if there were no largest one. -/
def integerRank (n : Nat) : Nat :=
  (n.log2 + 1022) * leadingBit + roundScaled n 1 ((n.log2 : Int) - 52)

/-- The rank of an integer, unless it is beyond the range. -/
theorem rankOfRatio_one {n : Nat} (hn : n ≠ 0) :
    rankOfRatio n 1 = min (integerRank n) infinityRank := by
  have hunit : max ((n.log2 : Int) - 52) (-1074) = n.log2 - 52 := by omega
  have hscale : ((n.log2 : Int) - 52 + 1074).toNat = n.log2 + 1022 := by omega
  simp only [rankOfRatio, if_neg hn, floorLog2_one hn, hunit, hscale, integerRank]

/-- The rank of an integer is bounded by its length. -/
theorem integerRank_le (n : Nat) : integerRank n ≤ (n.log2 + 1024) * leadingBit := by
  have hround := roundScaled_le n
  simp only [integerRank, leadingBit]
  omega

/-- **The length of an integer bounds its rank.** -/
theorem rankOfRatio_one_le (n : Nat) : rankOfRatio n 1 ≤ (n.log2 + 1024) * leadingBit := by
  by_cases hn : n = 0
  · simp [rankOfRatio, hn]
  · rw [rankOfRatio_one hn]
    exact Nat.le_trans (Nat.min_le_left _ _) (integerRank_le n)

/-- Integers of up to 64 bits are finite numbers. -/
theorem isFinite_ofInt {n : Int} (h : n.natAbs < 2 ^ 64) : (ofInt n).isFinite = true := by
  have hlog : n.natAbs.log2 < 64 := by
    by_cases hn : n.natAbs = 0
    · rw [hn]
      decide
    · exact (Nat.log2_lt hn).mpr h
  have hrank := rankOfRatio_one_le n.natAbs
  have hbound : (n.natAbs.log2 + 1024) * leadingBit < infinityRank := by
    simp only [leadingBit, infinityRank]
    omega
  simpa only [ofInt, ofRatio, isFinite, decide_eq_true_eq] using Nat.lt_of_le_of_lt hrank hbound

/-- **The integers of hosts are finite numbers.** -/
theorem isFinite_ofInt64 (n : Int64) : (ofInt n.toInt).isFinite = true := by
  have hmax := n.toInt_lt
  have hmin := n.le_toInt
  exact isFinite_ofInt (by omega)

end Criteria.Binary64
