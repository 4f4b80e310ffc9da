import Criteria.Proofs.Number.Integers
import Mathlib

/-!
# Integers keep their order as numbers

An integer that is rounded to a number may meet its neighbours there, but it never passes one of
them: between two powers of two all integers are rounded in the same unit, where rounding is
monotone (`Criteria.Binary64.roundHalfEven_mono`), and from one power of two to the next the ranks
go on where they have ended. So **the place of an integer in the order of numbers never falls when
the integer rises** (`Criteria.Binary64.monotone_place`).

Up to `2 ^ 53` there is nothing to round, and the place rises with the integer
(`Criteria.Binary64.strictMonoOn_place`).
-/

namespace Criteria.Binary64

/-! ### Rounding a quotient -/

/-- Rounding does not go below the quotient without its remainder. -/
theorem le_roundHalfEven (num den : Nat) : num / den ≤ roundHalfEven num den := by
  simp only [roundHalfEven]
  split
  · exact Nat.le_refl _
  · split <;> exact Nat.le_add_right _ _

/-- **Rounding keeps the order**, for quotients of the same denominator. -/
theorem roundHalfEven_mono {m n : Nat} (den : Nat) (h : m ≤ n) :
    roundHalfEven m den ≤ roundHalfEven n den := by
  rcases (Nat.div_le_div_right h : m / den ≤ n / den).lt_or_eq with hlt | heq
  · -- the next integer lies between the two
    calc roundHalfEven m den ≤ m / den + 1 := roundHalfEven_le m den
      _ ≤ n / den := hlt
      _ ≤ roundHalfEven n den := le_roundHalfEven n den
  · have hremainder : m % den ≤ n % den := by
      have hm := Nat.div_add_mod m den
      have hn := Nat.div_add_mod n den
      rw [heq] at hm
      omega
    simp only [roundHalfEven, heq]
    split_ifs <;> omega

theorem roundHalfEven_one (n : Nat) : roundHalfEven n 1 = n := by
  simp [roundHalfEven, Nat.mod_one]

/-! ### Integers in their unit -/

/-- The integer nearest to `n` counted in units of `2 ^ (length - 52)`. -/
theorem roundScaled_short {length : Nat} (h : length ≤ 52) (n : Nat) :
    roundScaled n 1 ((length : Int) - 52) = n * 2 ^ (52 - length) := by
  have hexp : (-((length : Int) - 52)).toNat = 52 - length := by omega
  simp only [roundScaled, timesPower, Nat.pow_eq]
  rw [if_pos (by omega), hexp]
  exact roundHalfEven_one _

/-- An integer with more bits than the format is rounded to a multiple of a power of two. -/
theorem roundScaled_long {length : Nat} (h : 52 < length) (n : Nat) :
    roundScaled n 1 ((length : Int) - 52) = roundHalfEven n (2 ^ (length - 52)) := by
  have hexp : (-(-((length : Int) - 52))).toNat = length - 52 := by omega
  simp only [roundScaled, timesPower, Nat.pow_eq]
  rw [if_neg (by omega), hexp, Nat.one_mul]

/-- Rounding to one length is monotone. -/
theorem roundScaled_mono (length : Nat) {m n : Nat} (h : m ≤ n) :
    roundScaled m 1 ((length : Int) - 52) ≤ roundScaled n 1 ((length : Int) - 52) := by
  by_cases hlength : length ≤ 52
  · rw [roundScaled_short hlength, roundScaled_short hlength]
    exact Nat.mul_le_mul_right _ h
  · rw [roundScaled_long (by omega), roundScaled_long (by omega)]
    exact roundHalfEven_mono _ h

/-- The leading bit of an integer stays. -/
theorem le_roundScaled {n : Nat} (hn : n ≠ 0) : 2 ^ 52 ≤ roundScaled n 1 ((n.log2 : Int) - 52) := by
  have hself : 2 ^ n.log2 ≤ n := Nat.log2_self_le hn
  by_cases hlength : n.log2 ≤ 52
  · rw [roundScaled_short hlength]
    calc 2 ^ 52 = 2 ^ n.log2 * 2 ^ (52 - n.log2) := by rw [← Nat.pow_add]; congr 1; omega
      _ ≤ n * 2 ^ (52 - n.log2) := Nat.mul_le_mul_right _ hself
  · rw [roundScaled_long (by omega)]
    have hbits : 2 ^ 52 ≤ n / 2 ^ (n.log2 - 52) := by
      rw [Nat.le_div_iff_mul_le (Nat.two_pow_pos _), ← Nat.pow_add]
      have hsum : 52 + (n.log2 - 52) = n.log2 := by omega
      rwa [hsum]
    exact Nat.le_trans hbits (le_roundHalfEven _ _)

/-- An integer of up to 53 bits is not rounded up to the next power of two. -/
theorem roundScaled_lt {n : Nat} (h : n.log2 ≤ 52) :
    roundScaled n 1 ((n.log2 : Int) - 52) < 2 ^ 53 := by
  rw [roundScaled_short h]
  calc n * 2 ^ (52 - n.log2) < 2 ^ (n.log2 + 1) * 2 ^ (52 - n.log2) :=
        Nat.mul_lt_mul_of_pos_right Nat.lt_log2_self (Nat.two_pow_pos _)
    _ = 2 ^ 53 := by rw [← Nat.pow_add]; congr 1; omega

/-! ### The ranks of integers -/

theorem log2_mono {m n : Nat} (hm : m ≠ 0) (h : m ≤ n) : m.log2 ≤ n.log2 :=
  (Nat.le_log2 (by omega)).mpr (Nat.le_trans (Nat.log2_self_le hm) h)

/-- Larger integers have ranks that are not smaller. -/
theorem integerRank_mono {m n : Nat} (hm : m ≠ 0) (h : m ≤ n) : integerRank m ≤ integerRank n := by
  have hround := roundScaled_le m
  have hleading := le_roundScaled (n := n) (by omega)
  rcases (log2_mono hm h).lt_or_eq with hlt | heq
  · -- rounding reaches the next power of two at most
    simp only [integerRank, leadingBit]
    omega
  · simp only [integerRank, heq]
    exact Nat.add_le_add_left (roundScaled_mono _ h) _

/-- Up to 2⁵³ larger integers have larger ranks. -/
theorem integerRank_lt {m n : Nat} (hm : m ≠ 0) (h : m < n) (hn : n ≤ 2 ^ 53) :
    integerRank m < integerRank n := by
  have hshort : m.log2 ≤ 52 := by
    have hlt : m.log2 < 53 := (Nat.log2_lt hm).mpr (by omega)
    omega
  have hround := roundScaled_lt hshort
  have hleading := le_roundScaled (n := n) (by omega)
  rcases (log2_mono hm h.le).lt_or_eq with hlt | heq
  · simp only [integerRank, leadingBit]
    omega
  · simp only [integerRank, ← heq, roundScaled_short hshort]
    exact Nat.add_lt_add_left (Nat.mul_lt_mul_of_pos_right h (Nat.two_pow_pos _)) _

/-- **Rounding integers is monotone.** -/
theorem monotone_rank : Monotone fun n : Nat => rankOfRatio n 1 := by
  intro m n h
  by_cases hm : m = 0
  · simp [rankOfRatio, hm]
  · simp only [rankOfRatio_one hm, rankOfRatio_one (n := n) (by omega)]
    exact min_le_min_right _ (integerRank_mono hm h)

/-- Integers that need not be rounded are far from the end of the format. -/
theorem rankOfRatio_one_of_le {n : Nat} (hn : n ≠ 0) (h : n ≤ 2 ^ 53) :
    rankOfRatio n 1 = integerRank n := by
  have hlog : n.log2 < 54 := (Nat.log2_lt hn).mpr (by omega)
  have hbound : (n.log2 + 1024) * leadingBit ≤ infinityRank := by
    simp only [leadingBit, infinityRank]
    omega
  rw [rankOfRatio_one hn, Nat.min_eq_left (Nat.le_trans (integerRank_le n) hbound)]

/-- **Up to 2⁵³ rounding integers keeps them apart.** -/
theorem strictMonoOn_rank : StrictMonoOn (fun n : Nat => rankOfRatio n 1) (Set.Iic (2 ^ 53)) := by
  intro m hm n hn h
  have hn0 : n ≠ 0 := by omega
  by_cases hm0 : m = 0
  · have hpos : 0 < integerRank n := by simp [integerRank, leadingBit]
    simp only [rankOfRatio_one_of_le hn0 hn, hm0]
    exact hpos
  · simp only [rankOfRatio_one_of_le hn0 hn, rankOfRatio_one_of_le hm0 hm]
    exact integerRank_lt hm0 h hn

/-! ### The places of integers -/

/-- The place of an integer in the order of numbers. -/
def place (n : Int) : Int :=
  if n < 0 then -(rankOfRatio n.natAbs 1 : Int) else rankOfRatio n.natAbs 1

/-- Rounded integers are ordered by their places. -/
theorem key?_ofInt (n : Int) : (ofInt n).key? = some (place n) := by
  by_cases h : n < 0 <;> simp [ofInt, ofRatio, key?, place, h]

/-- Integers are ordered like their places. -/
theorem order?_ofInt (m n : Int) :
    (ofInt m).order? (ofInt n) = some (compare (place m) (place n)) := by
  rw [order?, key?_ofInt, key?_ofInt]

/-- **No integer is rounded past another one.** -/
theorem monotone_place : Monotone place := by
  intro m n h
  simp only [place]
  split_ifs with hm hn hn
  · have hrank : rankOfRatio n.natAbs 1 ≤ rankOfRatio m.natAbs 1 := monotone_rank (by omega)
    omega
  · omega
  · omega
  · have hrank : rankOfRatio m.natAbs 1 ≤ rankOfRatio n.natAbs 1 := monotone_rank (by omega)
    omega

/-- **Integers of up to 53 bits keep their order.** -/
theorem strictMonoOn_place : StrictMonoOn place (Set.Icc (-2 ^ 53) (2 ^ 53)) := by
  intro m hm n hn h
  have hbound : ∀ k ∈ Set.Icc (-2 ^ 53 : Int) (2 ^ 53), k.natAbs ∈ Set.Iic (2 ^ 53) := by
    intro k hk
    obtain ⟨hmin, hmax⟩ := hk
    simp only [Set.mem_Iic]
    omega
  have hstrict : ∀ a ∈ Set.Icc (-2 ^ 53 : Int) (2 ^ 53), ∀ b ∈ Set.Icc (-2 ^ 53 : Int) (2 ^ 53),
      a.natAbs < b.natAbs → rankOfRatio a.natAbs 1 < rankOfRatio b.natAbs 1 :=
    fun a ha b hb => strictMonoOn_rank (hbound a ha) (hbound b hb)
  simp only [place]
  split_ifs with hm0 hn0 hn0
  · have hrank := hstrict n hn m hm (by omega)
    omega
  · have hrank := hstrict 0 (by simp) m hm (by omega)
    omega
  · omega
  · have hrank := hstrict m hm n hn (by omega)
    omega

end Criteria.Binary64
