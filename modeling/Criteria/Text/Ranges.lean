/-!
# Sets of characters as ranges of code points

A property of characters is given by a **table** of the ranges of code points that have it, in
ascending order. Membership walks the table and stops at the first range that lies above the code
point, so a character of the first ranges costs a comparison or two. The walk misses nothing, since
a table carries the order of its ranges (`Criteria.RangeTable.contains_iff`).
-/

namespace Criteria

/-- A list of ranges is ascending when each range is non-empty and ends below the next one. -/
def Ascending : List (Nat × Nat) → Bool
  | [] => true
  | [(low, high)] => low ≤ high
  | (low, high) :: (low', high') :: rest =>
    low ≤ high && high < low' && Ascending ((low', high') :: rest)

/-- Whether a code point lies in one of some ascending ranges. -/
def inRanges : List (Nat × Nat) → Nat → Bool
  | [], _ => false
  | (low, high) :: rest, n => if n < low then false else n ≤ high || inRanges rest n

/-- A table of code points: ranges in ascending order. -/
structure RangeTable where
  /-- The ranges, each with its first and its last code point. -/
  ranges : List (Nat × Nat)
  /-- The order that the walk relies on. -/
  ascending : Ascending ranges = true

/-! ### What a walk finds -/

section Ascending

variable {low high : Nat} {rest : List (Nat × Nat)}

/-- No range is empty. -/
theorem le_of_ascending (h : Ascending ((low, high) :: rest) = true) : low ≤ high := by
  cases rest with
  | nil => simpa [Ascending] using h
  | cons => simp_all [Ascending]

theorem ascending_tail (h : Ascending ((low, high) :: rest) = true) : Ascending rest = true := by
  cases rest with
  | nil => rfl
  | cons => simp_all [Ascending]

/-- The first range ends below all others. -/
theorem lt_of_ascending (h : Ascending ((low, high) :: rest) = true) :
    ∀ r ∈ rest, high < r.1 := by
  induction rest generalizing low high with
  | nil => exact fun r hr => absurd hr List.not_mem_nil
  | cons next rest ih =>
    obtain ⟨low', high'⟩ := next
    have hnext : high < low' := by simp_all [Ascending]
    have htail := ascending_tail h
    have hle := le_of_ascending htail
    intro r hr
    rcases List.mem_cons.mp hr with rfl | hr
    · exact hnext
    · have hlater := ih htail r hr
      omega

end Ascending

/-- **A walk finds the range that has a code point**, if there is one. -/
theorem inRanges_iff {ranges : List (Nat × Nat)} (h : Ascending ranges = true) {n : Nat} :
    inRanges ranges n = true ↔ ∃ r ∈ ranges, r.1 ≤ n ∧ n ≤ r.2 := by
  induction ranges with
  | nil => simp [inRanges]
  | cons r rest ih =>
    obtain ⟨low, high⟩ := r
    simp only [inRanges, List.mem_cons, exists_eq_or_imp, ← ih (ascending_tail h)]
    split
    · rename_i hlow
      -- the walk stops here, and all other ranges lie further up
      have hrest : inRanges rest n ≠ true := by
        rw [ne_eq, ih (ascending_tail h)]
        rintro ⟨r, hr, hle, -⟩
        have hlater := lt_of_ascending h r hr
        have hfirst := le_of_ascending h
        omega
      simp [hrest, Nat.not_le.mpr hlow]
    · rename_i hlow
      simp [Nat.not_lt.mp hlow]

namespace RangeTable

/-- Whether a code point lies in one of the ranges of a table. -/
def contains (table : RangeTable) (n : Nat) : Bool := inRanges table.ranges n

/-- **A table contains the code points of its ranges**, and no others. -/
theorem contains_iff {table : RangeTable} {n : Nat} :
    table.contains n = true ↔ ∃ r ∈ table.ranges, r.1 ≤ n ∧ n ≤ r.2 :=
  inRanges_iff table.ascending

end RangeTable

end Criteria
