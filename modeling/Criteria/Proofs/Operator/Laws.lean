import Criteria.Operator.Apply
import Mathlib

/-!
# The laws of the comparisons

A comparison asks one of two questions about its sides: whether they are equal, or how they are
ordered. Which values have an answer depends on their kinds alone (`Criteria.Operator.Comparable`,
`Criteria.Operator.Ordered`); for the others the comparison is a mismatch
(`Criteria.Operator.definedOn_comparable`, `Criteria.Operator.definedOn_ordered`).

Where values are ordered, **all six comparisons are read from the order**, and in the other
direction it is the opposite one (`Criteria.Operator.ordering?_swap`). A pair with NaN is in no
order, and then only `!=` is true. The laws that relate the comparisons to each other hold because
of that for values of all kinds (`Criteria.comparisons_are_coherent`).
-/

namespace Criteria

namespace Operator

/-! ### Values that can be compared -/

/-- Two values that can be ordered. -/
inductive Ordered : Value → Value → Prop
  | numbers (x y : Binary64) : Ordered (.number x) (.number y)
  | strings (s t : String) : Ordered (.string s) (.string t)

/-- Two values that can be equal or not. -/
inductive Comparable : Value → Value → Prop
  | nilLeft (r : Value) : Comparable .nil r
  | nilRight (l : Value) : Comparable l .nil
  | numbers (x y : Binary64) : Comparable (.number x) (.number y)
  | strings (s t : String) : Comparable (.string s) (.string t)
  | bools (a b : Bool) : Comparable (.bool a) (.bool b)

section Kinds

variable {l r : Value}

/-- Whether two values have an order does not depend on their sides. -/
theorem Ordered.symm (h : Ordered l r) : Ordered r l := by
  cases h <;> constructor

/-- Whether two values can be equal does not depend on their sides. -/
theorem Comparable.symm (h : Comparable l r) : Comparable r l := by
  cases h <;> constructor

/-- Two values are compared for order if their kinds have one. -/
theorem isSome_ordering?_iff : (ordering? l r).isSome = true ↔ Ordered l r := by
  constructor
  · intro h
    simp only [ordering?] at h
    split at h
    · exact .numbers _ _
    · exact .strings _ _
    · cases h
  · intro h
    cases h <;> rfl

/-- Two values are compared for equality if their kinds allow it. -/
theorem isSome_equality?_iff : (equality? l r).isSome = true ↔ Comparable l r := by
  constructor
  · intro h
    simp only [equality?] at h
    split at h
    · exact .numbers _ _
    · exact .strings _ _
    · exact .bools _ _
    · -- of two other values one has to be nil
      cases l <;> cases r <;> first | exact .nilLeft _ | exact .nilRight _ | cases h
  · intro h
    cases h with
    | nilLeft r => cases r <;> rfl
    | nilRight l => cases l <;> rfl
    | _ => rfl

theorem Ordered.exists_ordering? (h : Ordered l r) : ∃ o, ordering? l r = some o :=
  Option.isSome_iff_exists.mp (isSome_ordering?_iff.mpr h)

theorem Comparable.exists_equality? (h : Comparable l r) : ∃ b, equality? l r = some b :=
  Option.isSome_iff_exists.mp (isSome_equality?_iff.mpr h)

/-- Values without an order are not compared for it. -/
theorem ordering?_eq_none_iff : ordering? l r = none ↔ ¬Ordered l r := by
  rw [← isSome_ordering?_iff, Option.not_isSome_iff_eq_none]

/-- Values that cannot be equal are not compared. -/
theorem equality?_eq_none_iff : equality? l r = none ↔ ¬Comparable l r := by
  rw [← isSome_equality?_iff, Option.not_isSome_iff_eq_none]

end Kinds

/-! ### What a comparison says -/

/-- A comparison of two values comes to a bool. -/
def Says (op : Operator) (l r : Value) (b : Bool) : Prop :=
  op.applyComparison l r = .ok (.bool b)

/-- A comparison is **defined on** some pairs of values if it comes to a bool for these, and is a
mismatch for all others. -/
def DefinedOn (op : Operator) (pairs : Value → Value → Prop) : Prop :=
  ∀ l r, (pairs l r → ∃ b, op.Says l r b) ∧
    (¬pairs l r → op.applyComparison l r = .error (mismatch op l r))

/-- Whether an ordering comparison is true of two values in some order, or in none. -/
def admitsOf (op : Operator) (o : Option Ordering) : Bool := o.any op.admits

section Says

variable {op : Operator} {l r : Value} {b : Bool}

/-- Whether two values are equal is what `==` says, unless it reports a mismatch. -/
theorem applyComparison_equal :
    equal.applyComparison l r =
      ((equality? l r).elim (.error (mismatch equal l r)) fun b => .ok (.bool b)) := by
  rw [applyComparison]
  cases equality? l r <;> rfl

/-- Whether two values are equal is what `==` says. -/
theorem says_equal_iff : equal.Says l r b ↔ equality? l r = some b := by
  rw [Says, applyComparison_equal]
  cases equality? l r <;> simp

/-- The opposite is what `!=` says. -/
theorem says_notEqual_iff : notEqual.Says l r b ↔ equality? l r = some !b := by
  rw [Says, applyComparison]
  cases equality? l r with
  | none => simp
  | some c => cases b <;> simp

/-- An ordering operator looks at the order, or reports a mismatch. -/
theorem applyComparison_ordering (hop : op.isOrdering = true) :
    op.applyComparison l r =
      ((ordering? l r).elim (.error (mismatch op l r)) fun o => .ok (.bool (op.admitsOf o))) := by
  have hequality : (op = .equal || op = .notEqual) = false := by cases op <;> simp_all [isOrdering]
  rw [applyComparison, hequality, hop]
  rcases ordering? l r with _ | _ | o <;> rfl

/-- An ordering operator says what it admits of the order. -/
theorem says_ordering_iff (hop : op.isOrdering = true) :
    op.Says l r b ↔ ∃ o, ordering? l r = some o ∧ op.admitsOf o = b := by
  rw [Says, applyComparison_ordering hop]
  cases ordering? l r <;> simp

/-- Ordering operators are defined on values with an order. -/
theorem definedOn_ordered (hop : op.isOrdering = true) : op.DefinedOn Ordered := by
  refine fun l r => ⟨fun h => ?_, fun h => ?_⟩
  · obtain ⟨o, ho⟩ := h.exists_ordering?
    exact ⟨_, (says_ordering_iff hop).mpr ⟨o, ho, rfl⟩⟩
  · rw [applyComparison_ordering hop, ordering?_eq_none_iff.mpr h]
    rfl

/-- Equality operators are defined on values that can be equal. -/
theorem definedOn_comparable (hop : op = .equal ∨ op = .notEqual) : op.DefinedOn Comparable := by
  refine fun l r => ⟨fun h => ?_, fun h => ?_⟩
  · obtain ⟨b, hb⟩ := h.exists_equality?
    rcases hop with rfl | rfl
    · exact ⟨b, says_equal_iff.mpr hb⟩
    · exact ⟨!b, says_notEqual_iff.mpr (by rw [Bool.not_not, hb])⟩
  · have hnone := equality?_eq_none_iff.mpr h
    rcases hop with rfl | rfl <;> rw [applyComparison, hnone] <;> rfl

end Says

/-! ### Changing sides -/

/-- The order of two numbers, seen from the other side. -/
theorem order?_swap (x y : Binary64) : y.order? x = (x.order? y).map Ordering.swap := by
  cases x with
  | nan => cases y <;> rfl
  | signed =>
    cases y with
    | nan => rfl
    | signed => exact congrArg some Std.OrientedOrd.eq_swap

/-- Texts are compared as strings are. -/
theorem compareTexts_eq_compare (s t : String) : compareTexts s t = compare s t := rfl

/-- In the other direction values are in the opposite order. -/
theorem ordering?_swap (l r : Value) :
    ordering? r l = (ordering? l r).map (Option.map Ordering.swap) := by
  by_cases h : Ordered l r
  · cases h with
    | numbers x y => exact congrArg some (order?_swap x y)
    | strings s t => exact congrArg (some ∘ some) (Std.OrientedOrd.eq_swap (α := String))
  · rw [ordering?_eq_none_iff.mpr h, ordering?_eq_none_iff.mpr fun h' => h h'.symm]
    rfl

/-- Ordered values are equal if they are in no other order. -/
theorem equality?_eq_of_ordering? {l r : Value} {o : Option Ordering}
    (h : ordering? l r = some o) : equality? l r = some (o == some .eq) := by
  have hordered : Ordered l r := isSome_ordering?_iff.mp (by rw [h]; rfl)
  cases hordered with
  | numbers x y =>
    cases h
    rfl
  | strings s t =>
    cases h
    refine congrArg some (Bool.eq_iff_iff.mpr ?_)
    simp [compareTexts_eq_compare]

/-- Equality does not depend on the sides. -/
theorem equality?_comm (l r : Value) : equality? r l = equality? l r := by
  by_cases h : Comparable l r
  · cases h with
    | nilLeft r => cases r <;> rfl
    | nilRight l => cases l <;> rfl
    | numbers x y =>
      refine congrArg some ?_
      rw [Binary64.equals, Binary64.equals, order?_swap x y]
      rcases x.order? y with _ | o
      · rfl
      · cases o <;> rfl
    | strings s t => exact congrArg some (BEq.comm (a := t))
    | bools a b => cases a <;> cases b <;> rfl
  · rw [equality?_eq_none_iff.mpr h, equality?_eq_none_iff.mpr fun h' => h h'.symm]

/-- The comparison that says the same when the sides have changed places. -/
def mirror : Operator → Operator
  | less => greater
  | lessEqual => greaterEqual
  | greater => less
  | greaterEqual => lessEqual
  | op => op

/-- The mirror of an ordering operator is one. -/
theorem isOrdering_mirror (op : Operator) : op.mirror.isOrdering = op.isOrdering := by
  cases op <;> rfl

/-- The mirror of an operator admits of an order what the operator admits of the other side. -/
theorem admitsOf_mirror (op : Operator) (o : Option Ordering) :
    op.mirror.admitsOf (o.map Ordering.swap) = op.admitsOf o := by
  cases op <;> rcases o with _ | _ | _ | _ <;> rfl

/-- **From the other side an ordering comparison is its mirror image.** -/
theorem says_mirror_iff {op : Operator} (hop : op.isOrdering = true) {l r : Value} {b : Bool} :
    op.mirror.Says r l b ↔ op.Says l r b := by
  rw [says_ordering_iff hop, says_ordering_iff ((isOrdering_mirror op).trans hop),
    ordering?_swap l r]
  simp only [Option.map_eq_some_iff]
  constructor
  · rintro ⟨_, ⟨o, ho, rfl⟩, hb⟩
    exact ⟨o, ho, by rw [← admitsOf_mirror, hb]⟩
  · rintro ⟨o, ho, hb⟩
    exact ⟨_, ⟨o, ho, rfl⟩, by rw [admitsOf_mirror, hb]⟩

/-! ### The comparisons of an ordered pair -/

section Ordered

variable {l r : Value}

/-- Once the order is known, an ordering operator says what it admits of it. -/
theorem says_iff_admitsOf {op : Operator} {o : Option Ordering} {b : Bool}
    (hop : op.isOrdering = true) (ho : ordering? l r = some o) :
    op.Says l r b ↔ op.admitsOf o = b := by
  rw [says_ordering_iff hop, ho]
  simp

/-- Values with an order are equal if the order says so. -/
theorem says_equal_iff_of_ordering? {o : Option Ordering} (ho : ordering? l r = some o) :
    equal.Says l r true ↔ o = some .eq := by
  rw [says_equal_iff, equality?_eq_of_ordering? ho]
  simp

/-- At most is less or equal, also where NaN makes all three false. -/
theorem Ordered.says_lessEqual_iff (h : Ordered l r) :
    lessEqual.Says l r true ↔ less.Says l r true ∨ equal.Says l r true := by
  obtain ⟨o, ho⟩ := h.exists_ordering?
  rw [says_iff_admitsOf rfl ho, says_iff_admitsOf rfl ho, says_equal_iff_of_ordering? ho]
  rcases o with _ | _ | _ | _ <;> decide

end Ordered

/-! ### The order of strings -/

section Strings

variable (s t u : String)

/-- Strings are compared by the order of the library, which goes by code points. -/
theorem ordering?_string : ordering? (.string s) (.string t) = some (some (compare s t)) := rfl

/-- The order of strings is what `<` says. -/
theorem says_less_string_iff : less.Says (.string s) (.string t) true ↔ s < t := by
  rw [says_iff_admitsOf rfl (ordering?_string s t), ← compare_lt_iff_lt]
  cases compare s t <;> decide

/-- Seen from the other side, it is what `>` says. -/
theorem says_greater_string_iff : greater.Says (.string s) (.string t) true ↔ t < s := by
  have hless : less.isOrdering = true := rfl
  rw [← says_less_string_iff]
  exact says_mirror_iff hless

/-- Equality of strings is what `==` says. -/
theorem says_equal_string_iff : equal.Says (.string s) (.string t) true ↔ s = t := by
  rw [says_equal_iff_of_ordering? (ordering?_string s t), Option.some_inj, compare_eq_iff_eq]

/-- Which of three operators is true of two strings. -/
theorem mem_says_string_iff (op : Operator) :
    op ∈ [less, equal, greater] ∧ op.Says (.string s) (.string t) true ↔
      op = less ∧ s < t ∨ op = equal ∧ s = t ∨ op = greater ∧ t < s := by
  simp only [List.mem_cons, List.not_mem_nil, or_false, or_and_right]
  refine or_congr ?_ (or_congr ?_ ?_) <;> refine and_congr_right ?_ <;> rintro rfl
  · exact says_less_string_iff s t
  · exact says_equal_string_iff s t
  · exact says_greater_string_iff s t

/-- **Strings are totally ordered**: one comes before the other, or they are equal. -/
theorem existsUnique_says_string :
    ∃! op, op ∈ [less, equal, greater] ∧ op.Says (.string s) (.string t) true := by
  simp only [mem_says_string_iff]
  rcases lt_trichotomy s t with h | h | h
  · refine ⟨less, .inl ⟨rfl, h⟩, ?_⟩
    rintro op (⟨hop, -⟩ | ⟨-, h'⟩ | ⟨-, h'⟩)
    · exact hop
    · exact absurd h' h.ne
    · exact absurd h' h.asymm
  · refine ⟨equal, .inr (.inl ⟨rfl, h⟩), ?_⟩
    rintro op (⟨-, h'⟩ | ⟨hop, -⟩ | ⟨-, h'⟩)
    · exact absurd h h'.ne
    · exact hop
    · exact absurd h.symm h'.ne
  · refine ⟨greater, .inr (.inr ⟨rfl, h⟩), ?_⟩
    rintro op (⟨-, h'⟩ | ⟨-, h'⟩ | ⟨hop, -⟩)
    · exact absurd h' h.asymm
    · exact absurd h'.symm h.ne
    · exact hop

end Strings

end Operator

/-! ### The laws -/

open Operator in
/-- **The comparisons are coherent**, on values of all kinds.

* Equality does not depend on the side, inequality is its negation, and both are defined on values
  of one of the kinds that can be equal and wherever nil stands on a side.
* The ordering comparisons are mirror images of each other and are defined on two numbers and on two
  strings; there, at most is less or equal.
* Less is a strict total order on strings. -/
theorem comparisons_are_coherent :
    (∀ l r b, (equal.Says l r b ↔ equal.Says r l b) ∧ (notEqual.Says l r (!b) ↔ equal.Says l r b)) ∧
      (equal.DefinedOn Comparable ∧ notEqual.DefinedOn Comparable) ∧
      (∀ l r b, (less.Says l r b ↔ greater.Says r l b) ∧
        (lessEqual.Says l r b ↔ greaterEqual.Says r l b)) ∧
      (less.DefinedOn Ordered ∧ lessEqual.DefinedOn Ordered ∧ greater.DefinedOn Ordered ∧
        greaterEqual.DefinedOn Ordered) ∧
      (∀ l r, Ordered l r →
        (lessEqual.Says l r true ↔ less.Says l r true ∨ equal.Says l r true)) ∧
      (∀ s, less.Says (.string s) (.string s) false) ∧
      (∀ s t u, less.Says (.string s) (.string t) true → less.Says (.string t) (.string u) true →
        less.Says (.string s) (.string u) true) ∧
      ∀ s t, ∃! op, op ∈ [less, equal, greater] ∧ op.Says (.string s) (.string t) true := by
  refine ⟨fun l r b => ⟨?_, ?_⟩, ⟨definedOn_comparable (.inl rfl), definedOn_comparable (.inr rfl)⟩,
    fun l r b => ⟨(says_mirror_iff rfl).symm, (says_mirror_iff rfl).symm⟩,
    ⟨definedOn_ordered rfl, definedOn_ordered rfl, definedOn_ordered rfl, definedOn_ordered rfl⟩,
    fun l r h => h.says_lessEqual_iff, fun s => ?_, fun s t u => ?_, existsUnique_says_string⟩
  · rw [says_equal_iff, says_equal_iff, equality?_comm]
  · rw [says_equal_iff, says_notEqual_iff, Bool.not_not]
  · rw [says_iff_admitsOf rfl (ordering?_string s s), compare_eq_iff_eq.mpr rfl]
    rfl
  · simp only [says_less_string_iff]
    exact lt_trans

open Operator in
/-- NaN is a number, so it can be compared, but it is in no order even with itself. -/
theorem nan_is_in_no_order :
    lessEqual.Says (.number .nan) (.number .nan) false ∧
      notEqual.Says (.number .nan) (.number .nan) true ∧
      (lessEqual.Says (.number .nan) (.number .nan) true ↔
        less.Says (.number .nan) (.number .nan) true ∨
          equal.Says (.number .nan) (.number .nan) true) := by
  obtain ⟨hequality, -, -, -, hle, -⟩ := comparisons_are_coherent
  exact ⟨rfl, ((hequality _ _ false).2).mpr rfl, hle _ _ (.numbers .nan .nan)⟩

end Criteria
