import Criteria.Proofs.Evaluation.Order
import Criteria.Proofs.Evaluation.Selection
import Criteria.Proofs.Number.Monotone
import Criteria.Proofs.Writing.Decimals
import Criteria.Proofs.Writing.RoundTrip
import Mathlib

/-!
# Comparing integer data with integers in a text

An integer becomes a number in two ways: in data it is converted, and in a text it is a numeral that
is read. Both give the same number (`Criteria.denotes_toString`), so comparing the one with the
other is comparing their places in the order of numbers (`Criteria.evaluateData_rootText`).

Since no integer is rounded past another one, **the comparison never contradicts the integers**: it
may find integers equal that are not, but it does not turn their order around, and up to `2 ^ 53` it
is exact (`Criteria.integer_comparisons_follow_integers`).
-/

namespace Criteria

/-! ### Comparing integers -/

namespace Operator

/-- Whether a comparison is true of two integers. -/
def holdsOfIntegers (op : Operator) (i j : Int) : Bool :=
  match op with
  | less => i < j
  | lessEqual => i ≤ j
  | greater => j < i
  | greaterEqual => j ≤ i
  | equal => i = j
  | notEqual => i ≠ j
  | _ => false

/-- What an operator says of the order of two integers is what it says of the integers. -/
theorem holds_compare {op : Operator} (hop : op.isComparison = true) (i j : Int) :
    op.holds (compare i j) = op.holdsOfIntegers i j := by
  rcases lt_trichotomy i j with h | h | h
  · rw [compare_lt_iff_lt.mpr h]
    cases op <;> simp_all [holds, admits, holdsOfIntegers, isComparison, h.le, h.ne, h.not_gt]
  · rw [compare_eq_iff_eq.mpr h]
    cases op <;> simp_all [holds, admits, holdsOfIntegers, isComparison]
  · rw [compare_gt_iff_gt.mpr h]
    cases op <;> simp_all [holds, admits, holdsOfIntegers, isComparison, h.le, h.ne', h.not_gt]

/-- Where a map keeps the order of two integers, every comparison says the same of their images. -/
theorem holdsOfIntegers_map {f : Int → Int} {s : Set Int} (hf : StrictMonoOn f s) {i j : Int}
    (hi : i ∈ s) (hj : j ∈ s) (op : Operator) :
    op.holdsOfIntegers (f i) (f j) = op.holdsOfIntegers i j := by
  cases op <;> simp [holdsOfIntegers, hf.lt_iff_lt, hf.le_iff_le, hf.eq_iff_eq, hi, hj]

end Operator

/-! ### The text -/

/-- The text that compares the root with an integer. -/
def rootText (op : Operator) (m : Int) : String := "$ " ++ op.symbol ++ " " ++ toString m

/-- The comparison of the root with an integer. -/
def rootTree (op : Operator) (m : Int) : Expression :=
  .term (.chain (.term (.plain (.reference "" []))) op (.plain (.number (.ofInt m))))

/-- The tokens of the root compared with a written integer. -/
theorem isReadAs_rootText (op : Operator) (m : Int) :
    IsReadAs (rootText op m).toList [.reference "", .operator op, .number (.ofInt m)] := by
  -- the text is put together from its end
  have hnumeral : IsReadAs (toString m).toList [.number (.ofInt m)] := by
    rw [← List.append_nil (toString m).toList]
    exact (IsReadAs.nil .nil).word nofun fun position =>
      Lexeme.read_numeral (denotes_toString m) .nil position
  have hoperator := (hnumeral.skip .space).operator op rfl
  have hpath : ∀ s ∈ ([] : Path), s.IsWellFormed := nofun
  have hroot := (hoperator.skip .space).word (t := .reference "") nofun fun position =>
    Lexeme.read_variable hpath (.cons rfl) position
  have hempty : Path.text [] = "" := rfl
  simpa [rootText, hempty] using hroot

/-- The text of the root compared with a written integer is read as that comparison. -/
theorem parse_rootText {op : Operator} (hop : op.isComparison = true) (m : Int) :
    Expression.parse (rootText op m) = .ok (rootTree op m) := by
  refine Expression.parse_eq_ok_iff_isReadAs.mpr ⟨?_, isReadAs_rootText op m⟩
  have hnumber : (Operand.number (.ofInt m)).Fits 0 :=
    (Operand.leaf_spec (t := .number (.ofInt m)) rfl).2 0
  simp only [rootTree, Expression.fits_term, Comparison.fits_chain, Comparison.fits_term,
    Unary.fits_plain, Operand.fits_reference]
  exact ⟨rfl, hop, hnumber⟩

/-! ### Evaluating the text -/

/-- **The places of the two integers in the order of numbers decide the comparison.** -/
theorem evaluateData_rootText {op : Operator} (hop : op.isComparison = true) (n : Int64) (m : Int) :
    evaluateData (.integer n) (rootText op m) =
      .ok (op.holdsOfIntegers (Binary64.place n.toInt) (Binary64.place m)) := by
  have hcompared : op.applyComparison (Value.ofDatum (.integer n)) (.number (.ofInt m)) =
      .ok (.bool (op.holdsOfIntegers (Binary64.place n.toInt) (Binary64.place m))) := by
    rw [← Operator.holds_compare hop]
    exact Operator.applyComparison_number hop (Binary64.order?_ofInt n.toInt m)
  have htree : ∀ depth, evaluatePredicate (depth + 1) (rootTree op m) (.integer n) =
      (op.applyComparison (Value.ofDatum (.integer n)) (.number (.ofInt m))).mapError .error := by
    intro depth
    have hanswer := Opening.answer_evaluatePredicate_succ ⟨rootTree op m, .integer n⟩ depth
    exact hanswer.trans rfl
  rw [evaluateData, Builtin.evaluateDataWithin_eq (parse_rootText hop m), htree, hcompared]
  rfl

/-- **Comparisons of an integer in data with one in a text never contradict the integers.** Equal
integers are found equal, and integers that are not equal may be found equal, but are never found in
the other order. Up to `2 ^ 53` every comparison is true of the two exactly if it is true of the
integers. -/
theorem integer_comparisons_follow_integers (n : Int64) (m : Int) :
    let answer := fun op => evaluateData (.integer n) (rootText op m)
    (n.toInt = m →
      answer .equal = .ok true ∧ answer .lessEqual = .ok true ∧ answer .greaterEqual = .ok true ∧
        answer .notEqual = .ok false ∧ answer .less = .ok false ∧ answer .greater = .ok false) ∧
      (n.toInt < m → answer .lessEqual = .ok true ∧ answer .greater = .ok false) ∧
      (m < n.toInt → answer .greaterEqual = .ok true ∧ answer .less = .ok false) ∧
      (n.toInt.natAbs ≤ 2 ^ 53 → m.natAbs ≤ 2 ^ 53 → ∀ op, op.isComparison = true →
        answer op = .ok (op.holdsOfIntegers n.toInt m)) := by
  intro answer
  have hanswer : ∀ op, op.isComparison = true →
      answer op = .ok (op.holdsOfIntegers (Binary64.place n.toInt) (Binary64.place m)) :=
    fun op hop => evaluateData_rootText hop n m
  refine ⟨fun h => ?_, fun h => ?_, fun h => ?_, fun hn hm op hop => ?_⟩
  · rw [hanswer .equal rfl, hanswer .lessEqual rfl, hanswer .greaterEqual rfl,
      hanswer .notEqual rfl, hanswer .less rfl, hanswer .greater rfl, h]
    simp [Operator.holdsOfIntegers]
  · have hplace := Binary64.monotone_place h.le
    rw [hanswer .lessEqual rfl, hanswer .greater rfl]
    simp [Operator.holdsOfIntegers, hplace]
  · have hplace := Binary64.monotone_place h.le
    rw [hanswer .greaterEqual rfl, hanswer .less rfl]
    simp [Operator.holdsOfIntegers, hplace]
  · have hmem : ∀ k : Int, k.natAbs ≤ 2 ^ 53 → k ∈ Set.Icc (-2 ^ 53 : Int) (2 ^ 53) :=
      fun k hk => ⟨by omega, by omega⟩
    rw [hanswer op hop,
      Operator.holdsOfIntegers_map Binary64.strictMonoOn_place (hmem _ hn) (hmem _ hm) op]

/-- The two integers around `2 ^ 53` where rounding begins become one number. -/
theorem neighbours_are_found_equal :
    (9007199254740992 : Int64).toInt < 9007199254740993 ∧
      evaluateData (.integer 9007199254740992) "$ <= 9007199254740993" = .ok true ∧
      evaluateData (.integer 9007199254740992) "$ == 9007199254740993" = .ok true := by
  have hlt : (9007199254740992 : Int64).toInt < 9007199254740993 := by decide
  have hle := ((integer_comparisons_follow_integers 9007199254740992 9007199254740993).2.1 hlt).1
  have hequal : Operator.equal.isComparison = true := rfl
  have heq := evaluateData_rootText hequal 9007199254740992 9007199254740993
  exact ⟨hlt, hle, heq.trans (by decide)⟩

end Criteria
