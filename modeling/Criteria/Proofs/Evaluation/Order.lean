import Criteria.Proofs.Evaluation.Numbers
import Criteria.Proofs.Evaluation.Reentry
import Criteria.Proofs.Grammar.Composition
import Mathlib

/-!
# Numbers are ordered

All numbers but NaN have a place in the order. Where there are no host functions, NaN does not come
up: no numeral denotes it, not even one that is too large for the format
(`Criteria.Expression.holdsOfLiterals_of_parse`), and the numbers of valid data are finite, like
counts (`Criteria.holdsOfNumbers_ne_nan`).

So no comparison finds numbers without an order, neither in an expression nor in the predicates
that its evaluation opens, however deep these are nested (`Criteria.Expression.NeverUnordered`). It
follows that **two expressions that come to numbers are ordered**: one of the comparisons `<`, `==`
and `>` is true of them, the other two are false, and `<=` and `>=` are the opposites of `>` and `<`
(`Criteria.numbers_are_ordered`).
-/

namespace Criteria

open Relation (ReflTransGen)

/-! ### Numbers other than NaN -/

namespace Binary64

/-- A finite number is not NaN. -/
theorem ne_nan_of_isFinite (x : Binary64) (h : x.isFinite = true) : x ≠ nan := by
  rintro rfl
  cases h

/-- A decimal fraction beyond the format is infinite. -/
theorem ofDecimal_ne_nan (negative : Bool) (digits : Nat) (exponent : Int) :
    ofDecimal negative digits exponent ≠ nan := by
  rw [ofDecimal]
  split_ifs <;> simp [infinity, ofRatio]

/-- Any two numbers but NaN have an order. -/
theorem exists_order {x y : Binary64} (hx : x ≠ nan) (hy : y ≠ nan) :
    ∃ o, x.order? y = some o := by
  cases x with
  | nan => exact absurd rfl hx
  | signed =>
    cases y with
    | nan => exact absurd rfl hy
    | signed => exact ⟨_, rfl⟩

end Binary64

/-- No number that is written in a text is NaN. -/
theorem Expression.holdsOfLiterals_of_parse {text : String} {e : Expression}
    (h : Expression.parse text = .ok e) : HoldsOfLiterals (· ≠ .nan) e.operands := by
  intro x hx
  obtain ⟨word, hword, -⟩ := Expression.exists_word_of_token? h hx rfl
  cases hword with
  | number hdenotes =>
    obtain ⟨-, n, -, rfl⟩ := hdenotes
    exact Binary64.ofDecimal_ne_nan _ _ _
  | symbol hs => cases hs

/-- None of the numbers that an evaluation finds in valid data is NaN. -/
theorem holdsOfNumbers_ne_nan {root : Datum} (h : Context.checkData root = .ok ()) :
    HoldsOfNumbers (· ≠ .nan) root := by
  have hfinite := holdsOfNumbers_isFinite (Context.checkData_eq_ok_iff.mp h)
  exact hfinite.imp Binary64.ne_nan_of_isFinite

/-! ### Comparing numbers that have an order -/

namespace Operator

/-- Whether a comparison is true of two numbers that are in some order. -/
def holds (op : Operator) (o : Ordering) : Bool :=
  if op = .equal then o.isEq else if op = .notEqual then !o.isEq else op.admits o

/-- A comparison of two numbers says what its operator says of their order. -/
theorem applyComparison_number {op : Operator} {x y : Binary64} {o : Ordering}
    (hop : op.isComparison = true) (ho : x.order? y = some o) :
    op.applyComparison (.number x) (.number y) = .ok (.bool (op.holds o)) := by
  have hequals : x.equals y = o.isEq := by
    rw [Binary64.equals, ho]
    cases o <;> rfl
  cases op <;>
    simp_all [applyComparison, equality?, ordering?, isOrdering, isComparison, holds]

/-- Values without NaN are ordered, if they can be ordered. -/
theorem ordering?_ne_unordered {v w : Value} (hv : v.AllNumbers (· ≠ .nan))
    (hw : w.AllNumbers (· ≠ .nan)) : ordering? v w ≠ some none := by
  intro h
  simp only [ordering?] at h
  split at h
  · rename_i x y
    have hx : x ≠ .nan := hv x (Value.mem_parts_self _)
    have hy : y ≠ .nan := hw y (Value.mem_parts_self _)
    obtain ⟨o, ho⟩ := Binary64.exists_order hx hy
    rw [ho] at h
    cases h
  · cases h
  · cases h

/-- Numbers come one before the other or are equal. -/
theorem countP_holds (o : Ordering) :
    [less, equal, greater].countP (fun op => op.holds o) = 1 := by
  cases o <;> rfl

/-- Not above is at most. -/
theorem holds_lessEqual (o : Ordering) : lessEqual.holds o = !greater.holds o := by
  cases o <;> rfl

/-- Not below is at least. -/
theorem holds_greaterEqual (o : Ordering) : greaterEqual.holds o = !less.holds o := by
  cases o <;> rfl

end Operator

/-! ### The comparisons of a tree -/

mutual

/-- All comparisons in an expression, also those inside of operands. -/
def Expression.comparisons : Expression → List Comparison
  | .term c => c.comparisons
  | .chain left _ right => Expression.comparisons left ++ right.comparisons

/-- A chain of comparisons is one itself, and so are the shorter ones that it continues. -/
def Comparison.comparisons : Comparison → List Comparison
  | .term u => u.comparisons
  | .chain left op right =>
    Comparison.comparisons left ++ right.comparisons ++ [.chain left op right]

/-- The comparisons in an operand with an operator before it. -/
def Unary.comparisons : Unary → List Comparison
  | .plain x => x.comparisons
  | .applied _ x => x.comparisons

/-- The comparisons in an operand. -/
def Operand.comparisons : Operand → List Comparison
  | .call _ arguments => Operand.argumentComparisons arguments
  | .group e => e.comparisons
  | _ => []

/-- The comparisons in the arguments of a call. -/
def Operand.argumentComparisons : List Expression → List Comparison
  | [] => []
  | e :: rest => e.comparisons ++ Operand.argumentComparisons rest

end

mutual

/-- The operands of comparisons are operands of the expression. -/
theorem Expression.operands_subset_of_mem : ∀ e : Expression, ∀ c ∈ e.comparisons,
    c.operands ⊆ e.operands
  | .term c, d, hd => Comparison.operands_subset_of_mem c d hd
  | .chain left op right, d, hd => by
    rcases List.mem_append.mp hd with hd | hd
    · exact List.subset_append_of_subset_left _ (Expression.operands_subset_of_mem left d hd)
    · exact List.subset_append_of_subset_right _ (Comparison.operands_subset_of_mem right d hd)

/-- The operands of a comparison inside another are among the operands of the latter. -/
theorem Comparison.operands_subset_of_mem : ∀ c : Comparison, ∀ d ∈ c.comparisons,
    d.operands ⊆ c.operands
  | .term u, d, hd => Unary.operands_subset_of_mem u d hd
  | .chain left op right, d, hd => by
    rcases List.mem_append.mp hd with hd | hd
    · rcases List.mem_append.mp hd with hd | hd
      · exact List.subset_append_of_subset_left _ (Comparison.operands_subset_of_mem left d hd)
      · exact List.subset_append_of_subset_right _ (Unary.operands_subset_of_mem right d hd)
    · rw [List.mem_singleton.mp hd]
      exact List.Subset.refl _

theorem Unary.operands_subset_of_mem : ∀ u : Unary, ∀ d ∈ u.comparisons,
    d.operands ⊆ u.operands
  | .plain x, d, hd | .applied _ x, d, hd => Operand.operands_subset_of_mem x d hd

theorem Operand.operands_subset_of_mem : ∀ x : Operand, ∀ d ∈ x.comparisons,
    d.operands ⊆ x.operands
  | .number _, d, hd | .string _, d, hd | .boolean _, d, hd | .nil, d, hd | .regex _, d, hd
  | .reference _ _, d, hd => absurd hd List.not_mem_nil
  | .call _ arguments, d, hd =>
    List.subset_append_of_subset_left _ (Operand.operands_subset_of_mem_arguments arguments d hd)
  | .group e, d, hd =>
    List.subset_append_of_subset_left _ (Expression.operands_subset_of_mem e d hd)

theorem Operand.operands_subset_of_mem_arguments : ∀ arguments : List Expression,
    ∀ d ∈ Operand.argumentComparisons arguments,
      d.operands ⊆ Operand.argumentOperands arguments
  | [], d, hd => absurd hd List.not_mem_nil
  | e :: rest, d, hd => by
    rcases List.mem_append.mp hd with hd | hd
    · exact List.subset_append_of_subset_left _ (Expression.operands_subset_of_mem e d hd)
    · exact List.subset_append_of_subset_right _
        (Operand.operands_subset_of_mem_arguments rest d hd)

end

/-! ### No comparison finds NaN -/

/-- The sides of a comparison, in whatever context without host functions they are evaluated for
an item, never come to numbers without an order. -/
def Comparison.NeverUnordered (left : Comparison) (right : Unary) (item : Datum) : Prop :=
  ∀ {σ : Type} (ctx : Context σ) (depth : Nat) (w w' : World σ) (u v : Value),
    Context.ofDatum item = .ok ctx →
      (left.evalWith (evaluatePredicate depth) ctx w).1 = .ok u →
        (right.evalWith (evaluatePredicate depth) ctx w').1 = .ok v →
          Operator.ordering? u v ≠ some none

/-- **No evaluation comes to an unordered comparison**: none of the comparisons of the expression,
or of the predicates that are opened, directly or not, when it is evaluated against a root. -/
def Expression.NeverUnordered (tree : Expression) (root : Datum) : Prop :=
  ∀ q, ReflTransGen Opening.Opens ⟨tree, root⟩ q →
    ∀ left op right, .chain left op right ∈ q.predicate.comparisons →
      Comparison.NeverUnordered left right q.item

/-- The comparisons of a text are not unordered. -/
theorem Comparison.neverUnordered_of_parse {text : String} {e : Expression}
    (h : Expression.parse text = .ok e) {left : Comparison} {op : Operator} {right : Unary}
    (hc : .chain left op right ∈ e.comparisons) (item : Datum) :
    Comparison.NeverUnordered left right item := by
  intro σ ctx depth w w' u v hctx hu hv
  have hsides := Expression.operands_subset_of_mem e _ hc
  have hliterals : HoldsOfLiterals (· ≠ .nan) (left.operands ++ right.operands) :=
    fun x hx => Expression.holdsOfLiterals_of_parse h x (hsides hx)
  have hcalls := callsBuiltins_of_ofDatum hctx
  obtain ⟨hvalid, rfl⟩ := Context.ofDatum_eq_ok_iff.mp hctx
  have hp := holdsOfNumbers_ne_nan hvalid
  -- without a host the sides come to their outcomes
  rw [Comparison.evalWith_eq_outcome left (hcalls _), Evaluation.ofOutcome_apply] at hu
  rw [Unary.evalWith_eq_outcome right (hcalls _), Evaluation.ofOutcome_apply] at hv
  exact Operator.ordering?_ne_unordered
    (Comparison.allNumbers_outcome hp left hliterals.left u hu)
    (Unary.allNumbers_outcome hp right hliterals.right v hv)

/-- The predicates that are opened were read from texts, like the expression. -/
theorem Expression.neverUnordered_of_parse {text : String} {tree : Expression}
    (h : Expression.parse text = .ok tree) (root : Datum) : tree.NeverUnordered root := by
  intro q hq left op right hc
  rcases Relation.reflTransGen_iff_eq_or_transGen.mp hq with rfl | hopened
  · exact Comparison.neverUnordered_of_parse h hc _
  · obtain ⟨source, -, hsource⟩ := (Opening.holdsOpening_of_transGen hopened).predicate
    exact Comparison.neverUnordered_of_parse hsource hc _

/-! ### The order of two expressions -/

section Ordered

variable {σ : Type} {root : Datum} {ctx : Context σ} {a b : Expression} {depth : Nat}
  {w : World σ} {x y : Binary64}

/-- A number that a text comes to is not NaN. -/
theorem Expression.ne_nan_of_eval {text : String} (hctx : Context.ofDatum root = .ok ctx)
    (h : Expression.parse text = .ok a) (ha : (a.eval depth ctx w).1 = .ok (.number x)) :
    x ≠ .nan := by
  have hp := holdsOfNumbers_ne_nan (Context.ofDatum_eq_ok_iff.mp hctx).1
  have hliterals := Expression.holdsOfLiterals_of_parse h
  rw [Expression.eval_apply_eq_outcome hctx] at ha
  exact Expression.allNumbers_outcome hp a hliterals _ ha x (Value.mem_parts_self _)

/-- Expressions that come to numbers are compared by the order of these. -/
theorem Expression.eval_compared {op : Operator} {o : Ordering}
    (hctx : Context.ofDatum root = .ok ctx) (hop : op.isComparison = true)
    (ha : (a.eval depth ctx w).1 = .ok (.number x))
    (hb : (b.eval depth ctx w).1 = .ok (.number y)) (ho : x.order? y = some o) :
    ((a.compared op b).eval depth ctx w).1 = .ok (.bool (op.holds o)) := by
  rw [Expression.eval_apply_eq_outcome hctx] at ha hb ⊢
  have hsides : (a.compared op b).outcome (evaluatePredicate depth) root = (do
      let v ← a.outcome (evaluatePredicate depth) root
      let u ← b.outcome (evaluatePredicate depth) root
      (op.applyComparison v u).mapError .error) := rfl
  dsimp only at ha hb ⊢
  rw [hsides, ha, hb]
  exact congrArg (Except.mapError _) (Operator.applyComparison_number hop ho)

end Ordered

/-- **Numbers are ordered where there are no host functions.** No comparison of an expression that
reads from a text finds NaN, nor does one of the predicates that its evaluation opens. Of two
texts in parentheses that come to numbers, exactly one of `<`, `==` and `>` is true, and `<=` and
`>=` are the opposites of `>` and `<`. -/
theorem numbers_are_ordered {σ : Type} {root : Datum} {ctx : Context σ}
    (hctx : Context.ofDatum root = .ok ctx) :
    (∀ text tree, parse text = .ok tree → tree.NeverUnordered root) ∧
      ∀ s t a b depth w x y, parse s = .ok a → parse t = .ok b →
        a.nesting ≤ 63 → b.nesting ≤ 63 →
          (a.eval depth ctx w).1 = .ok (.number x) → (b.eval depth ctx w).1 = .ok (.number y) →
            ∃ result : Operator → Bool,
              (∀ op, op.isComparison = true → ∃ tree, parse (comparisonText s op t) = .ok tree ∧
                (tree.eval depth ctx w).1 = .ok (.bool (result op))) ∧
              [Operator.less, .equal, .greater].countP result = 1 ∧
              result .lessEqual = !result .greater ∧ result .greaterEqual = !result .less := by
  refine ⟨fun text tree h => ?_, fun s t a b depth w x y hs ht hna hnb ha hb => ?_⟩
  · exact Expression.neverUnordered_of_parse (parse_eq_ok_iff_parse.mp h) root
  · rw [parse_eq_ok_iff_parse] at hs ht
    obtain ⟨o, ho⟩ := Binary64.exists_order (Expression.ne_nan_of_eval hctx hs ha)
      (Expression.ne_nan_of_eval hctx ht hb)
    refine ⟨(·.holds o), fun op hop => ⟨a.compared op b, ?_, ?_⟩, Operator.countP_holds o,
      Operator.holds_lessEqual o, Operator.holds_greaterEqual o⟩
    · exact parse_eq_ok_iff_parse.mpr (parse_comparisonText hop hs hna ht hnb)
    · exact Expression.eval_compared hctx hop ha hb ho

/-- The expression `-0`. -/
def negativeZeroTree : Expression :=
  .term (.term (.plain (.number (.signed true 0 (Nat.zero_le _)))))

/-- The expression `@len($)`. -/
def countTree : Expression :=
  .term (.term (.plain (.call "@len" [.term (.term (.plain (.reference "" [])))])))

/-- The two zeros are ordered, one from a numeral and one from a count. -/
theorem zeros_are_ordered :
    parse "-0" = .ok negativeZeroTree ∧ parse "@len($)" = .ok countTree ∧
      ∃ result : Operator → Bool,
        (∀ op, op.isComparison = true → ∃ tree,
          parse (comparisonText "-0" op "@len($)") = .ok tree ∧
            (tree.eval 0 (⟨.array [], .builtins⟩ : Context Unit) ⟨(), []⟩).1 =
              .ok (.bool (result op))) ∧
        [Operator.less, .equal, .greater].countP result = 1 ∧
        result .lessEqual = !result .greater ∧ result .greaterEqual = !result .less := by
  have hctx : Context.ofDatum (.array []) =
      .ok (⟨.array [], .builtins⟩ : Context Unit) := rfl
  have hs : parse "-0" = .ok negativeZeroTree := by cbv
  have ht : parse "@len($)" = .ok countTree := by cbv
  have ha : (negativeZeroTree.eval 0 (⟨.array [], .builtins⟩ : Context Unit) ⟨(), []⟩).1 =
      .ok (.number (.signed true 0 (Nat.zero_le _))) := rfl
  have hb : (countTree.eval 0 (⟨.array [], .builtins⟩ : Context Unit) ⟨(), []⟩).1 =
      .ok (.number .zero) := rfl
  exact ⟨hs, ht, (numbers_are_ordered hctx).2 _ _ _ _ 0 _ _ _ hs ht (by decide) (by decide) ha hb⟩

end Criteria
