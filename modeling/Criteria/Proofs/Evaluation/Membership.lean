import Criteria.Proofs.Evaluation.Chains
import Criteria.Proofs.Evaluation.Universe
import Criteria.Proofs.Operator.Laws

/-!
# Membership and equality

`@in` has its own notion of equality, on data, and its own loop over the elements. Between values
other than nil the notion is the one of `==`, and it has no answer for the same kinds
(`Criteria.Builtin.sameScalar_toDatum`). The loop stops where a chain of comparisons joined by `||`
stops: at the first element that is equal, or at the first one that cannot be compared.

So **`@in` says of a value what the chain `v₁ == x || v₂ == x || …` says of it**
(`Criteria.membership_agrees_with_equality`).
-/

namespace Criteria

open Evaluation Operator

/-! ### The two notions of equality -/

/-- **Elements are compared like the operands of `==`**, where neither is nil. -/
theorem Builtin.sameScalar_toDatum {v x : Value} (hv : v ≠ .nil) (hx : x ≠ .nil) {b : Bool} :
    sameScalar v.toDatum x.toDatum = .ok b ↔ equality? v x = some b := by
  cases v <;> cases x <;>
    simp_all [sameScalar, Value.toDatum, Datum.number?, equality?, Value.isNil]

/-! ### The chain of comparisons -/

/-- The comparison of two operands by `==`. -/
def Comparison.equating (operands : Unary × Unary) : Comparison :=
  .chain (.term operands.1) .equal operands.2

/-- The link of a chain that goes on with `|| u == y`. -/
def Expression.orEquating (operands : Unary × Unary) : Operator × Comparison :=
  (.or, .equating operands)

/-- The chain `u₁ == y₁ || u₂ == y₂ || …` of one pair of operands and further ones. -/
def Expression.anyEqual (first : Unary × Unary) (rest : List (Unary × Unary)) : Expression :=
  (Expression.term (.equating first)).extend (rest.map Expression.orEquating)

section Chain

variable {σ : Type} {evaluate : Expression → Datum → Except Stop Value} {ctx : Context σ}
  {x : Value}

/-- Pairs of operands **come to** some values and `x`: evaluated one after the other from a world
on, the left one of each pair gives the next value, and the right one gives `x`. -/
inductive ComeTo (evaluate : Expression → Datum → Except Stop Value) (ctx : Context σ) (x : Value) :
    List (Unary × Unary) → List Value → World σ → Prop
  | nil (w : World σ) : ComeTo evaluate ctx x [] [] w
  | cons {u y : Unary} {v : Value} {w w' w'' : World σ} {pairs : List (Unary × Unary)}
      {vs : List Value} (left : u.evalWith evaluate ctx w = (.ok v, w'))
      (right : y.evalWith evaluate ctx w' = (.ok x, w''))
      (rest : ComeTo evaluate ctx x pairs vs w'') :
      ComeTo evaluate ctx x ((u, y) :: pairs) (v :: vs) w

/-- Two operands that come to values are equal, or not, or not comparable. -/
theorem Comparison.evalWith_equating {u y : Unary} {v : Value} {w w' w'' : World σ}
    (left : u.evalWith evaluate ctx w = (.ok v, w'))
    (right : y.evalWith evaluate ctx w' = (.ok x, w'')) :
    (Comparison.equating (u, y)).evalWith evaluate ctx w =
      Evaluation.ofExcept (equal.applyComparison v x) w'' := by
  rw [equating, Comparison.evalWith, Comparison.evalWith, bind_of_ok left, bind_of_ok right]

/-- A comparison behind a disjunct that is false is evaluated, and what it says is carried on. -/
theorem Expression.step_equating {u y : Unary} {v : Value} {w w' w'' : World σ}
    (left : u.evalWith evaluate ctx w = (.ok v, w'))
    (right : y.evalWith evaluate ctx w' = (.ok x, w'')) :
    step evaluate ctx (.bool false) (orEquating (u, y)) w =
      Evaluation.ofExcept (equal.applyComparison v x) w'' := by
  have hcompared := Comparison.evalWith_equating left right
  have hundecided : ¬Operator.or.isDecidedBy (.bool false) = true := nofun
  rw [applyComparison_equal] at hcompared ⊢
  rw [Expression.step, Expression.orEquating, if_neg hundecided]
  cases hanswer : equality? v x with
  | none =>
    rw [hanswer] at hcompared
    exact bind_of_error hcompared
  | some b =>
    rw [hanswer] at hcompared
    rw [bind_of_ok hcompared]
    cases b <;> rfl

/-- Behind a disjunct that is true nothing is evaluated any more. -/
theorem Expression.foldlM_step_true (pairs : List (Unary × Unary)) (w : World σ) :
    (pairs.map Expression.orEquating).foldlM (Expression.step evaluate ctx) (.bool true) w =
      (.ok (.bool true), w) := by
  induction pairs with
  | nil => rfl
  | cons p rest ih =>
    rw [List.map_cons, List.foldlM_cons, Expression.orEquating,
      Expression.step_of_isDecidedBy rfl, pure_bind, ih]

/-- The first comparison might as well stand behind a disjunct that is false. -/
theorem ComeTo.evalWith_anyEqual {p : Unary × Unary} {ps : List (Unary × Unary)} {vs : List Value}
    {w : World σ} (h : ComeTo evaluate ctx x (p :: ps) vs w) :
    (Expression.anyEqual p ps).evalWith evaluate ctx w =
      ((p :: ps).map Expression.orEquating).foldlM (Expression.step evaluate ctx) (.bool false)
        w := by
  cases h with
  | cons left right rest =>
    rw [Expression.anyEqual, Expression.evalWith_extend, List.map_cons, List.foldlM_cons,
      bind_apply, bind_apply, Expression.step_equating left right, Expression.evalWith,
      Comparison.evalWith_equating left right]

end Chain

/-! ### Chains for all values -/

/-- The variable `$[n]`. -/
def Unary.element (n : Nat) : Unary :=
  let path : Path := [⟨"", some (.position n)⟩]
  .plain (.reference path.text path)

section Elements

variable {σ : Type} {evaluate : Expression → Datum → Except Stop Value}
  {functions : FunctionTable σ} {items : List Datum}

/-- A position of the root stands for the element there. -/
theorem Unary.evalWith_element {n : Nat} {v : Value} (h : items[n]? = some v.toDatum)
    (w : World σ) :
    (Unary.element n).evalWith evaluate ⟨.array items, functions⟩ w = (.ok v, w) := by
  have hlookUp : Context.lookUp (⟨.array items, functions⟩ : Context σ)
      [⟨"", some (.position n)⟩] = .ok v := by
    simp [Context.lookUp, Path.resolve, Segment.resolve, Segment.fromArray, Segment.element, h,
      Except.map, Value.ofDatum_toDatum]
  rw [element, Unary.evalWith, Operand.evalWith, hlookUp]
  rfl

/-- **Any values can stand in such a chain**: the elements of an array, from the place `k` on, as
the left sides, and its first element as the right side of each comparison. -/
theorem comeTo_elements {x : Value} (hx : items[0]? = some x.toDatum) (w : World σ)
    (vs : List Value) (k : Nat) (hvs : ∀ i v, vs[i]? = some v → items[k + i]? = some v.toDatum) :
    ComeTo evaluate ⟨.array items, functions⟩ x
      ((List.range' k vs.length).map fun i => (.element i, .element 0)) vs w := by
  induction vs generalizing k with
  | nil => exact .nil w
  | cons v vs ih =>
    have hv : items[k]? = some v.toDatum := hvs 0 v rfl
    have hrest : ∀ i u, vs[i]? = some u → items[k + 1 + i]? = some u.toDatum := by
      intro i u hu
      rw [Nat.add_right_comm]
      exact hvs (i + 1) u hu
    exact .cons (Unary.evalWith_element hv w) (Unary.evalWith_element hx w) (ih (k + 1) hrest)

end Elements

/-! ### The two loops -/

/-- The result of a function and the value of an expression give **the same answer**: the same bool,
or an error each. -/
inductive SameAnswer : Except Stop Datum → Except Stop Value → Prop
  | bool (b : Bool) : SameAnswer (.ok (.bool b)) (.ok (.bool b))
  | error (e e' : Error) : SameAnswer (.error (.error e)) (.error (.error e'))

section Loops

variable {σ : Type} {evaluate : Expression → Datum → Except Stop Value} {ctx : Context σ}
  {x : Value} {pairs : List (Unary × Unary)} {vs : List Value} {w : World σ}

/-- **The loop over the elements and the loop along the chain stop at the same place**, from a
place on where nothing has been found yet. -/
theorem ComeTo.sameAnswer (h : ComeTo evaluate ctx x pairs vs w) (hvs : ∀ v ∈ vs, v ≠ .nil)
    (hx : x ≠ .nil) :
    SameAnswer
      (((Builtin.containsValue x.toDatum (vs.map Value.toDatum)).map .bool).mapError .error)
      ((pairs.map Expression.orEquating).foldlM (Expression.step evaluate ctx) (.bool false)
        w).1 := by
  induction h with
  | nil w => exact .bool false
  | @cons u y v w w' w'' pairs vs left right rest ih =>
    obtain ⟨hv, hvs⟩ := List.forall_mem_cons.mp hvs
    have hscalar : ∀ {b}, Builtin.sameScalar v.toDatum x.toDatum = .ok b ↔ equality? v x = some b :=
      Builtin.sameScalar_toDatum hv hx
    have hstep := Expression.step_equating left right
    rw [applyComparison_equal] at hstep
    rw [List.map_cons, List.map_cons, List.foldlM_cons, Builtin.containsValue]
    rcases hanswer : equality? v x with _ | _ | _
    · -- the two kinds cannot be compared
      rw [hanswer] at hstep
      cases hsame : Builtin.sameScalar v.toDatum x.toDatum with
      | ok b => simp [hscalar.mp hsame] at hanswer
      | error e =>
        rw [bind_of_error hstep]
        exact .error _ _
    · -- both loops go on behind an element that is not equal
      rw [hanswer] at hstep
      rw [hscalar.mpr hanswer, bind_of_ok hstep]
      exact ih hvs
    · rw [hanswer] at hstep
      rw [hscalar.mpr hanswer, bind_of_ok hstep, Expression.foldlM_step_true]
      exact .bool true

end Loops

/-- **Membership agrees with equality.** Where pairs of operands come to the values `v₁`, `v₂`, …
and to `x`, none of which is nil, the chain `v₁ == x || v₂ == x || …` of these operands and `@in` of
the array of the values and of `x` are both true, both false or both an error. -/
theorem membership_agrees_with_equality {σ : Type} {ctx : Context σ} {depth : Nat} {x : Value}
    {p : Unary × Unary} {ps : List (Unary × Unary)} {vs : List Value} {w : World σ}
    (h : ComeTo (evaluatePredicate depth) ctx x (p :: ps) vs w) (hvs : ∀ v ∈ vs, v ≠ .nil)
    (hx : x ≠ .nil) (depth' : Nat) :
    SameAnswer (Builtin.run depth' .member [.array (vs.map Value.toDatum), x.toDatum])
      ((Expression.anyEqual p ps).eval depth ctx w).1 := by
  rw [Expression.eval, h.evalWith_anyEqual]
  exact h.sameAnswer hvs hx

/-- An array cannot be compared with a string, but behind an equal string neither way looks at it:
`$[1] == $[0] || $[2] == $[0] || $[3] == $[0]` for the elements `"b"`, `"a"`, `"b"` and `[]`. -/
theorem array_behind_member_is_not_compared :
    let x : Value := .string "b"
    let vs : List Value := [.string "a", .string "b", .array []]
    let ctx : Context Unit := ⟨.array (x.toDatum :: vs.map Value.toDatum), .builtins⟩
    let p : Unary × Unary := (.element 1, .element 0)
    let ps : List (Unary × Unary) := [(.element 2, .element 0), (.element 3, .element 0)]
    Builtin.run 0 .member [.array (vs.map Value.toDatum), x.toDatum] = .ok (.bool true) ∧
      SameAnswer (Builtin.run 0 .member [.array (vs.map Value.toDatum), x.toDatum])
        ((Expression.anyEqual p ps).eval 0 ctx ⟨(), []⟩).1 := by
  intro x vs ctx p ps
  have hcome : ComeTo (evaluatePredicate 0) ctx x (p :: ps) vs ⟨(), []⟩ :=
    comeTo_elements rfl _ vs 1 fun i v hv => by simp [Nat.add_comm 1 i, hv]
  have hvs : ∀ v ∈ vs, v ≠ .nil := by simp [vs]
  exact ⟨rfl, membership_agrees_with_equality hcome hvs nofun 0⟩

end Criteria
