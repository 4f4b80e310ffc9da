import Criteria.Proofs.Evaluation.Results
import Criteria.Proofs.Grammar.Flattening

/-!
# Negated conjunctions and disjunctions

A negation can be moved inwards, as in logic, if conjunctions and disjunctions change places. For
evaluation this is not a matter of truth tables alone: operands may fail, give no bool, or change
the state of the host. Two facts carry it:

* a logical operator gives a bool if its left side gives a bool, and then this bool decides it or
  the right side gives the bool of the whole (`Criteria.Expression.evalWith_chain_eq_bool_iff`);
* a bool decides an operator exactly if its negation decides the other one
  (`Criteria.Operator.isDecidedBy_dual`), so **both forms leave out the same operands**.

Both forms fail together, but not in the same way: `!(1 && x)` evaluates `x` before it turns out
that `1` is no bool, and `!1 || !x` does not.
-/

namespace Criteria

open Evaluation

/-! ### The two forms -/

namespace Expression

/-- The negation of two operands with an operator between them, as in `!(a && b)`. -/
def negatedJoin (op : Operator) (a b : Operand) : Expression :=
  .term (.term (.applied .not (.group (.chain (.lone a) op (.term (.plain b))))))

/-- Two negated operands with an operator between them, as in `!a || !b`. -/
def joinedNegations (op : Operator) (a b : Operand) : Expression :=
  .chain (.term (.term (.applied .not a))) op (.term (.applied .not b))

end Expression

namespace Operator

/-- The logical operator that stands for another one behind a negation. -/
def dual : Operator → Operator
  | and => or
  | or => and
  | op => op

variable {op : Operator} {l r : Value} {b : Bool}

/-- The dual of a logical operator is one. -/
theorem isLogical_dual : op.dual.isLogical = op.isLogical := by cases op <;> rfl

/-- **A bool decides an operator if its negation decides the dual one.** -/
theorem isDecidedBy_dual : op.dual.isDecidedBy (.bool !b) = op.isDecidedBy (.bool b) := by
  cases op <;> simp [dual, isDecidedBy]

/-- A negation gives a bool where it is given the opposite one. -/
theorem applyUnary_not_eq_bool_iff : not.applyUnary l = .ok (.bool b) ↔ l = .bool !b := by
  cases l with
  | bool c => cases b <;> cases c <;> simp [applyUnary]
  | _ => simp [applyUnary]

/-- A left side that does not decide a logical operator leaves the answer to the right side, if it
is a bool at all. -/
theorem applyLogical_eq_bool_iff (hop : op.isLogical = true) (hd : op.isDecidedBy l = false) :
    op.applyLogical l r = .ok (.bool b) ↔ (∃ c, l = .bool c) ∧ r = .bool b := by
  cases l with
  | bool c =>
    cases r with
    | bool d => cases op <;> simp_all [isLogical, isDecidedBy, applyLogical]
    | _ => simp [applyLogical, hop]
  | _ => simp [applyLogical, hop]

end Operator

/-! ### When a result is a bool -/

section Results

variable {σ : Type} {evaluate : Expression → Datum → Except Stop Value} {ctx : Context σ}
  {w w' : World σ} {op : Operator} {v : Bool}

/-- A negation gives a bool if its operand gives the other one. -/
theorem Unary.evalWith_not_eq_bool_iff {x : Operand} :
    (Unary.applied .not x).evalWith evaluate ctx w = (.ok (.bool v), w') ↔
      x.evalWith evaluate ctx w = (.ok (.bool !v), w') := by
  rw [Unary.evalWith, bind_eq_ok_iff]
  simp only [ofExcept_eq_ok_iff, Operator.applyUnary_not_eq_bool_iff]
  constructor
  · rintro ⟨r, u, hx, rfl, rfl⟩
    exact hx
  · intro hx
    exact ⟨.bool !v, w', hx, rfl, rfl⟩

/-- **A logical operator gives a bool** if its left side does, and this one decides the operator or
the right side gives the bool. -/
theorem Expression.evalWith_chain_eq_bool_iff (hop : op.isLogical = true) {left : Expression}
    {right : Comparison} :
    (Expression.chain left op right).evalWith evaluate ctx w = (.ok (.bool v), w') ↔
      ∃ b u, left.evalWith evaluate ctx w = (.ok (.bool b), u) ∧
        if op.isDecidedBy (.bool b) then b = v ∧ u = w'
        else right.evalWith evaluate ctx u = (.ok (.bool v), w') := by
  rw [Expression.evalWith, bind_eq_ok_iff]
  constructor
  · rintro ⟨l, u, hl, h⟩
    split at h
    · rename_i hd
      obtain ⟨b, rfl⟩ := Operator.exists_bool_of_isDecidedBy hd
      refine ⟨b, u, hl, ?_⟩
      rw [if_pos hd]
      simpa using h
    · rename_i hd
      obtain ⟨r, u', hr, hjoin⟩ := bind_eq_ok_iff.mp h
      obtain ⟨happly, rfl⟩ := ofExcept_eq_ok_iff.mp hjoin
      obtain ⟨⟨b, rfl⟩, rfl⟩ :=
        (Operator.applyLogical_eq_bool_iff hop (by simpa using hd)).mp happly
      refine ⟨b, u, hl, ?_⟩
      rwa [if_neg hd]
  · rintro ⟨b, u, hl, h⟩
    refine ⟨.bool b, u, hl, ?_⟩
    split at h
    · rename_i hd
      obtain ⟨rfl, rfl⟩ := h
      rw [if_pos hd]
      rfl
    · rename_i hd
      have happly := (Operator.applyLogical_eq_bool_iff (r := .bool v) hop (by simpa using hd)).mpr
        ⟨⟨b, rfl⟩, rfl⟩
      rw [if_neg hd]
      exact bind_eq_ok_iff.mpr ⟨.bool v, w', h, ofExcept_eq_ok_iff.mpr ⟨happly, rfl⟩⟩

variable {a b : Operand}

/-- What it takes for the negation of two joined expressions to come to a bool. -/
theorem Expression.negatedJoin_eq_bool_iff (hop : op.isLogical = true) :
    (negatedJoin op a b).evalWith evaluate ctx w = (.ok (.bool v), w') ↔
      ∃ c u, a.evalWith evaluate ctx w = (.ok (.bool c), u) ∧
        if op.isDecidedBy (.bool c) then c = !v ∧ u = w'
        else b.evalWith evaluate ctx u = (.ok (.bool !v), w') := by
  rw [negatedJoin, Expression.evalWith, Comparison.evalWith, Unary.evalWith_not_eq_bool_iff,
    Operand.evalWith, evalWith_chain_eq_bool_iff hop]
  rfl

/-- What it takes for two joined negations to come to a bool. -/
theorem Expression.joinedNegations_eq_bool_iff (hop : op.isLogical = true) :
    (joinedNegations op a b).evalWith evaluate ctx w = (.ok (.bool v), w') ↔
      ∃ c u, a.evalWith evaluate ctx w = (.ok (.bool !c), u) ∧
        if op.isDecidedBy (.bool c) then c = v ∧ u = w'
        else b.evalWith evaluate ctx u = (.ok (.bool !v), w') := by
  rw [joinedNegations, evalWith_chain_eq_bool_iff hop]
  simp only [Expression.evalWith, Comparison.evalWith, Unary.evalWith_not_eq_bool_iff]

/-- **A negation can be moved inwards**: the dual operator gives the same bool of the negated
operands, and leaves the same world. -/
theorem Expression.negatedJoin_iff_joinedNegations (hop : op.isLogical = true) :
    (negatedJoin op a b).evalWith evaluate ctx w = (.ok (.bool v), w') ↔
      (joinedNegations op.dual a b).evalWith evaluate ctx w = (.ok (.bool v), w') := by
  rw [negatedJoin_eq_bool_iff hop,
    joinedNegations_eq_bool_iff (Operator.isLogical_dual.trans hop)]
  -- what the first operand gives on the one side is negated on the other
  constructor
  · rintro ⟨c, u, ha, h⟩
    refine ⟨!c, u, by rwa [Bool.not_not], ?_⟩
    rwa [Operator.isDecidedBy_dual, Bool.not_eq_eq_eq_not]
  · rintro ⟨c, u, ha, h⟩
    refine ⟨!c, u, ha, ?_⟩
    rwa [← Operator.isDecidedBy_dual, Bool.not_not, Bool.not_eq_eq_eq_not, Bool.not_not]

/-- **De Morgan's laws.** Whatever the operands are, and however they fail or change the state of
the host: `!(a && b)` comes to a bool exactly if `!a || !b` comes to it, and `!(a || b)` exactly if
`!a && !b` does, and the same calls have then been made, with the same results and the same state
left to the host. -/
theorem de_morgan (depth : Nat) (ctx : Context σ) (a b : Operand) (v : Bool) (w w' : World σ) :
    ((Expression.negatedJoin .and a b).eval depth ctx w = (.ok (.bool v), w') ↔
        (Expression.joinedNegations .or a b).eval depth ctx w = (.ok (.bool v), w')) ∧
      ((Expression.negatedJoin .or a b).eval depth ctx w = (.ok (.bool v), w') ↔
        (Expression.joinedNegations .and a b).eval depth ctx w = (.ok (.bool v), w')) :=
  ⟨Expression.negatedJoin_iff_joinedNegations rfl, Expression.negatedJoin_iff_joinedNegations rfl⟩

example : Expression.parse "!(@f() && $)" =
      .ok (.negatedJoin .and (.call "@f" []) (.reference "" [])) ∧
    Expression.parse "!@f() || !$" =
      .ok (.joinedNegations .or (.call "@f" []) (.reference "" [])) := by
  constructor <;> with_unfolding_all rfl

end Results

end Criteria
