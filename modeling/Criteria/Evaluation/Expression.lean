import Criteria.Context
import Criteria.Operator.Apply
import Criteria.Path.Resolve

/-!
# Evaluating expressions

A tree is evaluated from left to right. A logical operator whose left side decides it leaves out
its right side, and only that: the chain goes on behind it. A call looks its function up before
its arguments are evaluated, and functions receive data in which every number is a float.

The predicates of `@select` are evaluated against contexts of their own, which have the builtin
functions only. A predicate may call `@select` in turn, and nothing bounds how often, so **the
depth of predicates that are open at once is a parameter** of evaluation.
-/

namespace Criteria

variable {σ : Type}

/-- Calls a function. -/
def Function.call (evaluate : Expression → Datum → Except Stop Value) (name : String)
    (arguments : List Datum) : Function σ → Evaluation σ Datum
  | .builtin b => .ofOutcome (b.apply evaluate arguments)
  | .host f => .callHost name f arguments

/-- The value of a variable. -/
def Context.lookUp (ctx : Context σ) (path : Path) : Except Error Value :=
  (path.resolve ctx.data).map Value.ofDatum

section Tree

variable (evaluate : Expression → Datum → Except Stop Value) (ctx : Context σ)

mutual

/-- Evaluates an expression. What stands to the right of a logical operator is left out if the left
side decides. -/
def Expression.evalWith : Expression → Evaluation σ Value
  | .term t => t.evalWith
  | .chain left op right => do
    let v ← Expression.evalWith left
    if op.isDecidedBy v then pure v
    else do
      let w ← right.evalWith
      .ofExcept (op.applyLogical v w)

/-- Evaluates a comparison, both sides of each operator from left to right. -/
def Comparison.evalWith : Comparison → Evaluation σ Value
  | .term t => t.evalWith
  | .chain left op right => do
    let v ← Comparison.evalWith left
    let w ← right.evalWith
    .ofExcept (op.applyComparison v w)

/-- Evaluates an operand and applies the operator before it. -/
def Unary.evalWith : Unary → Evaluation σ Value
  | .plain x => x.evalWith
  | .applied op x => do
    let v ← x.evalWith
    .ofExcept (op.applyUnary v)

/-- Evaluates an operand; a call evaluates its arguments first. -/
def Operand.evalWith : Operand → Evaluation σ Value
  | .number x => pure (.number x)
  | .string s => pure (.string s)
  | .boolean b => pure (.bool b)
  | .nil => pure .nil
  | .regex pattern => pure (.string pattern)
  | .reference _ path => .ofExcept (ctx.lookUp path)
  | .call name arguments =>
    match ctx.function? name with
    | none => .stop (.error (.invalidFunction (.unknown name)))
    | some f => do
      let data ← Operand.argumentsWith arguments
      let d ← f.call evaluate name data
      pure (Value.ofDatum d)
  | .group e => e.evalWith

/-- The data of arguments, evaluated from left to right. -/
def Operand.argumentsWith : List Expression → Evaluation σ (List Datum)
  | [] => pure []
  | e :: rest => do
    let v ← e.evalWith
    let ds ← Operand.argumentsWith rest
    pure (v.toDatum :: ds)

end

end Tree

/-- Evaluates a predicate for an element; at most `depth` predicates, this one among them, may be
open at once. -/
def evaluatePredicate : Nat → Expression → Datum → Except Stop Value
  | 0, _, _ => .error .exhausted
  | depth + 1, tree, item =>
    match (Context.ofDatum item : Except Error (Context Unit)) with
    | .error e => .error (.error e)
    | .ok ctx => (tree.evalWith (evaluatePredicate depth) ctx ⟨(), []⟩).1

/-- Evaluates a tree, with at most `depth` predicates open at once. -/
def Expression.eval (depth : Nat) (ctx : Context σ) (tree : Expression) : Evaluation σ Value :=
  tree.evalWith (evaluatePredicate depth) ctx

/-- Applies a builtin function, with at most `depth` predicates open at once. -/
def Builtin.run (depth : Nat) (b : Builtin) (arguments : List Datum) : Except Stop Datum :=
  b.apply (evaluatePredicate depth) arguments

end Criteria
