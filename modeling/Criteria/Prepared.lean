import Criteria.Evaluation.Expression

/-!
# Criteria

A criterion is a text that is read once and evaluated any number of times. As a yes-or-no
question it has to give a bool; as a value it may give anything.
-/

namespace Criteria

variable {σ : Type}

/-- How many predicates of `@select` may always be open at once. -/
def selectionLimit : Nat := 1000

/-- How many predicates of `@select` may be open at once while a text is evaluated. Predicates that
are written into one another get shorter from level to level, so they never exceed this bound. -/
def selectionDepth (text : String) : Nat := max selectionLimit text.length

/-- A text with the tree that it was read as. -/
structure Prepared where
  source : String
  tree : Expression

/-- Reads a text, with the error of the library if it cannot be read. -/
def parse (text : String) : Except Error Expression := (Expression.parse text).mapError .parse

namespace Prepared

/-- Reads a criterion. -/
def ofText (text : String) : Except Error Prepared := (parse text).map (⟨text, ·⟩)

/-- Evaluates a criterion to whatever it gives. -/
def evaluateValue (ctx : Context σ) (p : Prepared) : Evaluation σ Value :=
  p.tree.eval (selectionDepth p.source) ctx

/-- The bool that a criterion gave. -/
def expectBool : Value → Except Error Bool
  | .bool b => .ok b
  | other => .error (.mismatch (.notBool other.kindName))

/-- Evaluates a criterion to a bool, with at most `depth` predicates open at once. -/
def evaluateWithin (depth : Nat) (ctx : Context σ) (p : Prepared) : Evaluation σ Bool := do
  let v ← p.tree.eval depth ctx
  .ofExcept (expectBool v)

/-- Evaluates a criterion to a bool. -/
def evaluate (ctx : Context σ) (p : Prepared) : Evaluation σ Bool :=
  p.evaluateWithin (selectionDepth p.source) ctx

/-- Criteria are equal when their texts and trees are. -/
def equals (p q : Prepared) : Bool := p.source == q.source && p.tree.equals q.tree

end Prepared

/-- Reads a text and evaluates it to a bool, with at most `depth` predicates open at once. -/
def evaluateWithin (depth : Nat) (ctx : Context σ) (text : String) : Evaluation σ Bool :=
  match Prepared.ofText text with
  | .error e => .stop (.error e)
  | .ok p => p.evaluateWithin depth ctx

/-- Reads a text and evaluates it to a bool. -/
def evaluate (ctx : Context σ) (text : String) : Evaluation σ Bool :=
  evaluateWithin (selectionDepth text) ctx text

/-- Reads a text and evaluates it to a bool against data, with the builtin functions only and at
most `depth` predicates open at once. The data is checked first. -/
def evaluateDataWithin (depth : Nat) (data : Datum) (text : String) : Except Stop Bool :=
  match (Context.ofDatum data : Except Error (Context Unit)) with
  | .error e => .error (.error e)
  | .ok ctx => (evaluateWithin depth ctx text ⟨(), []⟩).1

/-- Reads a text and evaluates it to a bool against data, with the builtin functions only. -/
def evaluateData (data : Datum) (text : String) : Except Stop Bool :=
  evaluateDataWithin (selectionDepth text) data text

end Criteria
