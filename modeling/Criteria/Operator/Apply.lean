import Criteria.Error.Basic
import Criteria.Value

/-!
# Applying operators

An operator that stands in a place of another level, which only happens in trees made by hand,
is not supported there; operands of the wrong kinds are a mismatch. Numbers and strings are
ordered, strings by code points. Equality also compares bools, and **against nil it compares
whether both sides are nil**, whatever the other side is.
-/

namespace Criteria.Operator

/-- Applies an operator in front of an operand. -/
def applyUnary (op : Operator) (v : Value) : Except Error Value :=
  if op = .not then
    match v with
    | .bool b => .ok (.bool !b)
    | other => .error (.mismatch (.negation other.kindName))
  else .error (.unsupportedOperator op)

/-- The mismatch of two operands. -/
def mismatch (op : Operator) (left right : Value) : Error :=
  .mismatch (.operands op left.kindName right.kindName)

/-- Whether two values are equal, if they can be compared. -/
def equality? (left right : Value) : Option Bool :=
  match left, right with
  | .number x, .number y => some (x.equals y)
  | .string s, .string t => some (s == t)
  | .bool a, .bool b => some (a == b)
  | l, r => if l.isNil || r.isNil then some (l.isNil == r.isNil) else none

/-- The order of two texts. -/
def compareTexts (s t : String) : Ordering :=
  if s < t then .lt else if s = t then .eq else .gt

/-- How two values are ordered, if they can be ordered: `none` inside when one of them is NaN. -/
def ordering? (left right : Value) : Option (Option Ordering) :=
  match left, right with
  | .number x, .number y => some (x.order? y)
  | .string s, .string t => some (some (compareTexts s t))
  | _, _ => none

/-- Whether an order is one that an ordering operator asks for. -/
def admits (op : Operator) (o : Ordering) : Bool :=
  match op with
  | less => o.isLT
  | lessEqual => o.isLE
  | greater => o.isGT
  | greaterEqual => o.isGE
  | _ => false

/-- Applies a comparison operator. -/
def applyComparison (op : Operator) (left right : Value) : Except Error Value :=
  if op = .equal || op = .notEqual then
    match equality? left right with
    | some b => .ok (.bool (if op = .equal then b else !b))
    | none => .error (mismatch op left right)
  else if op.isOrdering then
    match ordering? left right with
    | some (some o) => .ok (.bool (op.admits o))
    | some none => .ok (.bool false)
    | none => .error (mismatch op left right)
  else .error (.unsupportedOperator op)

/-- Applies a logical operator to operands that have both been evaluated. -/
def applyLogical (op : Operator) (left right : Value) : Except Error Value :=
  if op.isLogical then
    match left, right with
    | .bool a, .bool b => .ok (.bool (if op = .and then a && b else a || b))
    | l, r => .error (mismatch op l r)
  else .error (.unsupportedOperator op)

/-- Whether a left operand decides a logical operator, so that the right one is left out. -/
def isDecidedBy (op : Operator) (left : Value) : Bool :=
  match op, left with
  | and, .bool b => !b
  | or, .bool b => b
  | _, _ => false

end Criteria.Operator
