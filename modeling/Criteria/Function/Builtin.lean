import Criteria.Evaluation.Basic
import Criteria.Pattern.Match
import Criteria.Pattern.Reader
import Criteria.Value

/-!
# Builtin functions

Every context has six functions:

* `@len(array)`, the count of elements;
* `@select(array, "predicate")`, the elements for which a criterion is true, with `$` as the
  element;
* `@array(v, …)`, its arguments as an array;
* `@in(array, v)`, whether an element equals a value;
* `@has(object, "key")`, whether a key is there, even if it holds nil;
* `@match(text, /pattern/)`, whether a pattern is found in a text.

How a predicate of `@select` is evaluated for an element is a parameter here. How the pattern of
`@match` is read and found is the business of `Criteria.Pattern`, which this module calls at one
place (`Criteria.Builtin.search`). What is proved of evaluations takes from there only that a search
says yes or no, or reports a fault of the pattern. It would hold of any other engine as well.
-/

namespace Criteria

/-- The functions that every context has. -/
inductive Builtin where
  | len
  | select
  | array
  | member
  | has
  | found
  deriving DecidableEq

namespace Builtin

/-- The name under which a builtin function is called. -/
def name : Builtin → String
  | len => "@len"
  | select => "@select"
  | array => "@array"
  | member => "@in"
  | has => "@has"
  | found => "@match"

/-- The builtin functions by ascending name. -/
def all : List Builtin := [array, has, member, len, found, select]

/-- The builtin function with a name. -/
def ofName? (s : String) : Option Builtin := all.find? (·.name == s)

/-! ### Arguments -/

/-- The elements of an array. -/
def items (function place : String) : Datum → Except Error (List Datum)
  | .array items => .ok items
  | other => .error (.mismatch (.argument function "an array" place other.kindName))

/-- The text of a string. -/
def text (function place : String) (d : Datum) : Except Error String :=
  match d.text? with
  | some s => .ok s
  | none => .error (.mismatch (.argument function "a string" place d.kindName))

/-- The fields of an object. -/
def fields (function place : String) : Datum → Except Error (Fields Datum)
  | .object fields => .ok fields
  | other => .error (.mismatch (.argument function "an object" place other.kindName))

/-! ### What they do -/

/-- The count of the elements of an array. -/
def count (d : Datum) : Except Error Datum := do
  let elements ← items "@len" "first" d
  if elements.length < 0x8000000000000000 then pure (.integer (.ofNat elements.length))
  else .error (.hugeArray elements.length)

/-- Whether an element equals a value of its own kind. Integers and floats are of one kind;
elements of another kind than the value are a mismatch. -/
def sameScalar (element value : Datum) : Except Error Bool :=
  match element, value with
  | .string s, .string t => .ok (s == t)
  | .bool a, .bool b => .ok (a == b)
  | element, value =>
    match element.number?, value.number? with
    | some x, some y => .ok (x.equals y)
    | _, _ =>
      match element with
      | .integer _ | .float _ | .string _ | .bool _ =>
        .error (.mismatch (.membership element.kindName value.kindName))
      | _ => .error (.unsupported (.element element.kindName))

/-- Whether an element equals a value; the elements behind the first such one are not looked
at. -/
def containsValue (value : Datum) : List Datum → Except Error Bool
  | [] => .ok false
  | element :: rest =>
    match sameScalar element value with
    | .error e => .error e
    | .ok true => .ok true
    | .ok false => containsValue value rest

/-- The elements for which a test says yes, in their order. -/
def keepItems (test : Datum → Except Stop Bool) : List Datum → Except Stop (List Datum)
  | [] => .ok []
  | item :: rest =>
    match test item with
    | .error s => .error s
    | .ok keep =>
      match keepItems test rest with
      | .error s => .error s
      | .ok kept => .ok (if keep then item :: kept else kept)

/-- The bool that a predicate gave for an element. -/
def verdict (source : String) : Value → Except Error Bool
  | .bool b => .ok b
  | other => .error (.mismatch (.predicateNotBool source other.kindName))

/-- Whether a predicate is true for an element. -/
def test (evaluate : Expression → Datum → Except Stop Value) (source : String)
    (tree : Expression) (item : Datum) : Except Stop Bool :=
  match evaluate tree item with
  | .error s => .error s
  | .ok v => (verdict source v).mapError .error

/-- The elements for which a predicate is true. The predicate is read first, even if there is no
element. -/
def selection (evaluate : Expression → Datum → Except Stop Value) (elements : List Datum)
    (source : String) : Except Stop Datum :=
  match Expression.parse source with
  | .error e => .error (.error (.parse e))
  | .ok tree => (keepItems (test evaluate source tree) elements).map .array

/-- Whether the pattern that a text describes is found in another text. Nothing that is proved of
evaluations opens `Pattern.read` or `Pattern.isFoundIn`. -/
def search (text pattern : String) : Except Error Datum :=
  match Pattern.read pattern with
  | .error fault => .error (.regex fault)
  | .ok p => .ok (.bool (p.isFoundIn text))

/-- Applies a builtin function to its arguments. The count of the arguments is checked first, then
their kinds from left to right. -/
def apply (evaluate : Expression → Datum → Except Stop Value) (b : Builtin)
    (arguments : List Datum) : Except Stop Datum :=
  match b, arguments with
  | array, arguments => .ok (.array arguments)
  | len, [d] => (count d).mapError .error
  | len, arguments => .error (.error (.arity "@len" 1 arguments.length))
  | select, [d, predicate] =>
    match items "@select" "first" d, text "@select" "second" predicate with
    | .ok elements, .ok source => selection evaluate elements source
    | .error e, _ => .error (.error e)
    | _, .error e => .error (.error e)
  | member, [d, value] =>
    match items "@in" "first" d with
    | .error e => .error (.error e)
    | .ok elements => ((containsValue value elements).map .bool).mapError .error
  | has, [d, key] =>
    match fields "@has" "first" d, text "@has" "second" key with
    | .ok fields, .ok key => .ok (.bool (fields.contains key))
    | .error e, _ => .error (.error e)
    | _, .error e => .error (.error e)
  | found, [d, pattern] =>
    match text "@match" "first" d, text "@match" "second" pattern with
    | .ok s, .ok pattern => (search s pattern).mapError .error
    | .error e, _ => .error (.error e)
    | _, .error e => .error (.error e)
  | b, arguments => .error (.error (.arity b.name 2 arguments.length))

end Builtin

end Criteria
