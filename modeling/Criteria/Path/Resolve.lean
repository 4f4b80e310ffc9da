import Criteria.Datum.Basic
import Criteria.Error.Basic

/-!
# Resolving paths

A path is followed from the root of the data, one segment at a time. An index is used on the
field that the key names, or, without a key, on the data reached so far; arrays take the index
themselves whatever the key is. Scalars lead to themselves. **Every segment but the last has to
lead to an object.**
-/

namespace Criteria.Segment

/-- The element of an array at a position. -/
def element (s : Segment) (items : List Datum) (n : Nat) : Except Error Datum :=
  match items[n]? with
  | some item => .ok item
  | none => .error (.indexOutOfRange s.text n items.length)

/-- Follows a segment from an array. -/
def fromArray (s : Segment) (items : List Datum) : Except Error Datum :=
  match s.index with
  | some (.position n) => s.element items n
  | some (.key _) => .error (.mismatch (.quotedKey s "an array"))
  | none => .ok (.array items)

/-- The field that an object has under a key of the segment. -/
def field (s : Segment) (fields : Fields Datum) (key : String) : Except Error Datum :=
  match fields.get? key with
  | some value => .ok value
  | none => .error (.missingKey s.text)

/-- Follows a quoted key from the field that the segment names. -/
def fieldOfField (s : Segment) (fields : Fields Datum) (key : String) : Except Error Datum :=
  match fields.get? s.key with
  | some (.object inner) => s.field inner key
  | some other => .error (.mismatch (.quotedKey s other.kindName))
  | none => .error (.missingKey s.key)

/-- Follows a position from the field that the segment names. -/
def elementOfField (s : Segment) (fields : Fields Datum) (n : Nat) : Except Error Datum :=
  match fields.get? s.key with
  | some (.array items) => s.element items n
  | some other => .error (.mismatch (.position s other.kindName))
  | none => .error (.missingKey s.key)

/-- Follows a segment from an object. -/
def fromObject (s : Segment) (fields : Fields Datum) : Except Error Datum :=
  match s.index with
  | none => s.field fields s.key
  | some (.key key) =>
    if s.key.isEmpty then s.field fields key else s.fieldOfField fields key
  | some (.position n) =>
    if s.key.isEmpty then .error (.mismatch (.position s "an object"))
    else s.elementOfField fields n

/-- Follows a segment from any data. -/
def resolve (s : Segment) (d : Datum) : Except Error Datum :=
  match d with
  | .array items => s.fromArray items
  | .object fields => s.fromObject fields
  | scalar => .ok scalar

end Criteria.Segment

namespace Criteria.Path

/-- The data that a path leads to from a root. -/
def resolve : Path → Datum → Except Error Datum
  | [], root => .ok root
  | [s], root => s.resolve root
  | s :: next :: rest, root =>
    match s.resolve root with
    | .error e => .error e
    | .ok d =>
      if d.isObject then resolve (next :: rest) d
      else .error (.mismatch (.landing s d.kindName next))

end Criteria.Path
