/-!
# Paths

A variable names a place in the data by a **path**, a list of segments. A segment is a key, an
index in brackets, or both: `items`, `["k-1"]`, `items[2]`.
-/

namespace Criteria

/-- What stands in the brackets of a segment. -/
inductive Index where
  /-- The key of a field. -/
  | key (field : String)
  /-- The place of an element, counted from zero. -/
  | position (n : Nat)
  deriving DecidableEq

/-- A piece of a path between two points. The key is empty if the piece is only an index. -/
structure Segment where
  key : String
  index : Option Index
  deriving DecidableEq

/-- A place in the data, seen from the root; the root itself has the empty path. -/
abbrev Path := List Segment

namespace Segment

/-- How a segment is written. -/
def text (s : Segment) : String :=
  match s.index with
  | some (.key field) => s.key ++ "[\"" ++ field ++ "\"]"
  | some (.position n) => s.key ++ "[" ++ toString n ++ "]"
  | none => s.key

end Segment

/-- How a path is written. -/
def Path.text (p : Path) : String := ".".intercalate (p.map Segment.text)

end Criteria
