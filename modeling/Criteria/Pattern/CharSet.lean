import Criteria.Text.Blank
import Criteria.Text.Folding
import Criteria.Text.Word

/-!
# Sets of characters in patterns

A set is described by how it was written: ranges of code points, and what is made of them by
joining, intersecting, subtracting, complementing, and adding case variants. Whether a character
belongs to it is decided by following the description.
-/

namespace Criteria

/-- A set of code points. -/
inductive CharSet where
  | ranges (rs : List (Nat × Nat))
  | union (s t : CharSet)
  | inter (s t : CharSet)
  | diff (s t : CharSet)
  | symmDiff (s t : CharSet)
  | compl (s : CharSet)
  /-- The set together with the characters that differ from one of its members in case only. -/
  | folded (s : CharSet)

namespace CharSet

/-- Whether a code point lies in a set. -/
def contains : CharSet → Nat → Bool
  | ranges rs, n => rs.any fun r => r.1 ≤ n && n ≤ r.2
  | union s t, n => s.contains n || t.contains n
  | inter s t, n => s.contains n && t.contains n
  | diff s t, n => s.contains n && !t.contains n
  | symmDiff s t, n => s.contains n != t.contains n
  | compl s, n => !s.contains n
  | folded s, n => (caseVariants n).any s.contains

/-- The set without characters. -/
def empty : CharSet := ranges []

/-- The set of all characters. -/
def all : CharSet := compl empty

/-- The set of one character. -/
def single (n : Nat) : CharSet := ranges [(n, n)]

/-- The complement of a set if asked for. -/
def negateIf (b : Bool) (s : CharSet) : CharSet := if b then compl s else s

/-- The set with the case variants of its members if asked for. -/
def foldIf (b : Bool) (s : CharSet) : CharSet := if b then folded s else s

/-! ### Named sets -/

/-- Decimal digits of all scripts, or of ASCII only. -/
def digit (unicode : Bool) : CharSet :=
  if unicode then ranges decimalRanges.ranges else ranges [(0x30, 0x39)]

/-- White space of all scripts, or of ASCII only. -/
def space (unicode : Bool) : CharSet :=
  if unicode then ranges blankRanges.ranges else ranges [(0x09, 0x0D), (0x20, 0x20)]

/-- The letters, digits and underscore of ASCII. -/
def asciiWord : CharSet := ranges [(0x30, 0x39), (0x41, 0x5A), (0x5F, 0x5F), (0x61, 0x7A)]

/-- Word characters of all scripts, or of ASCII only. -/
def word (unicode : Bool) : CharSet :=
  if unicode then ranges wordRanges.ranges else asciiWord

/-- The sets of ASCII characters that have a name between colons. -/
def named? (name : String) : Option CharSet :=
  match name with
  | "alnum" => some (ranges [(0x30, 0x39), (0x41, 0x5A), (0x61, 0x7A)])
  | "alpha" => some (ranges [(0x41, 0x5A), (0x61, 0x7A)])
  | "ascii" => some (ranges [(0x00, 0x7F)])
  | "blank" => some (ranges [(0x09, 0x09), (0x20, 0x20)])
  | "cntrl" => some (ranges [(0x00, 0x1F), (0x7F, 0x7F)])
  | "digit" => some (ranges [(0x30, 0x39)])
  | "graph" => some (ranges [(0x21, 0x7E)])
  | "lower" => some (ranges [(0x61, 0x7A)])
  | "print" => some (ranges [(0x20, 0x7E)])
  | "punct" => some (ranges [(0x21, 0x2F), (0x3A, 0x40), (0x5B, 0x60), (0x7B, 0x7E)])
  | "space" => some (ranges [(0x09, 0x0D), (0x20, 0x20)])
  | "upper" => some (ranges [(0x41, 0x5A)])
  | "word" => some asciiWord
  | "xdigit" => some (ranges [(0x30, 0x39), (0x41, 0x46), (0x61, 0x66)])
  | _ => none

/-- Any character, or any that does not end a line. -/
def dot (dotAll crlf : Bool) : CharSet :=
  if dotAll then all
  else if crlf then compl (ranges [(0x0A, 0x0A), (0x0D, 0x0D)])
  else compl (ranges [(0x0A, 0x0A)])

end CharSet

end Criteria
