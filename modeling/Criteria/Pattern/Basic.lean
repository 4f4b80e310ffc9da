import Criteria.Pattern.CharSet

/-!
# Patterns

A pattern describes pieces of texts. Groups and the difference between greedy and lazy
repetition leave no trace here: they do not matter for whether a pattern is found in a text.
-/

namespace Criteria

/-- A condition on the place between two characters. -/
inductive Assertion where
  | textStart
  | textEnd
  | lineStart
  | lineEnd
  /-- The beginning of a line where a carriage return ends lines as well. -/
  | crlfLineStart
  /-- The end of a line where a carriage return ends lines as well. -/
  | crlfLineEnd
  /-- A word character on one side only. -/
  | wordBoundary (unicode : Bool)
  | notWordBoundary (unicode : Bool)
  | wordStart (unicode : Bool)
  | wordEnd (unicode : Bool)
  /-- No word character before the place. -/
  | wordStartHalf (unicode : Bool)
  /-- No word character behind the place. -/
  | wordEndHalf (unicode : Bool)
  deriving DecidableEq

/-- A description of pieces of texts. -/
inductive Pattern where
  | empty
  | char (set : CharSet)
  | assertion (a : Assertion)
  | seq (p q : Pattern)
  | alt (p q : Pattern)
  /-- At least `least` pieces one behind the other, and at most `most` if that is given. -/
  | repeated (p : Pattern) (least : Nat) (most : Option Nat)

end Criteria
