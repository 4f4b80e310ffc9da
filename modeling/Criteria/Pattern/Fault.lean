/-!
# Faults of patterns

The reasons why a text is not a pattern.
-/

namespace Criteria

/-- Why a text is not a pattern. -/
inductive PatternFault where
  | unclosedGroup
  | unopenedGroup
  | unclosedClass
  | invalidClass
  | nothingToRepeat
  | invalidCount
  | invalidEscape
  | invalidFlag
  | invalidGroupName
  | duplicateGroupName
  | lookAround
  | nestedTooDeep
  deriving DecidableEq

/-- What is told about a text that is no pattern. -/
def PatternFault.message : PatternFault → String
  | unclosedGroup => "unclosed group"
  | unopenedGroup => "unopened group"
  | unclosedClass => "unclosed character class"
  | invalidClass => "invalid character class"
  | nothingToRepeat => "repetition operator missing expression"
  | invalidCount => "invalid repetition count"
  | invalidEscape => "unrecognized escape sequence"
  | invalidFlag => "unrecognized flag"
  | invalidGroupName => "invalid capture group name"
  | duplicateGroupName => "duplicate capture group name"
  | lookAround => "look-around is not supported"
  | nestedTooDeep => "pattern nested too deeply"

end Criteria
