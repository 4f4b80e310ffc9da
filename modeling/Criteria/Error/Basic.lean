import Criteria.Error.Cause
import Criteria.Expression.Parser
import Criteria.Pattern.Fault

/-!
# Errors

An error says what went wrong while a criterion was read, a context was built or an expression
was evaluated. Its **variant** tells the sorts of errors apart, its **kind** is a coarser division
for hosts that only need to know what happened, and its message is the variant's wording around
the detail of the case. Hosts report errors of their own by a variant and a detail.
-/

namespace Criteria

/-- The sorts of errors. -/
inductive ErrorVariant where
  /-- A text that is not an expression. -/
  | grammar
  | arity
  | regex
  | typeMismatch
  | unsupportedType
  | unsupportedOperator
  | missingKey
  | indexOutOfRange
  | invalidFunction
  | duplicateFunction
  /-- An error of a host function. -/
  | function
  | unexpected
  deriving DecidableEq

/-- What happened, for hosts that do not need the details. -/
inductive ErrorKind where
  | grammar
  | typeMismatch
  | unsupportedType
  | unsupportedOperator
  | missingKey
  | indexOutOfRange
  | invalidFunction
  | duplicateFunction
  | function
  | unexpected
  deriving DecidableEq

namespace ErrorVariant

/-- Wrong counts of arguments and patterns that cannot be read count as errors of the text. -/
def kind : ErrorVariant → ErrorKind
  | grammar | arity | regex => .grammar
  | typeMismatch => .typeMismatch
  | unsupportedType => .unsupportedType
  | unsupportedOperator => .unsupportedOperator
  | missingKey => .missingKey
  | indexOutOfRange => .indexOutOfRange
  | invalidFunction => .invalidFunction
  | duplicateFunction => .duplicateFunction
  | function => .function
  | unexpected => .unexpected

/-- The words around the detail of an error. -/
def wording (v : ErrorVariant) (detail : String) : String :=
  match v with
  | grammar | arity => "syntax error: " ++ detail
  | regex => "invalid regular expression: " ++ detail
  | typeMismatch => "type mismatch: " ++ detail
  | unsupportedType => "unsupported type: " ++ detail
  | unsupportedOperator => "unsupported operator " ++ quoted detail
  | missingKey => "variable segment " ++ quoted detail ++ " does not map to context data"
  | indexOutOfRange => detail
  | invalidFunction => "invalid function: " ++ detail
  | duplicateFunction => "function name " ++ quoted detail ++ " already in use"
  | function => detail
  | unexpected => "unexpected error: " ++ detail

end ErrorVariant

/-- What went wrong. -/
inductive Error where
  | parse (e : ParseError)
  | arity (function : String) (expected got : Nat)
  | regex (fault : PatternFault)
  | mismatch (cause : Mismatch)
  | unsupported (cause : Unsupported)
  | unsupportedOperator (op : Operator)
  | missingKey (segment : String)
  | indexOutOfRange (segment : String) (index length : Nat)
  | invalidFunction (cause : InvalidName)
  | duplicateFunction (name : String)
  /-- More elements than an integer can count. -/
  | hugeArray (length : Nat)
  /-- An error in the words of a host. -/
  | reported (variant : ErrorVariant) (detail : String)
  deriving DecidableEq

namespace Error

/-- The variant of an error, which decides on its wording. -/
def variant : Error → ErrorVariant
  | parse _ => .grammar
  | arity .. => .arity
  | regex _ => .regex
  | mismatch _ => .typeMismatch
  | unsupported _ => .unsupportedType
  | unsupportedOperator _ => .unsupportedOperator
  | missingKey _ => .missingKey
  | indexOutOfRange .. => .indexOutOfRange
  | invalidFunction _ => .invalidFunction
  | duplicateFunction _ => .duplicateFunction
  | hugeArray _ => .unexpected
  | reported v _ => v

/-- The kind of an error, as hosts see it. -/
def kind (e : Error) : ErrorKind := e.variant.kind

/-- What is particular to the case. -/
def detail : Error → String
  | parse e => e.message
  | arity function expected got =>
    "wrong number of arguments for " ++ function ++ ", expected " ++ toString expected ++
      ", got " ++ toString got
  | regex fault => fault.message
  | mismatch cause => cause.message
  | unsupported cause => cause.message
  | unsupportedOperator op => op.symbol
  | missingKey segment => segment
  | indexOutOfRange segment index length =>
    "index " ++ toString index ++ " out of range in " ++ quoted segment ++ " (length " ++
      toString length ++ ")"
  | invalidFunction cause => cause.message
  | duplicateFunction name => name
  | hugeArray length => "array of " ++ toString length ++ " elements"
  | reported _ detail => detail

/-- What is told about an error. -/
def message (e : Error) : String := e.variant.wording e.detail

end Error

end Criteria
