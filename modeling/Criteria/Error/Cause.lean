import Criteria.Datum.Validity
import Criteria.Number.Layout
import Criteria.Operator
import Criteria.Path.Basic
import Criteria.Text.Quoted

/-!
# Causes of errors

What exactly was wrong when operands, arguments or data did not have the kind that was called
for. Kinds are held by their names.
-/

namespace Criteria

/-- Operands, arguments or data of the wrong kind. -/
inductive Mismatch where
  /-- A segment that is not the last led to something that is not an object. -/
  | landing (segment : Segment) (kind : String) (next : Segment)
  /-- A quoted key where there is no object; `holder` says what is there. -/
  | quotedKey (segment : Segment) (holder : String)
  /-- A position where there is no array; `holder` says what is there. -/
  | position (segment : Segment) (holder : String)
  /-- A negation of something that is not a bool. -/
  | negation (kind : String)
  | operands (op : Operator) (left right : String)
  | argument (function wanted place got : String)
  /-- Elements and a value that `@in` cannot compare. -/
  | membership (element value : String)
  | notBool (kind : String)
  | predicateNotBool (source kind : String)
  deriving DecidableEq

/-- What is told about a mismatch of kinds. -/
def Mismatch.message : Mismatch → String
  | landing segment kind next =>
    "segment " ++ segment.text ++ " resolved to " ++ kind ++ " but " ++ next.text ++
      " expects an object"
  | quotedKey segment holder => "cannot use quoted key " ++ segment.text ++ " on " ++ holder
  | position segment holder => "cannot use array index " ++ segment.text ++ " on " ++ holder
  | negation kind => "cannot apply ! to " ++ kind
  | operands op left right => "cannot apply " ++ op.symbol ++ " to " ++ left ++ " and " ++ right
  | argument function wanted place got =>
    function ++ " expects " ++ wanted ++ " as " ++ place ++ " argument, got " ++ got
  | membership element value => "@in cannot compare " ++ element ++ " with " ++ value
  | notBool kind => "expression produced " ++ kind ++ ", expected bool"
  | predicateNotBool source kind =>
    "@select predicate " ++ quoted source ++ " returned " ++ kind ++ ", expected bool"

/-- Data that the engine does not support. -/
inductive Unsupported where
  | defect (d : Defect)
  /-- Elements that `@in` does not look into. -/
  | element (kind : String)
  deriving DecidableEq

/-- What is told about data that is not supported. -/
def Unsupported.message : Unsupported → String
  | defect (.nonFinite x) => "non-finite number " ++ NumberLayout.plain.write x ++ " in data"
  | defect .nestedArray => "arrays may not contain arrays"
  | element kind => "@in does not support " ++ kind ++ " elements"

/-- Why a function name does not lead to a function. -/
inductive InvalidName where
  /-- Nothing is registered under the name. -/
  | unknown (name : String)
  /-- Nothing can be registered under the name. -/
  | malformed (name : String)
  deriving DecidableEq

/-- What is told about a name that leads to no function. -/
def InvalidName.message : InvalidName → String
  | unknown name => "unknown function " ++ name
  | malformed name => quoted name ++ " is not a valid function name"

end Criteria
