import Criteria.Datum.Basic

/-!
# Valid data

Data that serves as the root of a context has to be **valid**: no float in it is infinite or
NaN, and no array has an array among its direct elements. Arrays inside objects inside arrays
are fine.
-/

namespace Criteria

/-- Why data is not valid. -/
inductive Defect where
  | nonFinite (x : Binary64)
  | nestedArray
  deriving DecidableEq

namespace Datum

mutual

/-- Checks data for validity and reports the first defect, from left to right. -/
def validate : Datum → Except Defect Unit
  | .nil => .ok ()
  | .bool _ => .ok ()
  | .integer _ => .ok ()
  | .float x => if x.isFinite then .ok () else .error (.nonFinite x)
  | .string _ => .ok ()
  | .array items => validateItems items
  | .object fields => validateFields fields

/-- Checks the elements of an array. -/
def validateItems : List Datum → Except Defect Unit
  | [] => .ok ()
  | item :: rest =>
    if item.isArray then .error .nestedArray
    else match validate item with
      | .error e => .error e
      | .ok () => validateItems rest

/-- Checks the values of an object. -/
def validateFields : List (String × Datum) → Except Defect Unit
  | [] => .ok ()
  | (_, value) :: rest =>
    match validate value with
    | .error e => .error e
    | .ok () => validateFields rest

end

end Datum

end Criteria
