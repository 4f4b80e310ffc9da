import Criteria.Fields
import Criteria.Number.Binary64

/-!
# JSON values

A JSON number is an integer, if it is written as one, or a finite float. JSON has no other
numbers, so the finiteness of a float is part of the value.
-/

namespace Criteria

/-- A JSON value. -/
inductive Json where
  | null
  | bool (b : Bool)
  | integer (n : Int)
  | float (x : Binary64) (finite : x.isFinite = true)
  | string (s : String)
  | array (items : List Json)
  | object (fields : List (String × Json))

instance : Inhabited Json := ⟨.null⟩

namespace Json

/-- The float of a number, and null for the numbers that JSON does not have. -/
def ofNumber (x : Binary64) : Json :=
  if h : x.isFinite = true then .float x h else .null

/-! ### Induction -/

/-- An element is smaller than its array. -/
theorem sizeOf_lt_array {item : Json} {items : List Json} (h : item ∈ items) :
    sizeOf item < sizeOf (array items) := by
  have hitem := List.sizeOf_lt_of_mem h
  rw [array.sizeOf_spec]
  omega

/-- What is under a key is smaller than its object. -/
theorem sizeOf_lt_object {field : String × Json} {fields : List (String × Json)}
    (h : field ∈ fields) : sizeOf field.2 < sizeOf (object fields) := by
  have hfield := List.sizeOf_lt_of_mem h
  have hvalue : sizeOf field = 1 + sizeOf field.1 + sizeOf field.2 := rfl
  rw [object.sizeOf_spec]
  omega

/-- What holds of a JSON value whenever it holds of its elements, or of its fields, holds of all
JSON values. -/
@[elab_as_elim]
theorem inductionOn {motive : Json → Prop} (null : motive null) (bool : ∀ b, motive (bool b))
    (integer : ∀ n, motive (integer n)) (float : ∀ x finite, motive (float x finite))
    (string : ∀ s, motive (string s))
    (array : ∀ items : List Json, (∀ item ∈ items, motive item) → motive (array items))
    (object : ∀ fields : List (String × Json), (∀ field ∈ fields, motive field.2) →
      motive (object fields)) : ∀ j, motive j
  | .null => null
  | .bool b => bool b
  | .integer n => integer n
  | .float x finite => float x finite
  | .string s => string s
  | .array items => array items fun item _ =>
    inductionOn null bool integer float string array object item
  | .object fields => object fields fun field _ =>
    inductionOn null bool integer float string array object field.2
termination_by j => sizeOf j
decreasing_by
  · exact sizeOf_lt_array ‹_›
  · exact sizeOf_lt_object ‹_›

end Json

end Criteria
