import Criteria.Fields
import Criteria.Number.Binary64

/-!
# Data

Data is what a host hands to the engine and what functions receive and return. **Integers and
floats are kept apart here**, as hosts hold them; inside the engine both are numbers.
-/

namespace Criteria

/-- A piece of host data. -/
inductive Datum where
  | nil
  | bool (b : Bool)
  | integer (n : Int64)
  | float (x : Binary64)
  | string (s : String)
  | array (items : List Datum)
  | object (fields : List (String × Datum))

instance : Inhabited Datum := ⟨.nil⟩

namespace Datum

/-! ### Induction -/

/-- An element is smaller than its array. -/
theorem sizeOf_lt_array {item : Datum} {items : List Datum} (h : item ∈ items) :
    sizeOf item < sizeOf (array items) := by
  have hitem := List.sizeOf_lt_of_mem h
  rw [array.sizeOf_spec]
  omega

/-- What is under a key is smaller than its object. -/
theorem sizeOf_lt_object {field : String × Datum} {fields : List (String × Datum)}
    (h : field ∈ fields) : sizeOf field.2 < sizeOf (object fields) := by
  have hfield := List.sizeOf_lt_of_mem h
  have hvalue : sizeOf field = 1 + sizeOf field.1 + sizeOf field.2 := rfl
  rw [object.sizeOf_spec]
  omega

/-- What holds of data whenever it holds of its elements, or of its fields, holds of all data. -/
@[elab_as_elim]
theorem inductionOn {motive : Datum → Prop} (nil : motive nil) (bool : ∀ b, motive (bool b))
    (integer : ∀ n, motive (integer n)) (float : ∀ x, motive (float x))
    (string : ∀ s, motive (string s))
    (array : ∀ items : List Datum, (∀ item ∈ items, motive item) → motive (array items))
    (object : ∀ fields : List (String × Datum), (∀ field ∈ fields, motive field.2) →
      motive (object fields)) : ∀ d, motive d
  | .nil => nil
  | .bool b => bool b
  | .integer n => integer n
  | .float x => float x
  | .string s => string s
  | .array items => array items fun item _ =>
    inductionOn nil bool integer float string array object item
  | .object fields => object fields fun field _ =>
    inductionOn nil bool integer float string array object field.2
termination_by d => sizeOf d
decreasing_by
  · exact sizeOf_lt_array ‹_›
  · exact sizeOf_lt_object ‹_›

/-! ### Kinds of data -/

/-- The name of a kind of data, as messages use it. -/
def kindName : Datum → String
  | nil => "nil"
  | bool _ => "bool"
  | integer _ => "integer"
  | float _ => "float"
  | string _ => "string"
  | array _ => "array"
  | object _ => "object"

/-- Whether data is nil. -/
def isNil : Datum → Bool
  | nil => true
  | _ => false

/-- Whether data is an array. -/
def isArray : Datum → Bool
  | array _ => true
  | _ => false

/-- Whether data is an object. -/
def isObject : Datum → Bool
  | object _ => true
  | _ => false

/-- The number that an integer or a float is. -/
def number? : Datum → Option Binary64
  | integer n => some (.ofInt n.toInt)
  | float x => some x
  | _ => none

/-- The text that a string holds. -/
def text? : Datum → Option String
  | string s => some s
  | _ => none

/-- A string, or nil where there is none. -/
def ofText? : Option String → Datum
  | some s => string s
  | none => nil

end Datum

end Criteria
