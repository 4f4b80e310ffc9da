import Criteria.Datum.Basic

/-!
# Values

Values are what expressions evaluate to. All numbers are of one kind, so a value made from data
forgets which numbers were integers, and nothing else; a value made into data has floats for all
its numbers.
-/

namespace Criteria

/-- The result of an evaluation. -/
inductive Value where
  | nil
  | bool (b : Bool)
  | number (x : Binary64)
  | string (s : String)
  | array (items : List Value)
  | object (fields : List (String × Value))

instance : Inhabited Value := ⟨.nil⟩

namespace Value

/-- The name of a kind of value, as messages use it. -/
def kindName : Value → String
  | nil => "nil"
  | bool _ => "bool"
  | number _ => "number"
  | string _ => "string"
  | array _ => "array"
  | object _ => "object"

/-- Whether a value is nil. -/
def isNil : Value → Bool
  | nil => true
  | _ => false

/-- The truth value that a bool is. -/
def bool? : Value → Option Bool
  | bool b => some b
  | _ => none

/-- The number that a number is. -/
def number? : Value → Option Binary64
  | number x => some x
  | _ => none

/-- The text that a string holds. -/
def text? : Value → Option String
  | string s => some s
  | _ => none

/-! ### Equality

Values are equal when they have the same shape and equal leaves. Numbers are compared
numerically, so a value that holds NaN is not equal to itself. -/

mutual

/-- Whether two values are equal. -/
def equals : Value → Value → Bool
  | .nil, .nil => true
  | .bool a, .bool b => a == b
  | .number x, .number y => x.equals y
  | .string s, .string t => s == t
  | .array xs, .array ys => equalItems xs ys
  | .object xs, .object ys => equalFields xs ys
  | _, _ => false

/-- Whether two arrays have equal elements at all places. -/
def equalItems : List Value → List Value → Bool
  | [], [] => true
  | x :: xs, y :: ys => equals x y && equalItems xs ys
  | _, _ => false

/-- Whether two objects have the same keys with equal values. -/
def equalFields : List (String × Value) → List (String × Value) → Bool
  | [], [] => true
  | (k, x) :: xs, (l, y) :: ys => k == l && equals x y && equalFields xs ys
  | _, _ => false

end

/-! ### From data and back -/

mutual

/-- The value of a piece of data; integers and floats become numbers. -/
def ofDatum : Datum → Value
  | .nil => .nil
  | .bool b => .bool b
  | .integer n => .number (.ofInt n.toInt)
  | .float x => .number x
  | .string s => .string s
  | .array items => .array (ofItems items)
  | .object fields => .object (ofFields fields)

/-- The values of elements. -/
def ofItems : List Datum → List Value
  | [] => []
  | item :: rest => ofDatum item :: ofItems rest

/-- The values of fields, under the same keys. -/
def ofFields : List (String × Datum) → List (String × Value)
  | [] => []
  | (key, value) :: rest => (key, ofDatum value) :: ofFields rest

end

/-- The value of data that the host keeps: a copy is made of every part of it. -/
def ofLent : Datum → Value
  | .nil => .nil
  | .bool b => .bool b
  | .integer n => .number (.ofInt n.toInt)
  | .float x => .number x
  | .string s => .string s
  | .array items => .array (items.map fun item => ofLent item)
  | .object fields => .object (fields.map fun field => (field.1, ofLent field.2))
termination_by d => sizeOf d
decreasing_by
  · exact Datum.sizeOf_lt_array ‹_›
  · exact Datum.sizeOf_lt_object ‹_›

mutual

/-- The data form of a value; numbers become floats. -/
def toDatum : Value → Datum
  | .nil => .nil
  | .bool b => .bool b
  | .number x => .float x
  | .string s => .string s
  | .array items => .array (toItems items)
  | .object fields => .object (toFields fields)

/-- The data of elements. -/
def toItems : List Value → List Datum
  | [] => []
  | item :: rest => toDatum item :: toItems rest

/-- The data of fields, under the same keys. -/
def toFields : List (String × Value) → List (String × Datum)
  | [] => []
  | (key, value) :: rest => (key, toDatum value) :: toFields rest

end

/-- The values of elements, one by one. -/
theorem ofItems_eq_map (items : List Datum) : ofItems items = items.map ofDatum := by
  induction items with
  | nil => rfl
  | cons item rest ih => simp [ofItems, ih]

/-- The data of elements, one by one. -/
theorem toItems_eq_map (items : List Value) : toItems items = items.map toDatum := by
  induction items with
  | nil => rfl
  | cons item rest ih => simp [toItems, ih]

/-- The values of fields, one by one; the keys stay. -/
theorem ofFields_eq_map (fields : List (String × Datum)) :
    ofFields fields = fields.map fun field => (field.1, ofDatum field.2) := by
  induction fields with
  | nil => rfl
  | cons field rest ih =>
    obtain ⟨key, value⟩ := field
    simp [ofFields, ih]

/-- The data of fields, one by one; the keys stay. -/
theorem toFields_eq_map (fields : List (String × Value)) :
    toFields fields = fields.map fun field => (field.1, toDatum field.2) := by
  induction fields with
  | nil => rfl
  | cons field rest ih =>
    obtain ⟨key, value⟩ := field
    simp [toFields, ih]

end Value

end Criteria
