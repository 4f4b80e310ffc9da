import Criteria.Datum.Basic
import Criteria.Json.Basic

/-!
# Data and JSON values

JSON values become data and data becomes JSON values. An integer of 64 bits stays an integer
both ways; larger integers become floats, and floats that JSON does not have become null.
-/

namespace Criteria.Datum

/-- Whether an integer has 64 bits, one of them for the sign. -/
def isInt64 (n : Int) : Bool := -0x8000000000000000 ≤ n && n < 0x8000000000000000

/-- The data of a JSON integer. -/
def ofJsonInteger (n : Int) : Datum :=
  if isInt64 n then .integer (.ofInt n) else .float (.ofInt n)

mutual

/-- The data that a JSON value holds. -/
def ofJson : Json → Datum
  | .null => .nil
  | .bool b => .bool b
  | .integer n => ofJsonInteger n
  | .float x _ => .float x
  | .string s => .string s
  | .array items => .array (ofJsonItems items)
  | .object fields => .object (ofJsonFields fields)

/-- The data of elements. -/
def ofJsonItems : List Json → List Datum
  | [] => []
  | item :: rest => ofJson item :: ofJsonItems rest

/-- The data of fields, under the same keys. -/
def ofJsonFields : List (String × Json) → List (String × Datum)
  | [] => []
  | (key, value) :: rest => (key, ofJson value) :: ofJsonFields rest

end

mutual

/-- The JSON value of data. -/
def toJson : Datum → Json
  | .nil => .null
  | .bool b => .bool b
  | .integer n => .integer n.toInt
  | .float x => .ofNumber x
  | .string s => .string s
  | .array items => .array (toJsonItems items)
  | .object fields => .object (toJsonFields fields)

/-- The JSON values of elements. -/
def toJsonItems : List Datum → List Json
  | [] => []
  | item :: rest => toJson item :: toJsonItems rest

/-- The JSON values of fields, under the same keys. -/
def toJsonFields : List (String × Datum) → List (String × Json)
  | [] => []
  | (key, value) :: rest => (key, toJson value) :: toJsonFields rest

end

/-- The data of elements, one by one. -/
theorem ofJsonItems_eq_map (items : List Json) : ofJsonItems items = items.map ofJson := by
  induction items with
  | nil => rfl
  | cons item rest ih => rw [ofJsonItems, ih, List.map_cons]

/-- The JSON values of elements, one by one. -/
theorem toJsonItems_eq_map (items : List Datum) : toJsonItems items = items.map toJson := by
  induction items with
  | nil => rfl
  | cons item rest ih => rw [toJsonItems, ih, List.map_cons]

/-- The data of fields, one by one; the keys stay. -/
theorem ofJsonFields_eq_map (fields : List (String × Json)) :
    ofJsonFields fields = fields.map fun field => (field.1, ofJson field.2) := by
  induction fields with
  | nil => rfl
  | cons field rest ih => rw [ofJsonFields, ih, List.map_cons]

/-- The JSON values of fields, one by one; the keys stay. -/
theorem toJsonFields_eq_map (fields : List (String × Datum)) :
    toJsonFields fields = fields.map fun field => (field.1, toJson field.2) := by
  induction fields with
  | nil => rfl
  | cons field rest ih => rw [toJsonFields, ih, List.map_cons]

end Criteria.Datum
