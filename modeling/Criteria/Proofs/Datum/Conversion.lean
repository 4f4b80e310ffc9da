import Criteria.Evaluation.Expression

/-!
# From data to values and back

Data crosses the boundary of the host in both directions: what a variable stands for is copied out
of the data, arguments are made into data, and what a function returns is taken over. All of this
keeps arrays and objects as they are, so it is enough to say what happens to the leaves
(`Criteria.Datum.mapLeaves`). **Values come back as they were, and of data only the tag of integers
is lost** (`Criteria.Value.ofDatum_toDatum`, `Criteria.Value.toDatum_ofDatum`). Whether data is
copied or taken over makes no difference (`Criteria.Value.ofLent_eq_ofDatum`).
-/

namespace Criteria

/-! ### Data with other leaves -/

namespace Datum

/-- Data with **other leaves**: arrays keep their length and their order, objects their keys. -/
def mapLeaves (f : Datum → Datum) : Datum → Datum
  | nil => f nil
  | bool b => f (bool b)
  | integer n => f (integer n)
  | float x => f (float x)
  | string s => f (string s)
  | array items => array (items.map fun item => mapLeaves f item)
  | object fields => object (fields.map fun field => (field.1, mapLeaves f field.2))
termination_by d => sizeOf d
decreasing_by
  · exact sizeOf_lt_array ‹_›
  · exact sizeOf_lt_object ‹_›

/-- An integer as the float that it is rounded to. -/
def asFloat : Datum → Datum
  | integer n => float (.ofInt n.toInt)
  | d => d

end Datum

/-! ### The conversions -/

namespace Value

mutual

/-- Made into data and back, a value is what it was. -/
theorem ofDatum_toDatum : ∀ v : Value, ofDatum v.toDatum = v
  | .nil | .bool _ | .number _ | .string _ => rfl
  | .array items => congrArg Value.array (ofItems_toItems items)
  | .object fields => congrArg Value.object (ofFields_toFields fields)

theorem ofItems_toItems : ∀ items : List Value, ofItems (toItems items) = items
  | [] => rfl
  | item :: rest => by
    rw [toItems, ofItems, ofDatum_toDatum item, ofItems_toItems rest]

theorem ofFields_toFields : ∀ fields : List (String × Value),
    ofFields (toFields fields) = fields
  | [] => rfl
  | (key, value) :: rest => by
    rw [toFields, ofFields, ofDatum_toDatum value, ofFields_toFields rest]

end

/-- **Made into a value and back, data has floats for its integers**, and the rest is as it was. -/
theorem toDatum_ofDatum (d : Datum) : (ofDatum d).toDatum = d.mapLeaves .asFloat := by
  induction d using Datum.inductionOn with
  | nil | bool b | integer n | float x | string s =>
    rw [Datum.mapLeaves]
    rfl
  | array items ih =>
    rw [ofDatum, toDatum, Datum.mapLeaves, ofItems_eq_map, toItems_eq_map, List.map_map]
    exact congrArg Datum.array (List.map_congr_left ih)
  | object fields ih =>
    rw [ofDatum, toDatum, Datum.mapLeaves, ofFields_eq_map, toFields_eq_map, List.map_map]
    exact congrArg Datum.object (Fields.map_congr (f := fun d => (ofDatum d).toDatum) ih)

/-- **Copying and taking over give the same value.** -/
theorem ofLent_eq_ofDatum (d : Datum) : ofLent d = ofDatum d := by
  induction d using Datum.inductionOn with
  | nil | bool b | integer n | float x | string s =>
    rw [ofLent]
    rfl
  | array items ih =>
    rw [ofLent, ofDatum, ofItems_eq_map]
    exact congrArg Value.array (List.map_congr_left ih)
  | object fields ih =>
    rw [ofLent, ofDatum, ofFields_eq_map]
    exact congrArg Value.object (Fields.map_congr ih)

end Value

/-- A variable stands for a copy of the data that its path leads to. -/
theorem Context.lookUp_eq_ofLent {σ : Type} (ctx : Context σ) (path : Path) :
    ctx.lookUp path = (path.resolve ctx.data).map Value.ofLent := by
  rw [funext Value.ofLent_eq_ofDatum]
  rfl

/-- **Crossing the boundary loses nothing but the tag of integers.** A value comes back from data as
it was. Data comes back from values with a float for every integer in it, at any depth, with the
same keys and elements in the same order and the same other leaves, so that the second time nothing
changes any more. And it makes no difference whether the data is copied or taken over. -/
theorem conversions_lose_integer_tags_only :
    (∀ v : Value, Value.ofDatum v.toDatum = v) ∧
      (∀ d : Datum, (Value.ofDatum d).toDatum = d.mapLeaves .asFloat) ∧
      (∀ d : Datum, (Value.ofDatum (Value.ofDatum d).toDatum).toDatum = (Value.ofDatum d).toDatum) ∧
      ∀ d : Datum, Value.ofLent d = Value.ofDatum d := by
  refine ⟨Value.ofDatum_toDatum, Value.toDatum_ofDatum, fun d => ?_, Value.ofLent_eq_ofDatum⟩
  rw [Value.ofDatum_toDatum]

end Criteria
