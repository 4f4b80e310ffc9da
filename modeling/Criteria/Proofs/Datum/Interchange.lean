import Criteria.Datum.Json
import Criteria.Proofs.Datum.Conversion

/-!
# Data by way of JSON values, and back

Hosts hand data over as JSON and get results back as JSON. Both conversions keep arrays and objects
as they are, so again it is enough to say what happens to the leaves. Each side has leaves that the
other one lacks. JSON has no infinite number and no NaN, so **data comes back from JSON with nil for
every float that is not finite, and else as it was** (`Criteria.Datum.ofJson_toJson`): an integer
stays an integer, whatever its size, and a float stays a float, also where it is integral or a
negative zero. Data has no integers of more than 64 bits, so **a JSON value comes back from data as
it was if its integers have 64 bits** (`Criteria.Json.HasInt64s`), and only then
(`Criteria.Datum.toJson_ofJson_eq_self_iff`): a larger integer has become a float, or null.
-/

namespace Criteria

/-! ### Integers that data has -/

/-- A JSON value in which **every integer has 64 bits**, at any depth. -/
inductive Json.HasInt64s : Json → Prop
  | null : HasInt64s .null
  | bool (b : Bool) : HasInt64s (.bool b)
  | integer {n : Int} (h : Datum.isInt64 n = true) : HasInt64s (.integer n)
  | float (x : Binary64) (finite : x.isFinite = true) : HasInt64s (.float x finite)
  | string (s : String) : HasInt64s (.string s)
  | array {items : List Json} (h : ∀ item ∈ items, HasInt64s item) : HasInt64s (.array items)
  | object {fields : List (String × Json)} (h : ∀ field ∈ fields, HasInt64s field.2) :
    HasInt64s (.object fields)

namespace Datum

/-- An integer has 64 bits if it lies between the two bounds. -/
theorem isInt64_iff {n : Int} :
    isInt64 n = true ↔ -0x8000000000000000 ≤ n ∧ n < 0x8000000000000000 := by
  simp only [isInt64, Bool.and_eq_true, decide_eq_true_eq]

/-- Every integer of 64 bits is one. -/
theorem isInt64_toInt (n : Int64) : isInt64 n.toInt = true := by
  have hlow := n.le_toInt
  have hhigh := n.toInt_lt
  rw [isInt64_iff]
  omega

/-- An integer of data comes back from JSON. -/
theorem ofJsonInteger_toInt (n : Int64) : ofJsonInteger n.toInt = .integer n := by
  rw [ofJsonInteger, if_pos (isInt64_toInt n), Int64.ofInt_toInt]

/-- An integer comes back from data if it has 64 bits, and otherwise something that is no integer
does. -/
theorem toJson_ofJsonInteger_eq_iff {n : Int} :
    (ofJsonInteger n).toJson = .integer n ↔ isInt64 n = true := by
  rw [ofJsonInteger]
  split
  · rename_i h
    obtain ⟨hlow, hhigh⟩ := isInt64_iff.mp h
    rw [toJson, Int64.toInt_ofInt_of_le (by omega) (by omega)]
    exact ⟨fun _ => h, fun _ => rfl⟩
  · rename_i h
    refine ⟨fun hn => absurd hn ?_, fun hn => absurd hn h⟩
    rw [toJson, Json.ofNumber]
    split <;> simp

/-! ### Floats that JSON has -/

/-- A float that is not finite as nil. -/
def finiteOrNil : Datum → Datum
  | float x => if x.isFinite then float x else nil
  | d => d

/-- A float comes back from JSON, or nil does. -/
theorem ofJson_ofNumber (x : Binary64) : ofJson (.ofNumber x) = finiteOrNil (.float x) := by
  rw [Json.ofNumber, finiteOrNil]
  split <;> rfl

/-- JSON has all finite floats. -/
theorem toJson_ofNumber_of_isFinite {x : Binary64} (h : x.isFinite = true) :
    (float x).toJson = .float x h := by
  rw [toJson, Json.ofNumber, dif_pos h]

/-! ### The conversions -/

/-- **Made into a JSON value and back, data has nil for its floats that are not finite**, and the
rest is as it was. -/
theorem ofJson_toJson (d : Datum) : ofJson d.toJson = d.mapLeaves .finiteOrNil := by
  induction d using Datum.inductionOn with
  | nil | bool b | string s =>
    rw [mapLeaves]
    rfl
  | integer n =>
    rw [mapLeaves]
    exact ofJsonInteger_toInt n
  | float x =>
    rw [mapLeaves]
    exact ofJson_ofNumber x
  | array items ih =>
    rw [toJson, ofJson, mapLeaves, toJsonItems_eq_map, ofJsonItems_eq_map, List.map_map]
    exact congrArg array (List.map_congr_left ih)
  | object fields ih =>
    rw [toJson, ofJson, mapLeaves, toJsonFields_eq_map, ofJsonFields_eq_map, List.map_map]
    exact congrArg object (Fields.map_congr (f := fun d : Datum => ofJson d.toJson) ih)

/-- **Made into data and back, a JSON value is what it was** if its integers have 64 bits, and only
then. -/
theorem toJson_ofJson_eq_self_iff (j : Json) : (ofJson j).toJson = j ↔ j.HasInt64s := by
  induction j using Json.inductionOn with
  | null => exact iff_of_true rfl .null
  | bool b => exact iff_of_true rfl (.bool b)
  | string s => exact iff_of_true rfl (.string s)
  | float x finite => exact iff_of_true (toJson_ofNumber_of_isFinite finite) (.float x finite)
  | integer n =>
    rw [ofJson, toJson_ofJsonInteger_eq_iff]
    exact ⟨.integer, fun | .integer h => h⟩
  | array items ih =>
    have hitems : items.map (fun item => (ofJson item).toJson) = items.map id ↔
        ∀ item ∈ items, (ofJson item).toJson = item := List.map_inj_left
    rw [List.map_id] at hitems
    rw [ofJson, toJson, ofJsonItems_eq_map, toJsonItems_eq_map, List.map_map, Json.array.injEq]
    calc items.map (fun item => (ofJson item).toJson) = items
      _ ↔ ∀ item ∈ items, (ofJson item).toJson = item := hitems
      _ ↔ ∀ item ∈ items, item.HasInt64s := forall₂_congr ih
      _ ↔ (Json.array items).HasInt64s := ⟨.array, fun | .array h => h⟩
  | object fields ih =>
    rw [ofJson, toJson, ofJsonFields_eq_map, toJsonFields_eq_map, List.map_map, Json.object.injEq]
    calc (fields.map fun field => (field.1, (ofJson field.2).toJson)) = fields
      _ ↔ ∀ field ∈ fields, (ofJson field.2).toJson = field.2 :=
          Fields.map_eq_self_iff (f := fun j => (ofJson j).toJson)
      _ ↔ ∀ field ∈ fields, field.2.HasInt64s := forall₂_congr ih
      _ ↔ (Json.object fields).HasInt64s := ⟨.object, fun | .object h => h⟩

end Datum

/-- **Data survives the trip through JSON values.** It comes back with nil for every float that is
not finite, at any depth, and otherwise as it was, so that integers, integral floats and the two
zeros are kept apart. On the trip in the other direction a JSON value comes back as it was exactly
if all its integers, at any depth, have 64 bits. -/
theorem data_survives_json :
    (∀ d : Datum, Datum.ofJson d.toJson = d.mapLeaves .finiteOrNil) ∧
      ∀ j : Json, (Datum.ofJson j).toJson = j ↔ j.HasInt64s :=
  ⟨Datum.ofJson_toJson, Datum.toJson_ofJson_eq_self_iff⟩

/-- The three zeros of data are kept apart, and NaN is lost. -/
example : Datum.ofJson (Datum.toJson (.array [.integer 0, .float .zero,
      .float (.signed true 0 (Nat.zero_le _)), .object [("x", .float .nan)]])) =
    .array [.integer 0, .float .zero, .float (.signed true 0 (Nat.zero_le _)),
      .object [("x", .nil)]] := by rfl

end Criteria
