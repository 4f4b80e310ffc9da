import Criteria.Context

/-!
# What valid data is made of

Validity is a matter of the parts: an array is valid if its elements are and none of them is an
array, an object is valid if its fields are. In this form the check is used; it reports the first
defect from left to right, but that there is none does not depend on an order.
-/

namespace Criteria

namespace Datum

/-- Elements are valid if none is an array and all are valid data. -/
theorem validateItems_eq_ok_iff {items : List Datum} :
    validateItems items = .ok () ↔
      ∀ item ∈ items, item.isArray = false ∧ item.validate = .ok () := by
  induction items with
  | nil => simp [validateItems]
  | cons item rest ih =>
    rw [validateItems, List.forall_mem_cons, ← ih]
    cases hitem : item.isArray with
    | true => simp
    | false => cases item.validate <;> simp

/-- Fields are valid if all that is under keys is. -/
theorem validateFields_eq_ok_iff {fields : List (String × Datum)} :
    validateFields fields = .ok () ↔ ∀ field ∈ fields, field.2.validate = .ok () := by
  induction fields with
  | nil => simp [validateFields]
  | cons field rest ih =>
    obtain ⟨key, value⟩ := field
    rw [validateFields, List.forall_mem_cons, ← ih]
    cases value.validate <;> simp

/-- An array is valid if its elements are valid and none of them is an array. -/
theorem validate_array_eq_ok_iff {items : List Datum} :
    (array items).validate = .ok () ↔
      ∀ item ∈ items, item.isArray = false ∧ item.validate = .ok () := by
  rw [validate, validateItems_eq_ok_iff]

/-- An object is valid if all that is under its keys is. -/
theorem validate_object_eq_ok_iff {fields : List (String × Datum)} :
    (object fields).validate = .ok () ↔ ∀ field ∈ fields, field.2.validate = .ok () := by
  rw [validate, validateFields_eq_ok_iff]

end Datum

/-- The data that a context accepts is the valid data. -/
theorem Context.checkData_eq_ok_iff {d : Datum} :
    Context.checkData d = .ok () ↔ d.validate = .ok () := by
  rw [Context.checkData]
  cases d.validate with
  | error defect => exact ⟨nofun, nofun⟩
  | ok u => exact ⟨fun _ => rfl, fun _ => rfl⟩

/-- All other data is refused for the defect that was found. -/
theorem Context.checkData_eq_error_iff {d : Datum} {e : Error} :
    Context.checkData d = .error e ↔
      ∃ defect, d.validate = .error defect ∧ e = .unsupported (.defect defect) := by
  rw [Context.checkData]
  cases d.validate with
  | error defect =>
    constructor
    · intro h
      exact ⟨defect, rfl, (Except.error.inj h).symm⟩
    · rintro ⟨_, ⟨⟩, rfl⟩
      rfl
  | ok u => exact ⟨nofun, nofun⟩

end Criteria
