import Criteria.Proofs.Datum.Conversion
import Criteria.Proofs.Datum.Parts
import Criteria.Proofs.Datum.Validity
import Criteria.Proofs.Number.Integers

/-!
# Validity at every depth

The check of data goes down into arrays and objects, treats the elements of an array in another way
than the rest, and stops at the first defect that it meets. What it stands for knows no order and no
depth: a **defect occurs** in data if some part of it is a float that is not finite, or an array
with an array among its elements (`Criteria.Defect.OccursIn`).

**The check finds a defect exactly if one occurs** (`Criteria.validation_is_exact`), and the defect
that it reports is one that occurs (`Criteria.Datum.occursIn_of_validate`).
-/

namespace Criteria

/-- The numbers that are not finite are NaN and the two infinite ones. -/
theorem Binary64.isFinite_eq_true_iff {x : Binary64} :
    x.isFinite = true ↔ x ≠ nan ∧ ∀ negative, x ≠ infinity negative := by
  cases x with
  | nan => simp [isFinite]
  | signed negative rank hrank =>
    simp only [isFinite, decide_eq_true_eq, infinity, ne_eq, reduceCtorEq, not_false_eq_true,
      signed.injEq, not_and, true_and]
    constructor
    · intro hlt _ _
      omega
    · intro hne
      have hrank' := hne negative rfl
      omega

/-! ### Defects -/

/-- A defect **occurs** in data if it is what is wrong with a part of it. -/
def Defect.OccursIn (d : Datum) : Defect → Prop
  | .nonFinite x => x.isFinite = false ∧ (Datum.float x).IsPartOf d
  | .nestedArray => ∃ items, (Datum.array items).IsPartOf d ∧ ∃ item ∈ items, item.isArray = true

/-- What occurs in a part occurs in the whole. -/
theorem Defect.OccursIn.of_isPartOf {c d : Datum} {defect : Defect} (h : defect.OccursIn c)
    (hc : c.IsPartOf d) : defect.OccursIn d := by
  cases defect with
  | nonFinite x =>
    obtain ⟨hx, hpart⟩ := h
    exact ⟨hx, hpart.trans hc⟩
  | nestedArray =>
    obtain ⟨items, hpart, hitem⟩ := h
    exact ⟨items, hpart.trans hc, hitem⟩

namespace Datum

variable {defect : Defect}

/-! ### What is reported -/

mutual

/-- **Nothing is reported that does not occur.** -/
theorem occursIn_of_validate : ∀ d : Datum, d.validate = .error defect → defect.OccursIn d
  | .nil, h | .bool _, h | .integer _, h | .string _, h => absurd h (by simp [validate])
  | .float x, h => by
    rw [validate] at h
    split at h
    · cases h
    · rename_i hx
      obtain rfl := Except.error.inj h
      exact ⟨Bool.eq_false_iff.mpr hx, .refl _⟩
  | .array items, h => by
    obtain ⟨item, hm, ⟨harray, rfl⟩ | hitem⟩ := exists_of_validateItems items h
    · exact ⟨items, .refl _, item, hm, harray⟩
    · exact hitem.of_isPartOf (.item hm (.refl item))
  | .object fields, h => by
    obtain ⟨field, hm, hfield⟩ := exists_of_validateFields fields h
    exact hfield.of_isPartOf (.field hm (.refl field.2))

/-- What the check of elements reports is an array among them, or occurs in one of them. -/
theorem exists_of_validateItems : ∀ items : List Datum, validateItems items = .error defect →
    ∃ item ∈ items, (item.isArray = true ∧ defect = .nestedArray) ∨ defect.OccursIn item
  | [], h => absurd h (by simp [validateItems])
  | item :: rest, h => by
    rw [validateItems] at h
    split at h
    · rename_i harray
      exact ⟨item, List.mem_cons_self, .inl ⟨harray, (Except.error.inj h).symm⟩⟩
    · split at h
      · rename_i e he
        rw [Except.error.inj h] at he
        exact ⟨item, List.mem_cons_self, .inr (occursIn_of_validate item he)⟩
      · obtain ⟨other, hm, hother⟩ := exists_of_validateItems rest h
        exact ⟨other, List.mem_cons_of_mem _ hm, hother⟩

theorem exists_of_validateFields : ∀ fields : List (String × Datum),
    validateFields fields = .error defect → ∃ field ∈ fields, defect.OccursIn field.2
  | [], h => absurd h (by simp [validateFields])
  | (key, value) :: rest, h => by
    rw [validateFields] at h
    split at h
    · rename_i e he
      rw [Except.error.inj h] at he
      exact ⟨(key, value), List.mem_cons_self, occursIn_of_validate value he⟩
    · obtain ⟨other, hm, hother⟩ := exists_of_validateFields rest h
      exact ⟨other, List.mem_cons_of_mem _ hm, hother⟩

end

/-! ### What occurs -/

/-- Parts of valid data are valid. -/
theorem IsPartOf.validate {c d : Datum} (h : c.IsPartOf d) (hd : d.validate = .ok ()) :
    c.validate = .ok () := by
  induction h with
  | refl => exact hd
  | item hm _ ih => exact ih (validate_array_eq_ok_iff.mp hd _ hm).2
  | field hm _ ih => exact ih (validate_object_eq_ok_iff.mp hd _ hm)

/-- Valid data has no defect in it. -/
theorem not_occursIn_of_validate {d : Datum} (hd : d.validate = .ok ()) : ¬defect.OccursIn d := by
  cases defect with
  | nonFinite x =>
    rintro ⟨hx, hpart⟩
    have hvalid := hpart.validate hd
    simp [Datum.validate, hx] at hvalid
  | nestedArray =>
    rintro ⟨items, hpart, item, hm, harray⟩
    have hvalid := hpart.validate hd
    rw [(validate_array_eq_ok_iff.mp hvalid item hm).1] at harray
    cases harray

/-- **Data is valid exactly if no defect occurs in it.** -/
theorem validate_eq_ok_iff {d : Datum} :
    d.validate = .ok () ↔ ∀ defect : Defect, ¬defect.OccursIn d := by
  constructor
  · intro hd defect
    exact not_occursIn_of_validate hd
  · intro h
    cases hd : d.validate with
    | ok _ => rfl
    | error defect => exact absurd (occursIn_of_validate d hd) (h defect)

/-! ### Through values -/

/-- Data with floats for integers is an array if it was one. -/
theorem isArray_mapLeaves_asFloat (d : Datum) : (d.mapLeaves .asFloat).isArray = d.isArray := by
  cases d <;> rw [mapLeaves] <;> rfl

/-- Validity is not lost or gained when integers become floats. -/
theorem validate_toDatum_ofDatum (d : Datum) :
    (Value.ofDatum d).toDatum.validate = .ok () ↔ d.validate = .ok () := by
  rw [Value.toDatum_ofDatum]
  induction d using inductionOn with
  | nil | bool b | float x | string s => simp [mapLeaves, asFloat]
  | integer n =>
    have hfinite := Binary64.isFinite_ofInt64 n
    simp [mapLeaves, asFloat, validate, hfinite]
  | array items ih =>
    rw [mapLeaves, validate_array_eq_ok_iff, validate_array_eq_ok_iff, List.forall_mem_map]
    refine forall₂_congr fun item hm => ?_
    rw [isArray_mapLeaves_asFloat, ih item hm]
  | object fields ih =>
    rw [mapLeaves, validate_object_eq_ok_iff, validate_object_eq_ok_iff, List.forall_mem_map]
    exact forall₂_congr ih

end Datum

/-! ### The check -/

/-- No defect occurs where all floats are finite and no array is an element of an array. -/
theorem Defect.forall_not_occursIn_iff {d : Datum} :
    (∀ defect : Defect, ¬defect.OccursIn d) ↔
      (∀ x, (Datum.float x).IsPartOf d → x ≠ .nan ∧ ∀ negative, x ≠ .infinity negative) ∧
        ∀ items, (Datum.array items).IsPartOf d → ∀ item ∈ items, item.isArray = false := by
  constructor
  · intro h
    refine ⟨fun x hx => Binary64.isFinite_eq_true_iff.mp ?_, fun items hitems item hm => ?_⟩
    · exact Bool.of_not_eq_false fun hinfinite => h (.nonFinite x) ⟨hinfinite, hx⟩
    · exact Bool.eq_false_iff.mpr fun harray => h .nestedArray ⟨items, hitems, item, hm, harray⟩
  · rintro ⟨hfloats, harrays⟩ (x | _)
    · rintro ⟨hx, hpart⟩
      rw [Binary64.isFinite_eq_true_iff.mpr (hfloats x hpart)] at hx
      cases hx
    · rintro ⟨items, hpart, item, hm, harray⟩
      rw [harrays items hpart item hm] at harray
      cases harray

/-- **Validation is exact at every depth.** Data is accepted if and only if every float in it, at
whatever depth, is neither NaN nor infinite, and no array in it has an array among its elements. All
refusals are of data that is not supported, and name a defect that occurs in the data. -/
theorem validation_is_exact (d : Datum) :
    (Context.checkData d = .ok () ↔
      (∀ x, (Datum.float x).IsPartOf d → x ≠ .nan ∧ ∀ negative, x ≠ .infinity negative) ∧
        ∀ items, (Datum.array items).IsPartOf d → ∀ item ∈ items, item.isArray = false) ∧
      ∀ e, Context.checkData d = .error e →
        e.kind = .unsupportedType ∧ e.variant = .unsupportedType ∧
          ∃ defect : Defect, e = .unsupported (.defect defect) ∧ defect.OccursIn d := by
  refine ⟨?_, fun e he => ?_⟩
  · rw [Context.checkData_eq_ok_iff, Datum.validate_eq_ok_iff, Defect.forall_not_occursIn_iff]
  · obtain ⟨defect, hdefect, rfl⟩ := Context.checkData_eq_error_iff.mp he
    exact ⟨rfl, rfl, defect, rfl, Datum.occursIn_of_validate d hdefect⟩

/-- Arrays that an object keeps apart are no defect. -/
example : (Datum.array [.object [("inner", .array [.integer 1])]]).validate = .ok () := rfl

end Criteria
