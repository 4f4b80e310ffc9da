import Criteria.Path.Resolve

/-!
# Parts of data

What a variable names is found inside of the root: a segment picks an element of an array, a field
of an object, or something in a field, and hands on what is neither. A path does this again and
again. **Whatever a path leads to is a part of the data it is resolved in**
(`Criteria.Path.isPartOf_of_resolve`).
-/

namespace Criteria

/-- A piece of data is **part** of another one if it is found inside of it at any depth. -/
inductive Datum.IsPartOf : Datum → Datum → Prop
  | refl (d : Datum) : IsPartOf d d
  | item {d item : Datum} {items : List Datum} (hm : item ∈ items) (h : IsPartOf d item) :
      IsPartOf d (.array items)
  | field {d : Datum} {fields : List (String × Datum)} {field : String × Datum}
      (hm : field ∈ fields) (h : IsPartOf d field.2) : IsPartOf d (.object fields)

/-- Parts of parts are parts. -/
theorem Datum.IsPartOf.trans {c d e : Datum} (h : c.IsPartOf d) (h' : d.IsPartOf e) :
    c.IsPartOf e := by
  induction h' with
  | refl => exact h
  | item hm _ ih => exact .item hm ih
  | field hm _ ih => exact .field hm ih

namespace Segment

variable {s : Segment} {d : Datum}

/-- The element at a position is a part of the array. -/
theorem isPartOf_of_element {items : List Datum} {n : Nat} (h : s.element items n = .ok d) :
    d.IsPartOf (.array items) := by
  rw [element] at h
  split at h
  · rename_i item hi
    rw [← Except.ok.inj h]
    exact .item (List.mem_of_getElem? hi) (.refl item)
  · exact absurd h (by simp)

/-- What is under a key is a part of the object. -/
theorem isPartOf_of_get? {fields : Fields Datum} {key : String} {value : Datum}
    (h : fields.get? key = some value) : value.IsPartOf (.object fields) := by
  obtain ⟨field, hf, rfl⟩ := Fields.exists_mem_of_get? h
  exact .field hf (.refl _)

/-- What a key leads to is a part of the object. -/
theorem isPartOf_of_field {fields : Fields Datum} {key : String}
    (h : s.field fields key = .ok d) : d.IsPartOf (.object fields) := by
  rw [field] at h
  split at h
  · rename_i value hv
    rw [← Except.ok.inj h]
    exact isPartOf_of_get? hv
  · exact absurd h (by simp)

/-- What a segment leads to in an object is a part of it. -/
theorem isPartOf_of_fromObject {fields : Fields Datum} (h : s.fromObject fields = .ok d) :
    d.IsPartOf (.object fields) := by
  rw [fromObject] at h
  split at h
  · exact isPartOf_of_field h
  · split at h
    · exact isPartOf_of_field h
    · rw [fieldOfField] at h
      split at h
      · rename_i inner hi
        exact (isPartOf_of_field h).trans (isPartOf_of_get? hi)
      · exact absurd h (by simp)
      · exact absurd h (by simp)
  · split at h
    · exact absurd h (by simp)
    · rw [elementOfField] at h
      split at h
      · rename_i items hi
        exact (isPartOf_of_element h).trans (isPartOf_of_get? hi)
      · exact absurd h (by simp)
      · exact absurd h (by simp)

/-- **A segment leads to a part of the data.** -/
theorem isPartOf_of_resolve {root : Datum} (h : s.resolve root = .ok d) : d.IsPartOf root := by
  simp only [resolve] at h
  split at h
  · rw [fromArray] at h
    split at h
    · exact isPartOf_of_element h
    · exact absurd h (by simp)
    · rw [← Except.ok.inj h]
      exact .refl _
  · exact isPartOf_of_fromObject h
  · rw [← Except.ok.inj h]
    exact .refl _

end Segment

/-- A path leads to a part of the data. -/
theorem Path.isPartOf_of_resolve {path : Path} {root d : Datum}
    (h : Path.resolve path root = .ok d) : d.IsPartOf root := by
  induction path generalizing root with
  | nil =>
    rw [← Except.ok.inj h]
    exact .refl _
  | cons s rest ih =>
    cases rest with
    | nil => exact Segment.isPartOf_of_resolve h
    | cons next rest =>
      rw [Path.resolve] at h
      split at h
      · exact absurd h (by simp)
      · rename_i inner hi
        split at h
        · -- a part of what the first segment leads to, which is a part of the root
          have hinner : inner.IsPartOf root := Segment.isPartOf_of_resolve hi
          exact (ih h).trans hinner
        · exact absurd h (by simp)

end Criteria
