/-!
# Fields of objects

The fields of an object are pairs of a key and a value. They are kept in ascending order of their
keys, each key once (`Criteria.Fields.KeysAscend`), so that two objects with the same fields are the
same list (`Criteria.Fields.eq_of_get?_eq`). Keys are compared by the code points of their
characters. Setting a key keeps the order, and so does every change of the values.
-/

namespace Criteria

/-- The fields of an object, by ascending key. The order is not part of the type, for data and JSON
values are made of lists of fields themselves; `Criteria.Fields.KeysAscend` says it. -/
abbrev Fields (α : Type) := List (String × α)

namespace Fields

variable {α β : Type}

/-- Sets a key; what the key held before is given up. -/
def insert (key : String) (value : α) : Fields α → Fields α
  | [] => [(key, value)]
  | (k, v) :: rest =>
    if key = k then (key, value) :: rest
    else if key < k then (key, value) :: (k, v) :: rest
    else (k, v) :: insert key value rest

/-- The fields given by a list of pairs in any order; the last pair with a key counts. -/
def ofList (pairs : List (String × α)) : Fields α :=
  pairs.foldl (fun fields pair => insert pair.1 pair.2 fields) []

/-- The value under a key. -/
def get? : Fields α → String → Option α
  | [], _ => none
  | (k, v) :: rest, key => if key = k then some v else get? rest key

/-- Whether there is a value under a key. -/
def contains (fields : Fields α) (key : String) : Bool := (get? fields key).isSome

@[simp]
theorem get?_cons_self (field : String × α) (rest : Fields α) :
    get? (field :: rest) field.1 = some field.2 := if_pos rfl

/-- What is set is found. -/
@[simp]
theorem get?_insert_self (key : String) (value : α) (fields : Fields α) :
    get? (insert key value fields) key = some value := by
  induction fields with
  | nil => simp [insert, get?]
  | cons field rest ih =>
    obtain ⟨k, v⟩ := field
    unfold insert
    split
    · simp [get?]
    · rename_i hne
      split
      · simp [get?]
      · simpa [get?, hne] using ih

/-- Setting a key leaves what is under the others. -/
theorem get?_insert_of_ne {key other : String} (h : other ≠ key) (value : α) (fields : Fields α) :
    get? (insert key value fields) other = get? fields other := by
  induction fields with
  | nil => simp [insert, get?, h]
  | cons field rest ih =>
    obtain ⟨k, v⟩ := field
    unfold insert
    split
    · rename_i heq
      subst heq
      simp [get?, h]
    · split
      · simp [get?, h]
      · simp only [get?, ih]

/-- Changing all values changes no key. -/
theorem get?_map (f : α → β) (fields : Fields α) (key : String) :
    get? (fields.map fun field => (field.1, f field.2)) key = (get? fields key).map f := by
  induction fields with
  | nil => rfl
  | cons field rest ih =>
    rw [List.map_cons, get?, get?, ih]
    split <;> rfl

/-- Changes that agree on all values give the same fields. -/
theorem map_congr {f g : α → β} {fields : Fields α}
    (h : ∀ field ∈ fields, f field.2 = g field.2) :
    (fields.map fun field => (field.1, f field.2)) =
      fields.map fun field => (field.1, g field.2) :=
  List.map_congr_left fun field hf => congrArg (Prod.mk field.1) (h field hf)

/-- A change of the values leaves the fields as they were if it leaves every value as it was. -/
theorem map_eq_self_iff {f : α → α} {fields : Fields α} :
    (fields.map fun field => (field.1, f field.2)) = fields ↔
      ∀ field ∈ fields, f field.2 = field.2 := by
  have hself : (fields.map fun field => (field.1, f field.2)) = fields.map id ↔
      ∀ field ∈ fields, (field.1, f field.2) = field := List.map_inj_left
  rw [List.map_id] at hself
  refine hself.trans (forall₂_congr fun field _ => ?_)
  exact ⟨fun h => congrArg Prod.snd h, fun h => by rw [h]⟩

/-- What is under a key is the value of a field. -/
theorem exists_mem_of_get? {key : String} {a : α} {fields : Fields α}
    (h : fields.get? key = some a) : ∃ field ∈ fields, field.2 = a := by
  induction fields with
  | nil => exact absurd h (by simp [Fields.get?])
  | cons field rest ih =>
    rw [Fields.get?] at h
    split at h
    · exact ⟨field, List.mem_cons_self, Option.some.inj h⟩
    · obtain ⟨f, hf, hv⟩ := ih h
      exact ⟨f, List.mem_cons_of_mem _ hf, hv⟩

/-! ### Ascending keys -/

/-- **The keys of fields ascend**; in particular no key occurs twice. -/
def KeysAscend (fields : Fields α) : Prop := fields.Pairwise (·.1 < ·.1)

/-- No fields, no keys out of order. -/
theorem keysAscend_nil : KeysAscend ([] : Fields α) := .nil

/-- Setting a key brings in its own field only. -/
theorem eq_or_mem_of_mem_insert {key : String} {value : α} {fields : Fields α} {field : String × α}
    (h : field ∈ insert key value fields) : field = (key, value) ∨ field ∈ fields := by
  induction fields with
  | nil => exact .inl (List.mem_singleton.mp h)
  | cons first rest ih =>
    obtain ⟨k, v⟩ := first
    unfold insert at h
    split at h
    · exact (List.mem_cons.mp h).imp_right (List.mem_cons_of_mem _)
    · split at h
      · exact List.mem_cons.mp h
      · rcases List.mem_cons.mp h with rfl | h
        · exact .inr List.mem_cons_self
        · exact (ih h).imp_right (List.mem_cons_of_mem _)

/-- **Setting a key keeps the keys in order.** -/
theorem KeysAscend.insert {fields : Fields α} (h : KeysAscend fields) (key : String) (value : α) :
    KeysAscend (insert key value fields) := by
  induction fields with
  | nil => exact List.pairwise_singleton _ _
  | cons first rest ih =>
    obtain ⟨k, v⟩ := first
    obtain ⟨hfirst, hrest⟩ := List.pairwise_cons.mp h
    unfold Fields.insert
    split
    · rename_i heq
      subst heq
      exact List.pairwise_cons.mpr ⟨hfirst, hrest⟩
    · rename_i hne
      split
      · rename_i hlt
        refine List.pairwise_cons.mpr ⟨fun field hm => ?_, h⟩
        rcases List.mem_cons.mp hm with rfl | hm
        · exact hlt
        · exact String.lt_trans hlt (hfirst field hm)
      · rename_i hle
        have hlt : k < key := Std.lt_of_le_of_ne (String.not_lt.mp hle) (Ne.symm hne)
        refine List.pairwise_cons.mpr ⟨fun field hm => ?_, ih hrest⟩
        rcases eq_or_mem_of_mem_insert hm with rfl | hm
        · exact hlt
        · exact hfirst field hm

/-- The keys of fields that are given in any order ascend. -/
theorem keysAscend_ofList (pairs : List (String × α)) : KeysAscend (ofList pairs) := by
  have hfold : ∀ fields : Fields α, KeysAscend fields →
      KeysAscend (pairs.foldl (fun fields pair => Fields.insert pair.1 pair.2 fields) fields) := by
    induction pairs with
    | nil => exact fun _ h => h
    | cons pair rest ih => exact fun fields h => ih _ (h.insert pair.1 pair.2)
  exact hfold [] keysAscend_nil

/-- Changing the values keeps the keys in order. -/
theorem keysAscend_map_iff {f : α → β} {fields : Fields α} :
    KeysAscend (fields.map fun field => (field.1, f field.2)) ↔ KeysAscend fields :=
  List.pairwise_map

/-- Nothing is under a key that lies below all keys. -/
theorem get?_eq_none_of_lt {key : String} {fields : Fields α}
    (h : ∀ field ∈ fields, key < field.1) : get? fields key = none := by
  induction fields with
  | nil => rfl
  | cons first rest ih =>
    have hne : key ≠ first.1 := fun he =>
      String.lt_irrefl key (Eq.subst he.symm (h first List.mem_cons_self))
    rw [get?, if_neg hne]
    exact ih fun field hm => h field (List.mem_cons_of_mem _ hm)

/-- What is found in fields with ascending keys is not below their first key. -/
theorem not_lt_of_get?_ne_none {key : String} {field : String × α} {rest : Fields α}
    (h : KeysAscend (field :: rest)) (hget : get? (field :: rest) key ≠ none) : ¬key < field.1 := by
  intro hlt
  refine hget (get?_eq_none_of_lt fun other hm => ?_)
  rcases List.mem_cons.mp hm with rfl | hm
  · exact hlt
  · exact String.lt_trans hlt ((List.pairwise_cons.mp h).1 other hm)

/-- **Fields with the same values under all keys are the same list**, if their keys ascend. -/
theorem eq_of_get?_eq {xs ys : Fields α} (hx : KeysAscend xs) (hy : KeysAscend ys)
    (h : ∀ key, get? xs key = get? ys key) : xs = ys := by
  induction xs generalizing ys with
  | nil =>
    cases ys with
    | nil => rfl
    | cons y ys => exact absurd (h y.1) (by simp [get?])
  | cons x xs ih =>
    cases ys with
    | nil => exact absurd (h x.1) (by simp [get?])
    | cons y ys =>
      -- each first key is found in the other fields, so neither lies below the other
      have hkeys : x.1 = y.1 := by
        refine String.le_antisymm (String.not_lt.mp ?_) (String.not_lt.mp ?_)
        · exact not_lt_of_get?_ne_none hx (by simp [h y.1])
        · exact not_lt_of_get?_ne_none hy (by simp [← h x.1])
      have hvalues : x.2 = y.2 := by
        have hfirst := h x.1
        rw [get?_cons_self, hkeys, get?_cons_self] at hfirst
        exact Option.some.inj hfirst
      have hrest : ∀ key, get? xs key = get? ys key := by
        intro key
        by_cases hkey : key = x.1
        · have hxs : get? xs key = none :=
            get?_eq_none_of_lt fun field hm => hkey ▸ (List.pairwise_cons.mp hx).1 field hm
          have hys : get? ys key = none :=
            get?_eq_none_of_lt fun field hm => hkey ▸ hkeys ▸ (List.pairwise_cons.mp hy).1 field hm
          rw [hxs, hys]
        · have hlater := h key
          rwa [get?, get?, if_neg hkey, if_neg (hkeys ▸ hkey)] at hlater
      rw [Prod.ext hkeys hvalues,
        ih (List.pairwise_cons.mp hx).2 (List.pairwise_cons.mp hy).2 hrest]

end Fields

end Criteria
