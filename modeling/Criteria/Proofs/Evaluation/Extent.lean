import Criteria.Proofs.Datum.Validity
import Criteria.Proofs.Evaluation.Universe

/-!
# The universe of an expression and its data

A universe has finitely many openings whose elements can be roots (`Criteria.Universe.openings`),
since such an element is a known value or a short array of known values. And there is a universe
around every expression and every root (`Criteria.Universe.around`): its texts are those of the
root and the tree, the literals of these texts, and so on, which ends because literals are shorter
than the texts that they stand in.
-/

namespace Criteria

/-! ### Finitely many openings -/

namespace Universe

variable (u : Universe)

/-- The lists of at most `n` known values. -/
def lists : Nat → List (List Value)
  | 0 => [[]]
  | n + 1 => [] :: u.values.flatMap fun v => (lists n).map (v :: ·)

/-- The values of a universe that can be roots. -/
def roots : List Value := u.values ++ (u.lists u.width).map .array

/-- The predicates that the known texts read as. -/
def predicates : List Expression :=
  u.values.filterMap fun v => v.text?.bind fun s => (Expression.parse s).toOption

/-- All openings of a universe for elements that can be roots. -/
def openings : List Opening :=
  u.predicates.flatMap fun tree => u.roots.map fun v => ⟨tree, v.toDatum⟩

variable {u}

/-- Every list of at most `n` known values is among the lists. -/
theorem mem_lists {n : Nat} {items : List Value} (hn : items.length ≤ n)
    (h : ∀ v ∈ items, v ∈ u.values) : items ∈ u.lists n := by
  induction items generalizing n with
  | nil => cases n <;> exact List.mem_cons_self
  | cons v rest ih =>
    cases n with
    | zero => exact absurd hn (by simp)
    | succ n =>
      refine List.mem_cons_of_mem _ (List.mem_flatMap.mpr ⟨v, h v List.mem_cons_self, ?_⟩)
      refine List.mem_map_of_mem (ih (Nat.le_of_succ_le_succ hn) fun w hw => ?_)
      exact h w (List.mem_cons_of_mem _ hw)

/-- A value of a universe that can be a root is known or an array of known values. -/
theorem mem_roots {v : Value} (h : u.Holds v) (hv : Context.checkData v.toDatum = .ok ()) :
    v ∈ u.roots := by
  cases h with
  | known h => exact List.mem_append_left _ h
  | @array items hw hi =>
    refine List.mem_append_right _ (List.mem_map_of_mem (mem_lists hw fun w hw => ?_))
    -- no element of a root is an array, so all elements are known
    have hflat := Datum.validate_array_eq_ok_iff.mp (Context.checkData_eq_ok_iff.mp hv)
    cases hi w hw with
    | known h => exact h
    | @array inner _ _ =>
      have hmem : (Value.array inner).toDatum ∈ Value.toItems items := by
        rw [Value.toItems_eq_map]
        exact List.mem_map_of_mem hw
      exact absurd (hflat _ hmem).1 (by simp [Value.toDatum, Datum.isArray])

/-- **Only finitely many openings of a universe have elements that can be roots.** -/
theorem mem_openings {q : Opening} (h : u.HoldsOpening q)
    (hq : Context.checkData q.item = .ok ()) : q ∈ u.openings := by
  obtain ⟨source, hs, hp⟩ := h.predicate
  obtain ⟨v, hv, hd⟩ := h.item
  refine List.mem_flatMap.mpr ⟨q.predicate, ?_, List.mem_map.mpr ⟨v, ?_, ?_⟩⟩
  · exact List.mem_filterMap.mpr ⟨.string source, hs, by simp [Value.text?, hp, Except.toOption]⟩
  · exact mem_roots hv (hd ▸ hq)
  · rw [← hd]

end Universe

/-! ### Texts under a text -/

/-- The texts that are written in a text. -/
def textsIn (s : String) : List String :=
  match Expression.parse s with
  | .ok e => e.operands.filterMap Operand.delimited?
  | .error _ => []

/-- The texts inside a text are shorter. -/
theorem length_lt_of_mem_textsIn {s t : String} (h : t ∈ textsIn s) : t.length < s.length := by
  rw [textsIn] at h
  split at h
  · rename_i e he
    obtain ⟨x, hx, hxt⟩ := List.mem_filterMap.mp h
    exact Expression.length_lt_of_delimited he hx hxt
  · exact absurd h (by simp)

/-- A text with the texts that are written in it, in one of those, and so on. -/
def textsUnder (s : String) : List String :=
  s :: (textsIn s).attach.flatMap fun t => textsUnder t.1
termination_by s.length
decreasing_by exact length_lt_of_mem_textsIn t.2

theorem mem_textsUnder_self (s : String) : s ∈ textsUnder s := by
  rw [textsUnder]
  exact List.mem_cons_self

/-- What a text inside gives rise to, the outer one does. -/
theorem textsUnder_subset {s t : String} (h : t ∈ textsIn s) : textsUnder t ⊆ textsUnder s := by
  intro r hr
  rw [textsUnder.eq_1 s]
  exact List.mem_cons_of_mem _ (List.mem_flatMap.mpr ⟨⟨t, h⟩, List.mem_attach _ _, hr⟩)

/-- The texts under a text are closed under taking the texts inside. -/
theorem mem_textsUnder {s t r : String} (ht : t ∈ textsUnder s) (hr : r ∈ textsIn t) :
    r ∈ textsUnder s := by
  -- by the length of the text: what is under one of its literals is so by the hypothesis
  induction s using textsUnder.induct with
  | case1 s ih =>
    rw [textsUnder] at ht
    rcases List.mem_cons.mp ht with rfl | ht
    · exact textsUnder_subset hr (mem_textsUnder_self r)
    · obtain ⟨t', -, ht⟩ := List.mem_flatMap.mp ht
      exact textsUnder_subset t'.2 (ih t' ht)

/-! ### Parts of a value -/

mutual

/-- A value with everything that is found inside of it. -/
def Value.parts : Value → List Value
  | .array items => .array items :: Value.itemParts items
  | .object fields => .object fields :: Value.fieldParts fields
  | v => [v]

/-- The parts of all elements. -/
def Value.itemParts : List Value → List Value
  | [] => []
  | item :: rest => item.parts ++ Value.itemParts rest

/-- The parts of all that is under keys. -/
def Value.fieldParts : List (String × Value) → List Value
  | [] => []
  | (_, value) :: rest => value.parts ++ Value.fieldParts rest

end

theorem Value.mem_parts_self (v : Value) : v ∈ v.parts := by
  cases v <;> exact List.mem_cons_self

/-- The parts of an element are among the parts of all elements. -/
theorem Value.parts_subset_itemParts {v : Value} {items : List Value} (h : v ∈ items) :
    v.parts ⊆ Value.itemParts items := by
  induction items with
  | nil => exact absurd h (by simp)
  | cons item rest ih =>
    intro w hw
    rcases List.mem_cons.mp h with rfl | h
    · exact List.mem_append_left _ hw
    · exact List.mem_append_right _ (ih h hw)

/-- The parts of what is under a key are among the parts of all fields. -/
theorem Value.parts_subset_fieldParts {field : String × Value} {fields : List (String × Value)}
    (h : field ∈ fields) : field.2.parts ⊆ Value.fieldParts fields := by
  induction fields with
  | nil => exact absurd h (by simp)
  | cons other rest ih =>
    intro w hw
    rcases List.mem_cons.mp h with rfl | h
    · exact List.mem_append_left _ hw
    · exact List.mem_append_right _ (ih h hw)

mutual

/-- **Parts of parts are parts.** -/
theorem Value.parts_subset : ∀ v : Value, ∀ w ∈ v.parts, w.parts ⊆ v.parts
  | .nil, w, hw | .bool _, w, hw | .number _, w, hw | .string _, w, hw => by
    rw [List.mem_singleton.mp hw]
    exact List.Subset.refl _
  | .array items, w, hw => by
    rcases List.mem_cons.mp hw with rfl | hw
    · exact List.Subset.refl _
    · exact fun x hx => List.mem_cons_of_mem _ (Value.itemParts_subset items w hw hx)
  | .object fields, w, hw => by
    rcases List.mem_cons.mp hw with rfl | hw
    · exact List.Subset.refl _
    · exact fun x hx => List.mem_cons_of_mem _ (Value.fieldParts_subset fields w hw hx)

theorem Value.itemParts_subset : ∀ items : List Value, ∀ w ∈ Value.itemParts items,
    w.parts ⊆ Value.itemParts items
  | [], w, hw => absurd hw (by simp [Value.itemParts])
  | item :: rest, w, hw => by
    intro x hx
    rcases List.mem_append.mp hw with hw | hw
    · exact List.mem_append_left _ (Value.parts_subset item w hw hx)
    · exact List.mem_append_right _ (Value.itemParts_subset rest w hw hx)

theorem Value.fieldParts_subset : ∀ fields : List (String × Value), ∀ w ∈ Value.fieldParts fields,
    w.parts ⊆ Value.fieldParts fields
  | [], w, hw => absurd hw (by simp [Value.fieldParts])
  | (_, value) :: rest, w, hw => by
    intro x hx
    rcases List.mem_append.mp hw with hw | hw
    · exact List.mem_append_left _ (Value.parts_subset value w hw hx)
    · exact List.mem_append_right _ (Value.fieldParts_subset rest w hw hx)

end

/-- The elements of an array that is a part are parts. -/
theorem Value.item_mem_parts {v : Value} {items : List Value} (h : .array items ∈ v.parts) :
    ∀ w ∈ items, w ∈ v.parts := by
  intro w hw
  have hpart : w ∈ Value.itemParts items := Value.parts_subset_itemParts hw w.mem_parts_self
  exact Value.parts_subset v _ h (List.mem_cons_of_mem _ hpart)

/-- What is under the keys of an object that is a part is a part. -/
theorem Value.field_mem_parts {v : Value} {fields : List (String × Value)}
    (h : .object fields ∈ v.parts) : ∀ field ∈ fields, field.2 ∈ v.parts := by
  intro field hf
  have hpart : field.2 ∈ Value.fieldParts fields :=
    Value.parts_subset_fieldParts hf field.2.mem_parts_self
  exact Value.parts_subset v _ h (List.mem_cons_of_mem _ hpart)

/-! ### The universe around an expression and a root -/

/-- The value of a literal. -/
def Operand.literal? : Operand → Option Value
  | .number x => some (.number x)
  | .string s | .regex s => some (.string s)
  | _ => none

/-- The count of the arguments of a call. -/
def Operand.arity : Operand → Nat
  | .call _ arguments => arguments.length
  | _ => 0

/-- The count of the elements of an array. -/
def Value.arity : Value → Nat
  | .array items => items.length
  | _ => 0

namespace Extent

section

variable (tree : Expression) (root : Value)

/-- What is there to begin with: the literals of the expression and the parts of the root. -/
def seeds : List Value := tree.operands.filterMap Operand.literal? ++ root.parts

/-- The texts that can be read as predicates. -/
def texts : List String := ((seeds tree root).filterMap Value.text?).flatMap textsUnder

/-- The expression with all predicates that can be read. -/
def trees : List Expression :=
  tree :: (texts tree root).filterMap fun s => (Expression.parse s).toOption

/-- The operands of all trees. -/
def operands : List Operand := (trees tree root).flatMap Expression.operands

/-- The length of the longest argument list and array. -/
def width : Nat :=
  (((operands tree root).map Operand.arity ++ root.parts.map Value.arity).max?).getD 0

/-- The numbers that `@len` can give. -/
def counts : List Value :=
  (List.range (width tree root + 1)).map fun n => Value.ofDatum (.integer (.ofNat n))

/-- The known values: what operators and `@len` give, the literals of all trees and the parts of the
root. -/
def values : List Value :=
  [.nil, .bool true, .bool false] ++ counts tree root ++
    (operands tree root).filterMap Operand.literal? ++ root.parts

end

variable {tree : Expression} {root : Value}

/-- What a known value is. -/
theorem mem_values {v : Value} : v ∈ values tree root ↔
    v ∈ [Value.nil, .bool true, .bool false] ∨ v ∈ counts tree root ∨
      (∃ x ∈ operands tree root, x.literal? = some v) ∨ v ∈ root.parts := by
  simp only [values, List.mem_append, List.mem_filterMap, or_assoc]

/-- The counts up to the width are known. -/
theorem count_mem_values {n : Nat} (h : n ≤ width tree root) :
    Value.ofDatum (.integer (.ofNat n)) ∈ values tree root := by
  have hcount : Value.ofDatum (.integer (.ofNat n)) ∈ counts tree root :=
    List.mem_map.mpr ⟨n, List.mem_range.mpr (Nat.lt_succ_of_le h), rfl⟩
  exact mem_values.mpr (.inr (.inl hcount))

/-- The literals of all trees are known. -/
theorem literal_mem_values {x : Operand} {v : Value} (hx : x ∈ operands tree root)
    (hv : x.literal? = some v) : v ∈ values tree root :=
  mem_values.mpr (.inr (.inr (.inl ⟨x, hx, hv⟩)))

theorem part_mem_values {v : Value} (h : v ∈ root.parts) : v ∈ values tree root :=
  mem_values.mpr (.inr (.inr (.inr h)))

/-- Counts are numbers. -/
theorem exists_number_of_mem_counts {v : Value} (h : v ∈ counts tree root) :
    ∃ x, v = .number x := by
  obtain ⟨n, -, rfl⟩ := List.mem_map.mp h
  exact ⟨_, rfl⟩

/-- A literal that is a text stands between delimiters. -/
theorem delimited_of_literal {x : Operand} {s : String} (h : x.literal? = some (.string s)) :
    x.delimited? = some s := by
  cases x <;> simp_all [Operand.literal?, Operand.delimited?]

/-- The texts of literals are among the texts. -/
theorem mem_texts_of_literal {x : Operand} {s : String} (hx : x ∈ operands tree root)
    (hs : x.literal? = some (.string s)) : s ∈ texts tree root := by
  obtain ⟨t, ht, hxt⟩ := List.mem_flatMap.mp hx
  -- a literal of the expression itself is a seed, one of a predicate is in the predicate's text
  rcases List.mem_cons.mp ht with rfl | ht
  · refine List.mem_flatMap.mpr ⟨s, List.mem_filterMap.mpr ⟨.string s, ?_, rfl⟩,
      mem_textsUnder_self s⟩
    exact List.mem_append_left _ (List.mem_filterMap.mpr ⟨x, hxt, hs⟩)
  · obtain ⟨source, hsource, hp⟩ := List.mem_filterMap.mp ht
    obtain ⟨seed, hseed, hunder⟩ := List.mem_flatMap.mp hsource
    refine List.mem_flatMap.mpr ⟨seed, hseed, mem_textsUnder hunder ?_⟩
    rw [textsIn]
    cases he : Expression.parse source with
    | error e => simp [he, Except.toOption] at hp
    | ok e =>
      rw [he] at hp
      rw [Option.some.inj hp]
      exact List.mem_filterMap.mpr ⟨x, hxt, delimited_of_literal hs⟩

/-- Every text that is known is among the texts. -/
theorem mem_texts {s : String} (h : .string s ∈ values tree root) : s ∈ texts tree root := by
  rcases mem_values.mp h with h | h | ⟨x, hx, hs⟩ | h
  · exact absurd h (by simp)
  · obtain ⟨x, hx⟩ := exists_number_of_mem_counts h
    exact absurd hx (by simp)
  · exact mem_texts_of_literal hx hs
  · -- the parts of the root are seeds
    refine List.mem_flatMap.mpr ⟨s, List.mem_filterMap.mpr ⟨.string s, ?_, rfl⟩,
      mem_textsUnder_self s⟩
    exact List.mem_append_right _ h

/-- Arrays and objects are found in the root only. -/
theorem mem_parts_of_container {v : Value} (h : v ∈ values tree root)
    (hv : (∃ items, v = .array items) ∨ ∃ fields, v = .object fields) : v ∈ root.parts := by
  rcases mem_values.mp h with h | h | ⟨x, -, hx⟩ | h
  · rcases hv with ⟨items, rfl⟩ | ⟨fields, rfl⟩ <;> exact absurd h (by simp)
  · obtain ⟨x, rfl⟩ := exists_number_of_mem_counts h
    rcases hv with ⟨items, hi⟩ | ⟨fields, hf⟩
    · cases hi
    · cases hf
  · cases x <;> rcases hv with ⟨items, rfl⟩ | ⟨fields, rfl⟩ <;> simp [Operand.literal?] at hx
  · exact h

/-- No argument list is longer than the width. -/
theorem arity_le_width {x : Operand} (h : x ∈ operands tree root) :
    x.arity ≤ width tree root := by
  have harity : x.arity ∈ (operands tree root).map Operand.arity := List.mem_map_of_mem h
  exact List.le_max?_getD_of_mem (List.mem_append_left _ harity)

/-- No array of the root is longer than the width. -/
theorem length_le_width {items : List Value} (h : .array items ∈ root.parts) :
    items.length ≤ width tree root := by
  have harity : items.length ∈ root.parts.map Value.arity := List.mem_map_of_mem h
  exact List.le_max?_getD_of_mem (List.mem_append_right _ harity)

/-- All operands of all trees are within the known values and the width. -/
theorem isWithin {x : Operand} (h : x ∈ operands tree root) :
    x.IsWithin (values tree root) (width tree root) := by
  cases x with
  | number y => exact literal_mem_values h rfl
  | string s => exact literal_mem_values h rfl
  | regex s => exact literal_mem_values h rfl
  | call name arguments => exact arity_le_width h
  | _ => trivial

end Extent

/-- **The universe around an expression and a root.** -/
def Universe.around (tree : Expression) (root : Value) : Universe where
  values := Extent.values tree root
  width := Extent.width tree root
  nil_mem := Extent.mem_values.mpr (.inl (by simp))
  bool_mem b := Extent.mem_values.mpr (.inl (by cases b <;> simp))
  count_mem h := Extent.count_mem_values h
  length_le h := by
    have hpart := Extent.mem_parts_of_container h (.inl ⟨_, rfl⟩)
    exact Extent.length_le_width hpart
  item_mem h v hv := by
    have hpart := Extent.mem_parts_of_container h (.inl ⟨_, rfl⟩)
    exact Extent.part_mem_values (Value.item_mem_parts hpart v hv)
  field_mem h field hf := by
    have hpart := Extent.mem_parts_of_container h (.inr ⟨_, rfl⟩)
    exact Extent.part_mem_values (Value.field_mem_parts hpart field hf)
  isWithin := by
    intro source tree' hs hp x hx
    have htree : tree' ∈ Extent.trees tree root := by
      refine List.mem_cons_of_mem _ (List.mem_filterMap.mpr ⟨source, Extent.mem_texts hs, ?_⟩)
      simp [hp, Except.toOption]
    exact Extent.isWithin (List.mem_flatMap.mpr ⟨tree', htree, hx⟩)

/-- The universe around an expression admits it. -/
theorem Universe.admits_around (tree : Expression) (root : Value) :
    (Universe.around tree root).Admits tree.operands :=
  fun _ hx => Extent.isWithin (List.mem_flatMap.mpr ⟨tree, List.mem_cons_self, hx⟩)

/-- The universe around a root holds it. -/
theorem Universe.around_holds (tree : Expression) (root : Value) :
    (Universe.around tree root).Holds root :=
  .known (Extent.part_mem_values root.mem_parts_self)

end Criteria
