import Criteria.Proofs.Evaluation.Extent
import Criteria.Proofs.Evaluation.Results
import Criteria.Proofs.Number.Integers

/-!
# The numbers that an evaluation can come to

Nothing is computed with numbers but comparisons, so where there are no host functions the numbers
in a result are known: they are literals of the expression, numbers of the data, or counts. A
property of numbers that these have is one of all numbers in the result, however deep they are in
it (`Criteria.Expression.allNumbers_outcome`).

The numbers of valid data are finite (`Criteria.Datum.allNumbers_of_validate`), and so are counts,
so a number that is not finite can only come from the expression.
-/

namespace Criteria

/-! ### The numbers of a value -/

namespace Value

/-- Whether all numbers that are found in a value have a property. -/
def AllNumbers (p : Binary64 → Prop) (v : Value) : Prop := ∀ x, .number x ∈ v.parts → p x

variable {p q : Binary64 → Prop}

/-- A weaker property holds of all numbers, too. -/
theorem AllNumbers.imp {v : Value} (h : v.AllNumbers p) (hpq : ∀ x, p x → q x) :
    v.AllNumbers q := fun x hx => hpq x (h x hx)

/-- A part of elements is a part of one of them. -/
theorem mem_itemParts_iff {w : Value} {items : List Value} :
    w ∈ itemParts items ↔ ∃ v ∈ items, w ∈ v.parts := by
  induction items with
  | nil => simp [itemParts]
  | cons item rest ih => simp [itemParts, ih]

/-- A part of fields is a part of what is under one of the keys. -/
theorem mem_fieldParts_iff {w : Value} {fields : List (String × Value)} :
    w ∈ fieldParts fields ↔ ∃ field ∈ fields, w ∈ field.2.parts := by
  induction fields with
  | nil => simp [fieldParts]
  | cons field rest ih =>
    obtain ⟨key, v⟩ := field
    simp [fieldParts, ih]

theorem allNumbers_nil : nil.AllNumbers p := by simp [AllNumbers, parts]

theorem allNumbers_bool (b : Bool) : (bool b).AllNumbers p := by simp [AllNumbers, parts]

theorem allNumbers_string (s : String) : (string s).AllNumbers p := by simp [AllNumbers, parts]

theorem allNumbers_number_iff {x : Binary64} : (number x).AllNumbers p ↔ p x := by
  simp [AllNumbers, parts]

/-- The numbers of an array are those of its elements. -/
theorem allNumbers_array_iff {items : List Value} :
    (array items).AllNumbers p ↔ ∀ v ∈ items, v.AllNumbers p := by
  simp only [AllNumbers, parts, List.mem_cons, reduceCtorEq, false_or, mem_itemParts_iff]
  exact ⟨fun h v hv x hx => h x ⟨v, hv, hx⟩, fun h x ⟨v, hv, hx⟩ => h v hv x hx⟩

/-- The numbers of an object are those of its fields. -/
theorem allNumbers_object_iff {fields : List (String × Value)} :
    (object fields).AllNumbers p ↔ ∀ field ∈ fields, field.2.AllNumbers p := by
  simp only [AllNumbers, parts, List.mem_cons, reduceCtorEq, false_or, mem_fieldParts_iff]
  exact ⟨fun h v hv x hx => h x ⟨v, hv, hx⟩, fun h x ⟨v, hv, hx⟩ => h v hv x hx⟩

/-- The numbers of an array of data are those of its elements. -/
theorem allNumbers_ofDatum_array_iff {items : List Datum} :
    (ofDatum (.array items)).AllNumbers p ↔ ∀ d ∈ items, (ofDatum d).AllNumbers p := by
  rw [ofDatum, ofItems_eq_map, allNumbers_array_iff, List.forall_mem_map]

/-- The numbers of an object of data are those of its fields. -/
theorem allNumbers_ofDatum_object_iff {fields : List (String × Datum)} :
    (ofDatum (.object fields)).AllNumbers p ↔
      ∀ field ∈ fields, (ofDatum field.2).AllNumbers p := by
  rw [ofDatum, ofFields_eq_map, allNumbers_object_iff, List.forall_mem_map]

/-- The numbers of a part are among the numbers of the whole. -/
theorem AllNumbers.of_isPartOf {c d : Datum} (h : c.IsPartOf d) (hd : (ofDatum d).AllNumbers p) :
    (ofDatum c).AllNumbers p := by
  induction h with
  | refl => exact hd
  | item hm _ ih => exact ih (allNumbers_ofDatum_array_iff.mp hd _ hm)
  | field hm _ ih => exact ih (allNumbers_ofDatum_object_iff.mp hd _ hm)

end Value

/-! ### The numbers of valid data -/

mutual

/-- **The numbers of valid data are finite.** -/
theorem Datum.allNumbers_of_validate : ∀ d : Datum, d.validate = .ok () →
    (Value.ofDatum d).AllNumbers (·.isFinite = true)
  | .nil, _ => Value.allNumbers_nil
  | .bool b, _ => Value.allNumbers_bool b
  | .string s, _ => Value.allNumbers_string s
  | .integer n, _ => Value.allNumbers_number_iff.mpr (Binary64.isFinite_ofInt64 n)
  | .float x, h => by
    rw [Datum.validate] at h
    split at h
    · rename_i hx
      exact Value.allNumbers_number_iff.mpr hx
    · cases h
  | .array items, h =>
    Value.allNumbers_ofDatum_array_iff.mpr (Datum.allNumbers_of_validateItems items h)
  | .object fields, h =>
    Value.allNumbers_ofDatum_object_iff.mpr (Datum.allNumbers_of_validateFields fields h)

theorem Datum.allNumbers_of_validateItems : ∀ items : List Datum,
    Datum.validateItems items = .ok () →
      ∀ d ∈ items, (Value.ofDatum d).AllNumbers (·.isFinite = true)
  | [], _ => by simp
  | item :: rest, h => by
    obtain ⟨⟨-, hitem⟩, hrest⟩ := List.forall_mem_cons.mp (Datum.validateItems_eq_ok_iff.mp h)
    have hothers := Datum.allNumbers_of_validateItems rest (Datum.validateItems_eq_ok_iff.mpr hrest)
    exact List.forall_mem_cons.mpr ⟨Datum.allNumbers_of_validate item hitem, hothers⟩

theorem Datum.allNumbers_of_validateFields : ∀ fields : List (String × Datum),
    Datum.validateFields fields = .ok () →
      ∀ field ∈ fields, (Value.ofDatum field.2).AllNumbers (·.isFinite = true)
  | [], _ => by simp
  | (key, value) :: rest, h => by
    obtain ⟨hvalue, hrest⟩ := List.forall_mem_cons.mp (Datum.validateFields_eq_ok_iff.mp h)
    have hothers :=
      Datum.allNumbers_of_validateFields rest (Datum.validateFields_eq_ok_iff.mpr hrest)
    exact List.forall_mem_cons.mpr ⟨Datum.allNumbers_of_validate value hvalue, hothers⟩

end

/-! ### The numbers of a result -/

/-- A property of the numbers that an evaluation finds, apart from those in the expression: of all
counts and of all numbers of the data. -/
structure HoldsOfNumbers (p : Binary64 → Prop) (root : Datum) : Prop where
  count (n : Int64) : p (.ofInt n.toInt)
  data : (Value.ofDatum root).AllNumbers p

/-- The numbers that an evaluation finds in valid data are finite. -/
theorem holdsOfNumbers_isFinite {root : Datum} (h : root.validate = .ok ()) :
    HoldsOfNumbers (·.isFinite = true) root where
  count := Binary64.isFinite_ofInt64
  data := root.allNumbers_of_validate h

/-- A weaker property holds of the numbers that an evaluation begins with, too. -/
theorem HoldsOfNumbers.imp {p q : Binary64 → Prop} {root : Datum} (h : HoldsOfNumbers p root)
    (hpq : ∀ x, p x → q x) : HoldsOfNumbers q root where
  count n := hpq _ (h.count n)
  data := h.data.imp hpq

/-- A property of all numbers that are written among some operands. -/
def HoldsOfLiterals (p : Binary64 → Prop) (operands : List Operand) : Prop :=
  ∀ x, .number x ∈ operands → p x

section Results

variable {f : PredicateOracle} {root : Datum} {p : Binary64 → Prop}

theorem HoldsOfLiterals.left {xs ys : List Operand} (h : HoldsOfLiterals p (xs ++ ys)) :
    HoldsOfLiterals p xs := fun x hx => h x (List.mem_append_left _ hx)

theorem HoldsOfLiterals.right {xs ys : List Operand} (h : HoldsOfLiterals p (xs ++ ys)) :
    HoldsOfLiterals p ys := fun x hx => h x (List.mem_append_right _ hx)

/-- Counts are the only numbers that functions make. -/
theorem Builtin.Returns.allNumbers {b : Builtin} {arguments : List Datum} {d : Datum}
    (h : b.Returns f arguments d) (hp : HoldsOfNumbers p root)
    (ha : ∀ a ∈ arguments, (Value.ofDatum a).AllNumbers p) : (Value.ofDatum d).AllNumbers p := by
  cases h with
  | packed => exact Value.allNumbers_ofDatum_array_iff.mpr ha
  | counted => exact Value.allNumbers_number_iff.mpr (hp.count _)
  | selected _ hk =>
    have hitems := Value.allNumbers_ofDatum_array_iff.mp (ha _ List.mem_cons_self)
    refine Value.allNumbers_ofDatum_array_iff.mpr fun d hd => ?_
    exact hitems d ((keepItems_sublist hk).subset hd)
  | member | has | found => exact Value.allNumbers_bool _

mutual

/-- **A property of the numbers that an evaluation finds and of the numbers in the expression is one
of all numbers in the result.** -/
theorem Expression.allNumbers_outcome (hp : HoldsOfNumbers p root) : ∀ e : Expression,
    HoldsOfLiterals p e.operands → ∀ v, e.outcome f root = .ok v → v.AllNumbers p
  | .term c, h, v, hv => Comparison.allNumbers_outcome hp c h v hv
  | .chain .., _, v, hv => by
    obtain ⟨b, rfl⟩ := (Expression.HasOperator.logical _ _ _).exists_bool_of_outcome hv
    exact Value.allNumbers_bool b

theorem Comparison.allNumbers_outcome (hp : HoldsOfNumbers p root) : ∀ c : Comparison,
    HoldsOfLiterals p c.operands → ∀ v, c.outcome f root = .ok v → v.AllNumbers p
  | .term u, h, v, hv => Unary.allNumbers_outcome hp u h v hv
  | .chain .., _, v, hv => by
    obtain ⟨b, rfl⟩ := (Expression.HasOperator.comparison _ _ _).exists_bool_of_outcome hv
    exact Value.allNumbers_bool b

theorem Unary.allNumbers_outcome (hp : HoldsOfNumbers p root) : ∀ u : Unary,
    HoldsOfLiterals p u.operands → ∀ v, u.outcome f root = .ok v → v.AllNumbers p
  | .plain x, h, v, hv => Operand.allNumbers_outcome hp x h v hv
  | .applied .., _, v, hv => by
    obtain ⟨b, rfl⟩ := (Expression.HasOperator.unary _ _).exists_bool_of_outcome hv
    exact Value.allNumbers_bool b

theorem Operand.allNumbers_outcome (hp : HoldsOfNumbers p root) : ∀ x : Operand,
    HoldsOfLiterals p x.operands → ∀ v, x.outcome f root = .ok v → v.AllNumbers p
  | .number x, h, v, hv => by
    rw [← Except.ok.inj hv]
    exact Value.allNumbers_number_iff.mpr (h x (List.mem_singleton_self _))
  | .string s, _, v, hv | .regex s, _, v, hv => by
    rw [← Except.ok.inj hv]
    exact Value.allNumbers_string s
  | .boolean b, _, v, hv => by
    rw [← Except.ok.inj hv]
    exact Value.allNumbers_bool b
  | .nil, _, v, hv => by
    rw [← Except.ok.inj hv]
    exact Value.allNumbers_nil
  | .reference _ path, _, v, hv => by
    obtain ⟨d, hd, rfl⟩ := exists_ok_of_map (mapError_eq_ok_iff.mp hv)
    have hpart : d.IsPartOf root := Path.isPartOf_of_resolve hd
    exact hp.data.of_isPartOf hpart
  | .call name arguments, h, v, hv => by
    rw [Operand.outcome] at hv
    split at hv
    · cases hv
    · obtain ⟨data, hdata, hv⟩ := exists_ok_of_bind hv
      obtain ⟨d, hd, hv⟩ := exists_ok_of_bind hv
      rw [← Except.ok.inj hv]
      have harguments := Operand.allNumbers_argumentOutcomes hp arguments h.left data hdata
      exact (Builtin.returns_of_apply hd).allNumbers hp harguments
  | .group e, h, v, hv => Expression.allNumbers_outcome hp e h.left v hv

theorem Operand.allNumbers_argumentOutcomes (hp : HoldsOfNumbers p root) :
    ∀ arguments : List Expression, HoldsOfLiterals p (Operand.argumentOperands arguments) →
      ∀ data, Operand.argumentOutcomes f root arguments = .ok data →
        ∀ d ∈ data, (Value.ofDatum d).AllNumbers p
  | [], _, data, hd => by
    rw [← Except.ok.inj hd]
    simp
  | e :: rest, h, data, hd => by
    obtain ⟨v, hv, hd⟩ := exists_ok_of_bind hd
    obtain ⟨ds, hds, hd⟩ := exists_ok_of_bind hd
    have hfirst := Expression.allNumbers_outcome hp e h.left v hv
    have hothers := Operand.allNumbers_argumentOutcomes hp rest h.right ds hds
    rw [← Except.ok.inj hd]
    refine List.forall_mem_cons.mpr ⟨?_, hothers⟩
    rwa [Value.ofDatum_toDatum]

end

end Results

end Criteria
