import Criteria.Proofs.Datum.Exactness
import Criteria.Proofs.Evaluation.Numbers
import Mathlib

/-!
# Results that no context accepts

Data has to be valid to be the root of a context: its numbers are finite, and no array in it is an
element of an array. Evaluation does not keep to that. An expression comes to a number that is not
finite if one is written in it, with more digits than the format has room for, and `@array` puts
its arguments into an array whatever they are. `@array(@array(nil))` is a short example
(`Criteria.nested_array_is_refused`).

These are the two ways, and the only ones. Which expressions go them can be told from the values of
the arguments (`Criteria.Expression.GivesDefect`): a defect that is there is handed on by brackets,
`@array` and `@select`, and by nothing else. **For all other expressions, the result is valid
again** (`Criteria.result_is_valid_iff`). In particular it is if the expression has finite numbers
only and does not call `@array` (`Criteria.Expression.validate_outcome_of_no_source`).
-/

namespace Criteria

/-- The data of a value is an array if the value is. -/
theorem Value.isArray_toDatum_iff {v : Value} :
    v.toDatum.isArray = true ↔ ∃ items, v = .array items := by
  cases v <;> simp [toDatum, Datum.isArray]

/-! ### Where defects come from -/

section Defects

variable (f : PredicateOracle) (root : Datum)

/-- Whether the arguments of `@select` are an array and a predicate that is true for an element of
it that is an array itself. -/
def Operand.SelectsArray (arguments : List Expression) : Prop :=
  ∃ items source tree item,
    Operand.argumentOutcomes f root arguments = .ok [.array items, .string source] ∧
      Expression.parse source = .ok tree ∧ item ∈ items ∧ item.isArray = true ∧
        f tree item = .ok (.bool true)

mutual

/-- Whether a defect comes out of an expression, if something does. -/
def Expression.GivesDefect : Expression → Prop
  | .term c => c.GivesDefect
  | .chain .. => False

/-- Whether a defect comes out of a comparison, if something does; operators give bools. -/
def Comparison.GivesDefect : Comparison → Prop
  | .term u => u.GivesDefect
  | .chain .. => False

/-- Whether a defect comes out of an operand with an operator before it, if something does. -/
def Unary.GivesDefect : Unary → Prop
  | .plain x => x.GivesDefect
  | .applied .. => False

/-- Whether a defect comes out of an operand, if something does. -/
def Operand.GivesDefect : Operand → Prop
  | .number x => x.isFinite = false
  | .call name arguments =>
    match Builtin.ofName? name with
    | some .array => Operand.PacksDefect arguments
    | some .select => Operand.SelectsArray f root arguments
    | _ => False
  | .group e => e.GivesDefect
  | _ => False

/-- Whether there is an argument that a defect comes out of, or that is an array. -/
def Operand.PacksDefect : List Expression → Prop
  | [] => False
  | e :: rest =>
    (e.GivesDefect ∨ ∃ items, e.outcome f root = .ok (.array items)) ∨ Operand.PacksDefect rest

end

end Defects

/-! ### Exactly the other results are valid -/

section Results

variable {f : PredicateOracle} {root : Datum}

/-- Elements for which predicates are evaluated have been checked. -/
def PredicateOracle.ChecksItems (f : PredicateOracle) : Prop :=
  ∀ tree item v, f tree item = .ok v → item.validate = .ok ()

/-- Predicates are evaluated for valid elements only. -/
theorem checksItems_evaluatePredicate (depth : Nat) :
    PredicateOracle.ChecksItems (evaluatePredicate depth) := by
  intro tree item v h
  cases depth with
  | zero => cases h
  | succ depth =>
    rw [evaluatePredicate] at h
    split at h
    · cases h
    · rename_i ctx hctx
      exact Context.checkData_eq_ok_iff.mp (Context.ofDatum_eq_ok_iff.mp hctx).1

/-- Bools are valid data. -/
theorem Datum.validate_toDatum_bool (b : Bool) : (Value.bool b).toDatum.validate = .ok () := rfl

/-- What is kept of an array has been checked, so it is valid unless arrays are among it. -/
theorem Builtin.validate_selection {tree : Expression} {source : String} {items kept : List Datum}
    (hf : f.ChecksItems) (hk : keepItems (test f source tree) items = .ok kept) :
    (Datum.array kept).validate = .ok () ↔
      ¬∃ item ∈ items, item.isArray = true ∧ f tree item = .ok (.bool true) := by
  rw [Datum.validate_array_eq_ok_iff]
  constructor
  · rintro h ⟨item, hm, harray, htrue⟩
    have hkept := (mem_keepItems_iff hk).mpr ⟨hm, test_eq_ok_iff.mpr htrue⟩
    rw [(h item hkept).1] at harray
    cases harray
  · intro h item hkept
    obtain ⟨hm, htest⟩ := (mem_keepItems_iff hk).mp hkept
    have htrue := test_eq_ok_iff.mp htest
    refine ⟨Bool.eq_false_iff.mpr fun harray => h ⟨item, hm, harray, htrue⟩, ?_⟩
    exact hf tree item _ htrue

/-- Whether an array is selected, once the arguments are known. -/
theorem Operand.selectsArray_iff {arguments : List Expression} {items : List Datum}
    {source : String} {tree : Expression}
    (h : Operand.argumentOutcomes f root arguments = .ok [.array items, .string source])
    (hp : Expression.parse source = .ok tree) :
    Operand.SelectsArray f root arguments ↔
      ∃ item ∈ items, item.isArray = true ∧ f tree item = .ok (.bool true) := by
  constructor
  · rintro ⟨items', source', tree', item, h', hp', hitem⟩
    obtain ⟨rfl, rfl⟩ : items = items' ∧ source = source' := by
      simpa using h.symm.trans h'
    obtain rfl := Except.ok.inj (hp.symm.trans hp')
    exact ⟨item, hitem⟩
  · rintro ⟨item, hitem⟩
    exact ⟨items, source, tree, item, h, hp, hitem⟩

mutual

/-- **The value of an expression is valid as data exactly if the expression gives no defect.** -/
theorem Expression.validate_outcome (hf : f.ChecksItems) (hroot : root.validate = .ok ()) :
    ∀ (e : Expression) (v : Value), e.outcome f root = .ok v →
      (v.toDatum.validate = .ok () ↔ ¬e.GivesDefect f root)
  | .term c, v, hv => Comparison.validate_outcome hf hroot c v hv
  | .chain .., v, hv => by
    obtain ⟨b, rfl⟩ := (Expression.HasOperator.logical _ _ _).exists_bool_of_outcome hv
    exact iff_of_true (Datum.validate_toDatum_bool b) id

theorem Comparison.validate_outcome (hf : f.ChecksItems) (hroot : root.validate = .ok ()) :
    ∀ (c : Comparison) (v : Value), c.outcome f root = .ok v →
      (v.toDatum.validate = .ok () ↔ ¬c.GivesDefect f root)
  | .term u, v, hv => Unary.validate_outcome hf hroot u v hv
  | .chain .., v, hv => by
    obtain ⟨b, rfl⟩ := (Expression.HasOperator.comparison _ _ _).exists_bool_of_outcome hv
    exact iff_of_true (Datum.validate_toDatum_bool b) id

theorem Unary.validate_outcome (hf : f.ChecksItems) (hroot : root.validate = .ok ()) :
    ∀ (u : Unary) (v : Value), u.outcome f root = .ok v →
      (v.toDatum.validate = .ok () ↔ ¬u.GivesDefect f root)
  | .plain x, v, hv => Operand.validate_outcome hf hroot x v hv
  | .applied .., v, hv => by
    obtain ⟨b, rfl⟩ := (Expression.HasOperator.unary _ _).exists_bool_of_outcome hv
    exact iff_of_true (Datum.validate_toDatum_bool b) id

theorem Operand.validate_outcome (hf : f.ChecksItems) (hroot : root.validate = .ok ()) :
    ∀ (x : Operand) (v : Value), x.outcome f root = .ok v →
      (v.toDatum.validate = .ok () ↔ ¬x.GivesDefect f root)
  | .number x, v, hv => by
    rw [← Except.ok.inj hv]
    cases hx : x.isFinite <;> simp [Value.toDatum, Datum.validate, Operand.GivesDefect, hx]
  | .string s, v, hv | .regex s, v, hv | .boolean s, v, hv | .nil, v, hv => by
    rw [← Except.ok.inj hv]
    exact iff_of_true rfl id
  | .reference _ path, v, hv => by
    obtain ⟨d, hd, rfl⟩ := exists_ok_of_map (mapError_eq_ok_iff.mp hv)
    have hpart : d.IsPartOf root := Path.isPartOf_of_resolve hd
    exact iff_of_true ((Datum.validate_toDatum_ofDatum d).mpr (hpart.validate hroot)) id
  | .call name arguments, v, hv => by
    rw [Operand.outcome] at hv
    split at hv
    · cases hv
    · rename_i b hb
      obtain ⟨data, hdata, hv⟩ := exists_ok_of_bind hv
      obtain ⟨d, hd, hv⟩ := exists_ok_of_bind hv
      rw [← Except.ok.inj hv, Datum.validate_toDatum_ofDatum, Operand.GivesDefect, hb]
      cases Builtin.returns_of_apply hd with
      | packed =>
        rw [Datum.validate_array_eq_ok_iff]
        exact Operand.validate_argumentOutcomes hf hroot arguments data hdata
      | selected hp hk =>
        rw [Builtin.validate_selection hf hk, Operand.selectsArray_iff hdata hp]
      | counted | member | has | found => exact iff_of_true rfl id
  | .group e, v, hv => Expression.validate_outcome hf hroot e v hv

/-- The data of arguments can be packed exactly if no argument gives a defect and none is an
array. -/
theorem Operand.validate_argumentOutcomes (hf : f.ChecksItems) (hroot : root.validate = .ok ()) :
    ∀ (arguments : List Expression) (data : List Datum),
      Operand.argumentOutcomes f root arguments = .ok data →
        ((∀ d ∈ data, d.isArray = false ∧ d.validate = .ok ()) ↔
          ¬Operand.PacksDefect f root arguments)
  | [], data, hd => by
    rw [← Except.ok.inj hd]
    simp [Operand.PacksDefect]
  | e :: rest, data, hd => by
    obtain ⟨v, hv, hd⟩ := exists_ok_of_bind hd
    obtain ⟨ds, hds, hd⟩ := exists_ok_of_bind hd
    have hfirst := Expression.validate_outcome hf hroot e v hv
    have hothers := Operand.validate_argumentOutcomes hf hroot rest ds hds
    have harray : v.toDatum.isArray = false ↔ ¬∃ items, e.outcome f root = .ok (.array items) := by
      rw [← Bool.not_eq_true, Value.isArray_toDatum_iff, hv]
      simp only [Except.ok.injEq]
    rw [← Except.ok.inj hd, List.forall_mem_cons, hothers, hfirst, harray, Operand.PacksDefect,
      not_or, not_or, and_comm (a := ¬∃ _, _)]

end

/-! ### The sources of defects -/

/-- What a defect may begin with: a number that is not finite, or a call of `@array`. -/
def Operand.IsSource : Operand → Prop
  | .number x => x.isFinite = false
  | .call name _ => Builtin.ofName? name = some .array
  | _ => False

mutual

/-- A defect has its source in the expression. -/
theorem Expression.exists_source (hf : f.ChecksItems) (hroot : root.validate = .ok ()) :
    ∀ e : Expression, e.GivesDefect f root → ∃ x ∈ e.operands, x.IsSource
  | .term c, h => Comparison.exists_source hf hroot c h
  | .chain .., h => h.elim

theorem Comparison.exists_source (hf : f.ChecksItems) (hroot : root.validate = .ok ()) :
    ∀ c : Comparison, c.GivesDefect f root → ∃ x ∈ c.operands, x.IsSource
  | .term u, h => Unary.exists_source hf hroot u h
  | .chain .., h => h.elim

theorem Unary.exists_source (hf : f.ChecksItems) (hroot : root.validate = .ok ()) :
    ∀ u : Unary, u.GivesDefect f root → ∃ x ∈ u.operands, x.IsSource
  | .plain x, h => Operand.exists_source hf hroot x h
  | .applied .., h => h.elim

theorem Operand.exists_source (hf : f.ChecksItems) (hroot : root.validate = .ok ()) :
    ∀ x : Operand, x.GivesDefect f root → ∃ y ∈ x.operands, y.IsSource
  | .number x, h => ⟨.number x, List.mem_singleton_self _, h⟩
  | .string _, h | .boolean _, h | .nil, h | .regex _, h | .reference .., h => h.elim
  | .call name arguments, h => by
    rw [Operand.GivesDefect] at h
    split at h
    · rename_i hb
      exact ⟨.call name arguments, List.mem_append_right _ (List.mem_singleton_self _), hb⟩
    · obtain ⟨y, hy, hsource⟩ := Operand.exists_source_of_selectsArray hf hroot arguments h
      exact ⟨y, List.mem_append_left _ hy, hsource⟩
    · exact h.elim
  | .group e, h => by
    obtain ⟨y, hy, hsource⟩ := Expression.exists_source hf hroot e h
    exact ⟨y, List.mem_append_left _ hy, hsource⟩

/-- An array that holds an array to be selected has a defect itself. -/
theorem Operand.exists_source_of_selectsArray (hf : f.ChecksItems)
    (hroot : root.validate = .ok ()) : ∀ arguments : List Expression,
      Operand.SelectsArray f root arguments →
        ∃ x ∈ Operand.argumentOperands arguments, x.IsSource
  | [], ⟨_, _, _, _, harguments, _⟩ => by cases harguments
  | e :: rest, ⟨items, source, tree, item, harguments, _, hm, harray, _⟩ => by
    obtain ⟨v, hv, hdata⟩ := exists_ok_of_bind harguments
    obtain ⟨data, -, hdata⟩ := exists_ok_of_bind hdata
    have hitems : v.toDatum = .array items := (List.cons.inj (Except.ok.inj hdata)).1
    have hdefect : e.GivesDefect f root := by
      refine Classical.byContradiction fun hno => ?_
      have hvalid := (Expression.validate_outcome hf hroot e v hv).mpr hno
      rw [hitems, Datum.validate_array_eq_ok_iff] at hvalid
      rw [(hvalid item hm).1] at harray
      cases harray
    obtain ⟨x, hx, hsource⟩ := Expression.exists_source hf hroot e hdefect
    exact ⟨x, List.mem_append_left _ hx, hsource⟩

end

/-- **An expression without `@array`, and without a number that is not finite, comes to valid
data.** -/
theorem Expression.validate_outcome_of_no_source (hf : f.ChecksItems)
    (hroot : root.validate = .ok ()) {e : Expression} (hnone : ∀ x ∈ e.operands, ¬x.IsSource)
    {v : Value} (hv : e.outcome f root = .ok v) : v.toDatum.validate = .ok () := by
  refine (Expression.validate_outcome hf hroot e v hv).mpr fun hdefect => ?_
  obtain ⟨x, hx, hsource⟩ := Expression.exists_source hf hroot e hdefect
  exact hnone x hx hsource

/-! ### Evaluation -/

/-- **What an expression comes to against valid data is valid, unless a defect comes out of the
expression.** -/
theorem result_is_valid_iff {σ : Type} {ctx : Context σ} {tree : Expression} {depth : Nat}
    {w : World σ} {v : Value} (hctx : Context.ofDatum root = .ok ctx)
    (hv : (tree.eval depth ctx w).1 = .ok v) :
    v.toDatum.validate = .ok () ↔ ¬tree.GivesDefect (evaluatePredicate depth) root := by
  have hroot := Context.checkData_eq_ok_iff.mp (Context.ofDatum_eq_ok_iff.mp hctx).1
  rw [Expression.eval_apply_eq_outcome hctx] at hv
  exact Expression.validate_outcome (checksItems_evaluatePredicate depth) hroot tree v hv

end Results

/-- The expression `@array(@array(nil))`. -/
def nestedArrayTree : Expression :=
  let inner : Expression := .term (.term (.plain (.call "@array" [.term (.term (.plain .nil))])))
  .term (.term (.plain (.call "@array" [inner])))

/-- **There is an expression whose result no context accepts**: an array in an array. -/
theorem nested_array_is_refused :
    parse "@array(@array(nil))" = .ok nestedArrayTree ∧
      ∃ v, (nestedArrayTree.eval 0 (⟨.nil, .builtins⟩ : Context Unit) ⟨(), []⟩).1 = .ok v ∧
        v.toDatum.validate ≠ .ok () := by
  have hctx : Context.ofDatum .nil = .ok (⟨.nil, .builtins⟩ : Context Unit) := rfl
  have hv : (nestedArrayTree.eval 0 (⟨.nil, .builtins⟩ : Context Unit) ⟨(), []⟩).1 =
      .ok (.array [.array [.nil]]) := by
    cbv
  have hdefect : nestedArrayTree.GivesDefect (evaluatePredicate 0) .nil := by
    -- the argument of the outer call is an array
    refine .inl (.inr ⟨[.nil], ?_⟩)
    cbv
  exact ⟨by cbv, _, hv, fun hvalid => (result_is_valid_iff hctx hv).mp hvalid hdefect⟩

end Criteria
