import Criteria.Proofs.Context.Building
import Criteria.Proofs.Datum.Exactness
import Criteria.Proofs.Evaluation.Selection
import Mathlib

/-!
# Filtering context data

`@select` makes every element that it tries its predicate on the root of a context of its own, and a
context checks its root. Elements may fail this check: an array may have been put together from
arrays on the way. Where the array is named by a variable, nothing has been put together. It is a
part of a root that has been checked, and so are its elements, which are no arrays. On the way into
the function all integers become floats, and this takes no validity away.

**So filtering context data never fails for an element that cannot be a root.** It fails for a
predicate that cannot be read or that is no predicate for an element
(`Criteria.filtering_passes_validation`).
-/

namespace Criteria

/-! ### Why filtering stops -/

namespace Builtin

variable {f : PredicateOracle} {source : String} {tree : Expression} {s : Stop}

/-- A test stops where the predicate does, or where it comes to something else than a bool. -/
theorem test_eq_error_iff {item : Datum} :
    test f source tree item = .error s ↔ f tree item = .error s ∨
      ∃ v, f tree item = .ok v ∧ (∀ b, v ≠ .bool b) ∧
        s = .error (.mismatch (.predicateNotBool source v.kindName)) := by
  rw [test]
  cases f tree item with
  | error s' => simp
  | ok v => cases v <;> simp [verdict, Except.mapError, eq_comm]

/-- Filtering stops for a predicate that cannot be read, and otherwise at the first element that the
predicate says nothing about. -/
theorem selection_eq_error_iff {items : List Datum} :
    selection f items source = .error s ↔
      (∃ e, Expression.parse source = .error e ∧ s = .error (.parse e)) ∨
      ∃ tree, Expression.parse source = .ok tree ∧
        ∃ before item after, items = before ++ item :: after ∧
          (∀ d ∈ before, ∃ b, f tree d = .ok (.bool b)) ∧ test f source tree item = .error s := by
  cases hp : Expression.parse source with
  | error e => simp [selection, hp, eq_comm]
  | ok tree =>
    simp only [selection_of_parse hp, map_eq_error_iff, keepItems_eq_error_iff, test_eq_ok_iff,
      reduceCtorEq, false_and, exists_false, false_or, Except.ok.injEq, exists_eq_left']

end Builtin

/-! ### Calls of functions -/

section Call

open Evaluation

variable {σ : Type} {evaluate : Expression → Datum → Except Stop Value} {ctx : Context σ}
  {w w' w'' : World σ}

/-- Arguments are evaluated one behind the other. -/
theorem Operand.argumentsWith_cons_of_ok {e : Expression} {rest : List Expression} {v : Value}
    {ds : List Datum} (he : e.evalWith evaluate ctx w = (.ok v, w'))
    (hrest : Operand.argumentsWith evaluate ctx rest w' = (.ok ds, w'')) :
    Operand.argumentsWith evaluate ctx (e :: rest) w = (.ok (v.toDatum :: ds), w'') := by
  rw [Operand.argumentsWith, bind_of_ok he, bind_of_ok hrest]
  rfl

/-- A builtin function is applied to what its arguments came to, in the world that they left. -/
theorem Operand.evalWith_call_of_builtin {name : String} {b : Builtin}
    {arguments : List Expression} {ds : List Datum} (hb : ctx.function? name = some (.builtin b))
    (harguments : Operand.argumentsWith evaluate ctx arguments w = (.ok ds, w')) :
    (Operand.call name arguments).evalWith evaluate ctx w =
      ((b.apply evaluate ds).map Value.ofDatum, w') := by
  simp only [Operand.evalWith, hb]
  rw [bind_of_ok harguments]
  change (ofOutcome (b.apply evaluate ds) >>= fun d => pure (Value.ofDatum d)) w' = _
  cases b.apply evaluate ds <;> rfl

/-- A host function is called with what its arguments came to, in the world that they left, and the
call is recorded. What it returns is made into a value, and its error is passed on. -/
theorem Operand.evalWith_call_of_host {name : String} {f : HostFunction σ}
    {arguments : List Expression} {ds : List Datum} (hf : ctx.function? name = some (.host f))
    (harguments : Operand.argumentsWith evaluate ctx arguments w = (.ok ds, w')) :
    (Operand.call name arguments).evalWith evaluate ctx w =
      (((f ds w'.host).1.map Value.ofDatum).mapError .error,
        ⟨(f ds w'.host).2, w'.calls ++ [⟨name, ds, (f ds w'.host).1⟩]⟩) := by
  simp only [Operand.evalWith, hf]
  rw [bind_of_ok harguments]
  change (callHost name f ds >>= fun d => pure (Value.ofDatum d)) w' = _
  rw [bind_apply, callHost]
  rcases f ds w'.host with ⟨_ | d, host⟩ <;> rfl

/-- What a call of `@select` on a variable comes to once the predicate has come to a text: the
filter of what the variable names by this text. -/
theorem eval_select_of_resolve (hselect : ctx.function? "@select" = some (.builtin .select))
    {path : Path} {d : Datum} (hd : Path.resolve path ctx.data = .ok d) (text : String)
    {depth : Nat} {predicate : Expression} {source : String}
    (hp : predicate.eval depth ctx w = (.ok (.string source), w')) :
    (Expression.lone (.call "@select" [.lone (.reference text path), predicate])).eval depth ctx w =
      ((Builtin.run depth .select [(Value.ofDatum d).toDatum, .string source]).map Value.ofDatum,
        w') := by
  have hlookup : ctx.lookUp path = .ok (Value.ofDatum d) := by
    rw [Context.lookUp, hd]
    rfl
  have hvariable :
      (Expression.lone (.reference text path)).evalWith (evaluatePredicate depth) ctx w =
        (.ok (Value.ofDatum d), w) := by
    change (ofExcept (ctx.lookUp path) : Evaluation σ Value) w = _
    rw [hlookup]
    rfl
  exact Operand.evalWith_call_of_builtin hselect (Operand.argumentsWith_cons_of_ok hvariable
    (Operand.argumentsWith_cons_of_ok hp rfl))

end Call

/-! ### Elements as roots -/

/-- The argument made of an array has an element made of each of its elements. -/
theorem Datum.toDatum_ofDatum_array (elements : List Datum) :
    (Value.ofDatum (.array elements)).toDatum =
      .array (elements.map fun element => (Value.ofDatum element).toDatum) := by
  rw [Value.ofDatum, Value.toDatum, Value.ofItems_eq_map, Value.toItems_eq_map, List.map_map]
  rfl

/-- The context that a predicate is evaluated against for an element. -/
def itemContext (item : Datum) : Context Unit := ⟨item, .builtins⟩

/-- Valid data is accepted as a root. -/
theorem ofDatum_eq_itemContext {item : Datum} (h : item.validate = .ok ()) :
    Context.ofDatum item = .ok (itemContext item) :=
  Context.ofDatum_eq_ok_iff.mpr ⟨Context.checkData_eq_ok_iff.mpr h, rfl⟩

/-- For a valid element a predicate is evaluated with the element as its root. -/
theorem evaluatePredicate_succ_of_validate {item : Datum} (h : item.validate = .ok ())
    (depth : Nat) (tree : Expression) :
    evaluatePredicate (depth + 1) tree item = (tree.eval depth (itemContext item) ⟨(), []⟩).1 := by
  rw [Expression.eval_apply_of_ofDatum (ofDatum_eq_itemContext h)]

/-- Why a predicate says nothing about an element: evaluating it stops, or comes to something else
than a bool. -/
def SaysNothing (depth : Nat) (source : String) (tree : Expression) (item : Datum) (s : Stop) :
    Prop :=
  let result := (tree.eval depth (itemContext item) ⟨(), []⟩).1
  result = .error s ∨
    ∃ v, result = .ok v ∧ (∀ b, v ≠ .bool b) ∧
      s = .error (.mismatch (.predicateNotBool source v.kindName))

/-- Why a predicate stops the filtering of elements: it cannot be read, or it says nothing about an
element, and gave a bool for those before. -/
def PredicateStops (depth : Nat) (source : String) (items : List Datum) (s : Stop) : Prop :=
  (∃ e, Expression.parse source = .error e ∧ s = .error (.parse e)) ∨
    ∃ tree, Expression.parse source = .ok tree ∧
      ∃ before item after, items = before ++ item :: after ∧
        (∀ other ∈ before, ∃ b,
          (tree.eval depth (itemContext other) ⟨(), []⟩).1 = .ok (.bool b)) ∧
        SaysNothing depth source tree item s

/-- **Over valid elements, filtering is a matter of the predicate alone.** -/
theorem Builtin.selection_eq_error_iff_of_validate {items : List Datum}
    (h : ∀ item ∈ items, item.validate = .ok ()) {depth : Nat} {source : String} {s : Stop} :
    selection (evaluatePredicate (depth + 1)) items source = .error s ↔
      PredicateStops depth source items s := by
  rw [selection_eq_error_iff]
  refine or_congr Iff.rfl (exists_congr fun tree => and_congr_right fun _ => ?_)
  refine exists_congr fun before => exists_congr fun item => exists_congr fun after =>
    and_congr_right fun hitems => ?_
  subst hitems
  refine and_congr (forall₂_congr fun other hm => ?_) ?_
  · rw [evaluatePredicate_succ_of_validate (h other (List.mem_append_left _ hm))]
  · rw [test_eq_error_iff, evaluatePredicate_succ_of_validate (h item (by simp)), SaysNothing]

/-- **Filtering context data never trips over validation.** What a path leads to in valid data is a
part of it, and the argument that is made of it is valid. If it is an array, every element of the
argument is accepted as a root, and a call of `@select` on it, with a predicate that comes to a
text, stops for two reasons only: the text cannot be read, or evaluating it against an element stops
or gives no bool. The first such element decides. -/
theorem filtering_passes_validation {root d : Datum} {path : Path} (hroot : root.validate = .ok ())
    (hd : Path.resolve path root = .ok d) :
    d.IsPartOf root ∧ (Value.ofDatum d).toDatum.validate = .ok () ∧
      ∀ elements, d = .array elements →
        ∃ items, (Value.ofDatum d).toDatum = .array items ∧
          (∀ item ∈ items, Context.ofDatum item = .ok (itemContext item)) ∧
          ∀ {σ : Type} {registrations : List (String × HostFunction σ)} {ctx : Context σ},
            Context.build root registrations = .ok ctx →
              ∀ (text : String) (predicate : Expression) (source : String) (depth : Nat)
                (w w' : World σ),
                predicate.eval (depth + 1) ctx w = (.ok (.string source), w') →
                  ∀ s, ((Expression.lone (.call "@select" [.lone (.reference text path),
                      predicate])).eval (depth + 1) ctx w).1 = .error s ↔
                    PredicateStops depth source items s := by
  have hpart : d.IsPartOf root := Path.isPartOf_of_resolve hd
  have hvalid : (Value.ofDatum d).toDatum.validate = .ok () :=
    (Datum.validate_toDatum_ofDatum d).mpr (hpart.validate hroot)
  refine ⟨hpart, hvalid, ?_⟩
  rintro elements rfl
  refine ⟨_, Datum.toDatum_ofDatum_array elements, ?_⟩
  rw [Datum.toDatum_ofDatum_array, Datum.validate_array_eq_ok_iff] at hvalid
  have hitems := fun item hm => (hvalid item hm).2
  refine ⟨fun item hm => ofDatum_eq_itemContext (hitems item hm), ?_⟩
  intro σ registrations ctx hctx text predicate source depth w w' hp s
  have hselect : ctx.function? "@select" = some (.builtin .select) :=
    Context.function?_name_of_build hctx .select
  have hdata : ctx.data = root := (Context.build_eq_ok_iff.mp hctx).2.2
  rw [← hdata] at hd
  rw [eval_select_of_resolve hselect hd text hp, Datum.toDatum_ofDatum_array,
    ← Builtin.selection_eq_error_iff_of_validate hitems]
  exact map_eq_error_iff

/-- The predicate `$` filters bools. At a number it stops, and the number is not to blame for being
a root. -/
theorem filtering_stops_at_number :
    let root : Datum := .object [("a", .array [.bool true, .integer 1])]
    let filtered : Expression :=
      .lone (.call "@select" [.lone (.reference ".a" [⟨"a", none⟩]), .lone (.string "$")])
    ∃ (ctx : Context Unit) (d : Datum), Context.build root [] = .ok ctx ∧
      root.validate = .ok () ∧ Path.resolve [⟨"a", none⟩] root = .ok d ∧
      (Value.ofDatum d).toDatum.validate = .ok () ∧
      (filtered.eval 1 ctx ⟨(), []⟩).1 =
        .error (.error (.mismatch (.predicateNotBool "$" "number"))) := by
  intro root filtered
  have hroot : root.validate = .ok () := rfl
  have hd : Path.resolve [⟨"a", none⟩] root = .ok (.array [.bool true, .integer 1]) := rfl
  have hctx : Context.build root [] = .ok (⟨root, .builtins⟩ : Context Unit) := rfl
  obtain ⟨-, hvalid, hfilter⟩ := filtering_passes_validation hroot hd
  obtain ⟨items, hitems, -, hstops⟩ := hfilter _ rfl
  rw [Datum.toDatum_ofDatum_array] at hitems
  obtain rfl := Datum.array.inj hitems
  refine ⟨_, _, hctx, hroot, hd, hvalid, ?_⟩
  refine (hstops hctx ".a" (.lone (.string "$")) "$" 0 ⟨(), []⟩ ⟨(), []⟩ rfl _).mpr (.inr ?_)
  have hparse : Expression.parse "$" = .ok (.lone (.reference "" [])) := by
    with_unfolding_all rfl
  refine ⟨_, hparse, [.bool true], _, [], rfl, ?_, ?_⟩
  · rintro other hm
    obtain rfl := List.mem_singleton.mp hm
    exact ⟨true, rfl⟩
  · exact .inr ⟨.number (.ofInt 1), rfl, nofun, rfl⟩

end Criteria
