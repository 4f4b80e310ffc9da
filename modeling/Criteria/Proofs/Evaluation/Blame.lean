import Criteria.Proofs.Evaluation.Outcome
import Criteria.Proofs.Grammar.Exact
import Mathlib

/-!
# Who is to blame for an error

Three sorts of errors are kept for what a tree of the grammar never runs into, and for hosts: an
operator in a place of another level, a function name given twice, and the words of a host
function (`Criteria.ErrorVariant.isDefensive`). Evaluating a tree with all operators in their places
never makes such an error itself. It can only pass one on, so **a host function returned it**
(`Criteria.Evaluation.BlamesHosts`).

The predicates of `@select` are trees of the grammar too, since they are parsed before they are
evaluated, and no host function can be called from them. So the same holds at any depth, by
induction on the number of predicates that may be open at once
(`Criteria.isClean_evaluatePredicate`).
-/

namespace Criteria

/-- The sorts of errors that evaluating a tree of the grammar never makes. -/
def ErrorVariant.isDefensive : ErrorVariant → Bool
  | unsupportedOperator | duplicateFunction | function => true
  | _ => false

/-- An outcome is **clean** unless it is an error of these sorts. -/
def IsClean {α : Type} (r : Except Stop α) : Prop :=
  ∀ e, r = .error (.error e) → e.variant.isDefensive = false

section Clean

variable {α β : Type}

theorem isClean_ok (a : α) : IsClean (.ok a : Except Stop α) := by
  intro e h
  exact absurd h (by simp)

theorem isClean_exhausted : IsClean (.error .exhausted : Except Stop α) := by
  intro e h
  exact absurd h (by simp)

theorem isClean_error {e : Error} (h : e.variant.isDefensive = false) :
    IsClean (.error (.error e) : Except Stop α) := by
  intro e' he
  obtain rfl := Stop.error.inj (Except.error.inj he)
  exact h

/-- An outcome that ends like a clean one, whatever its results are, is clean. -/
theorem IsClean.of_error {r : Except Stop α} (h : IsClean r) {s : Stop} (hr : r = .error s) :
    IsClean (.error s : Except Stop β) := by
  intro e he
  exact h e (hr.trans (by rw [Except.error.inj he]))

end Clean

/-! ### Operations that make no defensive error -/

/-- An operation without predicates is **innocent** when none of its errors is defensive. -/
def IsInnocent {α : Type} (r : Except Error α) : Prop :=
  ∀ e, r = .error e → e.variant.isDefensive = false

section Innocent

variable {α β : Type}

theorem isInnocent_ok (a : α) : IsInnocent (.ok a : Except Error α) := by
  intro e h
  exact absurd h (by simp)

theorem isInnocent_error {e : Error} (h : e.variant.isDefensive = false) :
    IsInnocent (.error e : Except Error α) := by
  intro e' he
  rwa [← Except.error.inj he]

theorem IsInnocent.map {r : Except Error α} (h : IsInnocent r) (f : α → β) :
    IsInnocent (r.map f) := by
  cases r with
  | ok a => exact isInnocent_ok (f a)
  | error e => exact isInnocent_error (h e rfl)

/-- Among the operations with predicates, an innocent one is clean. -/
theorem IsInnocent.isClean {r : Except Error α} (h : IsInnocent r) :
    IsClean (r.mapError Stop.error) := by
  cases r with
  | ok a => exact isClean_ok a
  | error e => exact isClean_error (h e rfl)

end Innocent

namespace Segment

variable (s : Segment)

theorem isInnocent_element (items : List Datum) (n : Nat) : IsInnocent (s.element items n) := by
  rw [element]
  split
  · exact isInnocent_ok _
  · exact isInnocent_error rfl

theorem isInnocent_field (fields : Fields Datum) (key : String) :
    IsInnocent (s.field fields key) := by
  rw [field]
  split
  · exact isInnocent_ok _
  · exact isInnocent_error rfl

theorem isInnocent_fromArray (items : List Datum) : IsInnocent (s.fromArray items) := by
  rw [fromArray]
  split
  · exact s.isInnocent_element items _
  · exact isInnocent_error rfl
  · exact isInnocent_ok _

theorem isInnocent_fromObject (fields : Fields Datum) : IsInnocent (s.fromObject fields) := by
  rw [fromObject]
  split
  · exact s.isInnocent_field fields _
  · split
    · exact s.isInnocent_field fields _
    · rw [fieldOfField]
      split
      · exact s.isInnocent_field _ _
      · exact isInnocent_error rfl
      · exact isInnocent_error rfl
  · split
    · exact isInnocent_error rfl
    · rw [elementOfField]
      split
      · exact s.isInnocent_element _ _
      · exact isInnocent_error rfl
      · exact isInnocent_error rfl

/-- No segment of a path makes a defensive error. -/
theorem isInnocent_resolve (d : Datum) : IsInnocent (s.resolve d) := by
  simp only [resolve]
  split
  · exact s.isInnocent_fromArray _
  · exact s.isInnocent_fromObject _
  · exact isInnocent_ok _

end Segment

/-- No path makes a defensive error. -/
theorem Path.isInnocent_resolve (path : Path) (root : Datum) : IsInnocent (path.resolve root) := by
  induction path generalizing root with
  | nil => exact isInnocent_ok _
  | cons s rest ih =>
    cases rest with
    | nil => exact s.isInnocent_resolve root
    | cons next rest =>
      rw [Path.resolve]
      split
      · rename_i e he
        exact isInnocent_error (s.isInnocent_resolve root e he)
      · -- the rest of the path is followed in an array or an object only
        split
        · exact ih _
        · exact isInnocent_error rfl

namespace Operator

variable {op : Operator}

/-- An operator in its place may find operands of the wrong kinds, but it is supported there. -/
theorem isInnocent_applyUnary (h : op = .not) (v : Value) : IsInnocent (op.applyUnary v) := by
  simp only [applyUnary]
  rw [if_pos h]
  split
  · exact isInnocent_ok _
  · exact isInnocent_error rfl

/-- A comparison operator makes no defensive error. -/
theorem isInnocent_applyComparison (h : op.isComparison = true) (v w : Value) :
    IsInnocent (op.applyComparison v w) := by
  rw [applyComparison]
  split
  · split
    · exact isInnocent_ok _
    · exact isInnocent_error rfl
  · -- the comparison operators that are no equalities are the orderings
    rename_i hne
    have ho : op.isOrdering = true := by
      cases op <;> simp_all [isComparison, isOrdering]
    rw [if_pos ho]
    split
    · exact isInnocent_ok _
    · exact isInnocent_ok _
    · exact isInnocent_error rfl

/-- A logical operator makes no defensive error. -/
theorem isInnocent_applyLogical (h : op.isLogical = true) (v w : Value) :
    IsInnocent (op.applyLogical v w) := by
  simp only [applyLogical]
  rw [if_pos h]
  split
  · exact isInnocent_ok _
  · exact isInnocent_error rfl

end Operator

/-- Data that is refused makes no defensive error. -/
theorem Context.isInnocent_checkData (d : Datum) : IsInnocent (Context.checkData d) := by
  rw [Context.checkData]
  cases d.validate with
  | ok _ => exact isInnocent_ok _
  | error _ => exact isInnocent_error rfl

/-! ### Builtin functions -/

/-- A way to evaluate predicates that makes no defensive error for trees of the grammar. -/
def PredicatesClean (evaluate : Expression → Datum → Except Stop Value) : Prop :=
  ∀ (tree : Expression) (item : Datum), tree.InPlace → IsClean (evaluate tree item)

namespace Builtin

theorem isInnocent_items (function place : String) (d : Datum) :
    IsInnocent (items function place d) := by
  simp only [items]
  split
  · exact isInnocent_ok _
  · exact isInnocent_error rfl

theorem isInnocent_text (function place : String) (d : Datum) :
    IsInnocent (text function place d) := by
  rw [text]
  split
  · exact isInnocent_ok _
  · exact isInnocent_error rfl

theorem isInnocent_fields (function place : String) (d : Datum) :
    IsInnocent (fields function place d) := by
  simp only [fields]
  split
  · exact isInnocent_ok _
  · exact isInnocent_error rfl

theorem isInnocent_count (d : Datum) : IsInnocent (count d) := by
  rw [count]
  cases h : items "@len" "first" d with
  | error e => exact isInnocent_error (isInnocent_items _ _ d e h)
  | ok elements =>
    change IsInnocent (if elements.length < _ then _ else _)
    split
    · exact isInnocent_ok _
    · exact isInnocent_error rfl

theorem isInnocent_sameScalar (element value : Datum) : IsInnocent (sameScalar element value) := by
  simp only [sameScalar]
  split
  · exact isInnocent_ok _
  · exact isInnocent_ok _
  · split
    · exact isInnocent_ok _
    · split <;> exact isInnocent_error rfl

theorem isInnocent_containsValue (value : Datum) (elements : List Datum) :
    IsInnocent (containsValue value elements) := by
  induction elements with
  | nil => exact isInnocent_ok _
  | cons element rest ih =>
    rw [containsValue]
    split
    · rename_i e he
      exact isInnocent_error (isInnocent_sameScalar element value e he)
    · exact isInnocent_ok _
    · exact ih

theorem isInnocent_search (s pattern : String) : IsInnocent (search s pattern) := by
  rw [search]
  split
  · exact isInnocent_error rfl
  · exact isInnocent_ok _

theorem isInnocent_verdict (source : String) (v : Value) : IsInnocent (verdict source v) := by
  simp only [verdict]
  split
  · exact isInnocent_ok _
  · exact isInnocent_error rfl

variable {evaluate : Expression → Datum → Except Stop Value}

/-- Keeping elements is clean if the test is. -/
theorem isClean_keepItems {test : Datum → Except Stop Bool} (h : ∀ item, IsClean (test item))
    (elements : List Datum) : IsClean (keepItems test elements) := by
  induction elements with
  | nil => exact isClean_ok _
  | cons item rest ih =>
    rw [keepItems]
    split
    · rename_i s hs
      exact (h item).of_error hs
    · split
      · rename_i s hs
        exact ih.of_error hs
      · exact isClean_ok _

/-- Selecting is clean if the predicates of the grammar are: a text is parsed before it serves as
a predicate. -/
theorem isClean_selection (h : PredicatesClean evaluate) (elements : List Datum)
    (source : String) : IsClean (selection evaluate elements source) := by
  rw [selection]
  split
  · exact isClean_error rfl
  · rename_i tree htree
    -- what has been parsed is a tree of the grammar, so its operators are in their places
    obtain ⟨⟨hp, -, -⟩, -⟩ := Expression.parse_eq_ok_iff_gives.mp htree
    have htest : ∀ item, IsClean (test evaluate source tree item) := by
      intro item
      rw [test]
      split
      · rename_i s hs
        exact (h tree item hp).of_error hs
      · exact (isInnocent_verdict source _).isClean
    have hkeep := isClean_keepItems htest elements
    cases hk : keepItems (test evaluate source tree) elements with
    | ok kept => exact isClean_ok _
    | error s => exact hkeep.of_error hk

/-- **Builtin functions are clean** if the predicates are. -/
theorem isClean_apply (h : PredicatesClean evaluate) (b : Builtin) (arguments : List Datum) :
    IsClean (b.apply evaluate arguments) := by
  simp only [apply]
  split
  · exact isClean_ok _
  · exact (isInnocent_count _).isClean
  · exact isClean_error rfl
  · split
    · exact isClean_selection h _ _
    · rename_i e he
      exact isClean_error (isInnocent_items _ _ _ e he)
    · rename_i e he _
      exact isClean_error (isInnocent_text _ _ _ e he)
  · split
    · rename_i e he
      exact isClean_error (isInnocent_items _ _ _ e he)
    · exact ((isInnocent_containsValue _ _).map _).isClean
  · split
    · exact isClean_ok _
    · rename_i e he
      exact isClean_error (isInnocent_fields _ _ _ e he)
    · rename_i e he _
      exact isClean_error (isInnocent_text _ _ _ e he)
  · split
    · exact (isInnocent_search _ _).isClean
    · rename_i e he
      exact isClean_error (isInnocent_text _ _ _ e he)
    · rename_i e he _
      exact isClean_error (isInnocent_text _ _ _ e he)
  · exact isClean_error rfl

end Builtin

/-! ### Evaluations that pass errors on -/

variable {σ α β : Type}

/-- A recorded call in which a host function of a context gave the recorded result. -/
def Call.IsOf (ctx : Context σ) (c : Call) : Prop :=
  ∃ (f : HostFunction σ) (host : σ),
    ctx.function? c.name = some (.host f) ∧ (f c.arguments host).1 = c.result

namespace Evaluation

/-- **Only hosts are to blame**: if an evaluation stops with a defensive error, then a host
function that it called returned this error. -/
def BlamesHosts (ctx : Context σ) (x : Evaluation σ α) : Prop :=
  ∀ w, ∃ made, (x w).2.calls = w.calls ++ made ∧
    ∀ e, (x w).1 = .error (.error e) → e.variant.isDefensive = true →
      ∃ c ∈ made, c.IsOf ctx ∧ c.result = .error e

variable {ctx : Context σ}

theorem blamesHosts_ofOutcome {r : Except Stop α} (h : IsClean r) :
    BlamesHosts ctx (ofOutcome r : Evaluation σ α) := by
  intro w
  cases r with
  | ok a => exact ⟨[], by simp [ofOutcome, give], fun e he => absurd he (by simp [ofOutcome, give])⟩
  | error s =>
    refine ⟨[], by simp [ofOutcome], fun e he hd => ?_⟩
    rw [h e he] at hd
    exact absurd hd (by simp)

theorem blamesHosts_pure (a : α) : BlamesHosts ctx (pure a : Evaluation σ α) :=
  blamesHosts_ofOutcome (isClean_ok a)

theorem blamesHosts_ofExcept {r : Except Error α} (h : IsInnocent r) :
    BlamesHosts ctx (ofExcept r : Evaluation σ α) := by
  cases r with
  | ok a => exact blamesHosts_pure a
  | error e => exact blamesHosts_ofOutcome (isClean_error (h e rfl))

/-- A host function is to blame for its own errors. -/
theorem blamesHosts_callHost {name : String} {f : HostFunction σ}
    (h : ctx.function? name = some (.host f)) (arguments : List Datum) :
    BlamesHosts ctx (callHost name f arguments) := by
  intro w
  refine ⟨[⟨name, arguments, (f arguments w.host).1⟩], rfl, fun e he _ => ?_⟩
  refine ⟨_, List.mem_singleton_self _, ⟨f, w.host, h, rfl⟩, ?_⟩
  change (f arguments w.host).1.mapError Stop.error = _ at he
  cases hr : (f arguments w.host).1 with
  | ok d =>
    rw [hr] at he
    cases he
  | error e' =>
    rw [hr] at he
    rw [Stop.error.inj (Except.error.inj he)]

/-- Two evaluations in turn blame only hosts if both do. -/
theorem BlamesHosts.bind {x : Evaluation σ α} {f : α → Evaluation σ β} (hx : BlamesHosts ctx x)
    (hf : ∀ a, BlamesHosts ctx (f a)) : BlamesHosts ctx (x >>= f) := by
  intro w
  obtain ⟨made, hmade, hblame⟩ := hx w
  rcases hr : x w with ⟨s | a, w'⟩
  · -- the first part stops: its error is passed on, and it has made all the calls
    rw [hr] at hmade hblame
    rw [bind_of_error hr]
    refine ⟨made, hmade, fun e he hd => hblame e ?_ hd⟩
    rw [Except.error.inj he]
  · -- the first part gives a result: the error is one of the second part
    rw [hr] at hmade
    rw [bind_of_ok hr]
    obtain ⟨made', hmade', hblame'⟩ := hf a w'
    refine ⟨made ++ made', ?_, fun e he hd => ?_⟩
    · rw [hmade', hmade, List.append_assoc]
    · obtain ⟨c, hc, hof⟩ := hblame' e he hd
      exact ⟨c, List.mem_append_right _ hc, hof⟩

end Evaluation

/-! ### Trees of the grammar

One case for each kind of node: operators in their places are innocent, variables and builtin
functions are clean, and everything else is a sequence of evaluations that pass errors on. -/

section Tree

variable {evaluate : Expression → Datum → Except Stop Value} {ctx : Context σ}

open Evaluation

/-- A call blames only hosts, whatever the function is. -/
theorem Function.blamesHosts_call (h : PredicatesClean evaluate) {name : String} {f : Function σ}
    (hf : ctx.function? name = some f) (arguments : List Datum) :
    BlamesHosts ctx (f.call evaluate name arguments) := by
  cases f with
  | builtin b => exact blamesHosts_ofOutcome (b.isClean_apply h arguments)
  | host f => exact blamesHosts_callHost hf arguments

mutual

/-- **The evaluation of an expression with operators in their places blames only hosts.** -/
theorem Expression.blamesHosts_evalWith (h : PredicatesClean evaluate) :
    ∀ e : Expression, e.InPlace → BlamesHosts ctx (e.evalWith evaluate ctx)
  | .term c, hp => Comparison.blamesHosts_evalWith h c hp
  | .chain left op right, ⟨hl, hop, hr⟩ => by
    have hleft := Expression.blamesHosts_evalWith h left hl
    have hright := Comparison.blamesHosts_evalWith h right hr
    refine hleft.bind fun v => ?_
    split
    · exact blamesHosts_pure v
    · refine hright.bind fun w => ?_
      exact blamesHosts_ofExcept (Operator.isInnocent_applyLogical hop v w)

theorem Comparison.blamesHosts_evalWith (h : PredicatesClean evaluate) :
    ∀ c : Comparison, c.InPlace → BlamesHosts ctx (c.evalWith evaluate ctx)
  | .term u, hp => Unary.blamesHosts_evalWith h u hp
  | .chain left op right, ⟨hl, hop, hr⟩ => by
    have hleft := Comparison.blamesHosts_evalWith h left hl
    have hright := Unary.blamesHosts_evalWith h right hr
    refine hleft.bind fun v => hright.bind fun w => ?_
    exact blamesHosts_ofExcept (Operator.isInnocent_applyComparison hop v w)

theorem Unary.blamesHosts_evalWith (h : PredicatesClean evaluate) :
    ∀ u : Unary, u.InPlace → BlamesHosts ctx (u.evalWith evaluate ctx)
  | .plain x, hp => Operand.blamesHosts_evalWith h x hp
  | .applied op x, ⟨hop, hx⟩ => by
    refine (Operand.blamesHosts_evalWith h x hx).bind fun v => ?_
    exact blamesHosts_ofExcept (Operator.isInnocent_applyUnary hop v)

theorem Operand.blamesHosts_evalWith (h : PredicatesClean evaluate) :
    ∀ x : Operand, x.InPlace → BlamesHosts ctx (x.evalWith evaluate ctx)
  | .number _, _ | .string _, _ | .boolean _, _ | .nil, _ | .regex _, _ => blamesHosts_pure _
  | .reference _ path, _ =>
    blamesHosts_ofExcept ((Path.isInnocent_resolve path ctx.data).map _)
  | .call name arguments, hp => by
    rw [Operand.evalWith]
    split
    · exact blamesHosts_ofOutcome (isClean_error rfl)
    · rename_i f hf
      -- only here may an error be defensive: the function may be a host's
      have harguments := Operand.blamesHosts_argumentsWith h arguments hp
      refine harguments.bind fun data => ?_
      have hcall := Function.blamesHosts_call h hf data
      exact hcall.bind fun d => blamesHosts_pure _
  | .group e, hp => Expression.blamesHosts_evalWith h e hp

theorem Operand.blamesHosts_argumentsWith (h : PredicatesClean evaluate) :
    ∀ arguments : List Expression, Operand.ArgumentsInPlace arguments →
      BlamesHosts ctx (Operand.argumentsWith evaluate ctx arguments)
  | [], _ => blamesHosts_pure _
  | e :: rest, ⟨he, hrest⟩ => by
    have hfirst := Expression.blamesHosts_evalWith h e he
    have hothers := Operand.blamesHosts_argumentsWith h rest hrest
    exact hfirst.bind fun v => hothers.bind fun ds => blamesHosts_pure _

end

end Tree

/-! ### Predicates, at any depth -/

/-- Without host functions there is no one to blame. -/
theorem Context.not_isOf_of_ofDatum {root : Datum} {ctx : Context σ}
    (h : Context.ofDatum root = .ok ctx) (c : Call) : ¬c.IsOf ctx := by
  rintro ⟨f, host, hf, -⟩
  rw [Context.function?_of_ofDatum h, Builtin.function?, Option.map_eq_some_iff] at hf
  obtain ⟨b, -, hb⟩ := hf
  exact absurd hb (by simp)

/-- Where only hosts are to blame and there is none, no error is defensive. -/
theorem Evaluation.BlamesHosts.isClean {root : Datum} {ctx : Context σ} {x : Evaluation σ α}
    (hx : x.BlamesHosts ctx) (h : Context.ofDatum root = .ok ctx) (w : World σ) :
    IsClean (x w).1 := by
  intro e he
  obtain ⟨made, -, hblame⟩ := hx w
  refine Bool.eq_false_iff.mpr fun hd => ?_
  obtain ⟨c, -, hof, -⟩ := hblame e he hd
  exact Context.not_isOf_of_ofDatum h c hof

/-- At no depth do the predicates of the grammar make a defensive error. -/
theorem isClean_evaluatePredicate (depth : Nat) : PredicatesClean (evaluatePredicate depth) := by
  induction depth with
  | zero =>
    intro tree item hp
    exact isClean_exhausted
  | succ depth ih =>
    intro tree item hp
    rw [evaluatePredicate]
    split
    · -- the element cannot be a root: this is an error of the data
      rename_i e he
      have hd : IsInnocent (Context.ofDatum item : Except Error (Context Unit)) := by
        rw [Context.ofDatum]
        split
        · rename_i e' he'
          exact isInnocent_error (Context.isInnocent_checkData item e' he')
        · exact isInnocent_ok _
      exact isClean_error (hd e he)
    · -- the context of the element has no host functions, so there is no one to blame
      rename_i ctx hctx
      exact (Expression.blamesHosts_evalWith ih tree hp).isClean hctx _

/-- **Parsed expressions never run into the defensive errors.** With the builtin functions only,
no error of an evaluation is one of them; with host functions, such an error was returned by a
host function that the evaluation called. -/
theorem defensive_errors_come_from_hosts {text : String} {tree : Expression}
    (hparse : parse text = .ok tree) :
    (∀ root (ctx : Context σ), Context.ofDatum root = .ok ctx → ∀ depth w e,
      (tree.eval depth ctx w).1 = .error (.error e) → e.variant.isDefensive = false) ∧
    (∀ (ctx : Context σ) depth w e, (tree.eval depth ctx w).1 = .error (.error e) →
      e.variant.isDefensive = true →
        ∃ made, (tree.eval depth ctx w).2.calls = w.calls ++ made ∧
          ∃ c ∈ made, c.IsOf ctx ∧ c.result = .error e) := by
  have hread : Expression.parse text = .ok tree := parse_eq_ok_iff_parse.mp hparse
  obtain ⟨⟨hp, -, -⟩, -⟩ := Expression.parse_eq_ok_iff_gives.mp hread
  have hblame : ∀ (ctx : Context σ) depth, (tree.eval depth ctx).BlamesHosts ctx := by
    intro ctx depth
    exact Expression.blamesHosts_evalWith (isClean_evaluatePredicate depth) tree hp
  constructor
  · intro root ctx hctx depth w e he
    exact (hblame ctx depth).isClean hctx w e he
  · intro ctx depth w e he hd
    obtain ⟨made, hmade, h⟩ := hblame ctx depth w
    exact ⟨made, hmade, h e he hd⟩

/-- A host function that reports an error, called by an expression: the error that comes out is
the one of the recorded call. -/
theorem defensive_error_of_failing_host :
    let down : HostFunction Unit := fun _ host => (.error (.reported .function "down"), host)
    let ctx : Context Unit := ⟨.nil, [("@f", .host down)]⟩
    let tree : Expression := .term (.term (.plain (.call "@f" [])))
    parse "@f()" = .ok tree ∧
      ∃ made, (tree.eval 0 ctx ⟨(), []⟩).2.calls = [] ++ made ∧
        ∃ c ∈ made, c.IsOf ctx ∧ c.result = .error (.reported .function "down") := by
  intro down ctx tree
  have hparse : parse "@f()" = .ok tree := by cbv
  exact ⟨hparse, (defensive_errors_come_from_hosts hparse).2 ctx 0 ⟨(), []⟩
    (.reported .function "down") rfl rfl⟩

end Criteria
