import Criteria.Proofs.Evaluation.Outcome

/-!
# Which predicates an evaluation opens

An **opening** is a predicate of `@select` together with the element that it is evaluated for.
Where there are no host functions, an evaluation looks at the outside only by opening predicates,
so it is a function of what the openings that it makes give (`Criteria.DependsOn`). This is proved
once, by induction on the tree, and everything else here follows from it:

* an evaluation that comes to an end needs no more depth than it was given, and gives the same
  for any greater depth (`Criteria.evaluatePredicate_refines`);
* all openings that an evaluation makes come to an end with less depth than the evaluation itself
  (`Criteria.Opening.FinishesAt.of_opens`);
* an evaluation that does not come to an end has made an opening that does not
  (`Criteria.Opening.exists_opens_of_not_finishesAt`).
-/

namespace Criteria

/-- A way to evaluate predicates for elements. -/
abbrev PredicateOracle := Expression → Datum → Except Stop Value

/-- A predicate that is evaluated for an element. -/
structure Opening where
  predicate : Expression
  item : Datum

/-- What an oracle gives for an opening. -/
def Opening.answer (q : Opening) (f : PredicateOracle) : Except Stop Value := f q.predicate q.item

/-! ### The openings of an evaluation -/

/-- The elements that a test is made for: all of them up to the first for which it stops. -/
def Builtin.testedItems (test : Datum → Except Stop Bool) : List Datum → List Datum
  | [] => []
  | item :: rest =>
    match test item with
    | .error _ => [item]
    | .ok _ => item :: testedItems test rest

/-- The openings that selecting from an array by a text makes. -/
def Builtin.selectionOpened (evaluate : PredicateOracle) (elements : List Datum)
    (source : String) : List Opening :=
  match Expression.parse source with
  | .error _ => []
  | .ok tree => (testedItems (test evaluate source tree) elements).map (⟨tree, ·⟩)

/-- The openings that a call of a builtin function makes. -/
def Builtin.opened (evaluate : PredicateOracle) (b : Builtin) (arguments : List Datum) :
    List Opening :=
  match b, arguments with
  | .select, [d, p] =>
    match d, p with
    | .array elements, .string source => selectionOpened evaluate elements source
    | _, _ => []
  | _, _ => []

/-- The openings made after an outcome: none if it is a stop. -/
def openedAfter {α : Type} (r : Except Stop α) (next : α → List Opening) : List Opening :=
  match r with
  | .ok a => next a
  | .error _ => []

section Opened

variable (evaluate : PredicateOracle) (root : Datum)

mutual

/-- The openings that the evaluation of an expression makes itself, in their order. The openings
that are made inside of these are not among them. -/
def Expression.opened : Expression → List Opening
  | .term t => t.opened
  | .chain left op right =>
    Expression.opened left ++ openedAfter (left.outcome evaluate root) fun v =>
      if op.isDecidedBy v then [] else right.opened

/-- The predicates that a comparison opens, in turn. -/
def Comparison.opened : Comparison → List Opening
  | .term t => t.opened
  | .chain left _ right =>
    Comparison.opened left ++ openedAfter (left.outcome evaluate root) fun _ => right.opened

/-- The predicates that an operand with an operator before it opens. -/
def Unary.opened : Unary → List Opening
  | .plain x => x.opened
  | .applied _ x => x.opened

/-- The predicates that an operand opens: those of its arguments, then its own. -/
def Operand.opened : Operand → List Opening
  | .call name arguments =>
    match Builtin.ofName? name with
    | none => []
    | some b =>
      Operand.argumentsOpened arguments ++
        openedAfter (Operand.argumentOutcomes evaluate root arguments) (b.opened evaluate)
  | .group e => e.opened
  | _ => []

/-- The predicates that the arguments of a call open, up to the first one that stops. -/
def Operand.argumentsOpened : List Expression → List Opening
  | [] => []
  | e :: rest =>
    e.opened ++ openedAfter (e.outcome evaluate root) fun _ => Operand.argumentsOpened rest

end

end Opened

/-- The openings that an opening makes itself: none if its element cannot be a root. -/
def Opening.opened (evaluate : PredicateOracle) (q : Opening) : List Opening :=
  match Context.checkData q.item with
  | .error _ => []
  | .ok () => q.predicate.opened evaluate q.item

/-- What an opening gives. -/
def Opening.outcome (evaluate : PredicateOracle) (q : Opening) : Except Stop Value :=
  match Context.checkData q.item with
  | .error e => .error (.error e)
  | .ok () => q.predicate.outcome evaluate q.item

/-! ### Outcomes depend on openings -/

/-- An oracle **refines** another one if it differs from it only where that one is exhausted. -/
def PredicateOracle.Refines (g f : PredicateOracle) : Prop :=
  ∀ q : Opening, q.answer f = .error .exhausted ∨ q.answer g = q.answer f

/-- An outcome **depends on openings**: only what the oracle gives for these openings counts, and
the outcome is exhausted exactly if one of the openings is. -/
structure DependsOn {α : Type} (outcome : PredicateOracle → Except Stop α)
    (opened : PredicateOracle → List Opening) : Prop where
  congr : ∀ f g, (∀ q ∈ opened f, q.answer f = q.answer g) →
    outcome f = outcome g ∧ opened f = opened g
  passes : ∀ f, ∀ q ∈ opened f, q.answer f = .error .exhausted → outcome f = .error .exhausted
  blames : ∀ f, outcome f = .error .exhausted → ∃ q ∈ opened f, q.answer f = .error .exhausted
  grows : ∀ f g, PredicateOracle.Refines g f → opened f ⊆ opened g

namespace DependsOn

variable {α β : Type} {r : PredicateOracle → Except Stop α}
  {o : PredicateOracle → List Opening}

/-- An outcome that is not exhausted refines to itself. -/
theorem congr_of_refines (h : DependsOn r o) {f g : PredicateOracle} (hg : g.Refines f)
    (hf : r f ≠ .error .exhausted) : r f = r g ∧ o f = o g := by
  refine h.congr f g fun q hq => ?_
  rcases hg q with he | he
  · exact absurd (h.passes f q hq he) hf
  · exact he.symm

/-- A result that asks no oracle depends on nothing. -/
theorem const {s : Except Stop α} (hs : s ≠ .error .exhausted) :
    DependsOn (fun _ => s) fun _ => [] where
  congr _ _ _ := ⟨rfl, rfl⟩
  passes _ q hq := absurd hq (by simp)
  blames _ h := absurd h hs
  grows _ _ _ := List.Subset.refl _

/-- An operation without predicates is never exhausted. -/
theorem mapError_ne_exhausted (s : Except Error α) :
    s.mapError Stop.error ≠ .error .exhausted := by
  intro h
  cases s with
  | ok a => cases h
  | error e => cases h

/-- An operation without predicates makes no openings. -/
theorem ofExcept (s : Except Error α) :
    DependsOn (fun _ => s.mapError Stop.error) fun _ => [] :=
  const (mapError_ne_exhausted s)

/-- The answer to an opening depends on this opening. -/
theorem ofOpening (q : Opening) : DependsOn (fun f => q.answer f) fun _ => [q] where
  congr f g h := ⟨h q (List.mem_singleton_self q), rfl⟩
  passes f p hp h := by rwa [List.mem_singleton.mp hp] at h
  blames f h := ⟨q, List.mem_singleton_self q, h⟩
  grows _ _ _ := List.Subset.refl _

/-- Two results in turn depend on the openings of both. -/
theorem bind {r' : PredicateOracle → α → Except Stop β}
    {o' : PredicateOracle → α → List Opening} (h : DependsOn r o)
    (h' : ∀ a, DependsOn (fun f => r' f a) fun f => o' f a) :
    DependsOn (fun f => r f >>= r' f) fun f => o f ++ openedAfter (r f) (o' f) where
  congr f g hfg := by
    obtain ⟨hr, ho⟩ := h.congr f g fun q hq => hfg q (List.mem_append_left _ hq)
    rw [← hr, ← ho]
    cases hf : r f with
    | error s => exact ⟨rfl, rfl⟩
    | ok a =>
      -- the second oracle gives the same result, so it goes on with the same openings
      have hq : ∀ q ∈ o' f a, q.answer f = q.answer g := by
        intro q hq
        refine hfg q (List.mem_append_right _ ?_)
        rw [hf]
        exact hq
      obtain ⟨hr', ho'⟩ := (h' a).congr f g hq
      exact ⟨hr', congrArg _ ho'⟩
  passes f q hq he := by
    rcases List.mem_append.mp hq with hq | hq
    · rw [h.passes f q hq he]
      rfl
    · cases hf : r f with
      | error s =>
        rw [hf] at hq
        exact absurd hq (by simp [openedAfter])
      | ok a =>
        rw [hf] at hq
        exact (h' a).passes f q hq he
  blames f hb := by
    cases hf : r f with
    | error s =>
      rw [hf] at hb
      obtain ⟨q, hq, he⟩ := h.blames f (hf.trans (by rw [Except.error.inj hb]))
      exact ⟨q, List.mem_append_left _ hq, he⟩
    | ok a =>
      rw [hf] at hb
      obtain ⟨q, hq, he⟩ := (h' a).blames f hb
      exact ⟨q, List.mem_append_right _ hq, he⟩
  grows f g hg := by
    intro q hq
    rcases List.mem_append.mp hq with hq | hq
    · exact List.mem_append_left _ (h.grows f g hg hq)
    · refine List.mem_append_right _ ?_
      cases hf : r f with
      | error s =>
        rw [hf] at hq
        exact absurd hq (by simp [openedAfter])
      | ok a =>
        -- a refinement keeps what is not exhausted, so the second part begins with the same result
        have hsame : r f = r g := (h.congr_of_refines hg (by simp [hf])).1
        rw [hf] at hq
        rw [← hsame, hf]
        exact (h' a).grows f g hg hq

/-- What is done with a result without opening anything keeps the openings. -/
theorem andThen {r' : α → Except Stop β} (h : DependsOn r o)
    (h' : ∀ a, r' a ≠ .error .exhausted) : DependsOn (fun f => r f >>= r') o := by
  have hb : DependsOn (fun f => r f >>= r') fun f => o f ++ openedAfter (r f) fun _ => [] :=
    h.bind fun a => const (h' a)
  have ho : (fun f => o f ++ openedAfter (r f) fun _ => []) = o := by
    funext f
    cases r f <;> exact List.append_nil _
  rwa [ho] at hb

/-- What is done to a result without asking adds nothing. -/
theorem andThenExcept {r' : α → Except Error β} (h : DependsOn r o) :
    DependsOn (fun f => r f >>= fun a => (r' a).mapError Stop.error) o :=
  h.andThen fun a => mapError_ne_exhausted (r' a)

end DependsOn

/-! ### Builtin functions -/

namespace Builtin

/-- A test depends on the opening of the predicate for the element. -/
theorem dependsOn_test (source : String) (tree : Expression) (item : Datum) :
    DependsOn (fun f => test f source tree item) fun _ => [⟨tree, item⟩] := by
  have h : DependsOn (fun f => Opening.answer ⟨tree, item⟩ f >>= fun v =>
      (verdict source v).mapError Stop.error) fun _ => [⟨tree, item⟩] :=
    (DependsOn.ofOpening ⟨tree, item⟩).andThenExcept
  have hr : (fun f => test f source tree item) = fun f =>
      Opening.answer ⟨tree, item⟩ f >>= fun v => (verdict source v).mapError Stop.error := by
    funext f
    rw [test, Opening.answer]
    cases f tree item <;> rfl
  rwa [hr]

/-- Keeping elements, with the first one tested first. -/
theorem keepItems_cons (test : Datum → Except Stop Bool) (item : Datum) (rest : List Datum) :
    keepItems test (item :: rest) = test item >>= fun keep =>
      keepItems test rest >>= fun kept => .ok (if keep then item :: kept else kept) := by
  rw [keepItems]
  cases test item with
  | error s => rfl
  | ok keep => cases keepItems test rest <;> rfl

/-- The openings of tests, the first one first. -/
theorem testedItems_cons (test : Datum → Except Stop Bool) (tree : Expression) (item : Datum)
    (rest : List Datum) : (testedItems test (item :: rest)).map (Opening.mk tree) =
      [⟨tree, item⟩] ++ openedAfter (test item) fun _ =>
        (testedItems test rest).map (Opening.mk tree) := by
  rw [testedItems]
  cases test item <;> rfl

/-- Keeping elements depends on the tests that are made. -/
theorem dependsOn_keepItems (source : String) (tree : Expression) (elements : List Datum) :
    DependsOn (fun f => keepItems (test f source tree) elements) fun f =>
      (testedItems (test f source tree) elements).map (Opening.mk tree) := by
  induction elements with
  | nil => exact .const (by simp)
  | cons item rest ih =>
    simp only [keepItems_cons, testedItems_cons]
    exact (dependsOn_test source tree item).bind fun keep => ih.andThen (by simp)

/-- A selection depends on the predicates that it opens. -/
theorem dependsOn_selection (elements : List Datum) (source : String) :
    DependsOn (fun f => selection f elements source) fun f =>
      selectionOpened f elements source := by
  simp only [selection, selectionOpened]
  cases Expression.parse source with
  | error e => exact .const (by simp)
  | ok tree =>
    have hr : ∀ s : Except Stop (List Datum),
        s.map Datum.array = s >>= fun kept => .ok (.array kept) := by
      intro s
      cases s <;> rfl
    simp only [hr]
    exact (dependsOn_keepItems source tree elements).andThen (by simp)

/-- Selecting goes wrong at once, and opens nothing, unless it has an array and a text. -/
theorem select_cases (d p : Datum) :
    (∃ elements source, d = .array elements ∧ p = .string source) ∨
      ∃ e, ∀ f : PredicateOracle, apply f .select [d, p] = .error (.error e) ∧
        opened f .select [d, p] = [] := by
  cases d with
  | array elements =>
    cases p with
    | string source => exact .inl ⟨elements, source, rfl, rfl⟩
    | _ => exact .inr ⟨_, fun f => ⟨rfl, rfl⟩⟩
  | _ => exact .inr ⟨_, fun f => ⟨rfl, rfl⟩⟩

/-- A builtin function depends on the predicates that it opens. -/
theorem dependsOn_apply (b : Builtin) (arguments : List Datum) :
    DependsOn (fun f => b.apply f arguments) fun f => b.opened f arguments := by
  match b, arguments with
  | array, arguments => exact .const (by simp)
  | len, [d] => exact .ofExcept (count d)
  | len, [] | len, _ :: _ :: _ => exact .const (by simp)
  | select, [d, p] =>
    rcases select_cases d p with ⟨elements, source, rfl, rfl⟩ | ⟨e, he⟩
    · exact dependsOn_selection elements source
    · simp only [he]
      exact .const (by simp)
  | member, [d, value] =>
    simp only [apply, opened]
    cases items "@in" "first" d with
    | error e => exact .const (by simp)
    | ok elements => exact .ofExcept _
  | has, [d, key] =>
    simp only [apply, opened]
    refine .const ?_
    split <;> simp
  | found, [d, pattern] =>
    simp only [apply, opened]
    split
    · exact .ofExcept _
    · exact .const (by simp)
    · exact .const (by simp)
  | select, [] | select, [_] | select, _ :: _ :: _ :: _ => exact .const (by simp)
  | member, [] | member, [_] | member, _ :: _ :: _ :: _ => exact .const (by simp)
  | has, [] | has, [_] | has, _ :: _ :: _ :: _ => exact .const (by simp)
  | found, [] | found, [_] | found, _ :: _ :: _ :: _ => exact .const (by simp)

end Builtin

/-! ### Trees -/

section Tree

variable (root : Datum)

mutual

/-- **What an expression evaluates to depends on the openings that it makes itself.** -/
theorem Expression.dependsOn_outcome : ∀ e : Expression,
    DependsOn (fun f => e.outcome f root) fun f => e.opened f root
  | .term c => Comparison.dependsOn_outcome c
  | .chain left op right => by
    have hleft := Expression.dependsOn_outcome left
    have hright := Comparison.dependsOn_outcome right
    refine hleft.bind fun v => ?_
    -- the right side is evaluated, and its openings are made, only if the left one leaves it open
    by_cases hv : op.isDecidedBy v = true
    · simp only [hv, if_true]
      exact .const (by simp [pure, Except.pure])
    · simp only [hv]
      exact hright.andThenExcept

theorem Comparison.dependsOn_outcome : ∀ c : Comparison,
    DependsOn (fun f => c.outcome f root) fun f => c.opened f root
  | .term u => Unary.dependsOn_outcome u
  | .chain left _ right => by
    have hleft := Comparison.dependsOn_outcome left
    have hright := Unary.dependsOn_outcome right
    exact hleft.bind fun _ => hright.andThenExcept

theorem Unary.dependsOn_outcome : ∀ u : Unary,
    DependsOn (fun f => u.outcome f root) fun f => u.opened f root
  | .plain x => Operand.dependsOn_outcome x
  | .applied _ x => (Operand.dependsOn_outcome x).andThenExcept

theorem Operand.dependsOn_outcome : ∀ x : Operand,
    DependsOn (fun f => x.outcome f root) fun f => x.opened f root
  | .number _ | .string _ | .boolean _ | .nil | .regex _ => .const (by simp)
  | .reference _ path => .ofExcept ((Path.resolve path root).map Value.ofDatum)
  | .call name arguments => by
    simp only [Operand.outcome, Operand.opened]
    cases Builtin.ofName? name with
    | none => exact .const (by simp)
    | some b =>
      have harguments := Operand.dependsOn_argumentOutcomes arguments
      refine harguments.bind fun data => ?_
      have hcall := b.dependsOn_apply data
      exact hcall.andThen (by simp [pure, Except.pure])
  | .group e => Expression.dependsOn_outcome e

theorem Operand.dependsOn_argumentOutcomes : ∀ arguments : List Expression,
    DependsOn (fun f => Operand.argumentOutcomes f root arguments) fun f =>
      Operand.argumentsOpened f root arguments
  | [] => .const (by simp)
  | e :: rest => by
    have hfirst := Expression.dependsOn_outcome e
    have hothers := Operand.dependsOn_argumentOutcomes rest
    exact hfirst.bind fun v => hothers.andThen (by simp [pure, Except.pure])

end

end Tree

namespace Opening

/-- The outcome of an opening depends on the openings that its predicate makes. -/
theorem dependsOn_outcome (q : Opening) :
    DependsOn (fun f => q.outcome f) fun f => q.opened f := by
  simp only [outcome, opened]
  cases Context.checkData q.item with
  | error e => exact .const (by simp)
  | ok _ => exact Expression.dependsOn_outcome q.item q.predicate

/-- Evaluating an opening with one more level of depth. -/
theorem answer_evaluatePredicate_succ (q : Opening) (depth : Nat) :
    q.answer (evaluatePredicate (depth + 1)) = q.outcome (evaluatePredicate depth) := by
  rw [answer, outcome, evaluatePredicate]
  cases hc : Context.checkData q.item with
  | error e =>
    have hctx : (Context.ofDatum q.item : Except Error (Context Unit)) = .error e := by
      rw [Context.ofDatum, hc]
    rw [hctx]
  | ok _ =>
    have hctx : (Context.ofDatum q.item : Except Error (Context Unit)) =
        .ok ⟨q.item, .builtins⟩ := Context.ofDatum_eq_ok_iff.mpr ⟨hc, rfl⟩
    rw [hctx]
    exact congrArg Prod.fst (Expression.eval_apply_eq_outcome hctx q.predicate depth ⟨(), []⟩)

end Opening

/-- Evaluating a tree where there are no host functions is evaluating it as a predicate for the
root, one level further up, and leaves the world as it is. -/
theorem Expression.eval_apply_of_ofDatum {σ : Type} {root : Datum} {ctx : Context σ}
    (h : Context.ofDatum root = .ok ctx) (tree : Expression) (depth : Nat) (w : World σ) :
    tree.eval depth ctx w = (evaluatePredicate (depth + 1) tree root, w) := by
  obtain ⟨hdata, -⟩ := Context.ofDatum_eq_ok_iff.mp h
  have hanswer := Opening.answer_evaluatePredicate_succ ⟨tree, root⟩ depth
  rw [Opening.outcome, hdata] at hanswer
  rw [Expression.eval_apply_eq_outcome h]
  exact congrArg (·, w) hanswer.symm

/-! ### Greater depths -/

/-- One more level of depth changes nothing but outcomes that are exhausted. -/
theorem evaluatePredicate_succ_refines (depth : Nat) :
    PredicateOracle.Refines (evaluatePredicate (depth + 1)) (evaluatePredicate depth) := by
  induction depth with
  | zero => exact fun q => .inl rfl
  | succ depth ih =>
    intro q
    rw [q.answer_evaluatePredicate_succ depth, q.answer_evaluatePredicate_succ (depth + 1)]
    -- an outcome that is not exhausted has met no exhausted opening, and keeps its openings
    by_cases he : q.outcome (evaluatePredicate depth) = .error .exhausted
    · exact .inl he
    · exact .inr (q.dependsOn_outcome.congr_of_refines ih he).1.symm

/-- **More depth refines**: it changes answers only where less depth ran out. -/
theorem evaluatePredicate_refines {depth depth' : Nat} (h : depth ≤ depth') :
    PredicateOracle.Refines (evaluatePredicate depth') (evaluatePredicate depth) := by
  induction h with
  | refl => exact fun q => .inr rfl
  | step hle ih =>
    rename_i n
    intro q
    rcases ih q with he | he
    · exact .inl he
    · rcases evaluatePredicate_succ_refines n q with he' | he'
      · exact .inl (he.symm.trans he')
      · exact .inr (he'.trans he)

/-- A builtin function that is not exhausted at a depth returns the same at any greater one. -/
theorem Builtin.run_eq_of_le {depth depth' : Nat} (h : depth ≤ depth') {b : Builtin}
    {arguments : List Datum} (hr : b.run depth arguments ≠ .error .exhausted) :
    b.run depth' arguments = b.run depth arguments :=
  ((b.dependsOn_apply arguments).congr_of_refines (evaluatePredicate_refines h) hr).1.symm

namespace Opening

/-- An opening **comes to an end** at a depth when its evaluation is not exhausted there. -/
def FinishesAt (depth : Nat) (p : Opening) : Prop :=
  p.answer (evaluatePredicate depth) ≠ .error .exhausted

/-- One predicate **opens** another when its evaluation, at some depth, makes this opening. -/
def Opens (p q : Opening) : Prop := ∃ depth, q ∈ p.opened (evaluatePredicate depth)

/-- Where an evaluation comes to an end, it has made all openings that it ever makes. -/
theorem FinishesAt.mem_opened {p q : Opening} {depth : Nat} (h : p.FinishesAt (depth + 1))
    (ho : p.Opens q) : q ∈ p.opened (evaluatePredicate depth) := by
  obtain ⟨n, hn⟩ := ho
  rw [FinishesAt, answer_evaluatePredicate_succ] at h
  rcases Nat.le_total n depth with hle | hle
  · -- openings that are made with less depth are made with more depth too
    exact p.dependsOn_outcome.grows _ _ (evaluatePredicate_refines hle) hn
  · -- more depth changes nothing, for this depth is enough already
    have hsame := p.dependsOn_outcome.congr_of_refines (evaluatePredicate_refines hle) h
    rwa [hsame.2]

/-- **Openings end before what opened them**: they need less depth. -/
theorem FinishesAt.of_opens {p q : Opening} {depth : Nat} (h : p.FinishesAt (depth + 1))
    (ho : p.Opens q) : q.FinishesAt depth := by
  have hq := h.mem_opened ho
  rw [FinishesAt, answer_evaluatePredicate_succ] at h
  intro he
  exact h (p.dependsOn_outcome.passes _ q hq he)

/-- What does not come to an end at a depth opens something that does not, one level below. -/
theorem exists_opens_of_not_finishesAt {p : Opening} {depth : Nat}
    (h : ¬p.FinishesAt (depth + 1)) : ∃ q, p.Opens q ∧ ¬q.FinishesAt depth := by
  rw [FinishesAt, answer_evaluatePredicate_succ, Classical.not_not] at h
  obtain ⟨q, hq, he⟩ := p.dependsOn_outcome.blames _ h
  exact ⟨q, ⟨depth, hq⟩, fun hf => hf he⟩

/-- An element that cannot be a root opens nothing. -/
theorem Opens.checkData {p q : Opening} (h : p.Opens q) : Context.checkData p.item = .ok () := by
  obtain ⟨depth, hq⟩ := h
  rw [opened] at hq
  split at hq
  · exact absurd hq (by simp)
  · assumption

end Opening

end Criteria
