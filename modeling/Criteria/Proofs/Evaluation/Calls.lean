import Criteria.Proofs.Evaluation.Openings

/-!
# The calls that an evaluation makes

What a host sees of an evaluation are the calls of its functions: which of them are called, in
which order, and what becomes of what they return. Of all this an evaluation leaves little open:

* the calls follow the nodes of the tree in the order in which the nodes end, each node is called
  for at most once, and each call finds the host as the call before has left it
  (`Criteria.Context.Serves`);
* a call that fails is the last one, and its error is the result
  (`Criteria.EndsAtFailure`);
* where there is a value in the end, only nodes behind a logical operator can have been left out
  (`Criteria.Expression.unskippable`).

An evaluation with these properties is **orderly** (`Criteria.Evaluation.IsOrderly`). Evaluations
that follow one another are orderly if each of them is, and so is everything that is built from
them along a tree. Predicates of `@select` do not show up here, since they cannot reach the host.
-/

namespace Criteria

variable {σ α β : Type}

/-! ### Calls along the nodes of a tree -/

/-- The name of the host function that an operand calls, if it calls one. -/
def Context.hostName? (ctx : Context σ) : Operand → Option String
  | .call name _ =>
    match ctx.function? name with
    | some (.host _) => some name
    | _ => none
  | _ => none

/-- The names of the host functions that operands call. -/
def Context.hostNames (ctx : Context σ) (nodes : List Operand) : List String :=
  nodes.filterMap ctx.hostName?

/-- **A host serves nodes**: going along operands from left to right, it passes some of them by
and is called once for each of the others. A call finds the host in the state in which the call
before has left it, and is recorded with what the function returned there. -/
inductive Context.Serves (ctx : Context σ) : σ → List Operand → List Call → σ → Prop
  | done (host : σ) : ctx.Serves host [] [] host
  | pass {host host' : σ} {nodes : List Operand} {made : List Call} (x : Operand)
      (rest : ctx.Serves host nodes made host') : ctx.Serves host (x :: nodes) made host'
  | call {host host' : σ} {nodes : List Operand} {made : List Call} {name : String}
      {f : HostFunction σ} (arguments : List Expression) (data : List Datum)
      (found : ctx.function? name = some (.host f))
      (rest : ctx.Serves (f data host).2 nodes made host') :
      ctx.Serves host (.call name arguments :: nodes) (⟨name, data, (f data host).1⟩ :: made) host'

namespace Context

variable {ctx : Context σ}

@[simp]
theorem hostNames_append (xs ys : List Operand) :
    ctx.hostNames (xs ++ ys) = ctx.hostNames xs ++ ctx.hostNames ys :=
  List.filterMap_append

/-- The call of a host function calls it by its name. -/
theorem hostName?_call {name : String} {f : HostFunction σ} (arguments : List Expression)
    (found : ctx.function? name = some (.host f)) :
    ctx.hostName? (.call name arguments) = some name := by
  rw [hostName?, found]

/-- A host that is not called passes all nodes by. -/
theorem serves_nothing (host : σ) (nodes : List Operand) : ctx.Serves host nodes [] host := by
  induction nodes with
  | nil => exact .done host
  | cons x rest ih => exact .pass x ih

/-- A host that serves one list of operands and then another serves both. -/
theorem Serves.append {host host' host'' : σ} {xs ys : List Operand} {made made' : List Call}
    (h : ctx.Serves host xs made host') (h' : ctx.Serves host' ys made' host'') :
    ctx.Serves host (xs ++ ys) (made ++ made') host'' := by
  induction h with
  | done host => exact h'
  | pass x _ ih => exact .pass x (ih h')
  | call arguments data found _ ih => exact .call arguments data found (ih h')

/-- The functions that are called are some of those that the nodes name, in their order. -/
theorem Serves.names_sublist {host host' : σ} {nodes : List Operand} {made : List Call}
    (h : ctx.Serves host nodes made host') :
    (made.map (·.name)).Sublist (ctx.hostNames nodes) := by
  induction h with
  | done host => exact List.Sublist.slnil
  | pass x _ ih => exact ih.trans ((List.sublist_cons_self x _).filterMap _)
  | call arguments data found _ ih =>
    rw [hostNames, List.filterMap_cons_some (hostName?_call arguments found)]
    exact ih.cons_cons _

end Context

/-! ### Failing calls -/

/-- A call that fails is the last one, and what comes out is its error. -/
def EndsAtFailure (made : List Call) (r : Except Stop α) : Prop :=
  ∀ before c after e, made = before ++ c :: after → c.result = .error e →
    after = [] ∧ r = .error (.error e)

theorem endsAtFailure_nil (r : Except Stop α) : EndsAtFailure [] r := by
  intro before c after e h
  exact absurd h (by simp)

/-- One call, with its own result as what comes out. -/
theorem endsAtFailure_singleton (name : String) (data : List Datum) (r : Except Error Datum) :
    EndsAtFailure [⟨name, data, r⟩] (r.mapError Stop.error) := by
  intro before c after e h he
  rcases List.singleton_eq_append_iff.mp h with ⟨-, hc⟩ | ⟨-, hc⟩
  · obtain ⟨rfl, rfl⟩ := List.cons.inj hc
    change r = .error e at he
    exact ⟨rfl, by rw [he]; rfl⟩
  · exact absurd hc (by simp)

/-- A stop is passed on whatever kind of result was asked for. -/
theorem EndsAtFailure.stop {made : List Call} {s : Stop}
    (h : EndsAtFailure made (.error s : Except Stop α)) :
    EndsAtFailure made (.error s : Except Stop β) := by
  intro before c after e hm he
  obtain ⟨hafter, hs⟩ := h before c after e hm he
  exact ⟨hafter, by rw [Except.error.inj hs]⟩

/-- Behind calls that led to a result there may be others: none of the first has failed. -/
theorem EndsAtFailure.append {made made' : List Call} {a : α} {r : Except Stop β}
    (h : EndsAtFailure made (.ok a : Except Stop α)) (h' : EndsAtFailure made' r) :
    EndsAtFailure (made ++ made') r := by
  intro before c after e hm he
  rcases List.append_eq_append_iff.mp hm with ⟨middle, rfl, hmade'⟩ | ⟨middle, hmade, hrest⟩
  · exact h' middle c after e hmade' he
  · cases middle with
    | nil => exact h' [] c after e hrest.symm he
    | cons d middle =>
      -- the failing call is one of the first, so these did not lead to a result
      obtain ⟨rfl, -⟩ := List.cons.inj hrest
      exact absurd (h before c middle e hmade he).2 (by simp)

/-! ### Orderly evaluations -/

/-- How an evaluation went that leads from one world to another and is due to nodes of a tree:
the calls that it made, and what came out. The nodes in `must` cannot have been left out if this
is a result. -/
structure Context.Orderly (ctx : Context σ) (must may : List Operand) (w w' : World σ)
    (made : List Call) (r : Except Stop α) : Prop where
  recorded : w'.calls = w.calls ++ made
  served : ctx.Serves w.host may made w'.host
  failed : EndsAtFailure made r
  complete : ∀ a, r = .ok a → (ctx.hostNames must).Sublist (made.map (·.name))

namespace Evaluation

/-- An evaluation that goes along nodes of a tree in an orderly way, whatever the world. -/
def IsOrderly (ctx : Context σ) (must may : List Operand) (x : Evaluation σ α) : Prop :=
  ∀ w, ∃ made, ctx.Orderly must may w (x w).2 made (x w).1

variable {ctx : Context σ} {must may : List Operand}

/-- Where the host is not called, a result is only allowed if no node had to call it. -/
theorem isOrderly_ofOutcome {r : Except Stop α} (h : ∀ a, r = .ok a → ctx.hostNames must = [])
    (may : List Operand) : IsOrderly ctx must may (ofOutcome r : Evaluation σ α) := by
  intro w
  rw [ofOutcome_apply]
  refine ⟨[], (List.append_nil _).symm, Context.serves_nothing w.host may,
    endsAtFailure_nil r, fun a ha => ?_⟩
  rw [h a ha]
  exact List.Sublist.slnil

/-- A value is there without calls. -/
theorem isOrderly_pure (a : α) (h : ctx.hostNames must = []) (may : List Operand) :
    IsOrderly ctx must may (pure a : Evaluation σ α) :=
  isOrderly_ofOutcome (r := .ok a) (fun _ _ => h) may

theorem isOrderly_stop (s : Stop) (must may : List Operand) :
    IsOrderly ctx must may (stop s : Evaluation σ α) :=
  isOrderly_ofOutcome (r := .error s) (fun _ h => absurd h (by simp)) may

/-- What is decided without a host calls nothing. -/
theorem isOrderly_ofExcept (r : Except Error α) :
    IsOrderly ctx [] [] (ofExcept r : Evaluation σ α) := by
  rw [ofExcept_eq_ofOutcome]
  exact isOrderly_ofOutcome (fun _ _ => rfl) []

/-- The call of a host function is one call under its name. -/
theorem isOrderly_callHost {name : String} {f : HostFunction σ}
    (found : ctx.function? name = some (.host f)) (arguments : List Expression)
    (data : List Datum) :
    IsOrderly ctx [.call name arguments] [.call name arguments] (callHost name f data) := by
  intro w
  refine ⟨[⟨name, data, (f data w.host).1⟩], rfl, .call arguments data found (.done _),
    endsAtFailure_singleton name data _, fun a _ => ?_⟩
  rw [Context.hostNames, List.filterMap_cons_some (Context.hostName?_call arguments found)]
  exact List.Sublist.refl _

/-- Evaluations that follow one another go along the nodes of the first, then along those of the
second. -/
theorem IsOrderly.bind {must' may' : List Operand} {x : Evaluation σ α} {f : α → Evaluation σ β}
    (hx : IsOrderly ctx must may x) (hf : ∀ a, IsOrderly ctx must' may' (f a)) :
    IsOrderly ctx (must ++ must') (may ++ may') (x >>= f) := by
  intro w
  obtain ⟨made, h⟩ := hx w
  rcases hr : x w with ⟨s | a, w'⟩
  · -- the first evaluation stops, and the host passes the nodes of the second by
    rw [hr] at h
    rw [bind_of_error hr]
    refine ⟨made, h.recorded, ?_, h.failed.stop, fun b hb => absurd hb (by simp)⟩
    rw [← List.append_nil made]
    exact h.served.append (Context.serves_nothing w'.host may')
  · rw [hr] at h
    rw [bind_of_ok hr]
    obtain ⟨made', h'⟩ := hf a w'
    refine ⟨made ++ made', ?_, h.served.append h'.served, h.failed.append h'.failed,
      fun b hb => ?_⟩
    · rw [h'.recorded, h.recorded, List.append_assoc]
    · rw [Context.hostNames_append, List.map_append]
      exact (h.complete a rfl).append (h'.complete b hb)

/-- What is done with the result of an evaluation without the host goes along no nodes. -/
theorem IsOrderly.bindExcept {x : Evaluation σ α} (hx : IsOrderly ctx must may x)
    (f : α → Except Error β) : IsOrderly ctx must may (x >>= fun a => ofExcept (f a)) := by
  have h : IsOrderly ctx (must ++ []) (may ++ []) (x >>= fun a => ofExcept (f a)) :=
    hx.bind fun a => isOrderly_ofExcept (f a)
  rwa [List.append_nil, List.append_nil] at h

/-- None of the nodes has to be called for. -/
theorem IsOrderly.weaken {x : Evaluation σ α} (hx : IsOrderly ctx must may x) :
    IsOrderly ctx [] may x := by
  intro w
  obtain ⟨made, h⟩ := hx w
  exact ⟨made, h.recorded, h.served, h.failed, fun _ _ => List.nil_sublist _⟩

/-- An evaluation may also go along further nodes that do not call the host. -/
theorem IsOrderly.append {x : Evaluation σ α} (hx : IsOrderly ctx must may x)
    {nodes : List Operand} (h : ctx.hostNames nodes = []) :
    IsOrderly ctx (must ++ nodes) (may ++ nodes) x := by
  have hpure := hx.bind fun a => isOrderly_pure a h nodes
  rwa [bind_pure] at hpure

end Evaluation

/-! ### Nodes that are not left out -/

mutual

/-- The operands of an expression, in the order in which they end, but for those behind logical
operators. -/
def Expression.unskippable : Expression → List Operand
  | .term t => t.unskippable
  | .chain left _ _ => Expression.unskippable left

/-- The operands of a comparison but for those behind logical operators inside of them. -/
def Comparison.unskippable : Comparison → List Operand
  | .term t => t.unskippable
  | .chain left _ right => Comparison.unskippable left ++ right.unskippable

/-- The operands of an operand with an operator before it, but for those behind logical
operators. -/
def Unary.unskippable : Unary → List Operand
  | .plain x => x.unskippable
  | .applied _ x => x.unskippable

/-- The operands inside an operand but for those behind logical operators, itself the last. -/
def Operand.unskippable : Operand → List Operand
  | .call name arguments => Operand.unskippableArguments arguments ++ [.call name arguments]
  | .group e => e.unskippable ++ [.group e]
  | x => [x]

/-- The operands of arguments but for those behind logical operators. -/
def Operand.unskippableArguments : List Expression → List Operand
  | [] => []
  | e :: rest => e.unskippable ++ Operand.unskippableArguments rest

end

/-! ### Evaluations of trees -/

section Tree

variable {evaluate : Expression → Datum → Except Stop Value} {ctx : Context σ}

open Evaluation

/-- A call goes along the node that it is made for: a builtin function passes it by. -/
theorem Function.isOrderly_call {name : String} {f : Function σ}
    (found : ctx.function? name = some f) (arguments : List Expression) (data : List Datum) :
    IsOrderly ctx [.call name arguments] [.call name arguments] (f.call evaluate name data) := by
  cases f with
  | builtin b =>
    have hname : ctx.hostNames [.call name arguments] = [] := by
      simp [Context.hostNames, Context.hostName?, found]
    exact isOrderly_ofOutcome (fun _ _ => hname) _
  | host f => exact isOrderly_callHost found arguments data

mutual

/-- **The calls of an evaluation follow the operands of the tree.** -/
theorem Expression.isOrderly_evalWith : ∀ e : Expression,
    IsOrderly ctx e.unskippable e.operands (e.evalWith evaluate ctx)
  | .term c => Comparison.isOrderly_evalWith c
  | .chain left op right => by
    have hleft := Expression.isOrderly_evalWith left
    have hright := Comparison.isOrderly_evalWith right
    -- the right side may be left out, so nothing of it has to be called for
    have hrest : ∀ v, IsOrderly ctx [] right.operands
        (if op.isDecidedBy v then pure v
          else right.evalWith evaluate ctx >>= fun w => ofExcept (op.applyLogical v w)) := by
      intro v
      split
      · exact isOrderly_pure v rfl _
      · exact (hright.bindExcept fun w => op.applyLogical v w).weaken
    have h := hleft.bind hrest
    rwa [List.append_nil] at h

theorem Comparison.isOrderly_evalWith : ∀ c : Comparison,
    IsOrderly ctx c.unskippable c.operands (c.evalWith evaluate ctx)
  | .term u => Unary.isOrderly_evalWith u
  | .chain left op right => by
    have hleft := Comparison.isOrderly_evalWith left
    have hright := Unary.isOrderly_evalWith right
    exact hleft.bind fun v => hright.bindExcept fun w => op.applyComparison v w

theorem Unary.isOrderly_evalWith : ∀ u : Unary,
    IsOrderly ctx u.unskippable u.operands (u.evalWith evaluate ctx)
  | .plain x => Operand.isOrderly_evalWith x
  | .applied op x => (Operand.isOrderly_evalWith x).bindExcept fun v => op.applyUnary v

theorem Operand.isOrderly_evalWith : ∀ x : Operand,
    IsOrderly ctx x.unskippable x.operands (x.evalWith evaluate ctx)
  | .number _ | .string _ | .boolean _ | .nil | .regex _ => isOrderly_pure _ rfl _
  | .reference _ path => by
    rw [Operand.evalWith, ofExcept_eq_ofOutcome]
    exact isOrderly_ofOutcome (fun _ _ => rfl) _
  | .call name arguments => by
    rw [Operand.evalWith]
    split
    · -- an unknown name: the evaluation stops before the arguments
      exact isOrderly_stop _ _ _
    · rename_i f found
      have harguments := Operand.isOrderly_argumentsWith arguments
      refine harguments.bind fun data => ?_
      have hcall : IsOrderly ctx [.call name arguments] [.call name arguments]
          (f.call evaluate name data) := Function.isOrderly_call found arguments data
      exact hcall.bindExcept fun d => .ok (Value.ofDatum d)
  | .group e => (Expression.isOrderly_evalWith e).append rfl

theorem Operand.isOrderly_argumentsWith : ∀ arguments : List Expression,
    IsOrderly ctx (Operand.unskippableArguments arguments) (Operand.argumentOperands arguments)
      (Operand.argumentsWith evaluate ctx arguments)
  | [] => isOrderly_pure [] rfl []
  | e :: rest => by
    have he := Expression.isOrderly_evalWith e
    have hrest := Operand.isOrderly_argumentsWith rest
    exact he.bind fun v => hrest.bindExcept fun ds => .ok (v.toDatum :: ds)

end

end Tree

/-! ### What the host sees -/

/-- **Evaluation ends with the first failing call of a host function.** The calls that an
evaluation makes are those in which its host serves nodes of the tree. If one of them returns an
error, however deep in the tree its node is, then no call comes behind it, and the evaluation
returns this very error. -/
theorem evaluation_ends_at_failing_call (depth : Nat) (ctx : Context σ) (tree : Expression)
    (w : World σ) :
    ∃ made, (tree.eval depth ctx w).2.calls = w.calls ++ made ∧
      ctx.Serves w.host tree.operands made (tree.eval depth ctx w).2.host ∧
      ∀ before c after e, made = before ++ c :: after → c.result = .error e →
        after = [] ∧ (tree.eval depth ctx w).1 = .error (.error e) := by
  have horderly : (tree.eval depth ctx).IsOrderly ctx tree.unskippable tree.operands :=
    tree.isOrderly_evalWith
  obtain ⟨made, h⟩ := horderly w
  exact ⟨made, h.recorded, h.served, h.failed⟩

/-- A function that fails from its second call on, in the argument of a builtin function: the third
call is not made, and the evaluation returns the error of the second. -/
theorem evaluation_ends_at_second_call :
    let once : HostFunction Nat := fun _ n =>
      (if n = 0 then .ok .nil else .error (.reported .missingKey "gone"), n + 1)
    let ctx : Context Nat := ⟨.nil, [("@array", .builtin .array), ("@once", .host once)]⟩
    let ask : Expression := .term (.term (.plain (.call "@once" [])))
    let tree : Expression := .term (.term (.plain (.call "@array" [ask, .term (.chain
      (.term (.applied .not (.group ask))) .equal (.plain (.call "@once" [])))])))
    ∃ first second, (tree.eval 0 ctx ⟨0, []⟩).2.calls = [first, second] ∧
      second.result = .error (.reported .missingKey "gone") ∧
      (tree.eval 0 ctx ⟨0, []⟩).1 = .error (.error (.reported .missingKey "gone")) := by
  intro once ctx ask tree
  obtain ⟨made, hmade, -, hfailed⟩ := evaluation_ends_at_failing_call 0 ctx tree ⟨0, []⟩
  have hcalls : (tree.eval 0 ctx ⟨0, []⟩).2.calls =
      [⟨"@once", [], .ok .nil⟩, ⟨"@once", [], .error (.reported .missingKey "gone")⟩] := rfl
  refine ⟨_, _, hcalls, rfl, ?_⟩
  have hsplit : made = [⟨"@once", [], .ok .nil⟩] ++
      ⟨"@once", [], .error (.reported .missingKey "gone")⟩ :: [] := hmade.symm.trans hcalls
  exact (hfailed _ _ _ _ hsplit rfl).2

/-- **Host functions are called along the tree, once for a node at most.** The functions that an
evaluation calls are some of those that the nodes of the tree name, in the order in which the
nodes end; and they include those that no short circuit can leave out, if the evaluation gives a
value. Builtin functions, `@select` with all its predicates among them, leave the world as it is:
in any world, evaluating a predicate for an element gives what `@select` takes it to give and calls
no function of the host. -/
theorem host_calls_follow_nodes (depth : Nat) (ctx : Context σ) (tree : Expression) (w : World σ) :
    (∃ made, (tree.eval depth ctx w).2.calls = w.calls ++ made ∧
      ctx.Serves w.host tree.operands made (tree.eval depth ctx w).2.host ∧
      (made.map (·.name)).Sublist (ctx.hostNames tree.operands) ∧
      ∀ v, (tree.eval depth ctx w).1 = .ok v →
        (ctx.hostNames tree.unskippable).Sublist (made.map (·.name))) ∧
    (∀ b name data w',
      ((Function.builtin b : Function σ).call (evaluatePredicate depth) name data w').2 = w') ∧
    ∀ item (inner : Context σ), Context.ofDatum item = .ok inner →
      ∀ predicate w', Expression.eval depth inner predicate w' =
        (evaluatePredicate (depth + 1) predicate item, w') := by
  refine ⟨?_, fun b name data w' => ?_, fun item inner hinner predicate w' => ?_⟩
  · have horderly : (tree.eval depth ctx).IsOrderly ctx tree.unskippable tree.operands :=
      tree.isOrderly_evalWith
    obtain ⟨made, h⟩ := horderly w
    exact ⟨made, h.recorded, h.served, h.served.names_sublist, h.complete⟩
  · rw [Function.call, Evaluation.ofOutcome_apply]
  · exact Expression.eval_apply_of_ofDatum hinner predicate depth w'

end Criteria
