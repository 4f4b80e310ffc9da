import Criteria.Proofs.Datum.Conversion
import Criteria.Proofs.Datum.Parts
import Criteria.Proofs.Evaluation.Arguments
import Criteria.Proofs.Evaluation.Openings

/-!
# What functions are given

Inside of the engine there are no integers. They come in with the root, with what host functions
return and with counts, and wherever data is made into a value they become floats. A function is
given data that is made from values, so **no integer is in it, however deep**
(`Criteria.Value.hasNoInteger_toDatum`).

To say this of all functions that an evaluation invokes, the invocations are listed as they come
(`Criteria.Expression.invocations`): those of host functions and of builtin functions, also from
within the predicates of `@select`. The world has a record of its own, of the calls of host
functions. **The list accounts for the record** (`Criteria.TracedBy`), so what is true of the one is
true of the other.
-/

namespace Criteria

open Evaluation

/-! ### Data without integers -/

/-- No integer is in a piece of data at any depth. -/
def Datum.HasNoInteger (d : Datum) : Prop := ∀ n, ¬(Datum.integer n).IsPartOf d

/-- Floats in the place of integers leave no integer. -/
theorem Datum.hasNoInteger_mapLeaves_asFloat (d : Datum) : (d.mapLeaves .asFloat).HasNoInteger := by
  induction d using Datum.inductionOn with
  | nil | bool b | integer n | float x | string s =>
    intro m h
    rw [mapLeaves] at h
    cases h
  | array items ih =>
    intro m h
    rw [mapLeaves] at h
    cases h with
    | item hm h =>
      obtain ⟨item, hitem, rfl⟩ := List.mem_map.mp hm
      exact ih item hitem m h
  | object fields ih =>
    intro m h
    rw [mapLeaves] at h
    cases h with
    | field hm h =>
      obtain ⟨field, hfield, rfl⟩ := List.mem_map.mp hm
      exact ih field hfield m h

/-- **Data that is made from a value has no integer in it.** -/
theorem Value.hasNoInteger_toDatum (v : Value) : v.toDatum.HasNoInteger := by
  rw [← ofDatum_toDatum v, toDatum_ofDatum]
  exact Datum.hasNoInteger_mapLeaves_asFloat v.toDatum

/-! ### Invocations -/

/-- An **invocation** of a function: where its arguments are evaluated, with how many predicates
open inside of one another at most, and what it is given. -/
structure Invocation where
  host : Type
  depth : Nat
  ctx : Context host
  world : World host
  name : String
  arguments : List Expression
  data : List Datum

/-- Whether a function belongs to the host. -/
def Function.isHost {σ : Type} : Function σ → Bool
  | .builtin _ => false
  | .host _ => true

namespace Invocation

/-- Whether the function that is invoked belongs to the host. -/
def callsHost (i : Invocation) : Bool := (i.ctx.function? i.name).any Function.isHost

/-- **A function is given values** when each thing that it is given is the data form of the value to
which its argument has come. -/
def GivesValues (i : Invocation) : Prop :=
  ∃ values w', ComeInTurn (evaluatePredicate i.depth) i.ctx i.world i.arguments values w' ∧
    i.data = values.map Value.toDatum

/-- There is no integer in what is given as the data of values. -/
theorem GivesValues.hasNoInteger {i : Invocation} (h : i.GivesValues) {d : Datum}
    (hd : d ∈ i.data) : d.HasNoInteger := by
  obtain ⟨values, -, -, hdata⟩ := h
  rw [hdata] at hd
  obtain ⟨v, -, rfl⟩ := List.mem_map.mp hd
  exact v.hasNoInteger_toDatum

/-- What invocations ask of the host: the functions that are called, and what they are given. -/
def hostRequests (is : List Invocation) : List (String × List Datum) :=
  (is.filter (·.callsHost)).map fun i => (i.name, i.data)

/-- What the host is asked in two stretches, one after the other. -/
theorem hostRequests_append (is js : List Invocation) :
    hostRequests (is ++ js) = hostRequests is ++ hostRequests js := by
  rw [hostRequests, List.filter_append, List.map_append]
  rfl

/-- The host is asked nothing if no invocation calls it. -/
theorem hostRequests_eq_nil_iff {is : List Invocation} :
    hostRequests is = [] ↔ ∀ i ∈ is, i.callsHost = false := by
  simp [hostRequests]

end Invocation

/-- What a call has asked of the host. -/
def Call.request (c : Call) : String × List Datum := (c.name, c.arguments)

variable {σ α β : Type}

/-- The invocations behind a step: none if it has stopped. -/
def invokedAfter (r : Except Stop α × World σ) (next : α → World σ → List Invocation) :
    List Invocation :=
  match r with
  | (.ok a, w) => next a w
  | (.error _, _) => []

section Listed

variable (depth : Nat) (within : Expression → Datum → List Invocation)

/-- The invocations from within the predicates that a function opens. -/
def Function.innerInvocations (data : List Datum) : Function σ → List Invocation
  | .builtin b =>
    (b.opened (evaluatePredicate depth) data).flatMap fun q => within q.predicate q.item
  | .host _ => []

variable (ctx : Context σ)

mutual

/-- The invocations of functions when an expression is evaluated, in their order. Those from within
predicates are a parameter here. -/
def Expression.invocationsWith : Expression → World σ → List Invocation
  | .term t, w => t.invocationsWith w
  | .chain left op right, w =>
    Expression.invocationsWith left w ++
      invokedAfter (left.evalWith (evaluatePredicate depth) ctx w) fun v w' =>
        if op.isDecidedBy v then [] else right.invocationsWith w'

/-- The invocations of a comparison, those of the left side first. -/
def Comparison.invocationsWith : Comparison → World σ → List Invocation
  | .term t, w => t.invocationsWith w
  | .chain left _ right, w =>
    Comparison.invocationsWith left w ++
      invokedAfter (left.evalWith (evaluatePredicate depth) ctx w) fun _ w' =>
        right.invocationsWith w'

/-- The invocations of an operand with an operator before it. -/
def Unary.invocationsWith : Unary → World σ → List Invocation
  | .plain x, w => x.invocationsWith w
  | .applied _ x, w => x.invocationsWith w

/-- The invocations of an operand: those of its arguments, then its own. -/
def Operand.invocationsWith : Operand → World σ → List Invocation
  | .call name arguments, w =>
    match ctx.function? name with
    | none => []
    | some f =>
      Operand.argumentInvocationsWith arguments w ++
        invokedAfter (Operand.argumentsWith (evaluatePredicate depth) ctx arguments w) fun data _ =>
          ⟨σ, depth, ctx, w, name, arguments, data⟩ :: f.innerInvocations depth within data
  | .group e, w => e.invocationsWith w
  | _, _ => []

/-- The invocations of the arguments of a call, up to the first one that stops. -/
def Operand.argumentInvocationsWith : List Expression → World σ → List Invocation
  | [], _ => []
  | e :: rest, w =>
    e.invocationsWith w ++
      invokedAfter (e.evalWith (evaluatePredicate depth) ctx w) fun _ w' =>
        Operand.argumentInvocationsWith rest w'

end

end Listed

/-- The invocations when a predicate is evaluated for an element. -/
def predicateInvocations : Nat → Expression → Datum → List Invocation
  | 0, _, _ => []
  | depth + 1, tree, item =>
    match (Context.ofDatum item : Except Error (Context Unit)) with
    | .error _ => []
    | .ok ctx => tree.invocationsWith depth (predicateInvocations depth) ctx ⟨(), []⟩

/-- **The invocations of functions when a tree is evaluated**, in their order, with those from
within the predicates that are opened. -/
def Expression.invocations (depth : Nat) (ctx : Context σ) (tree : Expression) (w : World σ) :
    List Invocation :=
  tree.invocationsWith depth (predicateInvocations depth) ctx w

/-! ### Invocations and the record of calls -/

/-- **Invocations account for an evaluation** that leads from one world to another: all of them are
given values, and the calls that it has recorded are those of host functions among them. -/
structure TracedBy (w : World σ) (r : Except Stop α × World σ) (is : List Invocation) : Prop where
  given : ∀ i ∈ is, i.GivesValues
  recorded : ∃ made, r.2.calls = w.calls ++ made ∧
    made.map Call.request = Invocation.hostRequests is

namespace TracedBy

/-- What leaves the world as it is invokes builtin functions only. -/
theorem of_eq {w : World σ} {r : Except Stop α × World σ} {is : List Invocation} (hw : r.2 = w)
    (given : ∀ i ∈ is, i.GivesValues) (builtin : ∀ i ∈ is, i.callsHost = false) :
    TracedBy w r is := by
  refine ⟨given, [], ?_, ?_⟩
  · rw [hw, List.append_nil]
  · rw [Invocation.hostRequests_eq_nil_iff.mpr builtin, List.map_nil]

/-- An evaluation that leaves the world as it was may be traced by no invocation. -/
theorem nothing {w : World σ} {r : Except Stop α × World σ} (hw : r.2 = w) : TracedBy w r [] :=
  of_eq hw (by simp) (by simp)

/-- No invocation of an evaluation that leaves the world as it was calls the host. -/
theorem callsHost_eq_false {w : World σ} {r : Except Stop α × World σ} {is : List Invocation}
    (h : TracedBy w r is) (hw : r.2 = w) {i : Invocation} (hi : i ∈ is) : i.callsHost = false := by
  obtain ⟨made, hcalls, hmade⟩ := h.recorded
  rw [hw, List.self_eq_append_right] at hcalls
  rw [hcalls, List.map_nil] at hmade
  exact Invocation.hostRequests_eq_nil_iff.mp hmade.symm i hi

/-- The invocations of two steps are those of the first, and then those of the second. -/
theorem bind {w : World σ} {x : Evaluation σ α} {f : α → Evaluation σ β} {is : List Invocation}
    {next : α → World σ → List Invocation} (hx : TracedBy w (x w) is)
    (hf : ∀ a w', x w = (.ok a, w') → TracedBy w' (f a w') (next a w')) :
    TracedBy w ((x >>= f) w) (is ++ invokedAfter (x w) next) := by
  rcases h : x w with ⟨s | a, w'⟩
  · rw [bind_of_error h, invokedAfter, List.append_nil]
    rw [h] at hx
    exact ⟨hx.given, hx.recorded⟩
  · rw [bind_of_ok h, invokedAfter]
    rw [h] at hx
    obtain ⟨made, hcalls, hmade⟩ := hx.recorded
    have hnext := hf a w' h
    obtain ⟨made', hcalls', hmade'⟩ := hnext.recorded
    refine ⟨fun i hi => ?_, made ++ made', ?_, ?_⟩
    · exact (List.mem_append.mp hi).elim (hx.given i) (hnext.given i)
    · rw [hcalls', hcalls, List.append_assoc]
    · rw [List.map_append, hmade, hmade', Invocation.hostRequests_append]

/-- What is done with a result without the host invokes nothing. -/
theorem bindExcept {w : World σ} {x : Evaluation σ α} {is : List Invocation}
    (hx : TracedBy w (x w) is) (f : α → Except Error β) :
    TracedBy w ((x >>= fun a => ofExcept (f a)) w) is := by
  have hf : ∀ a w', x w = (.ok a, w') → TracedBy w' (ofExcept (f a) w') [] := by
    intro a w' _
    rw [ofExcept_eq_ofOutcome, ofOutcome_apply]
    exact nothing rfl
  have h := hx.bind hf
  have hnone : invokedAfter (x w) (fun _ _ => []) = [] := by
    rcases x w with ⟨_ | _, _⟩ <;> rfl
  rwa [hnone, List.append_nil] at h

end TracedBy

section Tree

variable {depth : Nat} {within : Expression → Datum → List Invocation} {ctx : Context σ}

/-- What is invoked from within predicates is given values, and does not belong to the host. -/
def AreFromWithin (within : Expression → Datum → List Invocation) : Prop :=
  ∀ tree item, ∀ i ∈ within tree item, i.GivesValues ∧ i.callsHost = false

/-- **An invocation accounts for itself**, together with what comes from within. -/
theorem Function.tracedBy_call (hwithin : AreFromWithin within) {i : Invocation}
    (hi : i.GivesValues) {f : Function σ} (hhost : i.callsHost = f.isHost) (w : World σ) :
    TracedBy w (f.call (evaluatePredicate depth) i.name i.data w)
      (i :: f.innerInvocations depth within i.data) := by
  cases f with
  | builtin b =>
    have hinner : ∀ j ∈ (Function.builtin b : Function σ).innerInvocations depth within i.data,
        j.GivesValues ∧ j.callsHost = false := by
      intro j hj
      obtain ⟨q, -, hq⟩ := List.mem_flatMap.mp hj
      exact hwithin q.predicate q.item j hq
    rw [call, ofOutcome_apply]
    exact .of_eq rfl (List.forall_mem_cons.mpr ⟨hi, fun j hj => (hinner j hj).1⟩)
      (List.forall_mem_cons.mpr ⟨hhost, fun j hj => (hinner j hj).2⟩)
  | host f =>
    refine ⟨List.forall_mem_cons.mpr ⟨hi, by simp [innerInvocations]⟩,
      [⟨i.name, i.data, (f i.data w.host).1⟩], rfl, ?_⟩
    have hcalls : i.callsHost = true := hhost
    simp [innerInvocations, Invocation.hostRequests, Call.request, hcalls]

mutual

/-- **The invocations that are listed account for the evaluation of a tree.** -/
theorem Expression.tracedBy_evalWith (hwithin : AreFromWithin within) : ∀ (e : Expression)
    (w : World σ), TracedBy w (e.evalWith (evaluatePredicate depth) ctx w)
      (e.invocationsWith depth within ctx w)
  | .term c, w => Comparison.tracedBy_evalWith hwithin c w
  | .chain left op right, w => by
    have hleft := Expression.tracedBy_evalWith hwithin left w
    refine hleft.bind fun v w' _ => ?_
    split
    · exact .nothing rfl
    · exact (Comparison.tracedBy_evalWith hwithin right w').bindExcept fun u => op.applyLogical v u

theorem Comparison.tracedBy_evalWith (hwithin : AreFromWithin within) : ∀ (c : Comparison)
    (w : World σ), TracedBy w (c.evalWith (evaluatePredicate depth) ctx w)
      (c.invocationsWith depth within ctx w)
  | .term u, w => Unary.tracedBy_evalWith hwithin u w
  | .chain left op right, w => by
    have hleft := Comparison.tracedBy_evalWith hwithin left w
    refine hleft.bind fun v w' _ => ?_
    exact (Unary.tracedBy_evalWith hwithin right w').bindExcept fun u => op.applyComparison v u

theorem Unary.tracedBy_evalWith (hwithin : AreFromWithin within) : ∀ (u : Unary)
    (w : World σ), TracedBy w (u.evalWith (evaluatePredicate depth) ctx w)
      (u.invocationsWith depth within ctx w)
  | .plain x, w => Operand.tracedBy_evalWith hwithin x w
  | .applied op x, w =>
    (Operand.tracedBy_evalWith hwithin x w).bindExcept fun v => op.applyUnary v

theorem Operand.tracedBy_evalWith (hwithin : AreFromWithin within) : ∀ (x : Operand)
    (w : World σ), TracedBy w (x.evalWith (evaluatePredicate depth) ctx w)
      (x.invocationsWith depth within ctx w)
  | .number _, w | .string _, w | .boolean _, w | .nil, w | .regex _, w => .nothing rfl
  | .reference _ path, w => by
    rw [Operand.evalWith, ofExcept_eq_ofOutcome, ofOutcome_apply]
    exact .nothing rfl
  | .call name arguments, w => by
    cases found : ctx.function? name with
    | none =>
      simp only [Operand.evalWith, Operand.invocationsWith, found]
      exact .nothing rfl
    | some f =>
      simp only [Operand.evalWith, Operand.invocationsWith, found]
      have harguments := Operand.tracedBy_argumentsWith hwithin arguments w
      refine harguments.bind fun data w' hdata => ?_
      -- the call is accounted for by its own invocation, which was prepared in the first world
      let i : Invocation := ⟨σ, depth, ctx, w, name, arguments, data⟩
      have hi : i.GivesValues := by
        obtain ⟨values, hvalues, hdata⟩ := Operand.argumentsWith_eq_ok_iff.mp hdata
        exact ⟨values, w', hvalues, hdata⟩
      have hcall : TracedBy w' (f.call (evaluatePredicate depth) name data w')
          (i :: f.innerInvocations depth within data) :=
        Function.tracedBy_call hwithin hi (by simp [i, Invocation.callsHost, found]) w'
      exact hcall.bindExcept fun d => .ok (Value.ofDatum d)
  | .group e, w => Expression.tracedBy_evalWith hwithin e w

theorem Operand.tracedBy_argumentsWith (hwithin : AreFromWithin within) :
    ∀ (arguments : List Expression) (w : World σ),
      TracedBy w (Operand.argumentsWith (evaluatePredicate depth) ctx arguments w)
        (Operand.argumentInvocationsWith depth within ctx arguments w)
  | [], w => .nothing rfl
  | e :: rest, w => by
    have he := Expression.tracedBy_evalWith hwithin e w
    refine he.bind fun v w' _ => ?_
    exact (Operand.tracedBy_argumentsWith hwithin rest w').bindExcept fun ds =>
      .ok (v.toDatum :: ds)

end

end Tree

/-- Predicates are evaluated against contexts without host functions. -/
theorem areFromWithin_predicateInvocations (depth : Nat) :
    AreFromWithin (predicateInvocations depth) := by
  induction depth with
  | zero => exact fun tree item i hi => absurd hi List.not_mem_nil
  | succ depth ih =>
    intro tree item i hi
    rw [predicateInvocations] at hi
    split at hi
    · exact absurd hi List.not_mem_nil
    · rename_i ctx hctx
      have htraced : TracedBy ⟨(), []⟩ (tree.eval depth ctx ⟨(), []⟩) _ :=
        tree.tracedBy_evalWith ih ⟨(), []⟩
      have hworld : (tree.eval depth ctx ⟨(), []⟩).2 = ⟨(), []⟩ := by
        rw [Expression.eval_apply_of_ofDatum hctx]
      exact ⟨htraced.given i hi, htraced.callsHost_eq_false hworld hi⟩

/-- **Functions never see an integer**, whatever the tree, the root and the functions are. Whenever
an evaluation invokes a function, also from within predicates, each thing that the function is given
is the data form of the value to which its argument has come, and has no integer in it at any depth.
The calls of host functions that the world has on record afterwards are those of host functions
among the invocations, in this order and with this data. -/
theorem functions_never_see_integers (depth : Nat) (ctx : Context σ) (tree : Expression)
    (w : World σ) :
    (∀ i ∈ tree.invocations depth ctx w, i.GivesValues ∧ ∀ d ∈ i.data, d.HasNoInteger) ∧
      ∃ made, (tree.eval depth ctx w).2.calls = w.calls ++ made ∧
        made.map Call.request = Invocation.hostRequests (tree.invocations depth ctx w) ∧
        ∀ c ∈ made, ∀ d ∈ c.arguments, d.HasNoInteger := by
  have htraced : TracedBy w (tree.eval depth ctx w) (tree.invocations depth ctx w) :=
    tree.tracedBy_evalWith (areFromWithin_predicateInvocations depth) w
  obtain ⟨made, hcalls, hmade⟩ := htraced.recorded
  refine ⟨fun i hi => ⟨htraced.given i hi, fun d hd => (htraced.given i hi).hasNoInteger hd⟩,
    made, hcalls, hmade, fun c hc d hd => ?_⟩
  have hlisted : c.request ∈ Invocation.hostRequests (tree.invocations depth ctx w) :=
    hmade ▸ List.mem_map_of_mem hc
  obtain ⟨i, hi, hdata⟩ := List.mem_map.mp hlisted
  rw [← (Prod.mk.inj hdata).2] at hd
  exact (htraced.given i (List.mem_of_mem_filter hi)).hasNoInteger hd

/-- Integers from the root, from a count and from a host function that wraps what it is given, on
their way into functions. -/
theorem integers_arrive_as_floats :
    let root : Datum := .object [("a", .array [.integer 3, .object [("b", .array [.integer 2])]])]
    let wrap : HostFunction Unit := fun arguments u =>
      (.ok (.array [.integer 7, .float .nan, .array arguments]), u)
    let ctx : Context Unit := ⟨root, FunctionTable.builtins ++ [("@wrap", .host wrap)]⟩
    let field : Expression := .lone (.reference ".a" [⟨"a", none⟩])
    let counts : Expression := .lone (.call "@array" [.lone (.call "@len" [field])])
    let tree : Expression := .lone (.call "@wrap" [.lone (.call "@wrap" [field]), counts])
    let three : Datum := .array [.float (.ofInt 3), .object [("b", .array [.float (.ofInt 2)])]]
    (tree.invocations 1 ctx ⟨(), []⟩).map (fun i => i.name) = ["@wrap", "@len", "@array", "@wrap"] ∧
    (∀ i ∈ tree.invocations 1 ctx ⟨(), []⟩, i.GivesValues ∧ ∀ d ∈ i.data, d.HasNoInteger) ∧
    (tree.eval 1 ctx ⟨(), []⟩).2.calls.map (fun c => c.arguments) =
      [[three], [.array [.float (.ofInt 7), .float .nan, .array [three]],
        .array [.float (.ofInt 2)]]] := by
  intro root wrap ctx field counts tree three
  obtain ⟨hgiven, -⟩ := functions_never_see_integers 1 ctx tree ⟨(), []⟩
  exact ⟨rfl, hgiven, rfl⟩

end Criteria
