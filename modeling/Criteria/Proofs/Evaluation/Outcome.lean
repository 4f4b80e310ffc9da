import Criteria.Evaluation.Expression
import Criteria.Proofs.Grammar.Flattening

/-!
# Evaluation without a host

Where an expression calls builtin functions only, nothing of the host's state is read or changed
and no call is recorded. What is left is a plain function of the tree and the root of the data,
the **outcome** (`Criteria.Expression.outcome`). This is the form in which evaluation against the
contexts without host functions is reasoned about; `Criteria.Expression.evalWith_eq_outcome` says
that it is the evaluation of the engine.

The functions of such a context are the builtin functions by their names
(`Criteria.Context.function?_of_ofDatum`). In other contexts the same holds for the trees that
call no host function.
-/

namespace Criteria

/-! ### Successful and failing steps -/

/-- Two results in turn that succeed do so one by one. -/
theorem exists_ok_of_bind {ε α β : Type} {r : Except ε α} {f : α → Except ε β} {b : β}
    (h : (r >>= f) = .ok b) : ∃ a, r = .ok a ∧ f a = .ok b := by
  cases r with
  | error e => cases h
  | ok a => exact ⟨a, rfl, h⟩

/-- What a successful result was made from. -/
theorem exists_ok_of_map {ε α β : Type} {r : Except ε α} {f : α → β} {b : β}
    (h : r.map f = .ok b) : ∃ a, r = .ok a ∧ f a = b := by
  cases r with
  | error e => cases h
  | ok a => exact ⟨a, rfl, Except.ok.inj h⟩

/-- A map neither adds nor removes an error. -/
theorem map_eq_error_iff {ε α β : Type} {r : Except ε α} {f : α → β} {e : ε} :
    r.map f = .error e ↔ r = .error e := by
  cases r <;> simp [Except.map]

/-! ### The functions of contexts without a host -/

/-- A table made of builtin functions holds them under their names. -/
theorem FunctionTable.get?_map_builtin {σ : Type} (bs : List Builtin) (name : String) :
    Fields.get? (bs.map fun b => (b.name, (Function.builtin b : Function σ))) name =
      (bs.find? (·.name == name)).map .builtin := by
  induction bs with
  | nil => rfl
  | cons b rest ih =>
    rw [List.map_cons, Fields.get?, List.find?_cons]
    by_cases hb : name = b.name
    · simp [hb]
    · have hne : (b.name == name) = false := by simpa using fun h => hb h.symm
      rw [if_neg hb, hne, ih]

/-- The function that a name calls where there are no host functions. -/
def Builtin.function? {σ : Type} (name : String) : Option (Function σ) :=
  (Builtin.ofName? name).map .builtin

/-- A context without host functions holds a valid root and the builtin functions. -/
theorem Context.ofDatum_eq_ok_iff {σ : Type} {root : Datum} {ctx : Context σ} :
    Context.ofDatum root = .ok ctx ↔
      Context.checkData root = .ok () ∧ ctx = ⟨root, .builtins⟩ := by
  rw [Context.ofDatum]
  cases Context.checkData root with
  | error e => simp
  | ok _ => simp [eq_comm]

/-- A context without host functions has the builtin functions. -/
theorem Context.function?_builtins {σ : Type} (root : Datum) (name : String) :
    (⟨root, .builtins⟩ : Context σ).function? name = Builtin.function? name :=
  FunctionTable.get?_map_builtin Builtin.all name

/-- A context that is made of data alone has the builtin functions. -/
theorem Context.function?_of_ofDatum {σ : Type} {root : Datum} {ctx : Context σ}
    (h : Context.ofDatum root = .ok ctx) (name : String) :
    ctx.function? name = Builtin.function? name := by
  obtain ⟨-, rfl⟩ := Context.ofDatum_eq_ok_iff.mp h
  exact Context.function?_builtins root name

/-! ### Outcomes -/

/-- What a variable stands for, as an outcome. -/
def Path.outcome (root : Datum) (path : Path) : Except Stop Value :=
  ((path.resolve root).map Value.ofDatum).mapError .error

section Outcome

variable (evaluate : Expression → Datum → Except Stop Value) (root : Datum)

mutual

/-- What an expression evaluates to where no host function can be called. -/
def Expression.outcome : Expression → Except Stop Value
  | .term t => t.outcome
  | .chain left op right => do
    let v ← Expression.outcome left
    if op.isDecidedBy v then pure v
    else do
      let w ← right.outcome
      (op.applyLogical v w).mapError .error

/-- What a comparison evaluates to there. -/
def Comparison.outcome : Comparison → Except Stop Value
  | .term t => t.outcome
  | .chain left op right => do
    let v ← Comparison.outcome left
    let w ← right.outcome
    (op.applyComparison v w).mapError .error

/-- What an operand with an operator before it evaluates to there. -/
def Unary.outcome : Unary → Except Stop Value
  | .plain x => x.outcome
  | .applied op x => do
    let v ← x.outcome
    (op.applyUnary v).mapError .error

/-- What an operand evaluates to there. -/
def Operand.outcome : Operand → Except Stop Value
  | .number x => .ok (.number x)
  | .string s => .ok (.string s)
  | .boolean b => .ok (.bool b)
  | .nil => .ok .nil
  | .regex pattern => .ok (.string pattern)
  | .reference _ path => Path.outcome root path
  | .call name arguments =>
    match Builtin.ofName? name with
    | none => .error (.error (.invalidFunction (.unknown name)))
    | some b => do
      let data ← Operand.argumentOutcomes arguments
      let d ← b.apply evaluate data
      pure (Value.ofDatum d)
  | .group e => e.outcome

/-- The data of the arguments of a call, unless one of them stops. -/
def Operand.argumentOutcomes : List Expression → Except Stop (List Datum)
  | [] => .ok []
  | e :: rest => do
    let v ← e.outcome
    let ds ← Operand.argumentOutcomes rest
    pure (v.toDatum :: ds)

end

end Outcome

/-! ### The outcome is the evaluation -/

namespace Evaluation

variable {σ α β : Type}

/-- An outcome that is followed by outcomes is an outcome. -/
theorem ofOutcome_bind (r : Except Stop α) (f : α → Except Stop β) :
    (ofOutcome r >>= fun a => ofOutcome (f a) : Evaluation σ β) = ofOutcome (r >>= f) := by
  cases r <;> rfl

/-- What is decided without a host is an outcome. -/
theorem ofExcept_eq_ofOutcome (r : Except Error α) :
    (ofExcept r : Evaluation σ α) = ofOutcome (r.mapError .error) := by
  cases r <;> rfl

theorem ofOutcome_apply (r : Except Stop α) (w : World σ) :
    (ofOutcome r : Evaluation σ α) w = (r, w) := by
  cases r <;> rfl

end Evaluation

section Agreement

variable {σ : Type} {evaluate : Expression → Datum → Except Stop Value} {ctx : Context σ}

/-- All calls among some operands call what they call without host functions. -/
def CallsBuiltins (ctx : Context σ) (operands : List Operand) : Prop :=
  ∀ name arguments, Operand.call name arguments ∈ operands →
    ctx.function? name = Builtin.function? name

/-- Operands that call builtin functions only do so when there are fewer. -/
theorem CallsBuiltins.mono {xs ys : List Operand} (h : CallsBuiltins ctx ys)
    (hs : ∀ x ∈ xs, x ∈ ys) : CallsBuiltins ctx xs :=
  fun name arguments hm => h name arguments (hs _ hm)

/-- In a context without host functions, all calls do. -/
theorem callsBuiltins_of_ofDatum {root : Datum} (h : Context.ofDatum root = .ok ctx)
    (operands : List Operand) : CallsBuiltins ctx operands :=
  fun name _ _ => Context.function?_of_ofDatum h name

open Evaluation

mutual

/-- **Without calls of host functions, evaluation is the outcome**, whatever the world. -/
theorem Expression.evalWith_eq_outcome : ∀ e : Expression, CallsBuiltins ctx e.operands →
    e.evalWith evaluate ctx = ofOutcome (e.outcome evaluate ctx.data)
  | .term c, h => Comparison.evalWith_eq_outcome c h
  | .chain left op right, h => by
    have hl := Expression.evalWith_eq_outcome left (h.mono fun _ => List.mem_append_left _)
    have hr := Comparison.evalWith_eq_outcome right (h.mono fun _ => List.mem_append_right _)
    -- binding outcomes is an outcome, so it is enough to compare what follows the left side
    rw [Expression.evalWith, hl, Expression.outcome, ← ofOutcome_bind]
    refine congrArg _ (funext fun v => ?_)
    rw [hr]
    split
    · rfl
    · rw [← ofOutcome_bind]
      exact congrArg _ (funext fun w => ofExcept_eq_ofOutcome _)

theorem Comparison.evalWith_eq_outcome : ∀ c : Comparison, CallsBuiltins ctx c.operands →
    c.evalWith evaluate ctx = ofOutcome (c.outcome evaluate ctx.data)
  | .term u, h => Unary.evalWith_eq_outcome u h
  | .chain left op right, h => by
    have hl := Comparison.evalWith_eq_outcome left (h.mono fun _ => List.mem_append_left _)
    have hr := Unary.evalWith_eq_outcome right (h.mono fun _ => List.mem_append_right _)
    rw [Comparison.evalWith, hl, Comparison.outcome, ← ofOutcome_bind]
    refine congrArg _ (funext fun v => ?_)
    rw [hr, ← ofOutcome_bind]
    exact congrArg _ (funext fun w => ofExcept_eq_ofOutcome _)

theorem Unary.evalWith_eq_outcome : ∀ u : Unary, CallsBuiltins ctx u.operands →
    u.evalWith evaluate ctx = ofOutcome (u.outcome evaluate ctx.data)
  | .plain x, h => Operand.evalWith_eq_outcome x h
  | .applied op x, h => by
    rw [Unary.evalWith, Operand.evalWith_eq_outcome x h, Unary.outcome, ← ofOutcome_bind]
    exact congrArg _ (funext fun v => ofExcept_eq_ofOutcome _)

theorem Operand.evalWith_eq_outcome : ∀ x : Operand, CallsBuiltins ctx x.operands →
    x.evalWith evaluate ctx = ofOutcome (x.outcome evaluate ctx.data)
  | .number _, _ | .string _, _ | .boolean _, _ | .nil, _ | .regex _, _ => rfl
  | .reference _ _, _ => ofExcept_eq_ofOutcome _
  | .call name arguments, h => by
    -- a call is the last of its own operands
    have hf : ctx.function? name = Builtin.function? name :=
      h name arguments (List.mem_append_right _ (List.mem_singleton_self _))
    have ha := Operand.argumentsWith_eq_outcomes arguments
      (h.mono fun _ => List.mem_append_left _)
    rw [Operand.evalWith, Operand.outcome, hf, Builtin.function?]
    cases Builtin.ofName? name with
    | none => rfl
    | some b =>
      change (Operand.argumentsWith evaluate ctx arguments >>= fun data =>
        ofOutcome (b.apply evaluate data) >>= fun d => pure (Value.ofDatum d)) = _
      rw [ha, ← ofOutcome_bind]
      refine congrArg _ (funext fun data => ?_)
      exact ofOutcome_bind _ fun d => .ok (Value.ofDatum d)
  | .group e, h => Expression.evalWith_eq_outcome e (h.mono fun _ => List.mem_append_left _)

theorem Operand.argumentsWith_eq_outcomes : ∀ arguments : List Expression,
    CallsBuiltins ctx (Operand.argumentOperands arguments) →
      Operand.argumentsWith evaluate ctx arguments =
        ofOutcome (Operand.argumentOutcomes evaluate ctx.data arguments)
  | [], _ => rfl
  | e :: rest, h => by
    have he := Expression.evalWith_eq_outcome e (h.mono fun _ => List.mem_append_left _)
    have hr := Operand.argumentsWith_eq_outcomes rest (h.mono fun _ => List.mem_append_right _)
    rw [Operand.argumentsWith, he, Operand.argumentOutcomes, ← ofOutcome_bind]
    refine congrArg _ (funext fun v => ?_)
    rw [hr]
    exact ofOutcome_bind _ fun ds => .ok (v.toDatum :: ds)

end

end Agreement

/-- Against a context without host functions, a tree evaluates to its outcome, and the world stays
as it is. -/
theorem Expression.eval_apply_eq_outcome {σ : Type} {root : Datum} {ctx : Context σ}
    (h : Context.ofDatum root = .ok ctx) (tree : Expression) (depth : Nat) (w : World σ) :
    tree.eval depth ctx w = (tree.outcome (evaluatePredicate depth) root, w) := by
  have hcalls := callsBuiltins_of_ofDatum h tree.operands
  obtain ⟨-, rfl⟩ := Context.ofDatum_eq_ok_iff.mp h
  rw [Expression.eval, Expression.evalWith_eq_outcome tree hcalls, Evaluation.ofOutcome_apply]

end Criteria
