import Criteria.Evaluation.Expression

/-!
# Evaluating chains

A chain is evaluated in a loop: the value of its first term is carried along its links, and each
of them **takes the value over** its operator (`Criteria.Expression.step`,
`Criteria.Comparison.step`). That this is how chains are evaluated is
`Criteria.Expression.evalWith_extend` and `Criteria.Comparison.evalWith_extend`; what is said
about chains here follows from these two:

* a link whose operator is decided by the value so far might as well not be there, whatever its
  operand is (`Criteria.Expression.evalWith_extend_of_isDecidedBy`);
* the front part of a chain can be put into parentheses
  (`Criteria.Expression.evalWith_enclosed_extend`), and all chains of a tree can be given one
  operator at most in this way (`Criteria.Expression.grouped`).

All of this is about evaluations as a whole: their result, the state they leave the host in and
the calls they make.
-/

namespace Criteria

variable {σ : Type}

open Evaluation

/-! ### The loop along a chain -/

/-- Something that grows link by link, and whose evaluation goes on behind each link with the value
so far, is evaluated in a loop along the links. -/
theorem Evaluation.foldl_eq_bind_foldlM {τ β : Type} {eval : τ → Evaluation σ Value}
    {grow : τ → β → τ} {step : Value → β → Evaluation σ Value}
    (hgrow : ∀ t link, eval (grow t link) = eval t >>= fun v => step v link)
    (t : τ) (links : List β) :
    eval (links.foldl grow t) = eval t >>= fun v => links.foldlM step v := by
  induction links generalizing t with
  | nil => exact (bind_pure _).symm
  | cons link rest ih =>
    calc eval (rest.foldl grow (grow t link))
        = (eval t >>= fun v => step v link) >>= fun v => rest.foldlM step v := by
          rw [ih, hgrow]
      _ = eval t >>= fun v => (link :: rest).foldlM step v := bind_assoc _ _ _

section Loop

variable (evaluate : Expression → Datum → Except Stop Value) (ctx : Context σ)

/-- Takes a value over a logical operator and the comparison behind it, which is left out if the
value decides the operator. -/
def Expression.step (v : Value) (link : Operator × Comparison) : Evaluation σ Value :=
  if link.1.isDecidedBy v then pure v
  else do
    let w ← link.2.evalWith evaluate ctx
    .ofExcept (link.1.applyLogical v w)

/-- Takes a value over a comparison operator and the term behind it. -/
def Comparison.step (v : Value) (link : Operator × Unary) : Evaluation σ Value := do
  let w ← link.2.evalWith evaluate ctx
  .ofExcept (link.1.applyComparison v w)

variable {evaluate ctx}

/-- **A longer chain is evaluated by going on with the value of the shorter one.** -/
theorem Expression.evalWith_extend (e : Expression) (links : List (Operator × Comparison)) :
    (e.extend links).evalWith evaluate ctx =
      e.evalWith evaluate ctx >>= fun v => links.foldlM (Expression.step evaluate ctx) v :=
  foldl_eq_bind_foldlM (fun _ _ => rfl) e links

/-- At the level of comparisons every link is evaluated, but in the same loop. -/
theorem Comparison.evalWith_extend (c : Comparison) (links : List (Operator × Unary)) :
    (c.extend links).evalWith evaluate ctx =
      c.evalWith evaluate ctx >>= fun v => links.foldlM (Comparison.step evaluate ctx) v :=
  foldl_eq_bind_foldlM (fun _ _ => rfl) c links

end Loop

/-! ### Operands that are left out -/

section Skipped

variable {evaluate : Expression → Datum → Except Stop Value} {ctx : Context σ}

/-- A decided operator hands the value on, without a look at what stands behind it. -/
theorem Expression.step_of_isDecidedBy {op : Operator} {v : Value} (h : op.isDecidedBy v = true)
    (operand : Comparison) : Expression.step evaluate ctx v (op, operand) = pure v :=
  if_pos h

/-- Behind a decided operator, the rest of the chain goes on from the value that decided it. -/
theorem Expression.evalWith_extend_of_isDecidedBy {e : Expression} {w w' : World σ} {v : Value}
    (he : e.evalWith evaluate ctx w = (.ok v, w')) {op : Operator}
    (h : op.isDecidedBy v = true) (operand : Comparison) (rest : List (Operator × Comparison)) :
    (e.extend ((op, operand) :: rest)).evalWith evaluate ctx w =
      rest.foldlM (Expression.step evaluate ctx) v w' := by
  rw [Expression.evalWith_extend, bind_of_ok he, List.foldlM_cons, step_of_isDecidedBy h, pure_bind]

end Skipped

/-- **An operand that a short circuit leaves out does not matter.** If the front part of a chain
gives `false` before a conjunction or `true` before a disjunction, then the result of the chain,
the calls it makes and the state it leaves the host in are the same with any other operand there:
the rest of the chain goes on from where the front part has come to, as if it stood behind the
literal for the value. -/
theorem skipped_operand_is_irrelevant {depth : Nat} {ctx : Context σ} {first : Comparison}
    {front rest : List (Operator × Comparison)} {op : Operator} {b : Bool} {w w' : World σ}
    (hfront : ((Expression.term first).extend front).eval depth ctx w = (.ok (.bool b), w'))
    (hop : op = .and ∧ b = false ∨ op = .or ∧ b = true) (operand other : Comparison) :
    ((Expression.term first).extend (front ++ (op, operand) :: rest)).eval depth ctx w =
        ((Expression.term first).extend (front ++ (op, other) :: rest)).eval depth ctx w ∧
      ((Expression.term first).extend (front ++ (op, operand) :: rest)).eval depth ctx w =
        ((Expression.term (.term (.plain (.boolean b)))).extend rest).eval depth ctx w' := by
  have hdecided : op.isDecidedBy (.bool b) = true := by
    rcases hop with ⟨rfl, rfl⟩ | ⟨rfl, rfl⟩ <;> rfl
  have hliteral : ((Expression.term (.term (.plain (.boolean b)))).extend rest).eval depth ctx w' =
      rest.foldlM (Expression.step (evaluatePredicate depth) ctx) (.bool b) w' := by
    rw [Expression.eval, Expression.evalWith_extend]
    rfl
  have hrest : ∀ operand,
      ((Expression.term first).extend (front ++ (op, operand) :: rest)).eval depth ctx w =
        ((Expression.term (.term (.plain (.boolean b)))).extend rest).eval depth ctx w' := by
    intro operand
    rw [hliteral, Expression.extend_append]
    exact Expression.evalWith_extend_of_isDecidedBy hfront hdecided operand rest
  exact ⟨(hrest operand).trans (hrest other).symm, hrest operand⟩

/-- A function that answers by turns, asked twice before the operand that is left out and once
behind it: whether this operand calls an unknown function or asks again makes no difference. -/
theorem skipped_unknown_call_is_irrelevant :
    let turn : HostFunction Nat := fun _ n => (.ok (.bool (n % 2 == 1)), n + 1)
    let ctx : Context Nat := ⟨.nil, [("@turn", .host turn)]⟩
    let ask : Comparison := .term (.plain (.call "@turn" []))
    let unknown : Comparison := .term (.plain (.call "@unknown" []))
    let made : List Call := [⟨"@turn", [], .ok (.bool false)⟩, ⟨"@turn", [], .ok (.bool true)⟩]
    ((Expression.term ask).extend [(.or, ask)]).eval 0 ctx ⟨0, []⟩ = (.ok (.bool true), ⟨2, made⟩) ∧
      ((Expression.term ask).extend ([(.or, ask)] ++ (.or, unknown) :: [(.and, ask)])).eval 0 ctx
          ⟨0, []⟩ =
        ((Expression.term ask).extend ([(.or, ask)] ++ (.or, ask) :: [(.and, ask)])).eval 0 ctx
          ⟨0, []⟩ ∧
      ((Expression.term ask).extend ([(.or, ask)] ++ (.or, unknown) :: [(.and, ask)])).eval 0 ctx
          ⟨0, []⟩ =
        (.ok (.bool false), ⟨3, made ++ [⟨"@turn", [], .ok (.bool false)⟩]⟩) := by
  intro turn ctx ask unknown made
  have hfront : ((Expression.term ask).extend [(.or, ask)]).eval 0 ctx ⟨0, []⟩ =
      (.ok (.bool true), ⟨2, made⟩) := rfl
  have hrest : ((Expression.term (.term (.plain (.boolean true)))).extend [(.and, ask)]).eval 0 ctx
      ⟨2, made⟩ = (.ok (.bool false), ⟨3, made ++ [⟨"@turn", [], .ok (.bool false)⟩]⟩) := by
    with_unfolding_all rfl
  obtain ⟨hother, hskipped⟩ := skipped_operand_is_irrelevant hfront (.inr ⟨rfl, rfl⟩) unknown ask
  exact ⟨hfront, hother, hskipped.trans hrest⟩

/-! ### Parentheses around the front part of a chain -/

/-- An expression in parentheses, as a chain of one comparison. -/
def Expression.enclosed (e : Expression) : Expression := .term (.term (.plain (.group e)))

/-- A comparison in parentheses, as a chain of one term. -/
def Comparison.enclosed (c : Comparison) : Comparison := .term (.plain (.group (.term c)))

section Enclosed

variable {evaluate : Expression → Datum → Except Stop Value} {ctx : Context σ}

/-- Parentheses around an expression do not change what it evaluates to. -/
theorem Expression.evalWith_enclosed (e : Expression) :
    e.enclosed.evalWith evaluate ctx = e.evalWith evaluate ctx := rfl

/-- Parentheses around a comparison do not change what it evaluates to. -/
theorem Comparison.evalWith_enclosed (c : Comparison) :
    c.enclosed.evalWith evaluate ctx = c.evalWith evaluate ctx := rfl

/-- The loop along the rest of a chain sees only the value of the front part, so parentheses around
the front part make no difference. -/
theorem Expression.evalWith_enclosed_extend (e : Expression)
    {front rest : List (Operator × Comparison)} (h : e.links = front ++ rest) :
    (((Expression.term e.first).extend front).enclosed.extend rest).evalWith evaluate ctx =
      e.evalWith evaluate ctx := by
  have he : ((Expression.term e.first).extend front).extend rest = e := by
    rw [← Expression.extend_append, ← h, Expression.extend_links]
  rw [Expression.evalWith_extend, Expression.evalWith_enclosed, ← Expression.evalWith_extend, he]

/-- Parentheses around the front of a chain of comparisons do not change what it evaluates to. -/
theorem Comparison.evalWith_enclosed_extend (c : Comparison)
    {front rest : List (Operator × Unary)} (h : c.links = front ++ rest) :
    (((Comparison.term c.first).extend front).enclosed.extend rest).evalWith evaluate ctx =
      c.evalWith evaluate ctx := by
  have hc : ((Comparison.term c.first).extend front).extend rest = c := by
    rw [← Comparison.extend_append, ← h, Comparison.extend_links]
  rw [Comparison.evalWith_extend, Comparison.evalWith_enclosed, ← Comparison.evalWith_extend, hc]

end Enclosed

/-! ### Parentheses everywhere

With parentheses around the left side of every operator that has another operator there, no chain
of a tree is longer than one operator, and nothing is left to conventions. -/

/-- An expression as a chain of one comparison, with parentheses if it is not one already. -/
def Expression.bracketed : Expression → Expression
  | .term c => .term c
  | .chain left op right => (Expression.chain left op right).enclosed

/-- A comparison as a chain of one term, with parentheses if it is not one already. -/
def Comparison.bracketed : Comparison → Comparison
  | .term u => .term u
  | .chain left op right => (Comparison.chain left op right).enclosed

mutual

/-- The expression with parentheses around the left sides of operators, `((a || b) && c) || d`,
in it and in all expressions inside of it. -/
def Expression.grouped : Expression → Expression
  | .term c => .term c.grouped
  | .chain left op right => .chain (Expression.grouped left).bracketed op right.grouped

/-- The comparison with parentheses around the left sides of operators. -/
def Comparison.grouped : Comparison → Comparison
  | .term u => .term u.grouped
  | .chain left op right => .chain (Comparison.grouped left).bracketed op right.grouped

/-- The operand with its operator, and parentheses added inside of it. -/
def Unary.grouped : Unary → Unary
  | .plain x => .plain x.grouped
  | .applied op x => .applied op x.grouped

/-- The operand with parentheses added inside of it. -/
def Operand.grouped : Operand → Operand
  | .call name arguments => .call name (Operand.groupedArguments arguments)
  | .group e => .group e.grouped
  | x => x

/-- The arguments with parentheses added in each. -/
def Operand.groupedArguments : List Expression → List Expression
  | [] => []
  | e :: rest => e.grouped :: Operand.groupedArguments rest

end

mutual

/-- No chain in an expression has more than one operator. -/
def Expression.IsBinary : Expression → Prop
  | .term c => c.IsBinary
  | .chain left _ right => left.links = [] ∧ Expression.IsBinary left ∧ right.IsBinary

/-- No chain in a comparison has more than one operator. -/
def Comparison.IsBinary : Comparison → Prop
  | .term u => u.IsBinary
  | .chain left _ right => left.links = [] ∧ Comparison.IsBinary left ∧ right.IsBinary

/-- No chain inside an operand with an operator before it has more than one operator. -/
def Unary.IsBinary : Unary → Prop
  | .plain x => x.IsBinary
  | .applied _ x => x.IsBinary

/-- No chain inside an operand has more than one operator. -/
def Operand.IsBinary : Operand → Prop
  | .call _ arguments => Operand.ArgumentsAreBinary arguments
  | .group e => e.IsBinary
  | _ => True

/-- No chain in an argument has more than one operator. -/
def Operand.ArgumentsAreBinary : List Expression → Prop
  | [] => True
  | e :: rest => e.IsBinary ∧ Operand.ArgumentsAreBinary rest

end

section Bracketed

/-- A left side with its parentheses has no operators on its own level. -/
theorem Expression.links_bracketed (e : Expression) : e.bracketed.links = [] := by
  cases e <;> rfl

theorem Comparison.links_bracketed (c : Comparison) : c.bracketed.links = [] := by
  cases c <;> rfl

theorem Expression.IsBinary.bracketed {e : Expression} (h : e.IsBinary) : e.bracketed.IsBinary := by
  cases e <;> exact h

theorem Comparison.IsBinary.bracketed {c : Comparison} (h : c.IsBinary) : c.bracketed.IsBinary := by
  cases c <;> exact h

mutual

/-- **Grouping leaves no chain with more than one operator.** -/
theorem Expression.isBinary_grouped : ∀ e : Expression, e.grouped.IsBinary
  | .term c => Comparison.isBinary_grouped c
  | .chain left _ right =>
    ⟨Expression.links_bracketed _, (Expression.isBinary_grouped left).bracketed,
      Comparison.isBinary_grouped right⟩

theorem Comparison.isBinary_grouped : ∀ c : Comparison, c.grouped.IsBinary
  | .term u => Unary.isBinary_grouped u
  | .chain left _ right =>
    ⟨Comparison.links_bracketed _, (Comparison.isBinary_grouped left).bracketed,
      Unary.isBinary_grouped right⟩

theorem Unary.isBinary_grouped : ∀ u : Unary, u.grouped.IsBinary
  | .plain x => Operand.isBinary_grouped x
  | .applied _ x => Operand.isBinary_grouped x

theorem Operand.isBinary_grouped : ∀ x : Operand, x.grouped.IsBinary
  | .number _ | .string _ | .boolean _ | .nil | .regex _ | .reference _ _ => trivial
  | .call _ arguments => Operand.argumentsAreBinary_grouped arguments
  | .group e => Expression.isBinary_grouped e

theorem Operand.argumentsAreBinary_grouped : ∀ arguments : List Expression,
    Operand.ArgumentsAreBinary (Operand.groupedArguments arguments)
  | [] => trivial
  | e :: rest => ⟨Expression.isBinary_grouped e, Operand.argumentsAreBinary_grouped rest⟩

end

variable {evaluate : Expression → Datum → Except Stop Value} {ctx : Context σ}

/-- The parentheses around a left side do not change what it evaluates to. -/
theorem Expression.evalWith_bracketed (e : Expression) :
    e.bracketed.evalWith evaluate ctx = e.evalWith evaluate ctx := by
  cases e <;> rfl

theorem Comparison.evalWith_bracketed (c : Comparison) :
    c.bracketed.evalWith evaluate ctx = c.evalWith evaluate ctx := by
  cases c <;> rfl

mutual

/-- Parentheses around the left sides of operators change nothing, at any place in a tree. -/
theorem Expression.evalWith_grouped : ∀ e : Expression,
    e.grouped.evalWith evaluate ctx = e.evalWith evaluate ctx
  | .term c => Comparison.evalWith_grouped c
  | .chain left op right => by
    rw [Expression.grouped, Expression.evalWith, Expression.evalWith_bracketed,
      Expression.evalWith_grouped left, Comparison.evalWith_grouped right, Expression.evalWith]

theorem Comparison.evalWith_grouped : ∀ c : Comparison,
    c.grouped.evalWith evaluate ctx = c.evalWith evaluate ctx
  | .term u => Unary.evalWith_grouped u
  | .chain left op right => by
    rw [Comparison.grouped, Comparison.evalWith, Comparison.evalWith_bracketed,
      Comparison.evalWith_grouped left, Unary.evalWith_grouped right, Comparison.evalWith]

theorem Unary.evalWith_grouped : ∀ u : Unary,
    u.grouped.evalWith evaluate ctx = u.evalWith evaluate ctx
  | .plain x => Operand.evalWith_grouped x
  | .applied op x => by
    rw [Unary.grouped, Unary.evalWith, Operand.evalWith_grouped x, Unary.evalWith]

theorem Operand.evalWith_grouped : ∀ x : Operand,
    x.grouped.evalWith evaluate ctx = x.evalWith evaluate ctx
  | .number _ | .string _ | .boolean _ | .nil | .regex _ | .reference _ _ => rfl
  | .call name arguments => by
    rw [Operand.grouped, Operand.evalWith, Operand.argumentsWith_grouped arguments,
      Operand.evalWith]
  | .group e => Expression.evalWith_grouped e

theorem Operand.argumentsWith_grouped : ∀ arguments : List Expression,
    Operand.argumentsWith evaluate ctx (Operand.groupedArguments arguments) =
      Operand.argumentsWith evaluate ctx arguments
  | [] => rfl
  | e :: rest => by
    rw [Operand.groupedArguments, Operand.argumentsWith, Expression.evalWith_grouped e,
      Operand.argumentsWith_grouped rest, Operand.argumentsWith]

end

end Bracketed

/-- **Chains group to the left, at both levels.** Wherever the links of a chain are cut into two,
its front part can be put into parentheses: the result, the calls that are made and the state that
the host is left in stay the same. So they do when this is done at all places of a tree at once,
until no chain has more than one operator. -/
theorem chains_group_to_the_left (depth : Nat) (ctx : Context σ) :
    (∀ (e : Expression) front rest, e.links = front ++ rest →
      (((Expression.term e.first).extend front).enclosed.extend rest).eval depth ctx =
        e.eval depth ctx) ∧
    (∀ (c : Comparison) front rest, c.links = front ++ rest →
      (((Comparison.term c.first).extend front).enclosed.extend rest).evalWith
          (evaluatePredicate depth) ctx = c.evalWith (evaluatePredicate depth) ctx) ∧
    ∀ tree : Expression,
      tree.grouped.IsBinary ∧ tree.grouped.eval depth ctx = tree.eval depth ctx := by
  refine ⟨fun e front rest h => ?_, fun c front rest h => ?_, fun tree => ⟨?_, ?_⟩⟩
  · exact e.evalWith_enclosed_extend h
  · exact c.evalWith_enclosed_extend h
  · exact tree.isBinary_grouped
  · exact tree.evalWith_grouped

end Criteria
