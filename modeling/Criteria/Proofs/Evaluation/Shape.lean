import Criteria.Prepared
import Criteria.Proofs.Evaluation.Results
import Criteria.Proofs.Operator.Laws

/-!
# What the shape of a tree says about its results

Every operator that is applied leaves a bool behind, whatever it stands between, and a value that
decides a logical operator is a bool itself. So a tree with an operator at its root comes to a bool
or to nothing (`Criteria.Expression.HasOperator.exists_bool`), also if the operator is in a place
that the parser would not have put it in, and **a criterion of this shape comes to its value as a
bool** (`Criteria.Prepared.evaluate_eq_ok_iff`).

In a chain of comparisons this turns against the chain: from the second comparison on the left side
is a bool, and bools are in no order. **An ordering comparison comes first or the chain fails**
(`Criteria.Comparison.evalWith_ne_ok_of_ordering`).
-/

namespace Criteria

open Evaluation

section Shape

variable {σ : Type} {evaluate : Expression → Datum → Except Stop Value} {ctx : Context σ}
  {w w' : World σ} {v : Value}

/-- A criterion comes to a bool if the bool is its value. -/
theorem Prepared.evaluate_eq_ok_iff {p : Prepared} {b : Bool} :
    p.evaluate ctx w = (.ok b, w') ↔ p.evaluateValue ctx w = (.ok (.bool b), w') := by
  rw [evaluate, evaluateWithin, bind_eq_ok_iff]
  constructor
  · rintro ⟨v, u, hv, h⟩
    obtain ⟨hbool, rfl⟩ := ofExcept_eq_ok_iff.mp h
    cases v with
    | bool c =>
      obtain rfl : c = b := Except.ok.inj hbool
      exact hv
    | _ => cases hbool
  · intro h
    exact ⟨.bool b, w', h, rfl⟩

/-! ### Chains with an order behind the first comparison -/

/-- A bool is in no order with anything. -/
theorem Operator.applyComparison_bool {op : Operator} (hop : op.isOrdering = true) (b : Bool)
    (r : Value) : op.applyComparison (.bool b) r = .error (mismatch op (.bool b) r) :=
  (definedOn_ordered hop _ r).2 nofun

/-- **A chain with an ordering comparison behind the first one fails.** Along the chain: if the
comparison is the last one, the chain before it has left a bool. -/
theorem Comparison.evalWith_ne_ok_of_ordering (c : Comparison) {v : Value} {w' : World σ}
    (hc : ∃ link ∈ c.links.tail, link.1.isOrdering = true) :
    c.evalWith evaluate ctx w ≠ (.ok v, w') := by
  intro h
  match c with
  | .term t =>
    obtain ⟨link, hlink, -⟩ := hc
    cases hlink
  | .chain (.term t) op right =>
    obtain ⟨link, hlink, -⟩ := hc
    cases hlink
  | .chain (.chain left op' right') op right =>
    obtain ⟨l, w₁, hl, h⟩ := bind_eq_ok_iff.mp h
    obtain ⟨r, w₂, -, h⟩ := bind_eq_ok_iff.mp h
    obtain ⟨happly, -⟩ := ofExcept_eq_ok_iff.mp h
    obtain ⟨b, rfl⟩ := (Expression.HasOperator.comparison left op' right').exists_bool hl
    obtain ⟨link, hlink, hop⟩ := hc
    rw [links_chain, List.tail_append_of_ne_nil (by simp [links_chain])] at hlink
    rcases List.mem_append.mp hlink with hlink | hlink
    · exact evalWith_ne_ok_of_ordering (.chain left op' right') ⟨link, hlink, hop⟩ hl
    · obtain rfl := List.mem_singleton.mp hlink
      rw [Operator.applyComparison_bool hop] at happly
      cases happly

/-- **The shape of a tree decides the kind of its result**, for trees made by hand too. With an
operator at its root a tree gives bools only, and a criterion with this tree then comes to its value
as a bool. A chain of comparisons that asks for an order behind its first comparison gives nothing.
-/
theorem shape_decides_result (depth : Nat) (ctx : Context σ) (w w' : World σ) (v : Value) :
    (∀ e : Expression, e.HasOperator → e.eval depth ctx w = (.ok v, w') → ∃ b, v = .bool b) ∧
      (∀ p : Prepared, p.tree.HasOperator → p.evaluateValue ctx w = (.ok v, w') →
        ∃ b, v = .bool b ∧ p.evaluate ctx w = (.ok b, w')) ∧
      ∀ c : Comparison, (∃ link ∈ c.links.tail, link.1.isOrdering = true) →
        c.evalWith (evaluatePredicate depth) ctx w ≠ (.ok v, w') := by
  refine ⟨fun e he h => he.exists_bool h, fun p hp h => ?_,
    fun c hc => c.evalWith_ne_ok_of_ordering hc⟩
  obtain ⟨b, rfl⟩ := hp.exists_bool h
  exact ⟨b, rfl, Prepared.evaluate_eq_ok_iff.mpr h⟩

end Shape

/-- A conjunction that its left side decides, with an operand that would fail, and numbers in order:
`1 < 2 < 3`. -/
theorem decided_conjunction_is_bool :
    let unknown : Comparison := .term (.plain (.call "@unknown" []))
    let p : Prepared := ⟨"false && @unknown()",
      .chain (.term (.term (.plain (.boolean false)))) .and unknown⟩
    let ascending : Comparison := .chain (.chain
      (.term (.plain (.number (.ofInt 1)))) .less (.plain (.number (.ofInt 2)))) .less
      (.plain (.number (.ofInt 3)))
    let ctx : Context Unit := ⟨.nil, []⟩
    p.tree.HasOperator ∧ p.tree.eval 0 ctx ⟨(), []⟩ = (.ok (.bool false), ⟨(), []⟩) ∧
      (∃ b, Value.bool false = .bool b) ∧
      (∃ b, Value.bool false = .bool b ∧ p.evaluate ctx ⟨(), []⟩ = (.ok b, ⟨(), []⟩)) ∧
      (∃ link ∈ ascending.links.tail, link.1.isOrdering = true) ∧
      ascending.evalWith (evaluatePredicate 0) ctx ⟨(), []⟩ ≠ (.ok (.bool false), ⟨(), []⟩) := by
  intro unknown p ascending ctx
  have hshape : p.tree.HasOperator := .logical _ _ _
  have hvalue : p.tree.eval 0 ctx ⟨(), []⟩ = (.ok (.bool false), ⟨(), []⟩) := rfl
  have hordering : ∃ link ∈ ascending.links.tail, link.1.isOrdering = true :=
    ⟨_, List.mem_singleton_self _, rfl⟩
  obtain ⟨htree, hcriterion, hchain⟩ :=
    shape_decides_result 0 ctx ⟨(), []⟩ ⟨(), []⟩ (.bool false)
  exact ⟨hshape, hvalue, htree _ hshape hvalue, hcriterion p hshape rfl, hordering,
    hchain ascending hordering⟩

end Criteria
