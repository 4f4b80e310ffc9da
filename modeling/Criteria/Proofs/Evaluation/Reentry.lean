import Criteria.Proofs.Evaluation.Extent
import Mathlib

/-!
# When evaluation comes to an end

Nothing bounds how deep the predicates of `@select` open one another: a predicate may be a text of
the data and may wrap its element into an array again. So evaluation does not always come to an
end, not even with builtin functions only (`Criteria.exists_endless_evaluation`).

But the openings that can be made are finitely many, so an evaluation that goes deeper than their
number makes one of them inside of itself. It follows that **evaluation comes to an end exactly
if no predicate is opened for an element inside of its own evaluation for that element**
(`Criteria.finishes_iff_not_reentered`), and that there is a depth, known in advance, that is
enough for all evaluations that come to an end (`Criteria.eval_sufficientDepth_ne_exhausted`).
-/

namespace Criteria

open Relation (TransGen ReflTransGen)

namespace Opening

/-! ### Openings that end are not made inside of themselves -/

/-- Nothing finishes without depth. -/
theorem not_finishesAt_zero (p : Opening) : ¬p.FinishesAt 0 := fun h => h rfl

/-- What finishes at a depth finishes at greater ones. -/
theorem FinishesAt.mono {p : Opening} {depth depth' : Nat} (h : p.FinishesAt depth)
    (hd : depth ≤ depth') : p.FinishesAt depth' := by
  rcases evaluatePredicate_refines hd p with he | he
  · exact absurd he h
  · rwa [FinishesAt, he]

/-- What an opening leads to finishes at a smaller depth. -/
theorem FinishesAt.exists_lt_of_transGen {p q : Opening} {depth : Nat} (h : p.FinishesAt depth)
    (ho : TransGen Opens p q) : ∃ n < depth, q.FinishesAt n := by
  induction ho with
  | single ho =>
    cases depth with
    | zero => exact absurd h p.not_finishesAt_zero
    | succ n => exact ⟨n, Nat.lt_succ_self n, h.of_opens ho⟩
  | tail _ ho ih =>
    obtain ⟨n, hn, hq⟩ := ih
    cases n with
    | zero => exact absurd hq (not_finishesAt_zero _)
    | succ n => exact ⟨n, by omega, hq.of_opens ho⟩

/-- The depth that is needed falls along openings, so no opening that ends leads back to itself. -/
theorem FinishesAt.not_transGen_self {p : Opening} {depth : Nat} (h : p.FinishesAt depth) :
    ¬TransGen Opens p p := by
  intro ho
  induction depth using Nat.strongRecOn with
  | ind depth ih =>
    obtain ⟨n, hn, hp⟩ := h.exists_lt_of_transGen ho
    exact ih n hn hp

/-- What finishes leads to nothing that is opened inside of itself. -/
theorem FinishesAt.not_reentered {p q : Opening} {depth : Nat} (h : p.FinishesAt depth)
    (ho : ReflTransGen Opens p q) : ¬TransGen Opens q q := by
  rcases Relation.reflTransGen_iff_eq_or_transGen.mp ho with rfl | ho
  · exact h.not_transGen_self
  · obtain ⟨n, -, hq⟩ := h.exists_lt_of_transGen ho
    exact hq.not_transGen_self

/-! ### Openings that do not end repeat one of finitely many -/

/-- **A path of nested openings without repetition is no longer than the space that it is in.**
Where no opening is made inside of itself, an opening therefore ends at any depth that makes up for
the rest of the space. -/
theorem finishesAt_of_path {start p : Opening} {space path : List Opening} {depth : Nat}
    (hspace : ∀ q, ReflTransGen Opens start q → Context.checkData q.item = .ok () → q ∈ space)
    (hacyclic : ∀ q, ReflTransGen Opens start q → ¬TransGen Opens q q)
    (hp : ReflTransGen Opens start p) (hpath : ∀ q ∈ path, q ∈ space ∧ TransGen Opens q p)
    (hnodup : path.Nodup) (hlt : space.length < depth + path.length) : p.FinishesAt depth := by
  induction depth generalizing p path with
  | zero =>
    -- a path without repetition would be longer than the space that all of it is in
    have hsub : path ⊆ space := fun q hq => (hpath q hq).1
    have hle : path.length ≤ space.length := hnodup.length_le_of_subset hsub
    omega
  | succ depth ih =>
    -- if the opening does not end, it makes one that does not end either: it joins the path
    intro he
    obtain ⟨q, ho, hq⟩ := exists_opens_of_not_finishesAt fun h => h he
    have hnew : p ∉ path := fun hm => hacyclic p hp (hpath p hm).2
    refine hq (ih (hp.tail ho) ?_ (List.nodup_cons.mpr ⟨hnew, hnodup⟩) ?_)
    · intro r hr
      rcases List.mem_cons.mp hr with rfl | hr
      · exact ⟨hspace r hp ho.checkData, .single ho⟩
      · exact ⟨(hpath r hr).1, (hpath r hr).2.tail ho⟩
    · rw [List.length_cons]
      omega

/-- The openings that are made, directly or not, are of the universe around the first one. -/
theorem holdsOpening_of_transGen {p q : Opening} (h : TransGen Opens p q) :
    (Universe.around p.predicate (.ofDatum p.item)).HoldsOpening q := by
  induction h with
  | single ho =>
    exact Universe.holdsOpening_of_opens (Universe.admits_around _ _)
      (Universe.around_holds _ _) ho
  | tail _ ho ih =>
    -- the predicate was read from a text of the universe, so its literals are within it
    obtain ⟨source, hs, hp⟩ := ih.predicate
    exact Universe.holdsOpening_of_opens (Universe.isWithin _ hs hp) ih.item.ofDatum ho

/-- A depth that is enough for every opening that ends. -/
def sufficientDepth (p : Opening) : Nat :=
  (Universe.around p.predicate (.ofDatum p.item)).openings.length + 2

/-- **What leads to nothing that is opened inside of itself finishes**, at a depth known in
advance. -/
theorem finishesAt_sufficientDepth {p : Opening}
    (h : ∀ q, ReflTransGen Opens p q → ¬TransGen Opens q q) : p.FinishesAt p.sufficientDepth := by
  have hspace : ∀ q, ReflTransGen Opens p q → Context.checkData q.item = .ok () →
      q ∈ p :: (Universe.around p.predicate (.ofDatum p.item)).openings := by
    intro q hq hvalid
    rcases Relation.reflTransGen_iff_eq_or_transGen.mp hq with rfl | hq
    · exact List.mem_cons_self
    · exact List.mem_cons_of_mem _ (Universe.mem_openings (holdsOpening_of_transGen hq) hvalid)
  refine finishesAt_of_path hspace h .refl (fun q hq => absurd hq (by simp)) List.nodup_nil ?_
  simp only [List.length_cons, List.length_nil, sufficientDepth]
  omega

end Opening

/-! ### Evaluation -/

section Evaluation

variable {σ : Type} {tree : Expression} {root : Datum} {ctx : Context σ}

/-- Evaluating a tree is evaluating it as a predicate for the root, one level further up. -/
theorem Expression.eval_eq_answer (h : Context.ofDatum root = .ok ctx) (depth : Nat)
    (w : World σ) : (tree.eval depth ctx w).1 =
      (Opening.mk tree root).answer (evaluatePredicate (depth + 1)) := by
  rw [Expression.eval_apply_of_ofDatum h]
  rfl

/-- **An evaluation with builtin functions comes to an end exactly if no predicate is opened for
an element inside of its own evaluation for that element.** -/
theorem finishes_iff_not_reentered (h : Context.ofDatum root = .ok ctx) (w : World σ) :
    (∃ depth, (tree.eval depth ctx w).1 ≠ .error .exhausted) ↔
      ∀ q, ReflTransGen Opening.Opens ⟨tree, root⟩ q → ¬TransGen Opening.Opens q q := by
  constructor
  · rintro ⟨depth, hd⟩ q hq
    rw [Expression.eval_eq_answer h] at hd
    exact Opening.FinishesAt.not_reentered hd hq
  · intro hacyclic
    have hf := Opening.finishesAt_sufficientDepth hacyclic
    refine ⟨Opening.sufficientDepth ⟨tree, root⟩, ?_⟩
    rw [Expression.eval_eq_answer h]
    exact hf.mono (Nat.le_succ _)

/-- The expression `@select($, "$ == nil")`. -/
def nilsTree : Expression :=
  .term (.term (.plain (.call "@select" [.term (.term (.plain (.reference "" []))),
    .term (.term (.plain (.string "$ == nil")))])))

theorem parse_nilsTree : parse "@select($, \"$ == nil\")" = .ok nilsTree := by
  cbv

/-- A predicate that is written down with the expression is not opened inside of itself. -/
theorem not_reentered_of_written_predicate :
    parse "@select($, \"$ == nil\")" = .ok nilsTree ∧
      ∀ q, ReflTransGen Opening.Opens ⟨nilsTree, .array [.nil]⟩ q →
        ¬TransGen Opening.Opens q q := by
  have hend : (nilsTree.eval 1 (⟨.array [.nil], .builtins⟩ : Context Unit) ⟨(), []⟩).1 =
      .ok (.array [.nil]) := by
    cbv
  have hctx : Context.ofDatum (.array [.nil]) =
      .ok (⟨.array [.nil], .builtins⟩ : Context Unit) := rfl
  refine ⟨parse_nilsTree, (finishes_iff_not_reentered hctx ⟨(), []⟩).mp ⟨1, ?_⟩⟩
  rw [hend]
  simp

/-- One depth, known from the tree and the root, is enough whenever any depth is. -/
theorem eval_sufficientDepth_ne_exhausted (h : Context.ofDatum root = .ok ctx) (w : World σ)
    (hd : ∃ depth, (tree.eval depth ctx w).1 ≠ .error .exhausted) :
    (tree.eval (Opening.sufficientDepth ⟨tree, root⟩) ctx w).1 ≠ .error .exhausted := by
  obtain ⟨depth, hd⟩ := hd
  rw [Expression.eval_eq_answer h] at hd ⊢
  have hf := Opening.finishesAt_sufficientDepth fun q hq => Opening.FinishesAt.not_reentered hd hq
  exact hf.mono (Nat.le_succ _)

end Evaluation

/-! ### An evaluation without an end -/

/-- A text that selects from the array of its root by its root. -/
def endlessText : String := "@len(@select(@array($), $)) >= 0"

/-- The expression that `endlessText` reads as. -/
def endlessTree : Expression :=
  let root : Expression := .term (.term (.plain (.reference "" [])))
  let wrapped : Expression := .term (.term (.plain (.call "@array" [root])))
  let selected : Expression := .term (.term (.plain (.call "@select" [wrapped, root])))
  .term (.chain (.term (.plain (.call "@len" [selected]))) .greaterEqual (.plain (.number .zero)))

/-- For itself as the root, the text is opened inside of itself. -/
theorem endlessTree_opens_self :
    Opening.Opens ⟨endlessTree, .string endlessText⟩ ⟨endlessTree, .string endlessText⟩ := by
  refine ⟨0, ?_⟩
  have hopened : (Opening.mk endlessTree (.string endlessText)).opened (evaluatePredicate 0) =
      [⟨endlessTree, .string endlessText⟩] := by
    cbv
  rw [hopened]
  exact List.mem_singleton_self _

/-- **There are a text and a valid root for which evaluation comes to no end**, whatever the
depth. -/
theorem exists_endless_evaluation :
    ∃ (text : String) (tree : Expression) (root : Datum) (ctx : Context Unit),
      parse text = .ok tree ∧ Context.ofDatum root = .ok ctx ∧
        ∀ depth w, (tree.eval depth ctx w).1 = .error .exhausted := by
  refine ⟨endlessText, endlessTree, .string endlessText, ⟨.string endlessText, .builtins⟩,
    by cbv, rfl, fun depth w => ?_⟩
  have hctx : Context.ofDatum (.string endlessText) =
      .ok (⟨.string endlessText, .builtins⟩ : Context Unit) := rfl
  refine Classical.byContradiction fun hend => ?_
  -- an evaluation with an end makes no opening inside of itself
  rw [Expression.eval_eq_answer hctx] at hend
  exact Opening.FinishesAt.not_transGen_self hend (.single endlessTree_opens_self)

end Criteria
