import Criteria.Prepared
import Criteria.Proofs.Evaluation.Reentry
import Mathlib

/-!
# Predicates that are written down

Evaluation need not come to an end when the predicates of `@select` are computed. It does when they
are written down: a text **selects by literals** if each predicate in it is a string or a pattern of
the text, and so on inside of these (`Criteria.SelectsByLiterals`).

The measure is the length of texts. Every opening that an evaluation makes comes from a selection in
its tree (`Criteria.Expression.exists_select_of_mem_opened`), so its predicate was read from a
literal of the text, and a literal is shorter than the text that it stands in, whatever was escaped
in it. So **no more predicates are open at once than the text has characters**, and evaluation gives
a value or an error (`Criteria.written_predicates_bound_nesting`).
-/

namespace Criteria

/-! ### Texts that select by literals -/

/-- The text of an expression that is a lone string or pattern. -/
def Expression.literal? : Expression → Option String
  | .term (.term (.plain x)) => x.delimited?
  | _ => none

/-- A text **selects by literals** if it is read as an expression in which the second argument of
every selection is a lone string or pattern, and those of these literals that can be read as an
expression select by literals in turn. -/
inductive SelectsByLiterals : String → Prop
  | intro {text : String} {tree : Expression} (hp : Expression.parse text = .ok tree)
      (hl : ∀ d p, .call "@select" [d, p] ∈ tree.operands → ∃ source, p.literal? = some source)
      (hs : ∀ d p source e, .call "@select" [d, p] ∈ tree.operands → p.literal? = some source →
        Expression.parse source = .ok e → SelectsByLiterals source) :
      SelectsByLiterals text

section Literals

variable {text source : String} {tree d p : Expression}

/-- A lone literal is an operand of its expression. -/
theorem Expression.exists_operand_of_literal? (h : p.literal? = some source) :
    ∃ x ∈ p.operands, x.delimited? = some source := by
  match p, h with
  | .term (.term (.plain x)), h =>
    refine ⟨x, ?_, h⟩
    cases x with
    | string _ | regex _ => exact List.mem_singleton_self _
    | _ => exact absurd h (by simp [Expression.literal?, Operand.delimited?])

/-- A lone literal comes to its text, whatever the data. -/
theorem Expression.outcome_of_literal? (h : p.literal? = some source) (f : PredicateOracle)
    (root : Datum) : p.outcome f root = .ok (.string source) := by
  match p, h with
  | .term (.term (.plain x)), h =>
    cases x with
    | string _ | regex _ =>
      obtain rfl := Option.some.inj h
      rfl
    | _ => exact absurd h (by simp [Expression.literal?, Operand.delimited?])

mutual

/-- The operands inside of an operand of a tree are operands of the tree. -/
theorem Expression.operands_subset : ∀ e : Expression, ∀ x ∈ e.operands, x.operands ⊆ e.operands
  | .term c, x, hx => Comparison.operands_subset c x hx
  | .chain left op right, x, hx => by
    rcases List.mem_append.mp hx with hx | hx
    · exact List.subset_append_of_subset_left _ (Expression.operands_subset left x hx)
    · exact List.subset_append_of_subset_right _ (Comparison.operands_subset right x hx)

/-- The operands inside an operand of a comparison are operands of it. -/
theorem Comparison.operands_subset : ∀ c : Comparison, ∀ x ∈ c.operands, x.operands ⊆ c.operands
  | .term u, x, hx => Unary.operands_subset u x hx
  | .chain left op right, x, hx => by
    rcases List.mem_append.mp hx with hx | hx
    · exact List.subset_append_of_subset_left _ (Comparison.operands_subset left x hx)
    · exact List.subset_append_of_subset_right _ (Unary.operands_subset right x hx)

theorem Unary.operands_subset : ∀ u : Unary, ∀ x ∈ u.operands, x.operands ⊆ u.operands
  | .plain y, x, hx | .applied _ y, x, hx => Operand.operands_subset y x hx

theorem Operand.operands_subset : ∀ y : Operand, ∀ x ∈ y.operands, x.operands ⊆ y.operands
  | .number _, x, hx | .string _, x, hx | .boolean _, x, hx | .nil, x, hx | .regex _, x, hx
  | .reference _ _, x, hx => by rw [List.mem_singleton.mp hx]; exact List.Subset.refl _
  | .call name arguments, x, hx => by
    rcases List.mem_append.mp hx with hx | hx
    · exact List.subset_append_of_subset_left _ (Operand.argumentOperands_subset arguments x hx)
    · rw [List.mem_singleton.mp hx]
      exact List.Subset.refl _
  | .group e, x, hx => by
    rcases List.mem_append.mp hx with hx | hx
    · exact List.subset_append_of_subset_left _ (Expression.operands_subset e x hx)
    · rw [List.mem_singleton.mp hx]
      exact List.Subset.refl _

theorem Operand.argumentOperands_subset : ∀ arguments : List Expression,
    ∀ x ∈ Operand.argumentOperands arguments, x.operands ⊆ Operand.argumentOperands arguments
  | [], x, hx => absurd hx List.not_mem_nil
  | e :: rest, x, hx => by
    rcases List.mem_append.mp hx with hx | hx
    · exact List.subset_append_of_subset_left _ (Expression.operands_subset e x hx)
    · exact List.subset_append_of_subset_right _ (Operand.argumentOperands_subset rest x hx)

end

/-- **A predicate that is written in a text is shorter than the text.** -/
theorem Expression.length_lt_of_select (hp : Expression.parse text = .ok tree)
    (hc : .call "@select" [d, p] ∈ tree.operands) (hl : p.literal? = some source) :
    source.length < text.length := by
  obtain ⟨x, hx, hs⟩ := Expression.exists_operand_of_literal? hl
  have hinner : x ∈ (Operand.call "@select" [d, p]).operands := by
    simp only [Operand.operands, Operand.argumentOperands, List.mem_append]
    exact .inl (.inr (.inl hx))
  have hmem : x ∈ tree.operands := Expression.operands_subset tree _ hc hinner
  exact Expression.length_lt_of_delimited hp hmem hs

/-- **No text is left out because its literals would have to be read without end**: it is enough
that a text is in some class of texts whose literals are again in this class, where they can be
read. -/
theorem selectsByLiterals_of_closed {texts : String → Prop}
    (h : ∀ text, texts text → ∃ tree, Expression.parse text = .ok tree ∧
      ∀ d p, .call "@select" [d, p] ∈ tree.operands → ∃ source, p.literal? = some source ∧
        ((∃ e, Expression.parse source = .error e) ∨ texts source))
    (ht : texts text) : SelectsByLiterals text := by
  -- literals are shorter than the text, so the induction is on its length
  induction hn : text.length using Nat.strongRecOn generalizing text with
  | ind n ih =>
    obtain ⟨tree, hp, hs⟩ := h text ht
    refine .intro hp (fun d p hc => ?_) fun d p source e hc hl he => ?_
    · obtain ⟨source, hl, -⟩ := hs d p hc
      exact ⟨source, hl⟩
    · obtain ⟨literal, hliteral, hsource⟩ := hs d p hc
      obtain rfl : literal = source := Option.some.inj (hliteral.symm.trans hl)
      have hlt := Expression.length_lt_of_select hp hc hl
      refine ih _ (hn ▸ hlt) (hsource.resolve_left ?_) rfl
      rintro ⟨e', he'⟩
      rw [he'] at he
      cases he

end Literals

/-! ### Where openings come from -/

namespace Builtin

/-- A builtin function is found under its own name only. -/
theorem name_eq_of_ofName? {name : String} {b : Builtin} (h : ofName? name = some b) :
    b.name = name := by
  have hfound := List.find?_some h
  exact beq_iff_eq.mp hfound

/-- No function but `@select` opens anything. -/
theorem eq_select_of_mem_opened {f : PredicateOracle} {b : Builtin} {arguments : List Datum}
    {q : Opening} (h : q ∈ b.opened f arguments) : b = .select := by
  simp only [opened] at h
  split at h
  · rfl
  · exact absurd h List.not_mem_nil

end Builtin

/-- Among some operands there is a selection that opens a predicate: its second argument comes to a
text that the predicate is read from. -/
def SelectsIn (f : PredicateOracle) (root : Datum) (operands : List Operand) (q : Opening) : Prop :=
  ∃ d p source, .call "@select" [d, p] ∈ operands ∧ p.outcome f root = .ok (.string source) ∧
    Expression.parse source = .ok q.predicate

section Opened

variable {f : PredicateOracle} {root : Datum} {q : Opening} {xs ys : List Operand}

theorem SelectsIn.left (h : SelectsIn f root xs q) : SelectsIn f root (xs ++ ys) q := by
  obtain ⟨d, p, source, hc, hrest⟩ := h
  exact ⟨d, p, source, List.mem_append_left _ hc, hrest⟩

theorem SelectsIn.right (h : SelectsIn f root ys q) : SelectsIn f root (xs ++ ys) q := by
  obtain ⟨d, p, source, hc, hrest⟩ := h
  exact ⟨d, p, source, List.mem_append_right _ hc, hrest⟩

/-- As many data as arguments. -/
theorem Operand.length_argumentOutcomes {arguments : List Expression} {data : List Datum}
    (h : Operand.argumentOutcomes f root arguments = .ok data) :
    data.length = arguments.length := by
  induction arguments generalizing data with
  | nil =>
    obtain rfl := Except.ok.inj h
    rfl
  | cons e rest ih =>
    obtain ⟨v, -, h⟩ := exists_ok_of_bind h
    obtain ⟨others, hothers, h⟩ := exists_ok_of_bind h
    obtain rfl := Except.ok.inj h
    rw [List.length_cons, List.length_cons, ih hothers]

/-- What is opened by a call comes from the call, which is a selection with two arguments. -/
theorem selectsIn_call {name : String} {arguments : List Expression} {b : Builtin}
    {data : List Datum} (hb : Builtin.ofName? name = some b)
    (hdata : Operand.argumentOutcomes f root arguments = .ok data)
    (hq : q ∈ b.opened f data) : SelectsIn f root [.call name arguments] q := by
  obtain rfl := Builtin.eq_select_of_mem_opened hq
  obtain rfl := Builtin.name_eq_of_ofName? hb
  obtain ⟨items, source, rfl, hp, -⟩ := Builtin.exists_of_mem_opened hq
  have hlength := Operand.length_argumentOutcomes hdata
  obtain ⟨d, p, rfl⟩ := List.length_eq_two.mp hlength.symm
  -- the second one of the data is what the second argument comes to
  obtain ⟨v, -, hdata⟩ := exists_ok_of_bind hdata
  obtain ⟨others, hothers, hdata⟩ := exists_ok_of_bind hdata
  obtain ⟨w, hw, hothers⟩ := exists_ok_of_bind hothers
  obtain ⟨none, -, hothers⟩ := exists_ok_of_bind hothers
  obtain rfl := Except.ok.inj hothers
  obtain ⟨-, hsecond⟩ := List.cons.inj (Except.ok.inj hdata)
  have hstring : w.toDatum = .string source := (List.cons.inj hsecond).1
  have hsource : w = .string source := by
    rw [← Value.ofDatum_toDatum w, hstring]
    rfl
  rw [hsource] at hw
  exact ⟨d, p, source, List.mem_singleton_self _, hw, hp⟩

/-- What is opened after a result is opened by what follows it. -/
theorem mem_openedAfter {α : Type} {r : Except Stop α} {next : α → List Opening}
    (h : q ∈ openedAfter r next) : ∃ a, r = .ok a ∧ q ∈ next a := by
  cases r with
  | error s => exact absurd h List.not_mem_nil
  | ok a => exact ⟨a, rfl, h⟩

mutual

/-- **Every opening of an evaluation comes from a selection in the tree.** -/
theorem Expression.exists_select_of_mem_opened : ∀ e : Expression, q ∈ e.opened f root →
    SelectsIn f root e.operands q
  | .term c, h => Comparison.exists_select_of_mem_opened c h
  | .chain left op right, h => by
    rcases List.mem_append.mp h with h | h
    · exact (Expression.exists_select_of_mem_opened left h).left
    · obtain ⟨v, -, h⟩ := mem_openedAfter h
      split at h
      · exact absurd h List.not_mem_nil
      · exact (Comparison.exists_select_of_mem_opened right h).right

theorem Comparison.exists_select_of_mem_opened : ∀ c : Comparison, q ∈ c.opened f root →
    SelectsIn f root c.operands q
  | .term u, h => Unary.exists_select_of_mem_opened u h
  | .chain left op right, h => by
    rcases List.mem_append.mp h with h | h
    · exact (Comparison.exists_select_of_mem_opened left h).left
    · obtain ⟨v, -, h⟩ := mem_openedAfter h
      exact (Unary.exists_select_of_mem_opened right h).right

theorem Unary.exists_select_of_mem_opened : ∀ u : Unary, q ∈ u.opened f root →
    SelectsIn f root u.operands q
  | .plain x, h | .applied _ x, h => Operand.exists_select_of_mem_opened x h

theorem Operand.exists_select_of_mem_opened : ∀ x : Operand, q ∈ x.opened f root →
    SelectsIn f root x.operands q
  | .number _, h | .string _, h | .boolean _, h | .nil, h | .regex _, h | .reference _ _, h =>
    absurd h List.not_mem_nil
  | .call name arguments, h => by
    rw [Operand.opened] at h
    split at h
    · exact absurd h List.not_mem_nil
    · rename_i b hb
      rcases List.mem_append.mp h with h | h
      · exact (Operand.exists_select_of_mem_argumentsOpened arguments h).left
      · obtain ⟨data, hdata, h⟩ := mem_openedAfter h
        exact (selectsIn_call hb hdata h).right
  | .group e, h => (Expression.exists_select_of_mem_opened e h).left

theorem Operand.exists_select_of_mem_argumentsOpened : ∀ arguments : List Expression,
    q ∈ Operand.argumentsOpened f root arguments →
      SelectsIn f root (Operand.argumentOperands arguments) q
  | [], h => absurd h List.not_mem_nil
  | e :: rest, h => by
    rcases List.mem_append.mp h with h | h
    · exact (Expression.exists_select_of_mem_opened e h).left
    · obtain ⟨v, -, h⟩ := mem_openedAfter h
      exact (Operand.exists_select_of_mem_argumentsOpened rest h).right

end

end Opened

/-! ### How many predicates are open at once -/

namespace Opening

/-- An opening ends at a depth that no chain of openings inside of it exceeds. -/
theorem finishesAt_of_chains {p : Opening} {n : Nat}
    (h : ∀ nested, List.IsChain Opens (p :: nested) → nested.length ≤ n) :
    p.FinishesAt (n + 1) := by
  induction n generalizing p with
  | zero =>
    refine Classical.byContradiction fun hp => ?_
    obtain ⟨q, ho, -⟩ := exists_opens_of_not_finishesAt hp
    exact absurd (h [q] (.cons_cons ho (.singleton q))) (by simp)
  | succ n ih =>
    refine Classical.byContradiction fun hp => ?_
    obtain ⟨q, ho, hq⟩ := exists_opens_of_not_finishesAt hp
    refine hq (ih fun nested hnested => ?_)
    exact Nat.le_of_succ_le_succ (h (q :: nested) (.cons_cons ho hnested))

end Opening

section Nesting

variable {text : String} {tree : Expression}

/-- **What a text that selects by literals opens is read from a shorter text of this kind.** -/
theorem SelectsByLiterals.exists_source_of_opens (h : SelectsByLiterals text)
    (hp : Expression.parse text = .ok tree) {root : Datum} {q : Opening}
    (ho : Opening.Opens ⟨tree, root⟩ q) :
    ∃ source, Expression.parse source = .ok q.predicate ∧ SelectsByLiterals source ∧
      source.length < text.length := by
  obtain ⟨hp', hl, hs⟩ := h
  obtain rfl := Except.ok.inj (hp'.symm.trans hp)
  obtain ⟨depth, hq⟩ := ho
  rw [Opening.opened] at hq
  split at hq
  · exact absurd hq List.not_mem_nil
  · obtain ⟨d, p, source, hc, hv, hsource⟩ := Expression.exists_select_of_mem_opened _ hq
    obtain ⟨literal, hliteral⟩ := hl d p hc
    -- the literal is what the predicate was read from
    have hsame := (Expression.outcome_of_literal? hliteral _ _).symm.trans hv
    obtain rfl : literal = source := Value.string.inj (Except.ok.inj hsame)
    exact ⟨literal, hsource, hs d p literal _ hc hliteral hsource,
      Expression.length_lt_of_select hp hc hliteral⟩

/-- **Written predicates are nested no deeper than their text is long.** -/
theorem SelectsByLiterals.length_nested_le {root : Datum} {nested : List Opening}
    (h : SelectsByLiterals text) (hp : Expression.parse text = .ok tree)
    (hc : List.IsChain Opening.Opens (⟨tree, root⟩ :: nested)) : nested.length ≤ text.length := by
  induction nested generalizing text tree root with
  | nil => exact Nat.zero_le _
  | cons q nested ih =>
    obtain ⟨ho, hnested⟩ := List.isChain_cons_cons.mp hc
    obtain ⟨source, hsource, hliterals, hlt⟩ := h.exists_source_of_opens hp ho
    have hle : nested.length ≤ source.length := ih hliterals hsource hnested
    rw [List.length_cons]
    omega

end Nesting

/-- **The length of a text bounds how deep the predicates are nested that are written in it.** A
text that selects by literals evaluates to a value or an error against every root that a context
accepts. No matter how many predicates may be open at once, it never needs more of them than it has
characters: `nested` are the predicates that are open at a moment, from the outermost one
inwards. -/
theorem written_predicates_bound_nesting {σ : Type} {text : String} {root : Datum}
    {ctx : Context σ} (h : SelectsByLiterals text) (hctx : Context.ofDatum root = .ok ctx) :
    ∃ p, Prepared.ofText text = .ok p ∧
      (∀ w, (∃ v, (p.evaluateValue ctx w).1 = .ok v) ∨
        ∃ e, (p.evaluateValue ctx w).1 = .error (.error e)) ∧
      (∀ depth w, text.length ≤ depth → p.tree.eval depth ctx w = p.evaluateValue ctx w) ∧
      ∀ nested, List.IsChain Opening.Opens (⟨p.tree, root⟩ :: nested) →
        nested.length ≤ text.length := by
  obtain ⟨tree, hp⟩ : ∃ tree, Expression.parse text = .ok tree := by
    obtain ⟨hp, -, -⟩ := h
    exact ⟨_, hp⟩
  have hprepared : Prepared.ofText text = .ok ⟨text, tree⟩ := by
    rw [Prepared.ofText, parse_eq_ok_iff_parse.mpr hp]
    rfl
  have hnested : ∀ nested, List.IsChain Opening.Opens (⟨tree, root⟩ :: nested) →
      nested.length ≤ text.length := fun nested => h.length_nested_le hp
  -- the evaluation ends at this depth, so more depth changes nothing
  have hends : (Opening.mk tree root).FinishesAt (text.length + 1) :=
    Opening.finishesAt_of_chains hnested
  have hsame : ∀ depth w, text.length ≤ depth →
      tree.eval depth ctx w = (evaluatePredicate (text.length + 1) tree root, w) := by
    intro depth w hle
    rw [Expression.eval_apply_of_ofDatum hctx]
    rcases evaluatePredicate_refines (Nat.succ_le_succ hle) ⟨tree, root⟩ with he | he
    · exact absurd he hends
    · exact congrArg (·, w) he
  have hlimit : text.length ≤ selectionDepth text := Nat.le_max_right _ _
  refine ⟨⟨text, tree⟩, hprepared, fun w => ?_, fun depth w hle => ?_, hnested⟩
  · change (∃ v, (tree.eval (selectionDepth text) ctx w).1 = .ok v) ∨
      ∃ e, (tree.eval (selectionDepth text) ctx w).1 = .error (.error e)
    rw [hsame _ w hlimit]
    cases hv : evaluatePredicate (text.length + 1) tree root with
    | ok v => exact .inl ⟨v, rfl⟩
    | error s =>
      cases s with
      | error e => exact .inr ⟨e, rfl⟩
      | exhausted => exact absurd hv hends
  · exact (hsame depth w hle).trans (hsame _ w hlimit).symm

/-- A text with two predicates, one written in the other, where the inner one is a pattern. -/
def nestedSelectionsText : String := "@select($,\"@in(@select($.a,/$/),true)\")"

/-- The expression that `nestedSelectionsText` reads as. -/
def nestedSelectionsTree : Expression :=
  .lone (.call "@select" [.lone (.reference "" []),
    .lone (.string "@in(@select($.a,/$/),true)")])

/-- The expression that its predicate reads as. -/
def innerSelectionTree : Expression :=
  .lone (.call "@in" [.lone (.call "@select"
    [.lone (.reference ".a" [⟨"a", none⟩]), .lone (.regex "$")]), .lone (.boolean true)])

theorem parse_nestedSelectionsText :
    Expression.parse nestedSelectionsText = .ok nestedSelectionsTree := by
  cbv

theorem parse_innerSelection :
    Expression.parse "@in(@select($.a,/$/),true)" = .ok innerSelectionTree := by
  cbv

theorem selectsByLiterals_nestedSelectionsText : SelectsByLiterals nestedSelectionsText := by
  -- the text, its predicate and the pattern in this one
  let texts : String → Prop := fun text =>
    text = nestedSelectionsText ∨ text = "@in(@select($.a,/$/),true)" ∨ text = "$"
  have hfirst : texts nestedSelectionsText := .inl rfl
  refine selectsByLiterals_of_closed ?_ hfirst
  rintro text (rfl | rfl | rfl)
  · refine ⟨nestedSelectionsTree, parse_nestedSelectionsText, fun d p hc => ?_⟩
    have hoperands : nestedSelectionsTree.operands = [.reference "" [],
        .string "@in(@select($.a,/$/),true)", .call "@select" [.lone (.reference "" []),
          .lone (.string "@in(@select($.a,/$/),true)")]] := rfl
    rw [hoperands] at hc
    rcases hc with _ | ⟨_, _ | ⟨_, _ | ⟨_, hc⟩⟩⟩
    · exact ⟨_, rfl, .inr (.inr (.inl rfl))⟩
    · exact absurd hc List.not_mem_nil
  · refine ⟨innerSelectionTree, parse_innerSelection, fun d p hc => ?_⟩
    have hoperands : innerSelectionTree.operands = [.reference ".a" [⟨"a", none⟩], .regex "$",
        .call "@select" [.lone (.reference ".a" [⟨"a", none⟩]), .lone (.regex "$")],
        .boolean true, .call "@in" [.lone (.call "@select"
          [.lone (.reference ".a" [⟨"a", none⟩]), .lone (.regex "$")]),
          .lone (.boolean true)]] := rfl
    rw [hoperands] at hc
    rcases hc with _ | ⟨_, _ | ⟨_, _ | ⟨_, hc⟩⟩⟩
    · exact ⟨_, rfl, .inr (.inr (.inr rfl))⟩
    · have hname := List.mem_pair.mp hc
      rcases hname with hname | hname
      · cases hname
      · exact absurd (Operand.call.inj hname).1 (by decide)
  · refine ⟨.lone (.reference "" []), by cbv, fun d p hc => ?_⟩
    rcases hc with _ | ⟨_, hc⟩
    exact absurd hc List.not_mem_nil

/-- The first element has one bool in its array that is true, the second one none that is. -/
theorem nested_selections_end :
    let root : Datum :=
      .array [.object [("a", .array [.bool true])], .object [("a", .array [.bool false])]]
    let ctx : Context Unit := ⟨root, .builtins⟩
    SelectsByLiterals nestedSelectionsText ∧ Context.ofDatum root = .ok ctx ∧
      ∃ p, Prepared.ofText nestedSelectionsText = .ok p ∧
        (p.evaluateValue ctx ⟨(), []⟩).1 = .ok (.array [.object [("a", .array [.bool true])]]) ∧
        ∀ nested, List.IsChain Opening.Opens (⟨p.tree, root⟩ :: nested) →
          nested.length ≤ nestedSelectionsText.length := by
  intro root ctx
  have hctx : Context.ofDatum root = .ok ctx := rfl
  obtain ⟨p, hp, -, hsame, hnested⟩ :=
    written_predicates_bound_nesting selectsByLiterals_nestedSelectionsText hctx
  have hread : Prepared.ofText nestedSelectionsText =
      .ok ⟨nestedSelectionsText, nestedSelectionsTree⟩ := by
    rw [Prepared.ofText, parse_eq_ok_iff_parse.mpr parse_nestedSelectionsText]
    rfl
  obtain rfl := Except.ok.inj (hread.symm.trans hp)
  refine ⟨selectsByLiterals_nestedSelectionsText, hctx, _, hread, ?_, hnested⟩
  rw [← hsame nestedSelectionsText.length _ le_rfl]
  cbv

end Criteria
