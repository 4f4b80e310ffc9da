import Criteria.Prepared
import Criteria.Proofs.Grammar.Step

/-!
# The parser reads its grammar

What the parser accepts are the flattened trees, and it gives back the tree that was flattened.

* **Nothing else is accepted.** A progress stands for the tokens that led to it
  (`Criteria.Progress.tokens`), and everything it holds belongs to the grammar
  (`Criteria.Progress.Fits`); each move writes its token down behind the others and keeps both
  (`Criteria.Progress.Move.tokens_eq`, `Criteria.Progress.Move.fits`).
* **All of it is accepted.** Along the tokens of an operand the parser walks from the place
  before it to the place behind it (`Criteria.Progress.walk_operand`), and so for every kind of
  node.

Together they say what a run that starts anew does, whatever the lexer and however many levels
are open already (`Criteria.Parser.run_start_eq_ok_iff`), and what a text has to be for the tree
that it is read as (`Criteria.parse_eq_ok_iff`).
-/

namespace Criteria

/-! ### The tokens that a progress stands for -/

namespace Pending

/-- The token of the negation, if one waits for its operand. -/
def negationTokens (p : Pending) : List Token := if p.negated then [.operator .not] else []

/-- The tokens of the comparison so far, if one waits for its next operand. -/
def comparisonTokens (p : Pending) : List Token :=
  match p.comparison with
  | none => []
  | some (c, op) => c.tokens ++ [.operator op]

/-- The tokens of the chain so far, if one waits for its next comparison. -/
def logicalTokens (p : Pending) : List Token :=
  match p.logical with
  | none => []
  | some (e, op) => e.tokens ++ [.operator op]

/-- The tokens of what stands before an operand on its level. -/
def tokens (p : Pending) : List Token := p.logicalTokens ++ (p.comparisonTokens ++ p.negationTokens)

variable {p : Pending} {x : Operand} {op : Operator}

@[simp]
theorem tokens_empty : empty.tokens = [] := rfl

/-- The tokens of an operand with the negation that waited for it. -/
theorem tokens_unary : (p.unary x).tokens = p.negationTokens ++ x.tokens := by
  rw [unary, negationTokens]
  split <;> rfl

/-- The tokens of the comparison that ends with an operand. -/
theorem tokens_toComparison :
    (p.toComparison x).tokens = p.comparisonTokens ++ (p.negationTokens ++ x.tokens) := by
  rcases h : p.comparison with _ | ⟨c, op⟩ <;>
    simp [toComparison, comparisonTokens, h, Comparison.tokens, tokens_unary]

/-- An operand completes the expression that is pending before it. -/
@[simp]
theorem tokens_toExpression : (p.toExpression x).tokens = p.tokens ++ x.tokens := by
  rcases h : p.logical with _ | ⟨e, op⟩ <;>
    simp [toExpression, tokens, logicalTokens, h, Expression.tokens, tokens_toComparison]

@[simp]
theorem tokens_compare : (p.compare x op).tokens = p.tokens ++ x.tokens ++ [.operator op] := by
  change p.logicalTokens ++ ((p.toComparison x).tokens ++ [.operator op] ++ []) = _
  simp [tokens_toComparison, tokens]

@[simp]
theorem tokens_join : (p.join x op).tokens = p.tokens ++ x.tokens ++ [.operator op] := by
  change (p.toExpression x).tokens ++ [.operator op] ++ ([] ++ []) = _
  simp

@[simp]
theorem tokens_negated (h : p.negated = false) :
    ({ p with negated := true } : Pending).tokens = p.tokens ++ [.operator .not] := by
  change p.logicalTokens ++ (p.comparisonTokens ++ [.operator .not]) = _
  simp [tokens, negationTokens, h]

end Pending

/-- The tokens of an open level, up to the place where its next expression begins. -/
def Level.tokens : Level → List Token
  | .group outer => outer.tokens ++ [.leftParen]
  | .call outer name arguments =>
    outer.tokens ++ (.function name :: .leftParen ::
      arguments.reverse.flatMap fun e => e.tokens ++ [.comma])

/-- The tokens of open levels, of which the innermost comes first. -/
def Level.listTokens : List Level → List Token
  | [] => []
  | level :: outer => Level.listTokens outer ++ level.tokens

/-- The tokens of what is pending on the innermost level. -/
def Stage.tokens : Stage → List Token
  | .operand p => p.tokens
  | .parenthesis p name => p.tokens ++ [.function name]
  | .arguments p name => p.tokens ++ [.function name, .leftParen]
  | .operator p x => p.tokens ++ x.tokens

/-- The tokens that have been taken up. -/
def Progress.tokens (s : Progress) : List Token := Level.listTokens s.levels ++ s.stage.tokens

/-- A further argument stands behind the others and their commas. -/
theorem Operand.argumentTokens_concat (xs : List Expression) (e : Expression) :
    Operand.argumentTokens (xs ++ [e]) =
      xs.flatMap (fun d => d.tokens ++ [.comma]) ++ e.tokens := by
  induction xs with
  | nil => simp [Operand.argumentTokens]
  | cons d rest ih =>
    -- something stands behind the first argument, so a comma does too
    obtain ⟨d', rest', hrest⟩ : ∃ d' rest', rest ++ [e] = d' :: rest' := by
      cases rest with
      | nil => exact ⟨e, [], rfl⟩
      | cons d' rest' => exact ⟨d', rest' ++ [e], rfl⟩
    rw [List.cons_append, hrest, Operand.argumentTokens, ← hrest, ih]
    simp

/-- **Each move writes its token down.** -/
theorem Progress.Move.tokens_eq {base : Nat} {s next : Progress} {t : Token}
    (h : Progress.Move base s t next) : next.tokens = s.tokens ++ [t] := by
  induction h with
  | @leaf levels p t x hx =>
    simp [Progress.tokens, Stage.tokens, (Operand.leaf_spec hx).1]
  | name => simp [Progress.tokens, Stage.tokens]
  | openGroup _ => simp [Progress.tokens, Stage.tokens, Level.listTokens, Level.tokens]
  | negate hn => simp [Progress.tokens, Stage.tokens, hn]
  | openCall => simp [Progress.tokens, Stage.tokens]
  | noArguments _ => simp [Progress.tokens, Stage.tokens, Operand.tokens, Operand.argumentTokens]
  | firstArgument _ _ ih =>
    rw [ih]
    simp [Progress.tokens, Stage.tokens, Level.listTokens, Level.tokens]
  | compare _ => simp [Progress.tokens, Stage.tokens]
  | join _ => simp [Progress.tokens, Stage.tokens]
  | closeGroup =>
    simp [Progress.tokens, Stage.tokens, Level.listTokens, Level.tokens, Operand.tokens]
  | comma => simp [Progress.tokens, Stage.tokens, Level.listTokens, Level.tokens]
  | closeCall =>
    simp [Progress.tokens, Stage.tokens, Level.listTokens, Level.tokens, Operand.tokens,
      Operand.argumentTokens_concat]

/-- The tokens of a walk stand behind those that led to its beginning. -/
theorem Progress.Walk.tokens_eq {base : Nat} {s last : Progress} {ts : List Token}
    (h : Progress.Walk base s ts last) : last.tokens = s.tokens ++ ts := by
  induction h with
  | nil s => simp
  | cons hm _ ih => rw [ih, hm.tokens_eq, List.append_assoc, List.singleton_append]

/-! ### What a progress holds belongs to the grammar -/

/-- What stands before an operand belongs to the grammar where `depth` levels are open. -/
structure Pending.Fits (depth : Nat) (p : Pending) : Prop where
  logical : ∀ e op, p.logical = some (e, op) → e.Fits depth ∧ op.isLogical = true
  comparison : ∀ c op, p.comparison = some (c, op) → c.Fits depth ∧ op.isComparison = true

namespace Pending

variable {depth : Nat} {p : Pending} {x : Operand} {op : Operator}

theorem fits_empty : empty.Fits depth := ⟨by simp [empty], by simp [empty]⟩

theorem Fits.negated (h : p.Fits depth) : ({ p with negated := true } : Pending).Fits depth :=
  ⟨h.logical, h.comparison⟩

theorem fits_unary (hx : x.Fits depth) : (p.unary x).Fits depth := by
  rw [Pending.unary]
  split
  · exact Unary.fits_applied.mpr ⟨rfl, hx⟩
  · exact Unary.fits_plain.mpr hx

/-- The comparison that ends with an operand fits where both parts do. -/
theorem Fits.toComparison (h : p.Fits depth) (hx : x.Fits depth) :
    (p.toComparison x).Fits depth := by
  rw [Pending.toComparison]
  split
  · exact Comparison.fits_term.mpr (fits_unary hx)
  · rename_i c op hc
    have ⟨hcf, hop⟩ := h.comparison c op hc
    exact Comparison.fits_chain.mpr ⟨hcf, hop, fits_unary hx⟩

/-- An operand that fits completes an expression that fits. -/
theorem Fits.toExpression (h : p.Fits depth) (hx : x.Fits depth) :
    (p.toExpression x).Fits depth := by
  rw [Pending.toExpression]
  split
  · exact Expression.fits_term.mpr (h.toComparison hx)
  · rename_i e op he
    have ⟨hef, hop⟩ := h.logical e op he
    exact Expression.fits_chain.mpr ⟨hef, hop, h.toComparison hx⟩

/-- What waits behind a comparison operator fits. -/
theorem Fits.compare (h : p.Fits depth) (hx : x.Fits depth) (hop : op.isComparison = true) :
    (p.compare x op).Fits depth := by
  refine ⟨h.logical, fun c op' hc => ?_⟩
  obtain ⟨rfl, rfl⟩ := Prod.mk.inj (Option.some.inj hc)
  exact ⟨h.toComparison hx, hop⟩

/-- What waits behind a logical operator fits. -/
theorem Fits.join (h : p.Fits depth) (hx : x.Fits depth) (hop : op.isLogical = true) :
    (p.join x op).Fits depth := by
  refine ⟨fun e op' he => ?_, by simp [Pending.join]⟩
  obtain ⟨rfl, rfl⟩ := Prod.mk.inj (Option.some.inj he)
  exact ⟨h.toExpression hx, hop⟩

end Pending

/-- What an open level holds fits, where `depth` levels are open around it. -/
def Level.Fits (depth : Nat) : Level → Prop
  | .group outer => depth < nestingLimit ∧ outer.Fits depth
  | .call outer _ arguments =>
    depth < nestingLimit ∧ outer.Fits depth ∧ Operand.ArgumentsFit (depth + 1) arguments

/-- What open levels hold fits, where `base` levels are open around them. -/
def Level.ListFits (base : Nat) : List Level → Prop
  | [] => True
  | level :: outer => level.Fits (base + outer.length) ∧ Level.ListFits base outer

/-- What is pending on the innermost level fits. -/
def Stage.Fits (depth : Nat) : Stage → Prop
  | .operand p | .parenthesis p _ | .arguments p _ => p.Fits depth
  | .operator p x => p.Fits depth ∧ x.Fits depth

/-- **The parser's invariant**: all that has been read belongs to the grammar. -/
def Progress.Fits (base : Nat) (s : Progress) : Prop :=
  Level.ListFits base s.levels ∧ s.stage.Fits (base + s.levels.length)

namespace Progress

variable {base : Nat} {s next last : Progress} {t : Token} {ts : List Token}

/-- A progress without tokens fits. -/
theorem fits_start : start.Fits base := ⟨trivial, Pending.fits_empty⟩

/-- **Each move keeps the invariant.** -/
theorem Move.fits (h : Move base s t next) (hs : s.Fits base) : next.Fits base := by
  induction h with
  | leaf hx =>
    obtain ⟨hl, hp⟩ := hs
    exact ⟨hl, hp, (Operand.leaf_spec hx).2 _⟩
  | name | openCall => exact hs
  | openGroup hd =>
    obtain ⟨hl, hp⟩ := hs
    exact ⟨⟨⟨hd, hp⟩, hl⟩, Pending.fits_empty⟩
  | negate _ =>
    obtain ⟨hl, hp⟩ := hs
    exact ⟨hl, hp.negated⟩
  | noArguments hd =>
    obtain ⟨hl, hp⟩ := hs
    exact ⟨hl, hp, Operand.fits_call.mpr ⟨hd, Operand.argumentsFit_nil⟩⟩
  | firstArgument hd _ ih =>
    obtain ⟨hl, hp⟩ := hs
    exact ih ⟨⟨⟨hd, hp, Operand.argumentsFit_nil⟩, hl⟩, Pending.fits_empty⟩
  | compare hop =>
    obtain ⟨hl, hp, hx⟩ := hs
    exact ⟨hl, hp.compare hx hop⟩
  | join hop =>
    obtain ⟨hl, hp, hx⟩ := hs
    exact ⟨hl, hp.join hx hop⟩
  | closeGroup =>
    obtain ⟨⟨⟨hd, ho⟩, hl⟩, hp, hx⟩ := hs
    exact ⟨hl, ho, Operand.fits_group.mpr ⟨hd, hp.toExpression hx⟩⟩
  | comma =>
    obtain ⟨⟨⟨hd, ho, ha⟩, hl⟩, hp, hx⟩ := hs
    exact ⟨⟨⟨hd, ho, Operand.argumentsFit_cons.mpr ⟨hp.toExpression hx, ha⟩⟩, hl⟩,
      Pending.fits_empty⟩
  | closeCall =>
    obtain ⟨⟨⟨hd, ho, ha⟩, hl⟩, hp, hx⟩ := hs
    -- the arguments are the one that has just been completed and those of the level
    refine ⟨hl, ho, Operand.fits_call.mpr ⟨hd, fun e he => ?_⟩⟩
    rw [List.mem_reverse, List.mem_cons] at he
    rcases he with rfl | he
    · exact hp.toExpression hx
    · exact ha e he

/-- **A walk keeps what fits.** -/
theorem Walk.fits (h : Walk base s ts last) (hs : s.Fits base) : last.Fits base := by
  induction h with
  | nil s => exact hs
  | cons hm _ ih => exact ih (hm.fits hs)

/-- **Nothing else is accepted**: an expression that is complete after a walk from the start is
flattened into the tokens of the walk, and belongs to the grammar. -/
theorem Walk.sound {p : Pending} {x : Operand} (h : Walk base start ts ⟨[], .operator p x⟩) :
    (p.toExpression x).tokens = ts ∧ (p.toExpression x).Fits base := by
  obtain ⟨-, hp, hx⟩ := h.fits fits_start
  have htokens : p.tokens ++ x.tokens = ts := h.tokens_eq
  exact ⟨by rw [Pending.tokens_toExpression, htokens], hp.toExpression hx⟩

/-! ### The parser walks along every tree

From a place where an operand is wanted, the parser walks along the tokens of a node to a place
where that node is what has been read. The statements for expressions, comparisons and terms say
this by what the pending parts make of the operand that came last, since the parser keeps no node
before its last operand has been read. -/

/-- The first token of the arguments of a call also opens their level. -/
theorem Walk.firstArgument {levels : List Level} {p : Pending} {name : String}
    (hd : base + levels.length < nestingLimit) (hne : ts ≠ [])
    (h : Walk base ⟨.call p name [] :: levels, .operand .empty⟩ ts last) :
    Walk base ⟨levels, .arguments p name⟩ ts last := by
  cases h with
  | nil => exact absurd rfl hne
  | cons hm hw => exact .cons (.firstArgument hd hm) hw

section Complete

variable (base : Nat)

mutual

/-- Along an expression, on a level where nothing is pending. -/
theorem walk_expression (levels : List Level) : ∀ e : Expression,
    e.Fits (base + levels.length) → ∃ p x, Walk base ⟨levels, .operand .empty⟩ e.tokens
      ⟨levels, .operator p x⟩ ∧ p.toExpression x = e
  | .term c, h => by
    obtain ⟨p, x, hw, hl, hc⟩ := walk_comparison levels none c h
    refine ⟨p, x, hw, ?_⟩
    rw [Pending.toExpression, hl, hc]
  | .chain left op right, h => by
    obtain ⟨hleft, hop, hright⟩ := Expression.fits_chain.mp h
    obtain ⟨p, x, hw, rfl⟩ := walk_expression levels left hleft
    -- the operator leaves the left side pending before the first operand of the right one
    obtain ⟨q, y, hw', hl, hc⟩ :=
      walk_comparison levels (some (p.toExpression x, op)) right hright
    refine ⟨q, y, hw.append (.cons (.join hop) hw'), ?_⟩
    rw [Pending.toExpression, hl, hc]

/-- Along a comparison, behind what a logical operator may have left pending. -/
theorem walk_comparison (levels : List Level) (logical : Option (Expression × Operator)) :
    ∀ c : Comparison, c.Fits (base + levels.length) →
      ∃ p x, Walk base ⟨levels, .operand ⟨logical, none, false⟩⟩ c.tokens
        ⟨levels, .operator p x⟩ ∧ p.logical = logical ∧ p.toComparison x = c
  | .term u, h => by
    obtain ⟨p, x, hw, hl, hc, hu⟩ := walk_unary levels logical none u h
    refine ⟨p, x, hw, hl, ?_⟩
    rw [Pending.toComparison, hc, hu]
  | .chain left op right, h => by
    obtain ⟨hleft, hop, hright⟩ := Comparison.fits_chain.mp h
    obtain ⟨p, x, hw, hl, rfl⟩ := walk_comparison levels logical left hleft
    obtain ⟨q, y, hw', hl', hc, hu⟩ :=
      walk_unary levels p.logical (some (p.toComparison x, op)) right hright
    refine ⟨q, y, hw.append (.cons (.compare hop) hw'), hl'.trans hl, ?_⟩
    rw [Pending.toComparison, hc, hu]

/-- Along a term, behind what operators of both kinds may have left pending. -/
theorem walk_unary (levels : List Level) (logical : Option (Expression × Operator))
    (comparison : Option (Comparison × Operator)) :
    ∀ u : Unary, u.Fits (base + levels.length) →
      ∃ p x, Walk base ⟨levels, .operand ⟨logical, comparison, false⟩⟩ u.tokens
        ⟨levels, .operator p x⟩ ∧ p.logical = logical ∧ p.comparison = comparison ∧
          p.unary x = u
  | .plain x, h => ⟨_, x, walk_operand levels _ x h, rfl, rfl, rfl⟩
  | .applied op x, h => by
    obtain ⟨rfl, hx⟩ := Unary.fits_applied.mp h
    exact ⟨_, x, .cons (.negate rfl) (walk_operand levels _ x hx), rfl, rfl, rfl⟩

/-- **Along an operand** the parser walks from the place before it to the place behind it,
whatever stands before. -/
theorem walk_operand (levels : List Level) (p : Pending) : ∀ x : Operand,
    x.Fits (base + levels.length) →
      Walk base ⟨levels, .operand p⟩ x.tokens ⟨levels, .operator p x⟩
  | .number _, _ | .string _, _ | .boolean _, _ | .nil, _ | .regex _, _ => (Move.leaf rfl).walk
  | .reference text path, h => by
    have hr := Operand.fits_reference.mp h
    exact (Move.leaf (by simp [Operand.leaf?, hr, Except.toOption])).walk
  | .call name arguments, h => by
    obtain ⟨hd, ha⟩ := Operand.fits_call.mp h
    refine .cons .name (.cons .openCall ?_)
    by_cases hne : arguments = []
    · subst hne
      exact (Move.noArguments hd).walk
    · have hw := walk_arguments levels p name [] arguments hne ha
      exact Walk.firstArgument hd (by simp) hw
  | .group e, h => by
    obtain ⟨hd, he⟩ := Operand.fits_group.mp h
    obtain ⟨q, x, hw, rfl⟩ := walk_expression (.group p :: levels) e he
    exact .cons (.openGroup hd) (hw.append Move.closeGroup.walk)

/-- Along the arguments behind those that are complete, and the parenthesis at their end. -/
theorem walk_arguments (levels : List Level) (p : Pending) (name : String)
    (complete : List Expression) : ∀ arguments : List Expression, arguments ≠ [] →
      Operand.ArgumentsFit (base + levels.length + 1) arguments →
        Walk base ⟨.call p name complete :: levels, .operand .empty⟩
          (Operand.argumentTokens arguments ++ [.rightParen])
          ⟨levels, .operator p (.call name (complete.reverse ++ arguments))⟩
  | [], hne, _ => absurd rfl hne
  | [e], _, h => by
    obtain ⟨he, -⟩ := Operand.argumentsFit_cons.mp h
    obtain ⟨q, x, hw, rfl⟩ := walk_expression (.call p name complete :: levels) e he
    -- the parenthesis completes the last argument and the call
    have hc : Move base ⟨.call p name complete :: levels, .operator q x⟩ .rightParen _ :=
      .closeCall
    rw [List.reverse_cons] at hc
    exact hw.append hc.walk
  | e :: d :: rest, _, h => by
    obtain ⟨he, hrest⟩ := Operand.argumentsFit_cons.mp h
    obtain ⟨q, x, hw, rfl⟩ := walk_expression (.call p name complete :: levels) e he
    -- behind the comma this argument is one of those that are complete
    have hw' := walk_arguments levels p name (q.toExpression x :: complete) (d :: rest)
      (by simp) hrest
    rw [Operand.argumentTokens, List.append_assoc, List.cons_append]
    rw [List.reverse_cons, List.append_assoc, List.singleton_append] at hw'
    exact hw.append (.cons .comma hw')

end

end Complete

end Progress

/-! ### Whole runs -/

namespace Parser

open Progress

/-- **A run that starts anew reads the flattened trees**: it succeeds exactly along the tokens of
an expression that fits below the levels that are open, up to a token that does not go on with
it. -/
theorem run_start_eq_ok_iff {base : Nat} {lexer : Lexer} {current : Token} {e : Expression}
    {p : Parser} :
    run base .start lexer current = (.ok e, p) ↔
      lexer.Gives current e.tokens p.lexer p.current ∧ e.Fits base ∧
        p.current.EndsExpression ∧ p.depth = base := by
  rw [run_eq_ok_iff]
  constructor
  · rintro ⟨ts, last, hw, hg, ha, hd⟩
    obtain ⟨q, x, rfl, rfl, hends⟩ := action_eq_finish_iff.mp ha
    obtain ⟨rfl, hfits⟩ := hw.sound
    exact ⟨hg, hfits, hends, hd⟩
  · rintro ⟨hg, hfits, hends, hd⟩
    obtain ⟨q, x, hw, rfl⟩ := Progress.walk_expression base [] e hfits
    exact ⟨_, _, hw, hg, action_eq_finish_iff.mpr ⟨q, x, rfl, rfl, hends⟩, hd⟩

end Parser

namespace Progress

/-- A walk never takes the end. -/
theorem Walk.eof_notMem {base : Nat} {s last : Progress} {ts : List Token}
    (h : Walk base s ts last) : Token.eof ∉ ts := by
  induction h with
  | nil s => simp
  | cons hm _ ih =>
    rw [List.mem_cons, not_or]
    exact ⟨hm.ne_eof.symm, ih⟩

end Progress

/-- An expression of the grammar is written without the end mark. -/
theorem Expression.eof_notMem_tokens {base : Nat} {e : Expression} (h : e.Fits base) :
    Token.eof ∉ e.tokens := by
  obtain ⟨p, x, hw, -⟩ := Progress.walk_expression base [] e h
  exact hw.eof_notMem

namespace Lexer

variable {l l' : Lexer}

/-- A lexer that fails at once reads the error and nothing behind it. -/
theorem readAll_of_error {e : LexError} (h : l.next = (.error e, l')) :
    l.readAll = [.error e] := by
  rw [readAll]
  split <;> simp_all

/-- A lexer at the end reads the end. -/
theorem readAll_of_eof (h : l.next = (.ok .eof, l')) : l.readAll = [.ok .eof] := by
  rw [readAll]
  split <;> simp_all

/-- A lexer reads a token and then all that follows. -/
theorem readAll_of_token {t : Token} (h : l.next = (.ok t, l')) (ht : t ≠ .eof) :
    l.readAll = .ok t :: l'.readAll := by
  rw [readAll]
  split
  · simp_all
  · simp_all

/-- **A text that is read to its end without an error** gives its tokens one by one, and the end
mark behind them. -/
theorem readAll_eq_iff {ts : List Token} (hts : Token.eof ∉ ts) :
    l.readAll = (ts ++ [Token.eof]).map .ok ↔
      ∃ t next last, l.next = (.ok t, next) ∧ next.Gives t ts last .eof := by
  induction ts generalizing l with
  | nil =>
    constructor
    · intro h
      rcases hn : l.next with ⟨e | t, next⟩
      · rw [readAll_of_error hn] at h
        exact absurd h (by simp)
      · by_cases ht : t = .eof
        · subst ht
          exact ⟨.eof, next, next, rfl, .nil next .eof⟩
        · rw [readAll_of_token hn ht] at h
          exact absurd h (by simp [ht])
    · rintro ⟨t, next, last, hn, hg⟩
      cases hg
      exact readAll_of_eof hn
  | cons t ts ih =>
    rw [List.mem_cons, not_or] at hts
    obtain ⟨ht, hts⟩ := hts
    constructor
    · intro h
      rcases hn : l.next with ⟨e | u, next⟩
      · rw [readAll_of_error hn] at h
        exact absurd h (by simp)
      · by_cases hu : u = .eof
        · -- the text would end before its tokens do
          subst hu
          rw [readAll_of_eof hn] at h
          exact absurd h (by simp)
        · rw [readAll_of_token hn hu, List.cons_append, List.map_cons] at h
          obtain ⟨hut, hrest⟩ := List.cons.inj h
          obtain rfl := Except.ok.inj hut
          obtain ⟨v, next', last, hn', hg⟩ := (ih hts).mp hrest
          exact ⟨u, next, last, rfl, .cons hn' hg⟩
    · rintro ⟨u, next, last, hn, hg⟩
      cases hg with
      | cons hn' hg =>
        rw [readAll_of_token hn (Ne.symm ht), (ih hts).mpr ⟨_, _, _, hn', hg⟩]
        rfl

end Lexer

/-- A text is read as an expression when the lexer gives the tokens of this expression, and then
the end. -/
theorem Expression.parse_eq_ok_iff_gives {text : String} {e : Expression} :
    Expression.parse text = .ok e ↔
      e.Fits 0 ∧ ∃ t next last, (Lexer.ofText text).next = (.ok t, next) ∧
        next.Gives t e.tokens last .eof := by
  constructor
  · intro h
    rw [Expression.parse, Parser.ofText] at h
    rcases hn : (Lexer.ofText text).next with ⟨f | t, next⟩
    · rw [hn] at h
      exact absurd h (by simp)
    · rw [hn] at h
      simp only [Parser.parse, Parser.parseExpression] at h
      rcases hr : Parser.run 0 .start next t with ⟨f | e', p⟩
      · rw [hr] at h
        exact absurd h (by simp)
      · rw [hr] at h
        obtain ⟨hg, hfits, -, -⟩ := Parser.run_start_eq_ok_iff.mp hr
        by_cases hp : p.current = .eof
        · rw [hp] at hg
          simp only [hp, if_true] at h
          obtain rfl := Except.ok.inj h
          exact ⟨hfits, t, next, p.lexer, rfl, hg⟩
        · simp only [hp, if_false] at h
          exact absurd h (by simp)
  · rintro ⟨hfits, t, next, last, hn, hg⟩
    have hr : Parser.run 0 .start next t = (.ok e, ⟨last, .eof, 0⟩) :=
      Parser.run_start_eq_ok_iff.mpr ⟨hg, hfits, by simp [Token.EndsExpression, Token.operator?],
        rfl⟩
    simp only [Expression.parse, Parser.ofText, hn, Parser.parse, Parser.parseExpression, hr,
      if_true]

/-- Reading a text as a criterion succeeds when parsing does. -/
theorem parse_eq_ok_iff_parse {text : String} {e : Expression} :
    parse text = .ok e ↔ Expression.parse text = .ok e := by
  rw [parse]
  cases Expression.parse text with
  | ok e' =>
    constructor
    · intro h
      obtain rfl := Except.ok.inj h
      rfl
    · intro h
      obtain rfl := Except.ok.inj h
      rfl
  | error e' =>
    constructor
    · intro h
      cases h
    · intro h
      cases h

/-- A criterion holds the text that it was read from, and the tree that it was read as. -/
theorem Prepared.ofText_eq_ok_iff {text : String} {p : Prepared} :
    Prepared.ofText text = .ok p ↔ p.source = text ∧ Expression.parse text = .ok p.tree := by
  rw [Prepared.ofText, ← parse_eq_ok_iff_parse]
  cases parse text with
  | error e => simp [Except.map]
  | ok e =>
    obtain ⟨source, tree⟩ := p
    simp [Except.map, eq_comm]

/-- **The parser accepts exactly its grammar.** A text is read as an expression when it consists
of the tokens of this expression and nothing else, the operators of the expression are in their
places, no point of it lies inside of more levels than may be open, and its variables have the
paths that they are written with. -/
theorem parse_eq_ok_iff (text : String) (e : Expression) :
    parse text = .ok e ↔
      (Lexer.ofText text).readAll = (e.tokens ++ [Token.eof]).map .ok ∧ e.InPlace ∧
        e.nesting ≤ 64 ∧
          ∀ path segments, .reference path segments ∈ e.operands →
            Path.read path = .ok segments := by
  rw [parse_eq_ok_iff_parse, Expression.parse_eq_ok_iff_gives]
  constructor
  · rintro ⟨hfits, hgives⟩
    exact ⟨(Lexer.readAll_eq_iff (Expression.eof_notMem_tokens hfits)).mpr hgives, hfits⟩
  · rintro ⟨hread, hfits⟩
    refine ⟨hfits, (Lexer.readAll_eq_iff ?_).mp hread⟩
    exact Expression.eof_notMem_tokens (show e.Fits 0 from hfits)

end Criteria
