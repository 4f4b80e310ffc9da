import Criteria.Proofs.Grammar.Composition
import Criteria.Proofs.Grammar.Counter
import Criteria.Proofs.Grammar.Spacing
import Mathlib

/-!
# Expressions taken off a stream

A request for one expression takes the tokens of that expression off the lexer and stops at the
first token that does not go on with it. It leaves the parser as it would be if the text began
there, so that **expressions that stand one behind the other are given one by one**
(`Criteria.each_request_takes_one_expression`).

Requests are also what happens inside of a request. Wherever a parser comes to an expression in
parentheses or to an argument (`Criteria.Parser.ComesTo`), it goes on as a request of its own would
from there, with the levels that are open counted: what lies around the expression is not looked at
before its last token has been taken up (`Criteria.Parser.continues_of_comesTo`). So a parser is
**reachable** (`Criteria.Parser.Reachable`) if it is new, if it has answered a request of whatever
sort, or if it stands before an expression in the middle of a request.
-/

namespace Criteria

/-! ### Levels around an expression -/

/-- A progress with further levels around it. -/
def Progress.within (s : Progress) (outer : List Level) : Progress := ⟨s.levels ++ outer, s.stage⟩

/-- What a token does with further levels around, if it does not complete the expression. -/
def Action.within (outer : List Level) : Action → Action
  | .shift next shown depth => .shift (next.within outer) shown depth
  | a => a

namespace Progress

variable {base depth : Nat} {s last : Progress} {p : Pending} {x : Operand} {t : Token}
  {levels : List Level}

/-- Where an operand is awaited, levels further out are not looked at. -/
theorem operandAction_append (depth : Nat) (levels outer : List Level) (p : Pending) (t : Token) :
    operandAction depth (levels ++ outer) p t =
      (operandAction depth levels p t).within outer := by
  cases t with
  | reference _ | leftParen =>
    simp only [operandAction]
    split <;> rfl
  | operator op =>
    cases op with
    | not =>
      simp only [operandAction]
      split <;> rfl
    | _ => rfl
  | _ => rfl

/-- A token that does not continue an expression does not look at levels further out, unless it ends
the whole. -/
theorem closeAction_append {e : Expression} (h : ∀ d, closeAction depth levels e t ≠ .finish d)
    (outer : List Level) :
    closeAction depth (levels ++ outer) e t = (closeAction depth levels e t).within outer := by
  rcases levels with _ | ⟨pending | ⟨pending, name, arguments⟩, rest⟩
  · exact absurd rfl (h e)
  · simp only [List.cons_append, closeAction]
    split <;> rfl
  · simp only [List.cons_append, closeAction]
    split
    · rfl
    · split <;> rfl

/-- Behind an operand, levels further out are not looked at, unless the whole expression ends. -/
theorem operatorAction_append (h : ∀ d, operatorAction depth levels p x t ≠ .finish d)
    (outer : List Level) :
    operatorAction depth (levels ++ outer) p x t =
      (operatorAction depth levels p x t).within outer := by
  rw [operatorAction] at h ⊢
  rw [operatorAction]
  cases hop : t.operator? with
  | none =>
    simp only [hop] at h
    exact closeAction_append h outer
  | some op =>
    simp only [hop] at h
    by_cases hc : op.isComparison = true
    · simp only [hc, if_true]
      rfl
    · by_cases hl : op.isLogical = true
      · simp only [hc, hl, if_true]
        rfl
      · simp only [hc, hl] at h ⊢
        exact closeAction_append h outer

/-- **What lies around an expression is not looked at** by a token that does not complete it. -/
theorem action_within (outer : List Level)
    (h : ∀ e, s.action (base + outer.length) t ≠ .finish e) :
    (s.within outer).action base t = (s.action (base + outer.length) t).within outer := by
  obtain ⟨levels, stage⟩ := s
  have hdepth : base + (levels ++ outer).length = base + outer.length + levels.length := by
    rw [List.length_append]
    omega
  cases stage with
  | operand p =>
    simp only [within, action, hdepth]
    exact operandAction_append _ levels outer p t
  | parenthesis p name =>
    simp only [within, action, hdepth]
    split <;> rfl
  | arguments p name =>
    simp only [within, action, hdepth, argumentsAction]
    split
    · rfl
    · split
      · rfl
      · exact operandAction_append _ (.call p name [] :: levels) outer .empty t
  | operator p x =>
    simp only [within, action, hdepth]
    exact operatorAction_append h outer

/-- **An expression begins** with a token, inside of some levels: an operand is wanted and nothing
is pending before it, or the first argument of a call, whose level is opened by this token. -/
inductive Begins (base : Nat) : Progress → Token → List Level → Prop
  | operand (levels : List Level) (t : Token) : Begins base ⟨levels, .operand .empty⟩ t levels
  | argument {levels : List Level} {p : Pending} {name : String} {t : Token}
      (hd : base + levels.length < nestingLimit) (ht : t ≠ .rightParen) :
      Begins base ⟨levels, .arguments p name⟩ t (.call p name [] :: levels)

/-- Either way the token is taken as the first one of an expression with these levels around. -/
theorem Begins.action_eq (h : s.Begins base t levels) :
    s.action base t = (start.within levels).action base t := by
  cases h with
  | operand => rfl
  | argument hd ht =>
    simp only [action, argumentsAction, if_neg (Nat.not_le_of_lt hd), if_neg ht]
    rfl

/-- The levels that a token begins are within the limit. -/
theorem Begins.levels_le (h : s.Begins base t levels)
    (hs : base + s.levels.length ≤ max base nestingLimit) :
    base + levels.length ≤ max base nestingLimit := by
  cases h with
  | operand => exact hs
  | argument hd _ => exact opened_le hd

end Progress

/-! ### Requests inside of requests -/

namespace Parser

open Progress

variable {base : Nat} {s last : Progress} {lexer l : Lexer} {current t : Token} {ts : List Token}
  {levels outer : List Level}

/-- A run is determined by what a token does. -/
theorem run_congr {s' : Progress} (h : s.action base current = s'.action base current) :
    run base s lexer current = run base s' lexer current := by
  cases ha : s.action base current with
  | fail e shown depth => rw [run_of_fail ha, run_of_fail (h.symm.trans ha)]
  | finish e => rw [run_of_finish ha, run_of_finish (h.symm.trans ha)]
  | shift next shown depth => rw [run_of_shift ha, run_of_shift (h.symm.trans ha)]

/-- A run goes on from wherever a walk has led it. -/
theorem run_of_walk (hw : Walk base s ts last) (hg : lexer.Gives current ts l t) :
    run base s lexer current = run base last l t := by
  induction hw generalizing lexer current with
  | nil s =>
    cases hg
    rfl
  | cons hm _ ih =>
    obtain ⟨shown, depth, hs⟩ := exists_action_eq_shift_iff.mpr hm
    cases hg with
    | cons hn hg =>
      rw [run_of_shift hs, hn]
      exact ih hg

/-- **How a run goes on behind an expression** with levels around it: an error is its own error, and
leaves the same parser. An expression is the operand that has just been read, with what was pending
before it, and the run goes on with the token behind it. -/
inductive Continues (base : Nat) (outer : List Level) :
    Except ParseError Expression × Parser → Except ParseError Expression × Parser → Prop
  | error (e : ParseError) (q : Parser) : Continues base outer (.error e, q) (.error e, q)
  | ok (p : Pending) (x : Operand) (q : Parser) :
      Continues base outer (.ok (p.toExpression x), q)
        (run base ⟨outer, .operator p x⟩ q.lexer q.current)

/-- A run inside of further levels is the run for the expression, and what comes behind it. -/
theorem continues_run_within (base : Nat) (outer : List Level) (s : Progress) (lexer : Lexer)
    (current : Token) :
    Continues base outer (run (base + outer.length) s lexer current)
      (run base (s.within outer) lexer current) := by
  induction s, lexer, current using run.induct (base + outer.length) with
  | case1 s lexer current e shown depth ha =>
    have hwithin : (s.within outer).action base current =
        (Action.fail e shown depth).within outer := by
      rw [action_within outer (by simp [ha]), ha]
    rw [run_of_fail ha, run_of_fail hwithin]
    exact .error e _
  | case2 s lexer current e ha =>
    rw [run_of_finish ha]
    obtain ⟨p, x, rfl, rfl, -⟩ := action_eq_finish_iff.mp ha
    exact .ok p x ⟨lexer, current, base + outer.length⟩
  | case3 s lexer current next shown depth ha e lexer' hn =>
    have hwithin : (s.within outer).action base current =
        (Action.shift next shown depth).within outer := by
      rw [action_within outer (by simp [ha]), ha]
    rw [run_of_shift ha, run_of_shift hwithin, hn]
    exact .error _ _
  | case4 s lexer current next shown depth ha t lexer' hn ih =>
    have hwithin : (s.within outer).action base current =
        (Action.shift next shown depth).within outer := by
      rw [action_within outer (by simp [ha]), ha]
    rw [run_of_shift ha, run_of_shift hwithin, hn]
    exact ih

/-- A parser that is asked for an expression **comes to an expression** inside of some levels: it
has taken up the tokens before it, and is where it would be asked for it, with the levels
counted. -/
inductive ComesTo (p : Parser) : List Level → Parser → Prop
  | intro {ts : List Token} {s : Progress} {lexer : Lexer} {t : Token} {levels : List Level}
      (hw : Walk p.depth .start ts s) (hg : p.lexer.Gives p.current ts lexer t)
      (hb : s.Begins p.depth t levels) : ComesTo p levels ⟨lexer, t, p.depth + levels.length⟩

variable {p q : Parser}

/-- **An expression inside of a request is read as if it had been asked for.** -/
theorem continues_of_comesTo (h : p.ComesTo levels q) :
    Continues p.depth levels q.parseExpression p.parseExpression := by
  cases h with
  | @intro ts s lexer t levels hw hg hb =>
    have hrun : p.parseExpression = run p.depth (start.within levels) lexer t := by
      rw [parseExpression, run_of_walk hw hg, run_congr hb.action_eq]
    rw [hrun]
    exact continues_run_within p.depth levels start lexer t

/-! ### Reachable parsers -/

/-- **What a parser can come to**, from a new one for some text: what is left when a request has
been answered, and, in the middle of a request, what stands before an expression. -/
inductive Reachable : Parser → Prop
  | new {text : String} {p : Parser} (h : ofText text = .ok p) : Reachable p
  | answered {p : Parser} (h : Reachable p) (r : Request) : Reachable (p.answer r).2
  | inner {p q : Parser} {levels : List Level} (h : Reachable p) (hq : p.ComesTo levels q) :
      Reachable q

/-- No more levels are ever counted than there may be. -/
theorem Reachable.depth_le (h : p.Reachable) : p.depth ≤ nestingLimit := by
  induction h with
  | new h =>
    rw [(eq_of_ofText h).2]
    exact Nat.zero_le _
  | @answered p _ r ih =>
    have hle := (p.depth_answer r).2
    rwa [Nat.max_eq_right ih] at hle
  | @inner p q levels _ hq ih =>
    cases hq with
    | intro hw _ hb =>
      have hle := hb.levels_le hw.levels_le_of_start
      rwa [Nat.max_eq_right ih] at hle

end Parser

/-! ### Expressions one behind the other -/

/-- The first token of an expression does not go on with an expression before it. -/
theorem Progress.Move.endsExpression {base : Nat} {t : Token} {next : Progress}
    (h : Progress.Move base .start t next) : t.EndsExpression := by
  intro op hop
  cases h with
  | leaf hx => cases t <;> simp_all [Operand.leaf?, Token.operator?]
  | name | openGroup _ => cases hop
  | negate _ =>
    obtain rfl := Option.some.inj hop
    exact ⟨rfl, rfl⟩

/-- An expression begins with a token that does not go on with an expression before it. -/
theorem Expression.exists_tokens_eq_cons {base : Nat} {e : Expression} (h : e.Fits base) :
    ∃ t ts, e.tokens = t :: ts ∧ t.EndsExpression := by
  obtain ⟨p, x, hw, -⟩ := Progress.walk_expression base [] e h
  generalize e.tokens = ts at hw
  cases hw with
  | cons hm _ => exact ⟨_, _, rfl, hm.endsExpression⟩

namespace Lexer

variable {l last : Lexer} {t v : Token} {ts us : List Token}

/-- Tokens that are given one behind the other can be taken apart. -/
theorem Gives.exists_of_append (h : l.Gives t (ts ++ us) last v) :
    ∃ mid u, l.Gives t ts mid u ∧ mid.Gives u us last v := by
  induction ts generalizing l t with
  | nil => exact ⟨l, t, .nil l t, h⟩
  | cons w ts ih =>
    cases h with
    | cons hn hg =>
      obtain ⟨mid, u, hts, hus⟩ := ih hg
      exact ⟨mid, u, .cons hn hts, hus⟩

/-- Where expressions follow, or the end, the expression before them ends. -/
theorem Gives.endsExpression {trees : List Expression} {base : Nat}
    (h : l.Gives t (trees.flatMap Expression.tokens) last .eof)
    (hfits : ∀ e ∈ trees, e.Fits base) : t.EndsExpression := by
  cases trees with
  | nil =>
    cases h
    exact nofun
  | cons e rest =>
    obtain ⟨u, us, he, hends⟩ := Expression.exists_tokens_eq_cons (hfits e List.mem_cons_self)
    rw [List.flatMap_cons, he, List.cons_append] at h
    cases h with
    | cons => exact hends

end Lexer

/-- What a parser gives, request after request. -/
def Parser.answers (p : Parser) : List Parser.Request → List (Except ParseError Expression)
  | [] => []
  | r :: rest => (p.answer r).1 :: (p.answer r).2.answers rest

/-- **A parser whose lexer gives the tokens of expressions gives the expressions**, one by one, and
comes to the end with as many levels counted as before. -/
theorem Parser.answers_of_gives {trees : List Expression} {p : Parser} {last : Lexer}
    (h : p.lexer.Gives p.current (trees.flatMap Expression.tokens) last .eof)
    (hfits : ∀ e ∈ trees, e.Fits p.depth) :
    p.answers (List.replicate trees.length .expression) = trees.map .ok ∧
      p.after (List.replicate trees.length .expression) = ⟨last, .eof, p.depth⟩ := by
  induction trees generalizing p with
  | nil =>
    obtain ⟨lexer, current, depth⟩ := p
    cases h
    exact ⟨rfl, rfl⟩
  | cons e rest ih =>
    rw [List.flatMap_cons] at h
    obtain ⟨mid, u, he, hrest⟩ := h.exists_of_append
    obtain ⟨hfit, hfits⟩ := List.forall_mem_cons.mp hfits
    have hanswer : p.answer .expression = (.ok e, ⟨mid, u, p.depth⟩) :=
      Parser.run_start_eq_ok_iff.mpr ⟨he, hfit, hrest.endsExpression hfits, rfl⟩
    obtain ⟨hanswers, hafter⟩ := ih (p := ⟨mid, u, p.depth⟩) hrest hfits
    rw [List.length_cons, List.replicate_succ, Parser.answers, Parser.after, hanswer, List.map_cons]
    exact ⟨congrArg _ hanswers, hafter⟩

/-- A text is made of texts **with blanks between** each two of them. -/
inductive AreJoined : List String → String → Prop
  | nil : AreJoined [] ""
  | last (text : String) : AreJoined [text] text
  | cons {first second blanks text : String} {rest : List String} (hb : IsBlanks blanks.toList)
      (hne : blanks ≠ "") (h : AreJoined (second :: rest) text) :
      AreJoined (first :: second :: rest) (first ++ blanks ++ text)

section Joined

variable {texts : List String} {trees : List Expression}

/-- Trees that texts are read as fit where nothing is open. -/
theorem fits_of_forall₂_parse
    (h : List.Forall₂ (fun t e => Expression.parse t = .ok e) texts trees) :
    ∀ e ∈ trees, e.Fits 0 := by
  induction h with
  | nil => exact nofun
  | cons ht _ ih =>
    exact List.forall_mem_cons.mpr ⟨(Expression.parse_eq_ok_iff_isReadAs.mp ht).1, ih⟩

/-- Such a text is read as the tokens of the expressions that the texts are read as. -/
theorem AreJoined.isReadAs {text : String} (h : AreJoined texts text)
    (hparse : List.Forall₂ (fun t e => Expression.parse t = .ok e) texts trees) :
    IsReadAs text.toList (trees.flatMap Expression.tokens) := by
  induction h generalizing trees with
  | nil =>
    cases hparse
    exact .nil .nil
  | last text =>
    cases hparse with
    | cons ht hnil =>
      cases hnil
      simpa using (Expression.parse_eq_ok_iff_isReadAs.mp ht).2
  | cons hb hne _ ih =>
    cases hparse with
    | cons ht hrest =>
      have hfirst := (Expression.parse_eq_ok_iff_isReadAs.mp ht).2
      -- the blanks keep the last token of the first text apart from the next text
      have hends := hb.endsToken_append (by simpa [String.toList_eq_nil_iff] using hne)
      rw [List.flatMap_cons, String.toList_append, String.toList_append, List.append_assoc]
      exact hfirst.append ((ih hrest).skip hb) (hends _)

/-- A parser for such a text begins with the tokens of the expressions, and the end is behind
them. -/
theorem AreJoined.exists_gives {text : String} (h : AreJoined texts text)
    (hparse : List.Forall₂ (fun t e => Expression.parse t = .ok e) texts trees) :
    ∃ p last, Parser.ofText text = .ok p ∧ p.depth = 0 ∧
      p.lexer.Gives p.current (trees.flatMap Expression.tokens) last .eof := by
  have hfits := fits_of_forall₂_parse hparse
  have heof : Token.eof ∉ trees.flatMap Expression.tokens := by
    intro hm
    obtain ⟨e, he, hm⟩ := List.mem_flatMap.mp hm
    exact Expression.eof_notMem_tokens (hfits e he) hm
  have hread := Lexer.readAll_of_isReadAs (l := Lexer.ofText text) (h.isReadAs hparse)
  obtain ⟨t, next, last, hn, hg⟩ := (Lexer.readAll_eq_iff heof).mp hread
  refine ⟨⟨next, t, 0⟩, last, ?_, rfl, hg⟩
  rw [Parser.ofText, hn]

end Joined

/-- **A request takes exactly one expression off the stream**, whatever the parser has been through.
If it succeeds, the tokens that it has taken up, from the current one on, are those of the
expression; the token behind them, which the lexer has given last, is current and is neither a
comparison nor a logical operator; the count of levels is what it was, and with the nesting of the
expression it is within the limit. Expressions in the middle of a request are read like that too.
And if texts that can be read stand one behind the other with blanks between them, a parser for the
whole text that is asked again and again gives their expressions one by one, and is at the end
then. -/
theorem each_request_takes_one_expression :
    (∀ q : Parser, q.Reachable → ∀ tree q', q.parseExpression = (.ok tree, q') →
      q.lexer.Gives q.current tree.tokens q'.lexer q'.current ∧ q'.depth = q.depth ∧
        q.depth + tree.nesting ≤ 64 ∧ q'.current.EndsExpression) ∧
    (∀ (p q : Parser) (levels : List Level), p.ComesTo levels q →
      q.depth = p.depth + levels.length ∧
        Parser.Continues p.depth levels q.parseExpression p.parseExpression) ∧
    ∀ (texts : List String) (trees : List Expression) (text : String),
      List.Forall₂ (fun t e => Expression.parse t = .ok e) texts trees → AreJoined texts text →
        ∃ p, Parser.ofText text = .ok p ∧
          p.answers (List.replicate texts.length .expression) = trees.map .ok ∧
          (p.after (List.replicate texts.length .expression)).current = .eof := by
  refine ⟨fun q hq tree q' h => ?_, fun p q levels h => ?_, fun texts trees text hparse h => ?_⟩
  · obtain ⟨hgives, ⟨-, hnesting, -⟩, hends, hdepth⟩ := Parser.run_start_eq_ok_iff.mp h
    have hle := hq.depth_le
    have hlimit : nestingLimit = 64 := rfl
    exact ⟨hgives, hdepth, by omega, hends⟩
  · refine ⟨?_, Parser.continues_of_comesTo h⟩
    cases h
    rfl
  · obtain ⟨p, last, hp, hdepth, hgives⟩ := h.exists_gives hparse
    have hfits : ∀ e ∈ trees, e.Fits p.depth := by
      rw [hdepth]
      exact fits_of_forall₂_parse hparse
    obtain ⟨hanswers, hafter⟩ := Parser.answers_of_gives hgives hfits
    rw [hparse.length_eq]
    exact ⟨p, hp, hanswers, congrArg Parser.current hafter⟩

/-- Three expressions with blanks of several kinds between them. The argument of the call is one
that is read in the middle of the first request, with one level counted. -/
theorem three_expressions_are_taken_off :
    let inner : Expression := .term (.term (.applied .not (.reference "" [])))
    let call : Expression := .lone (.call "@f" [inner])
    let negation : Expression := .term (.term (.applied .not .nil))
    ∃ p q q', Parser.ofText ("@f(!$)" ++ "\t\u3000" ++ ("!nil" ++ " " ++ "($)")) = .ok p ∧
      p.ComesTo [.call .empty "@f" []] q ∧ q.parseExpression = (.ok inner, q') ∧
      q.lexer.Gives q.current inner.tokens q'.lexer q'.current ∧ q'.depth = q.depth ∧
      q.depth + inner.nesting ≤ 64 ∧ q'.current.EndsExpression ∧
      Parser.Continues 0 [.call .empty "@f" []] (.ok inner, q') p.parseExpression ∧
      p.answers [.expression, .expression, .expression] =
        [.ok call, .ok negation, .ok (.lone (.group (.lone (.reference "" []))))] := by
  intro inner call negation
  let rest := "!$)\t\u3000!nil ($)".toList
  let p : Parser := ⟨⟨2, '(' :: rest⟩, .function "@f", 0⟩
  let q : Parser := ⟨⟨4, rest.drop 1⟩, .operator .not, 1⟩
  let q' : Parser := ⟨⟨6, rest.drop 3⟩, .rightParen, 1⟩
  obtain ⟨hone, hinner, hmany⟩ := each_request_takes_one_expression
  have hp : Parser.ofText ("@f(!$)" ++ "\t\u3000" ++ ("!nil" ++ " " ++ "($)")) = .ok p := by
    with_unfolding_all rfl
  have hparen : Lexer.next ⟨2, '(' :: rest⟩ = (.ok .leftParen, ⟨3, rest⟩) := by
    with_unfolding_all rfl
  have hnot : Lexer.next ⟨3, rest⟩ = (.ok (.operator .not), ⟨4, rest.drop 1⟩) := by
    with_unfolding_all rfl
  have hcomes : p.ComesTo [.call .empty "@f" []] q :=
    .intro (.cons .name (.cons .openCall (.nil _))) (.cons hparen (.cons hnot (.nil _ _)))
      (.argument (by decide) (by simp))
  have hroot : Lexer.next ⟨4, rest.drop 1⟩ = (.ok (.reference ""), ⟨5, rest.drop 2⟩) := by
    with_unfolding_all rfl
  have hclose : Lexer.next ⟨5, rest.drop 2⟩ = (.ok .rightParen, ⟨6, rest.drop 3⟩) := by
    with_unfolding_all rfl
  have hq : q.parseExpression = (.ok inner, q') :=
    Parser.run_start_eq_ok_iff.mpr ⟨.cons hroot (.cons hclose (.nil _ _)),
      Unary.fits_applied.mpr ⟨rfl, Operand.fits_reference.mpr rfl⟩, nofun, rfl⟩
  obtain ⟨hgives, hdepth, hnesting, hends⟩ := hone q (.inner (.new hp) hcomes) inner q' hq
  have hcontinues := (hinner p q _ hcomes).2
  rw [hq] at hcontinues
  have hcall : Expression.parse "@f(!$)" = .ok call := by with_unfolding_all rfl
  have hnegation : Expression.parse "!nil" = .ok negation := by with_unfolding_all rfl
  have hgroup : Expression.parse "($)" = .ok (.lone (.group (.lone (.reference "" [])))) := by
    with_unfolding_all rfl
  have hjoined : AreJoined ["@f(!$)", "!nil", "($)"]
      ("@f(!$)" ++ "\t\u3000" ++ ("!nil" ++ " " ++ "($)")) :=
    .cons (List.all_eq_true.mp (by decide)) (by decide)
      (.cons (List.all_eq_true.mp (by decide)) (by decide) (.last _))
  obtain ⟨p', hp', hanswers, -⟩ := hmany _ _ _
    (.cons hcall (.cons hnegation (.cons hgroup .nil))) hjoined
  obtain rfl := Except.ok.inj (hp.symm.trans hp')
  exact ⟨p, q, q', hp, hcomes, hq, hgives, hdepth, hnesting, hends, hcontinues, hanswers⟩

end Criteria
