import Criteria.Proofs.Grammar.Failure
import Mathlib

/-!
# What failed requests leave counted

A parser can be asked again and again. Its place is all that a request needs to leave behind, and a
request that succeeds leaves no more. **One that fails leaves levels counted**: those that were open
where it failed (`Criteria.Parser.LeavesCounted`). How many these are can be read off the tokens
that the request took up:

* where a token is refused, as many as parentheses of this request are open before it;
* where the lexer has an error in store behind a token, one more if this token is a parenthesis
  around an expression, since the parenthesis of a call is not counted yet;
* where a level is one too many, all that there may be.

Nothing takes them back, so the count only ever grows (`Criteria.Parser.depth_after`), and a later
request may be refused a level although it opens few: it is refused one only at a parenthesis with
which its own and those of the requests before it are more than the limit
(`Criteria.failed_requests_leave_levels_counted`).
-/

namespace Criteria

namespace Parser

open Progress

/-- What a parser can be asked for. -/
inductive Request where
  /-- One expression. -/
  | expression
  /-- One expression up to the end of the text. -/
  | whole
  deriving DecidableEq

/-- What a request gives, and the parser that it leaves behind. -/
def answer (p : Parser) : Request → Except ParseError Expression × Parser
  | .expression => p.parseExpression
  | .whole => p.parse

/-- The parser that requests leave behind, one after the other. -/
def after (p : Parser) : List Request → Parser
  | [] => p
  | r :: rest => (p.answer r).2.after rest

/-- Whether the last one of some tokens is the name of a function. -/
def endsInName (ts : List Token) : Bool :=
  match ts.getLast? with
  | some (.function _) => true
  | _ => false

/-- **The levels that a failed request leaves counted.** From `q` it took up the tokens `ts` and
came to `t`, which is refused or the last one that it took up. -/
def LeavesCounted (q : Parser) (e : ParseError) (q' : Parser) : Prop :=
  match e with
  | .unexpectedToken _ _ | .path _ =>
    ∃ ts t, q.lexer.Gives q.current ts q'.lexer t ∧
      q'.depth + ts.count .rightParen = q.depth + ts.count .leftParen
  | .lex e =>
    ∃ ts l t, q.lexer.Gives q.current ts l t ∧ l.next = (.error e, q'.lexer) ∧
      q'.depth + ts.count .rightParen = q.depth + ts.count .leftParen +
        if t = .leftParen ∧ endsInName ts = false then 1 else 0
  | .nestingTooDeep =>
    q'.depth = nestingLimit ∧ ∃ ts t opened, q.lexer.Gives q.current ts q'.lexer t ∧
      opened <+: ts ++ [t] ∧
        q.depth + opened.count .leftParen = nestingLimit + 1 + opened.count .rightParen

variable {p q q' : Parser} {r : Request} {e : ParseError}

/-! ### One request -/

/-- A request that is answered with a tree leaves the counter as it was. -/
theorem depth_of_answer_eq_ok {tree : Expression} (h : q.answer r = (.ok tree, q')) :
    q'.depth = q.depth := by
  cases r with
  | expression => exact (run_start_eq_ok_iff.mp h).2.2.2
  | whole =>
    simp only [answer, parse] at h
    split at h
    · cases h
    · rename_i hr
      split at h
      · obtain ⟨-, rfl⟩ := Prod.mk.inj h
        exact (run_start_eq_ok_iff.mp hr).2.2.2
      · cases h

/-- A request that fails comes to an error on its walk, or a whole text to a token behind the
expression. -/
theorem exists_of_answer_eq_error (h : q.answer r = (.error e, q')) :
    (∃ ts last l t, Walk q.depth .start ts last ∧ q.lexer.Gives q.current ts l t ∧
      FailsAt q.depth last l t e q') ∨
    ∃ tree, q.parseExpression = (.ok tree, q') ∧ e = .unexpectedToken .eof q'.current := by
  cases r with
  | expression => exact .inl (run_eq_error_iff.mp h)
  | whole =>
    rcases parse_eq_error h with hr | ⟨tree, hr, -, he⟩
    · exact .inl (run_eq_error_iff.mp hr)
    · exact .inr ⟨tree, hr, he⟩

section FailsAt

variable {ts : List Token} {last : Progress} {l : Lexer} {t : Token} {base : Nat}

/-- The tokens taken end in the name of a function exactly if its parenthesis is awaited. -/
theorem endsInName_iff_of_walk (hw : Walk base .start ts last) :
    endsInName ts = true ↔ ∃ p name, last.stage = .parenthesis p name := by
  rw [endsInName]
  constructor
  · intro h
    split at h
    · rename_i name hlast
      obtain ⟨p, hp⟩ := hw.stage_eq_parenthesis_iff.mpr hlast
      exact ⟨p, name, hp⟩
    · cases h
  · rintro ⟨p, name, hp⟩
    rw [hw.stage_eq_parenthesis_iff.mp ⟨p, hp⟩]

/-- No more levels are counted after an error than there may be. -/
theorem FailsAt.depth_bounds (hf : FailsAt base last l t e q')
    (hw : Walk base .start ts last) : base ≤ q'.depth ∧ q'.depth ≤ max base nestingLimit := by
  have hle := hw.levels_le_of_start
  cases hf with
  | refused ha =>
    cases refuses_of_action ha with
    | token _ hroom | path _ hroom | group _ _ hroom =>
      exact ⟨Nat.le_add_right _ _, hroom.unclosed_le hle⟩
    | call _ _ => exact ⟨Nat.le_add_right _ _, hle⟩
  | @unread next shown depth _ _ ha _ =>
    change base ≤ depth ∧ depth ≤ max base nestingLimit
    rcases depth_of_shift ha with ⟨⟨p, name, hp⟩, rfl⟩ | ⟨hp, rfl⟩
    · have hroom : last.HasRoom base := by
        intro p' name' h
        rw [hp] at h
        cases h
      exact ⟨Nat.le_add_right _ _, hroom.unclosed_le hle⟩
    · exact ⟨by omega, (move_of_action ha).unclosed_le hle hp⟩

/-- An error on a walk leaves levels counted. -/
theorem FailsAt.leavesCounted (hf : FailsAt q.depth last l t e q')
    (hw : Walk q.depth .start ts last) (hg : q.lexer.Gives q.current ts l t)
    (hq : q.depth ≤ nestingLimit) : LeavesCounted q e q' := by
  have hunclosed := hw.unclosed_of_start
  have hle := hw.levels_le_of_start
  rw [Nat.max_eq_right hq] at hle
  cases hf with
  | refused ha =>
    cases refuses_of_action ha with
    | token _ _ | path _ _ => exact ⟨ts, t, hg, by simp only; omega⟩
    | group ht hd hroom =>
      -- the parenthesis that is refused is the first one that is too many
      have hdepth := hroom.unclosed_le hw.levels_le_of_start
      rw [Nat.max_eq_right hq] at hdepth
      refine ⟨Nat.le_antisymm hdepth hd, ts, t, ts ++ [t], hg, List.prefix_rfl, ?_⟩
      rw [ht, List.count_append, List.count_append, List.count_singleton_self]
      have hnone : [Token.leftParen].count .rightParen = 0 := rfl
      omega
    | call hs hd =>
      -- the parenthesis of the call has been taken up
      have hone : last.unclosed = last.levels.length + 1 := by rw [unclosed, hs]
      exact ⟨Nat.le_antisymm hle hd, ts, t, ts, hg, List.prefix_append _ _, by omega⟩
  | @unread next shown depth e lexer' ha hn =>
    refine ⟨ts, l, t, hg, hn, ?_⟩
    change depth + _ = _
    rcases depth_of_shift ha with ⟨hp, rfl⟩ | ⟨hp, rfl⟩
    · rw [(endsInName_iff_of_walk hw).mpr hp, if_neg (by simp)]
      omega
    · have hname : endsInName ts = false := by
        rw [Bool.eq_false_iff]
        intro h
        obtain ⟨p, name, hp'⟩ := (endsInName_iff_of_walk hw).mp h
        exact hp p name hp'
      rw [hname, List.count_singleton]
      simp only [beq_iff_eq, and_true]
      omega

end FailsAt

/-- **A request that fails leaves the levels counted that were open.** -/
theorem leavesCounted_of_answer (hq : q.depth ≤ nestingLimit)
    (h : q.answer r = (.error e, q')) : LeavesCounted q e q' := by
  rcases exists_of_answer_eq_error h with ⟨ts, last, l, t, hw, hg, hf⟩ | ⟨tree, hr, rfl⟩
  · exact hf.leavesCounted hw hg hq
  · -- the parentheses of an expression are balanced
    obtain ⟨ts, last, hw, hg, ha, hd⟩ := run_eq_ok_iff.mp hr
    obtain ⟨p, x, rfl, -, -⟩ := action_eq_finish_iff.mp ha
    have hunclosed : 0 + ts.count .rightParen = ts.count .leftParen := hw.unclosed_of_start
    exact ⟨ts, q'.current, hg, by omega⟩

/-- **A request takes no level back**, and counts none beyond the limit. -/
theorem depth_answer (q : Parser) (r : Request) :
    q.depth ≤ (q.answer r).2.depth ∧ (q.answer r).2.depth ≤ max q.depth nestingLimit := by
  rcases h : q.answer r with ⟨e | tree, q'⟩
  · rcases exists_of_answer_eq_error h with ⟨ts, last, l, t, hw, -, hf⟩ | ⟨tree, hr, -⟩
    · exact hf.depth_bounds hw
    · have hd : q'.depth = q.depth := (run_start_eq_ok_iff.mp hr).2.2.2
      change q.depth ≤ q'.depth ∧ q'.depth ≤ max q.depth nestingLimit
      omega
  · have hd : q'.depth = q.depth := depth_of_answer_eq_ok h
    change q.depth ≤ q'.depth ∧ q'.depth ≤ max q.depth nestingLimit
    omega

/-! ### Request after request -/

/-- **The count only ever grows**, up to the limit. -/
theorem depth_after (p : Parser) (requests : List Request) :
    p.depth ≤ (p.after requests).depth ∧
      (p.after requests).depth ≤ max p.depth nestingLimit := by
  induction requests generalizing p with
  | nil => exact ⟨Nat.le_refl _, Nat.le_max_left _ _⟩
  | cons r rest ih =>
    obtain ⟨hge, hle⟩ := p.depth_answer r
    obtain ⟨hge', hle'⟩ := ih (p.answer r).2
    rw [after]
    omega

end Parser

/-- **What a parser counts after requests of any sort.** Whatever a parser for a text was asked for,
it counts at most as many levels as there may be. A further request that succeeds leaves the count
as it was; one that fails leaves the levels counted that were open where it failed, and it fails for
its nesting only at a parenthesis that is one too many together with those. -/
theorem failed_requests_leave_levels_counted {text : String} {p : Parser}
    (h : Parser.ofText text = .ok p) (requests : List Parser.Request) (r : Parser.Request) :
    let q := p.after requests
    q.depth ≤ nestingLimit ∧
      (∀ tree q', q.answer r = (.ok tree, q') → q'.depth = q.depth) ∧
      ∀ e q', q.answer r = (.error e, q') → q.LeavesCounted e q' := by
  intro q
  have hq : q.depth ≤ nestingLimit := by
    have hle := (p.depth_after requests).2
    rwa [(Parser.eq_of_ofText h).2, Nat.max_eq_right (Nat.zero_le _)] at hle
  exact ⟨hq, fun tree q' => Parser.depth_of_answer_eq_ok,
    fun e q' => Parser.leavesCounted_of_answer hq⟩

set_option maxRecDepth 4000 in
/-- A parser for a text with as many parentheses as there may be, and one more behind the first
operand. The first request wants one of them closed there. The second one begins at the last
parenthesis, with an expression that nests one level deep, and is refused this level. -/
theorem second_request_is_refused :
    ∃ p, Parser.ofText (String.ofList (List.replicate 64 '(') ++ "nil (nil)") = .ok p ∧
      (p.answer .expression).1 = .error (.unexpectedToken .rightParen .leftParen) ∧
      let q := p.after [.expression]
      q.current = .leftParen ∧ q.lexer.rest = "nil)".toList ∧ q.depth = 64 ∧
        (q.answer .expression).1 = .error .nestingTooDeep ∧
        q.LeavesCounted .nestingTooDeep (q.answer .expression).2 := by
  let p : Parser := ⟨⟨1, List.replicate 63 '(' ++ "nil (nil)".toList⟩, .leftParen, 0⟩
  let q : Parser := ⟨⟨69, "nil)".toList⟩, .leftParen, 64⟩
  have hp : Parser.ofText (String.ofList (List.replicate 64 '(') ++ "nil (nil)") = .ok p := by cbv
  have hfirst : p.answer .expression = (.error (.unexpectedToken .rightParen .leftParen), q) := by
    cbv
  have hsecond : q.answer .expression = (.error .nestingTooDeep, ⟨q.lexer, .eof, 64⟩) := by cbv
  have hafter : p.after [.expression] = q := congrArg Prod.snd hfirst
  obtain ⟨-, -, hcounted⟩ := failed_requests_leave_levels_counted hp [.expression] .expression
  rw [hafter] at hcounted
  refine ⟨p, hp, congrArg Prod.fst hfirst, ?_⟩
  rw [hafter]
  refine ⟨rfl, rfl, rfl, congrArg Prod.fst hsecond, ?_⟩
  rw [hsecond]
  exact hcounted _ _ hsecond

end Criteria
