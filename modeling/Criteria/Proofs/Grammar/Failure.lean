import Criteria.Proofs.Grammar.Exact

/-!
# Runs that fail

A run that fails is a walk too. It comes to its end where the parser **refuses** a token, or where
the lexer has an error in store behind a token that was taken up
(`Criteria.Parser.run_eq_error_iff`). What can be refused, and how many levels are then counted, is
said here once (`Criteria.Progress.Refuses`).

The levels that are counted can be read off the tokens: along a walk from the start there are as
many parentheses **unclosed** as there are more opening than closing ones
(`Criteria.Progress.Walk.unclosed_eq`).
-/

namespace Criteria

namespace Progress

/-- The parentheses that are open. Behind the one of a call its level is not open yet. -/
def unclosed (s : Progress) : Nat :=
  match s.stage with
  | .arguments _ _ => s.levels.length + 1
  | _ => s.levels.length

variable {base : Nat} {s next last : Progress} {t : Token} {ts us : List Token}

/-! ### Levels along a walk -/

/-- A parenthesis that is taken up is open from then on, or closes one that was. -/
theorem Move.unclosed_eq (h : Move base s t next) :
    next.unclosed + [t].count .rightParen = s.unclosed + [t].count .leftParen := by
  induction h with
  | @leaf levels p t x hx =>
    cases t with
    | leftParen | rightParen => exact absurd hx (by simp [Operand.leaf?])
    | _ => rfl
  | firstArgument _ hm ih => exact ih
  | name | openGroup _ | negate _ | openCall | noArguments _ | compare _ | join _ | closeGroup
  | comma | closeCall => rfl

/-- **The parentheses that are open after a walk** are those that it opened and did not close. -/
theorem Walk.unclosed_eq (h : Walk base s ts last) :
    last.unclosed + ts.count .rightParen = s.unclosed + ts.count .leftParen := by
  induction h with
  | nil s => rfl
  | @cons s next last t ts hm _ ih =>
    have hmove := hm.unclosed_eq
    rw [← List.singleton_append, List.count_append, List.count_append]
    omega

/-- From the start, no parenthesis is open before the walk. -/
theorem Walk.unclosed_of_start (h : Walk base start ts last) :
    last.unclosed + ts.count .rightParen = ts.count .leftParen := by
  have hwalk := h.unclosed_eq
  rwa [show start.unclosed = 0 from rfl, Nat.zero_add] at hwalk

/-- A level that may be opened is not beyond the limit. -/
theorem opened_le {levels : List Level} (h : base + levels.length < nestingLimit) :
    base + (levels.length + 1) ≤ max base nestingLimit :=
  Nat.le_trans (Nat.succ_le_of_lt h) (Nat.le_max_right _ _)

/-- No level is opened beyond the limit. -/
theorem Move.levels_le (h : Move base s t next)
    (hs : base + s.levels.length ≤ max base nestingLimit) :
    base + next.levels.length ≤ max base nestingLimit := by
  induction h with
  | openGroup hd => exact opened_le hd
  | firstArgument hd _ ih => exact ih (opened_le hd)
  | closeGroup | closeCall => exact Nat.le_trans (Nat.le_succ _) hs
  | leaf _ | name | negate _ | openCall | noArguments _ | compare _ | join _ | comma => exact hs

/-- No walk opens levels beyond the limit. -/
theorem Walk.levels_le (h : Walk base s ts last)
    (hs : base + s.levels.length ≤ max base nestingLimit) :
    base + last.levels.length ≤ max base nestingLimit := by
  induction h with
  | nil s => exact hs
  | cons hm _ ih => exact ih (hm.levels_le hs)

theorem Walk.levels_le_of_start (h : Walk base start ts last) :
    base + last.levels.length ≤ max base nestingLimit :=
  h.levels_le (Nat.le_max_left _ _)

/-- A token that is taken up does not lead beyond the limit, apart from the parenthesis of a call,
whose level is opened by the token behind it. -/
theorem Move.unclosed_le (h : Move base s t next)
    (hs : base + s.levels.length ≤ max base nestingLimit)
    (hp : ∀ p name, s.stage ≠ .parenthesis p name) :
    base + s.unclosed + [t].count .leftParen ≤ max base nestingLimit := by
  induction h with
  | @leaf levels p t x hx =>
    cases t with
    | leftParen => exact absurd hx (by simp [Operand.leaf?])
    | _ => exact hs
  | openCall => exact absurd rfl (hp _ _)
  | openGroup hd | noArguments hd => exact opened_le hd
  | firstArgument hd _ ih => exact ih (opened_le hd) (by simp)
  | name | negate _ | compare _ | join _ | closeGroup | comma | closeCall => exact hs

/-! ### The last token of a walk -/

/-- The last move of a walk. -/
theorem Walk.exists_of_concat (h : Walk base s (ts ++ [t]) last) :
    ∃ mid, Walk base s ts mid ∧ Move base mid t last := by
  induction ts generalizing s with
  | nil =>
    cases h with
    | cons hm hw =>
      cases hw
      exact ⟨s, .nil s, hm⟩
  | cons u ts ih =>
    cases h with
    | cons hm hw =>
      obtain ⟨mid, hw, hlast⟩ := ih hw
      exact ⟨mid, .cons hm hw, hlast⟩

/-- A parenthesis of a call is wanted exactly behind the name of a function. -/
theorem Move.stage_eq_parenthesis_iff (h : Move base s t next) {name : String} :
    (∃ p, next.stage = .parenthesis p name) ↔ t = .function name := by
  induction h with
  | @leaf levels p t x hx =>
    constructor
    · rintro ⟨q, hq⟩
      cases hq
    · rintro rfl
      exact absurd hx (by simp [Operand.leaf?])
  | firstArgument _ _ ih => exact ih
  | @name levels p name' =>
    constructor
    · rintro ⟨q, hq⟩
      rw [(Stage.parenthesis.inj hq).2]
    · intro ht
      exact ⟨p, by rw [Token.function.inj ht]⟩
  | openGroup _ | negate _ | openCall | noArguments _ | compare _ | join _ | closeGroup | comma
  | closeCall => simp

/-- A parenthesis is awaited exactly behind the name of a function. -/
theorem Walk.stage_eq_parenthesis_iff (h : Walk base start ts last) {name : String} :
    (∃ p, last.stage = .parenthesis p name) ↔ ts.getLast? = some (.function name) := by
  rcases List.eq_nil_or_concat ts with rfl | ⟨front, t, rfl⟩
  · cases h
    simp [start]
  · rw [List.concat_eq_append] at h ⊢
    obtain ⟨mid, -, hm⟩ := h.exists_of_concat
    rw [hm.stage_eq_parenthesis_iff, List.getLast?_concat, Option.some.injEq]

/-! ### Refusals -/

/-- If the argument list of a call comes next, its level may still be opened. -/
def HasRoom (base : Nat) (s : Progress) : Prop :=
  ∀ p name, s.stage = .arguments p name → base + s.levels.length < nestingLimit

/-- The levels that are not closed are within the limit. -/
theorem HasRoom.unclosed_le (h : s.HasRoom base)
    (hs : base + s.levels.length ≤ max base nestingLimit) :
    base + s.unclosed ≤ max base nestingLimit := by
  obtain ⟨levels, stage⟩ := s
  cases stage with
  | arguments p name =>
    exact opened_le (h p name rfl)
  | operand _ | parenthesis _ _ | operator _ _ => exact hs

/-- **What the parser refuses**, and how many levels are then counted. -/
inductive Refuses (base : Nat) (s : Progress) (t : Token) : ParseError → Nat → Prop
  /-- Another token is wanted. -/
  | token {wanted : Wanted} (hw : wanted = .leftParen ↔ ∃ p name, s.stage = .parenthesis p name)
      (ha : s.HasRoom base) : Refuses base s t (.unexpectedToken wanted t) (base + s.unclosed)
  /-- A variable is not written as a path. -/
  | path (e : PathError) (ha : s.HasRoom base) : Refuses base s t (.path e) (base + s.unclosed)
  /-- A parenthesis around an expression is one too many. -/
  | group (ht : t = .leftParen) (hd : nestingLimit ≤ base + s.unclosed) (ha : s.HasRoom base) :
      Refuses base s t .nestingTooDeep (base + s.unclosed)
  /-- The argument list of a call is one level too many, whatever stands in it. -/
  | call {p : Pending} {name : String} (hs : s.stage = .arguments p name)
      (hd : nestingLimit ≤ base + s.levels.length) :
      Refuses base s t .nestingTooDeep (base + s.levels.length)

/-- How a token fails where an operand is awaited. -/
theorem operandAction_eq_fail {d depth : Nat} {levels : List Level} {p : Pending} {e : ParseError}
    {shown : Token} (h : operandAction d levels p t = .fail e shown depth) :
    depth = d ∧ (e = .unexpectedToken .value t ∨ (∃ e', e = .path e') ∨
      e = .nestingTooDeep ∧ t = .leftParen ∧ nestingLimit ≤ d) := by
  cases t with
  | number _ | string _ | boolean _ | nil | regex _ | function _ => cases h
  | reference text =>
    simp only [operandAction] at h
    split at h
    · cases h
    · obtain ⟨rfl, -, rfl⟩ := Action.fail.inj h
      exact ⟨rfl, .inr (.inl ⟨_, rfl⟩)⟩
  | leftParen =>
    simp only [operandAction] at h
    split at h
    · cases h
    · rename_i hd
      obtain ⟨rfl, -, rfl⟩ := Action.fail.inj h
      exact ⟨rfl, .inr (.inr ⟨rfl, rfl, Nat.le_of_not_lt hd⟩)⟩
  | operator op =>
    cases op with
    | not =>
      simp only [operandAction] at h
      split at h
      · obtain ⟨rfl, -, rfl⟩ := Action.fail.inj h
        exact ⟨rfl, .inl rfl⟩
      · cases h
    | _ =>
      obtain ⟨rfl, -, rfl⟩ := Action.fail.inj h
      exact ⟨rfl, .inl rfl⟩
  | rightParen | comma | eof =>
    obtain ⟨rfl, -, rfl⟩ := Action.fail.inj h
    exact ⟨rfl, .inl rfl⟩

/-- How a token fails that does not continue an expression. -/
theorem closeAction_eq_fail {d depth : Nat} {levels : List Level} {e : Expression}
    {error : ParseError} {shown : Token} (h : closeAction d levels e t = .fail error shown depth) :
    depth = d ∧ error = .unexpectedToken .rightParen t := by
  rcases levels with _ | ⟨outer | ⟨outer, name, arguments⟩, rest⟩
  · cases h
  · simp only [closeAction] at h
    split at h
    · cases h
    · obtain ⟨rfl, -, rfl⟩ := Action.fail.inj h
      exact ⟨rfl, rfl⟩
  · simp only [closeAction] at h
    split at h
    · cases h
    · split at h
      · cases h
      · obtain ⟨rfl, -, rfl⟩ := Action.fail.inj h
        exact ⟨rfl, rfl⟩

/-- How a token fails behind an operand. -/
theorem operatorAction_eq_fail {d depth : Nat} {levels : List Level} {p : Pending} {x : Operand}
    {e : ParseError} {shown : Token} (h : operatorAction d levels p x t = .fail e shown depth) :
    depth = d ∧ e = .unexpectedToken .rightParen t := by
  rw [operatorAction] at h
  split at h
  · split at h
    · cases h
    · split at h
      · cases h
      · exact closeAction_eq_fail h
  · exact closeAction_eq_fail h

/-- **The refusals of the parser.** -/
theorem refuses_of_action {e : ParseError} {shown : Token} {depth : Nat}
    (h : s.action base t = .fail e shown depth) : Refuses base s t e depth := by
  obtain ⟨levels, stage⟩ := s
  cases stage with
  | operand p =>
    obtain ⟨rfl, rfl | ⟨e', rfl⟩ | ⟨rfl, rfl, hd⟩⟩ := operandAction_eq_fail h
    · exact .token (by simp) (by simp [HasRoom])
    · exact .path e' (by simp [HasRoom])
    · exact .group rfl hd (by simp [HasRoom])
  | parenthesis p name =>
    simp only [action] at h
    split at h
    · cases h
    · obtain ⟨rfl, -, rfl⟩ := Action.fail.inj h
      exact .token (by simp) (by simp [HasRoom])
  | arguments p name =>
    simp only [action, argumentsAction] at h
    split at h
    · rename_i hd
      obtain ⟨rfl, -, rfl⟩ := Action.fail.inj h
      exact .call rfl hd
    · rename_i hd
      split at h
      · cases h
      · -- the level of the arguments is open now
        have ha : HasRoom base ⟨levels, .arguments p name⟩ := fun _ _ _ => Nat.lt_of_not_le hd
        obtain ⟨rfl, rfl | ⟨e', rfl⟩ | ⟨rfl, rfl, hd'⟩⟩ := operandAction_eq_fail h
        · exact .token (by simp) ha
        · exact .path e' ha
        · exact .group rfl hd' ha
  | operator p x =>
    obtain ⟨rfl, rfl⟩ := operatorAction_eq_fail h
    exact .token (by simp) (by simp [HasRoom])

/-! ### The count of levels while the next token is read

If there is no next token, this is what stays counted. A parenthesis around an expression is counted
at once, but the argument list of a call only with the token behind its parenthesis, and a closing
parenthesis still counts while the next token is read. -/

/-- Where an operand is awaited, only a parenthesis opens a level. -/
theorem operandAction_eq_shift {d depth : Nat} {levels : List Level} {p : Pending} {shown : Token}
    (h : operandAction d levels p t = .shift next shown depth) :
    depth = d + [t].count .leftParen := by
  cases t with
  | number _ | string _ | boolean _ | nil | regex _ | function _ =>
    obtain ⟨-, -, rfl⟩ := Action.shift.inj h
    rfl
  | reference text =>
    simp only [operandAction] at h
    split at h
    · obtain ⟨-, -, rfl⟩ := Action.shift.inj h
      rfl
    · cases h
  | leftParen =>
    simp only [operandAction] at h
    split at h
    · obtain ⟨-, -, rfl⟩ := Action.shift.inj h
      rfl
    · cases h
  | operator op =>
    cases op with
    | not =>
      simp only [operandAction] at h
      split at h
      · cases h
      · obtain ⟨-, -, rfl⟩ := Action.shift.inj h
        rfl
    | _ => cases h
  | rightParen | comma | eof => cases h

/-- Behind an operand no token opens a level. -/
theorem operatorAction_eq_shift {d depth : Nat} {levels : List Level} {p : Pending} {x : Operand}
    {shown : Token} (h : operatorAction d levels p x t = .shift next shown depth) :
    depth = d ∧ t ≠ .leftParen := by
  have hclose : ∀ {e}, closeAction d levels e t = .shift next shown depth →
      depth = d ∧ t ≠ .leftParen := by
    intro e h
    rcases levels with _ | ⟨outer | ⟨outer, name, arguments⟩, rest⟩
    · cases h
    · simp only [closeAction] at h
      split at h
      · rename_i ht
        obtain ⟨-, -, rfl⟩ := Action.shift.inj h
        exact ⟨rfl, by simp [ht]⟩
      · cases h
    · simp only [closeAction] at h
      split at h
      · rename_i ht
        obtain ⟨-, -, rfl⟩ := Action.shift.inj h
        exact ⟨rfl, by simp [ht]⟩
      · split at h
        · rename_i ht
          obtain ⟨-, -, rfl⟩ := Action.shift.inj h
          exact ⟨rfl, by simp [ht]⟩
        · cases h
  cases t with
  | operator op =>
    simp only [operatorAction, Token.operator?] at h
    split at h
    · obtain ⟨-, -, rfl⟩ := Action.shift.inj h
      exact ⟨rfl, by simp⟩
    · split at h
      · obtain ⟨-, -, rfl⟩ := Action.shift.inj h
        exact ⟨rfl, by simp⟩
      · exact hclose h
  | _ => exact hclose h

/-- The levels that are counted when a token has been taken up. -/
theorem depth_of_shift {shown : Token} {depth : Nat}
    (h : s.action base t = .shift next shown depth) :
    (∃ p name, s.stage = .parenthesis p name) ∧ depth = base + s.unclosed ∨
      (∀ p name, s.stage ≠ .parenthesis p name) ∧
        depth = base + s.unclosed + [t].count .leftParen := by
  obtain ⟨levels, stage⟩ := s
  cases stage with
  | operand p => exact .inr ⟨by simp, operandAction_eq_shift h⟩
  | parenthesis p name =>
    simp only [action] at h
    split at h
    · obtain ⟨-, -, rfl⟩ := Action.shift.inj h
      exact .inl ⟨⟨p, name, rfl⟩, rfl⟩
    · cases h
  | arguments p name =>
    refine .inr ⟨by simp, ?_⟩
    simp only [action, argumentsAction] at h
    split at h
    · cases h
    · split at h
      · rename_i ht
        obtain ⟨-, -, rfl⟩ := Action.shift.inj h
        rw [ht]
        rfl
      · exact operandAction_eq_shift h
  | operator p x =>
    obtain ⟨rfl, ht⟩ := operatorAction_eq_shift h
    refine .inr ⟨by simp, ?_⟩
    rw [List.count_singleton, if_neg (by simpa using ht)]
    rfl

end Progress

namespace Parser

open Progress

variable {base : Nat} {s : Progress} {lexer : Lexer} {current : Token}

/-- **How a run comes to an error** at a progress, where a lexer has given a token. -/
inductive FailsAt (base : Nat) (s : Progress) (lexer : Lexer) (t : Token) :
    ParseError → Parser → Prop
  /-- The token is refused. -/
  | refused {e : ParseError} {shown : Token} {depth : Nat}
      (h : s.action base t = .fail e shown depth) : FailsAt base s lexer t e ⟨lexer, shown, depth⟩
  /-- The token is taken up, and none is given in its place. -/
  | unread {next : Progress} {shown : Token} {depth : Nat} {e : LexError} {lexer' : Lexer}
      (h : s.action base t = .shift next shown depth) (hn : lexer.next = (.error e, lexer')) :
      FailsAt base s lexer t (.lex e) ⟨lexer', shown, depth⟩

/-- How a run comes to an error at once. -/
theorem run_of_failsAt {e : ParseError} {p : Parser} (h : FailsAt base s lexer current e p) :
    run base s lexer current = (.error e, p) := by
  cases h with
  | refused ha => exact run_of_fail ha
  | unread ha hn => rw [run_of_shift ha, hn]

/-- **A run that fails is a walk** along the tokens that the lexer gives, up to a place where it
comes to an error. -/
theorem run_eq_error_iff {e : ParseError} {p : Parser} :
    run base s lexer current = (.error e, p) ↔
      ∃ ts last l t, Walk base s ts last ∧ lexer.Gives current ts l t ∧
        FailsAt base last l t e p := by
  constructor
  · -- along the parser's own recursion, one move for each token
    intro h
    induction s, lexer, current using run.induct base with
    | case1 s lexer current e' shown depth ha =>
      rw [run_of_fail ha] at h
      obtain ⟨he, rfl⟩ := Prod.mk.inj h
      obtain rfl := Except.error.inj he
      exact ⟨[], s, lexer, current, .nil s, .nil lexer current, .refused ha⟩
    | case2 s lexer current e' ha =>
      rw [run_of_finish ha] at h
      cases h
    | case3 s lexer current next shown depth ha e' lexer' hn =>
      rw [run_of_shift ha, hn] at h
      obtain ⟨he, rfl⟩ := Prod.mk.inj h
      obtain rfl := Except.error.inj he
      exact ⟨[], s, lexer, current, .nil s, .nil lexer current, .unread ha hn⟩
    | case4 s lexer current next shown depth ha t lexer' hn ih =>
      rw [run_of_shift ha, hn] at h
      obtain ⟨ts, last, l, u, hw, hg, hf⟩ := ih h
      exact ⟨current :: ts, last, l, u, .cons (move_of_action ha) hw, .cons hn hg, hf⟩
  · -- along the walk, the run takes up what the lexer gives
    rintro ⟨ts, last, l, t, hw, hg, hf⟩
    induction hw generalizing lexer current with
    | nil s =>
      cases hg
      exact run_of_failsAt hf
    | cons hm _ ih =>
      obtain ⟨shown, depth, hs⟩ := exists_action_eq_shift_iff.mpr hm
      cases hg with
      | cons hn hg =>
        rw [run_of_shift hs, hn]
        exact ih hg hf

/-- A whole text is not read if its expression is not, or if it goes on behind it. -/
theorem parse_eq_error {e : ParseError} {p q : Parser} (h : p.parse = (.error e, q)) :
    p.parseExpression = (.error e, q) ∨ ∃ tree, p.parseExpression = (.ok tree, q) ∧
      q.current ≠ .eof ∧ e = .unexpectedToken .eof q.current := by
  rw [parse] at h
  split at h
  · rename_i e' q' hr
    rw [hr, h]
    exact .inl rfl
  · rename_i tree q' hr
    split at h
    · cases h
    · rename_i hne
      obtain ⟨he, rfl⟩ := Prod.mk.inj h
      exact .inr ⟨tree, hr, hne, (Except.error.inj he).symm⟩

/-- A parser for a text holds the first token of the text, and counts no level. -/
theorem eq_of_ofText {text : String} {p : Parser} (h : ofText text = .ok p) :
    (Lexer.ofText text).next = (.ok p.current, p.lexer) ∧ p.depth = 0 := by
  rw [ofText] at h
  split at h
  · cases h
  · rename_i hn
    obtain rfl := Except.ok.inj h
    exact ⟨hn, rfl⟩

end Parser

end Criteria
