import Criteria.Proofs.Grammar.Flattening

/-!
# The moves of the parser

A parser's run is a walk: each token that it takes up moves it from one progress to another. This
file says once what those **moves** are (`Criteria.Progress.Move`), and everything else is proved
about moves and not about the parser's code.

* `Criteria.Progress.exists_action_eq_shift_iff`: the moves are the shifts of the parser.
* `Criteria.Progress.action_eq_finish_iff`: it stops behind an operand on the outermost level, at
  a token that does not go on with the expression.
* `Criteria.Parser.run_eq_ok_iff`: a run that succeeds is a walk along the tokens that the lexer
  gives, up to such a place.
-/

namespace Criteria

/-- The operand that a token is on its own. -/
def Operand.leaf? : Token → Option Operand
  | .number x => some (.number x)
  | .string s => some (.string s)
  | .boolean b => some (.boolean b)
  | .nil => some .nil
  | .regex pattern => some (.regex pattern)
  | .reference text => (Path.read text).toOption.map (.reference text)
  | _ => none

/-- An operand of one token is written with this token, and fits everywhere. -/
theorem Operand.leaf_spec {t : Token} {x : Operand} (h : Operand.leaf? t = some x) :
    x.tokens = [t] ∧ ∀ depth, x.Fits depth := by
  cases t with
  | reference text =>
    cases hr : Path.read text with
    | ok path =>
      have hx : Operand.reference text path = x := by
        simpa [Operand.leaf?, hr, Except.toOption] using h
      rw [← hx]
      exact ⟨rfl, fun depth => Operand.fits_reference.mpr hr⟩
    | error e => exact absurd h (by simp [Operand.leaf?, hr, Except.toOption])
  | number _ | string _ | boolean _ | nil | regex _ =>
    rw [← Option.some.inj h]
    exact ⟨rfl, fun depth => ⟨trivial, Nat.zero_le _, pathsReadIn_singleton (by simp)⟩⟩
  | _ => exact absurd h (by simp [Operand.leaf?])

/-- A token that can stand behind a complete expression: it joins no further term to it. -/
def Token.EndsExpression (t : Token) : Prop :=
  ∀ op, t.operator? = some op → op.isComparison = false ∧ op.isLogical = false

namespace Progress

/-- **The moves of the parser**: how a token takes it from one progress to the next, where `base`
levels were open before the expression. -/
inductive Move (base : Nat) : Progress → Token → Progress → Prop
  /-- An operand of one token. -/
  | leaf {levels : List Level} {p : Pending} {t : Token} {x : Operand}
      (h : Operand.leaf? t = some x) :
      Move base ⟨levels, .operand p⟩ t ⟨levels, .operator p x⟩
  /-- The name of a function. -/
  | name {levels : List Level} {p : Pending} {name : String} :
      Move base ⟨levels, .operand p⟩ (.function name) ⟨levels, .parenthesis p name⟩
  /-- A parenthesis around an expression. -/
  | openGroup {levels : List Level} {p : Pending} (h : base + levels.length < nestingLimit) :
      Move base ⟨levels, .operand p⟩ .leftParen ⟨.group p :: levels, .operand .empty⟩
  /-- A negation. -/
  | negate {levels : List Level} {p : Pending} (h : p.negated = false) :
      Move base ⟨levels, .operand p⟩ (.operator .not)
        ⟨levels, .operand { p with negated := true }⟩
  /-- The parenthesis behind the name of a function. -/
  | openCall {levels : List Level} {p : Pending} {name : String} :
      Move base ⟨levels, .parenthesis p name⟩ .leftParen ⟨levels, .arguments p name⟩
  /-- The end of an empty argument list. -/
  | noArguments {levels : List Level} {p : Pending} {name : String}
      (h : base + levels.length < nestingLimit) :
      Move base ⟨levels, .arguments p name⟩ .rightParen ⟨levels, .operator p (.call name [])⟩
  /-- The first token of the first argument, which opens the level of the arguments. -/
  | firstArgument {levels : List Level} {p : Pending} {name : String} {t : Token}
      {next : Progress} (h : base + levels.length < nestingLimit)
      (hm : Move base ⟨.call p name [] :: levels, .operand .empty⟩ t next) :
      Move base ⟨levels, .arguments p name⟩ t next
  /-- A comparison operator. -/
  | compare {levels : List Level} {p : Pending} {x : Operand} {op : Operator}
      (h : op.isComparison = true) :
      Move base ⟨levels, .operator p x⟩ (.operator op) ⟨levels, .operand (p.compare x op)⟩
  /-- A logical operator. -/
  | join {levels : List Level} {p : Pending} {x : Operand} {op : Operator}
      (h : op.isLogical = true) :
      Move base ⟨levels, .operator p x⟩ (.operator op) ⟨levels, .operand (p.join x op)⟩
  /-- The parenthesis at the end of an expression in parentheses. -/
  | closeGroup {levels : List Level} {outer p : Pending} {x : Operand} :
      Move base ⟨.group outer :: levels, .operator p x⟩ .rightParen
        ⟨levels, .operator outer (.group (p.toExpression x))⟩
  /-- The comma between two arguments. -/
  | comma {levels : List Level} {outer p : Pending} {x : Operand} {name : String}
      {arguments : List Expression} :
      Move base ⟨.call outer name arguments :: levels, .operator p x⟩ .comma
        ⟨.call outer name (p.toExpression x :: arguments) :: levels, .operand .empty⟩
  /-- The parenthesis behind the last argument. -/
  | closeCall {levels : List Level} {outer p : Pending} {x : Operand} {name : String}
      {arguments : List Expression} :
      Move base ⟨.call outer name arguments :: levels, .operator p x⟩ .rightParen
        ⟨levels, .operator outer (.call name (p.toExpression x :: arguments).reverse)⟩

variable {base : Nat} {s next : Progress} {t : Token}

/-! ### Moves are shifts -/

/-- A token that is taken where an operand is awaited is a move. -/
theorem move_of_operandAction {levels : List Level} {p : Pending} {shown : Token} {depth : Nat}
    (h : operandAction (base + levels.length) levels p t = .shift next shown depth) :
    Move base ⟨levels, .operand p⟩ t next := by
  cases t with
  | number x | string s | boolean b | nil | regex pattern =>
    obtain ⟨rfl, -, -⟩ := Action.shift.inj h
    exact .leaf rfl
  | reference text =>
    simp only [operandAction] at h
    split at h
    · rename_i path hp
      obtain ⟨rfl, -, -⟩ := Action.shift.inj h
      exact .leaf (by simp [Operand.leaf?, hp, Except.toOption])
    · exact absurd h (by simp)
  | function name =>
    obtain ⟨rfl, -, -⟩ := Action.shift.inj h
    exact .name
  | leftParen =>
    simp only [operandAction] at h
    split at h
    · rename_i hd
      obtain ⟨rfl, -, -⟩ := Action.shift.inj h
      exact .openGroup hd
    · exact absurd h (by simp)
  | operator op =>
    cases op with
    | not =>
      simp only [operandAction] at h
      split at h
      · exact absurd h (by simp)
      · rename_i hn
        obtain ⟨rfl, -, -⟩ := Action.shift.inj h
        exact .negate (by simpa using hn)
    | _ => exact absurd h (by simp [operandAction])
  | rightParen | comma | eof => exact absurd h (by simp [operandAction])

/-- A token that closes a level or leads to the next argument is a move. -/
theorem move_of_closeAction {levels : List Level} {p : Pending} {x : Operand} {shown : Token}
    {depth d : Nat} (h : closeAction d levels (p.toExpression x) t = .shift next shown depth) :
    Move base ⟨levels, .operator p x⟩ t next := by
  cases levels with
  | nil => exact absurd h (by simp [closeAction])
  | cons level rest =>
    cases level with
    | group outer =>
      simp only [closeAction] at h
      split at h
      · rename_i ht
        obtain ⟨rfl, -, -⟩ := Action.shift.inj h
        rw [ht]
        exact .closeGroup
      · exact absurd h (by simp)
    | call outer name arguments =>
      simp only [closeAction] at h
      split at h
      · rename_i ht
        obtain ⟨rfl, -, -⟩ := Action.shift.inj h
        rw [ht]
        exact .comma
      · split at h
        · rename_i ht
          obtain ⟨rfl, -, -⟩ := Action.shift.inj h
          rw [ht]
          exact .closeCall
        · exact absurd h (by simp)

/-- A token that is taken behind an operand is a move. -/
theorem move_of_operatorAction {levels : List Level} {p : Pending} {x : Operand} {shown : Token}
    {depth d : Nat} (h : operatorAction d levels p x t = .shift next shown depth) :
    Move base ⟨levels, .operator p x⟩ t next := by
  cases t with
  | operator op =>
    simp only [operatorAction, Token.operator?] at h
    split at h
    · rename_i hc
      obtain ⟨rfl, -, -⟩ := Action.shift.inj h
      exact .compare hc
    · split at h
      · rename_i hl
        obtain ⟨rfl, -, -⟩ := Action.shift.inj h
        exact .join hl
      · exact move_of_closeAction h
  | _ => exact move_of_closeAction h

/-- Every shift of the parser is a move. -/
theorem move_of_action {shown : Token} {depth : Nat}
    (h : s.action base t = .shift next shown depth) : Move base s t next := by
  obtain ⟨levels, stage⟩ := s
  cases stage with
  | operand p => exact move_of_operandAction h
  | parenthesis p name =>
    simp only [action] at h
    split at h
    · rename_i ht
      obtain ⟨rfl, -, -⟩ := Action.shift.inj h
      rw [ht]
      exact .openCall
    · exact absurd h (by simp)
  | arguments p name =>
    simp only [action, argumentsAction] at h
    split at h
    · exact absurd h (by simp)
    · rename_i hd
      have hlt : base + levels.length < nestingLimit := Nat.lt_of_not_le hd
      split at h
      · rename_i ht
        obtain ⟨rfl, -, -⟩ := Action.shift.inj h
        rw [ht]
        exact .noArguments hlt
      · -- the token is taken as the first one of an operand, on the level that it opens
        exact .firstArgument hlt (move_of_operandAction h)
  | operator p x => exact move_of_operatorAction h

/-- Every move from an operand's place is a shift of the parser. -/
theorem exists_operandAction {levels : List Level} {p : Pending}
    (h : Move base ⟨levels, .operand p⟩ t next) :
    t ≠ .rightParen ∧
      ∃ shown depth,
        operandAction (base + levels.length) levels p t = .shift next shown depth := by
  cases h with
  | @leaf _ _ t x hx =>
    cases t with
    | reference text =>
      cases hr : Path.read text with
      | ok path =>
        have hx' : Operand.reference text path = x := by
          simpa [Operand.leaf?, hr, Except.toOption] using hx
        rw [← hx']
        exact ⟨by simp, by simp [operandAction, hr]⟩
      | error e => exact absurd hx (by simp [Operand.leaf?, hr, Except.toOption])
    | number _ | string _ | boolean _ | nil | regex _ =>
      rw [← Option.some.inj hx]
      exact ⟨by simp, by simp [operandAction]⟩
    | _ => exact absurd hx (by simp [Operand.leaf?])
  | name => exact ⟨by simp, by simp [operandAction]⟩
  | openGroup hd => exact ⟨by simp, by simp [operandAction, hd]⟩
  | negate hn => exact ⟨by simp, by simp [operandAction, hn]⟩

/-- **The moves are the shifts of the parser.** -/
theorem exists_action_eq_shift_iff :
    (∃ shown depth, s.action base t = .shift next shown depth) ↔ Move base s t next := by
  constructor
  · rintro ⟨shown, depth, h⟩
    exact move_of_action h
  · intro h
    obtain ⟨levels, stage⟩ := s
    cases stage with
    | operand p => exact (exists_operandAction h).2
    | parenthesis p name =>
      cases h with
      | openCall => simp [action]
    | arguments p name =>
      cases h with
      | noArguments hd => simp [action, argumentsAction, Nat.not_le_of_lt hd]
      | firstArgument hd hm =>
        obtain ⟨ht, shown, depth, ha⟩ := exists_operandAction hm
        refine ⟨shown, depth, ?_⟩
        simp only [action, argumentsAction, if_neg (Nat.not_le_of_lt hd), if_neg ht]
        exact ha
    | operator p x =>
      cases h with
      | compare hop => simp [action, operatorAction, Token.operator?, hop]
      | @join _ _ _ op hop =>
        -- the parser looks for a comparison first, and no operator is of both kinds
        have hc : op.isComparison = false := Operator.isComparison_eq_false_of_isLogical hop
        simp [action, operatorAction, Token.operator?, hc, hop]
      | closeGroup => simp [action, operatorAction, closeAction, Token.operator?]
      | comma => simp [action, operatorAction, closeAction, Token.operator?]
      | closeCall => simp [action, operatorAction, closeAction, Token.operator?]

/-- A move never takes up the end mark. -/
theorem Move.ne_eof (h : Move base s t next) : t ≠ .eof := by
  rintro rfl
  obtain ⟨shown, depth, ha⟩ := exists_action_eq_shift_iff.mpr h
  exact action_eof_ne_shift _ _ _ _ _ ha

/-! ### Where the parser stops -/

/-- No expression ends where an operand is awaited. -/
theorem operandAction_ne_finish {depth : Nat} {levels : List Level} {p : Pending}
    {e : Expression} : operandAction depth levels p t ≠ .finish e := by
  intro h
  simp only [operandAction] at h
  split at h <;> (try split at h) <;> exact absurd h (by simp)

/-- A token that ends an expression closes its level. -/
theorem operatorAction_of_endsExpression {depth : Nat} {levels : List Level} {p : Pending}
    {x : Operand} (h : t.EndsExpression) :
    operatorAction depth levels p x t = closeAction depth levels (p.toExpression x) t := by
  rw [operatorAction]
  cases ht : t.operator? with
  | none => rfl
  | some op =>
    obtain ⟨hc, hl⟩ := h op ht
    simp [hc, hl]

/-- Only on the outermost level is an expression complete. -/
theorem closeAction_eq_finish_iff {depth : Nat} {levels : List Level} {d e : Expression} :
    closeAction depth levels d t = .finish e ↔ levels = [] ∧ d = e := by
  cases levels with
  | nil => simp [closeAction]
  | cons level rest =>
    cases level with
    | group outer =>
      simp only [closeAction]
      split <;> simp
    | call outer name arguments =>
      simp only [closeAction]
      split
      · simp
      · split <;> simp

/-- **The parser stops** behind an operand on the outermost level, when the token does not go on
with the expression. -/
theorem action_eq_finish_iff {e : Expression} :
    s.action base t = .finish e ↔
      ∃ p x, s = ⟨[], .operator p x⟩ ∧ e = p.toExpression x ∧ t.EndsExpression := by
  constructor
  · intro h
    obtain ⟨levels, stage⟩ := s
    cases stage with
    | operand p => exact absurd h operandAction_ne_finish
    | parenthesis p name =>
      simp only [action] at h
      split at h <;> exact absurd h (by simp)
    | arguments p name =>
      simp only [action, argumentsAction] at h
      split at h
      · exact absurd h (by simp)
      · split at h
        · exact absurd h (by simp)
        · exact absurd h operandAction_ne_finish
    | operator p x =>
      -- an operator that goes on with the expression would be shifted
      have hends : t.EndsExpression := by
        intro op hop
        simp only [action, operatorAction, hop] at h
        split at h
        · exact absurd h (by simp)
        · rename_i hc
          split at h
          · exact absurd h (by simp)
          · rename_i hl
            exact ⟨by simpa using hc, by simpa using hl⟩
      change operatorAction _ levels p x t = _ at h
      rw [operatorAction_of_endsExpression hends, closeAction_eq_finish_iff] at h
      obtain ⟨rfl, rfl⟩ := h
      exact ⟨p, x, rfl, rfl, hends⟩
  · rintro ⟨p, x, rfl, rfl, ht⟩
    change operatorAction _ [] p x t = _
    rw [operatorAction_of_endsExpression ht, closeAction_eq_finish_iff]
    exact ⟨rfl, rfl⟩

/-! ### Walks -/

/-- A walk of the parser along a list of tokens. -/
inductive Walk (base : Nat) : Progress → List Token → Progress → Prop
  | nil (s : Progress) : Walk base s [] s
  | cons {s next last : Progress} {t : Token} {ts : List Token} (h : Move base s t next)
      (hw : Walk base next ts last) : Walk base s (t :: ts) last

/-- A move is a walk of one token. -/
theorem Move.walk (h : Move base s t next) : Walk base s [t] next := .cons h (.nil _)

/-- Walks follow each other. -/
theorem Walk.append {s₁ s₂ s₃ : Progress} {ts us : List Token} (h : Walk base s₁ ts s₂)
    (h' : Walk base s₂ us s₃) : Walk base s₁ (ts ++ us) s₃ := by
  induction h with
  | nil s => exact h'
  | cons hm _ ih => exact .cons hm (ih h')

end Progress

/-! ### Runs are walks -/

/-- A lexer with the token taken from it in advance gives a list of tokens, and is then left as
another lexer with another token. -/
inductive Lexer.Gives : Lexer → Token → List Token → Lexer → Token → Prop
  | nil (l : Lexer) (t : Token) : Gives l t [] l t
  | cons {l next last : Lexer} {t u v : Token} {ts : List Token} (h : l.next = (.ok u, next))
      (hg : Gives next u ts last v) : Gives l t (t :: ts) last v

namespace Parser

open Progress

variable {base : Nat} {s : Progress} {lexer : Lexer} {current : Token}

/-- A run whose token fails. -/
theorem run_of_fail {e : ParseError} {shown : Token} {depth : Nat}
    (h : s.action base current = .fail e shown depth) :
    run base s lexer current = (.error e, ⟨lexer, shown, depth⟩) := by
  rw [run]
  split <;> simp_all

/-- A run whose token ends the expression. -/
theorem run_of_finish {e : Expression} (h : s.action base current = .finish e) :
    run base s lexer current = (.ok e, ⟨lexer, current, base⟩) := by
  rw [run]
  split <;> simp_all

/-- A run whose token is taken goes on with the next one. -/
theorem run_of_shift {next : Progress} {shown : Token} {depth : Nat}
    (h : s.action base current = .shift next shown depth) :
    run base s lexer current = match lexer.next with
      | (.error e, lexer') => (.error (.lex e), ⟨lexer', shown, depth⟩)
      | (.ok t, lexer') => run base next lexer' t := by
  rw [run]
  split
  · simp_all
  · simp_all
  · rename_i hs
    obtain ⟨rfl, rfl, rfl⟩ := Action.shift.inj (h.symm.trans hs)
    split <;> rename_i hn <;> rw [hn]

/-- **A run that succeeds is a walk** along the tokens that the lexer gives, up to a place where
the parser stops. -/
theorem run_eq_ok_iff {e : Expression} {p : Parser} :
    run base s lexer current = (.ok e, p) ↔
      ∃ ts last, Walk base s ts last ∧ lexer.Gives current ts p.lexer p.current ∧
        last.action base p.current = .finish e ∧ p.depth = base := by
  constructor
  · -- along the parser's own recursion, one move for each token
    intro h
    induction s, lexer, current using run.induct base with
    | case1 s lexer current e' shown depth ha =>
      rw [run_of_fail ha] at h
      exact absurd h (by simp)
    | case2 s lexer current e' ha =>
      rw [run_of_finish ha] at h
      obtain ⟨he, rfl⟩ := Prod.mk.inj h
      obtain rfl := Except.ok.inj he
      exact ⟨[], s, .nil s, .nil lexer current, ha, rfl⟩
    | case3 s lexer current next shown depth ha e' lexer' hn =>
      rw [run_of_shift ha, hn] at h
      exact absurd h (by simp)
    | case4 s lexer current next shown depth ha t lexer' hn ih =>
      rw [run_of_shift ha, hn] at h
      obtain ⟨ts, last, hw, hg, hf, hd⟩ := ih h
      exact ⟨current :: ts, last, .cons (move_of_action ha) hw, .cons hn hg, hf, hd⟩
  · -- along the walk, the run takes up what the lexer gives
    rintro ⟨ts, last, hw, hg, ha, hd⟩
    obtain ⟨lexer', current', depth⟩ := p
    subst hd
    induction hw generalizing lexer current with
    | nil s =>
      cases hg
      exact run_of_finish ha
    | cons hm _ ih =>
      obtain ⟨shown, depth, hs⟩ := exists_action_eq_shift_iff.mpr hm
      cases hg with
      | cons hn hg =>
        rw [run_of_shift hs, hn]
        exact ih hg ha

end Parser

end Criteria
