import Criteria.Proofs.Grammar.Composition
import Criteria.Proofs.Grammar.Failure
import Criteria.Proofs.Token.Respelling
import Mathlib

/-!
# Where the parser gives up

Some tokens are **viable** if a text that can be read begins with them (`Criteria.IsViable`). A
parser that goes from token to token could report the first one with which they are viable no
longer. It does, apart from one place: the parenthesis of a call opens a level, and whether there
may be one more is not asked before the name of the function has been taken up, although then
nothing but a parenthesis can follow it. There the report comes one token late
(`Criteria.unexpected_token_is_reported_first`).

* From wherever a walk has led, there is a walk on to the end of an expression: an operand if one is
  wanted, the parentheses of a call, and a parenthesis for each open level
  (`Criteria.Progress.exists_walk_of_completable`). The tokens of both walks are those of some text,
  since those of the first one came from a text and the others are known.
* Walks are determined by their tokens, so the tokens of a text that can be read lead through the
  same progress, and on from there (`Criteria.Progress.Walk.of_append`).
-/

namespace Criteria

/-- **A text that can be read begins with these tokens**; the end of the text is the last one of its
tokens. -/
def IsViable (ts : List Token) : Prop :=
  ∃ text e, parse text = .ok e ∧ ts.map .ok <+: (Lexer.ofText text).readAll

namespace Progress

variable {base : Nat} {s next next' last last' : Progress} {t : Token} {ts us : List Token}

/-! ### Walks are determined by their tokens -/

/-- A token leads to one progress at most. -/
theorem Move.unique (h : Move base s t next) (h' : Move base s t next') : next = next' := by
  obtain ⟨shown, depth, ha⟩ := exists_action_eq_shift_iff.mpr h
  obtain ⟨shown', depth', ha'⟩ := exists_action_eq_shift_iff.mpr h'
  exact (Action.shift.inj (ha.symm.trans ha')).1

/-- Where a token is not taken up, there is no move. -/
theorem not_move (h : ∀ next shown depth, s.action base t ≠ .shift next shown depth)
    (next : Progress) : ¬ Move base s t next := by
  intro hm
  obtain ⟨shown, depth, ha⟩ := exists_action_eq_shift_iff.mpr hm
  exact h next shown depth ha

/-- Of two walks from one progress, a longer one goes on where the shorter one ends. -/
theorem Walk.of_append (h : Walk base s ts last) (h' : Walk base s (ts ++ us) last') :
    Walk base last us last' := by
  induction h with
  | nil s => exact h'
  | cons hm _ ih =>
    cases h' with
    | cons hm' hw' =>
      obtain rfl := hm.unique hm'
      exact ih hw'

/-! ### Walks to the end of an expression -/

/-- If the argument list of a call has to come, its level may still be opened. -/
def Completable (base : Nat) (s : Progress) : Prop :=
  match s.stage with
  | .operand _ | .operator _ _ => True
  | .parenthesis _ _ | .arguments _ _ => base + s.levels.length < nestingLimit

/-- Behind an operand, a parenthesis for each level leads to the end. -/
theorem exists_walk_of_operator (levels : List Level) (p : Pending) (x : Operand) :
    ∃ q y, Walk base ⟨levels, .operator p x⟩ (List.replicate levels.length .rightParen)
      ⟨[], .operator q y⟩ := by
  induction levels generalizing p x with
  | nil => exact ⟨p, x, .nil _⟩
  | cons level levels ih =>
    cases level with
    | group outer =>
      obtain ⟨q, y, hw⟩ := ih outer (.group (p.toExpression x))
      exact ⟨q, y, .cons .closeGroup hw⟩
    | call outer name arguments =>
      obtain ⟨q, y, hw⟩ := ih outer (.call name (p.toExpression x :: arguments).reverse)
      exact ⟨q, y, .cons .closeCall hw⟩

/-- The tokens that complete an expression. -/
def completion (s : Progress) : List Token :=
  let closing := List.replicate s.levels.length Token.rightParen
  match s.stage with
  | .operand _ => .nil :: closing
  | .parenthesis _ _ => .leftParen :: .rightParen :: closing
  | .arguments _ _ => .rightParen :: closing
  | .operator _ _ => closing

/-- **An expression can be completed** from wherever a walk has led. -/
theorem exists_walk_of_completable (h : s.Completable base) :
    ∃ q y, Walk base s s.completion ⟨[], .operator q y⟩ := by
  obtain ⟨levels, stage⟩ := s
  cases stage with
  | operand p =>
    obtain ⟨q, y, hw⟩ := exists_walk_of_operator levels p .nil
    exact ⟨q, y, .cons (.leaf rfl) hw⟩
  | parenthesis p name =>
    obtain ⟨q, y, hw⟩ := exists_walk_of_operator levels p (.call name [])
    exact ⟨q, y, .cons .openCall (.cons (.noArguments h) hw)⟩
  | arguments p name =>
    obtain ⟨q, y, hw⟩ := exists_walk_of_operator levels p (.call name [])
    exact ⟨q, y, .cons (.noArguments h) hw⟩
  | operator p x => exact exists_walk_of_operator levels p x

/-- What completes a progress is made of nils and parentheses. -/
theorem mem_completion (h : t ∈ s.completion) : t = .nil ∨ t = .leftParen ∨ t = .rightParen := by
  obtain ⟨levels, stage⟩ := s
  have hclosing : t ∈ List.replicate levels.length Token.rightParen → t = .rightParen :=
    List.eq_of_mem_replicate
  cases stage with
  | operand p | arguments p name =>
    rcases List.mem_cons.mp h with rfl | h
    · simp
    · exact .inr (.inr (hclosing h))
  | parenthesis p name =>
    rcases List.mem_cons.mp h with rfl | h
    · simp
    · rcases List.mem_cons.mp h with rfl | h
      · simp
      · exact .inr (.inr (hclosing h))
  | operator p x => exact .inr (.inr (hclosing h))

/-- The tokens that complete an expression can be read. -/
theorem exists_isReadAs_of_mem_completion (h : t ∈ s.completion) : ∃ word, IsReadAs word [t] := by
  rcases mem_completion h with rfl | rfl | rfl
  · exact ⟨_, .singleton (by simp) (Lexeme.read_nil .nil)⟩
  · exact ⟨_, (IsReadAs.nil .nil).leftParen⟩
  · exact ⟨_, (IsReadAs.nil .nil).rightParen⟩

/-- Parentheses open levels, up to the limit. -/
theorem walk_leftParens {n : Nat} (levels : List Level)
    (h : base + levels.length + n ≤ nestingLimit) :
    ∃ opened, Walk base ⟨levels, .operand .empty⟩ (List.replicate n .leftParen)
      ⟨opened, .operand .empty⟩ ∧ opened.length = levels.length + n := by
  induction n generalizing levels with
  | zero => exact ⟨levels, .nil _, rfl⟩
  | succ n ih =>
    have hlength : base + (Level.group .empty :: levels).length + n ≤ nestingLimit := by
      rw [List.length_cons]
      omega
    obtain ⟨opened, hw, hopened⟩ := ih (.group .empty :: levels) hlength
    refine ⟨opened, .cons (.openGroup (by omega)) hw, ?_⟩
    rw [hopened, List.length_cons]
    omega

/-! ### Viable tokens -/

/-- **The tokens of a walk are viable**, if an expression can be completed from where it leads. -/
theorem Walk.isViable (h : Walk 0 start ts last) (hlast : last.Completable 0)
    (hread : ∀ t ∈ ts, ∃ word, IsReadAs word [t]) : IsViable ts := by
  obtain ⟨q, y, hw⟩ := exists_walk_of_completable hlast
  obtain ⟨htokens, hfits⟩ := (h.append hw).sound
  have hall : ∀ t ∈ ts ++ last.completion, ∃ word, IsReadAs word [t] :=
    List.forall_mem_append.mpr ⟨hread, fun _ => exists_isReadAs_of_mem_completion⟩
  obtain ⟨cs, hcs⟩ := exists_isReadAs hall
  have hcs' : IsReadAs (String.ofList cs).toList (ts ++ last.completion) := by
    rwa [String.toList_ofList]
  refine ⟨String.ofList cs, q.toExpression y, ?_, ?_⟩
  · rw [parse_eq_ok_iff_parse, Expression.parse_eq_ok_iff_isReadAs, htokens]
    exact ⟨hfits, hcs'⟩
  · have hreadAll : (Lexer.ofText (String.ofList cs)).readAll =
        (ts ++ last.completion ++ [Token.eof]).map .ok :=
      Lexer.readAll_eq_iff_isReadAs.mpr hcs'
    rw [hreadAll, List.append_assoc, List.map_append]
    exact List.prefix_append _ _

/-- A text that begins with viable tokens is read along a walk. -/
theorem exists_walk_of_isViable (h : IsViable ts) :
    ∃ us p x, Walk 0 start us ⟨[], .operator p x⟩ ∧ ts <+: us ++ [.eof] := by
  obtain ⟨text, e, he, hprefix⟩ := h
  obtain ⟨hread, hfits⟩ := (parse_eq_ok_iff text e).mp he
  obtain ⟨p, x, hw, -⟩ := walk_expression 0 [] e hfits
  rw [hread] at hprefix
  refine ⟨e.tokens, p, x, hw, ?_⟩
  exact (List.prefix_map_iff_of_injective fun _ _ => Except.ok.inj).mp hprefix

/-- If the tokens of a walk are viable together with further ones, these go on where it leads. -/
theorem Walk.go_on_of_isViable (h : Walk 0 start ts last) (hv : IsViable (ts ++ us))
    (heof : Token.eof ∉ us) : ∃ vs p x, Walk 0 last (us ++ vs) ⟨[], .operator p x⟩ := by
  obtain ⟨ws, p, x, hw, hprefix⟩ := exists_walk_of_isViable hv
  rcases List.prefix_concat_iff.mp hprefix with heq | ⟨vs, rfl⟩
  · have hmem : Token.eof ∈ ts ++ us := heq ▸ List.mem_append_right _ (List.mem_singleton_self _)
    exact absurd hmem (List.not_mem_append h.eof_notMem heof)
  · rw [List.append_assoc] at hw
    exact ⟨vs, p, x, h.of_append hw⟩

/-- If they are viable together with the end, they lead to the end of an expression. -/
theorem Walk.eq_of_isViable_eof (h : Walk 0 start ts last) (hv : IsViable (ts ++ [.eof])) :
    ∃ p x, last = ⟨[], .operator p x⟩ := by
  obtain ⟨ws, p, x, hw, hprefix⟩ := exists_walk_of_isViable hv
  rcases List.prefix_concat_iff.mp hprefix with heq | ⟨vs, rfl⟩
  · obtain rfl := List.append_cancel_right heq
    have hnil : Walk 0 start (ts ++ []) ⟨[], .operator p x⟩ := by rwa [List.append_nil]
    cases Walk.of_append h hnil
    exact ⟨p, x, rfl⟩
  · exact absurd (by simp) hw.eof_notMem

/-- **A token that does not go on where a walk has led makes its tokens viable no longer.** -/
theorem Walk.not_isViable_concat (h : Walk 0 start ts last) (ht : ∀ next, ¬ Move 0 last t next)
    (heof : t = .eof → ∀ e, last.action 0 t ≠ .finish e) : ¬ IsViable (ts ++ [t]) := by
  intro hv
  by_cases hteof : t = .eof
  · subst hteof
    obtain ⟨p, x, rfl⟩ := h.eq_of_isViable_eof hv
    exact heof rfl _ rfl
  · obtain ⟨vs, p, x, hw⟩ := h.go_on_of_isViable hv (by simpa using Ne.symm hteof)
    cases hw with
    | cons hm _ => exact ht _ hm

/-- A parenthesis of a call is wanted behind the name of the function. -/
theorem Walk.exists_of_parenthesis (h : Walk 0 start ts last) {p : Pending} {name : String}
    (hs : last.stage = .parenthesis p name) : ∃ front, ts = front ++ [.function name] :=
  List.getLast?_eq_some_iff.mp (h.stage_eq_parenthesis_iff.mp ⟨p, hs⟩)

/-- The name of a function stands where an operand may stand. -/
theorem Move.completable_of_function {name : String} (h : Move base s (.function name) next) :
    s.Completable base := by
  cases h with
  | leaf _ | name => trivial
  | firstArgument hd _ => exact hd

/-- **Nothing can follow the name of a function where no level may be opened.** -/
theorem Walk.not_isViable_of_parenthesis (h : Walk 0 start ts last) {p : Pending} {name : String}
    (hs : last.stage = .parenthesis p name) (hd : nestingLimit ≤ last.levels.length) :
    ¬ IsViable ts := by
  intro hv
  rw [← List.append_nil ts] at hv
  obtain ⟨vs, q, x, hw⟩ := h.go_on_of_isViable hv (by simp)
  obtain ⟨levels, stage⟩ := last
  obtain rfl : stage = .parenthesis p name := hs
  have hroom : ¬ 0 + levels.length < nestingLimit := by simpa using hd
  -- the parenthesis of the call is taken up, but nothing behind it
  cases hw with
  | cons hm hw =>
    cases hm
    cases hw with
    | cons hm _ =>
      cases hm with
      | noArguments hlt => exact hroom hlt
      | firstArgument hlt _ => exact hroom hlt

end Progress

namespace Parser

open Progress

/-- **Where a whole text is given up for a token**: behind a walk, at a token that does not go on
with it. The parenthesis of a call is wanted where it has to come. -/
theorem exists_walk_of_unexpectedToken {p q : Parser} {wanted : Wanted} {found : Token}
    (h : p.parse = (.error (.unexpectedToken wanted found), q)) :
    ∃ ts last, Walk p.depth .start ts last ∧ p.lexer.Gives p.current ts q.lexer found ∧
      (∀ next, ¬ Move p.depth last found next) ∧
      (found = .eof → ∀ e, last.action p.depth found ≠ .finish e) ∧
      (wanted = .leftParen ↔ ∃ p name, last.stage = .parenthesis p name) ∧
      last.HasRoom p.depth := by
  rcases parse_eq_error h with hr | ⟨tree, hr, hne, he⟩
  · obtain ⟨ts, last, l, t, hw, hg, hf⟩ := run_eq_error_iff.mp hr
    cases hf with
    | refused ha =>
      cases refuses_of_action ha with
      | token hwanted hroom =>
        exact ⟨ts, last, hw, hg, not_move (by simp [ha]), fun _ e => by simp [ha], hwanted, hroom⟩
  · obtain ⟨ts, last, hw, hg, ha, -⟩ := run_eq_ok_iff.mp hr
    obtain ⟨rfl, rfl⟩ := ParseError.unexpectedToken.inj he
    have hstays : ∀ next, ¬ Move p.depth last q.current next := not_move (by simp [ha])
    -- the expression has come to its end, so no parenthesis of a call is wanted
    obtain ⟨p', x, rfl, -⟩ := action_eq_finish_iff.mp ha
    exact ⟨ts, _, hw, hg, hstays, fun heof => absurd heof hne, by simp, by simp [HasRoom]⟩

/-- A text of which a token is not what was wanted has a parser that comes to this token. -/
theorem exists_parse_of_unexpectedToken {text : String} {wanted : Wanted} {found : Token}
    (h : Criteria.parse text = .error (.parse (.unexpectedToken wanted found))) :
    ∃ p q, ofText text = .ok p ∧ p.parse = (.error (.unexpectedToken wanted found), q) := by
  rw [Criteria.parse, Expression.parse] at h
  split at h
  · rename_i e he
    rw [ofText] at he
    split at he
    · obtain rfl := Except.error.inj he
      cases h
    · cases he
  · rename_i p hp
    rcases hq : p.parse with ⟨e | tree, q⟩
    · rw [hq] at h
      obtain rfl : e = .unexpectedToken wanted found := Error.parse.inj (Except.error.inj h)
      exact ⟨p, q, hp, hq⟩
    · rw [hq] at h
      cases h

end Parser

open Progress in
/-- **The first token that cannot be in its place is reported**, with one exception. If a text is
not read since a token is not what was wanted, this token is the last one that was asked of the
lexer. Together with those before it, it is not viable. Those before it are, unless what was wanted
is the parenthesis of a call where as many levels are open as there may be: then the name of the
function should have been reported, and they are viable up to this name. -/
theorem unexpected_token_is_reported_first {text : String} {wanted : Wanted} {found : Token}
    (h : parse text = .error (.parse (.unexpectedToken wanted found))) :
    ∃ ts p q, Parser.ofText text = .ok p ∧
      p.parse = (.error (.unexpectedToken wanted found), q) ∧
      Token.eof ∉ ts ∧ p.lexer.Gives p.current ts q.lexer found ∧ ¬ IsViable (ts ++ [found]) ∧
      if wanted = .leftParen ∧ ts.count .leftParen = ts.count .rightParen + nestingLimit then
        ∃ front name, ts = front ++ [.function name] ∧ IsViable front ∧ ¬ IsViable ts
      else IsViable ts := by
  obtain ⟨p, q, hp, hq⟩ := Parser.exists_parse_of_unexpectedToken h
  obtain ⟨hnext, hdepth⟩ := Parser.eq_of_ofText hp
  obtain ⟨ts, last, hw, hg, hmove, heof, hwanted, hroom⟩ := Parser.exists_walk_of_unexpectedToken hq
  rw [hdepth] at hw hmove heof hroom
  have hread : ∀ t ∈ ts, ∃ word, IsReadAs word [t] := hg.exists_isReadAs hnext hw.eof_notMem
  have hle : 0 + last.levels.length ≤ nestingLimit := hw.levels_le_of_start
  have hunclosed := hw.unclosed_of_start
  refine ⟨ts, p, q, hp, hq, hw.eof_notMem, hg, hw.not_isViable_concat hmove heof, ?_⟩
  split
  · -- the parenthesis of a call is wanted on the last level that there may be
    rename_i hlate
    obtain ⟨hparen, hcount⟩ := hlate
    obtain ⟨pending, name, hstage⟩ := hwanted.mp hparen
    have hfull : nestingLimit ≤ last.levels.length := by
      rw [unclosed, hstage] at hunclosed
      simp only at hunclosed
      omega
    obtain ⟨front, rfl⟩ := hw.exists_of_parenthesis hstage
    obtain ⟨mid, hmid, hname⟩ := hw.exists_of_concat
    refine ⟨front, name, rfl, ?_, hw.not_isViable_of_parenthesis hstage hfull⟩
    exact hmid.isViable hname.completable_of_function fun t ht =>
      hread t (List.mem_append_left _ ht)
  · rename_i hearly
    refine hw.isViable ?_ hread
    obtain ⟨levels, stage⟩ := last
    cases stage with
    | operand _ | operator _ _ => trivial
    | arguments pending name => exact hroom pending name rfl
    | parenthesis pending name =>
      have hparen : wanted = .leftParen := hwanted.mpr ⟨pending, name, rfl⟩
      have hcount : levels.length + ts.count .rightParen = ts.count .leftParen := hunclosed
      change 0 + levels.length < nestingLimit
      change 0 + levels.length ≤ nestingLimit at hle
      have hne : ts.count .leftParen ≠ ts.count .rightParen + nestingLimit :=
        fun hfull => hearly ⟨hparen, hfull⟩
      omega

/-- Below the limit a parenthesis can follow the name of a function, so it is missed in time. -/
theorem missing_parenthesis_is_reported_in_time :
    parse "@len" = .error (.parse (.unexpectedToken .leftParen .eof)) ∧
      IsViable [.function "@len"] ∧ ¬ IsViable [.function "@len", .eof] := by
  have h : parse "@len" = .error (.parse (.unexpectedToken .leftParen .eof)) := by cbv
  obtain ⟨ts, p, q, hp, -, heof, hg, hnot, hviable⟩ := unexpected_token_is_reported_first h
  obtain ⟨hnext, -⟩ := Parser.eq_of_ofText hp
  have hname : (Lexer.ofText "@len").next = (.ok (.function "@len"), ⟨4, []⟩) := by
    with_unfolding_all rfl
  rw [hname] at hnext
  obtain ⟨hcurrent, hlexer⟩ := Prod.mk.inj hnext
  rw [← Except.ok.inj hcurrent, ← hlexer] at hg
  -- the lexer has given the name and the end
  obtain rfl : ts = [.function "@len"] := by
    generalize q.lexer = l at hg
    cases hg with
    | cons hn hg =>
      cases hn
      cases hg with
      | nil => rfl
      | cons _ _ => simp at heof
  exact ⟨h, hviable, hnot⟩

/-- Opening parentheses are read as what they are, whatever follows. -/
theorem IsReadAs.leftParens {cs : List Char} {ts : List Token} (h : IsReadAs cs ts) (n : Nat) :
    IsReadAs (List.replicate n '(' ++ cs) (List.replicate n .leftParen ++ ts) := by
  induction n with
  | zero => exact h
  | succ n ih => exact ih.leftParen

set_option maxRecDepth 4000 in
/-- Where no level may be opened, the name of a function is taken up although nothing can follow
it. -/
theorem function_name_is_reported_late :
    let text := String.ofList (List.replicate 64 '(') ++ "@f"
    let ts := List.replicate 64 Token.leftParen ++ [.function "@f"]
    parse text = .error (.parse (.unexpectedToken .leftParen .eof)) ∧
      (Lexer.ofText text).readAll = (ts ++ [Token.eof]).map .ok ∧ ¬ IsViable ts := by
  intro text ts
  have hparse : parse text = .error (.parse (.unexpectedToken .leftParen .eof)) := by cbv
  have hfunction : isFunctionName "@f" = true := rfl
  have hname : IsReadAs "@f".toList [.function "@f"] :=
    .singleton (by simp) fun position => by
      have hread := Lexeme.read_function hfunction .nil position
      rwa [List.append_nil] at hread
  have hread : (Lexer.ofText text).readAll = (ts ++ [Token.eof]).map .ok := by
    have htext : text.toList = List.replicate 64 '(' ++ "@f".toList := by
      rw [String.toList_append, String.toList_ofList]
    have hlexed : IsReadAs text.toList ts := htext ▸ hname.leftParens 64
    exact Lexer.readAll_of_isReadAs hlexed
  have hlimit : 0 + ([] : List Level).length + 64 ≤ nestingLimit := Nat.le_refl 64
  obtain ⟨opened, hw, hopened⟩ := Progress.walk_leftParens [] hlimit
  have hwalk : Progress.Walk 0 .start ts ⟨opened, .parenthesis .empty "@f"⟩ :=
    hw.append Progress.Move.name.walk
  exact ⟨hparse, hread, hwalk.not_isViable_of_parenthesis rfl (Nat.le_of_eq hopened.symm)⟩

end Criteria
