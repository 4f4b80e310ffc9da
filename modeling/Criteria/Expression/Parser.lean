import Criteria.Expression.Basic
import Criteria.Path.Reader
import Criteria.Token.Lexer

/-!
# Parsing

A **parser** is a lexer with one token taken from it in advance, and a count of the parentheses
and argument lists that are open. Parsing goes from token to token: what has been read so far is
a stack of open *levels* with what is pending on each, and the next token decides how that grows,
shrinks or fails. Each token that is taken up is replaced by the next one of the lexer, so parsing
ends with the text.

A parser can be used again, also after an error. An error leaves the token that it is about, or
the end mark in place of a token that was taken up as an operand; levels that were open stay
counted.
-/

namespace Criteria

/-- What a parser wanted to see. -/
inductive Wanted where
  | value
  | leftParen
  | rightParen
  | eof
  deriving DecidableEq

/-- The name of what is wanted, as messages use it. -/
def Wanted.describe : Wanted → String
  | value => "a value"
  | leftParen => Token.leftParen.describe
  | rightParen => Token.rightParen.describe
  | eof => Token.eof.describe

/-- How many parentheses and argument lists may be open at once. -/
def nestingLimit : Nat := 64

/-- Why a text is not an expression. -/
inductive ParseError where
  | lex (e : LexError)
  | path (e : PathError)
  | unexpectedToken (wanted : Wanted) (found : Token)
  | nestingTooDeep
  deriving DecidableEq

/-- What is told about a text that is no expression. -/
def ParseError.message : ParseError → String
  | lex e => e.message
  | path e => e.message
  | unexpectedToken wanted found => "expected " ++ wanted.describe ++ ", got " ++ found.describe
  | nestingTooDeep => "expression nested deeper than " ++ toString nestingLimit ++ " levels"

/-! ### What has been read -/

/-- What stands before an operand on its own level: a chain of comparisons with a logical
operator, a chain of terms with a comparison operator, and a negation. -/
structure Pending where
  logical : Option (Expression × Operator)
  comparison : Option (Comparison × Operator)
  negated : Bool

namespace Pending

/-- Nothing stands before the operand. -/
def empty : Pending := ⟨none, none, false⟩

/-- An operand with the negation that waits for it. -/
def unary (p : Pending) (x : Operand) : Unary :=
  if p.negated then .applied .not x else .plain x

/-- The comparison that ends with an operand. -/
def toComparison (p : Pending) (x : Operand) : Comparison :=
  match p.comparison with
  | none => .term (p.unary x)
  | some (c, op) => .chain c op (p.unary x)

/-- The expression that ends with an operand. -/
def toExpression (p : Pending) (x : Operand) : Expression :=
  match p.logical with
  | none => .term (p.toComparison x)
  | some (e, op) => .chain e op (p.toComparison x)

/-- What is pending behind an operand and a comparison operator. -/
def compare (p : Pending) (x : Operand) (op : Operator) : Pending :=
  ⟨p.logical, some (p.toComparison x, op), false⟩

/-- What is pending behind an operand and a logical operator. -/
def join (p : Pending) (x : Operand) (op : Operator) : Pending :=
  ⟨some (p.toExpression x, op), none, false⟩

end Pending

/-- Open parentheses, with what is pending around them. -/
inductive Level where
  | group (outer : Pending)
  /-- The argument list of a call, with the complete arguments in reverse. -/
  | call (outer : Pending) (name : String) (arguments : List Expression)

/-- What comes next on the innermost level. -/
inductive Stage where
  /-- An operand, or a negation if there is none yet. -/
  | operand (p : Pending)
  /-- The parenthesis behind a function name. -/
  | parenthesis (p : Pending) (name : String)
  /-- The first argument of a call, or the end of the arguments. The level of the arguments is
  opened by the token that comes. -/
  | arguments (p : Pending) (name : String)
  /-- An operator, or the end of the level. -/
  | operator (p : Pending) (x : Operand)

/-- What has been read of an expression: the open levels, the innermost first. -/
structure Progress where
  levels : List Level
  stage : Stage

/-- Nothing has been read. -/
def Progress.start : Progress := ⟨[], .operand .empty⟩

/-- What a token does. The token that the parser shows until the next one has been read, and the
count of levels until then, matter if there is no next one. -/
inductive Action where
  | fail (e : ParseError) (shown : Token) (depth : Nat)
  | shift (next : Progress) (shown : Token) (depth : Nat)
  /-- The token does not belong to the expression, which is complete. -/
  | finish (e : Expression)

namespace Progress

/-- A token in the place of an operand, where `depth` levels are open. -/
def operandAction (depth : Nat) (levels : List Level) (p : Pending) (t : Token) : Action :=
  let complete (x : Operand) : Action := .shift ⟨levels, .operator p x⟩ .eof depth
  match t with
  | .number x => complete (.number x)
  | .string s => complete (.string s)
  | .boolean b => complete (.boolean b)
  | .nil => complete .nil
  | .regex pattern => complete (.regex pattern)
  | .reference text =>
    match Path.read text with
    | .ok path => complete (.reference text path)
    | .error e => .fail (.path e) .eof depth
  | .function name => .shift ⟨levels, .parenthesis p name⟩ .eof depth
  | .leftParen =>
    if depth < nestingLimit then .shift ⟨.group p :: levels, .operand .empty⟩ .eof (depth + 1)
    else .fail .nestingTooDeep .eof depth
  | .operator .not =>
    if p.negated then .fail (.unexpectedToken .value t) .eof depth
    else .shift ⟨levels, .operand { p with negated := true }⟩ t depth
  | t => .fail (.unexpectedToken .value t) .eof depth

/-- A token that does not continue a complete expression on its level. -/
def closeAction (depth : Nat) (levels : List Level) (e : Expression) (t : Token) : Action :=
  match levels with
  | [] => .finish e
  | .group outer :: rest =>
    if t = .rightParen then .shift ⟨rest, .operator outer (.group e)⟩ t depth
    else .fail (.unexpectedToken .rightParen t) t depth
  | .call outer name arguments :: rest =>
    if t = .comma then .shift ⟨.call outer name (e :: arguments) :: rest, .operand .empty⟩ t depth
    else if t = .rightParen then
      .shift ⟨rest, .operator outer (.call name (e :: arguments).reverse)⟩ t depth
    else .fail (.unexpectedToken .rightParen t) t depth

/-- A token in the place of an operator. -/
def operatorAction (depth : Nat) (levels : List Level) (p : Pending) (x : Operand) (t : Token) :
    Action :=
  match t.operator? with
  | some op =>
    if op.isComparison then .shift ⟨levels, .operand (p.compare x op)⟩ t depth
    else if op.isLogical then .shift ⟨levels, .operand (p.join x op)⟩ t depth
    else closeAction depth levels (p.toExpression x) t
  | none => closeAction depth levels (p.toExpression x) t

/-- A token behind the parenthesis of a call. -/
def argumentsAction (depth : Nat) (levels : List Level) (p : Pending) (name : String)
    (t : Token) : Action :=
  if nestingLimit ≤ depth then .fail .nestingTooDeep t depth
  else if t = .rightParen then .shift ⟨levels, .operator p (.call name [])⟩ t (depth + 1)
  else operandAction (depth + 1) (.call p name [] :: levels) .empty t

/-- What a token does, where `base` levels were counted before the expression. -/
def action (base : Nat) (s : Progress) (t : Token) : Action :=
  let depth := base + s.levels.length
  match s.stage with
  | .operand p => operandAction depth s.levels p t
  | .parenthesis p name =>
    if t = .leftParen then .shift ⟨s.levels, .arguments p name⟩ t depth
    else .fail (.unexpectedToken .leftParen t) t depth
  | .arguments p name => argumentsAction depth s.levels p name t
  | .operator p x => operatorAction depth s.levels p x t

/-- The end of the text is never taken up. -/
theorem action_eof_ne_shift (base : Nat) (s next : Progress) (shown : Token) (depth : Nat) :
    s.action base .eof ≠ .shift next shown depth := by
  obtain ⟨levels, stage⟩ := s
  cases stage with
  | operand p => simp [action, operandAction]
  | parenthesis p name => simp [action]
  | arguments p name =>
    simp only [action, argumentsAction]
    split
    · simp
    · simp [operandAction]
  | operator p x =>
    cases levels with
    | nil => simp [action, operatorAction, closeAction, Token.operator?]
    | cons level rest =>
      cases level <;> simp [action, operatorAction, closeAction, Token.operator?]

end Progress

/-! ### Parsers -/

/-- A lexer, the token taken from it in advance, and the count of open levels. -/
structure Parser where
  lexer : Lexer
  current : Token
  depth : Nat

namespace Parser

/-- How many tokens a parser can still take up at most. -/
def remaining (lexer : Lexer) (current : Token) : Nat :=
  if current = .eof then 0 else lexer.rest.length + 1

/-- A request at any other token than the end brings the end nearer. -/
theorem remaining_lt {lexer lexer' : Lexer} {current t : Token} (h : lexer.next = (.ok t, lexer'))
    (hne : current ≠ .eof) : remaining lexer' t < remaining lexer current := by
  simp only [remaining, if_neg hne]
  split
  · omega
  · rename_i ht
    have := Lexer.length_next_lt h ht
    omega

/-- Takes up tokens until the expression is complete or an error turns up. -/
def run (base : Nat) (s : Progress) (lexer : Lexer) (current : Token) :
    Except ParseError Expression × Parser :=
  match _ha : s.action base current with
  | .fail e shown depth => (.error e, ⟨lexer, shown, depth⟩)
  | .finish e => (.ok e, ⟨lexer, current, base⟩)
  | .shift next shown depth =>
    match _hn : lexer.next with
    | (.error e, lexer') => (.error (.lex e), ⟨lexer', shown, depth⟩)
    | (.ok t, lexer') => run base next lexer' t
termination_by remaining lexer current
decreasing_by
  refine remaining_lt _hn ?_
  rintro rfl
  exact Progress.action_eof_ne_shift _ _ _ _ _ _ha

/-- Reads one expression; the token behind it is the current one afterwards. -/
def parseExpression (p : Parser) : Except ParseError Expression × Parser :=
  run p.depth .start p.lexer p.current

/-- Reads one expression up to the end of the text. -/
def parse (p : Parser) : Except ParseError Expression × Parser :=
  match p.parseExpression with
  | (.error e, p') => (.error e, p')
  | (.ok e, p') =>
    if p'.current = .eof then (.ok e, p')
    else (.error (.unexpectedToken .eof p'.current), p')

/-- A parser at the beginning of a text. -/
def ofText (text : String) : Except ParseError Parser :=
  match (Lexer.ofText text).next with
  | (.error e, _) => .error (.lex e)
  | (.ok t, lexer) => .ok ⟨lexer, t, 0⟩

end Parser

/-- Reads a whole text as an expression. -/
def Expression.parse (text : String) : Except ParseError Expression :=
  match Parser.ofText text with
  | .error e => .error e
  | .ok p => p.parse.1

end Criteria
