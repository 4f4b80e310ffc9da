import Criteria.Proofs.Grammar.Flattening
import Criteria.Function.Table
import Criteria.Path.Reader

/-!
# Writing trees down

How a tree is written, as opposed to how a text is read. A token has one or more **spellings**
(`Criteria.Token.Spells`): a string stands in double quotes with its quotes and backslashes
escaped, a pattern stands between slashes with its slashes escaped, and a number may be given by any
numeral that denotes it. A text is a **writing** of a tree if it consists of spellings of the tokens
of the tree, in their order, with blanks between each two of them
(`Criteria.Expression.IsWrittenAs`).

Not every tree made by hand can be written: names have to be names, and a variable has to hold the
segments that its text is made of (`Criteria.Operand.IsWritable`).
-/

namespace Criteria

/-! ### Escapes -/

/-- The contents of a string as they stand between quotes. -/
def escapeString (cs : List Char) : List Char :=
  cs.flatMap fun c => if c = '"' || c = '\\' then ['\\', c] else [c]

/-- A pattern as it stands between slashes. -/
def escapePattern (cs : List Char) : List Char :=
  cs.flatMap fun c => if c = '/' then ['\\', c] else [c]

/-! ### Numerals -/

/-- The numerals of the language: a sign that may be left out, digits, and a point with digits
behind it; one of the two runs of digits may be left out. -/
structure IsNumeral (literal : List Char) : Prop where
  exists_parts : ∃ sign whole fraction : List Char,
    literal = sign ++ (whole ++ fraction) ∧
      (sign = [] ∨ sign = ['+'] ∨ sign = ['-']) ∧
      (∀ c ∈ whole, isDigit c = true) ∧
      (fraction = [] ∨ ∃ digits, fraction = '.' :: digits ∧ digits ≠ [] ∧
        ∀ c ∈ digits, isDigit c = true) ∧
      (whole ≠ [] ∨ fraction ≠ [])

/-- A numeral of the language denotes a number. -/
def Denotes (literal : List Char) (x : Binary64) : Prop :=
  IsNumeral literal ∧ ∃ n, Numeral.read? literal = some n ∧ n.value = x

/-! ### Spellings -/

/-- The ways to write a token. -/
inductive Token.Spells : Token → List Char → Prop
  | number {x : Binary64} {literal : List Char} (h : Denotes literal x) :
      Spells (.number x) literal
  | string (s : String) : Spells (.string s) ('"' :: (escapeString s.toList ++ ['"']))
  | boolean (b : Bool) : Spells (.boolean b) (if b then "true" else "false").toList
  | nil : Spells .nil "nil".toList
  | regex (pattern : String) :
      Spells (.regex pattern) ('/' :: (escapePattern pattern.toList ++ ['/']))
  | reference (path : String) : Spells (.reference path) ('$' :: path.toList)
  | function (name : String) : Spells (.function name) name.toList
  | operator (op : Operator) : Spells (.operator op) op.symbol.toList
  | leftParen : Spells .leftParen ['(']
  | rightParen : Spells .rightParen [')']
  | comma : Spells .comma [',']

/-- White space only. -/
def IsBlanks (cs : List Char) : Prop := ∀ c ∈ cs, isBlank c = true

theorem IsBlanks.nil : IsBlanks [] := fun _ h => absurd h (by simp)

theorem IsBlanks.space : IsBlanks [' '] := fun c hc => by rw [List.mem_singleton.mp hc]; rfl

/-- Spellings of some tokens, one behind the other, with blanks between each two of them. There may
be blanks behind the last one too. -/
inductive Written : List Token → List Char → Prop
  | nil : Written [] []
  | last {t : Token} {word blanks : List Char} (h : t.Spells word) (hb : IsBlanks blanks) :
      Written [t] (word ++ blanks)
  | cons {t u : Token} {ts : List Token} {word blanks rest : List Char} (h : t.Spells word)
      (hb : IsBlanks blanks) (hne : blanks ≠ []) (hw : Written (u :: ts) rest) :
      Written (t :: u :: ts) (word ++ (blanks ++ rest))

/-- **A text is a writing of an expression**: spellings of its tokens with blanks between them. -/
def Expression.IsWrittenAs (e : Expression) (text : String) : Prop :=
  ∃ blanks rest, text.toList = blanks ++ rest ∧ IsBlanks blanks ∧ Written e.tokens rest

/-! ### Trees that can be written -/

/-- A segment whose keys are made of key characters and whose position is below 2 ^ 64. -/
structure Segment.IsWellFormed (s : Segment) : Prop where
  key : ∀ c ∈ s.key.toList, isKeyChar c = true
  field : ∀ field, s.index = some (.key field) →
    field.toList ≠ [] ∧ ∀ c ∈ field.toList, isKeyChar c = true
  position : ∀ n, s.index = some (.position n) → n < 0x10000000000000000
  nonempty : s.key.toList ≠ [] ∨ s.index ≠ none

/-- An operand of which the parts that are no operands themselves can be written. -/
def Operand.IsWritable : Operand → Prop
  | .number x => ∃ literal, Denotes literal x
  | .regex pattern => pattern.toList.getLast? ≠ some '\\'
  | .reference text path => text = Path.text path ∧ ∀ s ∈ path, s.IsWellFormed
  | .call name _ => isFunctionName name = true
  | _ => True

end Criteria
