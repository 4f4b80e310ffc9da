import Criteria.Number.Layout
import Criteria.Operator
import Criteria.Text.Quoted

/-!
# Tokens

The words that a criterion is made of. Texts are held as they are meant, with escapes resolved;
a variable is held without its sign, a function with it.
-/

namespace Criteria

/-- A token, or the end of the text. -/
inductive Token where
  | number (x : Binary64)
  | string (s : String)
  | boolean (b : Bool)
  | nil
  /-- A pattern between slashes. -/
  | regex (pattern : String)
  /-- A variable, by the path behind its dollar sign. -/
  | reference (path : String)
  /-- A name with its at sign. -/
  | function (name : String)
  | operator (op : Operator)
  | leftParen
  | rightParen
  | comma
  | eof
  deriving DecidableEq

namespace Token

/-- The operator that a token is. -/
def operator? : Token → Option Operator
  | operator op => some op
  | _ => none

/-- How operators and punctuation are written; other tokens have no fixed spelling. -/
def symbol? : Token → Option String
  | operator op => some op.symbol
  | leftParen => some "("
  | rightParen => some ")"
  | comma => some ","
  | _ => none

/-- The name of a kind of token, as messages use it. Each operator is a kind of its own. -/
def kindName : Token → String
  | number _ => "Number"
  | string _ => "String"
  | boolean _ => "Boolean"
  | nil => "Nil"
  | regex _ => "Regex"
  | reference _ => "Variable"
  | function _ => "Function"
  | operator .not => "Exclamation"
  | operator .less => "Lt"
  | operator .lessEqual => "LtEq"
  | operator .greater => "Gt"
  | operator .greaterEqual => "GtEq"
  | operator .equal => "EqEq"
  | operator .notEqual => "NotEq"
  | operator .and => "And"
  | operator .or => "Or"
  | leftParen => "LParen"
  | rightParen => "RParen"
  | comma => "Comma"
  | eof => "Eof"

/-- The contents of a token in messages, for the tokens that have contents. -/
def contents? : Token → Option String
  | number x => some (NumberLayout.plain.write x)
  | string s => some (quoted s)
  | boolean b => some (if b then "true" else "false")
  | regex s => some (quoted s)
  | reference s => some (quoted s)
  | function s => some (quoted s)
  | _ => none

/-- The token as messages show it. -/
def describe (t : Token) : String :=
  match t.contents? with
  | some contents => t.kindName ++ "(" ++ contents ++ ")"
  | none => t.kindName

end Token

end Criteria
