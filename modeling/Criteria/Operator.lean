/-!
# Operators

The language has one operator in front of an operand, six **comparisons** and two **logical**
operators. Comparisons and logical operators join two terms, each on a level of its own.
-/

namespace Criteria

/-- An operator. -/
inductive Operator where
  | not
  | less
  | lessEqual
  | greater
  | greaterEqual
  | equal
  | notEqual
  | and
  | or
  deriving DecidableEq

namespace Operator

/-- How the operator is written. -/
def symbol : Operator → String
  | not => "!"
  | less => "<"
  | lessEqual => "<="
  | greater => ">"
  | greaterEqual => ">="
  | equal => "=="
  | notEqual => "!="
  | and => "&&"
  | or => "||"

/-- All operators. -/
def all : List Operator :=
  [not, less, lessEqual, greater, greaterEqual, equal, notEqual, and, or]

/-- The operator that is written as given. -/
def ofSymbol? (s : String) : Option Operator := all.find? (·.symbol == s)

/-- The operators that compare two operands. -/
def isComparison : Operator → Bool
  | less | lessEqual | greater | greaterEqual | equal | notEqual => true
  | not | and | or => false

/-- The operators that join two truth values. -/
def isLogical : Operator → Bool
  | and | or => true
  | _ => false

/-- The comparisons that ask for an order. -/
def isOrdering : Operator → Bool
  | less | lessEqual | greater | greaterEqual => true
  | _ => false

/-- No operator is on two levels. -/
theorem isComparison_eq_false_of_isLogical {op : Operator} (h : op.isLogical = true) :
    op.isComparison = false := by
  cases op <;> simp_all [isComparison, isLogical]

end Operator

end Criteria
