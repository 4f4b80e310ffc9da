import Criteria.Expression.Basic
import Criteria.Number.Layout
import Criteria.Text.Outline
import Criteria.Text.Quoted

/-!
# Outlines of expressions

An expression is shown with every node of its tree by name. Chains are shown as their first term
and the list of the operators and terms behind it.
-/

namespace Criteria

/-- The name of an operator in outlines. -/
def Operator.title : Operator → String
  | not => "Not"
  | less => "LessThan"
  | lessEqual => "LessEqual"
  | greater => "GreaterThan"
  | greaterEqual => "GreaterEqual"
  | equal => "Equal"
  | notEqual => "NotEqual"
  | and => "And"
  | or => "Or"

/-- The outline of an operator, its title. -/
def Operator.outline (op : Operator) : Outline := .leaf op.title

/-- The outline of an index. -/
def Index.outline : Index → Outline
  | key field => .wrapped "Key" (.leaf (quoted field))
  | position n => .wrapped "Position" (.leaf (toString n))

/-- The outline of a segment of a path. -/
def Segment.outline (s : Segment) : Outline :=
  .record "PathSegment"
    [("key", .leaf (quoted s.key)), ("index", .option (s.index.map Index.outline))]

/-- A logical operator with the comparison behind it. -/
def Outline.logicalTerm (op : Operator) (term : Outline) : Outline :=
  .record "LogicalTerm" [("operator", op.outline), ("term", term)]

/-- A chain as its first term and the list of what is behind it. -/
def Outline.chain (name : String) (parts : Outline × List Outline) : Outline :=
  .record name [("left", parts.1), ("right", .list parts.2)]

/-- A term with its operator, if it has one. -/
def Outline.unaryTerm (op : Option Operator) (operand : Outline) : Outline :=
  .record "UnaryTerm" [("operator", .option (op.map Operator.outline)), ("operand", operand)]

mutual

/-- The outline of an expression. -/
def Expression.outline (e : Expression) : Outline := .chain "Expression" (e.outlines [])

/-- The first comparison, and what is behind it before a list. -/
def Expression.outlines : Expression → List Outline → Outline × List Outline
  | .term t, rest => (t.outline, rest)
  | .chain left op right, rest =>
    Expression.outlines left (.logicalTerm op right.outline :: rest)

/-- The outline of a comparison. -/
def Comparison.outline (c : Comparison) : Outline := .chain "ComparisonTerm" (c.outlines [])

/-- The first term, and what is behind it before a list. -/
def Comparison.outlines : Comparison → List Outline → Outline × List Outline
  | .term t, rest => (t.outline, rest)
  | .chain left op right, rest =>
    Comparison.outlines left (.pair op.outline right.outline :: rest)

/-- The outline of an operand with the operator before it, if there is one. -/
def Unary.outline : Unary → Outline
  | .plain x => .unaryTerm none x.outline
  | .applied op x => .unaryTerm (some op) x.outline

/-- The outline of an operand. -/
def Operand.outline : Operand → Outline
  | .number x => .wrapped "Number" (.leaf (NumberLayout.plain.write x))
  | .string s => .wrapped "String" (.leaf (quoted s))
  | .boolean b => .wrapped "Boolean" (.leaf (if b then "true" else "false"))
  | .nil => .leaf "Nil"
  | .regex pattern => .wrapped "Regex" (.leaf (quoted pattern))
  | .reference text path =>
    .wrapped "Variable" (.record "Variable"
      [("path", .leaf (quoted text)), ("segments", .list (path.map Segment.outline))])
  | .call name arguments =>
    .wrapped "Function" (.record "FunctionCall"
      [("name", .leaf (quoted name)), ("args", .list (Operand.argumentOutlines arguments))])
  | .group e => .wrapped "Subexpression" e.outline

/-- The outlines of the arguments of a call. -/
def Operand.argumentOutlines : List Expression → List Outline
  | [] => []
  | e :: rest => e.outline :: Operand.argumentOutlines rest

end

end Criteria
