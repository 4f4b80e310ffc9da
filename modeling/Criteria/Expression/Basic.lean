import Criteria.Number.Binary64
import Criteria.Operator
import Criteria.Path.Basic

/-!
# Expressions

An expression is a **chain** of comparisons joined by logical operators, a comparison a chain of
unary terms joined by comparison operators. Both kinds of chain grow at their right end, so a
chain is its last operator and term behind a shorter chain: `a || b && c` is `(a || b) && c`.

Trees made by hand may hold any operator in any place.
-/

namespace Criteria

mutual

/-- Comparisons joined by logical operators. -/
inductive Expression where
  | term (t : Comparison)
  | chain (left : Expression) (op : Operator) (right : Comparison)

/-- Unary terms joined by comparison operators. -/
inductive Comparison where
  | term (t : Unary)
  | chain (left : Comparison) (op : Operator) (right : Unary)

/-- An operand, or an operator applied to one. -/
inductive Unary where
  | plain (operand : Operand)
  | applied (op : Operator) (operand : Operand)

/-- What operators are applied to. -/
inductive Operand where
  | number (x : Binary64)
  | string (s : String)
  | boolean (b : Bool)
  | nil
  | regex (pattern : String)
  /-- A variable: its path as it was written, and the segments of the path. -/
  | reference (text : String) (path : List Segment)
  | call (name : String) (arguments : List Expression)
  /-- An expression in parentheses. -/
  | group (e : Expression)

end

instance : Inhabited Operand := ⟨.nil⟩

instance : Inhabited Unary := ⟨.plain default⟩

instance : Inhabited Comparison := ⟨.term default⟩

instance : Inhabited Expression := ⟨.term default⟩

/-! ### Chains as lists -/

namespace Comparison

/-- The term at the left end. -/
def first : Comparison → Unary
  | term t => t
  | chain left _ _ => left.first

/-- The operators with the terms behind them, put before a list. -/
def linksBefore : Comparison → List (Operator × Unary) → List (Operator × Unary)
  | term _, links => links
  | chain left op right, links => left.linksBefore ((op, right) :: links)

/-- The operators with the terms behind them, from left to right. -/
def links (c : Comparison) : List (Operator × Unary) := c.linksBefore []

/-- Continues a chain to the right. -/
def extend (c : Comparison) (links : List (Operator × Unary)) : Comparison :=
  links.foldl (fun c link => .chain c link.1 link.2) c

/-- What is collected stands before what was there. -/
theorem linksBefore_eq_append (c : Comparison) (links : List (Operator × Unary)) :
    c.linksBefore links = c.links ++ links := by
  match c with
  | term _ => rfl
  | chain left op right =>
    rw [Comparison.links, linksBefore, linksBefore, linksBefore_eq_append left,
      linksBefore_eq_append left [_]]
    simp

@[simp]
theorem links_chain (c : Comparison) (op : Operator) (t : Unary) :
    (chain c op t).links = c.links ++ [(op, t)] := by
  rw [links, linksBefore, linksBefore_eq_append]

/-- Links can be added in portions. -/
theorem extend_append (c : Comparison) (links more : List (Operator × Unary)) :
    c.extend (links ++ more) = (c.extend links).extend more :=
  List.foldl_append

/-- A chain is its first term, continued by its links. -/
theorem extend_links (c : Comparison) : (term c.first).extend c.links = c := by
  match c with
  | term _ => rfl
  | chain left op right =>
    rw [first, links_chain, extend_append, extend_links left]
    rfl

end Comparison

namespace Expression

/-- The comparison at the left end. -/
def first : Expression → Comparison
  | term t => t
  | chain left _ _ => left.first

/-- The operators with the comparisons behind them, put before a list. -/
def linksBefore : Expression → List (Operator × Comparison) → List (Operator × Comparison)
  | term _, links => links
  | chain left op right, links => left.linksBefore ((op, right) :: links)

/-- The operators with the comparisons behind them, from left to right. -/
def links (e : Expression) : List (Operator × Comparison) := e.linksBefore []

/-- Continues a chain to the right. -/
def extend (e : Expression) (links : List (Operator × Comparison)) : Expression :=
  links.foldl (fun e link => .chain e link.1 link.2) e

theorem linksBefore_eq_append (e : Expression) (links : List (Operator × Comparison)) :
    e.linksBefore links = e.links ++ links := by
  match e with
  | term _ => rfl
  | chain left op right =>
    rw [Expression.links, linksBefore, linksBefore, linksBefore_eq_append left,
      linksBefore_eq_append left [_]]
    simp

@[simp]
theorem links_chain (e : Expression) (op : Operator) (t : Comparison) :
    (chain e op t).links = e.links ++ [(op, t)] := by
  rw [links, linksBefore, linksBefore_eq_append]

theorem extend_append (e : Expression) (links more : List (Operator × Comparison)) :
    e.extend (links ++ more) = (e.extend links).extend more :=
  List.foldl_append

/-- A chain is its first comparison, continued by its links. -/
theorem extend_links (e : Expression) : (term e.first).extend e.links = e := by
  match e with
  | term _ => rfl
  | chain left op right =>
    rw [first, links_chain, extend_append, extend_links left]
    rfl

end Expression

/-! ### Equality

Trees are equal when they have the same shape and equal leaves, where numbers are compared
numerically. -/

mutual

/-- Whether two expressions are equal; a NaN among the literals is equal to nothing. -/
def Expression.equals : Expression → Expression → Bool
  | .term s, .term t => s.equals t
  | .chain d o s, .chain e p t => Expression.equals d e && o == p && s.equals t
  | _, _ => false

/-- Whether two comparisons are equal. -/
def Comparison.equals : Comparison → Comparison → Bool
  | .term s, .term t => s.equals t
  | .chain d o s, .chain e p t => Comparison.equals d e && o == p && s.equals t
  | _, _ => false

/-- Whether two operands are equal, and the operators before them the same. -/
def Unary.equals : Unary → Unary → Bool
  | .plain x, .plain y => x.equals y
  | .applied o x, .applied p y => o == p && x.equals y
  | _, _ => false

/-- Whether two operands are equal; numbers are compared as the engine compares them. -/
def Operand.equals : Operand → Operand → Bool
  | .number x, .number y => x.equals y
  | .string s, .string t => s == t
  | .boolean a, .boolean b => a == b
  | .nil, .nil => true
  | .regex s, .regex t => s == t
  | .reference s p, .reference t q => s == t && p == q
  | .call f xs, .call g ys => f == g && Operand.equalArguments xs ys
  | .group d, .group e => d.equals e
  | _, _ => false

/-- Whether two lists of arguments are equal at all places. -/
def Operand.equalArguments : List Expression → List Expression → Bool
  | [], [] => true
  | x :: xs, y :: ys => x.equals y && Operand.equalArguments xs ys
  | _, _ => false

end

end Criteria
