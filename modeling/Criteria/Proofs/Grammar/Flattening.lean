import Criteria.Expression.Parser

/-!
# Trees as token lists

The grammar of expressions, read off trees instead of texts. A tree is **flattened** into the
tokens that it is written with, and it belongs to the grammar when three things hold:

* every operator is in a place of its own kind (`Criteria.Expression.InPlace`): a negation before
  an operand, comparisons between terms, logical operators between comparisons;
* its **nesting**, the most parentheses and argument lists around one of its points, is within
  the limit (`Criteria.Expression.nesting`);
* the path of every variable is what its text reads as (`Criteria.PathsReadIn`).

Nothing here mentions the parser's state. The three conditions together, where some levels are
open already, are `Criteria.Expression.Fits`; in this form they split along the tree, and the
parser's invariant and the induction over trees both use it.
-/

namespace Criteria

/-- An expression that is a lone operand. -/
def Expression.lone (x : Operand) : Expression := .term (.term (.plain x))

/-! ### Flattening -/

mutual

/-- The tokens that an expression is written with. -/
def Expression.tokens : Expression → List Token
  | .term t => t.tokens
  | .chain left op right => Expression.tokens left ++ .operator op :: right.tokens

/-- The tokens of a comparison. -/
def Comparison.tokens : Comparison → List Token
  | .term t => t.tokens
  | .chain left op right => Comparison.tokens left ++ .operator op :: right.tokens

/-- The tokens of an operand with the operator before it. -/
def Unary.tokens : Unary → List Token
  | .plain x => x.tokens
  | .applied op x => .operator op :: x.tokens

/-- The tokens of an operand, with the parentheses around its inside. -/
def Operand.tokens : Operand → List Token
  | .number x => [.number x]
  | .string s => [.string s]
  | .boolean b => [.boolean b]
  | .nil => [.nil]
  | .regex pattern => [.regex pattern]
  | .reference text _ => [.reference text]
  | .call name arguments =>
    .function name :: .leftParen :: (Operand.argumentTokens arguments ++ [.rightParen])
  | .group e => .leftParen :: (e.tokens ++ [.rightParen])

/-- The tokens of arguments, with a comma between each two of them. -/
def Operand.argumentTokens : List Expression → List Token
  | [] => []
  | [e] => e.tokens
  | e :: d :: rest => e.tokens ++ .comma :: Operand.argumentTokens (d :: rest)

end

/-! ### The operands of a tree -/

mutual

/-- All operands of an expression, also those inside of others, in the order in which they end. -/
def Expression.operands : Expression → List Operand
  | .term t => t.operands
  | .chain left _ right => Expression.operands left ++ right.operands

/-- The operands of a comparison. -/
def Comparison.operands : Comparison → List Operand
  | .term t => t.operands
  | .chain left _ right => Comparison.operands left ++ right.operands

/-- The operands of an operand with an operator before it. -/
def Unary.operands : Unary → List Operand
  | .plain x => x.operands
  | .applied _ x => x.operands

/-- The operands inside an operand, itself the last. -/
def Operand.operands : Operand → List Operand
  | .number x => [.number x]
  | .string s => [.string s]
  | .boolean b => [.boolean b]
  | .nil => [.nil]
  | .regex pattern => [.regex pattern]
  | .reference text path => [.reference text path]
  | .call name arguments => Operand.argumentOperands arguments ++ [.call name arguments]
  | .group e => e.operands ++ [.group e]

/-- The operands of the arguments of a call. -/
def Operand.argumentOperands : List Expression → List Operand
  | [] => []
  | e :: rest => e.operands ++ Operand.argumentOperands rest

end

/-! ### Operators in their places -/

mutual

/-- Logical operators stand between comparisons, and the other operators in their places too. -/
def Expression.InPlace : Expression → Prop
  | .term t => t.InPlace
  | .chain left op right => Expression.InPlace left ∧ op.isLogical = true ∧ right.InPlace

/-- Comparison operators stand between terms. -/
def Comparison.InPlace : Comparison → Prop
  | .term t => t.InPlace
  | .chain left op right => Comparison.InPlace left ∧ op.isComparison = true ∧ right.InPlace

/-- No operator but the negation stands before an operand. -/
def Unary.InPlace : Unary → Prop
  | .plain x => x.InPlace
  | .applied op x => op = .not ∧ x.InPlace

/-- Inside an operand all operators stand in their places. -/
def Operand.InPlace : Operand → Prop
  | .call _ arguments => Operand.ArgumentsInPlace arguments
  | .group e => e.InPlace
  | _ => True

/-- In all arguments the operators stand in their places. -/
def Operand.ArgumentsInPlace : List Expression → Prop
  | [] => True
  | e :: rest => e.InPlace ∧ Operand.ArgumentsInPlace rest

end

/-! ### Nesting -/

mutual

/-- The most parentheses and argument lists around a point of an expression. -/
def Expression.nesting : Expression → Nat
  | .term t => t.nesting
  | .chain left _ right => max (Expression.nesting left) right.nesting

/-- The most parentheses and argument lists around a point of a comparison. -/
def Comparison.nesting : Comparison → Nat
  | .term t => t.nesting
  | .chain left _ right => max (Comparison.nesting left) right.nesting

/-- An operator before an operand opens nothing. -/
def Unary.nesting : Unary → Nat
  | .plain x => x.nesting
  | .applied _ x => x.nesting

/-- An argument list counts also when it is empty. -/
def Operand.nesting : Operand → Nat
  | .call _ arguments => Operand.argumentNesting arguments + 1
  | .group e => e.nesting + 1
  | _ => 0

/-- The most parentheses and argument lists around a point of an argument. -/
def Operand.argumentNesting : List Expression → Nat
  | [] => 0
  | e :: rest => max e.nesting (Operand.argumentNesting rest)

end

/-! ### Paths -/

/-- Among some operands, the variables have the paths that their texts read as. -/
def PathsReadIn (operands : List Operand) : Prop :=
  ∀ text path, Operand.reference text path ∈ operands → Path.read text = .ok path

@[simp]
theorem pathsReadIn_nil : PathsReadIn [] := by
  intro text path h
  exact absurd h (by simp)

@[simp]
theorem pathsReadIn_append {xs ys : List Operand} :
    PathsReadIn (xs ++ ys) ↔ PathsReadIn xs ∧ PathsReadIn ys := by
  constructor
  · intro h
    exact ⟨fun t p hm => h t p (List.mem_append_left _ hm),
      fun t p hm => h t p (List.mem_append_right _ hm)⟩
  · rintro ⟨hx, hy⟩ t p hm
    rcases List.mem_append.mp hm with hm | hm
    · exact hx t p hm
    · exact hy t p hm

/-- An operand that is no variable asks for nothing. -/
theorem pathsReadIn_singleton {x : Operand} (h : ∀ text path, x ≠ .reference text path) :
    PathsReadIn [x] := by
  intro text path hm
  rw [List.mem_singleton] at hm
  exact absurd hm.symm (h text path)

@[simp]
theorem pathsReadIn_reference {text : String} {path : Path} :
    PathsReadIn [.reference text path] ↔ Path.read text = .ok path := by
  constructor
  · intro h
    exact h text path (by simp)
  · intro h t p hm
    rw [List.mem_singleton, Operand.reference.injEq] at hm
    obtain ⟨rfl, rfl⟩ := hm
    exact h

/-! ### What fits where some levels are open -/

/-- An expression belongs to the grammar where `depth` levels are open around it. -/
def Expression.Fits (depth : Nat) (e : Expression) : Prop :=
  e.InPlace ∧ e.nesting ≤ nestingLimit - depth ∧ PathsReadIn e.operands

/-- A comparison belongs to the grammar where `depth` levels are open around it. -/
def Comparison.Fits (depth : Nat) (c : Comparison) : Prop :=
  c.InPlace ∧ c.nesting ≤ nestingLimit - depth ∧ PathsReadIn c.operands

/-- An operand with an operator before it belongs to the grammar where `depth` levels are open
around them. -/
def Unary.Fits (depth : Nat) (u : Unary) : Prop :=
  u.InPlace ∧ u.nesting ≤ nestingLimit - depth ∧ PathsReadIn u.operands

/-- An operand belongs to the grammar where `depth` levels are open around it. -/
def Operand.Fits (depth : Nat) (x : Operand) : Prop :=
  x.InPlace ∧ x.nesting ≤ nestingLimit - depth ∧ PathsReadIn x.operands

/-- Arguments, with `depth` levels open around the argument list, itself among them. -/
def Operand.ArgumentsFit (depth : Nat) (arguments : List Expression) : Prop :=
  ∀ e ∈ arguments, e.Fits depth

variable {depth : Nat}

@[simp]
theorem Expression.fits_term {t : Comparison} : (Expression.term t).Fits depth ↔ t.Fits depth :=
  Iff.rfl

@[simp]
theorem Expression.fits_chain {left : Expression} {op : Operator} {right : Comparison} :
    (Expression.chain left op right).Fits depth ↔
      left.Fits depth ∧ op.isLogical = true ∧ right.Fits depth := by
  simp only [Expression.Fits, Comparison.Fits, Expression.InPlace, Expression.nesting,
    Expression.operands, pathsReadIn_append, Nat.max_le]
  constructor
  · rintro ⟨⟨hl, ho, hr⟩, ⟨hln, hrn⟩, hlp, hrp⟩
    exact ⟨⟨hl, hln, hlp⟩, ho, hr, hrn, hrp⟩
  · rintro ⟨⟨hl, hln, hlp⟩, ho, hr, hrn, hrp⟩
    exact ⟨⟨hl, ho, hr⟩, ⟨hln, hrn⟩, hlp, hrp⟩

@[simp]
theorem Comparison.fits_term {t : Unary} : (Comparison.term t).Fits depth ↔ t.Fits depth :=
  Iff.rfl

@[simp]
theorem Comparison.fits_chain {left : Comparison} {op : Operator} {right : Unary} :
    (Comparison.chain left op right).Fits depth ↔
      left.Fits depth ∧ op.isComparison = true ∧ right.Fits depth := by
  simp only [Comparison.Fits, Unary.Fits, Comparison.InPlace, Comparison.nesting,
    Comparison.operands, pathsReadIn_append, Nat.max_le]
  constructor
  · rintro ⟨⟨hl, ho, hr⟩, ⟨hln, hrn⟩, hlp, hrp⟩
    exact ⟨⟨hl, hln, hlp⟩, ho, hr, hrn, hrp⟩
  · rintro ⟨⟨hl, hln, hlp⟩, ho, hr, hrn, hrp⟩
    exact ⟨⟨hl, ho, hr⟩, ⟨hln, hrn⟩, hlp, hrp⟩

@[simp]
theorem Unary.fits_plain {x : Operand} : (Unary.plain x).Fits depth ↔ x.Fits depth :=
  Iff.rfl

@[simp]
theorem Unary.fits_applied {op : Operator} {x : Operand} :
    (Unary.applied op x).Fits depth ↔ op = .not ∧ x.Fits depth := by
  simp only [Unary.Fits, Operand.Fits, Unary.InPlace, Unary.nesting, Unary.operands, and_assoc]

@[simp]
theorem Operand.fits_reference {text : String} {path : Path} :
    (Operand.reference text path).Fits depth ↔ Path.read text = .ok path := by
  simp [Operand.Fits, Operand.InPlace, Operand.nesting, Operand.operands]

/-- Parentheses take up a level of what is around their inside. -/
@[simp]
theorem Operand.fits_group {e : Expression} :
    (Operand.group e).Fits depth ↔ depth < nestingLimit ∧ e.Fits (depth + 1) := by
  have hx : PathsReadIn [Operand.group e] := pathsReadIn_singleton (by simp)
  simp only [Operand.Fits, Expression.Fits, Operand.InPlace, Operand.nesting, Operand.operands,
    pathsReadIn_append, hx, and_true]
  constructor
  · rintro ⟨hp, hn, hr⟩
    exact ⟨by omega, hp, by omega, hr⟩
  · rintro ⟨hd, hp, hn, hr⟩
    exact ⟨hp, by omega, hr⟩

/-- Arguments that fit, by the three conditions on the argument list as a whole. -/
theorem Operand.argumentsFit_iff {arguments : List Expression} :
    Operand.ArgumentsFit depth arguments ↔
      Operand.ArgumentsInPlace arguments ∧
        Operand.argumentNesting arguments ≤ nestingLimit - depth ∧
        PathsReadIn (Operand.argumentOperands arguments) := by
  induction arguments with
  | nil =>
    simp [Operand.ArgumentsFit, Operand.ArgumentsInPlace, Operand.argumentNesting,
      Operand.argumentOperands]
  | cons e rest ih =>
    rw [Operand.ArgumentsFit, List.forall_mem_cons]
    -- what is asked of the rest is what the induction is about
    change e.Fits depth ∧ Operand.ArgumentsFit depth rest ↔ _
    rw [ih]
    simp only [Expression.Fits, Operand.ArgumentsInPlace, Operand.argumentNesting,
      Operand.argumentOperands, pathsReadIn_append, Nat.max_le]
    constructor
    · rintro ⟨⟨he, hen, hep⟩, hr, hrn, hrp⟩
      exact ⟨⟨he, hr⟩, ⟨hen, hrn⟩, hep, hrp⟩
    · rintro ⟨⟨he, hr⟩, ⟨hen, hrn⟩, hep, hrp⟩
      exact ⟨⟨he, hen, hep⟩, hr, hrn, hrp⟩

/-- An argument list takes up a level, even if it is empty. -/
@[simp]
theorem Operand.fits_call {name : String} {arguments : List Expression} :
    (Operand.call name arguments).Fits depth ↔
      depth < nestingLimit ∧ Operand.ArgumentsFit (depth + 1) arguments := by
  have hx : PathsReadIn [Operand.call name arguments] := pathsReadIn_singleton (by simp)
  rw [Operand.argumentsFit_iff]
  simp only [Operand.Fits, Operand.InPlace, Operand.nesting, Operand.operands,
    pathsReadIn_append, hx, and_true]
  constructor
  · rintro ⟨hp, hn, hr⟩
    exact ⟨by omega, hp, by omega, hr⟩
  · rintro ⟨hd, hp, hn, hr⟩
    exact ⟨hp, by omega, hr⟩

@[simp]
theorem Operand.argumentsFit_nil : Operand.ArgumentsFit depth [] := by
  simp [Operand.ArgumentsFit]

@[simp]
theorem Operand.argumentsFit_cons {e : Expression} {rest : List Expression} :
    Operand.ArgumentsFit depth (e :: rest) ↔
      e.Fits depth ∧ Operand.ArgumentsFit depth rest := by
  simp [Operand.ArgumentsFit]

end Criteria
