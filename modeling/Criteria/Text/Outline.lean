/-!
# Outlines

An outline shows a tree over several lines: each node is a **block** between an opening and a
closing line, and its entries stand indented in between, each with a comma behind it. A block
without entries stays on one line.
-/

namespace Criteria

/-- A tree that can be shown over several lines. Labels stand before their entries. -/
inductive Outline where
  | leaf (text : String)
  | block (opening closing : String) (entries : List (String × Outline))

namespace Outline

/-- The blanks before a line at a level of indentation. -/
def indentation (level : Nat) : String := String.ofList (List.replicate (4 * level) ' ')

mutual

/-- The text of an outline whose closing line stands at a level. -/
def render (level : Nat) : Outline → String
  | leaf text => text
  | block opening closing [] => opening ++ closing
  | block opening closing (entry :: rest) =>
    opening ++ "\n" ++ renderEntries (level + 1) (entry :: rest) ++ indentation level ++ closing

/-- The lines of entries at a level. -/
def renderEntries (level : Nat) : List (String × Outline) → String
  | [] => ""
  | (label, entry) :: rest =>
    indentation level ++ label ++ render level entry ++ ",\n" ++ renderEntries level rest

end

/-- A node with named fields. -/
def record (name : String) (fields : List (String × Outline)) : Outline :=
  block (name ++ " \x7b") "\x7d" (fields.map fun field => (field.1 ++ ": ", field.2))

/-- A node that wraps another one. -/
def wrapped (name : String) (inner : Outline) : Outline := block (name ++ "(") ")" [("", inner)]

/-- A pair of nodes. -/
def pair (first second : Outline) : Outline := block "(" ")" [("", first), ("", second)]

/-- A list, one item a line. -/
def list (items : List Outline) : Outline := block "[" "]" (items.map fun item => ("", item))

/-- A node that may be missing. -/
def option : Option Outline → Outline
  | none => leaf "None"
  | some inner => wrapped "Some" inner

end Outline

end Criteria
