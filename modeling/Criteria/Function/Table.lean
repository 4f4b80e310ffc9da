import Criteria.Function.Builtin

/-!
# Tables of functions

A table holds functions by the names under which expressions call them. A name is an at sign
with at least one identifier character behind it. Each name is given once: a table never loses
or changes an entry.
-/

namespace Criteria

variable {σ : Type}

/-- A function that expressions can call. -/
inductive Function (σ : Type) where
  | builtin (b : Builtin)
  | host (f : HostFunction σ)

/-- Functions by ascending name. -/
abbrev FunctionTable (σ : Type) := Fields (Function σ)

/-- Whether functions can be registered under a name. -/
def isFunctionName (name : String) : Bool :=
  match name.toList with
  | [] => false
  | c :: rest => c == '@' && !rest.isEmpty && rest.all isIdentifierChar

namespace FunctionTable

/-- The table of a context without host functions. -/
def builtins : FunctionTable σ := Builtin.all.map fun b => (b.name, .builtin b)

/-- Adds a function under a name that is well-formed and not taken. -/
def register (table : FunctionTable σ) (name : String) (f : Function σ) :
    Except Error (FunctionTable σ) :=
  if !isFunctionName name then .error (.invalidFunction (.malformed name))
  else if table.contains name then .error (.duplicateFunction name)
  else .ok (table.insert name f)

/-- Adds host functions in their order, up to the first that is refused. -/
def registerAll (table : FunctionTable σ) :
    List (String × HostFunction σ) → Except Error (FunctionTable σ)
  | [] => .ok table
  | (name, f) :: rest =>
    match table.register name (.host f) with
    | .error e => .error e
    | .ok table => registerAll table rest

/-- The names of a table in ascending order. -/
def names (table : FunctionTable σ) : List String := table.map (·.1)

/-- The names of a table in braces, each between quotes. -/
def describe (table : FunctionTable σ) : String :=
  "\x7b" ++ ", ".intercalate (table.names.map quoted) ++ "\x7d"

end FunctionTable

end Criteria
