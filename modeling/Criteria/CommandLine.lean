import Criteria.Datum.Json
import Criteria.Expression.Outline
import Criteria.Json.Printer
import Criteria.Json.Reader
import Criteria.Prepared

/-!
# The command line

There are two commands. `check` evaluates a criterion against JSON input and writes the result as
JSON, or only checks that the criterion can be read; `parse` writes the tree of a criterion.

What the program does is a function of its arguments and its input: it gives an exit code and
what is written to the two outputs.
-/

namespace Criteria

/-! ### Checking -/

/-- What to check. -/
structure CheckRequest where
  expression : String
  /-- A JSON text; without one the criterion is evaluated against nil. -/
  input : Option String
  syntaxOnly : Bool

/-- What checking found. -/
inductive CheckResult where
  | readable
  | evaluated (v : Value)

/-- Why checking found nothing. -/
inductive CheckFailure where
  | stopped (s : Stop)
  | invalidJson

/-- What is told about an evaluation that has stopped. -/
def Stop.message : Stop → String
  | error e => e.message
  | exhausted => "too many nested @select predicates"

/-- What is told about a check that did not come to a result. -/
def CheckFailure.message : CheckFailure → String
  | stopped s => s.message
  | invalidJson => "Invalid JSON: the text is not a JSON value"

/-- The data of an optional JSON text. -/
def inputData : Option String → Except CheckFailure Datum
  | none => .ok .nil
  | some text =>
    match Json.read? text with
    | some j => .ok (.ofJson j)
    | none => .error .invalidJson

/-- Reads a criterion, then its input, and evaluates the one against the other. -/
def check (r : CheckRequest) : Except CheckFailure CheckResult :=
  match Prepared.ofText r.expression with
  | .error e => .error (.stopped (.error e))
  | .ok p =>
    if r.syntaxOnly then .ok .readable
    else match inputData r.input with
      | .error e => .error e
      | .ok data =>
        match (Context.ofDatum data : Except Error (Context Unit)) with
        | .error e => .error (.stopped (.error e))
        | .ok ctx =>
          match (p.evaluateValue ctx ⟨(), []⟩).1 with
          | .error s => .error (.stopped s)
          | .ok v => .ok (.evaluated v)

namespace CommandLine

/-! ### Arguments -/

/-- A command with its arguments. -/
inductive Command where
  | check (expression : String) (input : Option String) (pretty syntaxOnly : Bool)
  | parse (expression : String)

/-- The arguments of a command so far. Nothing may be given twice. -/
structure Arguments where
  expression : Option String
  input : Option String
  pretty : Bool
  syntaxOnly : Bool

namespace Arguments

/-- No argument has been read. -/
def none : Arguments := ⟨.none, .none, false, false⟩

/-- Takes up the expression; there is at most one. -/
def setExpression? (a : Arguments) (s : String) : Option Arguments :=
  if a.expression.isSome then .none else some { a with expression := some s }

/-- Takes up the text of the data; there is at most one. -/
def setInput? (a : Arguments) (s : String) : Option Arguments :=
  if a.input.isSome then .none else some { a with input := some s }

/-- Takes up the wish for a text over several lines, which is made once at most. -/
def setPretty? (a : Arguments) : Option Arguments :=
  if a.pretty then .none else some { a with pretty := true }

/-- Takes up the wish to check the syntax only, which is made once at most. -/
def setSyntaxOnly? (a : Arguments) : Option Arguments :=
  if a.syntaxOnly then .none else some { a with syntaxOnly := true }

end Arguments

/-- What a word on the command line is. -/
inductive Word where
  /-- Everything behind it is an operand. -/
  | separator
  /-- A long option with what is behind an equality sign. -/
  | long (name : String) (value : Option String)
  /-- Short options. -/
  | short (letters : List Char)
  | operand

/-- A word by the hyphens before it. A hyphen alone is an operand. -/
def Word.ofString (s : String) : Word :=
  match s.toList with
  | '-' :: '-' :: [] => .separator
  | '-' :: '-' :: rest =>
    let name := String.ofList (rest.takeWhile (· != '='))
    match rest.dropWhile (· != '=') with
    | [] => .long name none
    | _ :: value => .long name (some (String.ofList value))
  | '-' :: c :: rest => .short (c :: rest)
  | _ => .operand

/-- Takes short options that stand together. The letter for the input takes the letters behind
it as its value; if there are none, the answer says that the value is still to come. -/
def readLetters (a : Arguments) : List Char → Option (Arguments × Bool)
  | [] => some (a, false)
  | c :: rest =>
    if c = 'p' then a.setPretty?.bind fun a => readLetters a rest
    else if c = 'i' then
      match rest with
      | [] => some (a, true)
      | '=' :: value => (a.setInput? (String.ofList value)).map (·, false)
      | value => (a.setInput? (String.ofList value)).map (·, false)
    else none

/-- Reads the arguments of `check`. An option that waits for its value takes the next word, which
has to be an operand. -/
def readCheck (a : Arguments) (waiting : Bool) : List String → Option Arguments
  | [] => if waiting then none else some a
  | word :: rest =>
    match Word.ofString word with
    | .operand =>
      if waiting then (a.setInput? word).bind fun a => readCheck a false rest
      else (a.setExpression? word).bind fun a => readCheck a false rest
    | .separator => if waiting then none else rest.foldlM Arguments.setExpression? a
    | .long name value =>
      if waiting then none
      else match name, value with
        | "pretty", none => a.setPretty?.bind fun a => readCheck a false rest
        | "syntax-only", none => a.setSyntaxOnly?.bind fun a => readCheck a false rest
        | "input", none => readCheck a true rest
        | "input", some value => (a.setInput? value).bind fun a => readCheck a false rest
        | _, _ => none
    | .short letters =>
      if waiting then none
      else (readLetters a letters).bind fun (a, waiting) => readCheck a waiting rest

/-- Reads the arguments of `parse`, which has no options. -/
def readParse (a : Arguments) : List String → Option Arguments
  | [] => some a
  | word :: rest =>
    match Word.ofString word with
    | .operand => (a.setExpression? word).bind fun a => readParse a rest
    | .separator => rest.foldlM Arguments.setExpression? a
    | _ => none

/-- Reads a command line; there is no command if a word is missing, unknown or given twice. -/
def read? : List String → Option Command
  | "check" :: rest => do
    let a ← readCheck .none false rest
    let expression ← a.expression
    pure (.check expression a.input a.pretty a.syntaxOnly)
  | "parse" :: rest => do
    let a ← readParse .none rest
    let expression ← a.expression
    pure (.parse expression)
  | _ => none

/-- Whether a command reads the standard input. -/
def Command.readsInput : Command → Bool
  | check _ input _ syntaxOnly => input.isNone && !syntaxOnly
  | parse _ => false

/-! ### Running -/

/-- What a run leaves behind. -/
structure Outcome where
  code : Nat
  stdout : String
  stderr : String

namespace Outcome

/-- The outcome of a command that has a result. -/
def success (line : String) : Outcome := ⟨0, line ++ "\n", ""⟩

/-- The outcome of a command that has failed. -/
def failure (line : String) : Outcome := ⟨1, "", line ++ "\n"⟩

/-- The outcome for a command line without a command. -/
def rejected : Outcome := ⟨2, "", ""⟩

end Outcome

/-- The JSON text of a result. -/
def resultText (pretty : Bool) (v : Value) : String :=
  let j := v.toDatum.toJson
  if pretty then j.pretty else j.compact

/-- Runs a command with the contents of the standard input. -/
def Command.run (stdin : String) : Command → Outcome
  | .check expression input pretty syntaxOnly =>
    let input := if input.isNone && !syntaxOnly then some stdin else input
    match Criteria.check ⟨expression, input, syntaxOnly⟩ with
    | .error e => .failure e.message
    | .ok .readable => .success "Syntax is valid"
    | .ok (.evaluated v) => .success (resultText pretty v)
  | .parse expression =>
    match Criteria.parse expression with
    | .error e => .failure e.message
    | .ok tree => .success (tree.outline.render 0)

/-- Runs the program. -/
def run (arguments : List String) (stdin : String) : Outcome :=
  match read? arguments with
  | some command => command.run stdin
  | none => .rejected

end CommandLine

end Criteria
