import Criteria.Json.Token

/-!
# Reading JSON texts

Tokens are read from left to right with a stack of the **containers that are open**, the
innermost first. A complete value goes into the innermost container, or is the value of the text
when none is open. Of several fields with one key the last counts, and there is a bound on how
many containers may be open at once.
-/

namespace Criteria.Json

/-- A container whose end has not been read. -/
inductive Container where
  /-- The elements so far, in reverse. -/
  | array (items : List Json)
  /-- The fields so far, and the key whose value comes next. -/
  | object (fields : Fields Json) (key : String)

/-- What may come next. -/
inductive Expected where
  | value
  | itemOrEnd
  | keyOrEnd (fields : Fields Json)
  | key (fields : Fields Json)
  | colon (fields : Fields Json) (key : String)
  | separator
  /-- Nothing: the value of the text is complete. -/
  | nothing (j : Json)

/-- The containers around what comes next; an object that waits for a key is with `expected`. -/
structure Reading where
  stack : List Container
  expected : Expected

namespace Reading

/-- No token has been read. -/
def start : Reading := ⟨[], .value⟩

/-- Takes up a complete value. -/
def close (stack : List Container) (j : Json) : Reading :=
  match stack with
  | [] => ⟨[], .nothing j⟩
  | .array items :: rest => ⟨.array (j :: items) :: rest, .separator⟩
  | .object fields key :: rest => ⟨.object (fields.insert key j) key :: rest, .separator⟩

/-- Reads the first token of a value. -/
def open? (limit : Nat) (stack : List Container) : Token → Option Reading
  | .text s => some (close stack (.string s))
  | .scalar j => some (close stack j)
  | .beginArray =>
    if stack.length < limit then some ⟨.array [] :: stack, .itemOrEnd⟩ else none
  | .beginObject => if stack.length < limit then some ⟨stack, .keyOrEnd []⟩ else none
  | _ => none

/-- Reads one more token. -/
def step (limit : Nat) (r : Reading) (t : Token) : Option Reading :=
  match r.expected, t with
  | .value, t => open? limit r.stack t
  | .itemOrEnd, .endArray => some (close (r.stack.drop 1) (.array []))
  | .itemOrEnd, t => open? limit r.stack t
  | .keyOrEnd fields, .endObject => some (close r.stack (.object fields))
  | .keyOrEnd fields, .text key => some ⟨r.stack, .colon fields key⟩
  | .key fields, .text key => some ⟨r.stack, .colon fields key⟩
  | .colon fields key, .colon => some ⟨.object fields key :: r.stack, .value⟩
  | .separator, t =>
    match r.stack, t with
    | .array items :: rest, .comma => some ⟨.array items :: rest, .value⟩
    | .array items :: rest, .endArray => some (close rest (.array items.reverse))
    | .object fields _ :: rest, .comma => some ⟨rest, .key fields⟩
    | .object fields _ :: rest, .endObject => some (close rest (.object fields))
    | _, _ => none
  | _, _ => none

/-- The value of a text, if it is complete. -/
def result? (r : Reading) : Option Json :=
  match r.expected with
  | .nothing j => some j
  | _ => none

end Reading

/-- Reads a whole JSON text in which at most `limit` containers are open at once. -/
def readWithin? (rounding : Rounding) (limit : Nat) (text : String) : Option Json := do
  let tokens ← tokens? rounding text.toList
  let r ← tokens.foldlM (Reading.step limit) Reading.start
  r.result?

/-- How many containers may be open at once in an input text. -/
def nestingLimit : Nat := 127

/-- Reads an input text, with numbers read stepwise. -/
def read? (text : String) : Option Json := readWithin? .stepwise nestingLimit text

end Criteria.Json
