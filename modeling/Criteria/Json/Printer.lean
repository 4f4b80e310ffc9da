import Criteria.Json.Basic
import Criteria.Number.Layout

/-!
# Writing JSON texts

A JSON value is written on one line without blanks, or **spread** over lines that are indented
by two blanks a level. In texts only quotes, backslashes and control characters are escaped.
-/

namespace Criteria.Json

/-- Two hexadecimal digits. -/
def hexPair (n : Nat) : List Char :=
  let digits := Nat.toDigits 16 n
  if digits.length = 1 then '0' :: digits else digits

/-- A character inside a JSON text. -/
def escapedChar (c : Char) : List Char :=
  if c = '"' then ['\\', '"']
  else if c = '\\' then ['\\', '\\']
  else if c = '\n' then ['\\', 'n']
  else if c = '\r' then ['\\', 'r']
  else if c = '\t' then ['\\', 't']
  else if c = '\x08' then ['\\', 'b']
  else if c = '\x0c' then ['\\', 'f']
  else if c.toNat < 0x20 then '\\' :: 'u' :: '0' :: '0' :: hexPair c.toNat
  else [c]

/-- A text with its quotes. -/
def escaped (s : String) : String :=
  String.ofList ('"' :: s.toList.flatMap escapedChar ++ ['"'])

/-- A value that is not a container. Only the empty containers are among the others. -/
def scalarText : Json → String
  | .null => "null"
  | .bool b => if b then "true" else "false"
  | .integer n => toString n
  | .float x _ => NumberLayout.json.write x
  | .string s => escaped s
  | .array _ => "[]"
  | .object _ => "\x7b\x7d"

mutual

/-- The value on one line. -/
def compact : Json → String
  | .array items => "[" ++ ",".intercalate (compactItems items) ++ "]"
  | .object fields => "\x7b" ++ ",".intercalate (compactFields fields) ++ "\x7d"
  | .null => scalarText .null
  | .bool b => scalarText (.bool b)
  | .integer n => scalarText (.integer n)
  | .float x h => scalarText (.float x h)
  | .string s => scalarText (.string s)

/-- The elements, each on one line. -/
def compactItems : List Json → List String
  | [] => []
  | item :: rest => compact item :: compactItems rest

/-- The fields, each on one line. -/
def compactFields : List (String × Json) → List String
  | [] => []
  | (key, value) :: rest => (escaped key ++ ":" ++ compact value) :: compactFields rest

end

/-- A line break and the indentation of a level. -/
def lineBreak (level : Nat) : String := "\n" ++ String.ofList (List.replicate (2 * level) ' ')

/-- Parts between brackets, each on a line of its own; without parts only the brackets. -/
def spreadParts (level : Nat) (opening closing : String) (parts : List String) : String :=
  if parts.isEmpty then opening ++ closing
  else
    opening ++ lineBreak (level + 1) ++ ("," ++ lineBreak (level + 1)).intercalate parts ++
      lineBreak level ++ closing

mutual

/-- The value over several lines, inside of `level` containers. -/
def spread (level : Nat) : Json → String
  | .array items => spreadParts level "[" "]" (spreadItems (level + 1) items)
  | .object fields => spreadParts level "\x7b" "\x7d" (spreadFields (level + 1) fields)
  | .null => scalarText .null
  | .bool b => scalarText (.bool b)
  | .integer n => scalarText (.integer n)
  | .float x h => scalarText (.float x h)
  | .string s => scalarText (.string s)

/-- The elements, each over several lines. -/
def spreadItems (level : Nat) : List Json → List String
  | [] => []
  | item :: rest => spread level item :: spreadItems level rest

/-- The fields, each over several lines. -/
def spreadFields (level : Nat) : List (String × Json) → List String
  | [] => []
  | (key, value) :: rest => (escaped key ++ ": " ++ spread level value) :: spreadFields level rest

end

/-- The value over several lines. -/
def pretty (j : Json) : String := spread 0 j

end Criteria.Json
