import Criteria.Number.Numeral
import Criteria.Path.Basic
import Criteria.Text.Blank
import Criteria.Text.Letter
import Criteria.Text.Quoted

/-!
# Reading paths

A path is cut into pieces at the points outside of brackets. Pieces are trimmed, empty ones are
dropped, and every other one has to be a segment: a key, brackets, or a key followed by brackets,
with a quoted key or a decimal position inside.
-/

namespace Criteria

/-- Whether a character can stand in a key. -/
def isKeyChar (c : Char) : Bool := isAlphanumeric c || c == '_' || c == '-'

namespace Segment

/-- Why a piece of a path is not a segment. -/
inductive Fault where
  | unexpectedChar (c : Char) (key : String)
  | missingBracket (piece : String)
  | unterminatedKey (piece : String)
  | invalidKey (field : String)
  | hugePosition (digits : String)
  | invalidIndex (index : String)
  deriving DecidableEq

/-- What is told about a fault. -/
def Fault.message : Fault → String
  | unexpectedChar c key => "unexpected character '" ++ c.toString ++ "' in key " ++ quoted key
  | missingBracket piece => "segment " ++ quoted piece ++ " must end with ']'"
  | unterminatedKey piece => "unterminated quoted key in " ++ quoted piece
  | invalidKey field => "invalid quoted key " ++ quoted field
  | hugePosition digits =>
    "invalid array index " ++ quoted digits ++ ": number too large to fit in target type"
  | invalidIndex index =>
    "index " ++ quoted index ++ " must be a quoted key or a non-negative integer"

/-- Positions lie below this bound. -/
def positionBound : Nat := 0x10000000000000000

/-- Reads a quoted key, from behind its first quote. -/
def readQuoted (piece quotedKey : List Char) : Except Fault Index :=
  if quotedKey.getLast? = some '"' then
    let field := quotedKey.dropLast
    if field.isEmpty || !field.all isKeyChar then
      .error (.invalidKey (String.ofList field))
    else .ok (.key (String.ofList field))
  else .error (.unterminatedKey (String.ofList piece))

/-- Reads a position, or refuses what is neither that nor a quoted key. -/
def readPosition (inner : List Char) : Except Fault Index :=
  if !inner.isEmpty && inner.all isDigit then
    if digitsValue inner < positionBound then .ok (.position (digitsValue inner))
    else .error (.hugePosition (String.ofList inner))
  else .error (.invalidIndex (String.ofList inner))

/-- Reads what stands between the brackets of a piece. -/
def readIndex (piece inner : List Char) : Except Fault Index :=
  match inner with
  | [] => readPosition []
  | c :: rest => if c = '"' then readQuoted piece rest else readPosition (c :: rest)

/-- Reads a piece of a path, trimmed and not empty, as a segment. -/
def read (piece : List Char) : Except Fault Segment :=
  let key := piece.takeWhile (· != '[')
  match key.find? (fun c => !isKeyChar c) with
  | some c => .error (.unexpectedChar c (String.ofList key))
  | none =>
    match piece.dropWhile (· != '[') with
    | [] => .ok ⟨String.ofList key, none⟩
    | _ :: rest =>
      if rest.getLast? = some ']' then
        (readIndex piece (trimBlank rest.dropLast)).map fun index =>
          ⟨String.ofList key, some index⟩
      else .error (.missingBracket (String.ofList piece))

end Segment

namespace Path

/-- How deep in brackets a character of a path stands, and whether between quotes. -/
structure Nesting where
  depth : Nat
  quotes : Bool

/-- The nesting behind a character. Quotes count inside of brackets only, brackets outside of
quotes only. -/
def Nesting.after (n : Nesting) (c : Char) : Nesting :=
  if c = '"' then (if 0 < n.depth then { n with quotes := !n.quotes } else n)
  else if n.quotes then n
  else if c = '[' then { n with depth := n.depth + 1 }
  else if c = ']' then { n with depth := n.depth - 1 }
  else n

/-- Cuts a text at the points outside of brackets. -/
def pieces (n : Nesting) : List Char → List (List Char)
  | [] => [[]]
  | c :: rest =>
    if c = '.' && n.depth = 0 then [] :: pieces n rest
    else (pieces (n.after c) rest).modifyHead (c :: ·)

/-- Reads pieces as segments, the empty ones left out, up to the first fault. -/
def readPieces : List (List Char) → Except Segment.Fault Path
  | [] => .ok []
  | piece :: rest =>
    let trimmed := trimBlank piece
    if trimmed.isEmpty then readPieces rest
    else match Segment.read trimmed with
      | .error e => .error e
      | .ok segment => (readPieces rest).map (segment :: ·)

end Path

/-- Why a text is not a path. -/
structure PathError where
  path : String
  fault : Segment.Fault
  deriving DecidableEq

namespace PathError

/-- What is wrong with the text of a path. -/
def reason (e : PathError) : String := e.fault.message

/-- What is told about a text that is no path. -/
def message (e : PathError) : String := "invalid variable path $" ++ e.path ++ ": " ++ e.reason

end PathError

/-- Reads a whole text as a path. -/
def Path.read (text : String) : Except PathError Path :=
  match Path.readPieces (Path.pieces ⟨0, false⟩ text.toList) with
  | .ok path => .ok path
  | .error fault => .error ⟨text, fault⟩

end Criteria
