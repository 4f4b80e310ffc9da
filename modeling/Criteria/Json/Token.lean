import Criteria.Json.Basic
import Criteria.Number.Stepwise
import Criteria.Text.CodePoint

/-!
# Tokens of JSON texts

A JSON text is read character by character. A **scan** is what has been read so far: the
complete tokens, and the token that is under way, if any. Texts and words (numbers and the three
literal names) are collected in reverse and finished at the first character that does not belong
to them.

The grammar is the strict one: no raw control characters in texts, surrogate escapes only in
pairs, no leading zeros, and no number beyond the range of the format.
-/

namespace Criteria.Json

/-- A mark of punctuation, or a complete scalar. -/
inductive Token where
  | beginArray
  | endArray
  | beginObject
  | endObject
  | comma
  | colon
  | text (s : String)
  | scalar (j : Json)

/-! ### Numbers -/

/-- The integers that are kept as integers, which are those of 64 bits with or without a sign; all
others are read as floats. -/
def inIntegerRange (n : Int) : Bool := -0x8000000000000000 ≤ n && n < 0x10000000000000000

/-- Reads a number. Behind the sign there are digits, the first of which is zero only if it is
alone; a point is followed by a digit. -/
def number? (rounding : Rounding) (cs : List Char) : Option Json :=
  let unsigned := match cs with
    | '-' :: rest => rest
    | _ => cs
  let whole := unsigned.takeWhile isDigit
  let tail := unsigned.dropWhile isDigit
  let wholeOk := match whole with
    | [] => false
    | '0' :: _ :: _ => false
    | _ => true
  let tailOk := match tail with
    | ['.'] => false
    | '.' :: d :: _ => isDigit d
    | _ => true
  if !(wholeOk && tailOk) then none
  else match Numeral.Written.read? cs with
    | none => none
    | some w =>
      let n : Int := if w.negative then -(digitsValue whole : Int) else digitsValue whole
      if tail.isEmpty && inIntegerRange n && !(w.negative && n == 0) then some (.integer n)
      else
        let x := rounding.value w
        if h : x.isFinite = true then some (.float x h) else none

/-- Reads a word: a literal name or a number. -/
def word? (rounding : Rounding) (cs : List Char) : Option Json :=
  if cs = ['n', 'u', 'l', 'l'] then some .null
  else if cs = ['t', 'r', 'u', 'e'] then some (.bool true)
  else if cs = ['f', 'a', 'l', 's', 'e'] then some (.bool false)
  else number? rounding cs

/-! ### Scanning -/

/-- What the next character belongs to. Characters collected so far are in reverse. -/
inductive Mode where
  /-- A new token, or the blanks before it. -/
  | between
  | word (collected : List Char)
  | text (collected : List Char)
  /-- The character behind a backslash. -/
  | escape (collected : List Char)
  /-- Some of the four hexadecimal digits of an escape, behind the first half of a surrogate pair
  if there is one. -/
  | hex (collected : List Char) (high : Option Nat) (count : Nat) (code : Nat)
  /-- The backslash of the second half of a surrogate pair. -/
  | lowSlash (collected : List Char) (high : Nat)
  /-- The `u` of the second half of a surrogate pair. -/
  | lowMark (collected : List Char) (high : Nat)

/-- The tokens so far, in reverse, and the token under way. -/
structure Scan where
  tokens : List Token
  mode : Mode

/-- Whether a character is a blank between tokens. -/
def isJsonBlank (c : Char) : Bool := c == ' ' || c == '\t' || c == '\n' || c == '\r'

/-- Whether a character belongs to words: numbers and literal names. -/
def isWordChar (c : Char) : Bool :=
  isDigit c || c.isAlpha || c == '-' || c == '+' || c == '.'

/-- The character that a backslash and a letter stand for. -/
def unescape? (c : Char) : Option Char :=
  if c = '"' || c = '\\' || c = '/' then some c
  else if c = 'b' then some '\x08'
  else if c = 'f' then some '\x0c'
  else if c = 'n' then some '\n'
  else if c = 'r' then some '\r'
  else if c = 't' then some '\t'
  else none

/-- Takes up a complete escape of four digits. The first half of a surrogate pair waits for the
second; a half without its partner is refused. -/
def finishHex (collected : List Char) (high : Option Nat) (code : Nat) : Option Mode :=
  match high with
  | some high =>
    if 0xDC00 ≤ code && code < 0xE000 then
      (charOfCode? (0x10000 + (high - 0xD800) * 0x400 + (code - 0xDC00))).map
        fun c => .text (c :: collected)
    else none
  | none =>
    if 0xD800 ≤ code && code < 0xDC00 then some (.lowSlash collected code)
    else (charOfCode? code).map fun c => .text (c :: collected)

namespace Scan

/-- Nothing has been scanned. -/
def start : Scan := ⟨[], .between⟩

/-- Begins a token with its first character. -/
def begin (tokens : List Token) (c : Char) : Option Scan :=
  if isJsonBlank c then some ⟨tokens, .between⟩
  else if c = '[' then some ⟨.beginArray :: tokens, .between⟩
  else if c = ']' then some ⟨.endArray :: tokens, .between⟩
  else if c = '{' then some ⟨.beginObject :: tokens, .between⟩
  else if c = '}' then some ⟨.endObject :: tokens, .between⟩
  else if c = ',' then some ⟨.comma :: tokens, .between⟩
  else if c = ':' then some ⟨.colon :: tokens, .between⟩
  else if c = '"' then some ⟨tokens, .text []⟩
  else if isWordChar c then some ⟨tokens, .word [c]⟩
  else none

/-- Reads one more character. -/
def step (rounding : Rounding) (scan : Scan) (c : Char) : Option Scan :=
  match scan.mode with
  | .between => begin scan.tokens c
  | .word collected =>
    if isWordChar c then some ⟨scan.tokens, .word (c :: collected)⟩
    else match word? rounding collected.reverse with
      | some j => begin (.scalar j :: scan.tokens) c
      | none => none
  | .text collected =>
    if c = '"' then some ⟨.text (String.ofList collected.reverse) :: scan.tokens, .between⟩
    else if c = '\\' then some ⟨scan.tokens, .escape collected⟩
    else if c.toNat < 0x20 then none
    else some ⟨scan.tokens, .text (c :: collected)⟩
  | .escape collected =>
    if c = 'u' then some ⟨scan.tokens, .hex collected none 0 0⟩
    else (unescape? c).map fun d => ⟨scan.tokens, .text (d :: collected)⟩
  | .hex collected high count code =>
    match hexValue? c with
    | none => none
    | some digit =>
      if count = 3 then (finishHex collected high (16 * code + digit)).map (⟨scan.tokens, ·⟩)
      else some ⟨scan.tokens, .hex collected high (count + 1) (16 * code + digit)⟩
  | .lowSlash collected high =>
    if c = '\\' then some ⟨scan.tokens, .lowMark collected high⟩ else none
  | .lowMark collected high =>
    if c = 'u' then some ⟨scan.tokens, .hex collected (some high) 0 0⟩ else none

/-- Ends the text; a word that is under way is complete, anything else is not. -/
def finish (rounding : Rounding) (scan : Scan) : Option (List Token) :=
  match scan.mode with
  | .between => some scan.tokens.reverse
  | .word collected =>
    (word? rounding collected.reverse).map fun j => (.scalar j :: scan.tokens).reverse
  | _ => none

end Scan

/-- The tokens of a JSON text. -/
def tokens? (rounding : Rounding) (cs : List Char) : Option (List Token) :=
  (cs.foldlM (Scan.step rounding) Scan.start).bind (Scan.finish rounding)

end Criteria.Json
