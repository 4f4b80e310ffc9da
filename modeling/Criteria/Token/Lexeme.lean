import Criteria.Number.Numeral
import Criteria.Text.Letter
import Criteria.Token.Basic

/-!
# Lexemes

A **lexeme** is the piece of text that one token is read from. This module reads the lexeme at
the head of a text that does not begin with white space: it says which token or which fault
stands there, and how many characters that takes. The caller moves on by this length, so the
length also says where reading goes on behind a fault.

Numerals are sought first: a sign or a point begins a numeral exactly when digits follow. Behind
them, the first character decides which reader the text is for. **Every lexeme is read by one of
the readers** (`Criteria.Lexeme.reads_read`), so what all lexemes have in common is shown for one
reader after the other.
-/

namespace Criteria

/-- Why there is no token at a place. Places are counted in characters from the beginning of the
text. -/
inductive LexError where
  | unexpectedChar (c : Char) (position : Nat)
  /-- One character of an operator that is written with two equal ones. -/
  | incompleteOperator (c : Char) (position : Nat)
  | unknownKeyword (word : String) (position : Nat)
  | invalidEscape (c : Char) (position : Nat)
  | unterminatedString (position : Nat)
  | unterminatedRegex (position : Nat)
  | unterminatedIndex (position : Nat)
  | missingFunctionName (position : Nat)
  | invalidNumber (text : String) (position : Nat)
  deriving DecidableEq

namespace LexError

/-- Whether an error leaves the lexer where it was, so that it comes up again. -/
def isStuck : LexError → Bool
  | unexpectedChar _ _ | incompleteOperator _ _ => true
  | _ => false

/-- What is told about a text that is no token. -/
def message : LexError → String
  | unexpectedChar c p => "unexpected character '" ++ c.toString ++ "' at position " ++ toString p
  | incompleteOperator c p =>
    "unexpected '" ++ c.toString ++ "' at position " ++ toString p ++ " (did you mean '" ++
      c.toString ++ c.toString ++ "'?)"
  | unknownKeyword word p => "unknown keyword '" ++ word ++ "' at position " ++ toString p
  | invalidEscape c p =>
    "invalid escape sequence '\\" ++ c.toString ++ "' at position " ++ toString p
  | unterminatedString p => "unterminated string starting at position " ++ toString p
  | unterminatedRegex p => "unterminated regular expression starting at position " ++ toString p
  | unterminatedIndex p => "unterminated index in variable starting at position " ++ toString p
  | missingFunctionName p => "expected function name after '@' at position " ++ toString p
  | invalidNumber text p => "invalid number '" ++ text ++ "' at position " ++ toString p

end LexError

/-- What stands at the head of a text, and how many characters it takes. -/
structure Lexeme where
  outcome : Except LexError Token
  length : Nat

namespace Lexeme

/-! ### Numerals -/

/-- The length of the sign at the front. -/
def signLength : List Char → Nat
  | [] => 0
  | c :: _ => if c = '+' || c = '-' then 1 else 0

/-- The length of a point with digits behind it. A point without digits is no part of a
numeral. -/
def fractionLength : List Char → Nat
  | [] => 0
  | c :: rest =>
    let digits := (rest.takeWhile isDigit).length
    if c = '.' && 0 < digits then digits + 1 else 0

/-- The length of the numeral at the head of a text. -/
def numeralLength? (cs : List Char) : Option Nat :=
  let sign := signLength cs
  let whole := ((cs.drop sign).takeWhile isDigit).length
  let fraction := fractionLength (cs.drop (sign + whole))
  if whole + fraction = 0 then none else some (sign + whole + fraction)

/-- The token of a numeral of known length. -/
def ofNumeral (position : Nat) (cs : List Char) (length : Nat) : Lexeme :=
  let digits := cs.take length
  match Numeral.read? digits with
  | some n => ⟨.ok (.number n.value), length⟩
  | none => ⟨.error (.invalidNumber (String.ofList digits) position), length⟩

/-! ### Strings and patterns -/

/-- The contents of a text between delimiters, read from behind the first delimiter. Lengths and
places count from there. -/
inductive Body where
  /-- The contents, and the length with the second delimiter. -/
  | closed (contents : List Char) (length : Nat)
  /-- A backslash before a character that cannot be escaped, and the place of the character. -/
  | badEscape (c : Char) (place : Nat)
  | unclosed

/-- Puts a character, written with `width` characters, before a body. -/
def Body.cons (c : Char) (width : Nat) : Body → Body
  | .closed contents length => .closed (c :: contents) (length + width)
  | .badEscape d place => .badEscape d (place + width)
  | .unclosed => .unclosed

/-- The character that a backslash and a character stand for in a string. -/
def unescape? (c : Char) : Option Char :=
  if c = 'n' then some '\n'
  else if c = 't' then some '\t'
  else if c = 'r' then some '\r'
  else if c = '"' then some '"'
  else if c = '\\' then some '\\'
  else none

/-- The body of a string, in which backslashes escape. -/
def stringBody : List Char → Body
  | [] => .unclosed
  | [c] => if c = '"' then .closed [] 1 else .unclosed
  | c :: d :: rest =>
    if c = '"' then .closed [] 1
    else if c = '\\' then
      match unescape? d with
      | some e => (stringBody rest).cons e 2
      | none => .badEscape d 1
    else (stringBody (d :: rest)).cons c 1

/-- The body of a pattern. A backslash before a slash stands for the slash; every other backslash
belongs to the pattern. -/
def regexBody : List Char → Body
  | [] => .unclosed
  | [c] => if c = '/' then .closed [] 1 else .unclosed
  | c :: d :: rest =>
    if c = '/' then .closed [] 1
    else if c = '\\' && d = '/' then (regexBody rest).cons '/' 2
    else (regexBody (d :: rest)).cons c 1

/-- The lexeme of a delimited text; `all` is the length of the whole rest of the text. -/
def ofBody (position all : Nat) (token : String → Token) (unclosed : LexError) : Body → Lexeme
  | .closed contents length => ⟨.ok (token (String.ofList contents)), length + 1⟩
  | .badEscape c place => ⟨.error (.invalidEscape c (position + 1 + place)), 1 + place⟩
  | .unclosed => ⟨.error unclosed, all⟩

/-! ### Variables -/

/-- Where a character of a variable path stands. -/
inductive PathPlace where
  /-- Among keys and points. -/
  | outside
  /-- Between brackets. -/
  | index
  /-- Between brackets and quotes. -/
  | quotes
  deriving DecidableEq

/-- Whether a character can stand in a path outside of brackets. -/
def isPathChar (c : Char) : Bool := isIdentifierChar c || c == '-' || c == '.'

/-- The length of the variable path at the head of a text. What is in brackets is taken as it
is, up to the first closing bracket outside of quotes; there is no path if that is missing. -/
def pathLength? : PathPlace → List Char → Option Nat
  | .outside, [] => some 0
  | .index, [] => none
  | .quotes, [] => none
  | .outside, c :: rest =>
    if isPathChar c then (pathLength? .outside rest).map (· + 1)
    else if c = '[' then (pathLength? .index rest).map (· + 1)
    else some 0
  | .index, c :: rest =>
    let next : PathPlace := if c = '"' then .quotes else if c = ']' then .outside else .index
    (pathLength? next rest).map (· + 1)
  | .quotes, c :: rest =>
    (pathLength? (if c = '"' then .index else .quotes) rest).map (· + 1)

/-- The lexeme of a variable, with the text behind the dollar sign. -/
def ofVariable (position : Nat) (rest : List Char) : Lexeme :=
  match pathLength? .outside rest with
  | some n => ⟨.ok (.reference (String.ofList (rest.take n))), n + 1⟩
  | none => ⟨.error (.unterminatedIndex position), rest.length + 1⟩

/-! ### Names and operators -/

/-- The lexeme of a function name, with the text behind the at sign. -/
def ofFunction (position : Nat) (rest : List Char) : Lexeme :=
  let name := rest.takeWhile isIdentifierChar
  if name.isEmpty then ⟨.error (.missingFunctionName position), 1⟩
  else ⟨.ok (.function (String.ofList ('@' :: name))), name.length + 1⟩

/-- The literal that a word is, whatever the case of its ASCII letters. -/
def keyword? (word : List Char) : Option Token :=
  let lower := String.ofList (word.map Char.toLower)
  if lower = "true" then some (.boolean true)
  else if lower = "false" then some (.boolean false)
  else if lower = "nil" then some .nil
  else none

/-- The lexeme of a word, which has to be a keyword. -/
def ofWord (position : Nat) (cs : List Char) : Lexeme :=
  let word := cs.takeWhile isIdentifierChar
  match keyword? word with
  | some t => ⟨.ok t, word.length⟩
  | none => ⟨.error (.unknownKeyword (String.ofList word) position), word.length⟩

/-- An operator that may have an equality sign behind its first character. -/
def ofPair (double single : Operator) (rest : List Char) : Lexeme :=
  if rest.head? = some '=' then ⟨.ok (.operator double), 2⟩ else ⟨.ok (.operator single), 1⟩

/-- An operator that is written with two equal characters. -/
def ofTwin (position : Nat) (c : Char) (op : Operator) (rest : List Char) : Lexeme :=
  if rest.head? = some c then ⟨.ok (.operator op), 2⟩
  else ⟨.error (.incompleteOperator c position), 0⟩

/-- The lexeme that begins with a character and does not begin a numeral. -/
def ofChar (position : Nat) (c : Char) (rest : List Char) : Lexeme :=
  if c = '$' then ofVariable position rest
  else if c = '@' then ofFunction position rest
  else if c = '"' then
    ofBody position (rest.length + 1) .string (.unterminatedString position) (stringBody rest)
  else if c = '/' then
    ofBody position (rest.length + 1) .regex (.unterminatedRegex position) (regexBody rest)
  else if c = '(' then ⟨.ok .leftParen, 1⟩
  else if c = ')' then ⟨.ok .rightParen, 1⟩
  else if c = ',' then ⟨.ok .comma, 1⟩
  else if c = '!' then ofPair .notEqual .not rest
  else if c = '<' then ofPair .lessEqual .less rest
  else if c = '>' then ofPair .greaterEqual .greater rest
  else if c = '=' then ofTwin position c .equal rest
  else if c = '&' then ofTwin position c .and rest
  else if c = '|' then ofTwin position c .or rest
  else if isAlphabetic c || c == '_' then ofWord position (c :: rest)
  else ⟨.error (.unexpectedChar c position), 0⟩

/-- The lexeme at the head of a text that begins at `position`. -/
def read (position : Nat) (cs : List Char) : Lexeme :=
  match cs with
  | [] => ⟨.ok .eof, 0⟩
  | c :: rest =>
    match numeralLength? (c :: rest) with
    | some n => ofNumeral position (c :: rest) n
    | none => ofChar position c rest

/-! ### The readers -/

/-- A reader **reads** a lexeme off the head of a text. There is one case for each reader, with the
texts that it is for. -/
inductive Reads (position : Nat) : List Char → Lexeme → Prop
  | eof : Reads position [] ⟨.ok .eof, 0⟩
  | numeral {cs : List Char} {n : Nat} (h : numeralLength? cs = some n) :
    Reads position cs (ofNumeral position cs n)
  | reference (rest : List Char) : Reads position ('$' :: rest) (ofVariable position rest)
  | function (rest : List Char) : Reads position ('@' :: rest) (ofFunction position rest)
  | string (rest : List Char) : Reads position ('"' :: rest)
      (ofBody position (rest.length + 1) .string (.unterminatedString position) (stringBody rest))
  | regex (rest : List Char) : Reads position ('/' :: rest)
      (ofBody position (rest.length + 1) .regex (.unterminatedRegex position) (regexBody rest))
  | mark {t : Token} {s : String} {c : Char} (h : t.symbol? = some s) (hs : s.toList = [c])
      (rest : List Char) : Reads position (c :: rest) ⟨.ok t, 1⟩
  | pair {double single : Operator} {c : Char} (hd : double.symbol.toList = [c, '='])
      (hs : single.symbol.toList = [c]) (rest : List Char) :
    Reads position (c :: rest) (ofPair double single rest)
  | twin {op : Operator} {c : Char} (h : op.symbol.toList = [c, c]) (rest : List Char) :
    Reads position (c :: rest) (ofTwin position c op rest)
  | word {c : Char} (h : (isAlphabetic c || c == '_') = true) (rest : List Char) :
    Reads position (c :: rest) (ofWord position (c :: rest))
  | unexpected (c : Char) (rest : List Char) :
    Reads position (c :: rest) ⟨.error (.unexpectedChar c position), 0⟩

theorem Reads.ite {p : Prop} [Decidable p] {position : Nat} {cs : List Char} {l m : Lexeme}
    (hl : p → Reads position cs l) (hm : Reads position cs m) :
    Reads position cs (if p then l else m) := by
  split
  · rename_i hp
    exact hl hp
  · exact hm

/-- What the first character selects is one of the readers. -/
theorem reads_ofChar (position : Nat) (c : Char) (rest : List Char) :
    Reads position (c :: rest) (ofChar position c rest) :=
  .ite (fun h => h ▸ .reference rest) <|
  .ite (fun h => h ▸ .function rest) <|
  .ite (fun h => h ▸ .string rest) <|
  .ite (fun h => h ▸ .regex rest) <|
  .ite (fun h => h ▸ .mark (t := .leftParen) rfl rfl rest) <|
  .ite (fun h => h ▸ .mark (t := .rightParen) rfl rfl rest) <|
  .ite (fun h => h ▸ .mark (t := .comma) rfl rfl rest) <|
  .ite (fun h => h ▸ .pair rfl rfl rest) <|
  .ite (fun h => h ▸ .pair rfl rfl rest) <|
  .ite (fun h => h ▸ .pair rfl rfl rest) <|
  .ite (fun h => h ▸ .twin rfl rest) <|
  .ite (fun h => h ▸ .twin rfl rest) <|
  .ite (fun h => h ▸ .twin rfl rest) <|
  .ite (fun h => .word h rest) (.unexpected c rest)

/-- **Every lexeme is read by one of the readers.** -/
theorem reads_read (position : Nat) (cs : List Char) : Reads position cs (read position cs) := by
  cases cs with
  | nil => exact .eof
  | cons c rest =>
    cases hn : numeralLength? (c :: rest) with
    | some n =>
      simp only [read, hn]
      exact .numeral hn
    | none =>
      simp only [read, hn]
      exact reads_ofChar position c rest

/-! ### A token takes at least one character -/

/-- A lexeme **advances** when it is not empty, unless it holds a fault. -/
def Advances (l : Lexeme) : Prop := ∀ t, l.outcome = .ok t → 0 < l.length

/-- A lexeme with characters goes on. -/
theorem advances_of_pos {l : Lexeme} (h : 0 < l.length) : l.Advances := fun _ _ => h

theorem advances_ofBody (position all : Nat) (token : String → Token) (e : LexError) (b : Body) :
    (ofBody position all token e b).Advances := by
  cases b <;> simp [ofBody, Advances]

/-- A character that a word begins with may stand in it. -/
theorem isIdentifierChar_of_isAlphabetic_or {c : Char} (hc : (isAlphabetic c || c == '_') = true) :
    isIdentifierChar c = true := by
  simp only [isIdentifierChar, isAlphanumeric, Bool.or_eq_true] at hc ⊢
  exact hc.imp_left .inl

theorem advances_ofWord {position : Nat} {c : Char} {rest : List Char}
    (hc : (isAlphabetic c || c == '_') = true) : (ofWord position (c :: rest)).Advances := by
  refine advances_of_pos ?_
  simp only [ofWord]
  split <;> simp [List.takeWhile, isIdentifierChar_of_isAlphabetic_or hc]

theorem advances_ofVariable (position : Nat) (rest : List Char) :
    (ofVariable position rest).Advances := by
  refine advances_of_pos ?_
  unfold ofVariable
  split <;> simp

theorem advances_ofFunction (position : Nat) (rest : List Char) :
    (ofFunction position rest).Advances := by
  refine advances_of_pos ?_
  simp only [ofFunction]
  split <;> simp

theorem advances_ofPair (double single : Operator) (rest : List Char) :
    (ofPair double single rest).Advances := by
  refine advances_of_pos ?_
  unfold ofPair
  split <;> simp

theorem advances_ofTwin (position : Nat) (c : Char) (op : Operator) (rest : List Char) :
    (ofTwin position c op rest).Advances := by
  unfold ofTwin
  split <;> simp [Advances]

@[simp]
theorem numeralLength?_nil : numeralLength? [] = none := rfl

/-- A numeral has a character. -/
theorem numeralLength?_pos {cs : List Char} {n : Nat} (h : numeralLength? cs = some n) :
    0 < n := by
  simp only [numeralLength?] at h
  split at h
  · simp at h
  · rename_i hne
    simp only [Option.some.injEq] at h
    omega

/-- A lexeme that gives a token other than the end is not empty, and neither is the text. -/
theorem Reads.length_pos {position : Nat} {cs : List Char} {l : Lexeme} {t : Token}
    (hl : Reads position cs l) (h : l.outcome = .ok t) (ht : t ≠ .eof) :
    0 < l.length ∧ 0 < cs.length := by
  cases hl with
  | eof => exact absurd (Except.ok.inj h).symm ht
  | @numeral _ n hn =>
    have hpos : 0 < n := numeralLength?_pos hn
    cases cs with
    | nil => exact absurd hn (by simp)
    | cons c rest =>
      refine ⟨?_, Nat.succ_pos _⟩
      rw [ofNumeral]
      split <;> exact hpos
  | reference rest => exact ⟨advances_ofVariable position rest t h, Nat.succ_pos _⟩
  | function rest => exact ⟨advances_ofFunction position rest t h, Nat.succ_pos _⟩
  | string rest => exact ⟨advances_ofBody _ _ _ _ _ t h, Nat.succ_pos _⟩
  | regex rest => exact ⟨advances_ofBody _ _ _ _ _ t h, Nat.succ_pos _⟩
  | mark _ _ rest => exact ⟨Nat.one_pos, Nat.succ_pos _⟩
  | pair _ _ rest => exact ⟨advances_ofPair _ _ rest t h, Nat.succ_pos _⟩
  | twin _ rest => exact ⟨advances_ofTwin position _ _ rest t h, Nat.succ_pos _⟩
  | word hc rest => exact ⟨advances_ofWord hc t h, Nat.succ_pos _⟩
  | unexpected c rest => exact absurd h (by simp)

/-- **A token other than the end takes a character.** -/
theorem read_length_pos {position : Nat} {cs : List Char} {t : Token}
    (h : (read position cs).outcome = .ok t) (ht : t ≠ .eof) :
    0 < (read position cs).length ∧ 0 < cs.length :=
  (reads_read position cs).length_pos h ht

end Lexeme

end Criteria
