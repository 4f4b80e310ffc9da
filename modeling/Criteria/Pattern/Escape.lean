import Criteria.Pattern.Basic
import Criteria.Pattern.Fault
import Criteria.Text.CodePoint

/-!
# Escapes in patterns

A backslash and what follows it stand for a character, a set of characters or an assertion.
Backslashes before punctuation only take away its meaning; letters have the meanings given here
or none, in which case the escape is refused.

In **extended** patterns white space and comments may stand between the parts of an escape.
-/

namespace Criteria.Pattern

/-- The settings that change how a pattern is read. -/
structure Flags where
  ignoreCase : Bool
  multiLine : Bool
  dotAll : Bool
  unicode : Bool
  crlf : Bool
  extended : Bool

/-- The settings at the start of a pattern. -/
def Flags.initial : Flags := ⟨false, false, false, true, false, false⟩

/-- Sets or clears a setting by its letter. -/
def Flags.set? (flags : Flags) (c : Char) (on : Bool) : Option Flags :=
  match c with
  | 'i' => some { flags with ignoreCase := on }
  | 'm' => some { flags with multiLine := on }
  | 's' => some { flags with dotAll := on }
  | 'u' => some { flags with unicode := on }
  | 'R' => some { flags with crlf := on }
  | 'x' => some { flags with extended := on }
  -- which of greedy and lazy is the rule
  | 'U' => some flags
  | _ => none

/-! ### White space and comments -/

/-- Leaves out white space and comments, which reach from `#` to the end of the line. -/
def skipSpace (inComment : Bool) : List Char → List Char
  | [] => []
  | c :: rest =>
    if inComment then skipSpace (c != '\n') rest
    else if isBlank c then skipSpace false rest
    else if c = '#' then skipSpace true rest
    else c :: rest

/-- Leaves out white space and comments in extended patterns. -/
def skip (flags : Flags) (cs : List Char) : List Char :=
  if flags.extended then skipSpace false cs else cs

/-- White space and comments are not followed by more than there was. -/
theorem length_skipSpace_le (inComment : Bool) (cs : List Char) :
    (skipSpace inComment cs).length ≤ cs.length := by
  induction cs generalizing inComment with
  | nil => simp [skipSpace]
  | cons c rest ih =>
    unfold skipSpace
    split
    · exact Nat.le_succ_of_le (ih _)
    · split
      · exact Nat.le_succ_of_le (ih _)
      · split
        · exact Nat.le_succ_of_le (ih _)
        · exact Nat.le_refl _

/-- A character that is taken makes the rest shorter, whatever is passed over behind it. -/
theorem length_skip_lt (flags : Flags) (c : Char) (rest : List Char) :
    (skip flags rest).length < (c :: rest).length := by
  unfold skip
  split
  · exact Nat.lt_succ_of_le (length_skipSpace_le _ _)
  · exact Nat.lt_succ_self _

/-! ### Characters by number -/

/-- The hexadecimal number of `count` more digits. -/
def readHexDigits (flags : Flags) : Nat → Nat → List Char → Except PatternFault (Nat × List Char)
  | 0, code, cs => .ok (code, cs)
  | _ + 1, _, [] => .error .invalidEscape
  | count + 1, code, c :: rest =>
    match hexValue? c with
    | some digit => readHexDigits flags count (16 * code + digit) (skip flags rest)
    | none => .error .invalidEscape

/-- The hexadecimal number up to a closing brace; `code` is what has been read, if anything. -/
def readHexBraces (flags : Flags) (code : Option Nat) (cs : List Char) :
    Except PatternFault (Nat × List Char) :=
  match cs with
  | [] => .error .invalidEscape
  | c :: rest =>
    if c = '}' then
      match code with
      | some n => .ok (n, skip flags rest)
      | none => .error .invalidEscape
    else match hexValue? c with
      | some digit => readHexBraces flags (some (16 * code.getD 0 + digit)) (skip flags rest)
      | none => .error .invalidEscape
termination_by cs.length
decreasing_by exact length_skip_lt flags c rest

/-- What a pattern element is before it is repeated. -/
inductive Atom where
  | literal (c : Char)
  | set (s : CharSet)
  | assertion (a : Assertion)

/-- The character with a number. Without Unicode, two digits stand for a byte, and no text holds
a byte beyond ASCII by itself. -/
def charAtom (flags : Flags) (byte : Bool) (code : Nat) : Except PatternFault Atom :=
  if byte && !flags.unicode && 0x80 ≤ code then .error .invalidEscape
  else match charOfCode? code with
    | some c => .ok (.literal c)
    | none => .error .invalidEscape

/-- A character by its number, from behind the letter that says how many digits there are. -/
def readHex (flags : Flags) (count : Nat) (cs : List Char) :
    Except PatternFault (Atom × List Char) := do
  let (code, byte, rest) ← match skip flags cs with
    | '{' :: rest => do
      let (code, rest) ← readHexBraces flags none (skip flags rest)
      pure (code, false, rest)
    | rest => do
      let (code, rest) ← readHexDigits flags count 0 rest
      pure (code, count == 2, rest)
  let atom ← charAtom flags byte code
  pure (atom, rest)

/-! ### Word boundaries -/

/-- The word in braces behind a word boundary: letters and hyphens, with the text behind them. -/
def takeBoundaryName (flags : Flags) (cs : List Char) : List Char × List Char :=
  match cs with
  | [] => ([], [])
  | c :: rest =>
    if c.isAlpha || c = '-' then
      let (name, tail) := takeBoundaryName flags (skip flags rest)
      (c :: name, tail)
    else ([], c :: rest)
termination_by cs.length
decreasing_by exact length_skip_lt flags c rest

/-- A word boundary, from behind its letter. Braces behind it may say which sort it is; braces
that hold no word are left for a repetition. -/
def readBoundary (flags : Flags) (cs : List Char) : Except PatternFault (Atom × List Char) :=
  let plain : Except PatternFault (Atom × List Char) :=
    .ok (.assertion (.wordBoundary flags.unicode), cs)
  match cs with
  | '{' :: inner =>
    let inner := skip flags inner
    if inner.isEmpty then .error .invalidEscape
    else
      match takeBoundaryName flags inner with
      | ([], _) => plain
      | (name, '}' :: rest) =>
        match String.ofList name with
        | "start" => .ok (.assertion (.wordStart flags.unicode), rest)
        | "end" => .ok (.assertion (.wordEnd flags.unicode), rest)
        | "start-half" => .ok (.assertion (.wordStartHalf flags.unicode), rest)
        | "end-half" => .ok (.assertion (.wordEndHalf flags.unicode), rest)
        | _ => .error .invalidEscape
      | _ => .error .invalidEscape
  | _ => plain

/-! ### Escapes -/

/-- Whether a backslash takes the meaning of a character away: it is ASCII and neither a letter
nor a digit, and not an angle bracket, which then has a meaning. -/
def isEscapable (c : Char) : Bool :=
  c.toNat < 0x80 && !c.isAlphanum && c != '<' && c != '>'

/-- A named set or its complement. Without Unicode the complement would hold parts of
characters, so it is refused. -/
def namedSet (flags : Flags) (negated : Bool) (s : CharSet) (rest : List Char) :
    Except PatternFault (Atom × List Char) :=
  if negated && !flags.unicode then .error .invalidClass
  else .ok (.set (s.negateIf negated), rest)

/-- What an escape stands for, from behind its backslash. -/
def readEscape (flags : Flags) (cs : List Char) : Except PatternFault (Atom × List Char) :=
  match cs with
  | [] => .error .invalidEscape
  | c :: rest =>
    let literal (d : Char) : Except PatternFault (Atom × List Char) := .ok (.literal d, rest)
    if isEscapable c then literal c
    else match c with
      | 'x' => readHex flags 2 rest
      | 'u' => readHex flags 4 rest
      | 'U' => readHex flags 8 rest
      | 'd' => namedSet flags false (.digit flags.unicode) rest
      | 'D' => namedSet flags true (.digit flags.unicode) rest
      | 's' => namedSet flags false (.space flags.unicode) rest
      | 'S' => namedSet flags true (.space flags.unicode) rest
      | 'w' => namedSet flags false (.word flags.unicode) rest
      | 'W' => namedSet flags true (.word flags.unicode) rest
      | 'a' => literal '\x07'
      | 'f' => literal '\x0c'
      | 'n' => literal '\n'
      | 'r' => literal '\r'
      | 't' => literal '\t'
      | 'v' => literal '\x0b'
      | 'A' => .ok (.assertion .textStart, rest)
      | 'z' => .ok (.assertion .textEnd, rest)
      | 'b' => readBoundary flags rest
      | 'B' => .ok (.assertion (.notWordBoundary flags.unicode), rest)
      | '<' => .ok (.assertion (.wordStart flags.unicode), rest)
      | '>' => .ok (.assertion (.wordEnd flags.unicode), rest)
      | _ => .error .invalidEscape

end Criteria.Pattern
