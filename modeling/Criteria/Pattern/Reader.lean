import Criteria.Pattern.Class
import Criteria.Text.Letter

/-!
# Reading patterns

A pattern is read from left to right. What has been read is the list of the items of the current
branch, the finished branches of the current group, and the groups around it. Settings hold from
where they stand to the end of their group, also in the branches behind them.

The reader knows no references to groups and no conditions on what is around a piece: a pattern
can always be matched in time proportional to the text.
-/

namespace Criteria.Pattern

/-- A part of a pattern, with how deep it is nested. Settings are parts as well, which cannot be
repeated. -/
structure Part where
  pattern : Pattern
  nesting : Nat
  repeatable : Bool

/-- How deep a pattern may be nested. -/
def patternNestingLimit : Nat := 250

/-- Repetitions are counted below this bound. -/
def countBound : Nat := 0x100000000

/-- The parts of a branch one behind the other. They are given in reverse. -/
def Part.sequence : List Part → Part
  | [] => ⟨.empty, 0, false⟩
  | [p] => p
  | last :: before =>
    before.foldl
      (fun whole p => ⟨.seq p.pattern whole.pattern, max whole.nesting (p.nesting + 1), true⟩)
      { last with nesting := last.nesting + 1 }

/-- The branches of a group side by side. They are given in reverse. -/
def Part.alternatives (last : Part) : List Part → Part
  | [] => last
  | before =>
    before.foldl
      (fun whole p => ⟨.alt p.pattern whole.pattern, max whole.nesting (p.nesting + 1), true⟩)
      { last with nesting := last.nesting + 1 }

/-- A group that is open: what stood before it, and the settings to go back to. -/
structure Group where
  parts : List Part
  branches : List Part
  flags : Flags

/-- A pattern that is being read. Lists are in reverse. -/
structure Reading where
  rest : List Char
  flags : Flags
  parts : List Part
  branches : List Part
  groups : List Group
  /-- The names of groups so far. -/
  names : List (List Char)

namespace Reading

/-- Nothing has been read of a text. -/
def start (cs : List Char) : Reading := ⟨cs, .initial, [], [], [], []⟩

/-- Adds a part and moves on. -/
def add (r : Reading) (p : Pattern) (nesting : Nat) (rest : List Char) : Reading :=
  { r with parts := ⟨p, nesting, true⟩ :: r.parts, rest }

/-! ### Single characters -/

/-- The set of a character, with its case variants if they are asked for. -/
def literalSet (flags : Flags) (c : Char) : CharSet :=
  if !flags.ignoreCase then .single c.toNat
  else if flags.unicode then .ranges ((caseVariants c.toNat).map fun n => (n, n))
  else .folded (.single c.toNat)

/-- Adds what an escape stands for. -/
def addAtom (r : Reading) (rest : List Char) : Atom → Reading
  | .literal c => r.add (.char (literalSet r.flags c)) 0 rest
  | .set s => r.add (.char s) 0 rest
  | .assertion a => r.add (.assertion a) 0 rest

/-- What a circumflex asserts. -/
def lineStart (flags : Flags) : Assertion :=
  if !flags.multiLine then .textStart else if flags.crlf then .crlfLineStart else .lineStart

/-- What a dollar sign asserts. -/
def lineEnd (flags : Flags) : Assertion :=
  if !flags.multiLine then .textEnd else if flags.crlf then .crlfLineEnd else .lineEnd

/-! ### Repetitions -/

/-- Repeats the last part. A question mark behind a repetition makes it lazy, which does not
matter here. -/
def repeatLast (r : Reading) (least : Nat) (most : Option Nat) (rest : List Char) :
    Except PatternFault Reading :=
  match r.parts with
  | p :: before =>
    if p.repeatable then
      let rest := match rest with
        | '?' :: rest => rest
        | rest => rest
      .ok { r with parts := ⟨.repeated p.pattern least most, p.nesting + 1, true⟩ :: before, rest }
    else .error .nothingToRepeat
  | [] => .error .nothingToRepeat

/-- Takes digits, between which there may be blanks in extended patterns. -/
def takeDigits (flags : Flags) (cs : List Char) : List Char × List Char :=
  match cs with
  | [] => ([], [])
  | c :: rest =>
    if '0' ≤ c && c ≤ '9' then
      let (digits, tail) := takeDigits flags (skip flags rest)
      (c :: digits, tail)
    else ([], c :: rest)
termination_by cs.length
decreasing_by exact length_skip_lt flags c rest

/-- Reads a count, if there is one, with blanks around it. -/
def readCount (flags : Flags) (cs : List Char) : Except PatternFault (Option Nat × List Char) :=
  let (digits, rest) := takeDigits flags (cs.dropWhile isBlank)
  let rest := skip flags (rest.dropWhile isBlank)
  if digits.isEmpty then .ok (none, rest)
  else
    let n := digits.foldl (fun n c => 10 * n + (c.toNat - '0'.toNat)) 0
    if n < countBound then .ok (some n, rest) else .error .invalidCount

/-- Reads the bounds of a counted repetition, from behind its opening to behind its closing
brace. The first bound has to be there. -/
def readBounds (flags : Flags) (cs : List Char) :
    Except PatternFault (Nat × Option Nat × List Char) := do
  match ← readCount flags (skip flags cs) with
  | (some least, '}' :: rest) => pure (least, some least, rest)
  | (some least, ',' :: rest) =>
    match skip flags rest with
    | '}' :: rest => pure (least, none, rest)
    | rest =>
      match ← readCount flags rest with
      | (some most, '}' :: rest) =>
        if most < least then .error .invalidCount else pure (least, some most, rest)
      | _ => .error .invalidCount
  | _ => .error .invalidCount

/-! ### Groups -/

/-- A character that can stand in the name of a group. -/
def isNameChar (c : Char) : Bool :=
  isAlphanumeric c || c == '_' || c == '.' || c == '[' || c == ']'

/-- Reads the name of a group up to its closing bracket. -/
def readName (cs : List Char) : Except PatternFault (List Char × List Char) :=
  let name := cs.takeWhile (· != '>')
  match name, cs.dropWhile (· != '>') with
  | first :: others, _ :: rest =>
    if (isAlphabetic first || first == '_') && others.all isNameChar then .ok (name, rest)
    else .error .invalidGroupName
  | _, _ => .error .invalidGroupName

/-- Reads settings up to a colon or a closing parenthesis, which is left. Letters behind a hyphen
are cleared. No letter stands twice, and the hyphen is neither last nor twice there. -/
def readFlags (flags : Flags) (seen : List Char) : List Char →
    Except PatternFault (Flags × Bool × List Char)
  | [] => .error .invalidFlag
  | c :: rest =>
    if c = ':' || c = ')' then
      if seen.head? = some '-' then .error .invalidFlag else .ok (flags, seen.isEmpty, c :: rest)
    else if seen.contains c then .error .invalidFlag
    else if c = '-' then readFlags flags (c :: seen) rest
    else match flags.set? c (!seen.contains '-') with
      | some flags => readFlags flags (c :: seen) rest
      | none => .error .invalidFlag

/-- Opens a group with settings of its own. -/
def openGroup (r : Reading) (flags : Flags) (rest : List Char) : Reading :=
  { r with
    rest, flags, parts := [], branches := []
    groups := ⟨r.parts, r.branches, r.flags⟩ :: r.groups }

/-- Opens a group with a name, from behind the bracket of the name. -/
def openNamed (r : Reading) (cs : List Char) : Except PatternFault Reading := do
  let (name, rest) ← readName cs
  if r.names.contains name then .error .duplicateGroupName
  else pure { r.openGroup r.flags rest with names := name :: r.names }

/-- Reads settings, for a group of their own or for the rest of the current one. -/
def openWithFlags (r : Reading) (cs : List Char) : Except PatternFault Reading := do
  match ← readFlags r.flags [] cs with
  | (flags, _, ':' :: rest) => pure (r.openGroup flags rest)
  | (flags, noSettings, _ :: rest) =>
    if noSettings then .error .nothingToRepeat
    else pure { r with rest, flags, parts := ⟨.empty, 0, false⟩ :: r.parts }
  | (_, _, []) => .error .unclosedGroup

/-- Reads on from behind an opening parenthesis. -/
def openParenthesis (r : Reading) (cs : List Char) : Except PatternFault Reading :=
  match skip r.flags cs with
  | '?' :: '=' :: _ => .error .lookAround
  | '?' :: '!' :: _ => .error .lookAround
  | '?' :: '<' :: '=' :: _ => .error .lookAround
  | '?' :: '<' :: '!' :: _ => .error .lookAround
  | '?' :: 'P' :: '<' :: rest => r.openNamed rest
  | '?' :: '<' :: rest => r.openNamed rest
  | '?' :: rest => r.openWithFlags rest
  | rest => .ok (r.openGroup r.flags rest)

/-- The current group as one part. -/
def current (r : Reading) : Part := Part.alternatives (Part.sequence r.parts) r.branches

/-- Reads on from behind a closing parenthesis. -/
def closeParenthesis (r : Reading) (rest : List Char) : Except PatternFault Reading :=
  match r.groups with
  | [] => .error .unopenedGroup
  | g :: groups =>
    .ok { r with
      rest, groups, flags := g.flags, branches := g.branches
      parts := ⟨r.current.pattern, r.current.nesting + 1, true⟩ :: g.parts }

/-! ### Whole patterns -/

/-- Reads the next element, which begins with the given character. -/
def step (r : Reading) (c : Char) (rest : List Char) : Except PatternFault Reading :=
  match c with
  | '(' => r.openParenthesis rest
  | ')' => r.closeParenthesis rest
  | '|' => .ok { r with rest, parts := [], branches := Part.sequence r.parts :: r.branches }
  | '[' => do
    let (s, rest) ← readClass r.flags rest
    pure (r.add (.char s.set) s.nesting rest)
  | '?' => r.repeatLast 0 (some 1) rest
  | '*' => r.repeatLast 0 none rest
  | '+' => r.repeatLast 1 none rest
  | '{' => do
    let (least, most, rest) ← readBounds r.flags rest
    r.repeatLast least most (skip r.flags rest)
  | '\\' => do
    let (atom, rest) ← readEscape r.flags rest
    pure (r.addAtom rest atom)
  | '.' =>
    if r.flags.unicode then .ok (r.add (.char (.dot r.flags.dotAll r.flags.crlf)) 0 rest)
    else .error .invalidClass
  | '^' => .ok (r.add (.assertion (lineStart r.flags)) 0 rest)
  | '$' => .ok (r.add (.assertion (lineEnd r.flags)) 0 rest)
  | c => .ok (r.add (.char (literalSet r.flags c)) 0 rest)

/-- Ends a pattern, in which no group may be open. -/
def finish (r : Reading) : Except PatternFault Pattern :=
  if !r.groups.isEmpty then .error .unclosedGroup
  else if patternNestingLimit < r.current.nesting then .error .nestedTooDeep
  else .ok r.current.pattern

/-- Reads to the end of a pattern. Each element takes up some of the text. -/
def run (r : Reading) : Except PatternFault Pattern :=
  match skip r.flags r.rest with
  | [] => r.finish
  | c :: rest =>
    match r.step c rest with
    | .error e => .error e
    | .ok r' => if _h : r'.rest.length < r.rest.length then run r' else .error .invalidEscape
termination_by r.rest.length

end Reading

/-- Reads a whole text as a pattern. -/
def read (text : String) : Except PatternFault Pattern := (Reading.start text.toList).run

end Criteria.Pattern
