import Criteria.Pattern.Escape

/-!
# Classes in patterns

A class in brackets is a set of characters: single characters, ranges, named sets, nested classes,
and combinations of these by `&&`, `--` and `~~`, which group to the left. The reader keeps a stack
of the brackets and operators that are open.

Together with each set goes its *nesting*, by which overly deep patterns are refused.
-/

namespace Criteria.Pattern

/-- A set with how deep it is nested. -/
structure Nested where
  set : CharSet
  nesting : Nat

/-- The members of a class so far, since its bracket or its last operator. -/
structure Members where
  set : CharSet
  /-- The nesting of the deepest member. -/
  nesting : Nat
  count : Nat

namespace Members

/-- No member has been read. -/
def none : Members := ⟨.empty, 0, 0⟩

/-- One more member. -/
def add (m : Members) (s : CharSet) (nesting : Nat) : Members :=
  ⟨if m.count = 0 then s else .union m.set s, max m.nesting nesting, m.count + 1⟩

/-- The set of all members; several of them nest one deeper than one. -/
def toNested (m : Members) : Nested := ⟨m.set, if m.count ≤ 1 then m.nesting else m.nesting + 1⟩

end Members

/-- The operators between the members of a class. -/
inductive SetOperator where
  | inter
  | diff
  | symmDiff

/-- The set that an operator makes of two sets. -/
def SetOperator.apply : SetOperator → CharSet → CharSet → CharSet
  | inter, s, t => .inter s t
  | diff, s, t => .diff s t
  | symmDiff, s, t => .symmDiff s t

/-- Something open in a class. -/
inductive ClassLevel where
  /-- A bracket, with the members before it. -/
  | bracket (outer : Members) (negated : Bool)
  /-- An operator, with the set before it. -/
  | operator (op : SetOperator) (left : Nested)

/-- A class that is being read. -/
structure ClassReading where
  levels : List ClassLevel
  members : Members
  rest : List Char

/-! ### Parts of classes -/

/-- Reads a member of a class that is not a class itself. -/
def readMember (flags : Flags) (cs : List Char) : Except PatternFault (Atom × List Char) :=
  match cs with
  | [] => .error .unclosedClass
  | c :: rest => if c = '\\' then readEscape flags rest else .ok (.literal c, rest)

/-- A range of characters. Without Unicode it has to be one of ASCII. -/
def rangeSet (flags : Flags) (low high : Char) : Except PatternFault CharSet :=
  if high < low || (!flags.unicode && 0x80 ≤ high.toNat) then .error .invalidClass
  else .ok (.ranges [(low.toNat, high.toNat)])

/-- The set of a member. -/
def memberSet (flags : Flags) : Atom → Except PatternFault CharSet
  | .literal c => rangeSet flags c c
  | .set s => .ok s
  | .assertion _ => .error .invalidClass

/-- The first character that is neither blank nor the mark of a comment in extended patterns. -/
def firstVisible? (flags : Flags) (cs : List Char) : Option Char :=
  if flags.extended then
    match cs.dropWhile isBlank with
    | '#' :: rest => (rest.dropWhile isBlank).head?
    | rest => rest.head?
  else cs.head?

/-- Reads a member, or two with a hyphen between them as a range. A hyphen before the end of the
class or before another hyphen makes no range. -/
def readRange (flags : Flags) (cs : List Char) : Except PatternFault (CharSet × List Char) := do
  let (low, rest) ← readMember flags cs
  match skip flags rest with
  | [] => .error .unclosedClass
  | c :: rest =>
    if c != '-' || firstVisible? flags rest == some ']' || firstVisible? flags rest == some '-' then
      let s ← memberSet flags low
      pure (s, c :: rest)
    else
      let (high, rest) ← readMember flags (skip flags rest)
      match low, high with
      | .literal a, .literal b =>
        let s ← rangeSet flags a b
        pure (s, rest)
      | _, _ => .error .invalidClass

/-- Reads a named set, from behind its bracket; there is none if the brackets, colons and name are
not as they should be. -/
def readNamed? (cs : List Char) : Option (Bool × CharSet × List Char) :=
  match cs with
  | ':' :: rest =>
    let (negated, rest) := match rest with
      | '^' :: rest => (true, rest)
      | rest => (false, rest)
    let name := rest.takeWhile (· != ':')
    match rest.dropWhile (· != ':') with
    | ':' :: ']' :: rest =>
      (CharSet.named? (String.ofList name)).map fun s => (negated, s, rest)
    | _ => none
  | _ => none

/-- Takes hyphens at the beginning of a class, which stand for themselves. -/
def takeHyphens (flags : Flags) (m : Members) (cs : List Char) : Members × List Char :=
  match cs with
  | [] => (m, [])
  | c :: rest =>
    if c = '-' then takeHyphens flags (m.add (.single '-'.toNat) 0) (skip flags rest)
    else (m, c :: rest)
termination_by cs.length
decreasing_by exact length_skip_lt flags c rest

/-- Reads the beginning of a class, from behind its bracket: whether it is negated, and the
hyphens or the closing bracket that stand for themselves there. -/
def readOpening (flags : Flags) (cs : List Char) :
    Except PatternFault (Bool × Members × List Char) :=
  let cs := skip flags cs
  let (negated, cs) := match cs with
    | '^' :: rest => (true, skip flags rest)
    | cs => (false, cs)
  match takeHyphens flags .none cs with
  | (_, []) => .error .unclosedClass
  | (m, c :: rest) =>
    if m.count = 0 && c = ']' then .ok (negated, m.add (.single ']'.toNat) 0, skip flags rest)
    else .ok (negated, m, c :: rest)

/-- A set under a negation and with case variants. Without Unicode there is no negation. -/
def finishSet (flags : Flags) (negated : Bool) (s : CharSet) : Except PatternFault CharSet :=
  if negated && !flags.unicode then .error .invalidClass
  else .ok ((s.foldIf flags.ignoreCase).negateIf negated)

/-! ### Whole classes -/

/-- Applies the operator that is open, if any, to the members behind it. -/
def closeOperator (flags : Flags) (levels : List ClassLevel) (m : Members) :
    Nested × List ClassLevel :=
  match levels with
  | .operator op left :: rest =>
    let right := m.toNested
    (⟨op.apply (left.set.foldIf flags.ignoreCase) (right.set.foldIf flags.ignoreCase),
      max left.nesting right.nesting + 1⟩, rest)
  | levels => (m.toNested, levels)

/-- What comes of reading on in a class. -/
inductive ClassStep where
  | more (r : ClassReading)
  | done (s : Nested) (rest : List Char)

/-- Reads on from behind an operator. -/
def openOperator (flags : Flags) (r : ClassReading) (op : SetOperator) (rest : List Char) :
    ClassStep :=
  let (left, levels) := closeOperator flags r.levels r.members
  .more ⟨.operator op left :: levels, .none, rest⟩

/-- Reads on from behind a closing bracket. -/
def closeBracket (flags : Flags) (r : ClassReading) (rest : List Char) :
    Except PatternFault ClassStep :=
  match closeOperator flags r.levels r.members with
  | (inner, .bracket outer negated :: levels) => do
    let s ← finishSet flags negated inner.set
    if levels.isEmpty then pure (.done ⟨s, inner.nesting + 1⟩ rest)
    else pure (.more ⟨levels, outer.add s (inner.nesting + 1), rest⟩)
  | _ => .error .unclosedClass

/-- Reads on from behind an opening bracket inside of a class. -/
def openBracket (flags : Flags) (r : ClassReading) (rest : List Char) :
    Except PatternFault ClassStep :=
  match readNamed? rest with
  | some (negated, s, rest) => do
    let s ← finishSet flags negated s
    pure (.more { r with members := r.members.add s 0, rest })
  | none => do
    let (negated, members, rest) ← readOpening flags rest
    pure (.more ⟨.bracket r.members negated :: r.levels, members, rest⟩)

/-- Reads the next part of a class. -/
def classStep (flags : Flags) (r : ClassReading) : Except PatternFault ClassStep :=
  match skip flags r.rest with
  | [] => .error .unclosedClass
  | '[' :: rest => openBracket flags r rest
  | ']' :: rest => closeBracket flags r rest
  | '&' :: '&' :: rest => .ok (openOperator flags r .inter rest)
  | '-' :: '-' :: rest => .ok (openOperator flags r .diff rest)
  | '~' :: '~' :: rest => .ok (openOperator flags r .symmDiff rest)
  | cs => do
    let (s, rest) ← readRange flags cs
    pure (.more { r with members := r.members.add s 0, rest })

/-- Reads a class to its end. Each part takes up some of the text. -/
def readParts (flags : Flags) (r : ClassReading) : Except PatternFault (Nested × List Char) :=
  match classStep flags r with
  | .error e => .error e
  | .ok (.done s rest) => .ok (s, rest)
  | .ok (.more r') =>
    if _h : r'.rest.length < r.rest.length then readParts flags r' else .error .unclosedClass
termination_by r.rest.length

/-- Reads a class, from behind its bracket. -/
def readClass (flags : Flags) (cs : List Char) : Except PatternFault (Nested × List Char) := do
  let (negated, members, rest) ← readOpening flags cs
  readParts flags ⟨[.bracket .none negated], members, rest⟩

end Criteria.Pattern
