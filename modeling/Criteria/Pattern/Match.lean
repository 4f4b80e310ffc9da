import Criteria.Pattern.Basic

/-!
# Finding patterns in texts

A pattern is looked for in all places of a text at once. A **set of places** is a natural number
whose bits say which places belong to it, and a pattern sends the places where a piece may begin
to those where it may end. All operations distribute over unions, so a repetition is a closure
that only ever follows places which were not reached before; nothing is tried twice.
-/

namespace Criteria

/-- What a pattern does to the places of one text: the sets of characters and the assertions are
replaced by the sets of places where they hold. -/
inductive Motion where
  | stay
  /-- One character onwards from the places in a set. -/
  | step (places : Nat)
  /-- Only the places in a set. -/
  | test (places : Nat)
  | seq (m n : Motion)
  | alt (m n : Motion)
  | repeated (m : Motion) (least : Nat) (most : Option Nat)

namespace Motion

/-- Applies a motion a number of times, or until nothing changes. -/
def iterate (f : Nat → Nat) : Nat → Nat → Nat
  | 0, places => places
  | n + 1, places => if f places = places then places else iterate f n (f places)

/-- Adds what a motion reaches in at most a number of steps from the places that are new. -/
def closure (f : Nat → Nat) : Nat → Nat → Nat → Nat
  | 0, reached, _ => reached
  | n + 1, reached, new =>
    let next := f new
    let fresh := next ^^^ (next &&& reached)
    if fresh = 0 then reached else closure f n (reached ||| fresh) fresh

/-- Where a motion leads from a set of places. In a text with fewer than `count` places no
closure takes more than `count` steps. -/
def run (count : Nat) : Motion → Nat → Nat
  | stay, places => places
  | step set, places => (places &&& set) <<< 1
  | test set, places => places &&& set
  | seq m n, places => run count n (run count m places)
  | alt m n, places => run count m places ||| run count n places
  | repeated m least most, places =>
    let base := iterate (run count m) least places
    closure (run count m) (most.elim count (· - least)) base base

end Motion

/-! ### Places of a text -/

/-- The places of a text whose characters have a property; the place of a character is the one
before it. -/
def placesOf {α : Type} (holds : α → Bool) (cs : List α) : Nat :=
  cs.foldr (fun c places => 2 * places + (if holds c then 1 else 0)) 0

/-- The characters on the two sides of each place. -/
def neighbours (cs : List Nat) : List (Option Nat × Option Nat) :=
  List.zip (none :: cs.map some) (cs.map some ++ [none])

namespace Assertion

/-- Whether there is a character, and it belongs to words. -/
def isWordAt (unicode : Bool) (c : Option Nat) : Bool :=
  match c with
  | some n => (CharSet.word unicode).contains n
  | none => false

/-- Whether an assertion holds between two characters; there is none before the first and behind
the last place. -/
def holds (a : Assertion) (before behind : Option Nat) : Bool :=
  match a with
  | textStart => before.isNone
  | textEnd => behind.isNone
  | lineStart => before.isNone || before == some 0x0A
  | lineEnd => behind.isNone || behind == some 0x0A
  | crlfLineStart =>
    before.isNone || before == some 0x0A || (before == some 0x0D && behind != some 0x0A)
  | crlfLineEnd =>
    behind.isNone || behind == some 0x0D || (behind == some 0x0A && before != some 0x0D)
  | wordBoundary u => isWordAt u before != isWordAt u behind
  | notWordBoundary u => isWordAt u before == isWordAt u behind
  | wordStart u => !isWordAt u before && isWordAt u behind
  | wordEnd u => isWordAt u before && !isWordAt u behind
  | wordStartHalf u => !isWordAt u before
  | wordEndHalf u => !isWordAt u behind

end Assertion

namespace Pattern

/-- What a pattern does to the places of a text. -/
def motion (cs : List Nat) : Pattern → Motion
  | empty => .stay
  | char set => .step (placesOf set.contains cs)
  | assertion a => .test (placesOf (fun p => a.holds p.1 p.2) (neighbours cs))
  | seq p q => .seq (motion cs p) (motion cs q)
  | alt p q => .alt (motion cs p) (motion cs q)
  | repeated p least most => .repeated (motion cs p) least most

/-- Whether a pattern is found somewhere in a text. -/
def isFoundIn (p : Pattern) (text : String) : Bool :=
  let cs := text.toList.map Char.toNat
  let count := cs.length + 1
  (p.motion cs).run count (placesOf (fun _ => true) (neighbours cs)) != 0

end Pattern

end Criteria
