import Criteria.Text.Blank
import Criteria.Token.Lexeme

/-!
# Lexers

A **lexer** is a place in a text: what is left to read, and how many characters were read before.
It can be asked for a token any number of times, also after an error and after the end. An error
may leave the lexer where it is; a token other than the end always takes it forward, which is
why reading until the end stops.
-/

namespace Criteria

/-- A place in a text. -/
structure Lexer where
  position : Nat
  rest : List Char
  deriving DecidableEq

namespace Lexer

/-- The beginning of a text. -/
def ofText (text : String) : Lexer := ⟨0, text.toList⟩

/-- Moves on by a number of characters. -/
def advance (l : Lexer) (n : Nat) : Lexer := ⟨l.position + n, l.rest.drop n⟩

/-- Moves on to the next character that is not blank. -/
def skipBlanks (l : Lexer) : Lexer :=
  ⟨l.position + (l.rest.takeWhile isBlank).length, l.rest.dropWhile isBlank⟩

/-- The lexeme behind the blanks. -/
def lexeme (l : Lexer) : Lexeme := Lexeme.read l.skipBlanks.position l.skipBlanks.rest

/-- The next token or error, and the place behind it. -/
def next (l : Lexer) : Except LexError Token × Lexer :=
  (l.lexeme.outcome, l.skipBlanks.advance l.lexeme.length)

/-- Passing over blanks does not make the rest longer. -/
theorem length_skipBlanks_le (l : Lexer) : l.skipBlanks.rest.length ≤ l.rest.length :=
  (List.dropWhile_suffix _).length_le

/-- A token other than the end leaves less of the text. -/
theorem length_next_lt {l l' : Lexer} {t : Token} (h : l.next = (.ok t, l')) (ht : t ≠ .eof) :
    l'.rest.length < l.rest.length := by
  simp only [next, Prod.mk.injEq] at h
  obtain ⟨hok, rfl⟩ := h
  have ⟨hpos, hrest⟩ := Lexeme.read_length_pos hok ht
  have := l.length_skipBlanks_le
  simp only [lexeme, advance, List.length_drop]
  omega

/-- Everything up to the end of the text or the first error, either of them included. -/
def readAll (l : Lexer) : List (Except LexError Token) :=
  match _h : l.next with
  | (.error e, _) => [.error e]
  | (.ok t, l') => if _ht : t = .eof then [.ok .eof] else .ok t :: readAll l'
termination_by l.rest.length
decreasing_by exact length_next_lt _h _ht

/-- What the next `n` requests give, and the place behind them. -/
def take : Nat → Lexer → List (Except LexError Token)
  | 0, _ => []
  | n + 1, l => l.next.1 :: take n l.next.2

/-- The tokens of a text, the end not included. -/
def tokens (l : Lexer) : Except LexError (List Token) :=
  match _h : l.next with
  | (.error e, _) => .error e
  | (.ok t, l') =>
    if _ht : t = .eof then .ok []
    else match tokens l' with
      | .error e => .error e
      | .ok ts => .ok (t :: ts)
termination_by l.rest.length
decreasing_by exact length_next_lt _h _ht

end Lexer

end Criteria
