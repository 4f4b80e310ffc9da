import Criteria.Proofs.Token.Respelling

/-!
# Which patterns can be written

A pattern is written between slashes, with a backslash before every slash of its own. This is the
only escape: all other backslashes stand for themselves, as patterns have a use for them. The last
character is the exception. A backslash there comes to stand before the slash that should end the
pattern and escapes it, whatever stands before the backslash. It has to be so, since the text that
two backslashes would have is how the text of a backslash and a slash begins.

**The patterns that can be written are those that do not end in a backslash**
(`Criteria.pattern_is_writable_iff`). The others have no other spelling either; as strings they can
be written.
-/

namespace Criteria

/-- The text of a pattern: slashes around it, and backslashes before its own slashes. -/
def patternText (pattern : String) : String :=
  String.ofList ('/' :: (escapePattern pattern.toList ++ ['/']))

section Pattern

variable {pattern : String}

/-- A pattern that ends in a backslash is not closed by the slash behind it. -/
theorem Lexeme.read_pattern_of_backslash (h : pattern.toList.getLast? = some '\\')
    (position : Nat) :
    read position ('/' :: (escapePattern pattern.toList ++ ['/'])) =
      ⟨.error (.unterminatedRegex position),
        (escapePattern pattern.toList ++ ['/']).length + 1⟩ := by
  rw [read_eq_ofChar rfl]
  change ofBody position _ .regex _ (regexBody _) = _
  rw [regexBody_escapePattern_of_backslash h]
  rfl

/-- Any other pattern is the next token, and its text is used up. -/
theorem Lexer.next_patternText (h : pattern.toList.getLast? ≠ some '\\') :
    ∃ position, (Lexer.ofText (patternText pattern)).next =
      (.ok (.regex pattern), ⟨position, []⟩) := by
  have hrest : (Lexer.ofText (patternText pattern)).rest =
      [] ++ ('/' :: (escapePattern pattern.toList ++ ['/']) ++ []) := by
    rw [ofText, patternText, String.toList_ofList, List.append_nil, List.nil_append]
  exact next_of_read hrest .nil (Lexeme.read_pattern h [])

/-- A pattern that does not end in a backslash is read from its text. -/
theorem Lexer.readAll_patternText (h : pattern.toList.getLast? ≠ some '\\') :
    (Lexer.ofText (patternText pattern)).readAll = [.ok (.regex pattern), .ok .eof] := by
  obtain ⟨position, hnext⟩ := next_patternText h
  obtain ⟨last, heof⟩ := next_of_isBlanks (l := ⟨position, []⟩) .nil
  rw [readAll_of_token hnext (by simp), readAll_of_eof heof]

/-- A pattern that ends in a backslash leaves its text unclosed. -/
theorem Lexer.readAll_patternText_of_backslash (h : pattern.toList.getLast? = some '\\') :
    (Lexer.ofText (patternText pattern)).readAll = [.error (.unterminatedRegex 0)] := by
  have hskip : (Lexer.ofText (patternText pattern)).skipBlanks =
      ⟨0, '/' :: (escapePattern pattern.toList ++ ['/'])⟩ := by
    rw [ofText, patternText, String.toList_ofList]
    rfl
  obtain ⟨last, hnext⟩ : ∃ last, (Lexer.ofText (patternText pattern)).next =
      (.error (.unterminatedRegex 0), last) := by
    rw [next, lexeme, hskip, Lexeme.read_pattern_of_backslash h]
    exact ⟨_, rfl⟩
  exact readAll_of_error hnext

/-- A pattern that was read from a text does not end in a backslash. -/
theorem Lexeme.getLast?_ne_of_isPatternBody {body pattern : List Char}
    (h : IsPatternBody body pattern) :
    pattern.getLast? ≠ some '\\' := by
  induction h with
  | nil => simp
  | @plain c body pattern hs hb h ih =>
    cases pattern with
    | nil =>
      -- nothing of the pattern stands behind the character, so nothing stands there
      cases h
      rw [List.getLast?_singleton]
      intro hc
      exact hb (Option.some.inj hc) rfl
    | cons d pattern => rwa [List.getLast?_cons_cons]
  | @escape body pattern h ih =>
    cases pattern with
    | nil => simp
    | cons d pattern => rwa [List.getLast?_cons_cons]

/-- What a lexer reads as a pattern does not end in a backslash. -/
theorem Lexer.getLast?_ne_of_next {l : Lexer} (h : l.next.1 = .ok (.regex pattern)) :
    pattern.toList.getLast? ≠ some '\\' := by
  have hnext : l.next = (.ok (.regex pattern), l.next.2) := Prod.ext h rfl
  obtain ⟨blanks, word, -, -, hword⟩ := exists_word_of_next hnext (by simp)
  cases hword with
  | regex hbody => exact Lexeme.getLast?_ne_of_isPatternBody hbody
  | symbol hs => exact absurd hs (by simp [Token.symbol?])

end Pattern

/-- **The patterns that can be written** are those that do not end in a backslash. The text of such
a pattern is read as this one token. The text of any other pattern is not terminated, and no place
in any text is read as it. -/
theorem pattern_is_writable_iff (pattern : String) :
    ((Lexer.ofText (patternText pattern)).readAll = [.ok (.regex pattern), .ok .eof] ↔
      pattern.toList.getLast? ≠ some '\\') ∧
    ((Lexer.ofText (patternText pattern)).readAll = [.error (.unterminatedRegex 0)] ↔
      pattern.toList.getLast? = some '\\') ∧
    ((∃ l : Lexer, l.next.1 = .ok (.regex pattern)) ↔ pattern.toList.getLast? ≠ some '\\') := by
  have hread : (∃ l : Lexer, l.next.1 = .ok (.regex pattern)) →
      pattern.toList.getLast? ≠ some '\\' := by
    rintro ⟨l, hl⟩
    exact Lexer.getLast?_ne_of_next hl
  by_cases h : pattern.toList.getLast? = some '\\'
  · rw [Lexer.readAll_patternText_of_backslash h]
    exact ⟨by simp [h], by simp [h], hread, fun hne => absurd h hne⟩
  · rw [Lexer.readAll_patternText h]
    obtain ⟨position, hnext⟩ := Lexer.next_patternText h
    exact ⟨by simp [h], by simp [h], hread, fun _ => ⟨_, congrArg Prod.fst hnext⟩⟩

/-- **An escaped backslash does not end a pattern.** The pattern of two backslashes ends in an even
number of them, and all the same its text is not terminated. -/
theorem escaped_backslash_escapes_slash :
    ("\\\\".toList.reverse.takeWhile (· = '\\')).length = 2 ∧
      patternText "\\\\" = "/\\\\/" ∧
      (Lexer.ofText (patternText "\\\\")).readAll = [.error (.unterminatedRegex 0)] ∧
      (Lexer.ofText (patternText "\\\\")).readAll ≠ [.ok (.regex "\\\\"), .ok .eof] := by
  have hlast : "\\\\".toList.getLast? = some '\\' := rfl
  have hread := Lexer.readAll_patternText_of_backslash hlast
  exact ⟨by decide, by decide, hread, by simp [hread]⟩

/-- The text is how that of the pattern of a backslash and a slash begins. -/
example : (patternText "\\\\").toList <+: (patternText "\\/").toList := by decide

end Criteria
