import Criteria.Proofs.Token.Requests
import Criteria.Proofs.Writing.Decimals

/-!
# What lexical errors point at

An error reports a place, which is counted in characters from the beginning of the text, and often a
character or a word too. Some readers take the place down before they begin, others report the place
that they have come to, and a lexer that is asked again after an error begins where the last reader
stopped, which may be in the middle of a string. **In all of this an error is right about the text**
(`Criteria.LexError.IsRightAbout`): what it names stands where it says.

A reader sees what is left of the text and the place where that begins, and nothing else. It is
right about every text that has what the reader sees at this place
(`Criteria.Lexeme.Reads.isRight`), and a lexer keeps its place in the text over any number of
requests (`Criteria.Lexer.IsPlaceIn.after`).
-/

namespace Criteria

/-! ### Errors that are right -/

namespace LexError

/-- The place that an error reports. -/
def position : LexError → Nat
  | unexpectedChar _ p | incompleteOperator _ p | unknownKeyword _ p | invalidEscape _ p => p
  | unterminatedString p | unterminatedRegex p | unterminatedIndex p => p
  | missingFunctionName p | invalidNumber _ p => p

end LexError

/-- A word is **the run** of identifier characters that begins at a place in a text, as long as it
can be. -/
structure IsRunAt (text : List Char) (position : Nat) (word : List Char) : Prop where
  nonempty : word ≠ []
  isPrefix : word <+: text.drop position
  identifier : ∀ c ∈ word, isIdentifierChar c = true
  maximal : ∀ c, text[position + word.length]? = some c → isIdentifierChar c = false

/-- A word **is a keyword** in some ASCII case. -/
def IsKeyword (word : List Char) : Prop :=
  ∃ keyword ∈ ["true", "false", "nil"], word.map Char.toLower = keyword.toList

/-- **What an error says of a text is right.** The character that it names stands at its place, as
the only one of its kind for half of an operator, and behind a backslash for an escape; the word
that it names is the whole run there, and no keyword; and what it calls unterminated or without a
name begins there. There are no numerals that cannot be read, so an error that says so is never
right. -/
def LexError.IsRightAbout (text : List Char) : LexError → Prop
  | unexpectedChar c p => text[p]? = some c
  | incompleteOperator c p => text[p]? = some c ∧ text[p + 1]? ≠ some c
  | unknownKeyword word p => IsRunAt text p word.toList ∧ ¬IsKeyword word.toList
  | invalidEscape c p => text[p]? = some c ∧ 0 < p ∧ text[p - 1]? = some '\\'
  | unterminatedString p => text[p]? = some '"'
  | unterminatedRegex p => text[p]? = some '/'
  | unterminatedIndex p => text[p]? = some '$'
  | missingFunctionName p => text[p]? = some '@'
  | invalidNumber _ _ => False

section Place

variable {text cs : List Char} {position : Nat}

/-- A run that is not empty begins within the text. -/
theorem IsRunAt.lt_length {word : List Char} (h : IsRunAt text position word) :
    position < text.length := by
  have hle := h.isPrefix.length_le
  have hpos := List.length_pos_iff.mpr h.nonempty
  rw [List.length_drop] at hle
  omega

/-- The place of an error that is right is in the text. -/
theorem LexError.IsRightAbout.position_lt {e : LexError} (h : e.IsRightAbout text) :
    e.position < text.length := by
  have hlt : ∀ {p : Nat} {c : Char}, text[p]? = some c → p < text.length := fun hp => by
    obtain ⟨hp, -⟩ := List.getElem?_eq_some_iff.mp hp
    exact hp
  cases e with
  | unexpectedChar c p => exact hlt h
  | incompleteOperator c p => exact hlt h.1
  | unknownKeyword word p => exact h.1.lt_length
  | invalidEscape c p => exact hlt h.1
  | unterminatedString p => exact hlt h
  | unterminatedRegex p => exact hlt h
  | unterminatedIndex p => exact hlt h
  | missingFunctionName p => exact hlt h
  | invalidNumber text p => exact h.elim

/-- What a reader sees at a place are the characters of the text from there on. -/
theorem getElem?_of_drop_eq (hat : text.drop position = cs) (n : Nat) :
    text[position + n]? = cs[n]? := by
  rw [← hat, List.getElem?_drop]

end Place

/-! ### Readers -/

namespace Lexeme

/-- A lexeme **is right** about a text if the fault that it holds is, where it holds one. -/
def IsRight (x : Lexeme) (text : List Char) : Prop :=
  ∀ e, x.outcome = .error e → e.IsRightAbout text

section IsRight

variable {text : List Char}

theorem isRight_ok (t : Token) (n : Nat) : IsRight ⟨.ok t, n⟩ text := by
  intro e h
  exact absurd h (by simp)

theorem isRight_error {e : LexError} {n : Nat} (h : e.IsRightAbout text) :
    IsRight ⟨.error e, n⟩ text := by
  rintro f hf
  rwa [← Except.error.inj hf]

theorem IsRight.ite {p : Prop} [Decidable p] {x y : Lexeme} (hx : p → x.IsRight text)
    (hy : ¬p → y.IsRight text) : (if p then x else y).IsRight text := by
  split
  · rename_i hp
    exact hx hp
  · rename_i hp
    exact hy hp

/-- Where a numeral has been measured, there is no fault. -/
theorem isRight_ofNumeral {cs : List Char} {n : Nat} (h : numeralLength? cs = some n)
    (position : Nat) : (ofNumeral position cs n).IsRight text := by
  obtain ⟨literal, rest, rfl, rfl, hliteral⟩ := exists_isNumeral h
  obtain ⟨x, hx⟩ := hliteral.exists_denotes
  rw [ofNumeral_of_denotes hx]
  exact isRight_ok _ _

variable {position : Nat} {c : Char} {rest : List Char}

/-- The first character that a reader sees stands at its place. -/
theorem getElem?_of_drop_eq_cons (hat : text.drop position = c :: rest) :
    text[position]? = some c :=
  getElem?_of_drop_eq hat 0

/-! ### Bodies -/

/-- The errors of strings and patterns are right about the text. -/
theorem isRight_ofBody {b : Body} (hat : text.drop position = c :: rest)
    (hb : ∀ d place, b = .badEscape d place →
      ∃ front behind, rest = front ++ '\\' :: d :: behind ∧ place = front.length + 1)
    {unclosed : LexError} (hu : unclosed.IsRightAbout text) (all : Nat) (token : String → Token) :
    (ofBody position all token unclosed b).IsRight text := by
  cases b with
  | closed contents length => exact isRight_ok _ _
  | unclosed => exact isRight_error hu
  | badEscape d place =>
    obtain ⟨front, behind, rfl, rfl⟩ := hb d place rfl
    have hplace : position + 1 + (front.length + 1) = position + (front.length + 2) := by omega
    have hbefore : position + (front.length + 2) - 1 = position + (front.length + 1) := by omega
    refine isRight_error ⟨?_, ?_, ?_⟩
    · rw [hplace, getElem?_of_drop_eq hat]
      simp
    · omega
    · rw [hplace, hbefore, getElem?_of_drop_eq hat]
      simp

/-! ### Variables, names and words -/

/-- The errors of variables are right about the text. -/
theorem isRight_ofVariable (hat : text.drop position = '$' :: rest) :
    (ofVariable position rest).IsRight text := by
  rw [ofVariable]
  split
  · exact isRight_ok _ _
  · exact isRight_error (getElem?_of_drop_eq_cons hat)

/-- The errors of function names are right about the text. -/
theorem isRight_ofFunction (hat : text.drop position = '@' :: rest) :
    (ofFunction position rest).IsRight text :=
  .ite (fun _ => isRight_error (getElem?_of_drop_eq_cons hat)) fun _ => isRight_ok _ _

/-- A run of identifier characters is cut off where it ends. -/
theorem isRunAt_takeWhile (hat : text.drop position = c :: rest)
    (hc : isIdentifierChar c = true) :
    IsRunAt text position ((c :: rest).takeWhile isIdentifierChar) := by
  refine ⟨by simp [hc], ?_, List.all_eq_true.mp List.all_takeWhile, ?_⟩
  · rw [hat]
    exact List.takeWhile_prefix _
  · intro d hd
    -- the character behind the run is the first of those that are left
    rw [getElem?_of_drop_eq hat, ← List.head?_drop, drop_length_takeWhile] at hd
    have hhead := List.head?_dropWhile_not isIdentifierChar (c :: rest)
    rw [hd] at hhead
    exact hhead

/-- A word that is not read is no keyword. -/
theorem not_isKeyword_of_keyword? {word : List Char} (h : keyword? word = none) :
    ¬IsKeyword word := by
  rintro ⟨keyword, hm, hlower⟩
  have hword : String.ofList (word.map Char.toLower) = keyword := by
    rw [hlower, String.ofList_toList]
  simp only [List.mem_cons, List.not_mem_nil, or_false] at hm
  rcases hm with rfl | rfl | rfl <;> simp [keyword?, hword] at h

/-- The errors of words are right about the text. -/
theorem isRight_ofWord (hat : text.drop position = c :: rest)
    (hc : (isAlphabetic c || c == '_') = true) :
    (ofWord position (c :: rest)).IsRight text := by
  rw [ofWord]
  split
  · exact isRight_ok _ _
  · rename_i hnone
    refine isRight_error ⟨?_, ?_⟩
    · rw [String.toList_ofList]
      exact isRunAt_takeWhile hat (isIdentifierChar_of_isAlphabetic_or hc)
    · rw [String.toList_ofList]
      exact not_isKeyword_of_keyword? hnone

/-! ### Operators -/

/-- An operator of one or two characters has no errors. -/
theorem isRight_ofPair (double single : Operator) (rest : List Char) :
    (ofPair double single rest).IsRight text :=
  .ite (fun _ => isRight_ok _ _) fun _ => isRight_ok _ _

/-- The errors of logical operators are right about the text. -/
theorem isRight_ofTwin (hat : text.drop position = c :: rest) (op : Operator) :
    (ofTwin position c op rest).IsRight text := by
  refine .ite (fun _ => isRight_ok _ _) fun hne => ?_
  refine isRight_error ⟨getElem?_of_drop_eq_cons hat, ?_⟩
  rwa [getElem?_of_drop_eq hat, List.getElem?_cons_succ, ← List.head?_eq_getElem?]

/-! ### All lexemes -/

/-- **A lexeme that is read at a place of a text is right about the text.** -/
theorem Reads.isRight {cs : List Char} {x : Lexeme} (h : Reads position cs x)
    (hat : text.drop position = cs) : x.IsRight text := by
  cases h with
  | eof => exact isRight_ok _ _
  | numeral hn => exact isRight_ofNumeral hn position
  | reference rest => exact isRight_ofVariable hat
  | function rest => exact isRight_ofFunction hat
  | string rest =>
    have hquote : (LexError.unterminatedString position).IsRightAbout text :=
      getElem?_of_drop_eq_cons hat
    exact isRight_ofBody hat (fun _ _ => exists_of_stringBody) hquote _ _
  | regex rest =>
    have hslash : (LexError.unterminatedRegex position).IsRightAbout text :=
      getElem?_of_drop_eq_cons hat
    have hnone : ∀ d place, regexBody rest ≠ .badEscape d place := regexBody_ne_badEscape rest
    exact isRight_ofBody hat (fun d place hb => absurd hb (hnone d place)) hslash _ _
  | mark _ _ rest => exact isRight_ok _ _
  | pair _ _ rest => exact isRight_ofPair _ _ rest
  | @twin op c _ rest => exact isRight_ofTwin hat op
  | word hc rest => exact isRight_ofWord hat hc
  | unexpected c rest => exact isRight_error (getElem?_of_drop_eq_cons hat)

end IsRight

end Lexeme

/-! ### Lexers -/

/-- **An error that a lexer gives at a place in a text is right about the text.** -/
theorem Lexer.IsPlaceIn.isRightAbout {text : List Char} {l : Lexer} {e : LexError}
    (h : l.IsPlaceIn text) (he : l.next.1 = .error e) : e.IsRightAbout text := by
  change (Lexeme.read l.skipBlanks.position l.skipBlanks.rest).outcome = .error e at he
  rw [h.skipBlanks.rest_eq] at he
  exact (Lexeme.reads_read _ _).isRight rfl e he

/-- **Lexical errors point at what they name.** -/
theorem lexical_errors_point_at_what_they_name {text : String} {n : Nat} {e : LexError}
    (h : .error e ∈ (Lexer.ofText text).take n) :
    e.position < text.length ∧ e.IsRightAbout text.toList := by
  rw [Lexer.take_eq_map] at h
  obtain ⟨k, -, hk⟩ := List.mem_map.mp h
  have hright := ((Lexer.isPlaceIn_ofText text).after k).isRightAbout hk
  refine ⟨?_, hright⟩
  rw [← String.length_toList]
  exact hright.position_lt

/-- A bad escape breaks a string off, and the next request begins with the escaped character. -/
theorem errors_of_broken_string :
    let text := "é1 \"a\\é"
    (Lexer.ofText text).take 3 = [.error (.unknownKeyword "é1" 0), .error (.invalidEscape 'é' 6),
        .error (.unknownKeyword "é" 6)] ∧
      (6 < text.length ∧ LexError.IsRightAbout text.toList (.invalidEscape 'é' 6)) ∧
      (6 < text.length ∧ LexError.IsRightAbout text.toList (.unknownKeyword "é" 6)) := by
  intro text
  have htake : (Lexer.ofText text).take 3 = [.error (.unknownKeyword "é1" 0),
      .error (.invalidEscape 'é' 6), .error (.unknownKeyword "é" 6)] := by decide
  have hescape : .error (.invalidEscape 'é' 6) ∈ (Lexer.ofText text).take 3 := by simp [htake]
  have hword : .error (.unknownKeyword "é" 6) ∈ (Lexer.ofText text).take 3 := by simp [htake]
  exact ⟨htake, lexical_errors_point_at_what_they_name hescape,
    lexical_errors_point_at_what_they_name hword⟩

end Criteria
