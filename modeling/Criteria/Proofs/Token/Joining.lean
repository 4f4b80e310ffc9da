import Criteria.Proofs.Token.Words
import Criteria.Proofs.Writing.Lexemes

/-!
# Texts one behind the other

The lexer takes as much for a token as it can, so a text that is put behind another one may change
the last token of that one: `1` and `.5`, `<` and `=`. It does not if it begins with a character
that continues no token (`Criteria.EndsToken`), such as a parenthesis, a comma or a blank.

So reading can be put together from pieces. What a text is read as (`Criteria.IsReadAs`) does not
depend on the place where it stands, and **the tokens of two texts, one behind the other, are the
tokens of the first and those of the second** (`Criteria.IsReadAs.append`). Here every reader is
followed in turn: what it has found in a text, it finds in any longer text
(`Criteria.Lexeme.isKept_read`).
-/

namespace Criteria

/-! ### Where tokens end -/

/-- Whether a character may be taken up into a token that could end before it. -/
def continuesToken (c : Char) : Bool :=
  isIdentifierChar c || c == '-' || c == '.' || c == '[' || c == '='

/-- The end of a text, or a character that continues no token. -/
def EndsToken (rest : List Char) : Prop := ∀ c, rest.head? = some c → continuesToken c = false

theorem EndsToken.nil : EndsToken [] := fun _ h => absurd h (by simp)

theorem EndsToken.cons {c : Char} {cs : List Char} (hc : continuesToken c = false) :
    EndsToken (c :: cs) := fun d hd => by rwa [← Option.some.inj hd]

/-- Digits may stand in words. -/
theorem isIdentifierChar_of_isDigit {c : Char} (h : isDigit c = true) :
    isIdentifierChar c = true := by
  simp [isIdentifierChar, isAlphanumeric, isNumber_of_isDigit h]

/-- Characters of words continue tokens. -/
theorem continuesToken_of_isIdentifierChar (c : Char) (h : isIdentifierChar c = true) :
    continuesToken c = true := by
  simp [continuesToken, h]

/-- Digits continue tokens. -/
theorem continuesToken_of_isDigit (c : Char) (h : isDigit c = true) : continuesToken c = true :=
  continuesToken_of_isIdentifierChar c (isIdentifierChar_of_isDigit h)

section EndsToken

variable {rest : List Char}

/-- What ends a token does not begin with a character that continues one. -/
theorem EndsToken.head?_ne (h : EndsToken rest) {c : Char} (hc : continuesToken c = true) :
    rest.head? ≠ some c := fun hr => absurd (h c hr) (by simp [hc])

/-- A run of characters that continue tokens does not go on into the next text. -/
theorem EndsToken.takeWhile_append (h : EndsToken rest) {p : Char → Bool}
    (hp : ∀ c, p c = true → continuesToken c = true) (cs : List Char) :
    (cs ++ rest).takeWhile p = cs.takeWhile p := by
  induction cs with
  | nil =>
    cases rest with
    | nil => rfl
    | cons c rest =>
      have hc : p c = false := Bool.eq_false_iff.mpr fun hpc => h.head?_ne (hp c hpc) rfl
      rw [List.nil_append, List.takeWhile_cons, hc]
      rfl
  | cons c cs ih => rw [List.cons_append, List.takeWhile_cons, List.takeWhile_cons, ih]

end EndsToken

namespace Lexeme

/-- A lexeme is **kept** by a second reading that gives the same, unless it holds a fault. -/
def IsKept (l l' : Lexeme) : Prop := ∀ t, l.outcome = .ok t → l' = l

theorem isKept_refl (l : Lexeme) : l.IsKept l := fun _ _ => rfl

theorem isKept_error (e : LexError) (length : Nat) (l' : Lexeme) :
    IsKept ⟨.error e, length⟩ l' := by
  intro t h
  exact absurd h (by simp)

theorem IsKept.ite {p : Prop} [Decidable p] {l m l' m' : Lexeme} (hl : p → l.IsKept l')
    (hm : m.IsKept m') : (if p then l else m).IsKept (if p then l' else m') := by
  by_cases hp : p
  · simpa only [if_pos hp] using hl hp
  · simpa only [if_neg hp] using hm

section Readers

variable {rest : List Char}

/-! ### Numerals -/

/-- Decimals before the end of a token are the same with what follows. -/
theorem fractionLength_append (hr : EndsToken rest) (cs : List Char) :
    fractionLength (cs ++ rest) = fractionLength cs := by
  cases cs with
  | nil =>
    cases rest with
    | nil => rfl
    | cons c rest =>
      have hpoint : c ≠ '.' := fun h => hr.head?_ne (c := c) (by rw [h]; rfl) rfl
      simp [fractionLength, hpoint]
  | cons c cs =>
    simp only [List.cons_append, fractionLength, hr.takeWhile_append continuesToken_of_isDigit]

/-- A numeral before the end of a token is the same with what follows. -/
theorem numeralLength?_cons_append (hr : EndsToken rest) (c : Char) (cs : List Char) :
    numeralLength? (c :: cs ++ rest) = numeralLength? (c :: cs) := by
  have hsign : signLength (c :: cs ++ rest) = signLength (c :: cs) := rfl
  have hone : signLength (c :: cs) ≤ (c :: cs).length := by
    simp only [signLength, List.length_cons]
    split <;> omega
  simp only [numeralLength?, hsign]
  -- the sign is the same, then the digits behind it, and then the fraction behind these
  generalize signLength (c :: cs) = sign at hone ⊢
  have hunsigned : (c :: cs ++ rest).drop sign = (c :: cs).drop sign ++ rest :=
    List.drop_append_of_le_length hone
  rw [hunsigned, hr.takeWhile_append continuesToken_of_isDigit]
  have hwhole : (((c :: cs).drop sign).takeWhile isDigit).length ≤ ((c :: cs).drop sign).length :=
    (List.takeWhile_prefix isDigit).length_le
  rw [List.length_drop] at hwhole
  generalize (((c :: cs).drop sign).takeWhile isDigit).length = whole at hwhole ⊢
  have hbehind : (c :: cs ++ rest).drop (sign + whole) = (c :: cs).drop (sign + whole) ++ rest :=
    List.drop_append_of_le_length (by omega)
  rw [hbehind, fractionLength_append hr]

/-- A numeral is kept, whatever follows it. -/
theorem isKept_ofNumeral {cs : List Char} {n : Nat} (hn : n ≤ cs.length) (position place : Nat) :
    IsKept (ofNumeral position cs n) (ofNumeral place (cs ++ rest) n) := by
  rw [ofNumeral, ofNumeral, List.take_append_of_le_length hn]
  split
  · exact isKept_refl _
  · exact isKept_error _ _ _

/-! ### Strings and patterns -/

/-- A body is **kept** by a second reading that gives the same, if it is closed. -/
def Body.IsKept (b b' : Body) : Prop := ∀ contents length, b = .closed contents length → b' = b

theorem Body.IsKept.cons {b b' : Body} (h : b.IsKept b') (c : Char) (width : Nat) :
    (b.cons c width).IsKept (b'.cons c width) := by
  cases b with
  | closed contents length =>
    rw [h contents length rfl]
    exact fun _ _ _ => rfl
  | badEscape d place => exact fun _ _ hc => absurd hc (by simp [Body.cons])
  | unclosed => exact fun _ _ hc => absurd hc (by simp [Body.cons])

/-- A string that is closed is kept, whatever follows it. -/
theorem isKept_stringBody (cs rest : List Char) :
    (stringBody cs).IsKept (stringBody (cs ++ rest)) := by
  induction cs using stringBody.induct with
  | case1 => exact fun _ _ hc => absurd hc (by simp [stringBody])
  | case2 => exact fun _ _ _ => stringBody_quote rest
  | case3 c hc => exact fun _ _ hb => absurd hb (by simp [stringBody, hc])
  | case4 d tail => exact fun _ _ _ => (stringBody_quote _).trans (stringBody_quote _).symm
  | case5 d tail e he hq ih =>
    rw [List.cons_append, List.cons_append, stringBody_escape he, stringBody_escape he]
    exact ih.cons e 2
  | case6 d tail he hq =>
    rw [stringBody, if_neg hq, if_pos rfl, he]
    exact fun _ _ hb => absurd hb (by simp)
  | case7 c d tail hq hb ih =>
    rw [List.cons_append, stringBody_plain hq hb, stringBody_plain hq hb]
    exact ih.cons c 1

/-- A pattern that is closed is kept, whatever follows it. -/
theorem isKept_regexBody (cs rest : List Char) :
    (regexBody cs).IsKept (regexBody (cs ++ rest)) := by
  induction cs using regexBody.induct with
  | case1 => exact fun _ _ hc => absurd hc (by simp [regexBody])
  | case2 => exact fun _ _ _ => regexBody_slash rest
  | case3 c hc => exact fun _ _ hb => absurd hb (by simp [regexBody, hc])
  | case4 d tail => exact fun _ _ _ => (regexBody_slash _).trans (regexBody_slash _).symm
  | case5 c d tail hs hb ih =>
    simp only [Bool.and_eq_true, decide_eq_true_eq] at hb
    obtain ⟨rfl, rfl⟩ := hb
    rw [List.cons_append, List.cons_append, regexBody_escape, regexBody_escape]
    exact ih.cons '/' 2
  | case6 c d tail hs hb ih =>
    have hnext : c = '\\' → ∀ more, (d :: more).head? ≠ some '/' := by
      rintro rfl more hd
      obtain rfl := Option.some.inj hd
      exact hb rfl
    rw [List.cons_append, List.cons_append, regexBody_plain hs fun hc => hnext hc tail,
      regexBody_plain hs fun hc => hnext hc (tail ++ rest)]
    exact ih.cons c 1

theorem isKept_ofBody {b b' : Body} (h : b.IsKept b') (position place all all' : Nat)
    (token : String → Token) (e e' : LexError) :
    IsKept (ofBody position all token e b) (ofBody place all' token e' b') := by
  cases b with
  | closed contents length =>
    rw [h contents length rfl]
    exact isKept_refl _
  | badEscape c place => exact isKept_error _ _ _
  | unclosed => exact isKept_error _ _ _

/-! ### Variables, names and words -/

/-- A path before the end of a token is the same with what follows. -/
theorem pathLength?_append (hr : EndsToken rest) {cs : List Char} {place : PathPlace} {n : Nat}
    (h : pathLength? place cs = some n) : pathLength? place (cs ++ rest) = some n := by
  induction cs generalizing place n with
  | nil =>
    cases place with
    | outside =>
      cases rest with
      | nil => exact h
      | cons c rest =>
        have hc : continuesToken c = false := hr c rfl
        simp only [continuesToken, Bool.or_eq_false_iff, beq_eq_false_iff_ne] at hc
        obtain ⟨⟨⟨⟨hid, hminus⟩, hpoint⟩, hbracket⟩, -⟩ := hc
        have hpath : isPathChar c = false := by simp [isPathChar, hid, hminus, hpoint]
        rw [List.nil_append, pathLength?, hpath, if_neg (by simp), if_neg hbracket]
        exact h
    | index => exact absurd h (by simp [pathLength?])
    | quotes => exact absurd h (by simp [pathLength?])
  | cons c cs ih =>
    have hstep : ∀ next, (pathLength? next cs).map (· + 1) = some n →
        (pathLength? next (cs ++ rest)).map (· + 1) = some n := by
      intro next hn
      obtain ⟨m, hm, rfl⟩ := Option.map_eq_some_iff.mp hn
      rw [ih hm]
      rfl
    cases place with
    | outside =>
      rw [List.cons_append]
      rw [pathLength?] at h ⊢
      split
      · rename_i hpath
        rw [if_pos hpath] at h
        exact hstep _ h
      · rename_i hpath
        rw [if_neg hpath] at h
        split
        · rename_i hbracket
          rw [if_pos hbracket] at h
          exact hstep _ h
        · rename_i hbracket
          rwa [if_neg hbracket] at h
    | index => exact hstep _ h
    | quotes => exact hstep _ h

/-- A variable is kept before the end of a token. -/
theorem isKept_ofVariable (hr : EndsToken rest) (position place : Nat) (cs : List Char) :
    IsKept (ofVariable position cs) (ofVariable place (cs ++ rest)) := by
  rw [ofVariable]
  split
  · rename_i n hn
    rw [ofVariable, pathLength?_append hr hn]
    simp only [List.take_append_of_le_length (pathLength?_le hn)]
    exact isKept_refl _
  · exact isKept_error _ _ _

/-- A function name is kept before the end of a token. -/
theorem isKept_ofFunction (hr : EndsToken rest) (position place : Nat) (cs : List Char) :
    IsKept (ofFunction position cs) (ofFunction place (cs ++ rest)) := by
  have hrun := hr.takeWhile_append continuesToken_of_isIdentifierChar cs
  simp only [ofFunction, hrun]
  exact .ite (fun _ => isKept_error _ _ _) (isKept_refl _)

/-- A word is kept before the end of a token. -/
theorem isKept_ofWord (hr : EndsToken rest) (position place : Nat) (cs : List Char) :
    IsKept (ofWord position cs) (ofWord place (cs ++ rest)) := by
  have hrun := hr.takeWhile_append continuesToken_of_isIdentifierChar cs
  simp only [ofWord, hrun]
  split
  · exact isKept_refl _
  · exact isKept_error _ _ _

/-! ### Operators -/

/-- An operator of one or two characters is kept before the end of a token. -/
theorem isKept_ofPair (hr : EndsToken rest) (double single : Operator) (cs : List Char) :
    IsKept (ofPair double single cs) (ofPair double single (cs ++ rest)) := by
  cases cs with
  | nil =>
    have hne : rest.head? ≠ some '=' := hr.head?_ne rfl
    rw [List.nil_append, ofPair, ofPair, if_neg hne]
    exact isKept_refl _
  | cons c cs => exact isKept_refl _

/-- A logical operator is kept, whatever follows it. -/
theorem isKept_ofTwin (position place : Nat) (c : Char) (op : Operator) (cs : List Char) :
    IsKept (ofTwin position c op cs) (ofTwin place c op (cs ++ rest)) := by
  cases cs with
  | nil => exact isKept_error _ _ _
  | cons d cs => exact .ite (fun _ => isKept_refl _) (isKept_error _ _ _)

/-! ### All lexemes -/

/-- **A token is kept before the end of a token**, whatever its first character. -/
theorem isKept_ofChar (hr : EndsToken rest) (position place : Nat) (c : Char) (cs : List Char) :
    IsKept (ofChar position c cs) (ofChar place c (cs ++ rest)) :=
  .ite (fun _ => isKept_ofVariable hr _ _ _) <|
  .ite (fun _ => isKept_ofFunction hr _ _ _) <|
  .ite (fun _ => isKept_ofBody (isKept_stringBody _ _) _ _ _ _ _ _ _) <|
  .ite (fun _ => isKept_ofBody (isKept_regexBody _ _) _ _ _ _ _ _ _) <|
  .ite (fun _ => isKept_refl _) <|
  .ite (fun _ => isKept_refl _) <|
  .ite (fun _ => isKept_refl _) <|
  .ite (fun _ => isKept_ofPair hr _ _ _) <|
  .ite (fun _ => isKept_ofPair hr _ _ _) <|
  .ite (fun _ => isKept_ofPair hr _ _ _) <|
  .ite (fun _ => isKept_ofTwin _ _ _ _ _) <|
  .ite (fun _ => isKept_ofTwin _ _ _ _ _) <|
  .ite (fun _ => isKept_ofTwin _ _ _ _ _) <|
  .ite (fun _ => isKept_ofWord hr _ _ (c :: cs)) (isKept_error _ _ _)

/-- **A token is read from a text wherever the text stands**, and whatever stands behind it, if that
does not begin with a character that continues tokens. -/
theorem isKept_read (hr : EndsToken rest) (position place : Nat) (c : Char) (cs : List Char) :
    IsKept (read position (c :: cs)) (read place (c :: cs ++ rest)) := by
  have hlength := numeralLength?_cons_append hr c cs
  rw [List.cons_append] at hlength ⊢
  cases hn : numeralLength? (c :: cs) with
  | some n =>
    obtain ⟨literal, tail, hcs, rfl, -⟩ := exists_isNumeral hn
    have hle : literal.length ≤ (c :: cs).length := by simp [hcs]
    simp only [read, hlength, hn]
    exact isKept_ofNumeral hle position place
  | none =>
    simp only [read, hlength, hn]
    exact isKept_ofChar hr position place c cs

end Readers

end Lexeme

/-! ### What a text is read as -/

/-- **What a text is read as**: its tokens, one after the other, wherever the text stands. -/
inductive IsReadAs : List Char → List Token → Prop
  | nil {blanks : List Char} (hb : IsBlanks blanks) : IsReadAs blanks []
  | cons {blanks word rest : List Char} {t : Token} {ts : List Token} (hb : IsBlanks blanks)
      (hne : t ≠ .eof)
      (ht : ∀ position, Lexeme.read position (word ++ rest) = ⟨.ok t, word.length⟩)
      (h : IsReadAs rest ts) : IsReadAs (blanks ++ (word ++ rest)) (t :: ts)

namespace Lexer

variable {l : Lexer} {ts : List Token}

/-- What is read as tokens is read as these and the end. -/
theorem readAll_of_isReadAs (h : IsReadAs l.rest ts) :
    l.readAll = (ts ++ [Token.eof]).map .ok := by
  obtain ⟨position, cs⟩ := l
  change IsReadAs cs ts at h
  induction h generalizing position with
  | nil hb =>
    obtain ⟨last, hn⟩ := next_of_isBlanks (l := ⟨position, _⟩) hb
    exact readAll_of_eof hn
  | cons hb hne ht _ ih =>
    obtain ⟨place, hn⟩ := next_of_read (l := ⟨position, _⟩) rfl hb ht
    rw [readAll_of_token hn hne, ih]
    rfl

/-- Where the next token stands. -/
theorem exists_read_of_next {next : Lexer} {t : Token} (h : l.next = (.ok t, next))
    (hne : t ≠ .eof) :
    ∃ blanks word, l.rest = blanks ++ (word ++ next.rest) ∧ IsBlanks blanks ∧
      ∀ position, Lexeme.read position (word ++ next.rest) = ⟨.ok t, word.length⟩ := by
  obtain ⟨blanks, hrest, hb⟩ := l.exists_blanks
  obtain ⟨houtcome, hnext⟩ := Prod.mk.inj h
  rw [lexeme] at houtcome hnext
  cases hskip : l.skipBlanks.rest with
  | nil =>
    rw [hskip] at houtcome
    exact absurd (Except.ok.inj houtcome).symm hne
  | cons c cs =>
    rw [hskip] at houtcome hnext
    obtain ⟨word, rest, hcs, hlength, -⟩ := Lexeme.takesWord_read _ c cs t houtcome
    have hbehind : next.rest = rest := by
      rw [← hnext, advance, hlength, hskip, hcs, List.drop_left]
    refine ⟨blanks, word, by rw [hrest, hskip, hcs, hbehind], hb, fun position => ?_⟩
    -- at any other place the same is read
    have hkept := Lexeme.isKept_read .nil l.skipBlanks.position position c cs t houtcome
    rw [List.append_nil] at hkept
    rw [hbehind, ← hcs, hkept, ← hlength, ← houtcome]

/-- A text whose tokens are all without errors is read as these. -/
theorem isReadAs_of_readAll (h : l.readAll = (ts ++ [Token.eof]).map .ok) :
    IsReadAs l.rest ts := by
  induction l using readAll.induct generalizing ts with
  | case1 l e next hn =>
    rw [readAll_of_error hn] at h
    cases ts <;> exact absurd h (by simp)
  | case2 l next hn =>
    rw [readAll_of_eof hn] at h
    cases ts with
    | nil => exact .nil (isBlanks_of_next hn)
    | cons t ts => exact absurd h (by simp)
  | case3 l t next hn hne ih =>
    rw [readAll_of_token hn hne] at h
    cases ts with
    | nil => exact absurd h (by simp [hne])
    | cons u ts =>
      obtain ⟨htoken, hrest⟩ := List.cons.inj h
      obtain rfl := Except.ok.inj htoken
      obtain ⟨blanks, word, hl, hb, ht⟩ := exists_read_of_next hn hne
      rw [hl]
      exact .cons hb hne ht (ih hrest)

/-- A text that is read to its end is read as its tokens, and no others are. -/
theorem readAll_eq_iff_isReadAs :
    l.readAll = (ts ++ [Token.eof]).map .ok ↔ IsReadAs l.rest ts :=
  ⟨isReadAs_of_readAll, readAll_of_isReadAs⟩

end Lexer

/-! ### Putting texts together -/

namespace IsReadAs

variable {cs ds : List Char} {ts us : List Token}

/-- Blanks in front of a text are skipped. -/
theorem skip {blanks : List Char} (hb : IsBlanks blanks) (h : IsReadAs cs ts) :
    IsReadAs (blanks ++ cs) ts := by
  have happend : ∀ {more : List Char}, IsBlanks more → IsBlanks (blanks ++ more) :=
    fun hmore => List.forall_mem_append.mpr ⟨hb, hmore⟩
  cases h with
  | nil hmore => exact .nil (happend hmore)
  | cons hmore hne ht h =>
    rw [← List.append_assoc]
    exact .cons (happend hmore) hne ht h

/-- **The tokens of two texts, one behind the other, are those of the first and then those of the
second**, if the second one begins with nothing that continues tokens. -/
theorem append (h : IsReadAs cs ts) (h' : IsReadAs ds us) (hd : EndsToken ds) :
    IsReadAs (cs ++ ds) (ts ++ us) := by
  induction h with
  | nil hb => exact h'.skip hb
  | @cons blanks word rest t ts hb hne ht _ ih =>
    rw [List.append_assoc, List.append_assoc]
    refine .cons hb hne (fun position => ?_) ih
    cases hcs : word ++ rest with
    | nil =>
      have hread := ht position
      rw [hcs] at hread
      exact absurd (Except.ok.inj (congrArg Lexeme.outcome hread)).symm hne
    | cons c cs =>
      have hread := ht position
      rw [hcs] at hread
      have hkept := Lexeme.isKept_read hd position position c cs t (congrArg Lexeme.outcome hread)
      rw [← List.append_assoc, hcs, hkept, hread]

/-- A word in front of a text that is read as one token there. -/
theorem word {word : List Char} {t : Token} (h : IsReadAs cs ts) (hne : t ≠ .eof)
    (ht : ∀ position, Lexeme.read position (word ++ cs) = ⟨.ok t, word.length⟩) :
    IsReadAs (word ++ cs) (t :: ts) := by
  have hcons := cons .nil hne ht h
  exact hcons

/-- A word that is read as a token, with nothing behind it. -/
theorem singleton {t : Token} {word : List Char} (hne : t ≠ .eof)
    (h : ∀ position, Lexeme.read position word = ⟨.ok t, word.length⟩) : IsReadAs word [t] := by
  have hread : ∀ position, Lexeme.read position (word ++ []) = ⟨.ok t, word.length⟩ := by
    rwa [List.append_nil]
  have hword := (IsReadAs.nil .nil).word hne hread
  rwa [List.append_nil] at hword

theorem function {name : String} (h : isFunctionName name = true) :
    IsReadAs name.toList [.function name] :=
  .singleton nofun fun position => by
    have hread := Lexeme.read_function h .nil position
    rwa [List.append_nil] at hread

theorem leftParen (h : IsReadAs cs ts) : IsReadAs ('(' :: cs) (.leftParen :: ts) := by
  have hread : ∀ position, Lexeme.read position (['('] ++ cs) = ⟨.ok .leftParen, 1⟩ :=
    fun position => Lexeme.read_eq_ofChar rfl position
  exact h.word (by simp) hread

theorem rightParen (h : IsReadAs cs ts) : IsReadAs (')' :: cs) (.rightParen :: ts) := by
  have hread : ∀ position, Lexeme.read position ([')'] ++ cs) = ⟨.ok .rightParen, 1⟩ :=
    fun position => Lexeme.read_eq_ofChar rfl position
  exact h.word (by simp) hread

theorem comma (h : IsReadAs cs ts) : IsReadAs (',' :: cs) (.comma :: ts) := by
  have hread : ∀ position, Lexeme.read position ([','] ++ cs) = ⟨.ok .comma, 1⟩ :=
    fun position => Lexeme.read_eq_ofChar rfl position
  exact h.word (by simp) hread

/-- An operator with a blank behind it. -/
theorem operator (op : Operator) {c : Char} (hc : isBlank c = true) (h : IsReadAs (c :: cs) ts) :
    IsReadAs (op.symbol.toList ++ c :: cs) (.operator op :: ts) := by
  exact h.word (by simp) fun position => Lexeme.read_operator op (.cons hc) position

/-- A logical operator is read whatever stands behind it: no longer operator begins with it. -/
theorem logical {op : Operator} (hop : op.isLogical = true) (h : IsReadAs cs ts) :
    IsReadAs (op.symbol.toList ++ cs) (.operator op :: ts) := by
  have hread : ∀ position, Lexeme.read position (op.symbol.toList ++ cs) =
      ⟨.ok (.operator op), op.symbol.toList.length⟩ := by
    intro position
    cases op with
    | and => exact Lexeme.read_eq_ofChar rfl position
    | or => exact Lexeme.read_eq_ofChar rfl position
    | _ => cases hop
  exact h.word (by simp) hread

/-- A text in parentheses. -/
theorem enclosed (h : IsReadAs cs ts) (h' : IsReadAs ds us) :
    IsReadAs ('(' :: (cs ++ ')' :: ds)) (.leftParen :: (ts ++ .rightParen :: us)) := by
  exact (h.append h'.rightParen (.cons rfl)).leftParen

end IsReadAs

end Criteria
