import Criteria.Proofs.Grammar.Exact
import Criteria.Proofs.Writing.Spelling

/-!
# The words of a text

A **word** of a token is a piece of text that the token may be read from. A token has many words:
keywords come in any case, a character of a string may be escaped or not, a number has all the
numerals that denote it (`Criteria.Token.IsWord`).

**Reading a text to its end loses nothing and invents nothing.** If it gives some tokens and no
error, the text consists of a word of each of them, in their order, and of blanks before, between
and behind the words (`Criteria.lexing_keeps_the_text`). Every reader takes its word off the head of
what is left, and the length that it gives is the length of this word
(`Criteria.Lexeme.TakesWord`); what a lexer skips between two words is blank.
-/

namespace Criteria

/-! ### Words -/

/-- The escapes of strings: what stands behind the backslash, and what is meant. -/
def escapes : List (Char × Char) :=
  [('n', '\n'), ('t', '\t'), ('r', '\r'), ('"', '"'), ('\\', '\\')]

/-- What may stand between the quotes of a string for its contents. -/
inductive IsStringBody : List Char → List Char → Prop
  | nil : IsStringBody [] []
  | plain {c : Char} {body contents : List Char} (hq : c ≠ '"') (hb : c ≠ '\\')
      (h : IsStringBody body contents) : IsStringBody (c :: body) (c :: contents)
  | escape {c d : Char} {body contents : List Char} (he : (c, d) ∈ escapes)
      (h : IsStringBody body contents) : IsStringBody ('\\' :: c :: body) (d :: contents)

/-- What may stand between the slashes of a pattern for the pattern. A backslash that stands for
itself is not the last character, since it would escape the slash behind it. -/
inductive IsPatternBody : List Char → List Char → Prop
  | nil : IsPatternBody [] []
  | plain {c : Char} {body pattern : List Char} (hs : c ≠ '/') (hb : c = '\\' → body ≠ [])
      (h : IsPatternBody body pattern) : IsPatternBody (c :: body) (c :: pattern)
  | escape {body pattern : List Char} (h : IsPatternBody body pattern) :
      IsPatternBody ('\\' :: '/' :: body) ('/' :: pattern)

/-- The words of a token; there is none for the end of a text. -/
inductive Token.IsWord : Token → List Char → Prop
  | number {x : Binary64} {literal : List Char} (h : Denotes literal x) :
      IsWord (.number x) literal
  | string {s : String} {body : List Char} (h : IsStringBody body s.toList) :
      IsWord (.string s) ('"' :: (body ++ ['"']))
  | boolean {b : Bool} {word : List Char}
      (h : word.map Char.toLower = (if b then "true" else "false").toList) :
      IsWord (.boolean b) word
  | nil {word : List Char} (h : word.map Char.toLower = "nil".toList) : IsWord .nil word
  | regex {pattern : String} {body : List Char} (h : IsPatternBody body pattern.toList) :
      IsWord (.regex pattern) ('/' :: (body ++ ['/']))
  | reference (path : String) : IsWord (.reference path) ('$' :: path.toList)
  | function {name : String} (h : isFunctionName name = true) :
      IsWord (.function name) name.toList
  | symbol {t : Token} {s : String} (h : t.symbol? = some s) : IsWord t s.toList

/-- A text that is made of words of some tokens, with blanks before, between and behind them. -/
inductive IsMadeOf : List Token → List Char → Prop
  | nil {blanks : List Char} (hb : IsBlanks blanks) : IsMadeOf [] blanks
  | cons {t : Token} {ts : List Token} {blanks word rest : List Char} (hb : IsBlanks blanks)
      (hw : t.IsWord word) (h : IsMadeOf ts rest) : IsMadeOf (t :: ts) (blanks ++ (word ++ rest))

namespace Lexeme

/-! ### Numerals -/

/-- Behind a run of characters is what is left without it. -/
theorem drop_length_takeWhile (p : Char → Bool) (cs : List Char) :
    cs.drop (cs.takeWhile p).length = cs.dropWhile p := by
  have hleft : (cs.takeWhile p ++ cs.dropWhile p).drop (cs.takeWhile p).length = cs.dropWhile p :=
    List.drop_left
  rwa [List.takeWhile_append_dropWhile] at hleft

/-- A sign is cut off where it is measured. -/
theorem exists_sign (cs : List Char) : ∃ sign rest, cs = sign ++ rest ∧
    signLength cs = sign.length ∧ (sign = [] ∨ sign = ['+'] ∨ sign = ['-']) := by
  cases cs with
  | nil => exact ⟨[], [], rfl, rfl, .inl rfl⟩
  | cons c rest =>
    by_cases hplus : c = '+'
    · exact ⟨[c], rest, rfl, by simp [signLength, hplus], .inr (.inl (by rw [hplus]))⟩
    · by_cases hminus : c = '-'
      · exact ⟨[c], rest, rfl, by simp [signLength, hminus], .inr (.inr (by rw [hminus]))⟩
      · exact ⟨[], c :: rest, rfl, by simp [signLength, hplus, hminus], .inl rfl⟩

/-- So is a point with digits behind it. -/
theorem exists_fraction (cs : List Char) : ∃ fraction rest, cs = fraction ++ rest ∧
    fractionLength cs = fraction.length ∧ (fraction = [] ∨
      ∃ digits, fraction = '.' :: digits ∧ digits ≠ [] ∧ ∀ c ∈ digits, isDigit c = true) := by
  cases cs with
  | nil => exact ⟨[], [], rfl, rfl, .inl rfl⟩
  | cons c rest =>
    by_cases h : c = '.' ∧ rest.takeWhile isDigit ≠ []
    · obtain ⟨rfl, hne⟩ := h
      have hlen : 0 < (rest.takeWhile isDigit).length := List.length_pos_iff.mpr hne
      refine ⟨'.' :: rest.takeWhile isDigit, rest.dropWhile isDigit, ?_, ?_, .inr ⟨_, rfl, hne, ?_⟩⟩
      · rw [List.cons_append, List.takeWhile_append_dropWhile]
      · simp [fractionLength, hlen]
      · exact List.all_eq_true.mp List.all_takeWhile
    · refine ⟨[], c :: rest, rfl, ?_, .inl rfl⟩
      have hcond : ¬(decide (c = '.') && decide (0 < (rest.takeWhile isDigit).length)) = true := by
        simpa [List.length_pos_iff] using h
      rw [fractionLength, if_neg hcond]
      rfl

/-- **What is measured as a numeral is one.** -/
theorem exists_isNumeral {cs : List Char} {n : Nat} (h : numeralLength? cs = some n) :
    ∃ literal rest, cs = literal ++ rest ∧ n = literal.length ∧ IsNumeral literal := by
  obtain ⟨sign, unsigned, rfl, hsign, hs⟩ := exists_sign cs
  obtain ⟨fraction, rest, hrest, hfraction, hf⟩ := exists_fraction (unsigned.dropWhile isDigit)
  have hw : ∀ c ∈ unsigned.takeWhile isDigit, isDigit c = true :=
    List.all_eq_true.mp List.all_takeWhile
  -- the text is cut behind the sign, behind the whole digits and behind the fraction
  have hsplit : unsigned.takeWhile isDigit ++ unsigned.dropWhile isDigit = unsigned :=
    List.takeWhile_append_dropWhile
  simp only [numeralLength?, hsign, List.drop_left, ← List.drop_drop, drop_length_takeWhile,
    hfraction] at h
  split at h
  · exact absurd h (by simp)
  · rename_i hne
    refine ⟨sign ++ (unsigned.takeWhile isDigit ++ fraction), rest, ?_, ?_,
      ⟨sign, _, fraction, rfl, hs, hw, hf, ?_⟩⟩
    · rw [List.append_assoc, List.append_assoc, ← hrest, hsplit]
    · rw [← Option.some.inj h, List.length_append, List.length_append, Nat.add_assoc]
    · by_cases hwhole : unsigned.takeWhile isDigit = []
      · exact .inr fun hnil => hne (by rw [hwhole, hnil]; rfl)
      · exact .inl hwhole

/-! ### Readers take words -/

/-- If a lexeme holds a token, it takes a word of the token off the head of a text. -/
def TakesWord (l : Lexeme) (cs : List Char) : Prop :=
  ∀ t, l.outcome = .ok t →
    ∃ word rest, cs = word ++ rest ∧ l.length = word.length ∧ t.IsWord word

section TakesWord

variable {cs : List Char}

theorem takesWord_error (e : LexError) (length : Nat) : TakesWord ⟨.error e, length⟩ cs := by
  intro t h
  exact absurd h (by simp)

/-- A token that is a word takes it. -/
theorem takesWord_word {t : Token} {word : List Char} (h : t.IsWord word) (rest : List Char) :
    TakesWord ⟨.ok t, word.length⟩ (word ++ rest) := by
  intro u hu
  rw [← Except.ok.inj hu]
  exact ⟨word, rest, rfl, rfl, h⟩

theorem TakesWord.ite {p : Prop} [Decidable p] {l m : Lexeme} (hl : p → l.TakesWord cs)
    (hm : m.TakesWord cs) : (if p then l else m).TakesWord cs := by
  split
  · rename_i hp
    exact hl hp
  · exact hm

/-- A numeral takes its own characters. -/
theorem takesWord_ofNumeral {n : Nat} (h : numeralLength? cs = some n) (position : Nat) :
    (ofNumeral position cs n).TakesWord cs := by
  obtain ⟨literal, rest, rfl, rfl, hl⟩ := exists_isNumeral h
  rw [ofNumeral, List.take_left]
  split
  · rename_i numeral hn
    exact takesWord_word (.number ⟨hl, numeral, hn, rfl⟩) rest
  · exact takesWord_error _ _

/-! ### Bodies -/

/-- If a body is closed, its delimiter stands behind a piece of text that is related to its
contents. -/
def Body.Takes (IsBody : List Char → List Char → Prop) (delimiter : Char) (cs : List Char)
    (b : Body) : Prop :=
  ∀ contents length, b = .closed contents length →
    ∃ body rest, cs = body ++ delimiter :: rest ∧ length = body.length + 1 ∧ IsBody body contents

namespace Body

variable {IsBody : List Char → List Char → Prop} {delimiter : Char}

theorem takes_unclosed : Takes IsBody delimiter cs .unclosed := by
  intro contents length h
  exact absurd h (by simp)

theorem takes_badEscape (c : Char) (place : Nat) :
    Takes IsBody delimiter cs (.badEscape c place) := by
  intro contents length h
  exact absurd h (by simp)

theorem takes_closed (h : IsBody [] []) (rest : List Char) :
    Takes IsBody delimiter (delimiter :: rest) (.closed [] 1) := by
  intro contents length he
  obtain ⟨rfl, rfl⟩ := closed.inj he
  exact ⟨[], rest, rfl, rfl, h⟩

/-- The characters in front of a body that stand for one character more. -/
theorem Takes.cons {b : Body} (h : b.Takes IsBody delimiter cs) {c : Char} (front : List Char)
    (hfront : ∀ body rest contents, cs = body ++ delimiter :: rest → IsBody body contents →
      IsBody (front ++ body) (c :: contents)) :
    (b.cons c front.length).Takes IsBody delimiter (front ++ cs) := by
  cases b with
  | closed contents length =>
    intro contents' length' he
    obtain ⟨rfl, rfl⟩ := closed.inj he
    obtain ⟨body, rest, rfl, rfl, hbody⟩ := h contents length rfl
    refine ⟨front ++ body, rest, (List.append_assoc _ _ _).symm, ?_, hfront _ _ _ rfl hbody⟩
    rw [List.length_append]
    omega
  | badEscape d place => exact takes_badEscape d _
  | unclosed => exact takes_unclosed

end Body

/-- The escapes that are read are the ones of strings. -/
theorem mem_escapes {c d : Char} (h : unescape? c = some d) : (c, d) ∈ escapes := by
  grind [unescape?, escapes]

/-- A string takes what it is written as. -/
theorem takes_stringBody (cs : List Char) : (stringBody cs).Takes IsStringBody '"' cs := by
  induction cs using stringBody.induct with
  | case1 => exact Body.takes_unclosed
  | case2 => exact Body.takes_closed .nil []
  | case3 c hc =>
    rw [stringBody, if_neg hc]
    exact Body.takes_unclosed
  | case4 d rest =>
    rw [stringBody, if_pos rfl]
    exact Body.takes_closed .nil (d :: rest)
  | case5 d rest e he hq ih =>
    rw [stringBody, if_neg hq, if_pos rfl, he]
    exact ih.cons ['\\', d] fun _ _ _ _ h => .escape (mem_escapes he) h
  | case6 d rest he hq =>
    rw [stringBody, if_neg hq, if_pos rfl, he]
    exact Body.takes_badEscape d 1
  | case7 c d rest hq hb ih =>
    rw [stringBody, if_neg hq, if_neg hb]
    exact ih.cons [c] fun _ _ _ _ h => .plain hq hb h

/-- A pattern takes what it is written as. -/
theorem takes_regexBody (cs : List Char) : (regexBody cs).Takes IsPatternBody '/' cs := by
  induction cs using regexBody.induct with
  | case1 => exact Body.takes_unclosed
  | case2 => exact Body.takes_closed .nil []
  | case3 c hc =>
    rw [regexBody, if_neg hc]
    exact Body.takes_unclosed
  | case4 d rest =>
    rw [regexBody, if_pos rfl]
    exact Body.takes_closed .nil (d :: rest)
  | case5 c d rest hs hb ih =>
    rw [regexBody, if_neg hs, if_pos hb]
    simp only [Bool.and_eq_true, decide_eq_true_eq] at hb
    obtain ⟨rfl, rfl⟩ := hb
    exact ih.cons ['\\', '/'] fun _ _ _ _ h => .escape h
  | case6 c d rest hs hb ih =>
    rw [regexBody, if_neg hs, if_neg hb]
    refine ih.cons [c] fun body tail pattern hbody h => .plain hs ?_ h
    -- a backslash with nothing of the pattern behind it would stand before the closing slash
    rintro rfl rfl
    obtain ⟨rfl, -⟩ := List.cons.inj hbody
    exact hb rfl

/-- A literal takes its body with the delimiters around it. -/
theorem takesWord_ofBody {IsBody : List Char → List Char → Prop} {delimiter : Char} {b : Body}
    (h : b.Takes IsBody delimiter cs) {token : String → Token}
    (ht : ∀ s body, IsBody body s.toList →
      (token s).IsWord (delimiter :: (body ++ [delimiter]))) (position all : Nat) (e : LexError) :
    (ofBody position all token e b).TakesWord (delimiter :: cs) := by
  cases b with
  | closed contents length =>
    obtain ⟨body, rest, rfl, rfl, hbody⟩ := h contents length rfl
    have hword := ht (String.ofList contents) body (by rwa [String.toList_ofList])
    have htakes := takesWord_word hword rest
    simpa [ofBody] using htakes
  | badEscape c place => exact takesWord_error _ _
  | unclosed => exact takesWord_error _ _

/-! ### Variables, names and keywords -/

/-- A path is not longer than the text. -/
theorem pathLength?_le {place : PathPlace} {n : Nat} (h : pathLength? place cs = some n) :
    n ≤ cs.length := by
  induction cs generalizing place n with
  | nil => cases place <;> simp_all [pathLength?]
  | cons c rest ih =>
    have hstep : ∀ next, (pathLength? next rest).map (· + 1) = some n → n ≤ (c :: rest).length := by
      intro next hn
      obtain ⟨m, hm, rfl⟩ := Option.map_eq_some_iff.mp hn
      exact Nat.succ_le_succ (ih hm)
    cases place with
    | outside =>
      rw [pathLength?] at h
      split at h
      · exact hstep _ h
      · split at h
        · exact hstep _ h
        · rw [← Option.some.inj h]
          exact Nat.zero_le _
    | index => exact hstep _ h
    | quotes => exact hstep _ h

/-- A variable takes its path with the dollar sign before it. -/
theorem takesWord_ofVariable (position : Nat) (rest : List Char) :
    (ofVariable position rest).TakesWord ('$' :: rest) := by
  rw [ofVariable]
  split
  · rename_i n hn
    have hlen : (rest.take n).length = n := List.length_take_of_le (pathLength?_le hn)
    have hword := takesWord_word (.reference (String.ofList (rest.take n))) (rest.drop n)
    simpa [hlen] using hword
  · exact takesWord_error _ _

/-- A function name takes its characters. -/
theorem takesWord_ofFunction (position : Nat) (rest : List Char) :
    (ofFunction position rest).TakesWord ('@' :: rest) := by
  simp only [ofFunction]
  split
  · exact takesWord_error _ _
  · rename_i hname
    have hfunction : isFunctionName
        (String.ofList ('@' :: rest.takeWhile isIdentifierChar)) = true := by
      simp [isFunctionName, hname]
    have hword := takesWord_word (.function hfunction) (rest.dropWhile isIdentifierChar)
    rw [String.toList_ofList, List.cons_append, List.takeWhile_append_dropWhile] at hword
    exact hword

/-- A keyword is written as the word that it is. -/
theorem isWord_of_keyword? {word : List Char} {t : Token} (h : keyword? word = some t) :
    t.IsWord word := by
  have hlower : ∀ {s : String}, String.ofList (word.map Char.toLower) = s →
      word.map Char.toLower = s.toList := by
    rintro s rfl
    exact String.toList_ofList.symm
  simp only [keyword?] at h
  split at h
  · rename_i hw
    rw [← Option.some.inj h]
    exact .boolean (hlower hw)
  · split at h
    · rename_i hw
      rw [← Option.some.inj h]
      exact .boolean (hlower hw)
    · split at h
      · rename_i hw
        rw [← Option.some.inj h]
        exact .nil (hlower hw)
      · exact absurd h (by simp)

/-- A keyword takes its characters. -/
theorem takesWord_ofWord (position : Nat) (cs : List Char) : (ofWord position cs).TakesWord cs := by
  rw [ofWord]
  split
  · rename_i t ht
    have hword := takesWord_word (isWord_of_keyword? ht) (cs.dropWhile isIdentifierChar)
    rwa [List.takeWhile_append_dropWhile] at hword
  · exact takesWord_error _ _

/-! ### Symbols -/

/-- A mark takes its characters. -/
theorem takesWord_symbol {t : Token} {s : String} {word : List Char} (h : t.symbol? = some s)
    (hs : s.toList = word) (rest : List Char) :
    TakesWord ⟨.ok t, word.length⟩ (word ++ rest) := by
  rw [← hs]
  exact takesWord_word (.symbol h) rest

/-- An operator of one or two characters takes them. -/
theorem takesWord_ofPair {double single : Operator} {c : Char}
    (hd : double.symbol.toList = [c, '=']) (hs : single.symbol.toList = [c]) (rest : List Char) :
    (ofPair double single rest).TakesWord (c :: rest) := by
  refine .ite (fun h => ?_) (takesWord_symbol (t := .operator single) rfl hs rest)
  obtain ⟨tail, rfl⟩ := List.head?_eq_some_iff.mp h
  exact takesWord_symbol (t := .operator double) rfl hd tail

/-- A logical operator takes its two characters. -/
theorem takesWord_ofTwin {op : Operator} {c : Char} (hop : op.symbol.toList = [c, c])
    (position : Nat) (rest : List Char) : (ofTwin position c op rest).TakesWord (c :: rest) := by
  refine .ite (fun h => ?_) (takesWord_error _ _)
  obtain ⟨tail, rfl⟩ := List.head?_eq_some_iff.mp h
  exact takesWord_symbol (t := .operator op) rfl hop tail

/-- **A lexeme takes a word of its token off a text that is not empty.** -/
theorem Reads.takesWord {position : Nat} {l : Lexeme} (h : Reads position cs l) (hne : cs ≠ []) :
    l.TakesWord cs := by
  cases h with
  | eof => exact absurd rfl hne
  | numeral hn => exact takesWord_ofNumeral hn position
  | reference rest => exact takesWord_ofVariable position rest
  | function rest => exact takesWord_ofFunction position rest
  | string rest => exact takesWord_ofBody (takes_stringBody rest) (fun _ _ => .string) _ _ _
  | regex rest => exact takesWord_ofBody (takes_regexBody rest) (fun _ _ => .regex) _ _ _
  | mark ht hs rest => exact takesWord_symbol ht hs rest
  | pair hd hs rest => exact takesWord_ofPair hd hs rest
  | twin hop rest => exact takesWord_ofTwin hop position rest
  | word _ rest => exact takesWord_ofWord position _
  | unexpected c rest => exact takesWord_error _ _

/-- **Every lexeme takes the word of its token.** -/
theorem takesWord_read (position : Nat) (c : Char) (rest : List Char) :
    (read position (c :: rest)).TakesWord (c :: rest) :=
  (reads_read position (c :: rest)).takesWord (List.cons_ne_nil c rest)

end TakesWord

end Lexeme

/-! ### Reading to the end -/

/-- The end is no word. -/
theorem Token.IsWord.ne_eof {t : Token} {word : List Char} (h : t.IsWord word) : t ≠ .eof := by
  rintro rfl
  cases h with
  | symbol h => exact absurd h (by simp [Token.symbol?])

namespace Lexer

variable {l next : Lexer}

/-- What is skipped is blank. -/
theorem exists_blanks (l : Lexer) : ∃ blanks, l.rest = blanks ++ l.skipBlanks.rest ∧
    IsBlanks blanks :=
  ⟨l.rest.takeWhile isBlank, List.takeWhile_append_dropWhile.symm,
    List.all_eq_true.mp List.all_takeWhile⟩

/-- A token is read from a word of it, with blanks in front. -/
theorem exists_word_of_next {t : Token} (h : l.next = (.ok t, next)) (ht : t ≠ .eof) :
    ∃ blanks word, l.rest = blanks ++ (word ++ next.rest) ∧ IsBlanks blanks ∧ t.IsWord word := by
  obtain ⟨blanks, hrest, hb⟩ := l.exists_blanks
  obtain ⟨houtcome, hnext⟩ := Prod.mk.inj h
  rw [lexeme] at houtcome hnext
  cases hskip : l.skipBlanks.rest with
  | nil =>
    rw [hskip] at houtcome
    exact absurd (Except.ok.inj houtcome).symm ht
  | cons c cs =>
    rw [hskip] at houtcome hnext
    obtain ⟨word, rest, hcs, hlen, hw⟩ := Lexeme.takesWord_read _ c cs t houtcome
    have hbehind : next.rest = rest := by
      rw [← hnext, advance, hlen, hskip, hcs, List.drop_left]
    exact ⟨blanks, word, by rw [hrest, hskip, hcs, hbehind], hb, hw⟩

/-- The end is read where nothing but blanks is left. -/
theorem rest_skipBlanks_of_eof (h : l.next.1 = .ok .eof) : l.skipBlanks.rest = [] := by
  change l.lexeme.outcome = .ok .eof at h
  cases hskip : l.skipBlanks.rest with
  | nil => rfl
  | cons c cs =>
    rw [lexeme, hskip] at h
    obtain ⟨word, -, -, -, hw⟩ := Lexeme.takesWord_read _ c cs .eof h
    exact absurd rfl hw.ne_eof

/-- The end is read from blanks. -/
theorem isBlanks_of_next (h : l.next = (.ok .eof, next)) : IsBlanks l.rest := by
  obtain ⟨blanks, hrest, hb⟩ := l.exists_blanks
  have hskip : l.skipBlanks.rest = [] := rest_skipBlanks_of_eof (congrArg Prod.fst h)
  rwa [hrest, hskip, List.append_nil]

/-- If a lexer reads to the end, words of the tokens are before it, and blanks. -/
theorem isMadeOf_of_readAll {ts : List Token}
    (h : l.readAll = (ts ++ [Token.eof]).map .ok) : IsMadeOf ts l.rest := by
  induction l using readAll.induct generalizing ts with
  | case1 l e next hn =>
    rw [readAll_of_error hn] at h
    cases ts <;> exact absurd h (by simp)
  | case2 l next hn =>
    rw [readAll_of_eof hn] at h
    cases ts with
    | nil => exact .nil (isBlanks_of_next hn)
    | cons t ts => exact absurd h (by simp)
  | case3 l t next hn ht ih =>
    rw [readAll_of_token hn ht] at h
    cases ts with
    | nil => exact absurd h (by simp [ht])
    | cons u ts =>
      obtain ⟨htoken, hrest⟩ := List.cons.inj h
      obtain rfl := Except.ok.inj htoken
      obtain ⟨blanks, word, hl, hb, hw⟩ := exists_word_of_next hn ht
      rw [hl]
      exact .cons hb hw (ih hrest)

end Lexer

/-- **Reading a text loses nothing and invents nothing.** If the tokens of a text are read to the
end without an error, the text is made of words of these tokens, with blanks before, between and
behind them. -/
theorem lexing_keeps_the_text {text : String} {ts : List Token}
    (h : (Lexer.ofText text).readAll = (ts ++ [Token.eof]).map .ok) :
    IsMadeOf ts text.toList :=
  Lexer.isMadeOf_of_readAll h

/-- A keyword in another case, a string with an escape, and a symbol and a numeral with no blank
between them. -/
theorem lexing_keeps_unusual_words :
    let ts : List Token := [.nil, .string "\n", .operator .not, .number (.ofDecimal false 5 (-1))]
    (Lexer.ofText " NiL\t\"\\n\"!+.5 ").readAll = (ts ++ [Token.eof]).map .ok ∧
      IsMadeOf ts " NiL\t\"\\n\"!+.5 ".toList := by
  intro ts
  have hnil : (Lexer.ofText " NiL\t\"\\n\"!+.5 ").next =
      (.ok .nil, ⟨4, "\t\"\\n\"!+.5 ".toList⟩) := by
    with_unfolding_all rfl
  have hstring : Lexer.next ⟨4, "\t\"\\n\"!+.5 ".toList⟩ =
      (.ok (.string "\n"), ⟨9, "!+.5 ".toList⟩) := by
    with_unfolding_all rfl
  have hnot : Lexer.next ⟨9, "!+.5 ".toList⟩ = (.ok (.operator .not), ⟨10, "+.5 ".toList⟩) := by
    with_unfolding_all rfl
  have hnumber : Lexer.next ⟨10, "+.5 ".toList⟩ =
      (.ok (.number (.ofDecimal false 5 (-1))), ⟨13, [' ']⟩) := by
    with_unfolding_all rfl
  have heof : Lexer.next ⟨13, [' ']⟩ = (.ok .eof, ⟨14, []⟩) := by
    with_unfolding_all rfl
  have hread : (Lexer.ofText " NiL\t\"\\n\"!+.5 ").readAll = (ts ++ [Token.eof]).map .ok := by
    rw [Lexer.readAll_of_token hnil (by decide), Lexer.readAll_of_token hstring (by decide),
      Lexer.readAll_of_token hnot (by decide), Lexer.readAll_of_token hnumber (by simp),
      Lexer.readAll_of_eof heof]
    rfl
  exact ⟨hread, lexing_keeps_the_text hread⟩

end Criteria
