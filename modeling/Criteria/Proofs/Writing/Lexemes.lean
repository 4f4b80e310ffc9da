import Criteria.Proofs.Writing.Spelling
import Criteria.Token.Lexer

/-!
# Reading spellings

A spelling of a token, with a blank or the end of the text behind it, is read as this token and as
no more than it (`Criteria.Token.Spells.read`). Behind a spelling only the next character counts,
and a blank is no digit, no point, no equality sign and no character of a name or path: that is all
that keeps neighbouring spellings apart.
-/

namespace Criteria

/-! ### Blanks -/

/-- The code points of blanks, one by one. -/
def blankPoints : List Nat :=
  [0x9, 0xa, 0xb, 0xc, 0xd, 0x20, 0x85, 0xa0, 0x1680, 0x2000, 0x2001, 0x2002, 0x2003, 0x2004,
    0x2005, 0x2006, 0x2007, 0x2008, 0x2009, 0x200a, 0x2028, 0x2029, 0x202f, 0x205f, 0x3000]

/-- The code point of a blank is one of those listed. -/
theorem mem_blankPoints {c : Char} (h : isBlank c = true) : c.toNat ∈ blankPoints := by
  obtain ⟨r, hr, hlow, hhigh⟩ := RangeTable.contains_iff.mp h
  simp only [blankRanges, List.mem_cons, List.not_mem_nil, or_false] at hr
  simp only [blankPoints, List.mem_cons, List.not_mem_nil, or_false]
  rcases hr with rfl | rfl | rfl | rfl | rfl | rfl | rfl | rfl | rfl | rfl <;>
    simp only at hlow hhigh <;> omega

/-- A character with a code point that no blank has is no blank. -/
theorem isBlank_eq_false {c : Char} (h : c.toNat ∉ blankPoints) : isBlank c = false :=
  Bool.eq_false_iff.mpr fun hb => h (mem_blankPoints hb)

/-- A blank is different from what is none. -/
theorem ne_of_isBlank {b c : Char} (hb : isBlank b = true) (hc : isBlank c = false) : b ≠ c := by
  rintro rfl
  rw [hb] at hc
  exact absurd hc (by simp)

/-- No blank is a letter or a digit of any script. -/
theorem isAlphanumeric_of_isBlank {c : Char} (h : isBlank c = true) :
    isAlphanumeric c = false := by
  have hall : ∀ n ∈ blankPoints,
      alphabeticRanges.contains n = false ∧ numberRanges.contains n = false := by
    decide +kernel
  obtain ⟨ha, hn⟩ := hall c.toNat (mem_blankPoints h)
  rw [isAlphanumeric, isAlphabetic, isNumber, ha, hn]
  rfl

/-- Blanks do not stand in words. -/
theorem isIdentifierChar_of_isBlank {c : Char} (h : isBlank c = true) :
    isIdentifierChar c = false := by
  have hne : c ≠ '_' := ne_of_isBlank h rfl
  simp [isIdentifierChar, isAlphanumeric_of_isBlank h, hne]

/-- The digits by their code points. -/
theorem isDigit_iff {c : Char} : isDigit c = true ↔ 48 ≤ c.toNat ∧ c.toNat ≤ 57 := by
  simp only [isDigit, Bool.and_eq_true, decide_eq_true_eq]
  exact Iff.rfl

/-- A digit stands for a number. -/
theorem isNumber_of_isDigit {c : Char} (h : isDigit c = true) : isNumber c = true :=
  RangeTable.contains_iff.mpr ⟨(0x30, 0x39), .head _, isDigit_iff.mp h⟩

theorem isBlank_of_isDigit {c : Char} (h : isDigit c = true) : isBlank c = false := by
  have hd := isDigit_iff.mp h
  refine isBlank_eq_false fun hm => ?_
  simp only [blankPoints, List.mem_cons, List.not_mem_nil, or_false] at hm
  omega

theorem isDigit_of_isBlank {c : Char} (h : isBlank c = true) : isDigit c = false := by
  refine Bool.eq_false_iff.mpr fun hd => ?_
  rw [isBlank_of_isDigit hd] at h
  exact absurd h (by simp)

/-- The end of a text, or a blank: what may stand behind a spelling. -/
def EndsWord (rest : List Char) : Prop := ∀ c, rest.head? = some c → isBlank c = true

theorem EndsWord.nil : EndsWord [] := fun _ h => absurd h (by simp)

theorem EndsWord.cons {c : Char} {cs : List Char} (hc : isBlank c = true) : EndsWord (c :: cs) :=
  fun d hd => by rwa [← Option.some.inj hd]

section EndsWord

variable {rest : List Char}

/-- The end of a word does not begin with a character that is no blank. -/
theorem EndsWord.head?_ne (h : EndsWord rest) {c : Char} (hc : isBlank c = false) :
    rest.head? ≠ some c := fun hr => absurd (h c hr) (by simp [hc])

/-- A run of characters ends where a word ends, if no blank belongs to it. -/
theorem EndsWord.takeWhile_nil (h : EndsWord rest) {p : Char → Bool}
    (hp : ∀ c, isBlank c = true → p c = false) : rest.takeWhile p = [] := by
  cases rest with
  | nil => rfl
  | cons c rest => rw [List.takeWhile_cons, hp c (h c rfl)]; rfl

/-- A run up to the end of a word is the word. -/
theorem EndsWord.takeWhile (h : EndsWord rest) {p : Char → Bool}
    (hp : ∀ c, isBlank c = true → p c = false) {word : List Char} (hw : ∀ c ∈ word, p c = true) :
    (word ++ rest).takeWhile p = word := by
  rw [List.takeWhile_append_of_pos hw, h.takeWhile_nil hp, List.append_nil]

end EndsWord

/-! ### Numerals -/

namespace Lexeme

variable {rest : List Char}

/-- A character that a numeral may begin with. -/
def beginsNumeral (c : Char) : Bool := isDigit c || c == '+' || c == '-' || c == '.'

/-- What begins with another character is no numeral. -/
theorem numeralLength?_eq_none {c : Char} (h : beginsNumeral c = false) :
    numeralLength? (c :: rest) = none := by
  simp only [beginsNumeral, Bool.or_eq_false_iff, beq_eq_false_iff_ne] at h
  obtain ⟨⟨⟨hd, hplus⟩, hminus⟩, hpoint⟩ := h
  have hsign : signLength (c :: rest) = 0 := by simp [signLength, hplus, hminus]
  have hwhole : (c :: rest).takeWhile isDigit = [] := by rw [List.takeWhile_cons, hd]; rfl
  have hfraction : fractionLength (c :: rest) = 0 := by simp [fractionLength, hpoint]
  simp [numeralLength?, hsign, hwhole, hfraction]

/-- What does not begin a numeral is read by its first character. -/
theorem read_eq_ofChar {c : Char} (h : beginsNumeral c = false) (position : Nat) :
    read position (c :: rest) = ofChar position c rest := by
  simp only [read, numeralLength?_eq_none h]

/-- A sign is measured as such when a digit or a point stands behind it. -/
theorem signLength_append {sign tail : List Char} (hs : sign = [] ∨ sign = ['+'] ∨ sign = ['-'])
    (ht : ∀ c, tail.head? = some c → c ≠ '+' ∧ c ≠ '-') :
    signLength (sign ++ tail) = sign.length := by
  rcases hs with rfl | rfl | rfl
  · cases tail with
    | nil => rfl
    | cons c tail =>
      obtain ⟨hplus, hminus⟩ := ht c rfl
      simp [signLength, hplus, hminus]
  · rfl
  · rfl

/-- A digit or a point follows the sign of a numeral, since one of the two runs of digits is
there. -/
theorem ne_sign_of_head? {whole fraction : List Char} (hw : ∀ c ∈ whole, isDigit c = true)
    (hf : fraction = [] ∨ ∃ digits, fraction = '.' :: digits) (hne : whole ≠ [] ∨ fraction ≠ [])
    {c : Char} (hc : (whole ++ (fraction ++ rest)).head? = some c) : c ≠ '+' ∧ c ≠ '-' := by
  cases whole with
  | cons d whole =>
    obtain rfl := Option.some.inj hc
    have hd := isDigit_iff.mp (hw d List.mem_cons_self)
    constructor
    · rintro rfl
      exact absurd hd.1 (by decide)
    · rintro rfl
      exact absurd hd.1 (by decide)
  | nil =>
    rcases hf with rfl | ⟨digits, rfl⟩
    · exact absurd rfl (hne.resolve_left (by simp))
    · obtain rfl := Option.some.inj hc
      decide

/-- **A numeral is measured to its end**, when a blank or nothing stands behind it. -/
theorem numeralLength?_append {literal : List Char} (h : IsNumeral literal)
    (hr : EndsWord rest) : numeralLength? (literal ++ rest) = some literal.length := by
  obtain ⟨sign, whole, fraction, rfl, hs, hw, hf, hne⟩ := h.exists_parts
  have hrun : ∀ c, isBlank c = true → isDigit c = false := fun c => isDigit_of_isBlank
  -- behind the whole digits stands a point or the end of the word, so no digit
  have hwhole : (whole ++ (fraction ++ rest)).takeWhile isDigit = whole := by
    rw [List.takeWhile_append_of_pos hw]
    rcases hf with rfl | ⟨digits, rfl, -, -⟩
    · rw [List.nil_append, hr.takeWhile_nil hrun, List.append_nil]
    · rw [List.cons_append, List.takeWhile_cons]
      simp [show isDigit '.' = false from rfl]
  -- without a fraction, what stands behind is the end of the word, so no point
  have hfraction : fractionLength (fraction ++ rest) = fraction.length := by
    rcases hf with rfl | ⟨digits, rfl, hd, hdigits⟩
    · cases rest with
      | nil => rfl
      | cons c rest =>
        have hpoint : c ≠ '.' := ne_of_isBlank (hr c rfl) rfl
        simp [fractionLength, hpoint]
    · have hlen : 0 < digits.length := List.length_pos_iff.mpr hd
      simp [fractionLength, hr.takeWhile hrun hdigits, hlen]
  have hsign : signLength (sign ++ (whole ++ (fraction ++ rest))) = sign.length :=
    signLength_append hs fun c hc =>
      ne_sign_of_head? hw (hf.imp_right (Exists.imp fun _ => And.left))
      hne hc
  have hsum : whole.length + fraction.length ≠ 0 := by
    rcases hne with hne | hne
    · have := List.length_pos_iff.mpr hne
      omega
    · have := List.length_pos_iff.mpr hne
      omega
  have hdrop : (sign ++ (whole ++ (fraction ++ rest))).drop (sign.length + whole.length) =
      fraction ++ rest := by
    rw [← List.drop_drop, List.drop_left, List.drop_left]
  rw [List.append_assoc, List.append_assoc]
  simp only [numeralLength?, hsign, List.drop_left, hwhole, hdrop, hfraction, if_neg hsum,
    List.length_append, Nat.add_assoc]

/-- A literal is read as the number that it denotes. -/
theorem ofNumeral_of_denotes {literal : List Char} {x : Binary64} (h : Denotes literal x)
    (position : Nat) (rest : List Char) :
    ofNumeral position (literal ++ rest) literal.length = ⟨.ok (.number x), literal.length⟩ := by
  obtain ⟨-, n, hn, rfl⟩ := h
  simp only [ofNumeral, List.take_left, hn]

/-- What is measured to the end of a numeral is read as the number that the numeral denotes. -/
theorem read_of_numeralLength? {literal : List Char} {x : Binary64} (h : Denotes literal x)
    (hlen : numeralLength? (literal ++ rest) = some literal.length) (position : Nat) :
    read position (literal ++ rest) = ⟨.ok (.number x), literal.length⟩ := by
  have hread := ofNumeral_of_denotes h position rest
  cases hcs : literal ++ rest with
  | nil =>
    rw [hcs] at hlen
    exact absurd hlen (by simp)
  | cons c cs =>
    rw [hcs] at hlen hread
    simp only [read, hlen, hread]

/-- **A numeral is read as the number that it denotes.** -/
theorem read_numeral {literal : List Char} {x : Binary64} (h : Denotes literal x)
    (hr : EndsWord rest) (position : Nat) :
    read position (literal ++ rest) = ⟨.ok (.number x), literal.length⟩ :=
  read_of_numeralLength? h (numeralLength?_append h.1 hr) position

/-- There is no token that begins with a blank. -/
theorem read_of_isBlank {c : Char} (h : isBlank c = true) (position : Nat) :
    read position (c :: rest) = ⟨.error (.unexpectedChar c position), 0⟩ := by
  have hne : ∀ d, isBlank d = false → c ≠ d := fun d hd => ne_of_isBlank h hd
  have hword : ¬(isAlphabetic c || c == '_') = true := by
    have hid := isIdentifierChar_of_isBlank h
    simp only [isIdentifierChar, isAlphanumeric, Bool.or_eq_false_iff] at hid
    simp [hid.1.1, hne '_' rfl]
  have hnumeral : beginsNumeral c = false := by
    simp [beginsNumeral, isDigit_of_isBlank h, hne '+' rfl, hne '-' rfl, hne '.' rfl]
  rw [read_eq_ofChar hnumeral]
  simp only [ofChar, if_neg (hne '$' rfl), if_neg (hne '@' rfl), if_neg (hne '"' rfl),
    if_neg (hne '/' rfl), if_neg (hne '(' rfl), if_neg (hne ')' rfl), if_neg (hne ',' rfl),
    if_neg (hne '!' rfl), if_neg (hne '<' rfl), if_neg (hne '>' rfl), if_neg (hne '=' rfl),
    if_neg (hne '&' rfl), if_neg (hne '|' rfl), if_neg hword]

/-! ### Strings and patterns -/

/-- A quote closes a string. -/
theorem stringBody_quote (rest : List Char) : stringBody ('"' :: rest) = .closed [] 1 := by
  cases rest <;> rfl

/-- An escape stands for its character. -/
theorem stringBody_escape {d e : Char} (h : unescape? d = some e) (rest : List Char) :
    stringBody ('\\' :: d :: rest) = (stringBody rest).cons e 2 := by
  rw [stringBody, if_neg (by decide), if_pos rfl, h]

/-- Any other character stands for itself. -/
theorem stringBody_plain {c : Char} (hq : c ≠ '"') (hb : c ≠ '\\') (rest : List Char) :
    stringBody (c :: rest) = (stringBody rest).cons c 1 := by
  cases rest with
  | nil => simp [stringBody, hq, Body.cons]
  | cons d rest => rw [stringBody, if_neg hq, if_neg hb]

/-- **Escaped text reads back**, up to the quote behind it. -/
theorem stringBody_escapeString (cs rest : List Char) :
    stringBody (escapeString cs ++ '"' :: rest) = .closed cs ((escapeString cs).length + 1) := by
  induction cs with
  | nil => exact stringBody_quote rest
  | cons c cs ih =>
    by_cases hq : c = '"'
    · subst hq
      change stringBody ('\\' :: '"' :: (escapeString cs ++ '"' :: rest)) = _
      rw [stringBody_escape rfl, ih]
      rfl
    · by_cases hb : c = '\\'
      · subst hb
        change stringBody ('\\' :: '\\' :: (escapeString cs ++ '"' :: rest)) = _
        rw [stringBody_escape rfl, ih]
        rfl
      · have he : escapeString (c :: cs) = c :: escapeString cs := by
          simp [escapeString, hq, hb]
        rw [he, List.cons_append, stringBody_plain hq hb, ih]
        rfl

/-- A slash closes a pattern. -/
theorem regexBody_slash (rest : List Char) : regexBody ('/' :: rest) = .closed [] 1 := by
  cases rest <;> rfl

/-- A slash behind a backslash belongs to the pattern. -/
theorem regexBody_escape (rest : List Char) :
    regexBody ('\\' :: '/' :: rest) = (regexBody rest).cons '/' 2 := by
  rw [regexBody, if_neg (by decide), if_pos (by decide)]

/-- Any other character stands for itself. -/
theorem regexBody_plain {c : Char} (hs : c ≠ '/') {rest : List Char}
    (h : c = '\\' → rest.head? ≠ some '/') : regexBody (c :: rest) = (regexBody rest).cons c 1 := by
  cases rest with
  | nil => simp [regexBody, hs, Body.cons]
  | cons d rest =>
    have hcd : ¬(decide (c = '\\') && decide (d = '/')) = true := by
      simp only [Bool.and_eq_true, decide_eq_true_eq, not_and]
      intro hc hd
      exact h hc (by rw [hd]; rfl)
    rw [regexBody, if_neg hs, if_neg hcd]

/-- Puts the characters of a pattern, written with escapes, before a body. -/
def Body.prepend (cs : List Char) (b : Body) : Body :=
  cs.foldr (fun c b => b.cons c (if c = '/' then 2 else 1)) b

theorem Body.prepend_unclosed (cs : List Char) : Body.prepend cs .unclosed = .unclosed := by
  induction cs with
  | nil => rfl
  | cons c cs ih => exact congrArg (Body.cons c _) ih

theorem Body.prepend_closed (cs : List Char) :
    Body.prepend cs (.closed [] 1) = .closed cs ((escapePattern cs).length + 1) := by
  induction cs with
  | nil => rfl
  | cons c cs ih =>
    refine (congrArg (Body.cons c _) ih).trans ?_
    by_cases hs : c = '/'
    · simp [Body.cons, escapePattern, hs]
    · simp [Body.cons, escapePattern, hs]

/-- **An escaped pattern is taken up into a body as it is.** A backslash at its end would escape a
slash behind it. -/
theorem regexBody_escapePattern_append {cs rest : List Char}
    (h : cs.getLast? = some '\\' → rest.head? ≠ some '/') :
    regexBody (escapePattern cs ++ rest) = Body.prepend cs (regexBody rest) := by
  induction cs with
  | nil => rfl
  | cons c cs ih =>
    -- the last character of the rest is the last one of the whole, if there is a rest
    have hcs : cs.getLast? = some '\\' → rest.head? ≠ some '/' := by
      cases cs with
      | nil => simp
      | cons d cs => rwa [List.getLast?_cons_cons] at h
    by_cases hs : c = '/'
    · subst hs
      change regexBody ('\\' :: '/' :: (escapePattern cs ++ rest)) = _
      rw [regexBody_escape, ih hcs]
      rfl
    · have he : escapePattern (c :: cs) = c :: escapePattern cs := by
        simp [escapePattern, hs]
      -- behind a backslash the pattern goes on, and no spelling of a character begins with a slash
      have hnext : c = '\\' → (escapePattern cs ++ rest).head? ≠ some '/' := by
        rintro rfl
        cases cs with
        | nil => exact h rfl
        | cons d cs =>
          by_cases hd : d = '/'
          · simp [escapePattern, hd]
          · simp [escapePattern, hd]
      rw [he, List.cons_append, regexBody_plain hs hnext, ih hcs]
      simp only [Body.prepend, List.foldr_cons, if_neg hs]

/-- **An escaped pattern reads back**, up to the slash behind it. -/
theorem regexBody_escapePattern {cs : List Char} (h : cs.getLast? ≠ some '\\')
    (rest : List Char) :
    regexBody (escapePattern cs ++ '/' :: rest) = .closed cs ((escapePattern cs).length + 1) := by
  rw [regexBody_escapePattern_append fun hlast => absurd hlast h, regexBody_slash,
    Body.prepend_closed]

/-- If its last character is a backslash, it escapes the slash behind it, and nothing is left to end
the pattern. -/
theorem regexBody_escapePattern_of_backslash {cs : List Char} (h : cs.getLast? = some '\\') :
    regexBody (escapePattern cs ++ ['/']) = .unclosed := by
  obtain ⟨ds, rfl⟩ := List.getLast?_eq_some_iff.mp h
  have hescape : escapePattern (ds ++ ['\\']) ++ ['/'] = escapePattern ds ++ ['\\', '/'] := by
    simp [escapePattern]
  rw [hescape, regexBody_escapePattern_append fun _ => by simp, regexBody_escape]
  exact Body.prepend_unclosed ds

/-- **A string is read from what it is written as.** -/
theorem read_string (s : String) (rest : List Char) (position : Nat) :
    read position ('"' :: (escapeString s.toList ++ ['"']) ++ rest) =
      ⟨.ok (.string s), ('"' :: (escapeString s.toList ++ ['"'])).length⟩ := by
  have hbody : stringBody (escapeString s.toList ++ ['"'] ++ rest) =
      .closed s.toList ((escapeString s.toList).length + 1) := by
    rw [List.append_assoc]
    exact stringBody_escapeString s.toList rest
  rw [List.cons_append, read_eq_ofChar rfl]
  change ofBody position _ .string _ (stringBody _) = _
  rw [hbody]
  simp [ofBody]

/-- **A pattern is read from what it is written as**, unless it ends in a backslash. -/
theorem read_pattern {pattern : String} (h : pattern.toList.getLast? ≠ some '\\')
    (rest : List Char) (position : Nat) :
    read position ('/' :: (escapePattern pattern.toList ++ ['/']) ++ rest) =
      ⟨.ok (.regex pattern), ('/' :: (escapePattern pattern.toList ++ ['/'])).length⟩ := by
  have hbody : regexBody (escapePattern pattern.toList ++ ['/'] ++ rest) =
      .closed pattern.toList ((escapePattern pattern.toList).length + 1) := by
    rw [List.append_assoc]
    exact regexBody_escapePattern h rest
  rw [List.cons_append, read_eq_ofChar rfl]
  change ofBody position _ .regex _ (regexBody _) = _
  rw [hbody]
  simp [ofBody]

/-! ### Names and words -/

/-- **A function name is read as such.** -/
theorem read_function {name : String} (h : isFunctionName name = true) (hr : EndsWord rest)
    (position : Nat) :
    read position (name.toList ++ rest) = ⟨.ok (.function name), name.toList.length⟩ := by
  rw [isFunctionName] at h
  cases hn : name.toList with
  | nil => simp [hn] at h
  | cons c cs =>
    simp only [hn, Bool.and_eq_true, beq_iff_eq, Bool.not_eq_true'] at h
    obtain ⟨⟨rfl, hne⟩, hall⟩ := h
    have hrun : (cs ++ rest).takeWhile isIdentifierChar = cs :=
      hr.takeWhile (fun c => isIdentifierChar_of_isBlank) (List.all_eq_true.mp hall)
    have hname : String.ofList ('@' :: cs) = name := by rw [← hn, String.ofList_toList]
    rw [List.cons_append, read_eq_ofChar rfl]
    change ofFunction position (cs ++ rest) = _
    simp only [ofFunction, hrun, hne, hname]
    rfl

/-- A keyword is read as a word to its end. -/
theorem ofWord_append {word : List Char} {t : Token} (hk : keyword? word = some t)
    (hw : ∀ c ∈ word, isIdentifierChar c = true) (hr : EndsWord rest) (position : Nat) :
    ofWord position (word ++ rest) = ⟨.ok t, word.length⟩ := by
  simp only [ofWord, hr.takeWhile (fun c => isIdentifierChar_of_isBlank) hw, hk]

/-- A keyword that begins with a letter is read as its token. -/
theorem read_keyword {c : Char} {cs : List Char} {t : Token} (hk : keyword? (c :: cs) = some t)
    (hw : (c :: cs).all isIdentifierChar = true) (hn : beginsNumeral c = false)
    (hc : ∀ position tail, ofChar position c tail = ofWord position (c :: tail))
    (hr : EndsWord rest) (position : Nat) :
    read position (c :: cs ++ rest) = ⟨.ok t, (c :: cs).length⟩ := by
  have hword := ofWord_append hk (List.all_eq_true.mp hw) hr position
  rw [List.cons_append] at hword ⊢
  rw [read_eq_ofChar hn, hc, hword]

/-- **A bool is read from its keyword.** -/
theorem read_boolean (b : Bool) (hr : EndsWord rest) (position : Nat) :
    read position ((if b then "true" else "false").toList ++ rest) =
      ⟨.ok (.boolean b), (if b then "true" else "false").toList.length⟩ := by
  cases b with
  | true =>
    have hk : keyword? ['t', 'r', 'u', 'e'] = some (.boolean true) := by decide
    exact read_keyword hk (by decide) rfl (fun _ _ => rfl) hr position
  | false =>
    have hk : keyword? ['f', 'a', 'l', 's', 'e'] = some (.boolean false) := by decide
    exact read_keyword hk (by decide) rfl (fun _ _ => rfl) hr position

/-- **Nil is read from its keyword.** -/
theorem read_nil (hr : EndsWord rest) (position : Nat) :
    read position ("nil".toList ++ rest) = ⟨.ok .nil, "nil".toList.length⟩ := by
  have hk : keyword? ['n', 'i', 'l'] = some .nil := by decide
  exact read_keyword hk (by decide) rfl (fun _ _ => rfl) hr position

/-! ### Operators -/

/-- The shorter operator of a pair is read at the end of a word. -/
theorem ofPair_single {double single : Operator} (hr : EndsWord rest) :
    ofPair double single rest = ⟨.ok (.operator single), 1⟩ :=
  if_neg (hr.head?_ne rfl)

/-- Of the operators, those of one character need that no equality sign stands behind them. -/
theorem read_operator (op : Operator) (hr : EndsWord rest) (position : Nat) :
    read position (op.symbol.toList ++ rest) = ⟨.ok (.operator op), op.symbol.toList.length⟩ := by
  have hstart : ∀ (c : Char) (cs : List Char), beginsNumeral c = false →
      read position (c :: cs) = ofChar position c cs := fun c cs h => read_eq_ofChar h position
  cases op with
  | not => exact (hstart '!' rest rfl).trans (ofPair_single hr)
  | less => exact (hstart '<' rest rfl).trans (ofPair_single hr)
  | greater => exact (hstart '>' rest rfl).trans (ofPair_single hr)
  | lessEqual => exact hstart '<' ('=' :: rest) rfl
  | greaterEqual => exact hstart '>' ('=' :: rest) rfl
  | notEqual => exact hstart '!' ('=' :: rest) rfl
  | equal => exact hstart '=' ('=' :: rest) rfl
  | and => exact hstart '&' ('&' :: rest) rfl
  | or => exact hstart '|' ('|' :: rest) rfl

end Lexeme

/-! ### Lexers in front of a word -/

namespace Lexer

variable {l : Lexer} {blanks rest : List Char}

/-- A lexer skips the blanks before a word and takes up the word. -/
theorem next_of_read {t : Token} {word : List Char} (hl : l.rest = blanks ++ (word ++ rest))
    (hb : IsBlanks blanks)
    (h : ∀ position, Lexeme.read position (word ++ rest) = ⟨.ok t, word.length⟩) :
    ∃ position, l.next = (.ok t, ⟨position, rest⟩) := by
  -- skipping stops at the word, since nothing is read from what begins with a blank
  have hstop : (word ++ rest).dropWhile isBlank = word ++ rest := by
    cases hcs : word ++ rest with
    | nil => rfl
    | cons c cs =>
      cases hc : isBlank c with
      | false => rw [List.dropWhile_cons, hc]; rfl
      | true =>
        have hread := h 0
        rw [hcs, Lexeme.read_of_isBlank hc] at hread
        exact absurd (congrArg Lexeme.outcome hread) (by simp)
  have hskip : l.rest.dropWhile isBlank = word ++ rest := by
    rw [hl, List.dropWhile_append_of_pos hb, hstop]
  have hlexeme : l.lexeme = ⟨.ok t, word.length⟩ := by
    rw [lexeme, skipBlanks, hskip]
    exact h _
  refine ⟨l.skipBlanks.position + word.length, ?_⟩
  have hrest : l.skipBlanks.rest.drop word.length = rest := by
    rw [skipBlanks, hskip, List.drop_left]
  rw [next, hlexeme, advance, hrest]

/-- Of blanks nothing is left. -/
theorem next_of_isBlanks (h : IsBlanks l.rest) : ∃ last, l.next = (.ok .eof, last) := by
  have hskip : l.rest.dropWhile isBlank = [] := by
    have hdrop : (l.rest ++ []).dropWhile isBlank = [].dropWhile isBlank :=
      List.dropWhile_append_of_pos h
    rwa [List.append_nil] at hdrop
  have hlexeme : l.lexeme = ⟨.ok .eof, 0⟩ := by
    rw [lexeme, skipBlanks, hskip]
    rfl
  exact ⟨l.skipBlanks.advance 0, by rw [next, hlexeme]⟩

end Lexer

end Criteria
