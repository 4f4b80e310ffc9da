import Criteria.Proofs.Token.Joining

/-!
# Cutting a text off behind a word

Some readers look at what stands behind the characters that they have taken: for a digit behind a
point, for an equality sign behind `<`. If they find it, they take it too. So what has let a reader
go on is part of its word, and all else that stands behind the word has only made it stop. To have
the text cut off there, or anywhere behind the word, makes it stop as well: **a token that is read
from a text is read from every front part of the text that holds its word**
(`Criteria.Lexeme.isFoundWithin_read`).

Again every reader is followed in turn; that more text behind a front part changes nothing is the
opposite direction (`Criteria.Lexeme.isKept_read`), which needs a condition on the text.
-/

namespace Criteria

namespace Lexeme

/-- A lexeme is **found within** a number of characters by a second reading that gives the same,
unless it holds a fault or is longer. -/
def IsFoundWithin (n : Nat) (l l' : Lexeme) : Prop :=
  ∀ t, l.outcome = .ok t → l.length ≤ n → l' = l

theorem isFoundWithin_refl (n : Nat) (l : Lexeme) : l.IsFoundWithin n l := fun _ _ _ => rfl

theorem isFoundWithin_error (n : Nat) (e : LexError) (length : Nat) (l' : Lexeme) :
    IsFoundWithin n ⟨.error e, length⟩ l' := by
  intro t h
  exact absurd h (by simp)

theorem IsFoundWithin.ite {p : Prop} [Decidable p] {n : Nat} {l m l' m' : Lexeme}
    (hl : p → l.IsFoundWithin n l') (hm : m.IsFoundWithin n m') :
    (if p then l else m).IsFoundWithin n (if p then l' else m') := by
  by_cases hp : p
  · simpa only [if_pos hp] using hl hp
  · simpa only [if_neg hp] using hm

section Readers

variable {front back : List Char}

/-! ### Runs of characters and numerals -/

/-- A run that ends within the front part is a run of the front part. -/
theorem takeWhile_front {p : Char → Bool}
    (h : ((front ++ back).takeWhile p).length ≤ front.length) :
    front.takeWhile p = (front ++ back).takeWhile p := by
  rw [List.takeWhile_append] at h ⊢
  split
  · rename_i hall
    rw [if_pos hall, List.length_append] at h
    have hback : back.takeWhile p = [] := List.length_eq_zero_iff.mp (by omega)
    rw [hback, List.append_nil]
    exact (List.takeWhile_prefix p).eq_of_length hall
  · rfl

/-- Decimals that end within the front are those of the front. -/
theorem fractionLength_front (h : fractionLength (front ++ back) ≤ front.length) :
    fractionLength front = fractionLength (front ++ back) := by
  cases front with
  | nil => exact (Nat.le_zero.mp h).symm
  | cons c front =>
    rw [List.cons_append] at h ⊢
    simp only [fractionLength] at h ⊢
    -- the digits behind the point are within the front part, part of a fraction or not
    by_cases hc : c = '.'
    · have hdigits : ((front ++ back).takeWhile isDigit).length ≤ front.length := by
        by_cases hpos : 0 < ((front ++ back).takeWhile isDigit).length
        · simpa [hc, hpos] using h
        · omega
      rw [takeWhile_front hdigits]
    · simp [hc]

/-- A numeral that ends within the front part is measured there, and where there is none, cutting
makes none. -/
theorem numeralLength?_front {c : Char}
    (h : ∀ n, numeralLength? (c :: (front ++ back)) = some n → n ≤ front.length + 1) :
    numeralLength? (c :: front) = numeralLength? (c :: (front ++ back)) := by
  rw [← List.cons_append] at h ⊢
  have hsign : signLength (c :: front ++ back) = signLength (c :: front) := rfl
  have hone : signLength (c :: front) ≤ (c :: front).length := by
    simp only [signLength, List.length_cons]
    split <;> omega
  simp only [numeralLength?, hsign] at h ⊢
  generalize signLength (c :: front) = sign at hone h ⊢
  have hunsigned : (c :: front ++ back).drop sign = (c :: front).drop sign ++ back :=
    List.drop_append_of_le_length hone
  rw [hunsigned] at h ⊢
  generalize hwhole : (((c :: front).drop sign ++ back).takeWhile isDigit).length = whole at h ⊢
  generalize hfraction : fractionLength ((c :: front ++ back).drop (sign + whole)) = fraction at h ⊢
  -- sign, digits and fraction are within the front part, also when there is no digit at all
  have hle : sign + whole + fraction ≤ (c :: front).length := by
    by_cases hzero : whole + fraction = 0
    · omega
    · exact h _ (if_neg hzero)
  have hrun : ((c :: front).drop sign).takeWhile isDigit =
      ((c :: front).drop sign ++ back).takeWhile isDigit :=
    takeWhile_front (by rw [hwhole, List.length_drop]; omega)
  have hbehind : (c :: front ++ back).drop (sign + whole) =
      (c :: front).drop (sign + whole) ++ back :=
    List.drop_append_of_le_length (by omega)
  rw [hbehind] at hfraction
  have hfront : fractionLength ((c :: front).drop (sign + whole)) = fraction := by
    rw [← hfraction]
    exact fractionLength_front (by rw [hfraction, List.length_drop]; omega)
  rw [hrun, hwhole, hfront]

theorem length_ofNumeral (position : Nat) (cs : List Char) (n : Nat) :
    (ofNumeral position cs n).length = n := by
  rw [ofNumeral]
  split <;> rfl

/-- A numeral that ends within the front is found there. -/
theorem isFoundWithin_ofNumeral (position place n : Nat) (front back : List Char) :
    IsFoundWithin front.length (ofNumeral position (front ++ back) n)
      (ofNumeral place front n) := by
  intro t ht hle
  rw [length_ofNumeral] at hle
  rw [ofNumeral, List.take_append_of_le_length hle] at ht
  rw [ofNumeral, ofNumeral, List.take_append_of_le_length hle]
  cases hnumeral : Numeral.read? (front.take n) with
  | some numeral => rfl
  | none =>
    rw [hnumeral] at ht
    cases ht

/-! ### Strings and patterns -/

/-- The escapes of strings are read. -/
theorem unescape?_of_mem {c d : Char} (h : (c, d) ∈ escapes) : unescape? c = some d := by
  simp only [escapes, List.mem_cons, Prod.mk.injEq, List.not_mem_nil, or_false] at h
  rcases h with ⟨rfl, rfl⟩ | ⟨rfl, rfl⟩ | ⟨rfl, rfl⟩ | ⟨rfl, rfl⟩ | ⟨rfl, rfl⟩ <;> rfl

/-- What may stand between quotes is read as its contents, up to the quote behind it. -/
theorem stringBody_of_isStringBody {body contents : List Char} (h : IsStringBody body contents)
    (rest : List Char) :
    stringBody (body ++ '"' :: rest) = .closed contents (body.length + 1) := by
  induction h with
  | nil => exact stringBody_quote rest
  | plain hq hb _ ih =>
    rw [List.cons_append, stringBody_plain hq hb, ih]
    rfl
  | escape he _ ih =>
    rw [List.cons_append, List.cons_append, stringBody_escape (unescape?_of_mem he), ih]
    rfl

/-- So is what may stand between slashes. -/
theorem regexBody_of_isPatternBody {body pattern : List Char} (h : IsPatternBody body pattern)
    (rest : List Char) :
    regexBody (body ++ '/' :: rest) = .closed pattern (body.length + 1) := by
  induction h with
  | nil => exact regexBody_slash rest
  | @plain c body pattern hs hb h ih =>
    -- a backslash has something of the pattern behind it, which does not begin with a slash
    have hnext : c = '\\' → (body ++ '/' :: rest).head? ≠ some '/' := by
      intro hc
      cases h with
      | nil => exact absurd rfl (hb hc)
      | plain hs' _ _ => simpa using hs'
      | escape _ => simp
    rw [List.cons_append, regexBody_plain hs hnext, ih]
    rfl
  | escape _ ih =>
    rw [List.cons_append, List.cons_append, regexBody_escape, ih]
    rfl

/-- A closed body within the front part of a text is the body of the front part. -/
theorem isFoundWithin_ofBody {IsBody : List Char → List Char → Prop} {delimiter : Char}
    {read : List Char → Body}
    (htakes : (read (front ++ back)).Takes IsBody delimiter (front ++ back))
    (hread : ∀ {body contents}, IsBody body contents → ∀ rest,
      read (body ++ delimiter :: rest) = .closed contents (body.length + 1))
    (position place all all' : Nat) (token : String → Token) (e e' : LexError) :
    IsFoundWithin (front.length + 1) (ofBody position all token e (read (front ++ back)))
      (ofBody place all' token e' (read front)) := by
  cases hb : read (front ++ back) with
  | badEscape c place => exact isFoundWithin_error _ _ _ _
  | unclosed => exact isFoundWithin_error _ _ _ _
  | closed contents length =>
    intro t _ hle
    obtain ⟨body, rest, hcs, rfl, hbody⟩ := htakes contents length hb
    -- the body and its delimiter are a prefix of the text that is no longer than the front part
    have hprefix : body ++ [delimiter] <+: front ++ back :=
      ⟨rest, by rw [hcs, List.append_assoc]; rfl⟩
    have hlength : (body ++ [delimiter]).length ≤ front.length := by
      rw [List.length_append]
      exact Nat.le_of_succ_le_succ hle
    obtain ⟨tail, rfl⟩ := List.prefix_of_prefix_length_le hprefix (List.prefix_append _ _) hlength
    rw [List.append_assoc, List.singleton_append, hread hbody]
    rfl

/-! ### Variables, names and words -/

/-- A path that ends within the front is one of the front. -/
theorem pathLength?_front {place : PathPlace} {n : Nat}
    (h : pathLength? place (front ++ back) = some n) (hn : n ≤ front.length) :
    pathLength? place front = some n := by
  induction front generalizing place n with
  | nil =>
    obtain rfl := Nat.le_zero.mp hn
    -- between brackets a path goes on for a character at least
    cases place with
    | outside => rfl
    | index => cases back <;> simp [pathLength?] at h
    | quotes => cases back <;> simp [pathLength?] at h
  | cons c front ih =>
    have hstep : ∀ next, (pathLength? next (front ++ back)).map (· + 1) = some n →
        (pathLength? next front).map (· + 1) = some n := by
      intro next hnext
      obtain ⟨m, hm, rfl⟩ := Option.map_eq_some_iff.mp hnext
      rw [ih hm (Nat.le_of_succ_le_succ hn)]
      rfl
    cases place with
    | outside =>
      rw [List.cons_append] at h
      rw [pathLength?] at h ⊢
      split
      · rename_i hpath
        rw [if_pos hpath] at h
        exact hstep _ h
      · rename_i hpath
        rw [if_neg hpath] at h
        split
        · rename_i hbracket
          rw [if_pos hbracket] at h
          exact hstep _ h
        · rename_i hbracket
          rwa [if_neg hbracket] at h
    | index => exact hstep _ h
    | quotes => exact hstep _ h

/-- A variable that ends within the front is found there. -/
theorem isFoundWithin_ofVariable (position place : Nat) (front back : List Char) :
    IsFoundWithin (front.length + 1) (ofVariable position (front ++ back))
      (ofVariable place front) := by
  rw [ofVariable]
  split
  · rename_i n hn
    intro t _ hle
    have hfront : n ≤ front.length := Nat.le_of_succ_le_succ hle
    rw [ofVariable, pathLength?_front hn hfront]
    simp only [List.take_append_of_le_length hfront]
  · exact isFoundWithin_error _ _ _ _

/-- A function name that ends within the front is found there. -/
theorem isFoundWithin_ofFunction (position place : Nat) (front back : List Char) :
    IsFoundWithin (front.length + 1) (ofFunction position (front ++ back))
      (ofFunction place front) := by
  simp only [ofFunction]
  split
  · exact isFoundWithin_error _ _ _ _
  · rename_i hname
    intro t _ hle
    rw [takeWhile_front (Nat.le_of_succ_le_succ hle), if_neg hname]

/-- A word that ends within the front is found there. -/
theorem isFoundWithin_ofWord (position place : Nat) (front back : List Char) :
    IsFoundWithin front.length (ofWord position (front ++ back)) (ofWord place front) := by
  simp only [ofWord]
  split
  · rename_i keyword hkeyword
    intro t _ hle
    rw [takeWhile_front hle, hkeyword]
  · exact isFoundWithin_error _ _ _ _

/-! ### Operators -/

/-- An operator of one or two characters that ends within the front is found there. -/
theorem isFoundWithin_ofPair (double single : Operator) (front back : List Char) :
    IsFoundWithin (front.length + 1) (ofPair double single (front ++ back))
      (ofPair double single front) := by
  cases front with
  | nil =>
    -- there is no room for the equality sign
    rw [List.nil_append, ofPair, ofPair]
    split
    · intro t _ hle
      exact absurd hle (by simp)
    · exact isFoundWithin_refl _ _
  | cons c front => exact isFoundWithin_refl _ _

/-- A logical operator that ends within the front is found there. -/
theorem isFoundWithin_ofTwin (position place : Nat) (c : Char) (op : Operator)
    (front back : List Char) :
    IsFoundWithin (front.length + 1) (ofTwin position c op (front ++ back))
      (ofTwin place c op front) := by
  cases front with
  | nil =>
    rw [List.nil_append, ofTwin]
    split
    · intro t _ hle
      exact absurd hle (by simp)
    · exact isFoundWithin_error _ _ _ _
  | cons d front => exact .ite (fun _ => isFoundWithin_refl _ _) (isFoundWithin_error _ _ _ _)

/-! ### All lexemes -/

/-- **A token that ends within the front is found there**, whatever its first character. -/
theorem isFoundWithin_ofChar (position place : Nat) (c : Char) (front back : List Char) :
    IsFoundWithin (front.length + 1) (ofChar position c (front ++ back))
      (ofChar place c front) :=
  .ite (fun _ => isFoundWithin_ofVariable _ _ _ _) <|
  .ite (fun _ => isFoundWithin_ofFunction _ _ _ _) <|
  .ite (fun _ => isFoundWithin_ofBody (takes_stringBody _) stringBody_of_isStringBody
    _ _ _ _ _ _ _) <|
  .ite (fun _ => isFoundWithin_ofBody (takes_regexBody _) regexBody_of_isPatternBody
    _ _ _ _ _ _ _) <|
  .ite (fun _ => isFoundWithin_refl _ _) <|
  .ite (fun _ => isFoundWithin_refl _ _) <|
  .ite (fun _ => isFoundWithin_refl _ _) <|
  .ite (fun _ => isFoundWithin_ofPair _ _ _ _) <|
  .ite (fun _ => isFoundWithin_ofPair _ _ _ _) <|
  .ite (fun _ => isFoundWithin_ofPair _ _ _ _) <|
  .ite (fun _ => isFoundWithin_ofTwin _ _ _ _ _ _) <|
  .ite (fun _ => isFoundWithin_ofTwin _ _ _ _ _ _) <|
  .ite (fun _ => isFoundWithin_ofTwin _ _ _ _ _ _) <|
  .ite (fun _ => isFoundWithin_ofWord _ _ (c :: front) back) (isFoundWithin_error _ _ _ _)

/-- **A token that is read from a text is read from every front part of the text that holds its
word.** -/
theorem isFoundWithin_read (position place : Nat) (c : Char) (front back : List Char) :
    IsFoundWithin (front.length + 1) (read position (c :: front ++ back))
      (read place (c :: front)) := by
  intro t ht hle
  rw [List.cons_append] at ht hle ⊢
  cases hn : numeralLength? (c :: (front ++ back)) with
  | some n =>
    simp only [read, hn] at ht hle ⊢
    have hwithin : ∀ m, numeralLength? (c :: (front ++ back)) = some m → m ≤ front.length + 1 := by
      intro m hm
      rw [hn] at hm
      rwa [length_ofNumeral, Option.some.inj hm] at hle
    rw [numeralLength?_front hwithin, hn]
    exact isFoundWithin_ofNumeral position place n (c :: front) back t ht hle
  | none =>
    simp only [read, hn] at ht hle ⊢
    have hwithin : ∀ m, numeralLength? (c :: (front ++ back)) = some m → m ≤ front.length + 1 := by
      intro m hm
      rw [hn] at hm
      cases hm
    rw [numeralLength?_front hwithin, hn]
    exact isFoundWithin_ofChar position place c front back t ht hle

/-- A token is read from its word wherever the text behind the word is cut off. -/
theorem read_of_append {word behind rest : List Char} {t : Token} {position : Nat}
    (h : read position (word ++ (behind ++ rest)) = ⟨.ok t, word.length⟩) (hne : t ≠ .eof)
    (place : Nat) : read place (word ++ behind) = ⟨.ok t, word.length⟩ := by
  have ht : (read position (word ++ (behind ++ rest))).outcome = .ok t := by rw [h]
  have hlength : (read position (word ++ (behind ++ rest))).length = word.length := by rw [h]
  cases word with
  | nil => exact absurd hlength (Nat.pos_iff_ne_zero.mp (read_length_pos ht hne).1)
  | cons c word =>
    rw [← h, ← List.append_assoc]
    rw [← List.append_assoc] at ht hlength
    have hwithin : (c :: word).length ≤ (word ++ behind).length + 1 := by simp
    exact isFoundWithin_read position place c (word ++ behind) rest t ht
      (Nat.le_trans (Nat.le_of_eq hlength) hwithin)

end Readers

end Lexeme

end Criteria
