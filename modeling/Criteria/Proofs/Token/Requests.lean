import Criteria.Proofs.Token.Words

/-!
# Asking a lexer again and again

A lexer can be asked for a token any number of times, also when it has answered with an error or
with the end before. Its **place** is sound through all of this: what is left to read is what the
text holds from the position on (`Criteria.Lexer.IsPlaceIn`), and no request moves the position back
or out of the text.

There are two sorts of answers. The end and the errors that leave the lexer where it is **stay**:
the lexer gives them again from the same place (`Criteria.Lexer.next_next_of_stays`), and so for
ever. All others move it forward by a character at least
(`Criteria.Lexer.position_lt_next_of_not_stays`). So at the latest when it has been asked once for
each character, it has come to an answer that stays (`Criteria.Lexer.IsPlaceIn.exists_stays`).
-/

namespace Criteria

/-! ### The lengths of faults -/

namespace Lexeme

/-- A lexeme **accounts for its fault**, if it holds one: the fault does not reach beyond the text,
and it takes no character exactly if it leaves the lexer where it is. -/
def Accounts (x : Lexeme) (cs : List Char) : Prop :=
  ∀ e, x.outcome = .error e → x.length ≤ cs.length ∧ (x.length = 0 ↔ e.isStuck = true)

section Accounts

variable {cs : List Char}

theorem accounts_ok (t : Token) (n : Nat) : Accounts ⟨.ok t, n⟩ cs := by
  intro e h
  exact absurd h (by simp)

/-- A fault that takes characters of the text. -/
theorem accounts_error {e : LexError} {n : Nat} (he : e.isStuck = false) (hn : 0 < n)
    (hle : n ≤ cs.length) : Accounts ⟨.error e, n⟩ cs := by
  intro f hf
  obtain rfl := Except.error.inj hf
  refine ⟨hle, ?_⟩
  rw [he]
  exact ⟨fun h => absurd h (Nat.pos_iff_ne_zero.mp hn), fun h => absurd h (by simp)⟩

/-- A fault that takes none. -/
theorem accounts_stuck {e : LexError} (he : e.isStuck = true) : Accounts ⟨.error e, 0⟩ cs := by
  intro f hf
  obtain rfl := Except.error.inj hf
  exact ⟨Nat.zero_le _, fun _ => he, fun _ => rfl⟩

theorem Accounts.ite {p : Prop} [Decidable p] {x y : Lexeme} (hx : p → x.Accounts cs)
    (hy : y.Accounts cs) : (if p then x else y).Accounts cs := by
  split
  · rename_i hp
    exact hx hp
  · exact hy

/-- Numerals account for their text. -/
theorem accounts_ofNumeral {n : Nat} (h : numeralLength? cs = some n) (position : Nat) :
    (ofNumeral position cs n).Accounts cs := by
  obtain ⟨literal, rest, rfl, rfl, -⟩ := exists_isNumeral h
  simp only [ofNumeral]
  split
  · exact accounts_ok _ _
  · refine accounts_error rfl (numeralLength?_pos h) ?_
    rw [List.length_append]
    exact Nat.le_add_right _ _

/-! ### Bodies -/

/-- If an escape in a body is bad, a character of the text is to blame. -/
def Body.BlamesWithin (b : Body) (cs : List Char) : Prop :=
  ∀ c place, b = .badEscape c place → place < cs.length

/-- A wrong escape is further back by what stands before it. -/
theorem Body.cons_eq_badEscape_iff {b : Body} {c d : Char} {width place : Nat} :
    b.cons d width = .badEscape c place ↔
      ∃ inner, b = .badEscape c inner ∧ inner + width = place := by
  cases b with
  | closed contents length => simp [Body.cons]
  | unclosed => simp [Body.cons]
  | badEscape c' place' =>
    simp only [Body.cons, Body.badEscape.injEq]
    constructor
    · rintro ⟨hc, hplace⟩
      exact ⟨place', ⟨hc, rfl⟩, hplace⟩
    · rintro ⟨inner, ⟨hc, rfl⟩, hplace⟩
      exact ⟨hc, hplace⟩

/-- **A bad escape is a character behind a backslash.** -/
theorem exists_of_stringBody {cs : List Char} {c : Char} {place : Nat}
    (h : stringBody cs = .badEscape c place) :
    ∃ front rest, cs = front ++ '\\' :: c :: rest ∧ place = front.length + 1 := by
  induction cs using stringBody.induct generalizing place with
  | case1 | case2 => cases h
  | case3 d hd =>
    rw [stringBody, if_neg hd] at h
    cases h
  | case4 d rest =>
    rw [stringBody, if_pos rfl] at h
    cases h
  | case5 d rest e he hq ih =>
    rw [stringBody, if_neg hq, if_pos rfl, he] at h
    obtain ⟨inner, hinner, rfl⟩ := Body.cons_eq_badEscape_iff.mp h
    obtain ⟨front, behind, rfl, rfl⟩ := ih hinner
    exact ⟨'\\' :: d :: front, behind, rfl, rfl⟩
  | case6 d rest he hq =>
    rw [stringBody, if_neg hq, if_pos rfl, he] at h
    obtain ⟨rfl, rfl⟩ := Body.badEscape.inj h
    exact ⟨[], rest, rfl, rfl⟩
  | case7 d e rest hq hb ih =>
    rw [stringBody, if_neg hq, if_neg hb] at h
    obtain ⟨inner, hinner, rfl⟩ := Body.cons_eq_badEscape_iff.mp h
    obtain ⟨front, behind, hcs, rfl⟩ := ih hinner
    exact ⟨d :: front, behind, by rw [hcs]; rfl, rfl⟩

/-- In patterns no escape is bad. -/
theorem regexBody_ne_badEscape (cs : List Char) (c : Char) (place : Nat) :
    regexBody cs ≠ .badEscape c place := by
  intro h
  induction cs using regexBody.induct generalizing place with
  | case1 | case2 => cases h
  | case3 d hd =>
    rw [regexBody, if_neg hd] at h
    cases h
  | case4 d rest =>
    rw [regexBody, if_pos rfl] at h
    cases h
  | case5 d e rest hs hb ih =>
    rw [regexBody, if_neg hs, if_pos hb] at h
    obtain ⟨inner, hinner, -⟩ := Body.cons_eq_badEscape_iff.mp h
    exact ih inner hinner
  | case6 d e rest hs hb ih =>
    rw [regexBody, if_neg hs, if_neg hb] at h
    obtain ⟨inner, hinner, -⟩ := Body.cons_eq_badEscape_iff.mp h
    exact ih inner hinner

/-- A wrong escape of a string stands within it. -/
theorem blamesWithin_stringBody (cs : List Char) : (stringBody cs).BlamesWithin cs := by
  intro c place h
  obtain ⟨front, rest, rfl, rfl⟩ := exists_of_stringBody h
  simp only [List.length_append, List.length_cons]
  omega

/-- Patterns have no wrong escapes. -/
theorem blamesWithin_regexBody (cs : List Char) : (regexBody cs).BlamesWithin cs :=
  fun c place h => absurd h (regexBody_ne_badEscape cs c place)

/-- Strings and patterns account for their text. -/
theorem accounts_ofBody {b : Body} (h : b.BlamesWithin cs) {unclosed : LexError}
    (hu : unclosed.isStuck = false) (position : Nat) (token : String → Token) (delimiter : Char) :
    (ofBody position (cs.length + 1) token unclosed b).Accounts (delimiter :: cs) := by
  cases b with
  | closed contents length => exact accounts_ok _ _
  | badEscape c place =>
    have hplace := h c place rfl
    refine accounts_error rfl (by omega) ?_
    rw [List.length_cons]
    omega
  | unclosed => exact accounts_error hu (Nat.succ_pos _) (Nat.le_refl _)

/-! ### Variables, names, keywords and operators -/

theorem accounts_ofVariable (position : Nat) (rest : List Char) :
    (ofVariable position rest).Accounts ('$' :: rest) := by
  rw [ofVariable]
  split
  · exact accounts_ok _ _
  · exact accounts_error rfl (Nat.succ_pos _) (Nat.le_refl _)

theorem accounts_ofFunction (position : Nat) (rest : List Char) :
    (ofFunction position rest).Accounts ('@' :: rest) :=
  .ite (fun _ => accounts_error rfl Nat.one_pos (Nat.le_add_left _ _)) (accounts_ok _ _)

theorem accounts_ofWord {c : Char} (hc : (isAlphabetic c || c == '_') = true) (position : Nat)
    (rest : List Char) : (ofWord position (c :: rest)).Accounts (c :: rest) := by
  rw [ofWord]
  split
  · exact accounts_ok _ _
  · refine accounts_error rfl ?_ (List.takeWhile_prefix _).length_le
    rw [List.takeWhile_cons, isIdentifierChar_of_isAlphabetic_or hc]
    exact Nat.succ_pos _

theorem accounts_ofPair (double single : Operator) (rest : List Char) :
    (ofPair double single rest).Accounts cs :=
  .ite (fun _ => accounts_ok _ _) (accounts_ok _ _)

theorem accounts_ofTwin (position : Nat) (c : Char) (op : Operator) (rest : List Char) :
    (ofTwin position c op rest).Accounts cs :=
  .ite (fun _ => accounts_ok _ _) (accounts_stuck rfl)

/-- **Every lexeme accounts for its fault.** -/
theorem Reads.accounts {position : Nat} {x : Lexeme} (h : Reads position cs x) : x.Accounts cs := by
  cases h with
  | eof => exact accounts_ok _ _
  | numeral hn => exact accounts_ofNumeral hn position
  | reference rest => exact accounts_ofVariable position rest
  | function rest => exact accounts_ofFunction position rest
  | string rest => exact accounts_ofBody (blamesWithin_stringBody rest) rfl _ _ _
  | regex rest => exact accounts_ofBody (blamesWithin_regexBody rest) rfl _ _ _
  | mark _ _ rest => exact accounts_ok _ _
  | pair _ _ rest => exact accounts_ofPair _ _ rest
  | twin _ rest => exact accounts_ofTwin position _ _ rest
  | word hc rest => exact accounts_ofWord hc position rest
  | unexpected c rest => exact accounts_stuck rfl

/-- **What is read accounts for the text**, whatever it is. -/
theorem accounts_read (position : Nat) (cs : List Char) : (read position cs).Accounts cs :=
  (reads_read position cs).accounts

/-- No lexeme reaches beyond the text. -/
theorem length_read_le (position : Nat) (cs : List Char) :
    (read position cs).length ≤ cs.length := by
  cases h : (read position cs).outcome with
  | error e => exact (accounts_read position cs e h).1
  | ok t =>
    cases cs with
    | nil => exact Nat.le_refl 0
    | cons c rest =>
      obtain ⟨word, behind, hcs, hlen, -⟩ := takesWord_read position c rest t h
      rw [hlen, hcs, List.length_append]
      exact Nat.le_add_right _ _

end Accounts

end Lexeme

/-! ### One request -/

namespace Lexer

variable {text : List Char} {l : Lexer}

/-- A lexer is at a **place in a text**: what is left to read is what stands behind its position. -/
structure IsPlaceIn (text : List Char) (l : Lexer) : Prop where
  position_le : l.position ≤ text.length
  rest_eq : l.rest = text.drop l.position

/-- A lexer begins at the front of its text. -/
theorem isPlaceIn_ofText (text : String) : (ofText text).IsPlaceIn text.toList :=
  ⟨Nat.zero_le _, rfl⟩

/-- The position and the rest make up the text. -/
theorem IsPlaceIn.length_eq (h : l.IsPlaceIn text) : l.position + l.rest.length = text.length := by
  have := h.position_le
  rw [h.rest_eq, List.length_drop]
  omega

/-- Within what is left, moving on leads to a place in the text. -/
theorem IsPlaceIn.advance (h : l.IsPlaceIn text) {n : Nat} (hn : n ≤ l.rest.length) :
    (l.advance n).IsPlaceIn text := by
  have hlen := h.length_eq
  refine ⟨?_, ?_⟩
  · change l.position + n ≤ text.length
    omega
  · change l.rest.drop n = text.drop (l.position + n)
    rw [h.rest_eq, List.drop_drop]

/-- Skipping blanks is moving on by their number. -/
theorem skipBlanks_eq_advance (l : Lexer) :
    l.skipBlanks = l.advance (l.rest.takeWhile isBlank).length := by
  rw [skipBlanks, advance, Lexeme.drop_length_takeWhile]

/-- Passing over blanks leads to a place in the same text. -/
theorem IsPlaceIn.skipBlanks (h : l.IsPlaceIn text) : l.skipBlanks.IsPlaceIn text := by
  rw [skipBlanks_eq_advance]
  exact h.advance (List.takeWhile_prefix _).length_le

/-- **A request leads from a place in a text to a place in it.** -/
theorem IsPlaceIn.next (h : l.IsPlaceIn text) : l.next.2.IsPlaceIn text :=
  h.skipBlanks.advance (Lexeme.length_read_le _ _)

/-- **A request never goes back.** -/
theorem position_le_next (l : Lexer) : l.position ≤ l.next.2.position := by
  change l.position ≤ l.position + _ + l.lexeme.length
  omega

/-- An answer that leaves the lexer where it is: the end, or an error that comes up again. -/
def Stays : Except LexError Token → Prop
  | .ok t => t = .eof
  | .error e => e.isStuck = true

/-- An answer that stays takes no characters. -/
theorem length_lexeme_of_stays (h : Stays l.next.1) : l.lexeme.length = 0 := by
  change Stays l.lexeme.outcome at h
  cases houtcome : l.lexeme.outcome with
  | error e =>
    rw [houtcome] at h
    exact (Lexeme.accounts_read _ _ e houtcome).2.mpr h
  | ok t =>
    rw [houtcome] at h
    obtain rfl : t = .eof := h
    rw [lexeme, rest_skipBlanks_of_eof houtcome]
    rfl

/-- **Any other answer moves the lexer forward.** -/
theorem position_lt_next_of_not_stays (h : ¬Stays l.next.1) : l.position < l.next.2.position := by
  have hpos : 0 < l.lexeme.length := by
    change ¬Stays l.lexeme.outcome at h
    cases houtcome : l.lexeme.outcome with
    | error e =>
      rw [houtcome] at h
      refine Nat.pos_iff_ne_zero.mpr fun hzero => ?_
      exact h ((Lexeme.accounts_read _ _ e houtcome).2.mp hzero)
    | ok t =>
      rw [houtcome] at h
      exact (Lexeme.read_length_pos houtcome h).1
  change l.position < l.position + _ + l.lexeme.length
  omega

/-- Where no blank stands nothing is passed over. -/
theorem skipBlanks_of_head (h : ∀ c, l.rest.head? = some c → isBlank c = false) :
    l.skipBlanks = l := by
  obtain ⟨position, rest⟩ := l
  cases rest with
  | nil => rfl
  | cons c rest => simp [skipBlanks, h c rfl]

/-- Behind the blanks there is nothing to skip. -/
theorem skipBlanks_skipBlanks (l : Lexer) : l.skipBlanks.skipBlanks = l.skipBlanks := by
  refine skipBlanks_of_head fun c hc => ?_
  change (l.rest.dropWhile isBlank).head? = some c at hc
  have hhead := List.head?_dropWhile_not isBlank l.rest
  rwa [hc] at hhead

/-- **An answer that stays is given again**, from the same place. -/
theorem next_next_of_stays (h : Stays l.next.1) : l.next.2.next = l.next := by
  have hplace : l.next.2 = l.skipBlanks := by
    change l.skipBlanks.advance l.lexeme.length = l.skipBlanks
    rw [length_lexeme_of_stays h]
    rfl
  rw [hplace, next, next, lexeme, lexeme, skipBlanks_skipBlanks]

/-! ### Any number of requests -/

/-- The place behind a number of requests, whatever the answers were. -/
def after : Nat → Lexer → Lexer
  | 0, l => l
  | k + 1, l => after k l.next.2

/-- Requests in two portions. -/
theorem after_add (j k : Nat) (l : Lexer) : after (j + k) l = after k (after j l) := by
  induction j generalizing l with
  | zero => rw [Nat.zero_add, after]
  | succ j ih => rw [Nat.succ_add, after, ih, after]

/-- One more request. -/
theorem after_succ (k : Nat) (l : Lexer) : after (k + 1) l = (after k l).next.2 := by
  rw [after_add, after, after]

/-- The answers to a number of requests, one by one. -/
theorem take_eq_map (n : Nat) (l : Lexer) :
    l.take n = (List.range n).map fun k => (after k l).next.1 := by
  induction n generalizing l with
  | zero => rfl
  | succ n ih =>
    rw [take, ih, List.range_succ_eq_map, List.map_cons, List.map_map]
    rfl

/-- **Requests lead from place to place in one text.** -/
theorem IsPlaceIn.after (h : l.IsPlaceIn text) (k : Nat) : (after k l).IsPlaceIn text := by
  induction k generalizing l with
  | zero => exact h
  | succ k ih => exact ih h.next

/-- What an answer that stays is followed by. -/
theorem next_after_of_stays (h : Stays l.next.1) (k : Nat) : (after k l).next.1 = l.next.1 := by
  induction k generalizing l with
  | zero => rfl
  | succ k ih =>
    have hnext := next_next_of_stays h
    rw [after, ih (by rwa [hnext]), hnext]

/-- **After at most one request for each character that is left**, the lexer gives an answer that
stays. -/
theorem IsPlaceIn.exists_stays (h : l.IsPlaceIn text) {n : Nat}
    (hn : text.length ≤ l.position + n) : ∃ k ≤ n, Stays (l.after k).next.1 := by
  induction n generalizing l with
  | zero =>
    refine ⟨0, Nat.le_refl 0, Classical.byContradiction fun hmoves => ?_⟩
    -- there is no room to move on
    have hlt : l.position < l.next.2.position := position_lt_next_of_not_stays hmoves
    have hle := h.next.position_le
    omega
  | succ n ih =>
    by_cases hstays : Stays l.next.1
    · exact ⟨0, Nat.zero_le _, hstays⟩
    · have hlt := position_lt_next_of_not_stays hstays
      obtain ⟨k, hk, hsettled⟩ := ih h.next (by omega)
      exact ⟨k + 1, Nat.succ_le_succ hk, hsettled⟩

/-- Behind an answer that stays, all answers are this one. -/
theorem answer_eq_of_stays {k m : Nat} (h : Stays (l.after k).next.1) (hm : k ≤ m) :
    (l.after m).next.1 = (l.after k).next.1 := by
  obtain ⟨j, rfl⟩ := Nat.exists_eq_add_of_le hm
  rw [after_add]
  exact next_after_of_stays h j

/-- When the end has been read, nothing is left. -/
theorem rest_next_of_eof (h : l.next.1 = .ok .eof) : l.next.2.rest = [] := by
  change l.skipBlanks.rest.drop l.lexeme.length = []
  rw [rest_skipBlanks_of_eof h, List.drop_nil]

/-- The end is read at the end of the text only. -/
theorem IsPlaceIn.position_eq_of_eof (h : l.IsPlaceIn text) (heof : l.next.1 = .ok .eof) :
    l.next.2.position = text.length := by
  have hlen := h.next.length_eq
  rw [rest_next_of_eof heof] at hlen
  exact hlen

end Lexer

/-- **A lexer stays sound over any number of requests**, also past errors and past the end. Its
position never falls and never leaves the text, and what is left to read is what stands there. A
token other than the end takes it forward, and so does every error but two; these two, and the end,
which comes at the end of the text only, are given again for ever. So when it has been asked as
often as there are characters, all further answers are the same. -/
theorem lexer_stays_sound (text : String) :
    let place := fun k => (Lexer.ofText text).after k
    let answer := fun k => (place k).next.1
    (∀ k, (place k).position ≤ (place (k + 1)).position ∧ (place k).position ≤ text.length ∧
      (place k).rest = text.toList.drop (place k).position) ∧
    (∀ k t, answer k = .ok t → t ≠ .eof → (place k).position < (place (k + 1)).position) ∧
    (∀ k, answer k = .ok .eof →
      (place (k + 1)).position = text.length ∧ ∀ m ≥ k, answer m = .ok .eof) ∧
    (∀ k e, answer k = .error e → e.isStuck = true → ∀ m ≥ k, answer m = .error e) ∧
    (∀ k e, answer k = .error e → e.isStuck = false →
      (place k).position < (place (k + 1)).position) ∧
    ∀ m ≥ text.length, answer m = answer text.length := by
  intro place answer
  have hplace : ∀ k, (place k).IsPlaceIn text.toList := (Lexer.isPlaceIn_ofText text).after
  have hnext : ∀ k, place (k + 1) = (place k).next.2 := fun k => Lexer.after_succ k _
  have hmoves : ∀ k, ¬Lexer.Stays (answer k) → (place k).position < (place (k + 1)).position := by
    intro k hk
    rw [hnext]
    exact Lexer.position_lt_next_of_not_stays hk
  have hagain : ∀ k, Lexer.Stays (answer k) → ∀ m ≥ k, answer m = answer k :=
    fun k hk m hm => Lexer.answer_eq_of_stays hk hm
  refine ⟨fun k => ⟨?_, ?_, (hplace k).rest_eq⟩, fun k t ht hne => ?_, fun k hk => ⟨?_, ?_⟩,
    fun k e hk he m hm => ?_, fun k e hk he => ?_, fun m hm => ?_⟩
  · rw [hnext]
    exact Lexer.position_le_next _
  · exact (hplace k).position_le
  · refine hmoves k ?_
    rw [ht]
    exact hne
  · rw [hnext, (hplace k).position_eq_of_eof hk, String.length_toList]
  · intro m hm
    rw [← hk]
    exact hagain k (by rw [hk]; rfl) m hm
  · rw [← hk]
    exact hagain k (by rw [hk]; exact he) m hm
  · refine hmoves k ?_
    rw [hk]
    simp [Lexer.Stays, he]
  · -- some answer up to this one stays
    have hlen : text.toList.length ≤ (Lexer.ofText text).position + text.length := by
      rw [String.length_toList]
      exact Nat.le_add_left _ _
    obtain ⟨k, hk, hstays⟩ := (Lexer.isPlaceIn_ofText text).exists_stays hlen
    rw [hagain k hstays m (Nat.le_trans hk hm), hagain k hstays _ hk]

end Criteria
