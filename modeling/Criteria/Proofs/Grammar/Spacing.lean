import Criteria.Proofs.Grammar.Step
import Criteria.Proofs.Token.Cutting
import Criteria.Proofs.Token.Requests

/-!
# Blanks between tokens

Where a lexer skips blanks there may be any blanks, or none. A text has a **gap** wherever one of
its tokens is over and the next one has not begun (`Criteria.IsGap`), and at both ends
(`Criteria.isGap_front`, `Criteria.isGap_back`). In a gap the text can be cut: what stands before
the gap is read as the tokens before it, and what stands behind it is read as the others
(`Criteria.IsReadAs.exists_split`), since no reader has taken up, or waited for, anything on the
other side. Blanks continue no token, so **with blanks put into a gap the text is read as the same
tokens** (`Criteria.IsReadAs.spaced`).

A parser sees the tokens of its text and nothing else
(`Criteria.Expression.parse_eq_of_readAll_eq`).
-/

namespace Criteria

/-- A text is put together **at a gap** if its second part begins where, after some number of
requests, the lexer is between two tokens, before the first one or behind the last one: it has taken
up the last token, and nothing but blanks is left before the next one or before the end. -/
def IsGap (front back : String) : Prop :=
  ∃ k, ((Lexer.ofText (front ++ back)).after k).position ≤ front.length ∧
    front.length ≤ ((Lexer.ofText (front ++ back)).after k).skipBlanks.position

/-! ### Cutting a text in a gap -/

/-- Blanks continue no token. -/
theorem continuesToken_of_isBlank {c : Char} (h : isBlank c = true) : continuesToken c = false := by
  simp [continuesToken, isIdentifierChar_of_isBlank h, ne_of_isBlank h (c := '-') rfl,
    ne_of_isBlank h (c := '.') rfl, ne_of_isBlank h (c := '[') rfl, ne_of_isBlank h (c := '=') rfl]

/-- Blanks end a token, whatever stands behind them. -/
theorem IsBlanks.endsToken_append {blanks : List Char} (hb : IsBlanks blanks) (hne : blanks ≠ [])
    (rest : List Char) : EndsToken (blanks ++ rest) := by
  cases blanks with
  | nil => exact absurd rfl hne
  | cons c blanks => exact .cons (continuesToken_of_isBlank (hb c List.mem_cons_self))

namespace IsReadAs

variable {cs ds blanks : List Char} {ts us : List Token}

/-- Without the blanks in front of it, a text is read as it was. -/
theorem of_skip (hb : IsBlanks blanks) (h : IsReadAs (blanks ++ cs) ts) : IsReadAs cs ts := by
  generalize hall : blanks ++ cs = all at h
  cases h with
  | nil hmore =>
    rw [← hall] at hmore
    exact .nil fun c hc => hmore c (List.mem_append_right blanks hc)
  | @cons more word rest t ts hmore hne ht h =>
    rcases List.append_eq_append_iff.mp hall with ⟨others, rfl, rfl⟩ | ⟨others, rfl, hword⟩
    · exact .cons (fun c hc => hmore c (List.mem_append_right blanks hc)) hne ht h
    · -- no word begins with a blank
      cases others with
      | nil =>
        rw [List.nil_append] at hword
        rw [← hword]
        exact .cons .nil hne ht h
      | cons c others =>
        have hc : isBlank c = true := hb c (List.mem_append_right more List.mem_cons_self)
        have hread := ht 0
        rw [hword, List.cons_append, Lexeme.read_of_isBlank hc] at hread
        exact absurd (congrArg Lexeme.outcome hread) (by simp)

/-- Blanks behind a text are read as nothing. -/
theorem append_blanks (h : IsReadAs cs ts) (hb : IsBlanks blanks) : IsReadAs (cs ++ blanks) ts := by
  by_cases hne : blanks = []
  · rwa [hne, List.append_nil]
  · have hends := hb.endsToken_append hne []
    rw [List.append_nil] at hends
    have hall := h.append (.nil hb) hends
    rwa [List.append_nil] at hall

/-- **Where a lexer has come to after some requests, the text can be cut.** -/
theorem exists_cut {l : Lexer} (h : IsReadAs l.rest ts) (k : Nat) :
    ∃ front ts₁ ts₂, l.rest = front ++ (l.after k).rest ∧ ts = ts₁ ++ ts₂ ∧
      IsReadAs front ts₁ ∧ IsReadAs (l.after k).rest ts₂ := by
  induction k generalizing l ts with
  | zero => exact ⟨[], [], ts, rfl, rfl, .nil .nil, h⟩
  | succ k ih =>
    obtain ⟨position, rest⟩ := l
    change IsReadAs rest ts at h
    cases h with
    | nil hb =>
      -- nothing is left behind the end
      obtain ⟨last, hn⟩ := Lexer.next_of_isBlanks (l := ⟨position, rest⟩) hb
      have hlast : last.rest = [] := by
        have heof : (Lexer.next ⟨position, rest⟩).1 = .ok .eof := by rw [hn]
        have hrest := Lexer.rest_next_of_eof heof
        rwa [hn] at hrest
      have hend : IsReadAs last.rest [] := by
        rw [hlast]
        exact .nil .nil
      obtain ⟨front, ts₁, ts₂, hrest, hts, hfront, hback⟩ := ih hend
      rw [Lexer.after, hn]
      refine ⟨rest ++ front, ts₁, ts₂, ?_, hts, hfront.skip hb, hback⟩
      rw [List.append_assoc, ← hrest, hlast, List.append_nil]
    | @cons blanks word rest t ts hb hne ht h =>
      obtain ⟨place, hn⟩ := Lexer.next_of_read (l := ⟨position, _⟩) rfl hb ht
      obtain ⟨front, ts₁, ts₂, hrest, rfl, hfront, hback⟩ := ih (l := ⟨place, rest⟩) h
      rw [Lexer.after, hn]
      change rest = _ at hrest
      refine ⟨blanks ++ (word ++ front), t :: ts₁, ts₂, ?_, rfl, .cons hb hne ?_ hfront, hback⟩
      · rw [List.append_assoc, List.append_assoc, ← hrest]
      · intro position
        have hread := ht position
        rw [hrest] at hread
        exact Lexeme.read_of_append hread hne position

/-- **A gap parts the tokens of a text**: those before it are read from the one part, and those
behind it from the other. -/
theorem exists_split {front back : String} (h : IsReadAs (front ++ back).toList ts)
    (hgap : IsGap front back) :
    ∃ ts₁ ts₂, ts = ts₁ ++ ts₂ ∧ IsReadAs front.toList ts₁ ∧ IsReadAs back.toList ts₂ := by
  obtain ⟨k, hlow, hhigh⟩ := hgap
  have hlength := ((Lexer.isPlaceIn_ofText (front ++ back)).after k).length_eq
  obtain ⟨used, ts₁, ts₂, hcut, rfl, hused, hrest⟩ :=
    exists_cut (l := Lexer.ofText (front ++ back)) h k
  generalize (Lexer.ofText (front ++ back)).after k = l at *
  change (front ++ back).toList = used ++ l.rest at hcut
  rw [hcut, List.length_append] at hlength
  rw [String.toList_append] at hcut
  rw [← String.length_toList] at hlow hhigh
  -- the first part goes on behind the tokens for some of the blanks
  obtain ⟨blanks, hfront⟩ : used <+: front.toList :=
    List.prefix_of_prefix_length_le ⟨l.rest, hcut.symm⟩ (List.prefix_append _ _) (by omega)
  have hback : blanks ++ back.toList = l.rest := by
    rw [← hfront, List.append_assoc] at hcut
    exact List.append_cancel_left hcut
  have hb : IsBlanks blanks := by
    have hwithin : blanks <+: l.rest.takeWhile isBlank := by
      refine List.prefix_of_prefix_length_le ⟨_, hback⟩ (List.takeWhile_prefix isBlank) ?_
      have hskip : l.skipBlanks.position = l.position + (l.rest.takeWhile isBlank).length := rfl
      rw [← hfront, List.length_append, hskip] at hhigh
      omega
    exact fun c hc => List.all_eq_true.mp List.all_takeWhile c (hwithin.subset hc)
  refine ⟨ts₁, ts₂, rfl, ?_, of_skip hb (by rwa [hback])⟩
  rw [← hfront]
  exact hused.append_blanks hb

/-- **Blanks in a gap leave the tokens as they are.** -/
theorem spaced {front back : String} (h : IsReadAs (front ++ back).toList ts)
    (hgap : IsGap front back) {blanks : String} (hb : IsBlanks blanks.toList) :
    IsReadAs (front ++ blanks ++ back).toList ts := by
  by_cases hne : blanks.toList = []
  · rwa [String.toList_append, String.toList_append, hne, List.append_nil, ← String.toList_append]
  · obtain ⟨ts₁, ts₂, rfl, hfront, hback⟩ := h.exists_split hgap
    rw [String.toList_append, String.toList_append, List.append_assoc]
    exact hfront.append (hback.skip hb) (hb.endsToken_append hne _)

end IsReadAs

/-! ### Reading to the end -/

namespace Lexer

variable {l l' : Lexer}

/-- Reading to the end is the next answer, and then the rest if there is any. -/
theorem readAll_eq_cons (l : Lexer) :
    l.readAll = l.next.1 :: match l.next.1 with
      | .error _ => []
      | .ok t => if t = .eof then [] else l.next.2.readAll := by
  rcases hn : l.next with ⟨e | t, next⟩
  · exact readAll_of_error hn
  · by_cases ht : t = .eof
    · subst ht
      exact readAll_of_eof hn
    · rw [readAll_of_token hn ht]
      simp [ht]

/-- Lexers that read the same to the end give the same answer next. -/
theorem exists_next_of_readAll_eq (h : l.readAll = l'.readAll) {answer : Except LexError Token}
    {next : Lexer} (hn : l.next = (answer, next)) : ∃ next', l'.next = (answer, next') := by
  rw [readAll_eq_cons l, readAll_eq_cons l', hn] at h
  exact ⟨l'.next.2, Prod.ext (List.cons.inj h).1.symm rfl⟩

/-- And they go on to read the same. -/
theorem readAll_eq_of_next (h : l.readAll = l'.readAll) {t : Token} {next next' : Lexer}
    (hn : l.next = (.ok t, next)) (hn' : l'.next = (.ok t, next')) (hne : t ≠ .eof) :
    next.readAll = next'.readAll := by
  rw [readAll_of_token hn hne, readAll_of_token hn' hne] at h
  exact (List.cons.inj h).2

/-- Behind the request that gives the end, nothing is left. -/
theorem rest_after_of_readAll {ts : List Token} (h : l.readAll = (ts ++ [Token.eof]).map .ok) :
    (l.after (ts.length + 1)).rest = [] := by
  induction ts generalizing l with
  | nil =>
    rw [readAll_eq_cons] at h
    exact rest_next_of_eof (List.cons.inj h).1
  | cons t ts ih =>
    rw [readAll_eq_cons, List.cons_append, List.map_cons] at h
    obtain ⟨ht, hrest⟩ := List.cons.inj h
    rw [ht] at hrest
    by_cases heof : t = .eof
    · simp [heof] at hrest
    · exact ih (by simpa [heof] using hrest)

end Lexer

/-! ### The ends of a text -/

/-- There is a gap before the first token of every text. -/
theorem isGap_front (text : String) : IsGap "" text :=
  ⟨0, Nat.le_refl 0, Nat.zero_le _⟩

/-- There is a gap behind the last token of a text that is read to its end. -/
theorem isGap_back {text : String} {ts : List Token}
    (h : (Lexer.ofText text).readAll = (ts ++ [Token.eof]).map .ok) : IsGap text "" := by
  refine ⟨ts.length + 1, ?_⟩
  rw [String.append_empty]
  have hlength := ((Lexer.isPlaceIn_ofText text).after (ts.length + 1)).length_eq
  rw [Lexer.rest_after_of_readAll h, String.length_toList] at hlength
  exact ⟨Nat.le_of_eq hlength, Nat.le_trans (Nat.le_of_eq hlength.symm) (Nat.le_add_right _ _)⟩

/-! ### What a parser sees of a text -/

namespace Parser

/-- **A run depends on the tokens that are left and on nothing else.** Behind the end there is
nothing to depend on. -/
theorem run_eq_of_readAll_eq {base : Nat} {s : Progress} {l l' : Lexer} {t : Token}
    (h : t ≠ .eof → l.readAll = l'.readAll) :
    (run base s l t).1 = (run base s l' t).1 ∧
      (run base s l t).2.current = (run base s l' t).2.current := by
  induction s, l, t using run.induct base generalizing l' with
  | case1 s l t e shown depth ha =>
    rw [run_of_fail ha, run_of_fail ha]
    exact ⟨rfl, rfl⟩
  | case2 s l t e ha =>
    rw [run_of_finish ha, run_of_finish ha]
    exact ⟨rfl, rfl⟩
  | case3 s l t next shown depth ha e last hn =>
    have hread := h (Progress.move_of_action ha).ne_eof
    obtain ⟨last', hn'⟩ := Lexer.exists_next_of_readAll_eq hread hn
    rw [run_of_shift ha, run_of_shift ha, hn, hn']
    exact ⟨rfl, rfl⟩
  | case4 s l t next shown depth ha u last hn ih =>
    have hread := h (Progress.move_of_action ha).ne_eof
    obtain ⟨last', hn'⟩ := Lexer.exists_next_of_readAll_eq hread hn
    rw [run_of_shift ha, run_of_shift ha, hn, hn']
    exact ih fun hu => Lexer.readAll_eq_of_next hread hn hn' hu

end Parser

/-- **A text is parsed by its tokens alone.** -/
theorem Expression.parse_eq_of_readAll_eq {s t : String}
    (h : (Lexer.ofText s).readAll = (Lexer.ofText t).readAll) :
    Expression.parse s = Expression.parse t := by
  rcases hn : (Lexer.ofText s).next with ⟨e | u, last⟩
  · obtain ⟨last', hn'⟩ := Lexer.exists_next_of_readAll_eq h hn
    simp only [Expression.parse, Parser.ofText, hn, hn']
  · obtain ⟨last', hn'⟩ := Lexer.exists_next_of_readAll_eq h hn
    have hrest (hu : u ≠ .eof) : last.readAll = last'.readAll :=
      Lexer.readAll_eq_of_next h hn hn' hu
    have hrun : (Parser.run 0 .start last u).1 = (Parser.run 0 .start last' u).1 ∧
        (Parser.run 0 .start last u).2.current = (Parser.run 0 .start last' u).2.current :=
      Parser.run_eq_of_readAll_eq hrest
    simp only [Expression.parse, Parser.ofText, hn, hn', Parser.parse, Parser.parseExpression]
    generalize Parser.run 0 .start last u = answer at *
    generalize Parser.run 0 .start last' u = answer' at *
    obtain ⟨result, p⟩ := answer
    obtain ⟨result', p'⟩ := answer'
    obtain ⟨hresult, hcurrent⟩ := hrun
    obtain rfl : result = result' := hresult
    change p.current = p'.current at hcurrent
    cases result with
    | error e => rfl
    | ok e =>
      simp only [hcurrent]
      split <;> rfl

/-- **Blanks between tokens mean nothing.** Let a text be read to its end. With any blanks in any
gap of it, before the first token, between two tokens or behind the last one, it is read as the same
tokens, and parsed as the same expression or refused with the same error. -/
theorem blanks_between_tokens_mean_nothing {front back blanks : String} {ts : List Token}
    (hread : (Lexer.ofText (front ++ back)).readAll = (ts ++ [Token.eof]).map .ok)
    (hgap : IsGap front back) (hb : IsBlanks blanks.toList) :
    (Lexer.ofText (front ++ blanks ++ back)).readAll = (ts ++ [Token.eof]).map .ok ∧
      Expression.parse (front ++ blanks ++ back) = Expression.parse (front ++ back) := by
  have hspaced : (Lexer.ofText (front ++ blanks ++ back)).readAll = (ts ++ [Token.eof]).map .ok :=
    Lexer.readAll_eq_iff_isReadAs.mpr
      ((Lexer.readAll_eq_iff_isReadAs.mp hread).spaced hgap hb)
  exact ⟨hspaced, Expression.parse_eq_of_readAll_eq (hspaced.trans hread.symm)⟩

/-- Blanks of two kinds between an operator and a number that follows it at once. -/
theorem blanks_behind_operator_mean_nothing :
    let ts : List Token := [.number (.ofDecimal false 1 0), .operator .notEqual,
      .number (.ofDecimal true 5 (-1))]
    (Lexer.ofText ("1!=" ++ "\t\u3000" ++ "-.5 ")).readAll = (ts ++ [Token.eof]).map .ok ∧
      Expression.parse ("1!=" ++ "\t\u3000" ++ "-.5 ") = Expression.parse ("1!=" ++ "-.5 ") := by
  intro ts
  have hone : (Lexer.ofText ("1!=" ++ "-.5 ")).next =
      (.ok (.number (.ofDecimal false 1 0)), ⟨1, "!=-.5 ".toList⟩) := by
    with_unfolding_all rfl
  have hoperator : Lexer.next ⟨1, "!=-.5 ".toList⟩ =
      (.ok (.operator .notEqual), ⟨3, "-.5 ".toList⟩) := by
    with_unfolding_all rfl
  have hhalf : Lexer.next ⟨3, "-.5 ".toList⟩ =
      (.ok (.number (.ofDecimal true 5 (-1))), ⟨6, [' ']⟩) := by
    with_unfolding_all rfl
  have heof : Lexer.next ⟨6, [' ']⟩ = (.ok .eof, ⟨7, []⟩) := by
    with_unfolding_all rfl
  have hread : (Lexer.ofText ("1!=" ++ "-.5 ")).readAll = (ts ++ [Token.eof]).map .ok := by
    rw [Lexer.readAll_of_token hone (by simp), Lexer.readAll_of_token hoperator (by decide),
      Lexer.readAll_of_token hhalf (by simp), Lexer.readAll_of_eof heof]
    rfl
  -- the second request ends where the blanks go
  have hgap : IsGap "1!=" "-.5 " := by
    refine ⟨2, ?_⟩
    rw [Lexer.after, Lexer.after, Lexer.after, hone, hoperator]
    decide
  have hblanks : IsBlanks "\t\u3000".toList := List.all_eq_true.mp (by decide)
  exact blanks_between_tokens_mean_nothing hread hgap hblanks

end Criteria
