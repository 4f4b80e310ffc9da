import Criteria.Proofs.Token.Cutting

/-!
# Tokens that are read again

A text that is read as some tokens can be made for any tokens that come from a lexer, whatever
became of the text that they stood in. For each of them there is a word that is read as this token
on its own (`Criteria.Lexer.exists_isReadAs_of_next`), and words with blanks between them are read
one by one (`Criteria.exists_isReadAs`).

The word is the one that the lexer read, with the text behind it cut off.
-/

namespace Criteria

namespace Lexeme

/-- **Every token that is read has a word from which it is read on its own.** -/
theorem exists_word_of_read {position : Nat} {cs : List Char} {t : Token}
    (h : (read position cs).outcome = .ok t) (hne : t ≠ .eof) :
    ∃ word, ∀ place, read place word = ⟨.ok t, word.length⟩ := by
  cases cs with
  | nil => exact absurd (Except.ok.inj h).symm hne
  | cons c cs =>
    obtain ⟨word, rest, hcs, hlength, -⟩ := takesWord_read position c cs t h
    have hread : read position (word ++ ([] ++ rest)) = ⟨.ok t, word.length⟩ := by
      rw [List.nil_append, ← hcs, ← h, ← hlength]
    refine ⟨word, fun place => ?_⟩
    have halone := read_of_append hread hne place
    rwa [List.append_nil] at halone

end Lexeme

/-- **Every token that a lexer gives can be read again.** -/
theorem Lexer.exists_isReadAs_of_next {l next : Lexer} {t : Token} (h : l.next = (.ok t, next))
    (hne : t ≠ .eof) : ∃ word, IsReadAs word [t] := by
  obtain ⟨houtcome, -⟩ := Prod.mk.inj h
  obtain ⟨word, hword⟩ := Lexeme.exists_word_of_read houtcome hne
  exact ⟨word, .singleton hne hword⟩

/-- The tokens that a lexer gives one after the other. -/
theorem Lexer.Gives.exists_isReadAs {l next last : Lexer} {t u : Token} {ts : List Token}
    (hn : l.next = (.ok t, next)) (hg : next.Gives t ts last u) (heof : Token.eof ∉ ts) :
    ∀ v ∈ ts, ∃ word, IsReadAs word [v] := by
  induction hg generalizing l with
  | nil l t => simp
  | cons hn' _ ih =>
    rw [List.mem_cons, not_or] at heof
    obtain ⟨hne, heof⟩ := heof
    refine List.forall_mem_cons.mpr ⟨?_, ih hn' heof⟩
    exact exists_isReadAs_of_next hn (Ne.symm hne)

/-- **There is a text for any tokens that can be read one by one.** -/
theorem exists_isReadAs {ts : List Token} (h : ∀ t ∈ ts, ∃ word, IsReadAs word [t]) :
    ∃ cs, IsReadAs cs ts := by
  induction ts with
  | nil => exact ⟨[], .nil .nil⟩
  | cons t ts ih =>
    obtain ⟨⟨word, hword⟩, hrest⟩ := List.forall_mem_cons.mp h
    obtain ⟨cs, hcs⟩ := ih hrest
    -- a space keeps the word apart from the text behind it
    have hends : EndsToken (' ' :: cs) := .cons (by decide)
    exact ⟨word ++ ' ' :: cs, hword.append (hcs.skip .space) hends⟩

end Criteria
