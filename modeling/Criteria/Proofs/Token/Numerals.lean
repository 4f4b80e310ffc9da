import Criteria.Proofs.Token.Cutting
import Criteria.Proofs.Token.Faults

/-!
# Numerals at the head of a text

A text may begin with many numerals: with `1`, `12`, `12.3` and `12.34`, if it begins with the last
of them. The reader goes through it once, and decides at every sign and point by what stands behind
whether to go on. **It stops behind the longest of these numerals**
(`Criteria.Lexeme.numeralLength?_eq_some_iff`), and finds one exactly if there is one.

That no numeral is longer than what is measured does not need the reader to be followed again. A
text that is cut off behind a numeral is measured to its end, and where the reader stops before the
cut, it stops in the whole text too (`Criteria.Lexeme.numeralLength?_front`).

Every numeral denotes a number, so there is no error left to report for it
(`Criteria.numbers_are_recognised_exactly`).
-/

namespace Criteria

/-- The **longest numeral** that a text begins with. -/
structure IsLongestNumeral (literal cs : List Char) : Prop where
  isNumeral : IsNumeral literal
  isPrefix : literal <+: cs
  longest : ∀ other, IsNumeral other → other <+: cs → other.length ≤ literal.length

namespace Lexeme

variable {literal cs : List Char} {x : Binary64}

/-! ### What is measured -/

/-- Where a text begins with a numeral, as much as this numeral is measured at least. -/
theorem exists_le_numeralLength? (h : IsNumeral literal) (hp : literal <+: cs) :
    ∃ n, numeralLength? cs = some n ∧ literal.length ≤ n := by
  obtain ⟨back, rfl⟩ := hp
  have hself : numeralLength? literal = some literal.length := by
    have happend := numeralLength?_append h EndsWord.nil
    rwa [List.append_nil] at happend
  cases literal with
  | nil => exact absurd hself (by simp)
  | cons c front =>
    by_contra hshort
    -- if less were measured, or nothing, cutting the text behind the numeral would not change it
    have hlt : ∀ n, numeralLength? (c :: (front ++ back)) = some n → n < front.length + 1 := by
      intro n hn
      by_contra hle
      exact hshort ⟨n, hn, Nat.not_lt.mp hle⟩
    have hcut := numeralLength?_front fun n hn => Nat.le_of_lt (hlt n hn)
    rw [hself] at hcut
    exact Nat.lt_irrefl _ (hlt _ hcut.symm)

/-- **The longest numeral at the head of a text is measured**, and nothing is where there is
none. -/
theorem numeralLength?_eq_some_iff {n : Nat} :
    numeralLength? cs = some n ↔ ∃ literal, IsLongestNumeral literal cs ∧ literal.length = n := by
  constructor
  · intro h
    obtain ⟨literal, rest, rfl, rfl, hliteral⟩ := exists_isNumeral h
    refine ⟨literal, ⟨hliteral, List.prefix_append _ _, ?_⟩, rfl⟩
    intro other hother hp
    obtain ⟨m, hm, hle⟩ := exists_le_numeralLength? hother hp
    rw [h] at hm
    rwa [Option.some.inj hm]
  · rintro ⟨literal, h, rfl⟩
    obtain ⟨n, hn, hle⟩ := exists_le_numeralLength? h.isNumeral h.isPrefix
    obtain ⟨word, rest, rfl, rfl, hword⟩ := exists_isNumeral hn
    have hge := h.longest word hword (List.prefix_append _ _)
    rw [hn, Nat.le_antisymm hge hle]

/-- Among the numerals at the head of a text there is a longest one. -/
theorem exists_isLongestNumeral (h : IsNumeral literal) (hp : literal <+: cs) :
    ∃ longest, IsLongestNumeral longest cs := by
  obtain ⟨n, hn, -⟩ := exists_le_numeralLength? h hp
  obtain ⟨longest, hlongest, -⟩ := numeralLength?_eq_some_iff.mp hn
  exact ⟨longest, hlongest⟩

/-! ### What is read -/

/-- The longest numeral at the front is read as the number that it denotes. -/
theorem read_of_isLongestNumeral (h : IsLongestNumeral literal cs) (hx : Denotes literal x)
    (position : Nat) : read position cs = ⟨.ok (.number x), literal.length⟩ := by
  have hlength := numeralLength?_eq_some_iff.mpr ⟨literal, h, rfl⟩
  obtain ⟨rest, rfl⟩ := h.isPrefix
  exact read_of_numeralLength? hx hlength position

/-- A number is read from a numeral only. -/
theorem exists_isNumeral_of_read {position : Nat}
    (h : (read position cs).outcome = .ok (.number x)) :
    ∃ literal, IsNumeral literal ∧ literal <+: cs := by
  cases cs with
  | nil => exact absurd h (by simp [read])
  | cons c rest =>
    obtain ⟨word, behind, hcs, -, hword⟩ := takesWord_read position c rest _ h
    rw [hcs]
    cases hword with
    | number hx => exact ⟨word, hx.1, List.prefix_append _ _⟩
    | symbol hs => exact absurd hs (by simp [Token.symbol?])

/-- **A number is read exactly from the longest numeral** at the head of a text, and it is the
number that this numeral denotes. -/
theorem read_eq_number_iff {position n : Nat} :
    read position cs = ⟨.ok (.number x), n⟩ ↔
      ∃ literal, IsLongestNumeral literal cs ∧ Denotes literal x ∧ literal.length = n := by
  constructor
  · intro h
    obtain ⟨word, hword, hp⟩ := exists_isNumeral_of_read (congrArg Lexeme.outcome h)
    obtain ⟨literal, hliteral⟩ := exists_isLongestNumeral hword hp
    obtain ⟨y, hy⟩ := hliteral.isNumeral.exists_denotes
    have hread := (read_of_isLongestNumeral hliteral hy position).symm.trans h
    simp only [Lexeme.mk.injEq, Except.ok.injEq, Token.number.injEq] at hread
    obtain ⟨rfl, hlength⟩ := hread
    exact ⟨literal, hliteral, hy, hlength⟩
  · rintro ⟨literal, hliteral, hx, rfl⟩
    exact read_of_isLongestNumeral hliteral hx position

/-- Whether a number is read depends on whether there is a numeral. -/
theorem exists_number_iff {position : Nat} :
    (∃ x, (read position cs).outcome = .ok (.number x)) ↔
      ∃ literal, IsNumeral literal ∧ literal <+: cs := by
  constructor
  · rintro ⟨x, hx⟩
    exact exists_isNumeral_of_read hx
  · rintro ⟨word, hword, hp⟩
    obtain ⟨literal, hliteral⟩ := exists_isLongestNumeral hword hp
    obtain ⟨x, hx⟩ := hliteral.isNumeral.exists_denotes
    exact ⟨x, congrArg Lexeme.outcome (read_of_isLongestNumeral hliteral hx position)⟩

end Lexeme

/-! ### Lexers -/

/-- A request passes the blanks and then what its lexeme takes. -/
theorem Lexer.next_eq_iff {l next : Lexer} {outcome : Except LexError Token} :
    l.next = (outcome, next) ↔
      ∃ n, l.lexeme = ⟨outcome, n⟩ ∧ next = l.skipBlanks.advance n := by
  constructor
  · intro h
    obtain ⟨houtcome, hnext⟩ := Prod.mk.inj h
    exact ⟨l.lexeme.length, by rw [← houtcome], hnext.symm⟩
  · rintro ⟨n, hn, rfl⟩
    rw [Lexer.next, hn]

/-- **Numbers are recognised exactly.** After any number of requests, the next one gives a number if
and only if a numeral stands behind the blanks; then it takes the longest one, and gives what this
numeral denotes. No request reports a numeral that cannot be read. -/
theorem numbers_are_recognised_exactly (text : String) (k : Nat) :
    let l := (Lexer.ofText text).after k
    ((∃ x, l.next.1 = .ok (.number x)) ↔
        ∃ literal, IsNumeral literal ∧ literal <+: l.rest.dropWhile isBlank) ∧
      (∀ x next, l.next = (.ok (.number x), next) ↔
        ∃ literal, IsLongestNumeral literal (l.rest.dropWhile isBlank) ∧ Denotes literal x ∧
          next = l.skipBlanks.advance literal.length) ∧
      ∀ written place, l.next.1 ≠ .error (.invalidNumber written place) := by
  intro l
  refine ⟨Lexeme.exists_number_iff, ?_, ?_⟩
  · intro x next
    rw [Lexer.next_eq_iff]
    constructor
    · rintro ⟨n, hn, hnext⟩
      obtain ⟨literal, hliteral, hx, rfl⟩ := Lexeme.read_eq_number_iff.mp hn
      exact ⟨literal, hliteral, hx, hnext⟩
    · rintro ⟨literal, hliteral, hx, hnext⟩
      exact ⟨literal.length, Lexeme.read_of_isLongestNumeral hliteral hx _, hnext⟩
  · intro written place h
    exact ((Lexer.isPlaceIn_ofText text).after k).isRightAbout h

/-- A point belongs to a numeral if a digit stands behind it and the numeral has no point yet. -/
example : (Lexer.ofText "+1.5.5.").take 3 =
    [.ok (.number (.ofDecimal false 15 (-1))), .ok (.number (.ofDecimal false 5 (-1))),
      .error (.unexpectedChar '.' 6)] := by
  with_unfolding_all rfl

end Criteria
