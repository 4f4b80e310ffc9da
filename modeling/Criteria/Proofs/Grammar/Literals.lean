import Criteria.Proofs.Token.Words

/-!
# The literals of a text

An operand that is a single token stands in the text that the expression was read from, in a word of
this token (`Criteria.Expression.exists_word_of_token?`). So a literal of an expression is one that
can be written.

The strings and patterns of an expression are written between delimiters, so each of them is
shorter than the text that the expression was read from
(`Criteria.Expression.length_lt_of_delimited`). Reading a text out of a text, and out of that one
in turn, therefore comes to an end.
-/

namespace Criteria

/-- The text that a token holds between delimiters. -/
def Token.delimited? : Token → Option String
  | .string s | .regex s => some s
  | _ => none

/-- The text that an operand holds between delimiters. -/
def Operand.delimited? : Operand → Option String
  | .string s | .regex s => some s
  | _ => none

/-! ### Delimited texts are shorter than what they are read from -/

/-- A string is not longer than what it is written as. -/
theorem IsStringBody.length_le {body contents : List Char} (h : IsStringBody body contents) :
    contents.length ≤ body.length := by
  induction h with
  | nil => exact Nat.le_refl 0
  | plain _ _ _ ih => exact Nat.succ_le_succ ih
  | escape _ _ ih =>
    simp only [List.length_cons]
    omega

/-- A pattern is not longer than what it is written as. -/
theorem IsPatternBody.length_le {body pattern : List Char} (h : IsPatternBody body pattern) :
    pattern.length ≤ body.length := by
  induction h with
  | nil => exact Nat.le_refl 0
  | plain _ _ _ ih => exact Nat.succ_le_succ ih
  | escape _ ih =>
    simp only [List.length_cons]
    omega

/-- The words of a token have a delimiter more than the text that stands in them. -/
theorem Token.IsWord.length_lt {t : Token} {word : List Char} {s : String} (h : t.IsWord word)
    (hs : t.delimited? = some s) : s.length < word.length := by
  cases h with
  | string hbody =>
    obtain rfl := Option.some.inj hs
    have hle := hbody.length_le
    rw [String.length_toList] at hle
    simp only [List.length_cons, List.length_append]
    omega
  | regex hbody =>
    obtain rfl := Option.some.inj hs
    have hle := hbody.length_le
    rw [String.length_toList] at hle
    simp only [List.length_cons, List.length_append]
    omega
  | symbol h => cases t <;> simp_all [Token.symbol?, Token.delimited?]
  | _ => exact absurd hs (by simp [Token.delimited?])

/-- What a text is made of stands in it. -/
theorem IsMadeOf.exists_word {ts : List Token} {cs : List Char} (h : IsMadeOf ts cs) :
    ∀ t ∈ ts, ∃ word, t.IsWord word ∧ word.length ≤ cs.length := by
  induction h with
  | nil => simp
  | cons _ hw _ ih =>
    intro t ht
    simp only [List.length_append]
    rcases List.mem_cons.mp ht with rfl | ht
    · exact ⟨_, hw, by omega⟩
    · obtain ⟨word, hword, hle⟩ := ih t ht
      exact ⟨word, hword, by omega⟩

/-! ### Operands that are tokens -/

/-- The token that an operand is, if it is a single one. -/
def Operand.token? : Operand → Option Token
  | .number x => some (.number x)
  | .string s => some (.string s)
  | .boolean b => some (.boolean b)
  | .nil => some .nil
  | .regex pattern => some (.regex pattern)
  | .reference text _ => some (.reference text)
  | .call _ _ | .group _ => none

/-- A literal between delimiters is written as one token. -/
theorem Operand.exists_token?_of_delimited? {x : Operand} {s : String}
    (h : x.delimited? = some s) : ∃ t, x.token? = some t ∧ t.delimited? = some s := by
  cases x with
  | string text => exact ⟨.string text, rfl, h⟩
  | regex pattern => exact ⟨.regex pattern, rfl, h⟩
  | _ => exact absurd h (by simp [Operand.delimited?])

mutual

/-- **The operands that are tokens are among the tokens of the expression.** -/
theorem Expression.mem_tokens_of_token? : ∀ e : Expression, ∀ x ∈ e.operands, ∀ t,
    x.token? = some t → t ∈ e.tokens
  | .term c, x, hx, t, ht => Comparison.mem_tokens_of_token? c x hx t ht
  | .chain left op right, x, hx, t, ht => by
    rcases List.mem_append.mp hx with hx | hx
    · exact List.mem_append_left _ (Expression.mem_tokens_of_token? left x hx t ht)
    · have hright := Comparison.mem_tokens_of_token? right x hx t ht
      exact List.mem_append_right _ (List.mem_cons_of_mem _ hright)

/-- The tokens of literals in a comparison are among its tokens. -/
theorem Comparison.mem_tokens_of_token? : ∀ c : Comparison, ∀ x ∈ c.operands, ∀ t,
    x.token? = some t → t ∈ c.tokens
  | .term u, x, hx, t, ht => Unary.mem_tokens_of_token? u x hx t ht
  | .chain left op right, x, hx, t, ht => by
    rcases List.mem_append.mp hx with hx | hx
    · exact List.mem_append_left _ (Comparison.mem_tokens_of_token? left x hx t ht)
    · have hright := Unary.mem_tokens_of_token? right x hx t ht
      exact List.mem_append_right _ (List.mem_cons_of_mem _ hright)

theorem Unary.mem_tokens_of_token? : ∀ u : Unary, ∀ x ∈ u.operands, ∀ t,
    x.token? = some t → t ∈ u.tokens
  | .plain y, x, hx, t, ht => Operand.mem_tokens_of_token? y x hx t ht
  | .applied op y, x, hx, t, ht =>
    List.mem_cons_of_mem _ (Operand.mem_tokens_of_token? y x hx t ht)

theorem Operand.mem_tokens_of_token? : ∀ y : Operand, ∀ x ∈ y.operands, ∀ t,
    x.token? = some t → t ∈ y.tokens
  | .number _, x, hx, t, ht | .string _, x, hx, t, ht | .boolean _, x, hx, t, ht
  | .nil, x, hx, t, ht | .regex _, x, hx, t, ht | .reference _ _, x, hx, t, ht => by
    rw [List.mem_singleton.mp hx] at ht
    exact List.mem_singleton.mpr (Option.some.inj ht).symm
  | .call name arguments, x, hx, t, ht => by
    rcases List.mem_append.mp hx with hx | hx
    · have harguments := Operand.mem_argumentTokens_of_token? arguments x hx t ht
      exact List.mem_cons_of_mem _ (List.mem_cons_of_mem _ (List.mem_append_left _ harguments))
    · rw [List.mem_singleton.mp hx] at ht
      cases ht
  | .group e, x, hx, t, ht => by
    rcases List.mem_append.mp hx with hx | hx
    · have hinner := Expression.mem_tokens_of_token? e x hx t ht
      exact List.mem_cons_of_mem _ (List.mem_append_left _ hinner)
    · rw [List.mem_singleton.mp hx] at ht
      cases ht

theorem Operand.mem_argumentTokens_of_token? : ∀ arguments : List Expression,
    ∀ x ∈ Operand.argumentOperands arguments, ∀ t, x.token? = some t →
      t ∈ Operand.argumentTokens arguments
  | [], x, hx, t, ht => absurd hx (by simp [Operand.argumentOperands])
  | [e], x, hx, t, ht => by
    rcases List.mem_append.mp hx with hx | hx
    · exact Expression.mem_tokens_of_token? e x hx t ht
    · exact absurd hx (by simp [Operand.argumentOperands])
  | e :: d :: rest, x, hx, t, ht => by
    rcases List.mem_append.mp hx with hx | hx
    · exact List.mem_append_left _ (Expression.mem_tokens_of_token? e x hx t ht)
    · have hothers := Operand.mem_argumentTokens_of_token? (d :: rest) x hx t ht
      exact List.mem_append_right _ (List.mem_cons_of_mem _ hothers)

end

namespace Expression

variable {text : String} {e : Expression}

/-- A text that reads as an expression is made of the words of its tokens. -/
theorem isMadeOf_of_parse (h : Expression.parse text = .ok e) : IsMadeOf e.tokens text.toList := by
  obtain ⟨hfits, hgives⟩ := Expression.parse_eq_ok_iff_gives.mp h
  exact Lexer.isMadeOf_of_readAll ((Lexer.readAll_eq_iff (eof_notMem_tokens hfits)).mpr hgives)

/-- **An operand that is a token stands in the text in a word of it.** -/
theorem exists_word_of_token? (h : Expression.parse text = .ok e) {x : Operand}
    (hx : x ∈ e.operands) {t : Token} (ht : x.token? = some t) :
    ∃ word, t.IsWord word ∧ word.length ≤ text.length := by
  have hmem : t ∈ e.tokens := e.mem_tokens_of_token? x hx t ht
  rw [← String.length_toList]
  exact (isMadeOf_of_parse h).exists_word t hmem

/-- **A string or pattern in an expression is shorter than the text of the expression.** -/
theorem length_lt_of_delimited (h : Expression.parse text = .ok e) {x : Operand}
    (hx : x ∈ e.operands) {s : String} (hs : x.delimited? = some s) : s.length < text.length := by
  obtain ⟨t, ht, hts⟩ := Operand.exists_token?_of_delimited? hs
  obtain ⟨word, hword, hle⟩ := exists_word_of_token? h hx ht
  exact Nat.lt_of_lt_of_le (hword.length_lt hts) hle

end Expression

end Criteria
