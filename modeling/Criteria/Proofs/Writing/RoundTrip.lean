import Criteria.Proofs.Grammar.Exact
import Criteria.Proofs.Writing.Paths

/-!
# What is written reads back

Every tree whose parts can be written (`Criteria.Operand.IsWritable`), with operators in their
places and within the limit of nesting, has a writing, and **every writing of it is read as this
tree** (`Criteria.parse_of_isWrittenAs`).

The lexer takes up one spelling after the other, since a blank stands behind each
(`Criteria.Written.readAll_eq`). So it gives the tokens of the tree, and the parser accepts exactly
the trees of the grammar.
-/

namespace Criteria

/-! ### Tokens that can be written -/

/-- A token that has a spelling from which it can be read. -/
def Token.IsWritable : Token → Prop
  | .number x => ∃ literal, Denotes literal x
  | .regex pattern => pattern.toList.getLast? ≠ some '\\'
  | .reference text => ∃ path, text = Path.text path ∧ ∀ s ∈ path, s.IsWellFormed
  | .function name => isFunctionName name = true
  | .eof => False
  | _ => True

mutual

/-- The tokens of an expression can be written if its operands can. -/
theorem Expression.isWritable_tokens : ∀ e : Expression, (∀ x ∈ e.operands, x.IsWritable) →
    ∀ t ∈ e.tokens, t.IsWritable
  | .term c, h, t, ht => Comparison.isWritable_tokens c h t ht
  | .chain left op right, h, t, ht => by
    obtain ⟨hleft, hright⟩ := List.forall_mem_append.mp h
    rcases List.mem_append.mp ht with ht | ht
    · exact Expression.isWritable_tokens left hleft t ht
    · rcases List.mem_cons.mp ht with rfl | ht
      · trivial
      · exact Comparison.isWritable_tokens right hright t ht

theorem Comparison.isWritable_tokens : ∀ c : Comparison, (∀ x ∈ c.operands, x.IsWritable) →
    ∀ t ∈ c.tokens, t.IsWritable
  | .term u, h, t, ht => Unary.isWritable_tokens u h t ht
  | .chain left op right, h, t, ht => by
    obtain ⟨hleft, hright⟩ := List.forall_mem_append.mp h
    rcases List.mem_append.mp ht with ht | ht
    · exact Comparison.isWritable_tokens left hleft t ht
    · rcases List.mem_cons.mp ht with rfl | ht
      · trivial
      · exact Unary.isWritable_tokens right hright t ht

theorem Unary.isWritable_tokens : ∀ u : Unary, (∀ x ∈ u.operands, x.IsWritable) →
    ∀ t ∈ u.tokens, t.IsWritable
  | .plain x, h, t, ht => Operand.isWritable_tokens x h t ht
  | .applied op x, h, t, ht => by
    rcases List.mem_cons.mp ht with rfl | ht
    · trivial
    · exact Operand.isWritable_tokens x h t ht

theorem Operand.isWritable_tokens : ∀ y : Operand, (∀ x ∈ y.operands, x.IsWritable) →
    ∀ t ∈ y.tokens, t.IsWritable
  | .number x, h, t, ht => by
    rw [List.mem_singleton.mp ht]
    exact h (.number x) (List.mem_singleton_self _)
  | .regex pattern, h, t, ht => by
    rw [List.mem_singleton.mp ht]
    exact h (.regex pattern) (List.mem_singleton_self _)
  | .reference text path, h, t, ht => by
    rw [List.mem_singleton.mp ht]
    exact ⟨path, h (.reference text path) (List.mem_singleton_self _)⟩
  | .string _, h, t, ht | .boolean _, h, t, ht | .nil, h, t, ht => by
    rw [List.mem_singleton.mp ht]
    trivial
  | .call name arguments, h, t, ht => by
    obtain ⟨harguments, hcall⟩ := List.forall_mem_append.mp h
    have hname : isFunctionName name = true := hcall _ (List.mem_singleton_self _)
    rcases List.mem_cons.mp ht with rfl | ht
    · exact hname
    · rcases List.mem_cons.mp ht with rfl | ht
      · trivial
      · rcases List.mem_append.mp ht with ht | ht
        · exact Operand.isWritable_argumentTokens arguments harguments t ht
        · rw [List.mem_singleton.mp ht]
          trivial
  | .group e, h, t, ht => by
    obtain ⟨hinner, -⟩ := List.forall_mem_append.mp h
    rcases List.mem_cons.mp ht with rfl | ht
    · trivial
    · rcases List.mem_append.mp ht with ht | ht
      · exact Expression.isWritable_tokens e hinner t ht
      · rw [List.mem_singleton.mp ht]
        trivial

theorem Operand.isWritable_argumentTokens : ∀ arguments : List Expression,
    (∀ x ∈ Operand.argumentOperands arguments, x.IsWritable) →
      ∀ t ∈ Operand.argumentTokens arguments, t.IsWritable
  | [], h, t, ht => absurd ht (by simp [Operand.argumentTokens])
  | [e], h, t, ht => by
    obtain ⟨hfirst, -⟩ := List.forall_mem_append.mp h
    exact Expression.isWritable_tokens e hfirst t ht
  | e :: d :: rest, h, t, ht => by
    obtain ⟨hfirst, hothers⟩ := List.forall_mem_append.mp h
    rcases List.mem_append.mp ht with ht | ht
    · exact Expression.isWritable_tokens e hfirst t ht
    · rcases List.mem_cons.mp ht with rfl | ht
      · trivial
      · exact Operand.isWritable_argumentTokens (d :: rest) hothers t ht

end

/-! ### Reading spellings -/

namespace Token.Spells

variable {t : Token} {word : List Char}

/-- **A spelling is read as its token**, when a blank or nothing stands behind it. -/
theorem read (h : t.Spells word) (ht : t.IsWritable) {rest : List Char} (hr : EndsWord rest)
    (position : Nat) : Lexeme.read position (word ++ rest) = ⟨.ok t, word.length⟩ := by
  cases h with
  | number hd => exact Lexeme.read_numeral hd hr position
  | string s => exact Lexeme.read_string s rest position
  | boolean b => exact Lexeme.read_boolean b hr position
  | nil => exact Lexeme.read_nil hr position
  | regex pattern => exact Lexeme.read_pattern ht rest position
  | reference text =>
    obtain ⟨path, rfl, hp⟩ := ht
    exact Lexeme.read_variable hp hr position
  | function name => exact Lexeme.read_function ht hr position
  | operator op => exact Lexeme.read_operator op hr position
  | leftParen => exact Lexeme.read_eq_ofChar rfl position
  | rightParen => exact Lexeme.read_eq_ofChar rfl position
  | comma => exact Lexeme.read_eq_ofChar rfl position

theorem ne_eof (ht : t.IsWritable) : t ≠ .eof := by
  rintro rfl
  exact ht

end Token.Spells

/-! ### Reading writings -/

/-- Blanks end a word. -/
theorem IsBlanks.endsWord {blanks : List Char} (h : IsBlanks blanks) : EndsWord blanks := by
  intro c hc
  exact h c (List.mem_of_mem_head? hc)

/-- One blank at least ends a word, whatever follows. -/
theorem IsBlanks.append_endsWord {blanks : List Char} (h : IsBlanks blanks) (hne : blanks ≠ [])
    (rest : List Char) : EndsWord (blanks ++ rest) := by
  cases blanks with
  | nil => exact absurd rfl hne
  | cons c blanks =>
    intro d hd
    rw [← Option.some.inj hd]
    exact h c List.mem_cons_self

/-- A lexer skips the blanks before a spelling and takes up the spelling. -/
theorem Lexer.next_of_spells {l : Lexer} {blanks rest : List Char} {t : Token} {word : List Char}
    (hl : l.rest = blanks ++ (word ++ rest)) (hb : IsBlanks blanks) (h : t.Spells word)
    (ht : t.IsWritable) (hr : EndsWord rest) :
    ∃ position, l.next = (.ok t, ⟨position, rest⟩) :=
  next_of_read hl hb fun position => h.read ht hr position

/-- **A lexer reads a writing of some tokens as these tokens.** -/
theorem Written.readAll_eq {ts : List Token} {cs : List Char} (h : Written ts cs)
    (ht : ∀ t ∈ ts, t.IsWritable) {l : Lexer} {blanks : List Char} (hl : l.rest = blanks ++ cs)
    (hb : IsBlanks blanks) : l.readAll = (ts ++ [Token.eof]).map .ok := by
  induction h generalizing l blanks with
  | nil =>
    rw [List.append_nil] at hl
    obtain ⟨last, hn⟩ := Lexer.next_of_isBlanks (l := l) (by rwa [hl])
    exact Lexer.readAll_of_eof hn
  | @last t word blanks' hs hb' =>
    have hwt := ht t List.mem_cons_self
    obtain ⟨position, hn⟩ := Lexer.next_of_spells hl hb hs hwt hb'.endsWord
    obtain ⟨last, hn'⟩ := Lexer.next_of_isBlanks (l := ⟨position, blanks'⟩) hb'
    rw [Lexer.readAll_of_token hn (Token.Spells.ne_eof hwt), Lexer.readAll_of_eof hn']
    rfl
  | @cons t u ts word blanks' rest hs hb' hne _ ih =>
    -- the blanks behind the first spelling are those in front of the others
    have hwt := ht t List.mem_cons_self
    obtain ⟨position, hn⟩ := Lexer.next_of_spells hl hb hs hwt (hb'.append_endsWord hne rest)
    have hrest := ih (fun v hv => ht v (List.mem_cons_of_mem _ hv))
      (l := ⟨position, blanks' ++ rest⟩) rfl hb'
    rw [Lexer.readAll_of_token hn (Token.Spells.ne_eof hwt), hrest]
    rfl

/-! ### Writings exist -/

/-- A token that can be written is written as some word. -/
theorem Token.IsWritable.exists_spells {t : Token} (h : t.IsWritable) : ∃ word, t.Spells word := by
  cases t with
  | number x =>
    obtain ⟨literal, hl⟩ := h
    exact ⟨literal, .number hl⟩
  | string s => exact ⟨_, .string s⟩
  | boolean b => exact ⟨_, .boolean b⟩
  | nil => exact ⟨_, .nil⟩
  | regex pattern => exact ⟨_, .regex pattern⟩
  | reference path => exact ⟨_, .reference path⟩
  | function name => exact ⟨_, .function name⟩
  | operator op => exact ⟨_, .operator op⟩
  | leftParen => exact ⟨_, .leftParen⟩
  | rightParen => exact ⟨_, .rightParen⟩
  | comma => exact ⟨_, .comma⟩
  | eof => exact absurd h id

/-- Tokens that can be written have a writing, with one space between each two of them. -/
theorem exists_written {ts : List Token} (h : ∀ t ∈ ts, t.IsWritable) : ∃ cs, Written ts cs := by
  induction ts with
  | nil => exact ⟨[], .nil⟩
  | cons t ts ih =>
    obtain ⟨word, hword⟩ := (h t List.mem_cons_self).exists_spells
    obtain ⟨cs, hcs⟩ := ih fun u hu => h u (List.mem_cons_of_mem _ hu)
    cases ts with
    | nil => exact ⟨word ++ [], .last hword .nil⟩
    | cons u ts =>
      exact ⟨word ++ ([' '] ++ cs), .cons hword .space (by simp) hcs⟩

/-! ### The round trip -/

/-- Variables that can be written have the paths that their texts read as. -/
theorem pathsReadIn_of_isWritable {operands : List Operand}
    (h : ∀ x ∈ operands, x.IsWritable) : PathsReadIn operands := by
  intro text path hm
  obtain ⟨rfl, hp⟩ := h _ hm
  exact Path.read_text hp

/-- **Every tree that can be written is read back from its writings**: it has one, and whatever
blanks and numerals are chosen, reading gives this tree. -/
theorem parse_of_isWrittenAs {e : Expression} (hplace : e.InPlace) (hnesting : e.nesting ≤ 64)
    (hw : ∀ x ∈ e.operands, x.IsWritable) :
    (∃ text, e.IsWrittenAs text) ∧
      ∀ text, e.IsWrittenAs text → ∃ p, Prepared.ofText text = .ok p ∧ p.tree = e := by
  have htokens := Expression.isWritable_tokens e hw
  have heof : Token.eof ∉ e.tokens := fun hm => htokens _ hm
  constructor
  · obtain ⟨cs, hcs⟩ := exists_written htokens
    refine ⟨String.ofList cs, [], cs, ?_, .nil, hcs⟩
    rw [String.toList_ofList]
    rfl
  · rintro text ⟨blanks, rest, htext, hb, hwritten⟩
    have hread : (Lexer.ofText text).readAll = (e.tokens ++ [Token.eof]).map .ok :=
      hwritten.readAll_eq htokens htext hb
    have hfits : e.Fits 0 := ⟨hplace, hnesting, pathsReadIn_of_isWritable hw⟩
    have hgives := (Lexer.readAll_eq_iff heof).mp hread
    have hparse : parse text = .ok e :=
      parse_eq_ok_iff_parse.mpr (Expression.parse_eq_ok_iff_gives.mpr ⟨hfits, hgives⟩)
    have hprepared : Prepared.ofText text = .ok ⟨text, e⟩ := by
      rw [Prepared.ofText, hparse]
      rfl
    exact ⟨⟨text, e⟩, hprepared, rfl⟩

/-- The variable `$a["k-1"].b[10]`. -/
def sampleVariable : Operand :=
  .reference "a[\"k-1\"].b[10]" [⟨"a", some (.key "k-1")⟩, ⟨"b", some (.position 10)⟩]

/-- The expression `!@match($a["k-1"].b[10], /x\/y/) || -1.50 > nil`. -/
def sampleTree : Expression :=
  .chain (.term (.term (.applied .not (.call "@match"
      [.term (.term (.plain sampleVariable)), .term (.term (.plain (.regex "x/y")))])))) .or
    (.chain (.term (.plain (.number (.ofDecimal true 150 (-2))))) .greater (.plain .nil))

theorem denotes_sample : Denotes ['-', '1', '.', '5', '0'] (.ofDecimal true 150 (-2)) := by
  have hwhole : ['1'].all isDigit = true := by decide
  have hdigits : ['5', '0'].all isDigit = true := by decide
  refine ⟨⟨['-'], ['1'], ['.', '5', '0'], rfl, .inr (.inr rfl), List.all_eq_true.mp hwhole,
    .inr ⟨['5', '0'], rfl, by simp, List.all_eq_true.mp hdigits⟩, .inl (by simp)⟩, ?_⟩
  exact ⟨⟨true, 150, -2⟩, by decide, rfl⟩

theorem isWritable_sampleVariable : sampleVariable.IsWritable := by
  refine ⟨by decide, fun s hs => ?_⟩
  have hkey : "a".toList.all isKeyChar = true ∧ "k-1".toList.all isKeyChar = true ∧
      "b".toList.all isKeyChar = true := by decide
  rcases List.mem_cons.mp hs with rfl | hs
  · refine ⟨List.all_eq_true.mp hkey.1, fun field hf => ?_, by simp, by simp⟩
    obtain rfl := Index.key.inj (Option.some.inj hf)
    exact ⟨by decide, List.all_eq_true.mp hkey.2.1⟩
  · rw [List.mem_singleton.mp hs]
    exact ⟨List.all_eq_true.mp hkey.2.2, by simp, by simp, by simp⟩

/-- One tree with an operand of each sort that has to be writable. -/
theorem parse_of_isWrittenAs_sampleTree :
    (∃ text, sampleTree.IsWrittenAs text) ∧
      ∀ text, sampleTree.IsWrittenAs text →
        ∃ p, Prepared.ofText text = .ok p ∧ p.tree = sampleTree := by
  have hplace : sampleTree.InPlace := ⟨⟨rfl, trivial, trivial, trivial⟩, rfl, trivial, rfl, trivial⟩
  refine parse_of_isWrittenAs hplace (by decide) fun x hx => ?_
  have hoperands : sampleTree.operands = [sampleVariable, .regex "x/y", .call "@match"
      [.term (.term (.plain sampleVariable)), .term (.term (.plain (.regex "x/y")))],
      .number (.ofDecimal true 150 (-2)), .nil] := rfl
  rw [hoperands] at hx
  simp only [List.mem_cons, List.not_mem_nil, or_false] at hx
  rcases hx with rfl | rfl | rfl | rfl | rfl
  · exact isWritable_sampleVariable
  · change "x/y".toList.getLast? ≠ some '\\'
    decide
  · change isFunctionName "@match" = true
    decide
  · exact ⟨_, denotes_sample⟩
  · trivial

end Criteria
