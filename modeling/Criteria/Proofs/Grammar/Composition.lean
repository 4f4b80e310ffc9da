import Criteria.Proofs.Token.Joining
import Mathlib.Data.List.Forall2

/-!
# Expressions written with other expressions

A text is read as an expression if it is read as the tokens of the expression, which belongs to the
grammar (`Criteria.Expression.parse_eq_ok_iff_isReadAs`). Since the tokens of a text can be put
together from those of its pieces, so can expressions. **Texts are put in parentheses, joined by
logical operators and passed to functions without a look at what they say**
(`Criteria.expression_texts_compose`). Parentheses and argument lists take up one level of the
nesting. Between logical operators there is no need for them, but then the second chain is taken
apart (`Criteria.Expression.followed`). Comparison operators stand between operands, so there the
texts have to be in parentheses (`Criteria.parse_comparisonText`).
-/

namespace Criteria

/-- A text is read as an expression of the grammar when it is read as its tokens. -/
theorem Expression.parse_eq_ok_iff_isReadAs {text : String} {e : Expression} :
    Expression.parse text = .ok e ↔ e.Fits 0 ∧ IsReadAs text.toList e.tokens := by
  have hread : e.Fits 0 → ((∃ t next last, (Lexer.ofText text).next = (.ok t, next) ∧
      next.Gives t e.tokens last .eof) ↔ IsReadAs text.toList e.tokens) := fun hfits =>
    (Lexer.readAll_eq_iff (eof_notMem_tokens hfits)).symm.trans Lexer.readAll_eq_iff_isReadAs
  rw [Expression.parse_eq_ok_iff_gives]
  exact and_congr_right hread

/-- An expression that does not use up the limit of nesting belongs to the grammar inside of a
further pair of parentheses. -/
theorem Expression.Fits.succ {e : Expression} (h : e.Fits 0) (hn : e.nesting ≤ 63) : e.Fits 1 :=
  ⟨h.1, hn, h.2.2⟩

/-! ### Chains one behind the other -/

/-- The comparison of two expressions in parentheses. -/
def Expression.compared (a : Expression) (op : Operator) (b : Expression) : Expression :=
  .term (.chain (.term (.plain (.group a))) op (.plain (.group b)))

/-- Two expressions in parentheses, joined by a logical operator. -/
def Expression.joined (a : Expression) (op : Operator) (b : Expression) : Expression :=
  .chain (.term (.term (.plain (.group a)))) op (.term (.plain (.group b)))

/-- A chain, and behind a logical operator the links of a second one. The operators group to the
left, so the second chain is no part of this on its own: `a && (b || c)` is a different
expression. -/
def Expression.followed (a : Expression) (op : Operator) : Expression → Expression
  | .term c => .chain a op c
  | .chain left op' right => .chain (Expression.followed a op left) op' right

section Followed

variable (a : Expression) (op : Operator) (b : Expression)

/-- The chain goes on with the first comparison of the second one, and with its links. -/
theorem Expression.followed_eq_extend :
    a.followed op b = a.extend ((op, b.first) :: b.links) := by
  induction b using Expression.followed.induct with
  | case1 c => rfl
  | case2 left op' right ih =>
    rw [Expression.followed, ih, Expression.links_chain, Expression.first, ← List.cons_append,
      Expression.extend_append]
    rfl

/-- Its first comparison is that of the first chain. -/
theorem Expression.first_followed : (a.followed op b).first = a.first := by
  induction b using Expression.followed.induct with
  | case1 c => rfl
  | case2 left op' right ih => exact ih

/-- Its links are those of the first chain, the operator with the first comparison of the second
one, and the links of that. -/
theorem Expression.links_followed :
    (a.followed op b).links = a.links ++ (op, b.first) :: b.links := by
  induction b using Expression.followed.induct with
  | case1 c => exact Expression.links_chain a op c
  | case2 left op' right ih =>
    rw [Expression.followed, Expression.links_chain, ih, Expression.links_chain, Expression.first,
      List.append_assoc, List.cons_append]

/-- The tokens of two joined expressions, with the operator between them. -/
theorem Expression.tokens_followed :
    (a.followed op b).tokens = a.tokens ++ .operator op :: b.tokens := by
  induction b using Expression.followed.induct with
  | case1 c => rfl
  | case2 left op' right ih =>
    rw [Expression.followed, Expression.tokens, ih, Expression.tokens, List.append_assoc,
      List.cons_append]

variable {a op b}

/-- Two expressions joined by a logical operator fit where both do. -/
theorem Expression.fits_followed {depth : Nat} :
    (a.followed op b).Fits depth ↔ a.Fits depth ∧ op.isLogical = true ∧ b.Fits depth := by
  induction b using Expression.followed.induct with
  | case1 c => exact Expression.fits_chain
  | case2 left op' right ih =>
    rw [Expression.followed, Expression.fits_chain, ih, Expression.fits_chain, and_assoc,
      and_assoc]

end Followed

/-! ### Texts and their pieces -/

section Pieces

variable {s t : String} {a b e : Expression} {op : Operator}

/-- **Texts with a logical operator between them** are read as the chain of the one and then the
other. -/
theorem parse_followed (hop : op.isLogical = true) (ha : Expression.parse s = .ok a)
    (hb : Expression.parse t = .ok b) :
    Expression.parse (s ++ op.symbol ++ t) = .ok (a.followed op b) := by
  obtain ⟨hfa, hra⟩ := Expression.parse_eq_ok_iff_isReadAs.mp ha
  obtain ⟨hfb, hrb⟩ := Expression.parse_eq_ok_iff_isReadAs.mp hb
  refine Expression.parse_eq_ok_iff_isReadAs.mpr ⟨Expression.fits_followed.mpr ⟨hfa, hop, hfb⟩, ?_⟩
  -- the first character of the operator continues no token of the text before it
  have hends : EndsToken (op.symbol.toList ++ t.toList) := by
    cases op with
    | and => exact .cons (by decide)
    | or => exact .cons (by decide)
    | _ => cases hop
  have hall := hra.append (hrb.logical hop) hends
  simpa [Expression.tokens_followed] using hall

/-- A blank before a text changes nothing. -/
theorem parse_space_append (h : Expression.parse t = .ok e) :
    Expression.parse (" " ++ t) = .ok e := by
  obtain ⟨hfits, hread⟩ := Expression.parse_eq_ok_iff_isReadAs.mp h
  refine Expression.parse_eq_ok_iff_isReadAs.mpr ⟨hfits, ?_⟩
  simpa using hread.skip .space

/-- A blank behind a text changes nothing. -/
theorem parse_append_space (h : Expression.parse t = .ok e) :
    Expression.parse (t ++ " ") = .ok e := by
  obtain ⟨hfits, hread⟩ := Expression.parse_eq_ok_iff_isReadAs.mp h
  refine Expression.parse_eq_ok_iff_isReadAs.mpr ⟨hfits, ?_⟩
  simpa using hread.append (.nil .space) (.cons (by decide))

/-- There may be blanks around the operator. -/
theorem parse_followed_of_spaces (hop : op.isLogical = true) (ha : Expression.parse s = .ok a)
    (hb : Expression.parse t = .ok b) :
    Expression.parse (s ++ (" " ++ op.symbol ++ " ") ++ t) = .ok (a.followed op b) := by
  have hall := parse_followed hop (parse_append_space ha) (parse_space_append hb)
  simpa only [String.append_assoc] using hall

/-- **A text in parentheses** is read as the expression in parentheses. -/
theorem parse_group (h : Expression.parse t = .ok e) (hn : e.nesting ≤ 63) :
    Expression.parse ("(" ++ t ++ ")") = .ok (.lone (.group e)) := by
  obtain ⟨hfits, hread⟩ := Expression.parse_eq_ok_iff_isReadAs.mp h
  refine Expression.parse_eq_ok_iff_isReadAs.mpr ⟨?_, ?_⟩
  · exact Operand.fits_group.mpr ⟨by decide, hfits.succ hn⟩
  · simpa [Expression.lone, Expression.tokens, Comparison.tokens, Unary.tokens, Operand.tokens]
      using hread.enclosed (.nil .nil)

/-! ### Texts as arguments -/

/-- Texts that can be read inside of a further pair of parentheses, and what they are read as. -/
def AreArguments (texts : List String) (arguments : List Expression) : Prop :=
  List.Forall₂ (fun t e => Expression.parse t = .ok e ∧ e.nesting ≤ 63) texts arguments

/-- Texts with commas between them are read as arguments. -/
theorem AreArguments.isReadAs {texts : List String} {arguments : List Expression}
    (h : AreArguments texts arguments) :
    IsReadAs (",".intercalate texts).toList (Operand.argumentTokens arguments) := by
  induction h with
  | nil => exact .nil .nil
  | @cons t e texts arguments ht htexts ih =>
    have hread := (Expression.parse_eq_ok_iff_isReadAs.mp ht.1).2
    cases htexts with
    | nil => simpa [Operand.argumentTokens] using hread
    | cons => simpa [Operand.argumentTokens] using hread.append ih.comma (.cons (by decide))

/-- The arguments of a call fit inside of its parentheses. -/
theorem AreArguments.fit {texts : List String} {arguments : List Expression}
    (h : AreArguments texts arguments) : Operand.ArgumentsFit 1 arguments := by
  induction h with
  | nil => exact Operand.argumentsFit_nil
  | cons ht _ ih =>
    have hfits := (Expression.parse_eq_ok_iff_isReadAs.mp ht.1).1
    exact Operand.argumentsFit_cons.mpr ⟨hfits.succ ht.2, ih⟩

/-- **A function name with texts in parentheses behind it** is read as the call of the function on
what the texts are read as. -/
theorem parse_call {name : String} {texts : List String} {arguments : List Expression}
    (hname : isFunctionName name = true) (h : AreArguments texts arguments) :
    Expression.parse (name ++ "(" ++ ",".intercalate texts ++ ")") =
      .ok (.lone (.call name arguments)) := by
  refine Expression.parse_eq_ok_iff_isReadAs.mpr ⟨?_, ?_⟩
  · exact Operand.fits_call.mpr ⟨by decide, h.fit⟩
  · have hall :=
      (IsReadAs.function hname).append (h.isReadAs.enclosed (.nil .nil)) (.cons (by decide))
    simpa [Expression.lone, Expression.tokens, Comparison.tokens, Unary.tokens, Operand.tokens]
      using hall

end Pieces

/-- **Expression texts compose.** Texts that can be read are joined by a logical operator without
anything between them, and this is read as one flat chain: the first comparison is that of the first
text, and the links are those of the first text, the operator with the first comparison of the
second one, and the links of the second one. With one level of the nesting to spare, a text in
parentheses is read as the expression in parentheses, and texts with commas between them, in
parentheses behind the name of a function, are read as the call on exactly the expressions. -/
theorem expression_texts_compose :
    (∀ (s t : String) (a b : Expression) (op : Operator), op.isLogical = true →
      Expression.parse s = .ok a → Expression.parse t = .ok b →
        ∃ e, Expression.parse (s ++ op.symbol ++ t) = .ok e ∧
          e.first = a.first ∧ e.links = a.links ++ (op, b.first) :: b.links) ∧
    (∀ (t : String) (e : Expression), Expression.parse t = .ok e → e.nesting ≤ 63 →
      Expression.parse ("(" ++ t ++ ")") = .ok (.lone (.group e))) ∧
    ∀ (name : String) (texts : List String) (arguments : List Expression),
      isFunctionName name = true → AreArguments texts arguments →
        Expression.parse (name ++ "(" ++ ",".intercalate texts ++ ")") =
          .ok (.lone (.call name arguments)) := by
  refine ⟨fun s t a b op hop ha hb => ?_, fun t e => parse_group, fun name texts arguments =>
    parse_call⟩
  exact ⟨a.followed op b, parse_followed hop ha hb, Expression.first_followed a op b,
    Expression.links_followed a op b⟩

/-- Two chains make one, whatever their operators are, and a call may have no arguments. -/
theorem composed_texts_are_read :
    let root : Comparison := .term (.plain (.reference "" []))
    let nothing : Comparison := .term (.plain .nil)
    (∃ e, Expression.parse "$||nil&&nil||$" = .ok e ∧
      e.first = root ∧ e.links = [(.or, nothing), (.and, nothing), (.or, root)]) ∧
    Expression.parse "($||nil)" = .ok (.lone (.group (.chain (.term root) .or nothing))) ∧
    Expression.parse "@f(nil,$||nil)" =
      .ok (.lone (.call "@f" [.term nothing, .chain (.term root) .or nothing])) ∧
    Expression.parse "@f()" = .ok (.lone (.call "@f" [])) := by
  intro root nothing
  have hnil : Expression.parse "nil" = .ok (.term nothing) := by with_unfolding_all rfl
  have hroot : Expression.parse "$||nil" = .ok (.chain (.term root) .or nothing) := by
    with_unfolding_all rfl
  have hnothing : Expression.parse "nil||$" = .ok (.chain (.term nothing) .or root) := by
    with_unfolding_all rfl
  have hname : isFunctionName "@f" = true := by decide
  obtain ⟨hchains, hgroups, hcalls⟩ := expression_texts_compose
  refine ⟨hchains _ _ _ _ .and rfl hroot hnothing, hgroups _ _ hroot (by decide), ?_, ?_⟩
  · exact hcalls "@f" ["nil", "$||nil"] _ hname
      (.cons ⟨hnil, by decide⟩ (.cons ⟨hroot, by decide⟩ .nil))
  · exact hcalls "@f" [] [] hname .nil

/-! ### Comparisons of texts -/

/-- Two texts in parentheses with an operator between them. -/
def comparisonText (s : String) (op : Operator) (t : String) : String :=
  "(" ++ s ++ ") " ++ op.symbol ++ " (" ++ t ++ ")"

/-- A text of this kind is read as the tokens of the two texts, with the other tokens around
them. -/
theorem isReadAs_comparisonText {s t : String} {ts us : List Token} (op : Operator)
    (hs : IsReadAs s.toList ts) (ht : IsReadAs t.toList us) :
    IsReadAs (comparisonText s op t).toList
      (.leftParen ::
        (ts ++ .rightParen :: .operator op :: .leftParen :: (us ++ [.rightParen]))) := by
  -- the text is put together from its end
  have hright := ht.enclosed (.nil .nil)
  have hoperator := hright.skip .space |>.operator op rfl
  have hall := hs.enclosed (hoperator.skip .space)
  simpa [comparisonText] using hall

section Written

variable {s t : String} {a b : Expression} {op : Operator}

/-- **Comparisons are written with what is compared.** -/
theorem parse_comparisonText (hop : op.isComparison = true) (ha : Expression.parse s = .ok a)
    (hna : a.nesting ≤ 63) (hb : Expression.parse t = .ok b) (hnb : b.nesting ≤ 63) :
    Expression.parse (comparisonText s op t) = .ok (a.compared op b) := by
  obtain ⟨hfa, hra⟩ := Expression.parse_eq_ok_iff_isReadAs.mp ha
  obtain ⟨hfb, hrb⟩ := Expression.parse_eq_ok_iff_isReadAs.mp hb
  refine Expression.parse_eq_ok_iff_isReadAs.mpr ⟨?_, ?_⟩
  · simp only [Expression.compared, Expression.fits_term, Comparison.fits_chain,
      Comparison.fits_term, Unary.fits_plain, Operand.fits_group]
    exact ⟨⟨by decide, hfa.succ hna⟩, hop, by decide, hfb.succ hnb⟩
  · simpa [Expression.compared, Expression.tokens, Comparison.tokens, Unary.tokens,
      Operand.tokens] using isReadAs_comparisonText op hra hrb

/-- With a logical operator between them, two texts in parentheses are read as the chain of the two
expressions. -/
theorem parse_joinedText (hop : op.isLogical = true) (ha : Expression.parse s = .ok a)
    (hna : a.nesting ≤ 63) (hb : Expression.parse t = .ok b) (hnb : b.nesting ≤ 63) :
    Expression.parse (comparisonText s op t) = .ok (a.joined op b) := by
  have htext : comparisonText s op t =
      ("(" ++ s ++ ")") ++ (" " ++ op.symbol ++ " ") ++ ("(" ++ t ++ ")") := by
    simp [comparisonText, ← String.toList_inj]
  rw [htext]
  exact parse_followed_of_spaces hop (parse_group ha hna) (parse_group hb hnb)

end Written

end Criteria
