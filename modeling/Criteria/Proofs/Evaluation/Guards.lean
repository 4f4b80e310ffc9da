import Criteria.Proofs.Context.Building
import Criteria.Proofs.Evaluation.Chains
import Criteria.Proofs.Grammar.Composition
import Criteria.Proofs.Path.Composition
import Criteria.Proofs.Path.Display
import Mathlib

/-!
# Guarded access

A variable whose key is missing stops the evaluation, so criteria ask `@has` for the key before they
use the variable. The two look the key up in different ways. The variable is resolved from the root,
in the data as it is. `@has` is given the object as a value, which is made into data again, and
looks into that. **Both find the same keys** (`Criteria.Expression.outcome_ofField`,
`Criteria.Expression.outcome_hasField`), so the answer is `true` where the variable has a value, nil
or not, and `false` where its key is missing.

Behind `&&` the answer `false` leaves out what follows, up to the next disjunction
(`Criteria.Expression.eval_followed_of_isDecidedBy`, `Criteria.Expression.eval_extend_of_and`).
-/

namespace Criteria

/-! ### Texts and what they are read as -/

namespace Path

/-- The text that asks whether the object at a path has a key. -/
def hasText (path : Path) (key : String) : String :=
  "@has($" ++ path.text ++ ", \"" ++ key ++ "\")"

/-- The text for the field with a key of the object at a path; a field of the root has a point in
front of its key. -/
def fieldText (path : Path) (key : String) : String := "$" ++ path.text ++ "." ++ key

end Path

namespace Expression

/-- The call that asks whether the object at a path has a key. -/
def hasField (path : Path) (key : String) : Expression :=
  .term (.term (.plain (.call "@has" [.ofPath path, .term (.term (.plain (.string key)))])))

/-- The variable for the field with a key of the object at a path. -/
def ofField (path : Path) (key : String) : Expression :=
  .term (.term (.plain (.reference (path.text ++ "." ++ key) (path ++ [⟨key, none⟩]))))

end Expression

/-- Keys that can be written behind a point. -/
def IsFieldKey (key : String) : Prop := key.toList ≠ [] ∧ ∀ c ∈ key.toList, isKeyChar c = true

section Reading

variable {path : Path} {key : String}

/-- A key of a field makes a path that can be written. -/
theorem IsFieldKey.isWellFormed (h : IsFieldKey key) :
    ∀ s ∈ ([⟨key, none⟩] : Path), s.IsWellFormed := by
  intro s hs
  obtain rfl := List.mem_singleton.mp hs
  exact ⟨h.2, by simp, by simp, .inl h.1⟩

/-- Key characters need no escapes. -/
theorem escapeString_of_isKeyChar {cs : List Char} (h : ∀ c ∈ cs, isKeyChar c = true) :
    escapeString cs = cs := by
  induction cs with
  | nil => rfl
  | cons c cs ih =>
    obtain ⟨hc, hcs⟩ := List.forall_mem_cons.mp h
    have hplain : ¬(c = '"' || c = '\\') = true := by
      simp [ne_of_isKeyChar hc (d := '"') rfl, ne_of_isKeyChar hc (d := '\\') rfl]
    rw [escapeString, List.flatMap_cons, if_neg hplain]
    exact congrArg (c :: ·) (ih hcs)

/-- The text of a key in quotes is read as the key. -/
theorem parse_quotedKey (hkey : IsFieldKey key) :
    Expression.parse ("\"" ++ key ++ "\"") = .ok (.lone (.string key)) := by
  have hfits : (Operand.string key).Fits 0 := (Operand.leaf_spec (t := .string key) rfl).2 0
  refine Expression.parse_eq_ok_iff_isReadAs.mpr ⟨hfits, ?_⟩
  have hstring : IsReadAs _ [.string key] := .singleton nofun fun position => by
    have hread := Lexeme.read_string key [] position
    rwa [List.append_nil] at hread
  rw [escapeString_of_isKeyChar hkey.2] at hstring
  simpa [Expression.lone, Expression.tokens, Comparison.tokens, Unary.tokens, Operand.tokens]
    using hstring

/-- The text of the question for a key is read as that question. -/
theorem parse_hasText (hpath : ∀ s ∈ path, s.IsWellFormed) (hkey : IsFieldKey key) :
    Expression.parse (path.hasText key) = .ok (.hasField path key) := by
  have harguments : AreArguments ["$" ++ path.text, " " ++ ("\"" ++ key ++ "\"")]
      [.ofPath path, .lone (.string key)] :=
    .cons ⟨parse_eq_ok_iff_parse.mp (parse_variable hpath), Nat.zero_le _⟩
      (.cons ⟨parse_space_append (parse_quotedKey hkey), Nat.zero_le _⟩ .nil)
  have htext : path.hasText key =
      "@has" ++ "(" ++ ",".intercalate ["$" ++ path.text, " " ++ ("\"" ++ key ++ "\"")] ++ ")" := by
    simp [Path.hasText, ← String.toList_inj]
  have hname : isFunctionName "@has" = true := by decide
  rw [htext]
  exact parse_call hname harguments

/-- The text of a field below a path is read as the variable for it. -/
theorem parse_fieldText (hpath : ∀ s ∈ path, s.IsWellFormed) (hkey : IsFieldKey key) :
    Expression.parse (path.fieldText key) = .ok (.ofField path key) := by
  have hlast : Path.text [⟨key, none⟩] = key := by simp [Path.text, Segment.text]
  have hread := Path.read_append (Path.read_text hpath) (Path.read_text hkey.isWellFormed)
  have hpoint : Lexeme.Leads ['.'] .outside .outside := .pathChar rfl
  have hleads := (Lexeme.leads_text hpath).append
    (hpoint.cons (Lexeme.leads_text hkey.isWellFormed))
  rw [hlast] at hread hleads
  refine Expression.parse_eq_ok_iff_isReadAs.mpr ⟨Operand.fits_reference.mpr hread, ?_⟩
  have hvariable : IsReadAs ('$' :: (path.text ++ "." ++ key).toList)
      [.reference (path.text ++ "." ++ key)] := .variable (by simpa using hleads)
  simpa [Path.fieldText, Expression.ofField, Expression.tokens, Comparison.tokens, Unary.tokens,
    Operand.tokens] using hvariable

/-- Behind the question for a key and `&&`, any text that can be read can stand. -/
theorem parse_guardedText (hpath : ∀ s ∈ path, s.IsWellFormed) (hkey : IsFieldKey key)
    {text : String} {e : Expression} (he : Expression.parse text = .ok e) :
    Expression.parse (path.hasText key ++ " && " ++ text) =
      .ok ((Expression.hasField path key).followed .and e) := by
  have hsymbol : " " ++ Operator.and.symbol ++ " " = " && " := by decide
  rw [← hsymbol]
  exact parse_followed_of_spaces rfl (parse_hasText hpath hkey) he

end Reading

/-! ### Two ways to look a key up -/

section Lookup

variable {evaluate : Expression → Datum → Except Stop Value} {path : Path} {root : Datum}
  {fields : Fields Datum}

/-- An object that is made into a value and back has the keys that it had. -/
theorem Value.contains_toFields_ofFields (fields : Fields Datum) (key : String) :
    Fields.contains (toFields (ofFields fields)) key = fields.contains key := by
  rw [toFields_eq_map, ofFields_eq_map, Fields.contains, Fields.get?_map, Fields.get?_map,
    Option.isSome_map, Option.isSome_map, Fields.contains]

/-- Behind the path of an object, a key leads to the field that the object has under it. -/
theorem Path.resolve_field (h : path.resolve root = .ok (.object fields)) (key : String) :
    resolve (path ++ [⟨key, none⟩]) root = Segment.field ⟨key, none⟩ fields key := by
  by_cases hne : path = []
  · subst hne
    obtain rfl := Except.ok.inj h
    rfl
  · rw [resolve_append hne (by simp), h]
    rfl

/-- Asking for a key looks it up in the object itself. -/
theorem Expression.outcome_hasField (h : path.resolve root = .ok (.object fields)) (key : String) :
    (hasField path key).outcome evaluate root = .ok (.bool (fields.contains key)) := by
  have hobject : Path.outcome root path = .ok (.object (Value.ofFields fields)) := by
    rw [Path.outcome, h]
    rfl
  have harguments : Operand.argumentOutcomes evaluate root
      [.ofPath path, .term (.term (.plain (.string key)))] =
        .ok [.object (Value.toFields (Value.ofFields fields)), .string key] := by
    rw [Operand.argumentOutcomes]
    change (Path.outcome root path >>= _) = _
    rw [hobject]
    rfl
  have hname : Builtin.ofName? "@has" = some .has := by decide
  change Operand.outcome evaluate root (.call "@has" _) = _
  rw [Operand.outcome, hname, ← Value.contains_toFields_ofFields fields key]
  change (Operand.argumentOutcomes evaluate root _ >>= _) = _
  rw [harguments]
  rfl

/-- So does the variable, which fails where the key is missing. -/
theorem Expression.outcome_ofField (h : path.resolve root = .ok (.object fields)) (key : String) :
    (ofField path key).outcome evaluate root =
      match fields.get? key with
      | some d => .ok (Value.ofDatum d)
      | none => .error (.error (.missingKey key)) := by
  change Path.outcome root (path ++ [⟨key, none⟩]) = _
  rw [Path.outcome, Path.resolve_field h, Segment.field]
  cases fields.get? key <;> rfl

end Lookup

/-! ### What a conjunction leaves out -/

section Skipped

variable {σ : Type} {depth : Nat} {ctx : Context σ} {a : Expression} {w w' : World σ}

/-- A chain that decides the operator behind it leaves out the first comparison of the chain that
follows, whose other links go on from what it has come to. -/
theorem Expression.eval_followed_of_isDecidedBy {op : Operator} {b : Bool}
    (ha : a.eval depth ctx w = (.ok (.bool b), w')) (hop : op.isDecidedBy (.bool b) = true)
    (e : Expression) :
    (a.followed op e).eval depth ctx w =
      ((Expression.term (.term (.plain (.boolean b)))).extend e.links).eval depth ctx w' := by
  rw [Expression.followed_eq_extend, Expression.eval,
    Expression.evalWith_extend_of_isDecidedBy ha hop, Expression.eval, Expression.evalWith_extend]
  rfl

/-- From `false` no conjunction leads away. -/
theorem Expression.eval_extend_of_and {links : List (Operator × Comparison)}
    (h : ∀ link ∈ links, link.1 = .and) (w : World σ) :
    ((Expression.term (.term (.plain (.boolean false)))).extend links).eval depth ctx w =
      (.ok (.bool false), w) := by
  rw [Expression.eval, Expression.evalWith_extend]
  change links.foldlM (Expression.step (evaluatePredicate depth) ctx) (.bool false) w = _
  induction links with
  | nil => rfl
  | cons link rest ih =>
    obtain ⟨op, operand⟩ := link
    obtain ⟨rfl, hrest⟩ := List.forall_mem_cons.mp h
    rw [List.foldlM_cons, Expression.step_of_isDecidedBy rfl, pure_bind]
    exact ih hrest

end Skipped

/-! ### Guards -/

section Guard

variable {σ : Type} {root : Datum} {registrations : List (String × HostFunction σ)}
  {ctx : Context σ} {path : Path} {fields : Fields Datum} {key : String}

/-- What `@has` answers, whatever functions the host has registered. -/
theorem Expression.eval_hasField (hctx : Context.build root registrations = .ok ctx)
    (hobject : path.resolve root = .ok (.object fields)) (key : String) (depth : Nat)
    (w : World σ) :
    (hasField path key).eval depth ctx w = (.ok (.bool (fields.contains key)), w) := by
  obtain ⟨-, -, hdata⟩ := Context.build_eq_ok_iff.mp hctx
  have hcalls : CallsBuiltins ctx (hasField path key).operands := by
    intro name arguments hm
    simp only [hasField, ofPath, operands, Comparison.operands, Unary.operands, Operand.operands,
      Operand.argumentOperands, List.append_nil, List.cons_append, List.nil_append,
      List.mem_cons, reduceCtorEq, Operand.call.injEq, List.not_mem_nil, or_false,
      false_or] at hm
    rw [hm.1]
    exact (Context.function?_name_of_build hctx .has).trans (Builtin.function?_name .has).symm
  rw [Expression.eval, Expression.evalWith_eq_outcome _ hcalls, hdata, outcome_hasField hobject,
    Evaluation.ofOutcome_apply]

/-- What the variable gives. -/
theorem Expression.eval_ofField (hctx : Context.build root registrations = .ok ctx)
    (hobject : path.resolve root = .ok (.object fields)) (key : String) (depth : Nat)
    (w : World σ) :
    (ofField path key).eval depth ctx w =
      (match fields.get? key with
        | some d => .ok (Value.ofDatum d)
        | none => .error (.error (.missingKey key)), w) := by
  obtain ⟨-, -, hdata⟩ := Context.build_eq_ok_iff.mp hctx
  have hcalls : CallsBuiltins ctx (ofField path key).operands := by
    intro name arguments hm
    exact absurd hm (by simp [ofField, operands, Comparison.operands, Unary.operands,
      Operand.operands])
  rw [Expression.eval, Expression.evalWith_eq_outcome _ hcalls, hdata, outcome_ofField hobject,
    Evaluation.ofOutcome_apply]

/-- **`@has` guards access to a field.** For a path to an object in the root and a key that can be
written behind a point, asking `@has` for the key gives `true` exactly if the variable with the key
behind the path has a value, which may be nil, and `false` exactly if it fails because a key is
missing. The answer leaves the host alone.

A text may follow behind `&&`. While the key is missing, its first comparison is not evaluated, and
its other links go on as they would behind `false`. If they are all conjunctions, then nothing of
the text is evaluated: the result is `false`, and the host is left as it was. -/
theorem has_guards_access (hctx : Context.build root registrations = .ok ctx)
    (hpath : ∀ s ∈ path, s.IsWellFormed) (hobject : path.resolve root = .ok (.object fields))
    (hkey : IsFieldKey key) :
    ∃ has access, Prepared.ofText (path.hasText key) = .ok has ∧
      Prepared.ofText (path.fieldText key) = .ok access ∧
      (∀ depth w,
        ((has.tree.eval depth ctx w).1 = .ok (.bool true) ↔
          ∃ v, (access.tree.eval depth ctx w).1 = .ok v) ∧
        ((has.tree.eval depth ctx w).1 = .ok (.bool false) ↔
          ∃ name, (access.tree.eval depth ctx w).1 = .error (.error (.missingKey name))) ∧
        (has.tree.eval depth ctx w).2 = w) ∧
      ∀ text e, Expression.parse text = .ok e →
        ∃ guarded, Prepared.ofText (path.hasText key ++ " && " ++ text) = .ok guarded ∧
          ∀ depth w name,
            (access.tree.eval depth ctx w).1 = .error (.error (.missingKey name)) →
              guarded.tree.eval depth ctx w =
                ((Expression.term (.term (.plain (.boolean false)))).extend e.links).eval
                  depth ctx w ∧
              ((∀ link ∈ e.links, link.1 = .and) →
                guarded.tree.eval depth ctx w = (.ok (.bool false), w)) := by
  have hprepared : ∀ {text : String} {e : Expression}, Expression.parse text = .ok e →
      Prepared.ofText text = .ok ⟨text, e⟩ := fun h => Prepared.ofText_eq_ok_iff.mpr ⟨rfl, h⟩
  have hcontains : fields.contains key = (fields.get? key).isSome := rfl
  have hdecided : Operator.and.isDecidedBy (.bool false) = true := rfl
  refine ⟨_, _, hprepared (parse_hasText hpath hkey), hprepared (parse_fieldText hpath hkey),
    fun depth w => ?_, fun text e he => ⟨_, hprepared (parse_guardedText hpath hkey he),
      fun depth w name hmissing => ?_⟩⟩
  · rw [Expression.eval_hasField hctx hobject, Expression.eval_ofField hctx hobject, hcontains]
    cases fields.get? key <;> simp
  · have hfalse : (Expression.hasField path key).eval depth ctx w = (.ok (.bool false), w) := by
      rw [Expression.eval_ofField hctx hobject] at hmissing
      rw [Expression.eval_hasField hctx hobject, hcontains]
      cases hget : fields.get? key with
      | none => rfl
      | some d =>
        rw [hget] at hmissing
        cases hmissing
    have hskipped := Expression.eval_followed_of_isDecidedBy hfalse hdecided e
    refine ⟨hskipped, fun hand => hskipped.trans ?_⟩
    exact Expression.eval_extend_of_and hand w

end Guard

/-- In an element of an array, a key that holds nil and a key that is missing. Behind the missing
one a host function that counts its calls is not called. -/
theorem nil_is_not_missing :
    let root : Datum := .object [("a", .array [.object [("k", .nil)]])]
    let turn : HostFunction Nat := fun _ n => (.ok (.bool true), n + 1)
    ∃ ctx, Context.build root [("@turn", turn)] = .ok ctx ∧
      (∃ has access, Prepared.ofText "@has($a[0], \"k\")" = .ok has ∧
        Prepared.ofText "$a[0].k" = .ok access ∧
        (access.tree.eval 0 ctx ⟨0, []⟩).1 = .ok .nil ∧
        (has.tree.eval 0 ctx ⟨0, []⟩).1 = .ok (.bool true)) ∧
      ∃ guarded access, Prepared.ofText "@has($a[0], \"z\") && @turn()" = .ok guarded ∧
        Prepared.ofText "$a[0].z" = .ok access ∧
        (access.tree.eval 0 ctx ⟨0, []⟩).1 = .error (.error (.missingKey "z")) ∧
        guarded.tree.eval 0 ctx ⟨0, []⟩ = (.ok (.bool false), ⟨0, []⟩) := by
  intro root turn
  let path : Path := [⟨"a", some (.position 0)⟩]
  have hpath : ∀ s ∈ path, s.IsWellFormed := by
    have hread : Path.read "a[0]" = .ok path := by decide +kernel
    exact Path.isWellFormed_of_read hread
  have hobject : path.resolve root = .ok (.object [("k", .nil)]) := rfl
  have hk : IsFieldKey "k" := ⟨by decide, List.all_eq_true.mp (by decide)⟩
  have hz : IsFieldKey "z" := ⟨by decide, List.all_eq_true.mp (by decide)⟩
  obtain ⟨ctx, hctx⟩ : ∃ ctx, Context.build root [("@turn", turn)] = .ok ctx :=
    ⟨⟨root, FunctionTable.builtins.insert "@turn" (.host turn)⟩, by with_unfolding_all rfl⟩
  have hturn : Expression.parse "@turn()" = .ok (.term (.term (.plain (.call "@turn" [])))) := by
    cbv
  have htree : ∀ {key : String} {access : Prepared}, IsFieldKey key →
      Prepared.ofText (path.fieldText key) = .ok access →
        access.tree = .ofField path key := fun hkey h => by
    have hparse := (Prepared.ofText_eq_ok_iff.mp h).2
    exact Except.ok.inj (hparse.symm.trans (parse_fieldText hpath hkey))
  obtain ⟨has, access, hhas, haccess, hanswers, -⟩ := has_guards_access hctx hpath hobject hk
  obtain ⟨-, missing, -, hmissing, -, hguards⟩ := has_guards_access hctx hpath hobject hz
  obtain ⟨guarded, hguarded, hskips⟩ := hguards _ _ hturn
  have hnil : (access.tree.eval 0 ctx ⟨0, []⟩).1 = .ok .nil := by
    rw [htree hk haccess, Expression.eval_ofField hctx hobject]
    rfl
  have hnone : missing.tree.eval 0 ctx ⟨0, []⟩ = (.error (.error (.missingKey "z")), ⟨0, []⟩) := by
    rw [htree hz hmissing, Expression.eval_ofField hctx hobject]
    rfl
  refine ⟨ctx, hctx, ⟨has, access, hhas, haccess, hnil, ?_⟩, guarded, missing, hguarded, hmissing,
    ?_, ?_⟩
  · exact (hanswers 0 ⟨0, []⟩).1.mpr ⟨.nil, hnil⟩
  · rw [hnone]
  · exact (hskips 0 ⟨0, []⟩ "z" (by rw [hnone])).2
      (by simp [Expression.links, Expression.linksBefore])

end Criteria
