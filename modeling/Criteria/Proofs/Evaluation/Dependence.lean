import Criteria.Proofs.Context.Registration
import Criteria.Proofs.Datum.Validity
import Criteria.Proofs.Evaluation.Openings

/-!
# What an evaluation looks at

An evaluation turns to its context for two things only: what the variables of the tree stand for,
and what the names lead to that the tree calls. Two contexts that **agree** in this
(`Criteria.Context.Agree`) cannot be told apart by the evaluation: it gives the same result, makes
the same calls with the same arguments and leaves the host in the same state
(`Criteria.Expression.evalWith_congr`). The predicates of `@select` are no exception, since they
are evaluated against contexts of their own.

A variable in turn looks at its root in one place only, if the root is an object: the first segment
of its path **enters** the root under a key, and all that follows happens inside of the field that
it finds there (`Criteria.Path.resolve_object_congr`). So there are two things that an expression
does not depend on:

- the fields that its variables do not enter, if none of them is a bare `$`
  (`Criteria.evaluation_depends_on_entered_fields`);
- the registered functions that it does not call (`Criteria.registering_is_conservative`).
-/

namespace Criteria

variable {σ : Type}

/-! ### Contexts that agree -/

/-- Two contexts **agree** on operands when the variables among these stand for the same in both,
and the names that are called lead to the same functions. -/
structure Context.Agree (ctx ctx' : Context σ) (operands : List Operand) : Prop where
  lookUp : ∀ text path, .reference text path ∈ operands → ctx.lookUp path = ctx'.lookUp path
  function? : ∀ name arguments, .call name arguments ∈ operands →
    ctx.function? name = ctx'.function? name

namespace Context.Agree

variable {ctx ctx' : Context σ} {xs ys : List Operand}

/-- Contexts that agree on operands agree on fewer. -/
theorem mono (h : ctx.Agree ctx' ys) (hs : ∀ x ∈ xs, x ∈ ys) : ctx.Agree ctx' xs where
  lookUp text path hm := h.lookUp text path (hs _ hm)
  function? name arguments hm := h.function? name arguments (hs _ hm)

theorem left (h : ctx.Agree ctx' (xs ++ ys)) : ctx.Agree ctx' xs :=
  h.mono fun _ => List.mem_append_left _

theorem right (h : ctx.Agree ctx' (xs ++ ys)) : ctx.Agree ctx' ys :=
  h.mono fun _ => List.mem_append_right _

end Context.Agree

section Tree

variable {evaluate : Expression → Datum → Except Stop Value} {ctx ctx' : Context σ}

mutual

/-- **Contexts that agree on the operands of a tree evaluate it alike.** -/
theorem Expression.evalWith_congr : ∀ e : Expression, ctx.Agree ctx' e.operands →
    e.evalWith evaluate ctx = e.evalWith evaluate ctx'
  | .term c, h => Comparison.evalWith_congr c h
  | .chain left op right, h => by
    have hleft := Expression.evalWith_congr left h.left
    have hright := Comparison.evalWith_congr right h.right
    simp only [Expression.evalWith, hleft, hright]

theorem Comparison.evalWith_congr : ∀ c : Comparison, ctx.Agree ctx' c.operands →
    c.evalWith evaluate ctx = c.evalWith evaluate ctx'
  | .term u, h => Unary.evalWith_congr u h
  | .chain left op right, h => by
    have hleft := Comparison.evalWith_congr left h.left
    have hright := Unary.evalWith_congr right h.right
    simp only [Comparison.evalWith, hleft, hright]

theorem Unary.evalWith_congr : ∀ u : Unary, ctx.Agree ctx' u.operands →
    u.evalWith evaluate ctx = u.evalWith evaluate ctx'
  | .plain x, h => Operand.evalWith_congr x h
  | .applied op x, h => by
    have hx := Operand.evalWith_congr x h
    simp only [Unary.evalWith, hx]

theorem Operand.evalWith_congr : ∀ x : Operand, ctx.Agree ctx' x.operands →
    x.evalWith evaluate ctx = x.evalWith evaluate ctx'
  | .number _, _ | .string _, _ | .boolean _, _ | .nil, _ | .regex _, _ => rfl
  | .reference text path, h => by
    have hpath := h.lookUp text path (List.mem_singleton_self _)
    simp only [Operand.evalWith, hpath]
  | .call name arguments, h => by
    -- the call itself is the last of its operands, behind those of its arguments
    have hname := h.right.function? name arguments (List.mem_singleton_self _)
    have harguments := Operand.argumentsWith_congr arguments h.left
    simp only [Operand.evalWith, hname, harguments]
  | .group e, h => Expression.evalWith_congr e h.left

theorem Operand.argumentsWith_congr : ∀ arguments : List Expression,
    ctx.Agree ctx' (Operand.argumentOperands arguments) →
      Operand.argumentsWith evaluate ctx arguments = Operand.argumentsWith evaluate ctx' arguments
  | [], _ => rfl
  | e :: rest, h => by
    have he := Expression.evalWith_congr e h.left
    have hrest := Operand.argumentsWith_congr rest h.right
    simp only [Operand.argumentsWith, he, hrest]

end

end Tree

/-! ### Where variables enter their root -/

/-- The key under which a segment enters an object. A quoted key is looked up in the field that the
key in front of it leads to, if there is one; a position alone enters no object. -/
def Segment.entryKey? (s : Segment) : Option String :=
  match s.index with
  | none => some s.key
  | some (.key field) => some (if s.key.isEmpty then field else s.key)
  | some (.position _) => if s.key.isEmpty then none else some s.key

/-- The key under which a variable enters its root. -/
def Operand.entryKey? : Operand → Option String
  | .reference _ (s :: _) => s.entryKey?
  | _ => none

/-- The keys under which the variables of an expression enter the root. -/
def Expression.entries (e : Expression) : List String := e.operands.filterMap Operand.entryKey?

section Entries

variable {xs ys : Fields Datum}

/-- Of an object, a segment sees the field that it enters. -/
theorem Segment.resolve_object_congr {s : Segment}
    (h : ∀ key, s.entryKey? = some key → xs.get? key = ys.get? key) :
    s.resolve (.object xs) = s.resolve (.object ys) := by
  change s.fromObject xs = s.fromObject ys
  obtain ⟨key, index⟩ := s
  cases index with
  | none =>
    have hkey := h key rfl
    simp only [fromObject, field, hkey]
  | some index =>
    cases index with
    | key name =>
      cases hempty : key.isEmpty with
      | true =>
        have hname := h name (by simp [entryKey?, hempty])
        simp only [fromObject, hempty, if_true, field, hname]
      | false =>
        have hkey := h key (by simp [entryKey?, hempty])
        simp [fromObject, hempty, fieldOfField, hkey]
    | position n =>
      cases hempty : key.isEmpty with
      | true => simp [fromObject, hempty]
      | false =>
        have hkey := h key (by simp [entryKey?, hempty])
        simp [fromObject, hempty, elementOfField, hkey]

/-- Behind its first segment, a path is followed inside of what this leads to. -/
theorem Path.resolve_object_congr {s : Segment} {rest : Path}
    (h : ∀ key, s.entryKey? = some key → xs.get? key = ys.get? key) :
    Path.resolve (s :: rest) (.object xs) = Path.resolve (s :: rest) (.object ys) := by
  have hs := Segment.resolve_object_congr h
  cases rest with
  | nil => exact hs
  | cons next rest => simp only [Path.resolve, hs]

/-- Roots that hold the same under the keys that an expression enters agree on its operands, if all
of its variables have a segment to enter the root with. -/
theorem Context.agree_of_entries {tree : Expression} {functions : FunctionTable σ}
    (hroot : ∀ text, Operand.reference text [] ∉ tree.operands)
    (h : ∀ key ∈ tree.entries, xs.get? key = ys.get? key) :
    (⟨.object xs, functions⟩ : Context σ).Agree ⟨.object ys, functions⟩ tree.operands where
  lookUp text path hm := by
    cases path with
    | nil => exact absurd hm (hroot text)
    | cons s rest =>
      have hentry : ∀ key, s.entryKey? = some key → xs.get? key = ys.get? key := fun key hkey =>
        h key (List.mem_filterMap.mpr ⟨_, hm, hkey⟩)
      rw [Context.lookUp, Context.lookUp, Path.resolve_object_congr hentry]
  function? _ _ _ := rfl

end Entries

/-- **An expression depends only on the data that it names.** Of two objects that hold the same
under the keys that the variables of an expression enter the root with, one can take the place of
the other: with the same host functions and a host in the same state, the expression gives the same
value or error, makes the same calls with the same arguments and leaves the host in the same state,
whatever else the two objects hold. -/
theorem evaluation_depends_on_entered_fields {tree : Expression}
    (hroot : ∀ text, Operand.reference text [] ∉ tree.operands) {xs ys : Fields Datum}
    (h : ∀ key ∈ tree.entries, xs.get? key = ys.get? key)
    (hvalid : (Datum.object ys).validate = .ok ()) {ctx : Context σ}
    {registrations : List (String × HostFunction σ)}
    (hctx : Context.build (.object xs) registrations = .ok ctx) :
    ∃ ctx', Context.build (.object ys) registrations = .ok ctx' ∧
      ∀ depth w, tree.eval depth ctx' w = tree.eval depth ctx w := by
  obtain ⟨-, hfunctions, hdata⟩ := Context.build_eq_ok_iff.mp hctx
  refine ⟨⟨.object ys, ctx.functions⟩, ?_, fun depth w => ?_⟩
  · exact Context.build_eq_ok_iff.mpr ⟨Context.checkData_eq_ok_iff.mpr hvalid, hfunctions, rfl⟩
  · have hagree : ctx.Agree ⟨.object ys, ctx.functions⟩ tree.operands := by
      have hentries : (⟨.object xs, ctx.functions⟩ : Context σ).Agree _ _ :=
        Context.agree_of_entries hroot h
      rwa [← hdata] at hentries
    have hsame : tree.eval depth ctx = tree.eval depth ⟨.object ys, ctx.functions⟩ :=
      tree.evalWith_congr hagree
    rw [hsame]

/-- The expression `@note($["c"]) && $a.b || $d[0]`, for two roots of which one has a further field:
the host function is called as before, and what is missing is missing in both. -/
theorem evaluation_ignores_further_field :
    let note : HostFunction Nat := fun data n => (.ok (.bool (data.length == 1)), n + 1)
    let xs : Fields Datum := [("a", .object [("b", .bool false)]), ("c", .nil), ("other", .nil)]
    let ys : Fields Datum := [("a", .object [("b", .bool false)]), ("c", .nil)]
    let ctx : Context Nat := ⟨.object xs, FunctionTable.builtins.insert "@note" (.host note)⟩
    let tree : Expression := .chain (.chain
      (.term (.term (.plain (.call "@note" [.term (.term (.plain
        (.reference "[\"c\"]" [⟨"", some (.key "c")⟩])))])))) .and
      (.term (.plain (.reference "a.b" [⟨"a", none⟩, ⟨"b", none⟩])))) .or
      (.term (.plain (.reference "d[0]" [⟨"d", some (.position 0)⟩])))
    tree.entries = ["c", "a", "d"] ∧ Context.build (.object xs) [("@note", note)] = .ok ctx ∧
      ∃ ctx', Context.build (.object ys) [("@note", note)] = .ok ctx' ∧
        tree.eval 0 ctx' ⟨0, []⟩ = (.error (.error (.missingKey "d")),
          ⟨1, [⟨"@note", [.nil], .ok (.bool true)⟩]⟩) := by
  intro note xs ys ctx tree
  have hentries : tree.entries = ["c", "a", "d"] := by decide
  have hctx : Context.build (.object xs) [("@note", note)] = .ok ctx := by
    with_unfolding_all rfl
  have hroot : ∀ text, Operand.reference text [] ∉ tree.operands := by
    intro text hm
    simp [tree, Expression.operands, Comparison.operands, Unary.operands, Operand.operands,
      Operand.argumentOperands] at hm
  have hsame : ∀ key ∈ tree.entries, xs.get? key = ys.get? key := by
    intro key hm
    rw [hentries] at hm
    simp only [List.mem_cons, List.not_mem_nil, or_false] at hm
    rcases hm with rfl | rfl | rfl <;> rfl
  have heval : tree.eval 0 ctx ⟨0, []⟩ = (.error (.error (.missingKey "d")),
      ⟨1, [⟨"@note", [.nil], .ok (.bool true)⟩]⟩) := by
    with_unfolding_all rfl
  obtain ⟨ctx', hctx', hall⟩ := evaluation_depends_on_entered_fields hroot hsame rfl hctx
  exact ⟨hentries, hctx, ctx', hctx', (hall 0 ⟨0, []⟩).trans heval⟩

/-! ### Registered functions that are not called -/

/-- **Registering functions does not change the expressions that do not call them.** For a tree
that calls none of the names that functions were registered under, an evaluation gives the value or
error that it gives without host functions, and leaves the world as it is: no host function is
called. Predicates of `@select` may name what was registered all the same, since in their contexts
these names lead nowhere. -/
theorem registering_is_conservative {τ : Type} {root : Datum} {ctx : Context σ}
    {registrations : List (String × HostFunction σ)}
    (hctx : Context.build root registrations = .ok ctx) :
    ∃ plain : Context τ, Context.ofDatum root = .ok plain ∧
      (∀ tree : Expression,
        (∀ name arguments, .call name arguments ∈ tree.operands →
          name ∉ registrations.map (·.1)) →
        ∀ depth w w', tree.eval depth ctx w = ((tree.eval depth plain w').1, w)) ∧
      ∀ item (inner : Context Unit), Context.ofDatum item = .ok inner →
        ∀ name ∈ registrations.map (·.1), inner.function? name = none := by
  obtain ⟨hvalid, -, hdata⟩ := Context.build_eq_ok_iff.mp hctx
  have hplain : ∀ υ : Type, Context.ofDatum root = .ok (⟨root, .builtins⟩ : Context υ) :=
    fun υ => Context.ofDatum_eq_ok_iff.mpr ⟨hvalid, rfl⟩
  refine ⟨⟨root, .builtins⟩, hplain τ, fun tree hcalls depth w w' => ?_,
    fun item inner hinner name hm => ?_⟩
  · have hagree : ctx.Agree ⟨root, .builtins⟩ tree.operands := by
      refine ⟨fun text path _ => ?_, fun name arguments hm => ?_⟩
      · rw [Context.lookUp, hdata, Context.lookUp]
      · rw [Context.function?_of_build hctx (hcalls name arguments hm),
          Context.function?_of_ofDatum (hplain σ)]
    -- without host functions, evaluation does not depend on the world, nor on what a world may be
    calc tree.eval depth ctx w
        = tree.eval depth ⟨root, .builtins⟩ w := congrArg (· w) (tree.evalWith_congr hagree)
      _ = (evaluatePredicate (depth + 1) tree root, w) :=
        Expression.eval_apply_of_ofDatum (hplain σ) tree depth w
      _ = ((tree.eval depth ⟨root, .builtins⟩ w').1, w) := by
        rw [Expression.eval_apply_of_ofDatum (hplain τ) tree depth w']
  · rw [Context.function?_of_ofDatum hinner]
    exact Context.builtin_function?_eq_none hctx hm

/-- A predicate that calls a registered function: the name is unknown there, as it would be without
the registration, and the function is not called. -/
theorem predicate_does_not_reach_registered_function :
    let count : HostFunction Nat := fun _ n => (.ok (.bool true), n + 1)
    let root : Datum := .array [.nil]
    let tree : Expression := .term (.term (.plain (.call "@select"
      [.term (.term (.plain (.reference "" []))), .term (.term (.plain (.string "@f()")))])))
    ∃ ctx, Context.build root [("@f", count)] = .ok ctx ∧
      tree.eval 1 ctx ⟨0, []⟩ = (.error (.error (.invalidFunction (.unknown "@f"))), ⟨0, []⟩) := by
  intro count root tree
  obtain ⟨ctx, hctx⟩ : ∃ ctx, Context.build root [("@f", count)] = .ok ctx :=
    ⟨⟨root, FunctionTable.builtins.insert "@f" (.host count)⟩, by with_unfolding_all rfl⟩
  obtain ⟨plain, hplain, hsame, -⟩ := registering_is_conservative (τ := Unit) hctx
  have hcalls : ∀ name arguments, .call name arguments ∈ tree.operands →
      name ∉ [("@f", count)].map (·.1) := by
    intro name arguments hm
    simp only [tree, Expression.operands, Comparison.operands, Unary.operands, Operand.operands,
      Operand.argumentOperands, List.nil_append, List.append_nil, List.cons_append,
      List.mem_cons, List.not_mem_nil, or_false, reduceCtorEq, false_or,
      Operand.call.injEq] at hm
    rw [hm.1]
    decide
  have heval : (tree.eval 1 (⟨root, .builtins⟩ : Context Unit) ⟨(), []⟩).1 =
      .error (.error (.invalidFunction (.unknown "@f"))) := by
    with_unfolding_all rfl
  obtain ⟨-, rfl⟩ := Context.ofDatum_eq_ok_iff.mp hplain
  exact ⟨ctx, hctx, by rw [hsame tree hcalls 1 ⟨0, []⟩ ⟨(), []⟩, heval]⟩

end Criteria
