import Criteria.Proofs.Evaluation.Filtering
import Criteria.Proofs.Grammar.Composition
import Criteria.Proofs.Grammar.Exact

/-!
# Arguments in turn

The arguments of a call are evaluated from left to right, each in the world that the one before has
left. Either **they come to values in turn** (`Criteria.ComeInTurn`), or one of them stops, those
before it have come to values, and those behind it are left alone (`Criteria.StopInTurn`). What the
function is given is the data of the values
(`Criteria.Operand.argumentsWith_eq_ok_iff`, `Criteria.Operand.argumentsWith_eq_error_iff`).

An array packs whatever it is given, so `@len(@array(…))` counts its arguments and says nothing
about their values. **The count is exact and it is all that can be seen of the arguments**, unless
one of them stops (`Criteria.packed_arguments_are_counted`).
-/

namespace Criteria

open Evaluation

variable {σ : Type}

/-! ### Expressions one behind the other -/

/-- **Expressions come to values in turn**: each of them is evaluated in the world that the one
before has left. -/
inductive ComeInTurn (evaluate : Expression → Datum → Except Stop Value) (ctx : Context σ) :
    World σ → List Expression → List Value → World σ → Prop
  | nil (w : World σ) : ComeInTurn evaluate ctx w [] [] w
  | cons {e : Expression} {rest : List Expression} {v : Value} {values : List Value}
      {w w' w'' : World σ} (first : e.evalWith evaluate ctx w = (.ok v, w'))
      (others : ComeInTurn evaluate ctx w' rest values w'') :
      ComeInTurn evaluate ctx w (e :: rest) (v :: values) w''

/-- **Expressions stop in turn**: those before one of them come to values, and this one stops. The
world stays as it leaves it, so what is behind it is not evaluated. -/
def StopInTurn (evaluate : Expression → Datum → Except Stop Value) (ctx : Context σ) (w : World σ)
    (expressions : List Expression) (s : Stop) (w' : World σ) : Prop :=
  ∃ before e after values v, expressions = before ++ e :: after ∧
    ComeInTurn evaluate ctx w before values v ∧ e.evalWith evaluate ctx v = (.error s, w')

section Turn

variable {evaluate : Expression → Datum → Except Stop Value} {ctx : Context σ} {w w' : World σ}
  {expressions : List Expression} {values : List Value} {s : Stop}

/-- There is one value for each expression. -/
theorem ComeInTurn.length_eq (h : ComeInTurn evaluate ctx w expressions values w') :
    values.length = expressions.length := by
  induction h with
  | nil => rfl
  | cons _ _ ih => rw [List.length_cons, ih, List.length_cons]

/-- The first of some expressions comes to a value, or nothing does. -/
theorem comeInTurn_cons_iff {e : Expression} :
    ComeInTurn evaluate ctx w (e :: expressions) values w' ↔
      ∃ v others u, values = v :: others ∧ e.evalWith evaluate ctx w = (.ok v, u) ∧
        ComeInTurn evaluate ctx u expressions others w' := by
  constructor
  · intro h
    cases h with
    | cons first rest => exact ⟨_, _, _, rfl, first, rest⟩
  · rintro ⟨v, others, u, rfl, first, rest⟩
    exact .cons first rest

/-- The first of some expressions stops, or it comes to a value and one behind it stops. -/
theorem stopInTurn_cons_iff {e : Expression} :
    StopInTurn evaluate ctx w (e :: expressions) s w' ↔
      e.evalWith evaluate ctx w = (.error s, w') ∨
        ∃ v u, e.evalWith evaluate ctx w = (.ok v, u) ∧
          StopInTurn evaluate ctx u expressions s w' := by
  constructor
  · rintro ⟨before, x, after, values, u, hsplit, hbefore, hx⟩
    cases hbefore with
    | nil =>
      obtain ⟨rfl, -⟩ := List.cons.inj hsplit
      exact .inl hx
    | cons first others =>
      obtain ⟨rfl, hrest⟩ := List.cons.inj hsplit
      exact .inr ⟨_, _, first, _, x, after, _, u, hrest, others, hx⟩
  · rintro (he | ⟨v, u, first, before, x, after, values, u', rfl, hbefore, hx⟩)
    · exact ⟨[], e, expressions, [], w, rfl, .nil w, he⟩
    · exact ⟨e :: before, x, after, v :: values, u', rfl, .cons first hbefore, hx⟩

/-- **Arguments are the data of the values to which they come in turn.** -/
theorem Operand.argumentsWith_eq_ok_iff {arguments : List Expression} {data : List Datum} :
    Operand.argumentsWith evaluate ctx arguments w = (.ok data, w') ↔
      ∃ values, ComeInTurn evaluate ctx w arguments values w' ∧
        data = values.map Value.toDatum := by
  induction arguments generalizing w data with
  | nil =>
    constructor
    · intro h
      cases h
      exact ⟨[], .nil _, rfl⟩
    · rintro ⟨values, h, rfl⟩
      cases h
      rfl
  | cons e rest ih =>
    rw [Operand.argumentsWith, bind_eq_ok_iff]
    constructor
    · rintro ⟨v, u, first, h⟩
      obtain ⟨ds, u', hrest, hdata⟩ := bind_eq_ok_iff.mp h
      cases hdata
      obtain ⟨values, others, rfl⟩ := ih.mp hrest
      exact ⟨v :: values, .cons first others, rfl⟩
    · rintro ⟨values, h, rfl⟩
      obtain ⟨v, others, u, rfl, first, hrest⟩ := comeInTurn_cons_iff.mp h
      exact ⟨v, u, first, bind_eq_ok_iff.mpr ⟨_, _, ih.mpr ⟨others, hrest, rfl⟩, rfl⟩⟩

/-- **Arguments stop where the first of them stops.** -/
theorem Operand.argumentsWith_eq_error_iff {arguments : List Expression} :
    Operand.argumentsWith evaluate ctx arguments w = (.error s, w') ↔
      StopInTurn evaluate ctx w arguments s w' := by
  induction arguments generalizing w with
  | nil =>
    constructor
    · nofun
    · rintro ⟨before, e, after, values, u, hsplit, -⟩
      exact absurd hsplit (by simp)
  | cons e rest ih =>
    rw [Operand.argumentsWith, bind_eq_error_iff, stopInTurn_cons_iff]
    refine or_congr_right (exists_congr fun v => exists_congr fun u => and_congr_right fun _ => ?_)
    rw [bind_eq_error_iff, ih]
    simp

/-- Some expressions come to values in turn, or they stop. -/
theorem comeInTurn_or_stopInTurn (evaluate : Expression → Datum → Except Stop Value)
    (ctx : Context σ) (w : World σ) (expressions : List Expression) :
    (∃ values w', ComeInTurn evaluate ctx w expressions values w') ∨
      ∃ s w', StopInTurn evaluate ctx w expressions s w' := by
  rcases h : Operand.argumentsWith evaluate ctx expressions w with ⟨s | data, w'⟩
  · exact .inr ⟨s, w', Operand.argumentsWith_eq_error_iff.mp h⟩
  · obtain ⟨values, hvalues, -⟩ := Operand.argumentsWith_eq_ok_iff.mp h
    exact .inl ⟨values, w', hvalues⟩

/-- A function is not called if its arguments stop. -/
theorem Operand.evalWith_call_of_stopInTurn {name : String} {f : Function σ}
    {arguments : List Expression} (hf : ctx.function? name = some f)
    (h : StopInTurn evaluate ctx w arguments s w') :
    (Operand.call name arguments).evalWith evaluate ctx w = (.error s, w') := by
  simp only [Operand.evalWith, hf]
  exact bind_of_error (Operand.argumentsWith_eq_error_iff.mpr h)

end Turn

/-! ### Arguments that are packed and counted -/

/-- The text that counts some texts, packed into an array. -/
def packedCountText (texts : List String) : String :=
  "@len(@array(" ++ ",".intercalate texts ++ "))"

/-- The expression that packs others into an array. -/
def Expression.packed (arguments : List Expression) : Expression :=
  .lone (.call "@array" arguments)

/-- The expression that counts others, packed into an array. -/
def Expression.packedCount (arguments : List Expression) : Expression :=
  .lone (.call "@len" [.packed arguments])

/-- A list of arguments is nested no deeper than its deepest text. -/
theorem Operand.argumentNesting_le {texts : List String} {arguments : List Expression} {n : Nat}
    (h : List.Forall₂ (fun t e => parse t = .ok e ∧ e.nesting ≤ n) texts arguments) :
    Operand.argumentNesting arguments ≤ n := by
  induction h with
  | nil => exact Nat.zero_le n
  | cons ht _ ih => exact max_le ht.2 ih

/-- **Counting texts is written with the texts.** The two calls around them take up two levels of
the nesting. -/
theorem parse_packedCountText {texts : List String} {arguments : List Expression}
    (h : List.Forall₂ (fun t e => parse t = .ok e ∧ e.nesting ≤ 62) texts arguments) :
    parse (packedCountText texts) = .ok (.packedCount arguments) := by
  have harguments : AreArguments texts arguments :=
    h.imp fun t e ht => ⟨parse_eq_ok_iff_parse.mp ht.1, by omega⟩
  have harray : isFunctionName "@array" = true := by decide
  have hlen : isFunctionName "@len" = true := by decide
  have hpacked := parse_call harray harguments
  have hnesting : (Expression.packed arguments).nesting ≤ 63 :=
    Nat.succ_le_succ (Operand.argumentNesting_le h)
  have hcount := parse_call hlen (.cons ⟨hpacked, hnesting⟩ .nil)
  have htext : packedCountText texts =
      "@len" ++ "(" ++ ",".intercalate ["@array" ++ "(" ++ ",".intercalate texts ++ ")"] ++
        ")" := by
    simp [packedCountText, ← String.toList_inj]
  rw [parse_eq_ok_iff_parse, htext]
  exact hcount

section Packed

variable {root : Datum} {registrations : List (String × HostFunction σ)} {ctx : Context σ}
  {arguments : List Expression} {values : List Value} {depth : Nat} {w w' : World σ} {s : Stop}

/-- What is packed is there as it came. -/
theorem eval_packed_of_comeInTurn (hctx : Context.build root registrations = .ok ctx)
    (h : ComeInTurn (evaluatePredicate depth) ctx w arguments values w') :
    (Expression.packed arguments).eval depth ctx w = (.ok (.array values), w') := by
  have harguments := Operand.argumentsWith_eq_ok_iff.mpr ⟨values, h, rfl⟩
  have harray : ctx.function? "@array" = some (.builtin .array) :=
    Context.function?_name_of_build hctx .array
  have hvalue : Value.ofDatum (.array (values.map Value.toDatum)) = .array values := by
    rw [← Value.toItems_eq_map]
    exact Value.ofDatum_toDatum (.array values)
  rw [← hvalue]
  exact Operand.evalWith_call_of_builtin harray harguments

/-- The length of an array is an integer within the range of counts. -/
theorem run_len_array {items : List Datum} (h : items.length ≤ 0x7fffffffffffffff) :
    (Builtin.run depth .len [.array items]).map Value.ofDatum =
      .ok (.number (.ofInt items.length)) := by
  have hlength : items.length < 0x8000000000000000 := Nat.lt_succ_of_le h
  have hcount : Builtin.run depth .len [.array items] = .ok (.integer (.ofNat items.length)) :=
    mapError_eq_ok_iff.mpr (Builtin.count_array hlength)
  rw [hcount]
  change Except.ok (Value.number (.ofInt (Int64.ofNat items.length).toInt)) = _
  rw [Int64.toInt_ofNat_of_lt hlength]

/-- **Values are counted**, whatever they are. -/
theorem eval_packedCount_of_comeInTurn (hctx : Context.build root registrations = .ok ctx)
    (hlength : arguments.length ≤ 0x7fffffffffffffff)
    (h : ComeInTurn (evaluatePredicate depth) ctx w arguments values w') :
    (Expression.packedCount arguments).eval depth ctx w =
      (.ok (.number (.ofInt arguments.length)), w') := by
  have hlen : ctx.function? "@len" = some (.builtin .len) :=
    Context.function?_name_of_build hctx .len
  have hpacked : Operand.argumentsWith (evaluatePredicate depth) ctx [.packed arguments] w =
      (.ok [.array (Value.toItems values)], w') :=
    Operand.argumentsWith_cons_of_ok (eval_packed_of_comeInTurn hctx h) rfl
  have hitems : (Value.toItems values).length = arguments.length := by
    rw [Value.toItems_eq_map, List.length_map, h.length_eq]
  rw [← hitems] at hlength ⊢
  rw [← run_len_array hlength]
  exact Operand.evalWith_call_of_builtin hlen hpacked

/-- What stops among the arguments stops the count. -/
theorem eval_packedCount_of_stopInTurn (hctx : Context.build root registrations = .ok ctx)
    (h : StopInTurn (evaluatePredicate depth) ctx w arguments s w') :
    (Expression.packedCount arguments).eval depth ctx w = (.error s, w') := by
  have hpacked : (Expression.packed arguments).eval depth ctx w = (.error s, w') :=
    Operand.evalWith_call_of_stopInTurn (Context.function?_name_of_build hctx .array) h
  exact Operand.evalWith_call_of_stopInTurn (Context.function?_name_of_build hctx .len)
    (stopInTurn_cons_iff.mpr (.inl hpacked))

/-- **The count of packed arguments is their number**, and they all come to values. -/
theorem eval_packedCount_eq_ok_iff (hctx : Context.build root registrations = .ok ctx)
    (hlength : arguments.length ≤ 0x7fffffffffffffff) {v : Value} :
    (Expression.packedCount arguments).eval depth ctx w = (.ok v, w') ↔
      v = .number (.ofInt arguments.length) ∧
        ∃ values, ComeInTurn (evaluatePredicate depth) ctx w arguments values w' := by
  constructor
  · intro h
    rcases comeInTurn_or_stopInTurn (evaluatePredicate depth) ctx w arguments with
      ⟨values, u, hcome⟩ | ⟨s, u, hstop⟩
    · rw [eval_packedCount_of_comeInTurn hctx hlength hcome] at h
      cases h
      exact ⟨rfl, values, hcome⟩
    · rw [eval_packedCount_of_stopInTurn hctx hstop] at h
      cases h
  · rintro ⟨rfl, values, hcome⟩
    exact eval_packedCount_of_comeInTurn hctx hlength hcome

/-- **The count of packed arguments stops where the first of them stops.** -/
theorem eval_packedCount_eq_error_iff (hctx : Context.build root registrations = .ok ctx)
    (hlength : arguments.length ≤ 0x7fffffffffffffff) :
    (Expression.packedCount arguments).eval depth ctx w = (.error s, w') ↔
      StopInTurn (evaluatePredicate depth) ctx w arguments s w' := by
  constructor
  · intro h
    rcases comeInTurn_or_stopInTurn (evaluatePredicate depth) ctx w arguments with
      ⟨values, u, hcome⟩ | ⟨s', u, hstop⟩
    · rw [eval_packedCount_of_comeInTurn hctx hlength hcome] at h
      cases h
    · rw [eval_packedCount_of_stopInTurn hctx hstop] at h
      cases h
      exact hstop
  · exact eval_packedCount_of_stopInTurn hctx

end Packed

/-- **Counting packed arguments is exact.** Texts that can be read with two levels of the nesting to
spare are counted by the text that packs them into an array. In every context, evaluating it gives
the number of the texts if they come to values in turn, and never any other value. It stops if one
of them stops, as the first such text does, in the world that this one leaves. -/
theorem packed_arguments_are_counted {root : Datum} {registrations : List (String × HostFunction σ)}
    {ctx : Context σ} {texts : List String} {arguments : List Expression}
    (hctx : Context.build root registrations = .ok ctx)
    (htexts : List.Forall₂ (fun t e => parse t = .ok e ∧ e.nesting ≤ 62) texts arguments)
    (hlength : texts.length ≤ 0x7fffffffffffffff) :
    ∃ tree, parse (packedCountText texts) = .ok tree ∧
      ∀ depth w,
        (∀ v w', tree.eval depth ctx w = (.ok v, w') ↔
          v = .number (.ofInt texts.length) ∧
            ∃ values, ComeInTurn (evaluatePredicate depth) ctx w arguments values w') ∧
        ∀ s w', tree.eval depth ctx w = (.error s, w') ↔
          StopInTurn (evaluatePredicate depth) ctx w arguments s w' := by
  rw [htexts.length_eq] at hlength ⊢
  exact ⟨.packedCount arguments, parse_packedCountText htexts, fun depth w =>
    ⟨fun v w' => eval_packedCount_eq_ok_iff hctx hlength,
      fun s w' => eval_packedCount_eq_error_iff hctx hlength⟩⟩

/-- A function that gives an array at its first two calls and fails from the third on. Of the texts,
the second and the fourth call it. -/
theorem counting_stops_at_failing_argument :
    let turn : HostFunction Nat := fun _ n =>
      (if n < 2 then .ok (.array [.nil]) else .error (.reported .missingKey "gone"), n + 1)
    let given : Call := ⟨"@turn", [], .ok (.array [.nil])⟩
    let refused : Call := ⟨"@turn", [], .error (.reported .missingKey "gone")⟩
    ∃ ctx tree, Context.build (.object []) [("@turn", turn)] = .ok ctx ∧
      parse (packedCountText ["nil", "@turn()", "$", "@turn()"]) = .ok tree ∧
      tree.eval 0 ctx ⟨0, []⟩ = (.ok (.number (.ofInt 4)), ⟨2, [given, given]⟩) ∧
      tree.eval 0 ctx ⟨2, []⟩ =
        (.error (.error (.reported .missingKey "gone")), ⟨3, [refused]⟩) := by
  intro turn given refused
  let table : FunctionTable Nat := FunctionTable.builtins ++ [("@turn", .host turn)]
  have hctx : Context.build (.object []) [("@turn", turn)] = .ok ⟨.object [], table⟩ := by
    with_unfolding_all rfl
  have hnil : parse "nil" = .ok (.lone .nil) := by with_unfolding_all rfl
  have hroot : parse "$" = .ok (.lone (.reference "" [])) := by with_unfolding_all rfl
  have hturn : parse "@turn()" = .ok (.lone (.call "@turn" [])) := by with_unfolding_all rfl
  obtain ⟨tree, hparse, heval⟩ := packed_arguments_are_counted hctx
    (.cons ⟨hnil, by decide⟩ (.cons ⟨hturn, by decide⟩ (.cons ⟨hroot, by decide⟩
      (.cons ⟨hturn, by decide⟩ .nil)))) (by decide)
  refine ⟨_, tree, hctx, hparse, ((heval 0 _).1 _ _).mpr ⟨rfl, ?_⟩, ((heval 0 _).2 _ _).mpr ?_⟩
  · exact ⟨_, .cons rfl (.cons rfl (.cons rfl (.cons rfl (.nil _))))⟩
  · exact ⟨[.lone .nil], _, _, _, _, rfl, .cons rfl (.nil _), rfl⟩

end Criteria
