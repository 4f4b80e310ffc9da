import Criteria.Proofs.Evaluation.Openings

/-!
# What operators and builtin functions return

Operators give bools, and so do the trees that have an operator at their root
(`Criteria.Expression.HasOperator.exists_bool`).

A call of a builtin function that is not refused has arguments of one form, which depends on the
function only, and its result is then known. This is stated once for all six functions
(`Criteria.Builtin.apply_eq_ok_iff`), so that what is to be proved of results needs one case for
each function, and not one for each way in which arguments can be wrong.
-/

namespace Criteria

/-- Other words for an error do not touch success. -/
theorem mapError_eq_ok_iff {ε ε' α : Type} {r : Except ε α} {g : ε → ε'} {a : α} :
    r.mapError g = .ok a ↔ r = .ok a := by
  cases r with
  | error e => exact ⟨nofun, nofun⟩
  | ok b => exact ⟨fun h => congrArg Except.ok (Except.ok.inj h),
      fun h => congrArg Except.ok (Except.ok.inj h)⟩

/-! ### Operators give bools -/

namespace Operator

variable {op : Operator} {v w r : Value}

/-- A negation gives a bool. -/
theorem exists_bool_of_applyUnary (h : op.applyUnary v = .ok r) : ∃ b, r = .bool b := by
  simp only [applyUnary] at h
  split at h
  · split at h
    · exact ⟨_, (Except.ok.inj h).symm⟩
    · exact absurd h (by simp)
  · exact absurd h (by simp)

/-- A comparison gives a bool. -/
theorem exists_bool_of_applyComparison (h : op.applyComparison v w = .ok r) :
    ∃ b, r = .bool b := by
  rw [applyComparison] at h
  split at h
  · split at h
    · exact ⟨_, (Except.ok.inj h).symm⟩
    · exact absurd h (by simp)
  · split at h
    · split at h
      · exact ⟨_, (Except.ok.inj h).symm⟩
      · exact ⟨_, (Except.ok.inj h).symm⟩
      · exact absurd h (by simp)
    · exact absurd h (by simp)

/-- A logical operator gives a bool. -/
theorem exists_bool_of_applyLogical (h : op.applyLogical v w = .ok r) : ∃ b, r = .bool b := by
  simp only [applyLogical] at h
  split at h
  · split at h
    · exact ⟨_, (Except.ok.inj h).symm⟩
    · exact absurd h (by simp)
  · exact absurd h (by simp)

/-- What decides a logical operator is a bool. -/
theorem exists_bool_of_isDecidedBy (h : op.isDecidedBy v = true) : ∃ b, v = .bool b := by
  cases v with
  | bool b => exact ⟨b, rfl⟩
  | _ => cases op <;> exact absurd h (by simp [isDecidedBy])

end Operator

/-- A tree **has an operator at its root** if it is a chain of logical operators, or else a chain of
comparisons, or else an operand with an operator in front of it. Which operators these are is left
open, since trees made by hand may hold any of them anywhere. -/
inductive Expression.HasOperator : Expression → Prop
  | logical (left : Expression) (op : Operator) (right : Comparison) :
    HasOperator (.chain left op right)
  | comparison (left : Comparison) (op : Operator) (right : Unary) :
    HasOperator (.term (.chain left op right))
  | unary (op : Operator) (x : Operand) : HasOperator (.term (.term (.applied op x)))

namespace Expression.HasOperator

open Evaluation

variable {e : Expression} {v : Value}

/-- **A tree with an operator at its root comes to a bool or to nothing.** -/
theorem exists_bool {σ : Type} {evaluate : Expression → Datum → Except Stop Value}
    {ctx : Context σ} {w w' : World σ} (he : e.HasOperator)
    (h : e.evalWith evaluate ctx w = (.ok v, w')) : ∃ b, v = .bool b := by
  cases he with
  | logical left op right =>
    obtain ⟨l, w₁, -, h⟩ := bind_eq_ok_iff.mp h
    split at h
    · rename_i hd
      obtain ⟨b, rfl⟩ := Operator.exists_bool_of_isDecidedBy hd
      exact ⟨b, by simpa [eq_comm] using congrArg Prod.fst h⟩
    · obtain ⟨r, w₂, -, h⟩ := bind_eq_ok_iff.mp h
      exact Operator.exists_bool_of_applyLogical (ofExcept_eq_ok_iff.mp h).1
  | comparison left op right =>
    obtain ⟨l, w₁, -, h⟩ := bind_eq_ok_iff.mp h
    obtain ⟨r, w₂, -, h⟩ := bind_eq_ok_iff.mp h
    exact Operator.exists_bool_of_applyComparison (ofExcept_eq_ok_iff.mp h).1
  | unary op x =>
    obtain ⟨u, w₁, -, h⟩ := bind_eq_ok_iff.mp h
    exact Operator.exists_bool_of_applyUnary (ofExcept_eq_ok_iff.mp h).1

/-- Outcomes are evaluations, so it is the same for them. -/
theorem exists_bool_of_outcome {f : PredicateOracle} {root : Datum} (he : e.HasOperator)
    (h : e.outcome f root = .ok v) : ∃ b, v = .bool b := by
  have hcalls : CallsBuiltins (⟨root, .builtins⟩ : Context Unit) e.operands :=
    fun name _ _ => Context.function?_builtins root name
  have heval : e.evalWith f (⟨root, .builtins⟩ : Context Unit) ⟨(), []⟩ = (.ok v, ⟨(), []⟩) := by
    rw [Expression.evalWith_eq_outcome e hcalls, ofOutcome_apply, h]
  exact he.exists_bool heval

end Expression.HasOperator

/-! ### Builtin functions -/

namespace Builtin

/-- **Results of the builtin functions**, with the arguments that lead to them. -/
inductive Returns (f : PredicateOracle) : Builtin → List Datum → Datum → Prop
  | packed (arguments : List Datum) : Returns f .array arguments (.array arguments)
  | counted {items : List Datum} (h : items.length < 0x8000000000000000) :
    Returns f .len [.array items] (.integer (.ofNat items.length))
  | selected {items kept : List Datum} {source : String} {tree : Expression}
      (hp : Expression.parse source = .ok tree)
      (hk : keepItems (test f source tree) items = .ok kept) :
    Returns f .select [.array items, .string source] (.array kept)
  | member {items : List Datum} {value : Datum} {found : Bool}
      (h : containsValue value items = .ok found) :
    Returns f .member [.array items, value] (.bool found)
  | has (fields : Fields Datum) (key : String) :
    Returns f .has [.object fields, .string key] (.bool (fields.contains key))
  | found {s source : String} {p : Pattern} (h : Pattern.read source = .ok p) :
    Returns f .found [.string s, .string source] (.bool (p.isFoundIn s))

variable {f : PredicateOracle} {b : Builtin} {arguments : List Datum} {d r : Datum}

/-! ### Arguments that are not refused -/

/-- Elements are taken from an array only. -/
theorem items_eq_ok {function place : String} {d : Datum} {elements : List Datum}
    (h : items function place d = .ok elements) : d = .array elements := by
  simp only [items] at h
  split at h
  · rw [Except.ok.inj h]
  · exact absurd h (by simp)

/-- A text is taken from a string only. -/
theorem text_eq_ok {function place s : String} (h : text function place d = .ok s) :
    d = .string s := by
  cases d <;> simp_all [text, Datum.text?]

/-- Fields are taken from an object only. -/
theorem fields_eq_ok {function place : String} {fs : Fields Datum}
    (h : fields function place d = .ok fs) : d = .object fs := by
  cases d <;> simp_all [fields]

/-! ### Results -/

/-- The count of an array that is not too large for an integer. -/
theorem count_array {items : List Datum} (h : items.length < 0x8000000000000000) :
    count (.array items) = .ok (.integer (.ofNat items.length)) := by
  change (if items.length < 0x8000000000000000 then _ else _) = _
  rw [if_pos h]
  rfl

theorem returns_of_count (h : count d = .ok r) : Returns f .len [d] r := by
  obtain ⟨items, hi, hcount⟩ := exists_ok_of_bind h
  obtain rfl := items_eq_ok hi
  split at hcount
  · rename_i hlength
    rw [← Except.ok.inj hcount]
    exact .counted hlength
  · cases hcount

theorem returns_of_selection {items : List Datum} {source : String}
    (h : selection f items source = .ok r) :
    Returns f .select [.array items, .string source] r := by
  rw [selection] at h
  split at h
  · cases h
  · rename_i tree hp
    obtain ⟨kept, hk, rfl⟩ := exists_ok_of_map h
    exact .selected hp hk

theorem returns_of_search {s source : String} (h : search s source = .ok r) :
    Returns f .found [.string s, .string source] r := by
  rw [search] at h
  split at h
  · cases h
  · rename_i p hp
    rw [← Except.ok.inj h]
    exact .found hp

/-- **What a builtin function gives is what it says it returns.** -/
theorem returns_of_apply (h : b.apply f arguments = .ok r) : b.Returns f arguments r := by
  match b, arguments with
  | array, arguments =>
    rw [← Except.ok.inj h]
    exact .packed arguments
  | len, [d] => exact returns_of_count (mapError_eq_ok_iff.mp h)
  | select, [d, p] =>
    rcases select_cases d p with ⟨items, source, rfl, rfl⟩ | ⟨e, he⟩
    · exact returns_of_selection h
    · rw [(he f).1] at h
      cases h
  | member, [d, value] =>
    simp only [apply] at h
    split at h
    · cases h
    · rename_i items hi
      obtain rfl := items_eq_ok hi
      obtain ⟨found, hfound, rfl⟩ := exists_ok_of_map (mapError_eq_ok_iff.mp h)
      exact .member hfound
  | has, [d, key] =>
    simp only [apply] at h
    split at h
    · rename_i fs s hf hs
      obtain rfl := fields_eq_ok hf
      obtain rfl := text_eq_ok hs
      rw [← Except.ok.inj h]
      exact .has fs s
    · cases h
    · cases h
  | found, [d, pattern] =>
    simp only [apply] at h
    split at h
    · rename_i s source hs hp
      obtain rfl := text_eq_ok hs
      obtain rfl := text_eq_ok hp
      exact returns_of_search (mapError_eq_ok_iff.mp h)
    · cases h
    · cases h
  | len, [] | len, _ :: _ :: _ => cases h
  | select, [] | select, [_] | select, _ :: _ :: _ :: _ => cases h
  | member, [] | member, [_] | member, _ :: _ :: _ :: _ => cases h
  | has, [] | has, [_] | has, _ :: _ :: _ :: _ => cases h
  | found, [] | found, [_] | found, _ :: _ :: _ :: _ => cases h

/-- **A builtin function returns its result for arguments of its form, and for no others.** -/
theorem apply_eq_ok_iff : b.apply f arguments = .ok r ↔ b.Returns f arguments r := by
  refine ⟨returns_of_apply, fun h => ?_⟩
  cases h with
  | packed => rfl
  | counted h => exact mapError_eq_ok_iff.mpr (count_array h)
  | selected hp hk =>
    change selection f _ _ = _
    rw [selection, hp]
    simp only [hk]
    rfl
  | member h =>
    change Except.mapError _ ((containsValue _ _).map Datum.bool) = _
    rw [h]
    rfl
  | has => rfl
  | found h =>
    change Except.mapError _ (search _ _) = _
    rw [search, h]
    rfl

/-! ### Elements that are kept -/

/-- Whether a test says yes about an element. -/
def yes (test : Datum → Except Stop Bool) (item : Datum) : Bool :=
  match test item with
  | .ok b => b
  | .error _ => false

/-- A test says yes if it answers with true. -/
theorem yes_eq_true_iff {test : Datum → Except Stop Bool} :
    yes test d = true ↔ test d = .ok true := by
  rw [yes]
  cases test d <;> simp

/-- **Elements are kept** if the test says something about all of them, and then those are for which
it says yes. -/
theorem keepItems_eq_ok_iff {test : Datum → Except Stop Bool} {items kept : List Datum} :
    keepItems test items = .ok kept ↔
      (∀ item ∈ items, ∃ b, test item = .ok b) ∧ kept = items.filter (yes test) := by
  induction items generalizing kept with
  | nil => simp [keepItems, eq_comm]
  | cons item rest ih =>
    rw [keepItems_cons, List.forall_mem_cons, List.filter_cons, yes]
    cases hitem : test item with
    | error s =>
      constructor
      · intro h
        cases h
      · rintro ⟨⟨⟨b, hb⟩, -⟩, -⟩
        cases hb
    | ok keep =>
      constructor
      · intro h
        obtain ⟨keep', hkeep, h⟩ := exists_ok_of_bind h
        obtain rfl : keep = keep' := Except.ok.inj hkeep
        obtain ⟨others, hothers, h⟩ := exists_ok_of_bind h
        obtain ⟨hrest, rfl⟩ := ih.mp hothers
        exact ⟨⟨⟨keep, rfl⟩, hrest⟩, (Except.ok.inj h).symm⟩
      · rintro ⟨⟨-, hrest⟩, rfl⟩
        change (keepItems test rest >>= _) = _
        rw [ih.mpr ⟨hrest, rfl⟩]
        rfl

/-- Nothing is kept that was not there, in as many places. -/
theorem keepItems_sublist {test : Datum → Except Stop Bool} {elements kept : List Datum}
    (h : keepItems test elements = .ok kept) : kept.Sublist elements := by
  obtain ⟨-, rfl⟩ := keepItems_eq_ok_iff.mp h
  exact List.filter_sublist

/-- An element is kept if it was there and the test says yes. -/
theorem mem_keepItems_iff {test : Datum → Except Stop Bool} {items kept : List Datum}
    (h : keepItems test items = .ok kept) : d ∈ kept ↔ d ∈ items ∧ test d = .ok true := by
  obtain ⟨-, rfl⟩ := keepItems_eq_ok_iff.mp h
  rw [List.mem_filter, yes_eq_true_iff]

/-- A test says what the predicate comes to, if that is a bool. -/
theorem test_eq_ok_iff {source : String} {tree : Expression} {b : Bool} :
    test f source tree d = .ok b ↔ f tree d = .ok (.bool b) := by
  rw [test]
  cases f tree d with
  | error s => simp
  | ok v => cases v <;> simp [verdict, mapError_eq_ok_iff]

end Builtin

end Criteria
