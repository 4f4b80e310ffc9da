import Criteria.Proofs.Evaluation.Selection
import Criteria.Proofs.Grammar.Composition
import Mathlib

/-!
# Filters fuse

Selecting by one predicate, and then by another one from what is left, asks the second predicate
only about elements for which the first one is true. So does selecting once by both of them, `(p) &&
(q)`: the short circuit leaves `q` out where `p` is false, and what is not a bool is an error in
either place. **The conjunction says about an element what the two predicates say one after the
other** (`Criteria.Builtin.joins_test`).

The two ways go through the array in different orders: the first one has asked `p` about all
elements before it asks `q` about one. They may therefore stop for different errors, and one of them
may go on without end where the other has stopped for an error. But at every depth the one way
gives an array exactly if the other one does, and then it is the same array; so if both of them come
to an end, they agree (`Criteria.filters_fuse`).
-/

namespace Criteria

/-! ### Predicates that are joined -/

/-- A chain of two expressions in parentheses is evaluated for an element by evaluating the two. -/
theorem evaluatePredicate_joined (depth : Nat) (a : Expression) (op : Operator) (b : Expression)
    (item : Datum) :
    evaluatePredicate depth (a.joined op b) item =
      evaluatePredicate depth a item >>= fun v =>
        if op.isDecidedBy v then pure v
        else evaluatePredicate depth b item >>= fun w => (op.applyLogical v w).mapError .error := by
  cases depth with
  | zero => rfl
  | succ depth =>
    have hanswer : ∀ e : Expression, evaluatePredicate (depth + 1) e item =
        Opening.outcome (evaluatePredicate depth) ⟨e, item⟩ :=
      fun e => Opening.answer_evaluatePredicate_succ ⟨e, item⟩ depth
    simp only [hanswer, Opening.outcome]
    -- an element that cannot be a root is an error for all three
    cases Context.checkData item with
    | error e => rfl
    | ok _ => rfl

namespace Builtin

/-- A test **joins** two others if it says what the second one says about the elements for which the
first one says yes, and no about those for which it says no. -/
def Joins (both first second : Datum → Except Stop Bool) : Prop :=
  ∀ item b, both item = .ok b ↔
    first item = .ok false ∧ b = false ∨ first item = .ok true ∧ second item = .ok b

/-- **A conjunction joins its two sides**, whatever texts the messages name. -/
theorem joins_test (depth : Nat) (a b : Expression) (source p q : String) :
    Joins (test (evaluatePredicate depth) source (a.joined .and b))
      (test (evaluatePredicate depth) p a) (test (evaluatePredicate depth) q b) := by
  intro item answer
  rw [test, test, test, evaluatePredicate_joined]
  cases evaluatePredicate depth a item with
  | error s => simp [bind, Except.bind]
  | ok v =>
    cases v with
    | bool left =>
      cases left with
      | false =>
        -- the second side is left out
        change Except.ok false = Except.ok answer ↔ _
        simp [verdict, Except.mapError, eq_comm]
      | true =>
        cases evaluatePredicate depth b item with
        | error s => simp [bind, Except.bind, Operator.isDecidedBy, verdict, Except.mapError]
        | ok w => cases w <;> simp [bind, Except.bind, Operator.isDecidedBy, verdict,
            Except.mapError, Operator.applyLogical, Operator.isLogical]
    | _ =>
      -- no bool on the left: an error, at the latest behind the right side
      cases evaluatePredicate depth b item <;>
        simp [bind, Except.bind, Operator.isDecidedBy, verdict, Except.mapError,
          Operator.applyLogical, Operator.isLogical]

section Joins

variable {both first second : Datum → Except Stop Bool}

/-- A joined test answers if the first one does, and the second one where the first says yes. -/
theorem Joins.exists_ok_iff (h : Joins both first second) {item : Datum} :
    (∃ b, both item = .ok b) ↔
      (∃ b, first item = .ok b) ∧ (yes first item = true → ∃ b, second item = .ok b) := by
  constructor
  · rintro ⟨b, hb⟩
    rcases (h item b).mp hb with ⟨hno, -⟩ | ⟨hyes, hsecond⟩
    · exact ⟨⟨false, hno⟩, fun hy => by rw [yes, hno] at hy; cases hy⟩
    · exact ⟨⟨true, hyes⟩, fun _ => ⟨b, hsecond⟩⟩
  · rintro ⟨⟨b, hb⟩, hsecond⟩
    cases b with
    | false => exact ⟨false, (h item false).mpr (.inl ⟨hb, rfl⟩)⟩
    | true =>
      obtain ⟨c, hc⟩ := hsecond (yes_eq_true_iff.mpr hb)
      exact ⟨c, (h item c).mpr (.inr ⟨hb, hc⟩)⟩

/-- A joined test says yes where both do. -/
theorem Joins.yes_eq (h : Joins both first second) (item : Datum) :
    yes both item = (yes second item && yes first item) := by
  rw [Bool.eq_iff_iff, Bool.and_eq_true, yes_eq_true_iff, yes_eq_true_iff, yes_eq_true_iff,
    h item true]
  simp [and_comm]

/-- **Keeping elements by two tests in turn is keeping them by the test that joins the two.** -/
theorem Joins.keepItems_bind_eq_ok_iff (h : Joins both first second) {items kept : List Datum} :
    (keepItems first items >>= keepItems second) = .ok kept ↔ keepItems both items = .ok kept := by
  have hfilter : (items.filter (yes first)).filter (yes second) = items.filter (yes both) := by
    rw [List.filter_filter]
    exact List.filter_congr fun item _ => (h.yes_eq item).symm
  have hall : (∀ item ∈ items, ∃ b, both item = .ok b) ↔ (∀ item ∈ items, ∃ b, first item = .ok b) ∧
      ∀ item ∈ items.filter (yes first), ∃ b, second item = .ok b := by
    simp only [h.exists_ok_iff, List.mem_filter, and_imp, forall_and]
  rw [keepItems_eq_ok_iff, hall, ← hfilter]
  constructor
  · intro hkept
    obtain ⟨left, hleft, hright⟩ := exists_ok_of_bind hkept
    obtain ⟨hfirst, rfl⟩ := keepItems_eq_ok_iff.mp hleft
    obtain ⟨hsecond, rfl⟩ := keepItems_eq_ok_iff.mp hright
    exact ⟨⟨hfirst, hsecond⟩, rfl⟩
  · rintro ⟨⟨hfirst, hsecond⟩, rfl⟩
    rw [keepItems_eq_ok_iff.mpr ⟨hfirst, rfl⟩]
    exact keepItems_eq_ok_iff.mpr ⟨hsecond, rfl⟩

end Joins

/-! ### Selecting twice -/

/-- Selects by one text, and then by another one from what was selected. -/
def selectTwice (depth : Nat) (items : List Datum) (p q : String) : Except Stop Datum :=
  run depth .select [.array items, .string p] >>= fun selected =>
    run depth .select [selected, .string q]

section SelectTwice

variable {items : List Datum} {p q : String} {a b : Expression}

/-- The function `@select` keeps the elements for which its predicate says yes. -/
theorem run_select (hp : Expression.parse p = .ok a) (depth : Nat) (items : List Datum) :
    run depth .select [.array items, .string p] =
      (keepItems (test (evaluatePredicate depth) p a) items).map .array :=
  selection_of_parse hp _ items

/-- Two filters in turn keep first what the one predicate keeps, and of this what the other
keeps. -/
theorem selectTwice_eq (hp : Expression.parse p = .ok a) (hq : Expression.parse q = .ok b)
    (depth : Nat) (items : List Datum) :
    selectTwice depth items p q =
      (keepItems (test (evaluatePredicate depth) p a) items >>=
        keepItems (test (evaluatePredicate depth) q b)).map .array := by
  rw [selectTwice, run_select hp]
  cases keepItems (test (evaluatePredicate depth) p a) items with
  | error s => rfl
  | ok kept => exact run_select hq depth kept

/-- What is selected is an array. -/
theorem exists_array_of_selectTwice (hp : Expression.parse p = .ok a)
    (hq : Expression.parse q = .ok b) {depth : Nat} {d : Datum}
    (h : selectTwice depth items p q = .ok d) : ∃ kept, d = .array kept := by
  rw [selectTwice_eq hp hq] at h
  obtain ⟨kept, -, rfl⟩ := exists_ok_of_map h
  exact ⟨kept, rfl⟩

/-- More depth changes nothing where selecting twice has come to an end. -/
theorem selectTwice_eq_of_le {depth depth' : Nat} (h : depth ≤ depth')
    (hr : selectTwice depth items p q ≠ .error .exhausted) :
    selectTwice depth' items p q = selectTwice depth items p q := by
  have hfirst : run depth .select [.array items, .string p] ≠ .error .exhausted := by
    intro he
    rw [selectTwice, he] at hr
    exact hr rfl
  rw [selectTwice, run_eq_of_le h hfirst, selectTwice]
  rw [selectTwice] at hr
  cases hselected : run depth .select [.array items, .string p] with
  | error s => rfl
  | ok selected =>
    have hsecond : run depth .select [selected, .string q] ≠ .error .exhausted := by
      rwa [hselected] at hr
    exact run_eq_of_le h hsecond

/-- **Selecting twice gives an array exactly if selecting once by a conjunction gives it.** -/
theorem selectTwice_eq_ok_iff {both : String} (hp : Expression.parse p = .ok a)
    (hq : Expression.parse q = .ok b) (hboth : Expression.parse both = .ok (a.joined .and b))
    {depth : Nat} {d : Datum} :
    selectTwice depth items p q = .ok d ↔
      run depth .select [.array items, .string both] = .ok d := by
  have hjoins := joins_test depth a b both p q
  rw [selectTwice_eq hp hq, run_select hboth]
  constructor
  · intro h
    obtain ⟨kept, hkept, rfl⟩ := exists_ok_of_map h
    rw [hjoins.keepItems_bind_eq_ok_iff.mp hkept]
    rfl
  · intro h
    obtain ⟨kept, hkept, rfl⟩ := exists_ok_of_map h
    rw [hjoins.keepItems_bind_eq_ok_iff.mpr hkept]
    rfl

end SelectTwice

end Builtin

/-! ### Filters fuse -/

/-- What stops for another reason than the depth stops with an error. -/
theorem Stop.exists_error {s : Stop} (h : s ≠ .exhausted) : ∃ e, s = .error e := by
  cases s with
  | error e => exact ⟨e, rfl⟩
  | exhausted => exact absurd rfl h

/-- Two texts in parentheses with `&&` between them are read as the conjunction of what they are
read as. -/
theorem parse_conjunction {p q : String} {a b : Expression} (hp : Expression.parse p = .ok a)
    (hna : a.nesting ≤ 63) (hq : Expression.parse q = .ok b) (hnb : b.nesting ≤ 63) :
    Expression.parse ("(" ++ p ++ ") && (" ++ q ++ ")") = .ok (a.joined .and b) := by
  have htext : comparisonText p .and q = "(" ++ p ++ ") && (" ++ q ++ ")" := by
    simp [comparisonText, Operator.symbol, String.append_assoc]
  rw [← htext]
  exact parse_joinedText rfl hp hna hq hnb

open Builtin in
/-- **Filters fuse.** Selecting by a text and then by another one gives an array exactly if
selecting by both texts in parentheses, with `&&` between them, gives this array, at every depth. At
any two depths at which both ways come to an end, they give the same array or stop for an error
each. -/
theorem filters_fuse {p q : String} {a b : Expression} (hp : parse p = .ok a)
    (hq : parse q = .ok b) (hna : a.nesting ≤ 63) (hnb : b.nesting ≤ 63) (items : List Datum) :
    let once := fun depth =>
      Builtin.run depth .select [.array items, .string ("(" ++ p ++ ") && (" ++ q ++ ")")]
    (∀ depth d, selectTwice depth items p q = .ok d ↔ once depth = .ok d) ∧
      ∀ depth depth', selectTwice depth items p q ≠ .error .exhausted →
        once depth' ≠ .error .exhausted →
          (∃ kept, selectTwice depth items p q = .ok (.array kept) ∧
            once depth' = .ok (.array kept)) ∨
          ∃ e e', selectTwice depth items p q = .error (.error e) ∧
            once depth' = .error (.error e') := by
  intro once
  rw [parse_eq_ok_iff_parse] at hp hq
  have hsame : ∀ depth d, selectTwice depth items p q = .ok d ↔ once depth = .ok d :=
    fun _ _ => selectTwice_eq_ok_iff hp hq (parse_conjunction hp hna hq hnb)
  refine ⟨hsame, fun depth depth' htwice honce => ?_⟩
  -- at the greater one of the two depths both give what they give at their own
  have htwice' := selectTwice_eq_of_le (Nat.le_max_left depth depth') htwice
  have honce' : once (max depth depth') = once depth' :=
    run_eq_of_le (Nat.le_max_right depth depth') honce
  rw [← htwice'] at htwice ⊢
  rw [← honce'] at honce ⊢
  cases htwice'' : selectTwice (max depth depth') items p q with
  | ok d =>
    obtain ⟨kept, rfl⟩ := exists_array_of_selectTwice hp hq htwice''
    exact .inl ⟨kept, rfl, (hsame _ _).mp htwice''⟩
  | error s =>
    cases honce'' : once (max depth depth') with
    | ok d =>
      rw [(hsame _ d).mpr honce''] at htwice''
      cases htwice''
    | error s' =>
      rw [htwice''] at htwice
      rw [honce''] at honce
      obtain ⟨e, rfl⟩ := Stop.exists_error fun h => htwice (congrArg _ h)
      obtain ⟨e', rfl⟩ := Stop.exists_error fun h => honce (congrArg _ h)
      exact .inr ⟨e, e', rfl, rfl⟩

/-- The expression `$ != nil`. -/
def notNilTree : Expression :=
  .term (.chain (.term (.plain (.reference "" []))) .notEqual (.plain .nil))

/-- The expression `!$`. -/
def notRootTree : Expression := .term (.term (.applied .not (.reference "" [])))

set_option maxRecDepth 2000 in
theorem parse_notRootTree : parse "!$" = .ok notRootTree := by
  cbv

/-- The first filter takes out an element for which the second one would be an error. -/
theorem filters_fuse_around_nil :
    let items : List Datum := [.nil, .bool true, .bool false]
    parse "$ != nil" = .ok notNilTree ∧ parse "!$" = .ok notRootTree ∧
      Builtin.selectTwice 1 items "$ != nil" "!$" = .ok (.array [.bool false]) ∧
      Builtin.run 1 .select [.array items, .string "($ != nil) && (!$)"] =
        .ok (.array [.bool false]) := by
  intro items
  have hp : parse "$ != nil" = .ok notNilTree := by cbv
  have hq := parse_notRootTree
  have htwice : Builtin.selectTwice 1 items "$ != nil" "!$" = .ok (.array [.bool false]) := by
    rw [Builtin.selectTwice_eq (parse_eq_ok_iff_parse.mp hp) (parse_eq_ok_iff_parse.mp hq)]
    rfl
  have htext : "(" ++ "$ != nil" ++ ") && (" ++ "!$" ++ ")" = "($ != nil) && (!$)" := by decide
  obtain ⟨hsame, -⟩ := filters_fuse hp hq (by decide) (by decide) items
  rw [htext] at hsame
  exact ⟨hp, hq, htwice, (hsame 1 _).mp htwice⟩

end Criteria
