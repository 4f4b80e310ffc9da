import Criteria.Prepared
import Criteria.Proofs.Evaluation.Results

/-!
# Selecting is filtering

`@select` reads its predicate once and evaluates it for one element after the other. A host could
do the same by evaluating the text against each element on its own, with one predicate less open
(`Criteria.evaluateDataWithin`; `Criteria.evaluateData` is this at the depth that suits the text).
**Both ways agree on every element**: they give the same bool, or they stop for the same kind of
error, whether the element cannot be a root, the evaluation stops or it gives no bool
(`Criteria.Builtin.test_agrees`). Only the wording differs if there is no bool.

So selecting is a filter by this evaluation. It stops at the first element for which the evaluation
does, and before any element if the predicate cannot be read (`Criteria.selecting_is_filtering`).
-/

namespace Criteria

/-- The kind of the error that an evaluation stopped for, if it did not run out of depth. -/
def Stop.kind? : Stop → Option ErrorKind
  | .error e => some e.kind
  | .exhausted => none

namespace Builtin

/-! ### Elements that stop the test -/

section KeepItems

variable {test : Datum → Except Stop Bool} {items : List Datum}

/-- **The first element for which the test stops** decides how keeping elements does. -/
theorem keepItems_eq_error_iff {s : Stop} :
    keepItems test items = .error s ↔
      ∃ before item after, items = before ++ item :: after ∧
        (∀ d ∈ before, ∃ b, test d = .ok b) ∧ test item = .error s := by
  induction items with
  | nil => simp [keepItems]
  | cons item rest ih =>
    rw [keepItems_cons]
    cases hitem : test item with
    | error s' =>
      constructor
      · intro h
        obtain rfl : s' = s := Except.error.inj h
        exact ⟨[], item, rest, rfl, by simp, hitem⟩
      · rintro ⟨before, d, after, hitems, hbefore, hd⟩
        cases before with
        | nil =>
          obtain ⟨rfl, -⟩ := List.cons.inj hitems
          rw [hitem] at hd
          exact congrArg Except.error (Except.error.inj hd)
        | cons e before =>
          -- the test stops for the first element, so there are none before it
          obtain ⟨rfl, -⟩ := List.cons.inj hitems
          obtain ⟨b, hb⟩ := hbefore item List.mem_cons_self
          rw [hitem] at hb
          cases hb
    | ok keep =>
      have hrest : (keepItems test rest >>= fun kept =>
          (.ok (if keep then item :: kept else kept) : Except Stop (List Datum))) = .error s ↔
            keepItems test rest = .error s := by
        cases keepItems test rest <;> simp [bind, Except.bind]
      refine hrest.trans (ih.trans ?_)
      constructor
      · rintro ⟨before, d, after, rfl, hbefore, hd⟩
        exact ⟨item :: before, d, after, rfl,
          List.forall_mem_cons.mpr ⟨⟨keep, hitem⟩, hbefore⟩, hd⟩
      · rintro ⟨before, d, after, hitems, hbefore, hd⟩
        cases before with
        | nil =>
          obtain ⟨rfl, -⟩ := List.cons.inj hitems
          rw [hitem] at hd
          cases hd
        | cons e before =>
          obtain ⟨rfl, rfl⟩ := List.cons.inj hitems
          exact ⟨before, d, after, rfl, (List.forall_mem_cons.mp hbefore).2, hd⟩

end KeepItems

/-! ### One element -/

/-- A text that can be read, evaluated against data, is its predicate for this element. -/
theorem evaluateDataWithin_eq {source : String} {tree : Expression}
    (hp : Expression.parse source = .ok tree) (depth : Nat) (item : Datum) :
    evaluateDataWithin depth item source =
      evaluatePredicate (depth + 1) tree item >>= fun v =>
        (Prepared.expectBool v).mapError Stop.error := by
  have hprepared : Prepared.ofText source = .ok ⟨source, tree⟩ := by
    rw [Prepared.ofText, parse, hp]
    rfl
  rw [evaluateDataWithin, evaluatePredicate]
  cases (Context.ofDatum item : Except Error (Context Unit)) with
  | error e => rfl
  | ok ctx =>
    simp only [evaluateWithin, hprepared, Prepared.evaluateWithin, Evaluation.bind_apply,
      Expression.eval]
    rcases tree.evalWith (evaluatePredicate depth) ctx ⟨(), []⟩ with ⟨s | v, w⟩
    · rfl
    · simp only [Evaluation.ofExcept_eq_ofOutcome, Evaluation.ofOutcome_apply]
      rfl

/-- Two tests **agree** if they say the same about every element, or stop for the same kind of
error. -/
def Agree (test test' : Datum → Except Stop Bool) : Prop :=
  ∀ item, (test item).mapError Stop.kind? = (test' item).mapError Stop.kind?

section Agree

variable {test test' : Datum → Except Stop Bool}

/-- Tests that agree give the same answers. -/
theorem Agree.ok_iff (h : Agree test test') {item : Datum} {b : Bool} :
    test item = .ok b ↔ test' item = .ok b := by
  rw [← mapError_eq_ok_iff (g := Stop.kind?), h item, mapError_eq_ok_iff]

/-- Tests that agree fail with errors of one kind. -/
theorem Agree.exists_error (h : Agree test test') {item : Datum} {s : Stop}
    (hs : test item = .error s) : ∃ s', test' item = .error s' ∧ s.kind? = s'.kind? := by
  have hitem := h item
  rw [hs] at hitem
  cases hs' : test' item with
  | error s' =>
    rw [hs'] at hitem
    exact ⟨s', rfl, Except.error.inj hitem⟩
  | ok b =>
    rw [hs'] at hitem
    cases hitem

/-- Tests that agree say yes of the same elements. -/
theorem Agree.yes_eq (h : Agree test test') : yes test = yes test' := by
  funext item
  rw [yes, yes]
  cases hitem : test item with
  | ok b => rw [h.ok_iff.mp hitem]
  | error s =>
    obtain ⟨s', hs', -⟩ := h.exists_error hitem
    rw [hs']

end Agree

/-- **Both ways agree on every element.** -/
theorem test_agrees {source : String} {tree : Expression} (hp : Expression.parse source = .ok tree)
    (depth : Nat) :
    Agree (test (evaluatePredicate (depth + 1)) source tree)
      fun item => evaluateDataWithin depth item source := by
  intro item
  change _ = (evaluateDataWithin depth item source).mapError Stop.kind?
  rw [test, evaluateDataWithin_eq hp]
  cases evaluatePredicate (depth + 1) tree item with
  | error s => rfl
  | ok v => cases v <;> rfl

/-! ### All elements -/

/-- A selection by a text that can be read is one by its tree. -/
theorem selection_of_parse {source : String} {tree : Expression}
    (hp : Expression.parse source = .ok tree) (f : PredicateOracle) (items : List Datum) :
    selection f items source = (keepItems (test f source tree) items).map .array := by
  rw [selection, hp]

end Builtin

open Builtin in
/-- **Selecting is a filter by evaluating the predicate against each element.** At any depth, with
one predicate more open than in the evaluations:

* it gives an array exactly if each of these gives a bool, and then the array of the elements for
  which it is true, as they are and in their order;
* otherwise it stops for the same kind of error as the evaluation against the first element for
  which that stops;
* a text that cannot be read is an error of the grammar, even if there is no element. -/
theorem selecting_is_filtering (depth : Nat) (items : List Datum) (source : String) :
    let selected := Builtin.run (depth + 1) .select [.array items, .string source]
    let evaluated := fun item => evaluateDataWithin depth item source
    match parse source with
    | .error e => selected = .error (.error e) ∧ e.kind = .grammar
    | .ok _ =>
      (∀ d, selected = .ok d ↔ (∀ item ∈ items, ∃ b, evaluated item = .ok b) ∧
        d = .array (items.filter (yes evaluated))) ∧
      ((¬ ∀ item ∈ items, ∃ b, evaluated item = .ok b) →
        ∃ before item after s s', items = before ++ item :: after ∧
          (∀ d ∈ before, ∃ b, evaluated d = .ok b) ∧ evaluated item = .error s ∧
            selected = .error s' ∧ s'.kind? = s.kind?) := by
  intro selected evaluated
  cases hp : Expression.parse source with
  | error e =>
    have hparse : parse source = .error (.parse e) := by
      rw [parse, hp]
      rfl
    have hselected : selected = .error (.error (.parse e)) := by
      change selection _ _ _ = _
      rw [selection, hp]
    rw [hparse]
    exact ⟨hselected, rfl⟩
  | ok tree =>
    have hparse : parse source = .ok tree := by
      rw [parse, hp]
      rfl
    have hselected : selected =
        (keepItems (test (evaluatePredicate (depth + 1)) source tree) items).map .array :=
      selection_of_parse hp _ items
    have hagree : Agree (test (evaluatePredicate (depth + 1)) source tree) evaluated :=
      test_agrees hp depth
    have hall : (∀ item ∈ items, ∃ b, test (evaluatePredicate (depth + 1)) source tree item =
        .ok b) ↔ ∀ item ∈ items, ∃ b, evaluated item = .ok b := by
      simp only [hagree.ok_iff]
    rw [hparse, hselected]
    refine ⟨fun d => ?_, fun hnot => ?_⟩
    · rw [← hall, ← hagree.yes_eq]
      constructor
      · intro h
        obtain ⟨kept, hkept, rfl⟩ := exists_ok_of_map h
        obtain ⟨hitems, rfl⟩ := keepItems_eq_ok_iff.mp hkept
        exact ⟨hitems, rfl⟩
      · rintro ⟨hitems, rfl⟩
        rw [keepItems_eq_ok_iff.mpr ⟨hitems, rfl⟩]
        rfl
    · cases hkept : keepItems (test (evaluatePredicate (depth + 1)) source tree) items with
      | ok kept => exact absurd (hall.mp (keepItems_eq_ok_iff.mp hkept).1) hnot
      | error s =>
        obtain ⟨before, item, after, hitems, hbefore, hs⟩ := keepItems_eq_error_iff.mp hkept
        obtain ⟨s', hs', hkind⟩ := hagree.exists_error hs
        refine ⟨before, item, after, s', s, hitems, fun d hd => ?_, hs', rfl, hkind⟩
        obtain ⟨b, hb⟩ := hbefore d hd
        exact ⟨b, hagree.ok_iff.mp hb⟩

end Criteria
