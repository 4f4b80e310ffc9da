import Criteria.Proofs.Datum.Conversion
import Criteria.Proofs.Datum.Parts
import Criteria.Proofs.Evaluation.Results
import Criteria.Proofs.Grammar.Literals

/-!
# What an evaluation can get at

Functions make no text and no object: all an evaluation with builtin functions ever holds comes from
the data and from the literals of the expression, from bools and counts, and from arrays of these
that are no longer than an argument list or an array of the data. A **universe** is a finite
collection of values that is closed in this way, also under reading its texts as predicates
(`Criteria.Universe`). Evaluation does not leave it: one case for each kind of node shows that the
results and the openings of an evaluation are of the universe that its root and its literals are of
(`Criteria.Expression.keeps_outcome`, `Criteria.Universe.holdsOpening_of_opens`).
-/

namespace Criteria

/-! ### Universes -/

/-- An operand whose literal is among some values and whose arguments are not too many. -/
def Operand.IsWithin (values : List Value) (width : Nat) : Operand → Prop
  | .number x => .number x ∈ values
  | .string s | .regex s => .string s ∈ values
  | .call _ arguments => arguments.length ≤ width
  | _ => True

/-- A finite collection of values that evaluation does not lead out of, but for arrays of at most
`width` elements. -/
structure Universe where
  values : List Value
  width : Nat
  nil_mem : .nil ∈ values
  bool_mem (b : Bool) : .bool b ∈ values
  count_mem {n : Nat} (h : n ≤ width) : Value.ofDatum (.integer (.ofNat n)) ∈ values
  length_le {items : List Value} (h : .array items ∈ values) : items.length ≤ width
  item_mem {items : List Value} (h : .array items ∈ values) : ∀ v ∈ items, v ∈ values
  field_mem {fields : List (String × Value)} (h : .object fields ∈ values) :
    ∀ field ∈ fields, field.2 ∈ values
  /-- The texts of the universe may be read as predicates. -/
  isWithin {source : String} {tree : Expression} (h : .string source ∈ values)
    (hp : Expression.parse source = .ok tree) : ∀ x ∈ tree.operands, x.IsWithin values width

namespace Universe

/-- The values that evaluation in a universe may give: those that are known, and short arrays. -/
inductive Holds (u : Universe) : Value → Prop
  | known {v : Value} (h : v ∈ u.values) : Holds u v
  | array {items : List Value} (hw : items.length ≤ u.width) (h : ∀ v ∈ items, Holds u v) :
      Holds u (.array items)

variable {u : Universe}

/-- The elements of an array that is held are held, and there are no more than the width. -/
theorem Holds.items {items : List Value} (h : u.Holds (.array items)) :
    items.length ≤ u.width ∧ ∀ v ∈ items, u.Holds v := by
  cases h with
  | known h => exact ⟨u.length_le h, fun v hv => .known (u.item_mem h v hv)⟩
  | array hw h => exact ⟨hw, h⟩

/-- What is under the keys of an object that is held is held. -/
theorem Holds.fields {fields : List (String × Value)} (h : u.Holds (.object fields)) :
    ∀ field ∈ fields, u.Holds field.2 := by
  -- the short arrays of a universe are no objects
  cases h with
  | known h => exact fun field hf => .known (u.field_mem h field hf)

/-- Parts of data that is held are held. -/
theorem Holds.of_isPartOf {c d : Datum} (h : c.IsPartOf d) (hd : u.Holds (.ofDatum d)) :
    u.Holds (.ofDatum c) := by
  induction h with
  | refl => exact hd
  | item hm _ ih =>
    rw [Value.ofDatum, Value.ofItems_eq_map] at hd
    exact ih (hd.items.2 _ (List.mem_map_of_mem hm))
  | field hm _ ih =>
    rw [Value.ofDatum, Value.ofFields_eq_map] at hd
    exact ih (hd.fields _ (List.mem_map_of_mem hm))

/-- An array of held data is held if it is not longer than the width. -/
theorem holds_ofDatum_array {items : List Datum} (hw : items.length ≤ u.width)
    (h : ∀ d ∈ items, u.Holds (.ofDatum d)) : u.Holds (.ofDatum (.array items)) := by
  rw [Value.ofDatum, Value.ofItems_eq_map]
  refine .array (by rwa [List.length_map]) fun v hv => ?_
  obtain ⟨d, hd, rfl⟩ := List.mem_map.mp hv
  exact h d hd

theorem holds_bool (b : Bool) : u.Holds (.bool b) := .known (u.bool_mem b)

/-- Data that was made from a value of a universe. -/
def HoldsData (u : Universe) (d : Datum) : Prop := ∃ v, u.Holds v ∧ d = v.toDatum

/-- Data of a universe is held as a value. -/
theorem HoldsData.ofDatum {d : Datum} (h : u.HoldsData d) : u.Holds (.ofDatum d) := by
  obtain ⟨v, hv, rfl⟩ := h
  rwa [Value.ofDatum_toDatum]

/-- The elements of an array of a universe are of the universe. -/
theorem HoldsData.items {items : List Datum} (h : u.HoldsData (.array items)) :
    items.length ≤ u.width ∧ ∀ d ∈ items, u.HoldsData d := by
  obtain ⟨v, hv, hd⟩ := h
  cases v with
  | array vs =>
    rw [Value.toDatum, Value.toItems_eq_map, Datum.array.injEq] at hd
    subst hd
    refine ⟨by simpa using hv.items.1, fun d hm => ?_⟩
    obtain ⟨w, hw, rfl⟩ := List.mem_map.mp hm
    exact ⟨w, hv.items.2 w hw, rfl⟩
  | _ => exact absurd hd (by simp [Value.toDatum])

/-- An opening of a predicate that a text of the universe reads as, for an element of it. -/
structure HoldsOpening (u : Universe) (q : Opening) : Prop where
  predicate : ∃ source, .string source ∈ u.values ∧ Expression.parse source = .ok q.predicate
  item : u.HoldsData q.item

/-- An evaluation step **keeps** to a universe: its results are as they should be, and its openings
are of the universe. -/
structure Keeps {α : Type} (u : Universe) (p : α → Prop) (r : Except Stop α)
    (opened : List Opening) : Prop where
  result : ∀ a, r = .ok a → p a
  openings : ∀ q ∈ opened, u.HoldsOpening q

section Keeps

variable {α β : Type} {p : α → Prop} {p' : β → Prop}

theorem keeps_ok {a : α} (h : p a) : u.Keeps p (.ok a) [] where
  result b hb := by rwa [← Except.ok.inj hb]
  openings q hq := absurd hq (by simp)

theorem keeps_error (s : Stop) : u.Keeps p (.error s) [] where
  result b hb := absurd hb (by simp)
  openings q hq := absurd hq (by simp)

/-- A step without openings keeps to a universe if its value is as it should be. -/
theorem keeps_ofExcept {r : Except Error α} (h : ∀ a, r = .ok a → p a) :
    u.Keeps p (r.mapError Stop.error) [] := by
  cases r with
  | ok a => exact keeps_ok (h a rfl)
  | error e => exact keeps_error _

/-- Two steps in turn keep to a universe if both do. -/
theorem Keeps.bind {r : Except Stop α} {o : List Opening} {r' : α → Except Stop β}
    {o' : α → List Opening} (h : u.Keeps p r o) (h' : ∀ a, p a → u.Keeps p' (r' a) (o' a)) :
    u.Keeps p' (r >>= r') (o ++ openedAfter r o') := by
  cases r with
  | error s =>
    refine ⟨fun b hb => (by cases hb), fun q hq => ?_⟩
    exact h.openings q (by simpa [openedAfter] using hq)
  | ok a =>
    have ha := h' a (h.result a rfl)
    refine ⟨ha.result, fun q hq => ?_⟩
    rcases List.mem_append.mp hq with hq | hq
    · exact h.openings q hq
    · exact ha.openings q hq

/-- Of a second step without openings only the value has to be as it should be. -/
theorem Keeps.andThen {r : Except Stop α} {o : List Opening} {r' : α → Except Stop β}
    (h : u.Keeps p r o) (h' : ∀ a, p a → ∀ b, r' a = .ok b → p' b) : u.Keeps p' (r >>= r') o := by
  refine ⟨fun b hb => ?_, h.openings⟩
  obtain ⟨a, hr, ha⟩ := exists_ok_of_bind hb
  exact h' a (h.result a hr) b ha

/-- An operation that gives nothing but bools may follow. -/
theorem Keeps.andThenBool {r : Except Stop α} {o : List Opening} {r' : α → Except Error Value}
    (h : u.Keeps p r o) (h' : ∀ a v, r' a = .ok v → ∃ b, v = .bool b) :
    u.Keeps u.Holds (r >>= fun a => (r' a).mapError Stop.error) o := by
  refine h.andThen fun a _ v hv => ?_
  obtain ⟨b, rfl⟩ := h' a v (mapError_eq_ok_iff.mp hv)
  exact holds_bool b

end Keeps

end Universe

/-! ### Builtin functions keep to a universe -/

namespace Builtin

variable {u : Universe} {f : PredicateOracle}

/-- Only elements are tested. -/
theorem mem_of_mem_testedItems {test : Datum → Except Stop Bool} {elements : List Datum}
    {d : Datum} (h : d ∈ testedItems test elements) : d ∈ elements := by
  induction elements with
  | nil => exact h
  | cons item rest ih =>
    rw [testedItems] at h
    split at h
    · rw [List.mem_singleton.mp h]
      exact List.mem_cons_self
    · rcases List.mem_cons.mp h with rfl | h
      · exact List.mem_cons_self
      · exact List.mem_cons_of_mem _ (ih h)

/-- **A call opens what it selects from**: each opening is for an element of the array, and its
predicate is what the text reads as. -/
theorem exists_of_mem_opened {b : Builtin} {arguments : List Datum} {q : Opening}
    (h : q ∈ b.opened f arguments) : ∃ items source, arguments = [.array items, .string source] ∧
      Expression.parse source = .ok q.predicate ∧ q.item ∈ items := by
  simp only [opened] at h
  split at h
  · split at h
    · rename_i items source
      rw [selectionOpened] at h
      split at h
      · exact absurd h (by simp)
      · rename_i tree hp
        obtain ⟨d, hd, rfl⟩ := List.mem_map.mp h
        exact ⟨items, source, rfl, hp, mem_of_mem_testedItems hd⟩
    · exact absurd h (by simp)
  · exact absurd h (by simp)

/-- **Builtin functions keep to a universe** that their arguments are of. -/
theorem keeps_apply (b : Builtin) {arguments : List Datum} (hw : arguments.length ≤ u.width)
    (ha : ∀ d ∈ arguments, u.HoldsData d) :
    u.Keeps (fun d => u.Holds (.ofDatum d)) (b.apply f arguments) (b.opened f arguments) where
  result r hr := by
    cases returns_of_apply hr with
    | packed =>
      -- the one function that makes a new value: an array no longer than its argument list
      exact Universe.holds_ofDatum_array hw fun d hd => (ha d hd).ofDatum
    | counted => exact .known (u.count_mem (ha _ List.mem_cons_self).items.1)
    | selected _ hk =>
      -- the result holds no more elements than there were, and no others
      obtain ⟨hlength, hitems⟩ := (ha _ List.mem_cons_self).items
      have hsub := keepItems_sublist hk
      refine Universe.holds_ofDatum_array (Nat.le_trans hsub.length_le hlength) fun d hd => ?_
      exact (hitems d (hsub.subset hd)).ofDatum
    | member | has | found => exact Universe.holds_bool _
  openings q hq := by
    obtain ⟨items, source, rfl, hp, hitem⟩ := exists_of_mem_opened hq
    have hitems : u.HoldsData (.array items) := ha _ List.mem_cons_self
    have hsource : u.Holds (.string source) :=
      (ha _ (List.mem_cons_of_mem _ List.mem_cons_self)).ofDatum
    cases hsource with
    | known hknown => exact ⟨⟨source, hknown, hp⟩, hitems.items.2 _ hitem⟩

end Builtin

/-! ### Trees keep to a universe -/

section Tree

variable {u : Universe} {f : PredicateOracle} {root : Datum}

/-- All literals and calls among some operands are within a universe. -/
def Universe.Admits (u : Universe) (operands : List Operand) : Prop :=
  ∀ x ∈ operands, x.IsWithin u.values u.width

theorem Universe.Admits.left {xs ys : List Operand} (h : u.Admits (xs ++ ys)) : u.Admits xs :=
  fun x hx => h x (List.mem_append_left _ hx)

theorem Universe.Admits.right {xs ys : List Operand} (h : u.Admits (xs ++ ys)) : u.Admits ys :=
  fun x hx => h x (List.mem_append_right _ hx)

mutual

/-- **The evaluation of an expression keeps to a universe** that admits its operands and holds the
root. -/
theorem Expression.keeps_outcome (hroot : u.Holds (.ofDatum root)) : ∀ e : Expression,
    u.Admits e.operands → u.Keeps u.Holds (e.outcome f root) (e.opened f root)
  | .term c, h => Comparison.keeps_outcome hroot c h
  | .chain left op right, h => by
    have hleft := Expression.keeps_outcome hroot left h.left
    have hright := Comparison.keeps_outcome hroot right h.right
    refine hleft.bind fun v hv => ?_
    by_cases hd : op.isDecidedBy v = true
    · simp only [hd, if_true]
      exact Universe.keeps_ok hv
    · simp only [hd]
      exact hright.andThenBool fun _ _ => Operator.exists_bool_of_applyLogical

theorem Comparison.keeps_outcome (hroot : u.Holds (.ofDatum root)) : ∀ c : Comparison,
    u.Admits c.operands → u.Keeps u.Holds (c.outcome f root) (c.opened f root)
  | .term t, h => Unary.keeps_outcome hroot t h
  | .chain left op right, h => by
    have hleft := Comparison.keeps_outcome hroot left h.left
    have hright := Unary.keeps_outcome hroot right h.right
    refine hleft.bind fun v _ => ?_
    exact hright.andThenBool fun _ _ => Operator.exists_bool_of_applyComparison

theorem Unary.keeps_outcome (hroot : u.Holds (.ofDatum root)) : ∀ t : Unary,
    u.Admits t.operands → u.Keeps u.Holds (t.outcome f root) (t.opened f root)
  | .plain x, h => Operand.keeps_outcome hroot x h
  | .applied _ x, h =>
    (Operand.keeps_outcome hroot x h).andThenBool fun _ _ => Operator.exists_bool_of_applyUnary

theorem Operand.keeps_outcome (hroot : u.Holds (.ofDatum root)) : ∀ x : Operand,
    u.Admits x.operands → u.Keeps u.Holds (x.outcome f root) (x.opened f root)
  | .number _, h | .string _, h | .regex _, h =>
    Universe.keeps_ok (.known (h _ (List.mem_singleton_self _)))
  | .boolean b, _ => Universe.keeps_ok (Universe.holds_bool b)
  | .nil, _ => Universe.keeps_ok (.known u.nil_mem)
  | .reference _ path, _ => by
    refine Universe.keeps_ofExcept fun v hv => ?_
    obtain ⟨d, hd, rfl⟩ := exists_ok_of_map hv
    have hpart : d.IsPartOf root := Path.isPartOf_of_resolve hd
    exact hroot.of_isPartOf hpart
  | .call name arguments, h => by
    have hw : arguments.length ≤ u.width := h.right _ (List.mem_singleton_self _)
    simp only [Operand.outcome, Operand.opened]
    cases Builtin.ofName? name with
    | none => exact Universe.keeps_error _
    | some b =>
      have harguments := Operand.keeps_argumentOutcomes hroot arguments h.left
      refine harguments.bind fun data ⟨hlength, hdata⟩ => ?_
      have hcall := b.keeps_apply (f := f) (hlength ▸ hw) hdata
      refine hcall.andThen fun d hd v hv => ?_
      rw [← Except.ok.inj hv]
      exact hd
  | .group e, h => Expression.keeps_outcome hroot e h.left

theorem Operand.keeps_argumentOutcomes (hroot : u.Holds (.ofDatum root)) :
    ∀ arguments : List Expression, u.Admits (Operand.argumentOperands arguments) →
      u.Keeps (fun data => data.length = arguments.length ∧ ∀ d ∈ data, u.HoldsData d)
        (Operand.argumentOutcomes f root arguments) (Operand.argumentsOpened f root arguments)
  | [], _ => Universe.keeps_ok ⟨rfl, fun d hd => absurd hd (by simp)⟩
  | e :: rest, h => by
    have hfirst := Expression.keeps_outcome hroot e h.left
    have hothers := Operand.keeps_argumentOutcomes hroot rest h.right
    refine hfirst.bind fun v hv => hothers.andThen fun ds hds data hd => ?_
    rw [← Except.ok.inj hd]
    refine ⟨congrArg (· + 1) hds.1, fun d hm => ?_⟩
    rcases List.mem_cons.mp hm with rfl | hm
    · exact ⟨v, hv, rfl⟩
    · exact hds.2 d hm

end

/-- **Evaluation does not leave a universe**: what a predicate opens for an element of the
universe is of the universe. -/
theorem Universe.holdsOpening_of_opens {p q : Opening} (hp : u.Admits p.predicate.operands)
    (hi : u.Holds (.ofDatum p.item)) (h : p.Opens q) : u.HoldsOpening q := by
  obtain ⟨depth, hq⟩ := h
  rw [Opening.opened] at hq
  split at hq
  · exact absurd hq (by simp)
  · exact (Expression.keeps_outcome hi p.predicate hp).openings q hq

end Tree

end Criteria
