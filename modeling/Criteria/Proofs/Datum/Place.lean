import Criteria.Proofs.Datum.Validity
import Criteria.Proofs.Evaluation.Outcome
import Criteria.Proofs.Writing.RoundTrip

/-!
# Places in data

A **place** in a piece of data is given by the steps that lead to it from the root: keys of objects
and indexes of arrays (`Criteria.Place`). A variable names places by segments, and these are not
steps. A segment takes one step or two, a key with an index behind it, and it has to leave the path
at an object unless it is the last one.

All the same **every place in valid data has an address** (`Criteria.Place.path`): what stands
behind a segment is never an array, since no array is an element of an array and an index behind
a key belongs to the segment of the key. So the path resolves to what is at the place
(`Criteria.Place.resolve_path`), and the variable that is written with it evaluates to that
(`Criteria.every_place_has_an_address`).
-/

namespace Criteria

/-- A step into data. Indexes are words of the machine, as lengths are. -/
inductive Step where
  | key (name : String)
  | index (n : UInt64)
  deriving DecidableEq

/-- Where a step leads to, if there is something. -/
def Datum.step? : Datum → Step → Option Datum
  | .object fields, .key name => Fields.get? fields name
  | .array items, .index n => items[n.toNat]?
  | _, _ => none

/-- A place in data, by the steps that lead to it from the root. -/
abbrev Place := List Step

namespace Place

/-- What is at a place, if there is something. -/
def find? : Place → Datum → Option Datum
  | [], d => some d
  | s :: rest, d => (d.step? s).bind (find? rest)

/-- The address of a place: an index behind a key goes into the segment of the key, every other
step is a segment of its own. -/
def path : Place → Path
  | [] => []
  | .index n :: rest => ⟨"", some (.position n.toNat)⟩ :: path rest
  | .key name :: .index n :: rest => ⟨name, some (.position n.toNat)⟩ :: path rest
  | .key name :: rest => ⟨name, none⟩ :: path rest

example : Path.text (path [.index 2, .key "a", .key "b", .index 0, .key "c"]) = "[2].a.b[0].c" := by
  decide

/-- The keys among the steps can be written: none of them is empty, and all of their characters can
stand in a key. -/
def HasKeys (place : Place) : Prop :=
  ∀ name, .key name ∈ place → name.toList ≠ [] ∧ ∀ c ∈ name.toList, isKeyChar c = true

/-- The steps behind the first one have keys that can be written, too. -/
theorem HasKeys.tail {s : Step} {rest : Place} (h : HasKeys (s :: rest)) : HasKeys rest :=
  fun name hm => h name (List.mem_cons_of_mem _ hm)

end Place

/-! ### Steps into valid data -/

namespace Datum

variable {d e : Datum}

/-- A step to a position leads to the element there. -/
theorem step?_index_eq_some_iff {n : UInt64} :
    d.step? (.index n) = some e ↔ ∃ items, d = .array items ∧ items[n.toNat]? = some e := by
  cases d <;> simp [step?]

/-- A step to a key leads to what is under it. -/
theorem step?_key_eq_some_iff {name : String} :
    d.step? (.key name) = some e ↔
      ∃ fields, d = .object fields ∧ Fields.get? fields name = some e := by
  cases d <;> simp [step?]

/-- What a step into valid data leads to is valid. -/
theorem validate_of_step? {s : Step} (hd : d.validate = .ok ()) (h : d.step? s = some e) :
    e.validate = .ok () := by
  cases s with
  | key name =>
    obtain ⟨fields, rfl, hget⟩ := step?_key_eq_some_iff.mp h
    obtain ⟨field, hm, rfl⟩ := Fields.exists_mem_of_get? hget
    exact validate_object_eq_ok_iff.mp hd field hm
  | index n =>
    obtain ⟨items, rfl, hget⟩ := step?_index_eq_some_iff.mp h
    exact (validate_array_eq_ok_iff.mp hd e (List.mem_of_getElem? hget)).2

/-- No index leads to an array in valid data. -/
theorem isArray_of_step?_index {n : UInt64} (hd : d.validate = .ok ())
    (h : d.step? (.index n) = some e) : e.isArray = false := by
  obtain ⟨items, rfl, hget⟩ := step?_index_eq_some_iff.mp h
  exact (validate_array_eq_ok_iff.mp hd e (List.mem_of_getElem? hget)).1

end Datum

/-! ### Addresses resolve -/

namespace Segment

variable {d e f : Datum} {n : UInt64} {name : String}

/-- A position alone is a step into an array. -/
theorem resolve_of_step?_index (h : d.step? (.index n) = some e) :
    resolve ⟨"", some (.position n.toNat)⟩ d = .ok e := by
  obtain ⟨items, rfl, hget⟩ := Datum.step?_index_eq_some_iff.mp h
  simp [resolve, fromArray, element, hget]

/-- A key alone is a step into an object. -/
theorem resolve_of_step?_key (h : d.step? (.key name) = some e) :
    resolve ⟨name, none⟩ d = .ok e := by
  obtain ⟨fields, rfl, hget⟩ := Datum.step?_key_eq_some_iff.mp h
  simp [resolve, fromObject, field, hget]

/-- A key with a position behind it is both of these steps. -/
theorem resolve_of_step?_key_index (hname : name ≠ "") (h : d.step? (.key name) = some f)
    (h' : f.step? (.index n) = some e) :
    resolve ⟨name, some (.position n.toNat)⟩ d = .ok e := by
  obtain ⟨fields, rfl, hget⟩ := Datum.step?_key_eq_some_iff.mp h
  obtain ⟨items, rfl, hitem⟩ := Datum.step?_index_eq_some_iff.mp h'
  simp [resolve, fromObject, elementOfField, element, hname, hget, hitem]

end Segment

/-- Behind a segment that is the last one or leads to an object, the rest of the path goes on from
what the segment leads to. -/
theorem Path.resolve_cons {s : Segment} {rest : Path} {d e : Datum} (hs : s.resolve d = .ok e)
    (h : rest = [] ∨ e.isObject = true) : Path.resolve (s :: rest) d = Path.resolve rest e := by
  cases rest with
  | nil => exact hs
  | cons next rest =>
    have he : e.isObject = true := h.resolve_left (by simp)
    simp only [Path.resolve, hs, he, if_true]

namespace Place

variable {d e : Datum} {place : Place}

/-- Where a place goes on with a key, there is an object. -/
theorem isObject_of_find?_key {name : String} {rest : Place}
    (h : find? (.key name :: rest) d = some e) : d.isObject = true := by
  obtain ⟨next, hnext, -⟩ := Option.bind_eq_some_iff.mp h
  obtain ⟨fields, rfl, -⟩ := Datum.step?_key_eq_some_iff.mp hnext
  rfl

/-- What is not an array is the last thing on the way to a place, or an object. -/
theorem path_eq_nil_or_isObject (h : find? place d = some e)
    (hd : d.isArray = true → ∀ n rest, place ≠ .index n :: rest) :
    path place = [] ∨ d.isObject = true := by
  cases place with
  | nil => exact .inl rfl
  | cons s rest =>
    cases s with
    | key name => exact .inr (isObject_of_find?_key h)
    | index n =>
      obtain ⟨next, hnext, -⟩ := Option.bind_eq_some_iff.mp h
      obtain ⟨items, rfl, -⟩ := Datum.step?_index_eq_some_iff.mp hnext
      exact absurd rfl (hd rfl n rest)

/-- **In valid data, the address of a place resolves to what is there.** -/
theorem resolve_path (hd : d.validate = .ok ()) (hkeys : HasKeys place)
    (h : find? place d = some e) : Path.resolve (path place) d = .ok e := by
  induction place using path.induct generalizing d with
  | case1 => exact congrArg Except.ok (Option.some.inj h)
  | case2 n rest ih =>
    obtain ⟨item, hitem, hrest⟩ := Option.bind_eq_some_iff.mp h
    have hvalid := Datum.validate_of_step? hd hitem
    have harray := Datum.isArray_of_step?_index hd hitem
    have hlands := path_eq_nil_or_isObject hrest fun ht => absurd ht (by simp [harray])
    rw [path, Path.resolve_cons (Segment.resolve_of_step?_index hitem) hlands,
      ih hvalid hkeys.tail hrest]
  | case3 name n rest ih =>
    obtain ⟨field, hfield, hindex⟩ := Option.bind_eq_some_iff.mp h
    obtain ⟨item, hitem, hrest⟩ := Option.bind_eq_some_iff.mp hindex
    have hfieldValid := Datum.validate_of_step? hd hfield
    have hvalid := Datum.validate_of_step? hfieldValid hitem
    have harray := Datum.isArray_of_step?_index hfieldValid hitem
    have hlands := path_eq_nil_or_isObject hrest fun ht => absurd ht (by simp [harray])
    have hname : name ≠ "" := fun hn => (hkeys name List.mem_cons_self).1 (by rw [hn]; rfl)
    rw [path, Path.resolve_cons (Segment.resolve_of_step?_key_index hname hfield hitem) hlands,
      ih hvalid hkeys.tail.tail hrest]
  | case4 name rest hnext ih =>
    obtain ⟨field, hfield, hrest⟩ := Option.bind_eq_some_iff.mp h
    have hvalid := Datum.validate_of_step? hd hfield
    -- here the field may be an array, but then no index stands behind the key
    have hlands := path_eq_nil_or_isObject hrest fun _ n tail => hnext n tail
    rw [path, Path.resolve_cons (Segment.resolve_of_step?_key hfield) hlands,
      ih hvalid hkeys.tail hrest]
    exact hnext

/-! ### Addresses can be written -/

/-- A place whose keys can be written has a path that can be written. -/
theorem isWellFormed_path (hkeys : HasKeys place) : ∀ s ∈ path place, s.IsWellFormed := by
  induction place using path.induct with
  | case1 => intro s hs; exact absurd hs (by simp [path])
  | case2 n rest ih =>
    refine List.forall_mem_cons.mpr ⟨?_, ih hkeys.tail⟩
    exact ⟨by simp, by simp, fun m hm => by cases hm; exact n.toNat_lt, by simp⟩
  | case3 name n rest ih =>
    refine List.forall_mem_cons.mpr ⟨?_, ih hkeys.tail.tail⟩
    have hname := hkeys name List.mem_cons_self
    exact ⟨hname.2, by simp, fun m hm => by cases hm; exact n.toNat_lt, .inl hname.1⟩
  | case4 name rest hnext ih =>
    rw [path]
    · refine List.forall_mem_cons.mpr ⟨?_, ih hkeys.tail⟩
      have hname := hkeys name List.mem_cons_self
      exact ⟨hname.2, by simp, by simp, .inl hname.1⟩
    · exact hnext

end Place

/-- The variable that is written with a path, as a whole expression. -/
def Expression.ofPath (path : Path) : Expression :=
  .term (.term (.plain (.reference (Path.text path) path)))

/-- A variable with well-formed segments is read from its text: the text is one token, and the end
stands behind it. -/
theorem parse_variable {path : Path} (h : ∀ s ∈ path, s.IsWellFormed) :
    parse ("$" ++ Path.text path) = .ok (.ofPath path) := by
  have htext : (Lexer.ofText ("$" ++ Path.text path)).rest =
      [] ++ (('$' :: (Path.text path).toList) ++ []) := by
    simp [Lexer.ofText]
  obtain ⟨position, hn⟩ := Lexer.next_of_spells htext .nil (.reference (Path.text path))
    ⟨path, rfl, h⟩ .nil
  obtain ⟨last, hend⟩ := Lexer.next_of_isBlanks (l := ⟨position, []⟩) .nil
  have hfits : (Expression.ofPath path).Fits 0 :=
    ⟨trivial, Nat.zero_le _, pathsReadIn_reference.mpr (Path.read_text h)⟩
  rw [parse_eq_ok_iff_parse, Expression.parse_eq_ok_iff_gives]
  exact ⟨hfits, _, _, _, hn, .cons hend (.nil _ _)⟩

/-- **Every place in valid data has an address.** For a place whose keys can be written, the address
with a dollar sign in front of it is an expression that evaluates to what is at the place; the
address of the root is empty, so that `$` is the root. -/
theorem every_place_has_an_address {σ : Type} {root d : Datum} {place : Place}
    (hroot : root.validate = .ok ()) (hkeys : place.HasKeys) (hd : place.find? root = some d) :
    ∃ p, Prepared.ofText ("$" ++ place.path.text) = .ok p ∧
      Context.ofDatum root = .ok (⟨root, .builtins⟩ : Context σ) ∧
      ∀ (functions : FunctionTable σ) depth w,
        p.tree.eval depth ⟨root, functions⟩ w = (.ok (Value.ofDatum d), w) := by
  have hparse := parse_variable (Place.isWellFormed_path hkeys)
  refine ⟨⟨_, .ofPath place.path⟩, by rw [Prepared.ofText, hparse]; rfl,
    Context.ofDatum_eq_ok_iff.mpr ⟨Context.checkData_eq_ok_iff.mpr hroot, rfl⟩,
    fun functions depth w => ?_⟩
  have hlookUp : (⟨root, functions⟩ : Context σ).lookUp place.path = .ok (Value.ofDatum d) := by
    rw [Context.lookUp, Place.resolve_path hroot hkeys hd]
    rfl
  change Evaluation.ofExcept ((⟨root, functions⟩ : Context σ).lookUp place.path) w = _
  rw [hlookUp]
  rfl

/-- A place behind a key, an index and a key again. -/
theorem nested_place_has_an_address :
    let root : Datum := .object [("a-1", .array [.nil, .object [("b", .integer 5)]])]
    let place : Place := [.key "a-1", .index 1, .key "b"]
    root.validate = .ok () ∧ place.HasKeys ∧ place.find? root = some (.integer 5) ∧
      ∃ p, Prepared.ofText "$a-1[1].b" = .ok p ∧
        Context.ofDatum root = .ok (⟨root, .builtins⟩ : Context Unit) ∧
        ∀ (functions : FunctionTable Unit) depth w,
          p.tree.eval depth ⟨root, functions⟩ w = (.ok (.number (.ofInt 5)), w) := by
  intro root place
  have hroot : root.validate = .ok () := rfl
  have hkeys : place.HasKeys := by
    have hall : "a-1".toList.all isKeyChar = true ∧ "b".toList.all isKeyChar = true := by decide
    intro name hm
    simp only [place, List.mem_cons, List.not_mem_nil, or_false, reduceCtorEq, false_or,
      Step.key.injEq] at hm
    rcases hm with rfl | rfl
    · exact ⟨by decide, List.all_eq_true.mp hall.1⟩
    · exact ⟨by decide, List.all_eq_true.mp hall.2⟩
  have hfind : place.find? root = some (.integer 5) := rfl
  exact ⟨hroot, hkeys, hfind, every_place_has_an_address hroot hkeys hfind⟩

end Criteria
