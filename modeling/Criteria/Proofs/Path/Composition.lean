import Criteria.Path.Resolve

/-!
# Resolving in two parts

A path is resolved by resolving its front part and then, from what this leads to, the rest; but
**only an object can be left behind** by a front part (`Criteria.Path.resolve_append`). The step
that one segment takes knows nothing of this: from a scalar it leads to the scalar itself, and from
an array to the array or to an element. So whether data of these kinds is accepted depends on the
place of the segment in the path. It is accepted by the first segment, as the root, and by the end
of the path, as the result.
-/

namespace Criteria

namespace Path

/-- **A path that is put together from two parts** is resolved by the one and then by the other,
from the object that the first one leads to. -/
theorem resolve_append {p q : Path} (hp : p ≠ []) (hq : q ≠ []) (root : Datum) :
    (p ++ q).resolve root = p.resolve root >>= fun d =>
      if d.isObject then q.resolve d
      else .error (.mismatch (.landing (p.getLast hp) d.kindName (q.head hq))) := by
  induction p generalizing root with
  | nil => exact absurd rfl hp
  | cons s rest ih =>
    cases rest with
    | nil =>
      -- the only segment of the first part, with the first one of the second part behind it
      cases q with
      | nil => exact absurd rfl hq
      | cons next q =>
        rw [List.singleton_append, resolve, resolve]
        cases s.resolve root <;> rfl
    | cons t rest =>
      have hrest := ih (List.cons_ne_nil t rest)
      rw [List.cons_append, List.cons_append, resolve, resolve, List.getLast_cons_cons]
      cases s.resolve root with
      | error e => rfl
      | ok d =>
        by_cases hd : d.isObject = true
        · simp only [hd, if_true]
          exact hrest d
        · simp only [if_neg hd]
          rfl

end Path

/-- What has fields is an object. -/
theorem Datum.isObject_eq_true_iff {d : Datum} :
    d.isObject = true ↔ ∃ fields, d = .object fields := by
  cases d <;> simp [Datum.isObject]

/-- **Path resolution composes.** A path in two parts fails where its first part does, with the same
error. From an object that the first part leads to, it goes on with the second part. From anything
else it does not go on: the error names the last segment of the first part, the kind of data that it
led to, and the first segment of the second part. So if a path of more than one segment leads
somewhere, then all of its segments but the first are followed from objects. -/
theorem path_resolution_composes {p q : Path} (hp : p ≠ []) (hq : q ≠ []) (root : Datum) :
    (∀ e, p.resolve root = .error e → (p ++ q).resolve root = .error e) ∧
      (∀ fields, p.resolve root = .ok (.object fields) →
        (p ++ q).resolve root = q.resolve (.object fields)) ∧
      (∀ d, p.resolve root = .ok d → d.isObject = false →
        (p ++ q).resolve root =
          .error (.mismatch (.landing (p.getLast hp) d.kindName (q.head hq)))) ∧
      ∀ d, (p ++ q).resolve root = .ok d →
        ∃ fields, p.resolve root = .ok (.object fields) ∧ q.resolve (.object fields) = .ok d := by
  rw [Path.resolve_append hp hq]
  refine ⟨fun e he => ?_, fun fields hfields => ?_, fun d hd hkind => ?_, fun d hd => ?_⟩
  · rw [he]
    rfl
  · rw [hfields]
    rfl
  · rw [hd]
    exact if_neg (by simp [hkind])
  · cases hfront : p.resolve root with
    | error e => rw [hfront] at hd; cases hd
    | ok f =>
      rw [hfront] at hd
      change (if f.isObject = true then _ else _) = _ at hd
      split at hd
      · rename_i hobject
        obtain ⟨fields, rfl⟩ := Datum.isObject_eq_true_iff.mp hobject
        exact ⟨fields, rfl, hd⟩
      · cases hd

/-- An array that is the root is indexed, and an array that is not is refused; behind an element
that is an object the path goes on. -/
theorem array_is_indexed_as_root_only :
    let item : Datum := .object [("b", .array [.integer 5])]
    let first : Segment := ⟨"", some (.position 0)⟩
    Path.resolve ([first] ++ [⟨"b", none⟩]) (.array [item]) = .ok (.array [.integer 5]) ∧
      Path.resolve ([first, ⟨"b", none⟩] ++ [first]) (.array [item]) =
        .error (.mismatch (.landing ⟨"b", none⟩ "array" first)) ∧
      Path.resolve ([first, ⟨"c", none⟩] ++ [first]) (.array [item]) = .error (.missingKey "c") ∧
      ∃ fields, Path.resolve [first] (.array [item]) = .ok (.object fields) := by
  intro item first
  have hfirst : Path.resolve [first] (.array [item]) = .ok item := rfl
  have hb : Path.resolve [first, ⟨"b", none⟩] (.array [item]) = .ok (.array [.integer 5]) := rfl
  have hc : Path.resolve [first, ⟨"c", none⟩] (.array [item]) = .error (.missingKey "c") := rfl
  obtain ⟨-, hobject, -, hlast⟩ := path_resolution_composes (p := [first])
    (q := [⟨"b", none⟩]) (by simp) (by simp) (.array [item])
  obtain ⟨-, -, hlanding, -⟩ := path_resolution_composes (p := [first, ⟨"b", none⟩])
    (q := [first]) (by simp) (by simp) (.array [item])
  obtain ⟨herror, -⟩ := path_resolution_composes (p := [first, ⟨"c", none⟩])
    (q := [first]) (by simp) (by simp) (.array [item])
  obtain ⟨fields, hfields, -⟩ := hlast _ hb
  exact ⟨(hobject _ hfirst).trans rfl, hlanding _ hb rfl, herror _ hc, fields, hfields⟩

end Criteria
