import Criteria.Error.Basic

/-!
# Evaluations

An **evaluation** takes place in a world: a state that belongs to the host, and the record of the
calls of host functions so far. It gives a result or stops, and it leaves a world in either case.

Evaluation stops at the first error. It also stops when more predicates of `@select` are nested
in one another than it was allowed to open; this is kept apart from all errors.
-/

namespace Criteria

/-- Why an evaluation has no result. -/
inductive Stop where
  | error (e : Error)
  /-- No further predicate of `@select` may be opened inside the ones that are open. -/
  | exhausted
  deriving DecidableEq

/-- A call of a host function, with what it returned. -/
structure Call where
  name : String
  arguments : List Datum
  result : Except Error Datum

/-- What evaluations read and change. The calls are in the order in which they were made. -/
structure World (σ : Type) where
  host : σ
  calls : List Call

/-- A host function may read and change the state of its host. -/
abbrev HostFunction (σ : Type) := List Datum → σ → Except Error Datum × σ

/-- A computation in a world that may stop. -/
def Evaluation (σ α : Type) := World σ → Except Stop α × World σ

namespace Evaluation

variable {σ α β : Type}

/-- Gives a result and leaves the world as it is. -/
def give (a : α) : Evaluation σ α := fun w => (.ok a, w)

/-- Stops and leaves the world as it is. -/
def stop (s : Stop) : Evaluation σ α := fun w => (.error s, w)

/-- Goes on with a result, in the world that it was left in. -/
def andThen (x : Evaluation σ α) (f : α → Evaluation σ β) : Evaluation σ β := fun w =>
  match x w with
  | (.ok a, w') => f a w'
  | (.error s, w') => (.error s, w')

instance : Monad (Evaluation σ) where
  pure := give
  bind := andThen

/-- A result or stop that does not depend on the world. -/
def ofOutcome : Except Stop α → Evaluation σ α
  | .ok a => give a
  | .error s => stop s

/-- A result or error that does not depend on the world. -/
def ofExcept : Except Error α → Evaluation σ α
  | .ok a => give a
  | .error e => stop (.error e)

/-- Calls a host function and records the call. -/
def callHost (name : String) (f : HostFunction σ) (arguments : List Datum) :
    Evaluation σ Datum := fun w =>
  let (result, host) := f arguments w.host
  (result.mapError .error, ⟨host, w.calls ++ [⟨name, arguments, result⟩]⟩)

@[simp]
theorem pure_apply (a : α) (w : World σ) : (pure a : Evaluation σ α) w = (.ok a, w) := rfl

@[simp]
theorem stop_apply (s : Stop) (w : World σ) : (stop s : Evaluation σ α) w = (.error s, w) := rfl

/-- Two evaluations in turn, as what they do to a world: the second begins where the first has
ended. -/
theorem bind_apply (x : Evaluation σ α) (f : α → Evaluation σ β) (w : World σ) :
    (x >>= f) w = match x w with
      | (.ok a, w') => f a w'
      | (.error s, w') => (.error s, w') := rfl

/-- After a first evaluation that comes to a value, the second one runs. -/
theorem bind_of_ok {x : Evaluation σ α} {f : α → Evaluation σ β} {w w' : World σ} {a : α}
    (h : x w = (.ok a, w')) : (x >>= f) w = f a w' := by
  rw [bind_apply, h]

/-- A first evaluation that stops is all there is. -/
theorem bind_of_error {x : Evaluation σ α} {f : α → Evaluation σ β} {w w' : World σ} {s : Stop}
    (h : x w = (.error s, w')) : (x >>= f) w = (.error s, w') := by
  rw [bind_apply, h]

/-- **A result has come about in two steps**, the second of them in the world that the first one
left. -/
theorem bind_eq_ok_iff {x : Evaluation σ α} {f : α → Evaluation σ β} {w w' : World σ} {b : β} :
    (x >>= f) w = (.ok b, w') ↔ ∃ a v, x w = (.ok a, v) ∧ f a v = (.ok b, w') := by
  constructor
  · intro h
    rcases hx : x w with ⟨s | a, v⟩
    · rw [bind_of_error hx] at h
      cases h
    · rw [bind_of_ok hx] at h
      exact ⟨a, v, rfl, h⟩
  · rintro ⟨a, v, hx, hf⟩
    rw [bind_of_ok hx, hf]

/-- **An evaluation in two steps stops** in the first of them, or in the second one with what the
first one has led to. -/
theorem bind_eq_error_iff {x : Evaluation σ α} {f : α → Evaluation σ β} {w w' : World σ}
    {s : Stop} :
    (x >>= f) w = (.error s, w') ↔
      x w = (.error s, w') ∨ ∃ a v, x w = (.ok a, v) ∧ f a v = (.error s, w') := by
  rcases hx : x w with ⟨s' | a, v⟩
  · rw [bind_of_error hx]
    simp
  · rw [bind_of_ok hx]
    refine ⟨fun h => .inr ⟨a, v, rfl, h⟩, ?_⟩
    rintro (h | ⟨b, u, h, hf⟩)
    · cases h
    · cases h
      exact hf

/-- What does not depend on the world leaves it as it is. -/
theorem ofExcept_eq_ok_iff {r : Except Error α} {w w' : World σ} {a : α} :
    ofExcept r w = (.ok a, w') ↔ r = .ok a ∧ w' = w := by
  cases r <;> simp [ofExcept, give, eq_comm]

theorem map_id_eq (x : Evaluation σ α) : id <$> x = x := by
  funext w
  change (x >>= fun a => pure (id a)) w = x w
  rw [bind_apply]
  rcases x w with ⟨_ | a, w'⟩ <;> rfl

theorem bind_assoc_eq {γ : Type} (x : Evaluation σ α) (f : α → Evaluation σ β)
    (g : β → Evaluation σ γ) : x >>= f >>= g = x >>= fun a => f a >>= g := by
  funext w
  rw [bind_apply, bind_apply, bind_apply]
  rcases x w with ⟨_ | a, w'⟩ <;> rfl

instance : LawfulMonad (Evaluation σ) :=
  LawfulMonad.mk' _ map_id_eq (fun _ _ => rfl) bind_assoc_eq

end Evaluation

end Criteria
