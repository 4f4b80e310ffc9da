import Criteria.Proofs.Context.Registration

/-!
# Contexts that share their tables

A context with host functions need not have a table of its own: contexts without host functions can
all use one table of the builtin functions, and only a context with registrations needs a further
table, for which this one is copied. In this form a context holds the **place** of its table in a
store of tables (`Criteria.SharedContext`), and registering changes the table at a place
(`Criteria.TableStore.registerAt`).

Nothing of this can be seen from outside. A build changes no table that was there before, since it
registers in a copy that no other context holds (`Criteria.TableStore.prefix_build`). So after any
number of builds, of which some may have failed, every context that was made resolves names as if it
had been built alone, with a table of its own (`Criteria.TableStore.view_buildAll`).
-/

namespace Criteria

variable {σ : Type}

/-- Tables of functions, by their places. -/
abbrev TableStore (σ : Type) := List (FunctionTable σ)

/-- A context whose functions are in the table at a place. -/
structure SharedContext where
  data : Datum
  place : Nat

namespace TableStore

/-- In the beginning there is the table of the builtin functions, at the place that all contexts
without host functions hold. -/
def initial : TableStore σ := [.builtins]

/-- The table at a place. -/
def table (tables : TableStore σ) (place : Nat) : FunctionTable σ := tables[place]?.getD []

/-- Registers functions in the table at a place, up to the first that is refused. Those before it
stay registered. -/
def registerAt (place : Nat) (tables : TableStore σ) :
    List (String × HostFunction σ) → Except Error Unit × TableStore σ
  | [] => (.ok (), tables)
  | (name, f) :: rest =>
    match (tables.table place).register name (.host f) with
    | .error e => (.error e, tables)
    | .ok next => registerAt place (tables.set place next) rest

/-- Builds a context. Where there is something to register, the builtin functions are copied to a
new place first. -/
def build (tables : TableStore σ) (data : Datum) (registrations : List (String × HostFunction σ)) :
    Except Error SharedContext × TableStore σ :=
  match Context.checkData data with
  | .error e => (.error e, tables)
  | .ok () =>
    if registrations.isEmpty then (.ok ⟨data, 0⟩, tables)
    else
      let (result, next) :=
        registerAt tables.length (tables ++ [tables.table 0]) registrations
      (result.map fun _ => ⟨data, tables.length⟩, next)

/-- Builds contexts one behind the other, whether those before have failed or not. -/
def buildAll (tables : TableStore σ) :
    List (Datum × List (String × HostFunction σ)) →
      List (Except Error SharedContext) × TableStore σ
  | [] => ([], tables)
  | (data, registrations) :: rest =>
    let (result, next) := tables.build data registrations
    let (results, last) := next.buildAll rest
    (result :: results, last)

end TableStore

/-- What a context is, given what the tables are. -/
def SharedContext.view (tables : TableStore σ) (ctx : SharedContext) : Context σ :=
  ⟨ctx.data, tables.table ctx.place⟩

namespace TableStore

variable {tables later : TableStore σ} {data : Datum}
  {registrations : List (String × HostFunction σ)}

/-- A table that is there stays the same when others are added. -/
theorem table_stays (h : tables <+: later) {place : Nat} (hp : place < tables.length) :
    later.table place = tables.table place := by
  obtain ⟨more, rfl⟩ := h
  rw [table, table, List.getElem?_append_left hp]

/-- At the last place, functions are registered as in a table of its own, and the other tables stay
as they are. -/
theorem registerAt_last (tables : TableStore σ) (own : FunctionTable σ)
    (registrations : List (String × HostFunction σ)) :
    ∃ own', registerAt tables.length (tables ++ [own]) registrations =
        ((own.registerAll registrations).map fun _ => (), tables ++ [own']) ∧
      ∀ full, own.registerAll registrations = .ok full → own' = full := by
  induction registrations generalizing own with
  | nil => exact ⟨own, rfl, fun full h => Except.ok.inj h⟩
  | cons registration rest ih =>
    obtain ⟨name, f⟩ := registration
    have htable : table (tables ++ [own]) tables.length = own := by simp [table]
    rw [registerAt, htable, FunctionTable.registerAll]
    cases own.register name (.host f) with
    | error e => exact ⟨own, rfl, fun full h => absurd h (by simp)⟩
    | ok next =>
      have hset : (tables ++ [own]).set tables.length next = tables ++ [next] := by simp
      simp only [hset]
      exact ih next

/-- **A build changes no table.** At most a new one stands behind the others afterwards. -/
theorem prefix_build (tables : TableStore σ) (data : Datum)
    (registrations : List (String × HostFunction σ)) :
    tables <+: (tables.build data registrations).2 := by
  obtain ⟨own, hown, -⟩ := registerAt_last tables (tables.table 0) registrations
  rw [build]
  split
  · exact List.prefix_refl _
  · split
    · exact List.prefix_refl _
    · rw [hown]
      exact List.prefix_append _ _

/-- Requests for contexts add tables and change none. -/
theorem prefix_buildAll (tables : TableStore σ)
    (requests : List (Datum × List (String × HostFunction σ))) :
    tables <+: (tables.buildAll requests).2 := by
  induction requests generalizing tables with
  | nil => exact List.prefix_refl _
  | cons request rest ih =>
    obtain ⟨data, registrations⟩ := request
    exact (prefix_build tables data registrations).trans (ih _)

/-- The builtin functions are at their place. -/
def HoldsBuiltins (tables : TableStore σ) : Prop := tables[0]? = some .builtins

/-- The store begins with the builtin functions. -/
theorem holdsBuiltins_initial : (initial : TableStore σ).HoldsBuiltins := rfl

/-- The builtin functions stay when tables are added. -/
theorem HoldsBuiltins.stays (h : tables.HoldsBuiltins) (hp : tables <+: later) :
    later.HoldsBuiltins := by
  obtain ⟨more, rfl⟩ := hp
  rw [HoldsBuiltins, List.getElem?_append_left (List.getElem?_eq_some_iff.mp h).1]
  exact h

/-- The table of the builtin functions is the first one. -/
theorem HoldsBuiltins.table_zero (h : tables.HoldsBuiltins) : tables.table 0 = .builtins := by
  rw [table, h, Option.getD_some]

/-- **A context that shares its table is the one with a table of its own**, also in the eyes of
whatever is built later. -/
theorem view_build (h : tables.HoldsBuiltins)
    (hlater : (tables.build data registrations).2 <+: later) :
    (tables.build data registrations).1.map (SharedContext.view later) =
      Context.build data registrations := by
  rw [build] at hlater ⊢
  rw [Context.build]
  cases hdata : Context.checkData data with
  | error e => rfl
  | ok _ =>
    simp only [hdata] at hlater ⊢
    cases registrations with
    | nil =>
      have hbuiltins := (h.stays hlater).table_zero
      change Except.ok (SharedContext.view later ⟨data, 0⟩) = Except.ok ⟨data, .builtins⟩
      rw [SharedContext.view, hbuiltins]
    | cons registration rest =>
      obtain ⟨own, hown, hfull⟩ := registerAt_last tables .builtins (registration :: rest)
      simp only [List.isEmpty_cons, Bool.false_eq_true, if_false, h.table_zero, hown] at hlater ⊢
      cases hall : FunctionTable.builtins.registerAll (registration :: rest) with
      | error e => rfl
      | ok full =>
        obtain rfl := hfull full hall
        have hlast : later.table tables.length = own := by
          rw [table_stays hlater (by simp)]
          simp [table]
        change Except.ok (SharedContext.view later ⟨data, tables.length⟩) = Except.ok ⟨data, own⟩
        rw [SharedContext.view, hlast]

/-- **Sharing cannot be noticed**: after any number of builds, all contexts are what they would be
if each had been built alone, and all errors are the ones that they would be. -/
theorem view_buildAll (h : tables.HoldsBuiltins)
    (requests : List (Datum × List (String × HostFunction σ)))
    (hlater : (tables.buildAll requests).2 <+: later) :
    (tables.buildAll requests).1.map (Except.map (SharedContext.view later)) =
      requests.map fun request => Context.build request.1 request.2 := by
  induction requests generalizing tables with
  | nil => rfl
  | cons request rest ih =>
    obtain ⟨data, registrations⟩ := request
    have hbuild := prefix_build tables data registrations
    -- the tables that this build leaves are among those at the end
    have hnext := prefix_buildAll (tables.build data registrations).2 rest
    have hfirst := view_build h (hnext.trans hlater)
    have hrest := ih (h.stays hbuild) hlater
    rw [List.map_cons, ← hfirst, ← hrest]
    rfl

end TableStore

end Criteria
