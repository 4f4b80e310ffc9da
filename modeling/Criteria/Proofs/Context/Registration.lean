import Criteria.Proofs.Evaluation.Outcome

/-!
# What registering leaves as it was

A context with host functions is built by registering them one by one in the table of the builtin
functions. A registration is refused unless its name is free, so a table **only grows**: what a name
leads to stays the same, as long as nothing is registered under this name
(`Criteria.FunctionTable.get?_of_registerAll`), and every name that something is registered under
has led nowhere before (`Criteria.FunctionTable.get?_eq_none_of_registerAll`). In particular no
builtin function is replaced or lost.
-/

namespace Criteria

variable {σ : Type}

namespace FunctionTable

variable {table table' : FunctionTable σ} {name : String}

/-- What it takes to register a function, and what comes out. -/
theorem register_eq_ok_iff {f : Function σ} :
    table.register name f = .ok table' ↔
      isFunctionName name = true ∧ table.get? name = none ∧ table' = table.insert name f := by
  rw [register]
  cases hname : isFunctionName name with
  | false => simp
  | true =>
    cases hget : table.get? name with
    | none => simp [Fields.contains, hget, eq_comm]
    | some g => simp [Fields.contains, hget]

/-- Functions are registered in their order, each in the table that those before it have made. -/
theorem registerAll_cons_eq_ok_iff {f : HostFunction σ} {rest : List (String × HostFunction σ)} :
    table.registerAll ((name, f) :: rest) = .ok table' ↔
      ∃ next, table.register name (.host f) = .ok next ∧ next.registerAll rest = .ok table' := by
  rw [registerAll]
  cases table.register name (.host f) with
  | error e => simp
  | ok next => simp

/-- **Registering changes nothing under other names.** -/
theorem get?_of_registerAll {registrations : List (String × HostFunction σ)}
    (h : table.registerAll registrations = .ok table')
    (hn : name ∉ registrations.map (·.1)) : table'.get? name = table.get? name := by
  induction registrations generalizing table with
  | nil => rw [Except.ok.inj h]
  | cons registration rest ih =>
    obtain ⟨next, hnext, hrest⟩ := registerAll_cons_eq_ok_iff.mp h
    obtain ⟨-, -, rfl⟩ := register_eq_ok_iff.mp hnext
    rw [List.map_cons, List.mem_cons, not_or] at hn
    calc table'.get? name
        = (table.insert registration.1 (.host registration.2)).get? name := ih hrest hn.2
      _ = table.get? name := Fields.get?_insert_of_ne hn.1 _ _

/-- **Functions are registered under names that were free.** -/
theorem get?_eq_none_of_registerAll {registrations : List (String × HostFunction σ)}
    (h : table.registerAll registrations = .ok table')
    (hm : name ∈ registrations.map (·.1)) : table.get? name = none := by
  induction registrations generalizing table with
  | nil => exact absurd hm (by simp)
  | cons registration rest ih =>
    obtain ⟨next, hnext, hrest⟩ := registerAll_cons_eq_ok_iff.mp h
    obtain ⟨-, hfree, rfl⟩ := register_eq_ok_iff.mp hnext
    by_cases hname : name = registration.1
    · rw [hname]
      exact hfree
    · -- the name is registered later, when the first registration has not touched it
      have hlater : name ∈ rest.map (·.1) := (List.mem_cons.mp hm).resolve_left hname
      rw [← ih hrest hlater]
      exact (Fields.get?_insert_of_ne hname _ _).symm

/-- The names of the builtin functions ascend. -/
theorem keysAscend_builtins : Fields.KeysAscend (builtins : FunctionTable σ) := by
  have hnames : Builtin.all.Pairwise fun b c => b.name < c.name := by decide
  exact List.pairwise_map.mpr hnames

/-- **Registering keeps the names in order**, so there is one table for the functions and their
names, whatever the order of the registrations. -/
theorem keysAscend_of_registerAll {registrations : List (String × HostFunction σ)}
    (h : table.registerAll registrations = .ok table') (htable : Fields.KeysAscend table) :
    Fields.KeysAscend table' := by
  induction registrations generalizing table with
  | nil => rwa [← Except.ok.inj h]
  | cons registration rest ih =>
    obtain ⟨next, hnext, hrest⟩ := registerAll_cons_eq_ok_iff.mp h
    obtain ⟨-, -, rfl⟩ := register_eq_ok_iff.mp hnext
    exact ih hrest (htable.insert _ _)

end FunctionTable

namespace Context

variable {root : Datum} {registrations : List (String × HostFunction σ)} {ctx : Context σ}

/-- A context with host functions holds a valid root, and the builtin functions with the
registrations. -/
theorem build_eq_ok_iff :
    Context.build root registrations = .ok ctx ↔
      checkData root = .ok () ∧
        FunctionTable.builtins.registerAll registrations = .ok ctx.functions ∧ ctx.data = root := by
  rw [build]
  cases hdata : checkData root with
  | error e => simp
  | ok _ =>
    cases hf : FunctionTable.builtins.registerAll registrations with
    | error e => simp [Except.map]
    | ok functions =>
      obtain ⟨data, functions'⟩ := ctx
      simp [Except.map, eq_comm, and_comm]

/-- The names of the functions of a context are listed in ascending order, each once. -/
theorem pairwise_names_of_build (h : Context.build root registrations = .ok ctx) :
    ctx.functions.names.Pairwise (· < ·) := by
  obtain ⟨-, hfunctions, -⟩ := build_eq_ok_iff.mp h
  exact List.pairwise_map.mpr
    (FunctionTable.keysAscend_of_registerAll hfunctions FunctionTable.keysAscend_builtins)

/-- Names under which nothing is registered lead to the builtin functions, as they do in a context
without host functions. -/
theorem function?_of_build (h : Context.build root registrations = .ok ctx) {name : String}
    (hn : name ∉ registrations.map (·.1)) : ctx.function? name = Builtin.function? name := by
  obtain ⟨-, hfunctions, -⟩ := build_eq_ok_iff.mp h
  rw [function?, FunctionTable.get?_of_registerAll hfunctions hn]
  exact FunctionTable.get?_map_builtin Builtin.all name

/-- No function is registered under the name of a builtin one. -/
theorem builtin_function?_eq_none {τ : Type} (h : Context.build root registrations = .ok ctx)
    {name : String} (hm : name ∈ registrations.map (·.1)) :
    (Builtin.function? name : Option (Function τ)) = none := by
  obtain ⟨-, hfunctions, -⟩ := build_eq_ok_iff.mp h
  have hfree : (Builtin.function? name : Option (Function σ)) = none := by
    rw [← FunctionTable.get?_eq_none_of_registerAll hfunctions hm]
    exact (FunctionTable.get?_map_builtin Builtin.all name).symm
  rw [Builtin.function?, Option.map_eq_none_iff] at hfree ⊢
  exact hfree

end Context

end Criteria
