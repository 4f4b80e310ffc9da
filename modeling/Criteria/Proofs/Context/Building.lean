import Criteria.Proofs.Context.Sharing
import Criteria.Proofs.Datum.Validity

/-!
# Which contexts can be built

Whether a context can be built is a matter of its root and of the names of its host functions: the
names have to be **registrable** (`Criteria.Registrable`), that is well-formed, different from one
another and not those of builtin functions. What is registered under a name does not matter.

A table of functions is grown one registration at a time, so most of this file is about any table
that functions are registered in: when they all can be (`Criteria.FunctionTable.Admits`), what their
names lead to afterwards, and which of them is refused otherwise. A registration is refused for its
own name or for one before it, never for one behind it, and so the first refusal decides
(`Criteria.FunctionTable.registerAll_eq_error_iff`).
-/

namespace Criteria

variable {σ : Type}

/-- Names that are not those of builtin functions call none. -/
theorem Builtin.function?_eq_none_iff {name : String} :
    (Builtin.function? name : Option (Function σ)) = none ↔ ∀ b : Builtin, b.name ≠ name := by
  have hall : ∀ b : Builtin, b ∈ Builtin.all := by rintro ⟨⟩ <;> decide
  rw [Builtin.function?, Option.map_eq_none_iff, Builtin.ofName?, List.find?_eq_none]
  exact ⟨fun h b hb => h b (hall b) (by simpa using hb), fun h b _ => by simpa using h b⟩

/-- Every builtin function is found under its name. -/
theorem Builtin.function?_name (b : Builtin) :
    (Builtin.function? b.name : Option (Function σ)) = some (.builtin b) := by
  cases b <;> rfl

namespace FunctionTable

variable {table table' : FunctionTable σ} {name : String} {names : List String}
  {registrations : List (String × HostFunction σ)}

/-! ### Registering in a table -/

/-- A registration is refused for the form of its name, and else because the name is taken. -/
theorem register_eq_error_iff {f : Function σ} {e : Error} :
    table.register name f = .error e ↔
      isFunctionName name = false ∧ e = .invalidFunction (.malformed name) ∨
        isFunctionName name = true ∧ table.get? name ≠ none ∧ e = .duplicateFunction name := by
  rw [register]
  cases hname : isFunctionName name with
  | false => simp [eq_comm]
  | true =>
    cases hget : table.get? name with
    | none => simp [Fields.contains, hget]
    | some g => simp [Fields.contains, hget, eq_comm]

/-- Names under which functions can be registered in a table, all of them. -/
structure Admits (table : FunctionTable σ) (names : List String) : Prop where
  wellFormed : ∀ name ∈ names, isFunctionName name = true
  distinct : names.Nodup
  free : ∀ name ∈ names, table.get? name = none

/-- What follows a registration has to do with the name that it took. -/
theorem admits_cons_iff (f : Function σ) :
    table.Admits (name :: names) ↔
      isFunctionName name = true ∧ table.get? name = none ∧
        Admits (table.insert name f) names := by
  constructor
  · rintro ⟨hwell, hdistinct, hfree⟩
    obtain ⟨hnew, hrest⟩ := List.nodup_cons.mp hdistinct
    rw [List.forall_mem_cons] at hwell hfree
    refine ⟨hwell.1, hfree.1, hwell.2, hrest, fun other hother => ?_⟩
    have hne : other ≠ name := fun h => hnew (h ▸ hother)
    rw [Fields.get?_insert_of_ne hne]
    exact hfree.2 other hother
  · rintro ⟨hname, hget, hwell, hdistinct, hfree⟩
    have hnew : name ∉ names := fun h => by simpa using hfree name h
    refine ⟨List.forall_mem_cons.mpr ⟨hname, hwell⟩, List.nodup_cons.mpr ⟨hnew, hdistinct⟩,
      List.forall_mem_cons.mpr ⟨hget, fun other hother => ?_⟩⟩
    have hne : other ≠ name := fun h => hnew (h ▸ hother)
    rw [← hfree other hother, Fields.get?_insert_of_ne hne]

/-- **Functions can be registered under the names that a table admits**, whatever functions they
are. -/
theorem exists_registerAll_iff :
    (∃ table', table.registerAll registrations = .ok table') ↔
      table.Admits (registrations.map (·.1)) := by
  induction registrations generalizing table with
  | nil =>
    have hnil : table.Admits [] := ⟨by simp, List.nodup_nil, by simp⟩
    exact ⟨fun _ => hnil, fun _ => ⟨table, rfl⟩⟩
  | cons registration rest ih =>
    obtain ⟨name, f⟩ := registration
    rw [List.map_cons, admits_cons_iff (.host f), ← ih]
    simp only [registerAll_cons_eq_ok_iff, register_eq_ok_iff]
    constructor
    · rintro ⟨table', _, ⟨hname, hget, rfl⟩, hrest⟩
      exact ⟨hname, hget, table', hrest⟩
    · rintro ⟨hname, hget, table', hrest⟩
      exact ⟨table', _, ⟨hname, hget, rfl⟩, hrest⟩

/-- **A registered name leads to the function that is registered under it.** -/
theorem get?_of_mem_of_registerAll (h : table.registerAll registrations = .ok table')
    {f : HostFunction σ} (hm : (name, f) ∈ registrations) :
    table'.get? name = some (.host f) := by
  induction registrations generalizing table with
  | nil => exact absurd hm (by simp)
  | cons registration rest ih =>
    obtain ⟨next, hnext, hrest⟩ := registerAll_cons_eq_ok_iff.mp h
    rcases List.mem_cons.mp hm with rfl | hm
    · -- its name is taken from now on, so it is not registered under a second time
      obtain ⟨-, -, rfl⟩ := register_eq_ok_iff.mp hnext
      have hnot : name ∉ rest.map (·.1) := fun hlater => by
        simpa using get?_eq_none_of_registerAll hrest hlater
      rw [get?_of_registerAll hrest hnot, Fields.get?_insert_self]
    · exact ih hrest hm

/-- The names that are taken are those that were, and the registered ones. -/
theorem get?_ne_none_iff_of_registerAll (h : table.registerAll registrations = .ok table') :
    table'.get? name ≠ none ↔ table.get? name ≠ none ∨ name ∈ registrations.map (·.1) := by
  by_cases hm : name ∈ registrations.map (·.1)
  · obtain ⟨⟨_, f⟩, hf, rfl⟩ := List.mem_map.mp hm
    rw [get?_of_mem_of_registerAll h hf]
    simp only [ne_eq, reduceCtorEq, not_false_eq_true, hm, or_true]
  · rw [get?_of_registerAll h hm]
    simp only [hm, or_false]

/-- **The first registration that is refused is the one that counts.** -/
theorem registerAll_eq_error_iff {e : Error} :
    table.registerAll registrations = .error e ↔
      ∃ earlier name f later table', registrations = earlier ++ (name, f) :: later ∧
        table.registerAll earlier = .ok table' ∧ table'.register name (.host f) = .error e := by
  induction registrations generalizing table with
  | nil => simp [registerAll]
  | cons registration rest ih =>
    obtain ⟨name, f⟩ := registration
    cases hnext : table.register name (.host f) with
    | error e' =>
      rw [registerAll, hnext]
      constructor
      · rintro ⟨⟩
        exact ⟨[], name, f, rest, table, rfl, rfl, hnext⟩
      · rintro ⟨earlier, name', f', later, table', hsplit, hearlier, herror⟩
        cases earlier with
        | nil =>
          obtain ⟨⟨rfl, rfl⟩, -⟩ : (name = name' ∧ f = f') ∧ rest = later := by
            simpa using hsplit
          rw [← Except.ok.inj hearlier, hnext] at herror
          exact congrArg Except.error (Except.error.inj herror)
        | cons first earlier =>
          -- the first registration is refused, so nothing behind it is looked at
          obtain ⟨rfl, -⟩ := List.cons.inj hsplit
          obtain ⟨next, hok, -⟩ := registerAll_cons_eq_ok_iff.mp hearlier
          rw [hnext] at hok
          cases hok
    | ok next =>
      have hstep : table.registerAll ((name, f) :: rest) = next.registerAll rest := by
        rw [registerAll, hnext]
      rw [hstep, ih]
      constructor
      · rintro ⟨earlier, name', f', later, table', rfl, hearlier, herror⟩
        exact ⟨(name, f) :: earlier, name', f', later, table', rfl,
          registerAll_cons_eq_ok_iff.mpr ⟨next, hnext, hearlier⟩, herror⟩
      · rintro ⟨earlier, name', f', later, table', hsplit, hearlier, herror⟩
        cases earlier with
        | nil =>
          obtain ⟨⟨rfl, rfl⟩, -⟩ : (name = name' ∧ f = f') ∧ rest = later := by
            simpa using hsplit
          rw [← Except.ok.inj hearlier, hnext] at herror
          cases herror
        | cons first earlier =>
          obtain ⟨rfl, rfl⟩ := List.cons.inj hsplit
          obtain ⟨next', hok, hrest⟩ := registerAll_cons_eq_ok_iff.mp hearlier
          obtain rfl := Except.ok.inj (hnext.symm.trans hok)
          exact ⟨earlier, name', f', later, table', rfl, hrest, herror⟩

end FunctionTable

/-! ### Registering beside the builtin functions -/

/-- Names that host functions can be registered under, all of them in one context. -/
structure Registrable (names : List String) : Prop where
  wellFormed : ∀ name ∈ names, isFunctionName name = true
  distinct : names.Nodup
  not_builtin : ∀ name ∈ names, ∀ b : Builtin, b.name ≠ name

/-- How a registration is refused that comes behind others with the names `earlier`. -/
inductive Refusal (earlier : List String) (name : String) : Error → Prop
  | malformed (h : isFunctionName name = false) :
    Refusal earlier name (.invalidFunction (.malformed name))
  | taken (h : isFunctionName name = true)
      (htaken : (∃ b : Builtin, b.name = name) ∨ name ∈ earlier) :
    Refusal earlier name (.duplicateFunction name)

namespace FunctionTable

/-- The table without host functions has the builtin functions. -/
theorem get?_builtins (name : String) :
    (builtins : FunctionTable σ).get? name = Builtin.function? name :=
  get?_map_builtin Builtin.all name

/-- The table without host functions admits the names that can be registered at all. -/
theorem admits_builtins_iff {names : List String} :
    (builtins : FunctionTable σ).Admits names ↔ Registrable names := by
  have hfree : ∀ name, (builtins : FunctionTable σ).get? name = none ↔
      ∀ b : Builtin, b.name ≠ name := fun name => by
    rw [get?_builtins, Builtin.function?_eq_none_iff]
  constructor
  · rintro ⟨hwell, hdistinct, h⟩
    exact ⟨hwell, hdistinct, fun name hm => (hfree name).mp (h name hm)⟩
  · rintro ⟨hwell, hdistinct, h⟩
    exact ⟨hwell, hdistinct, fun name hm => (hfree name).mpr (h name hm)⟩

/-- A registration behind others is refused for its form, for a builtin function or for one of
them. -/
theorem refusal_iff {earlier : List (String × HostFunction σ)} {table : FunctionTable σ}
    (h : FunctionTable.builtins.registerAll earlier = .ok table) {name : String} {f : Function σ}
    {e : Error} :
    table.register name f = .error e ↔ Refusal (earlier.map (·.1)) name e := by
  have htaken : table.get? name ≠ none ↔
      (∃ b : Builtin, b.name = name) ∨ name ∈ earlier.map (·.1) := by
    rw [get?_ne_none_iff_of_registerAll h, get?_builtins, ne_eq, Builtin.function?_eq_none_iff]
    simp only [ne_eq, Classical.not_forall, Classical.not_not]
  rw [register_eq_error_iff, htaken]
  constructor
  · rintro (⟨hname, rfl⟩ | ⟨hname, hname', rfl⟩)
    · exact .malformed hname
    · exact .taken hname hname'
  · rintro (hname | ⟨hname, hname'⟩)
    · exact .inl ⟨hname, rfl⟩
    · exact .inr ⟨hname, hname', rfl⟩

end FunctionTable

namespace Context

variable {root : Datum} {registrations : List (String × HostFunction σ)}

/-- Without registrations, the context is the one with the builtin functions only. -/
theorem build_nil (root : Datum) :
    (Context.build root [] : Except Error (Context σ)) = Context.ofDatum root := by
  rw [build, ofDatum]
  cases checkData root <;> rfl

/-- **Which requests for a context succeed.** -/
theorem exists_build_iff :
    (∃ ctx, Context.build root registrations = .ok ctx) ↔
      root.validate = .ok () ∧ Registrable (registrations.map (·.1)) := by
  rw [← FunctionTable.admits_builtins_iff, ← FunctionTable.exists_registerAll_iff,
    ← checkData_eq_ok_iff]
  constructor
  · rintro ⟨ctx, h⟩
    obtain ⟨hdata, hfunctions, -⟩ := build_eq_ok_iff.mp h
    exact ⟨hdata, _, hfunctions⟩
  · rintro ⟨hdata, functions, hfunctions⟩
    exact ⟨⟨root, functions⟩, build_eq_ok_iff.mpr ⟨hdata, hfunctions, rfl⟩⟩

/-- **Which error a request for a context has**: that of the data, or that of the first registration
that cannot follow the earlier ones. -/
theorem build_eq_error_iff {e : Error} :
    Context.build root registrations = .error e ↔
      (∃ defect, root.validate = .error defect ∧ e = .unsupported (.defect defect)) ∨
        root.validate = .ok () ∧
          ∃ earlier name f later, registrations = earlier ++ (name, f) :: later ∧
            Registrable (earlier.map (·.1)) ∧ Refusal (earlier.map (·.1)) name e := by
  rw [build, checkData]
  cases root.validate with
  | error defect =>
    change Except.error (Error.unsupported (.defect defect)) = .error e ↔ _
    simp [eq_comm]
  | ok _ =>
    change (FunctionTable.builtins.registerAll registrations).map (Context.mk root) = .error e ↔ _
    simp only [map_eq_error_iff, FunctionTable.registerAll_eq_error_iff, reduceCtorEq, false_and,
      exists_false, false_or, true_and]
    constructor
    · rintro ⟨earlier, name, f, later, table, hsplit, hearlier, herror⟩
      have hadmits := FunctionTable.exists_registerAll_iff.mp ⟨_, hearlier⟩
      exact ⟨earlier, name, f, later, hsplit, FunctionTable.admits_builtins_iff.mp hadmits,
        (FunctionTable.refusal_iff hearlier).mp herror⟩
    · rintro ⟨earlier, name, f, later, hsplit, hregistrable, hrefusal⟩
      obtain ⟨table, hearlier⟩ := FunctionTable.exists_registerAll_iff.mpr
        (FunctionTable.admits_builtins_iff (σ := σ).mpr hregistrable)
      exact ⟨earlier, name, f, later, table, hsplit, hearlier,
        (FunctionTable.refusal_iff hearlier).mpr hrefusal⟩

/-- **No builtin function is replaced.** -/
theorem function?_name_of_build {ctx : Context σ} (h : Context.build root registrations = .ok ctx)
    (b : Builtin) : ctx.function? b.name = some (.builtin b) := by
  have hregistrable := (exists_build_iff.mp ⟨ctx, h⟩).2
  have hb : b.name ∉ registrations.map (·.1) := fun hm =>
    hregistrable.not_builtin b.name hm b rfl
  rw [function?_of_build h hb, Builtin.function?_name]

/-- **Building is all or nothing, and exact.** A context is built if its root is valid and the names
of its host functions are registrable. Names then lead to what is registered under them, to the
builtin functions, and otherwise nowhere. If there is no context, a defect of the root is reported,
and otherwise the first registration that is refused. And none of the contexts that are built one
behind the other, over one shared table of the builtin functions, is changed by the builds before
or behind it, successful or not. -/
theorem building_is_exact (root : Datum) (registrations : List (String × HostFunction σ)) :
    ((∃ ctx, Context.build root registrations = .ok ctx) ↔
      root.validate = .ok () ∧ Registrable (registrations.map (·.1))) ∧
    (∀ ctx, Context.build root registrations = .ok ctx → ctx.data = root ∧
      (∀ name f, (name, f) ∈ registrations → ctx.function? name = some (.host f)) ∧
      (∀ b : Builtin, ctx.function? b.name = some (.builtin b)) ∧
      ∀ name, name ∉ registrations.map (·.1) → (∀ b : Builtin, b.name ≠ name) →
        ctx.function? name = none) ∧
    (∀ e, Context.build root registrations = .error e ↔
      (∃ defect, root.validate = .error defect ∧ e = .unsupported (.defect defect)) ∨
        root.validate = .ok () ∧
          ∃ earlier name f later, registrations = earlier ++ (name, f) :: later ∧
            Registrable (earlier.map (·.1)) ∧ Refusal (earlier.map (·.1)) name e) ∧
    ∀ requests : List (Datum × List (String × HostFunction σ)),
      let (results, tables) := TableStore.initial.buildAll requests
      results.map (Except.map (SharedContext.view tables)) =
        requests.map fun request => Context.build request.1 request.2 := by
  refine ⟨exists_build_iff, fun ctx h => ?_, fun e => build_eq_error_iff, fun requests => ?_⟩
  · obtain ⟨-, hfunctions, hdata⟩ := build_eq_ok_iff.mp h
    refine ⟨hdata, fun name f hm => FunctionTable.get?_of_mem_of_registerAll hfunctions hm,
      function?_name_of_build h, fun name hn hb => ?_⟩
    rw [function?_of_build h hn]
    exact Builtin.function?_eq_none_iff.mpr hb
  · exact TableStore.view_buildAll TableStore.holdsBuiltins_initial requests (List.prefix_refl _)

end Context

end Criteria
