import Criteria.Function.Table

/-!
# Contexts

A context is what an expression is evaluated against: the data that `$` stands for, which is
valid, and the functions that may be called.
-/

namespace Criteria

/-- Data and functions for evaluations. -/
structure Context (σ : Type) where
  data : Datum
  functions : FunctionTable σ

namespace Context

variable {σ : Type}

/-- Refuses data that is not valid. -/
def checkData (data : Datum) : Except Error Unit :=
  data.validate.mapError fun defect => .unsupported (.defect defect)

/-- A context with the builtin functions only. -/
def ofDatum (data : Datum) : Except Error (Context σ) :=
  match checkData data with
  | .error e => .error e
  | .ok () => .ok ⟨data, .builtins⟩

/-- A context with host functions. The data is checked first, then the names in their order. -/
def build (data : Datum) (registrations : List (String × HostFunction σ)) :
    Except Error (Context σ) :=
  match checkData data with
  | .error e => .error e
  | .ok () => (FunctionTable.builtins.registerAll registrations).map (⟨data, ·⟩)

/-- The function that a name calls. -/
def function? (ctx : Context σ) (name : String) : Option (Function σ) := ctx.functions.get? name

end Context

end Criteria
