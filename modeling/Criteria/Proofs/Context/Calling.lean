import Criteria.Proofs.Evaluation.Filtering
import Criteria.Proofs.Grammar.Composition

/-!
# Calling what has been registered

Names are looked at twice. Registering a function checks its name as a whole, and the lexer cuts a
name off a text, character by character and with whatever stands around it. A name that passed the
check and that the lexer would cut differently could be registered and never called, or call another
function. There is none: **the names that can be registered are those that are read as one function
token, with nothing before or behind it** (`Criteria.isFunctionName_iff_readAll`). So a registered
name with an empty pair of parentheses behind it is the call of what is registered under it, and
evaluating this text is calling the function once (`Criteria.eval_bareCall_of_build`).
-/

namespace Criteria

/-! ### Names and function tokens -/

/-- A function token that has been read from a text to its end holds the name of a function. -/
theorem Lexer.isFunctionName_of_readAll {l : Lexer} {name : String}
    (h : l.readAll = [.ok (.function name), .ok .eof]) : isFunctionName name = true := by
  have hmade : IsMadeOf [.function name] l.rest := isMadeOf_of_readAll h
  generalize l.rest = cs at hmade
  rcases hmade with _ | ⟨-, hword, -⟩
  rcases hword with _ | _ | _ | _ | _ | _ | hname | hsymbol
  · exact hname
  · exact absurd hsymbol (by simp [Token.symbol?])

/-- **What can be registered is what is read as a function token** and nothing else. -/
theorem isFunctionName_iff_readAll {name : String} :
    isFunctionName name = true ↔
      (Lexer.ofText name).readAll = [.ok (.function name), .ok .eof] := by
  refine ⟨fun h => ?_, Lexer.isFunctionName_of_readAll⟩
  have hread : IsReadAs (Lexer.ofText name).rest [.function name] := IsReadAs.function h
  exact Lexer.readAll_of_isReadAs hread

/-! ### Calls without arguments -/

/-- The call of a function without arguments. -/
def Expression.bareCall (name : String) : Expression := .lone (.call name [])

/-- The name of a function with empty parentheses behind it is read as its call. -/
theorem parse_bareCall {name : String} (h : isFunctionName name = true) :
    Expression.parse (name ++ "()") = .ok (.bareCall name) := by
  have hnone : AreArguments [] [] := .nil
  have hcall := parse_call h hnone
  rwa [String.append_assoc, String.append_assoc] at hcall

section Registered

variable {σ : Type} {root : Datum} {registrations : List (String × HostFunction σ)}
  {ctx : Context σ} {name : String} {f : HostFunction σ}

/-- **To evaluate the call of a registered name is to call the function once**, without arguments
and in the state that the host is in. -/
theorem eval_bareCall_of_build (h : Context.build root registrations = .ok ctx)
    (hm : (name, f) ∈ registrations) (depth : Nat) (w : World σ) :
    (Expression.bareCall name).eval depth ctx w =
      (((f [] w.host).1.map Value.ofDatum).mapError .error,
        ⟨(f [] w.host).2, w.calls ++ [⟨name, [], (f [] w.host).1⟩]⟩) := by
  obtain ⟨-, hfunctions, -⟩ := Context.build_eq_ok_iff.mp h
  have hfound : ctx.function? name = some (.host f) :=
    FunctionTable.get?_of_mem_of_registerAll hfunctions hm
  exact Operand.evalWith_call_of_host hfound rfl

end Registered

/-- **What can be registered is exactly what can be called.** A function can be registered under a
name if the text of the name is read as the function token of this name and the end, and only then.
And in any context in which a function is registered under it, the text with an empty pair of
parentheses behind the name is read, and evaluating it calls this function and no other, once and
without arguments, and gives what it returns as a value, or its error. -/
theorem registrable_names_are_callable {σ : Type} (name : String) :
    (isFunctionName name = true ↔
      (Lexer.ofText name).readAll = [.ok (.function name), .ok .eof]) ∧
    ∀ (root : Datum) (registrations : List (String × HostFunction σ)) (f : HostFunction σ)
      (ctx : Context σ), Context.build root registrations = .ok ctx → (name, f) ∈ registrations →
        ∃ p, Prepared.ofText (name ++ "()") = .ok p ∧
          ∀ w, p.evaluateValue ctx w =
            (((f [] w.host).1.map Value.ofDatum).mapError .error,
              ⟨(f [] w.host).2, w.calls ++ [⟨name, [], (f [] w.host).1⟩]⟩) := by
  refine ⟨isFunctionName_iff_readAll, fun root registrations f ctx h hm => ?_⟩
  have hregistrable := (Context.exists_build_iff.mp ⟨ctx, h⟩).2
  have hname : isFunctionName name = true :=
    hregistrable.wellFormed name (List.mem_map.mpr ⟨(name, f), hm, rfl⟩)
  refine ⟨⟨name ++ "()", .bareCall name⟩, ?_, fun w => ?_⟩
  · exact Prepared.ofText_eq_ok_iff.mpr ⟨rfl, parse_bareCall hname⟩
  · exact eval_bareCall_of_build h hm _ w

/-- A name that begins with another registered name, with a letter that is not of the ASCII range.
The function behind it counts its calls. -/
theorem longer_name_is_called :
    let turn : HostFunction Nat := fun arguments n =>
      (.ok (.integer (.ofNat (n + arguments.length))), n + 1)
    let refuse : HostFunction Nat := fun _ n => (.error (.reported .function "no"), n)
    ∃ ctx p, Context.build .nil [("@ñ", refuse), ("@ñ_1", turn)] = .ok ctx ∧
      (Lexer.ofText "@ñ_1").readAll = [.ok (.function "@ñ_1"), .ok .eof] ∧
      Prepared.ofText "@ñ_1()" = .ok p ∧
      p.evaluateValue ctx ⟨2, []⟩ =
        (.ok (.number (.ofInt 2)), ⟨3, [⟨"@ñ_1", [], .ok (.integer 2)⟩]⟩) := by
  intro turn refuse
  have hbuiltin : ∀ b : Builtin, b.name ∉ ["@ñ", "@ñ_1"] := by rintro ⟨⟩ <;> decide
  obtain ⟨ctx, hctx⟩ : ∃ ctx, Context.build .nil [("@ñ", refuse), ("@ñ_1", turn)] = .ok ctx :=
    Context.exists_build_iff.mpr ⟨rfl, by decide, by decide, fun _ hm b hb => hbuiltin b (hb ▸ hm)⟩
  obtain ⟨hread, hcall⟩ := registrable_names_are_callable (σ := Nat) "@ñ_1"
  obtain ⟨p, hp, heval⟩ := hcall _ _ turn ctx hctx (by simp)
  exact ⟨ctx, p, hctx, hread.mp (by decide), hp, heval ⟨2, []⟩⟩

end Criteria
