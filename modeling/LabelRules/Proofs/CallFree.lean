import LabelRules.Proofs.FieldRelevance
import LabelRules.Proofs.LabelFrame

set_option autoImplicit false

/-! # Expressions without calls

What an environment does for a call is nothing to an expression that calls no function
(`Expr.CallFree`): it is evaluated as where every function is unknown (`evaluate_silenced`). So,
whatever the functions of the environment do, its evaluation has the same result from every memory
(`evaluate_steady_of_callFree`) and leaves the output alone (`evaluate_output_of_callFree`).
-/

namespace LabelRules

variable {σ : Type} {e : Expr}

/-- No function is called at any node. -/
def Expr.CallFree (e : Expr) : Prop := e.calledNames = []

instance (e : Expr) : Decidable e.CallFree := inferInstanceAs (Decidable (e.calledNames = []))

theorem Expr.CallFree.call_not_mem (h : e.CallFree) (name : String) (args : List Expr) :
    Expr.call name args ∉ e.postorder := by
  intro hmem
  have hname : name ∈ e.calledNames := List.mem_filterMap.2 ⟨_, hmem, rfl⟩
  rw [h] at hname
  cases hname

/-- The environment with the same fields in which every function is unknown. -/
def Environment.silenced (env : Environment σ) : Environment σ :=
  { env with call := fun name _ => throw (.unknownFunction name) }

/-- An unknown function does nothing to the memory, so a silenced environment is in step with
itself even if the calls of the environment are not. -/
theorem Environment.silenced_inStep (env : Environment σ) :
    env.silenced.InStep (fun _ _ => True) env.silenced where
  kind := rfl
  field := rfl
  call _ _ := .throw _
  fetch _ _ _ _ := trivial

theorem evaluate_silenced (env : Environment σ) (h : e.CallFree) :
    evaluate env e = evaluate env.silenced e :=
  evaluate_congr e ⟨rfl, fun name args hmem => absurd hmem (h.call_not_mem name args),
    fun _ _ _ => rfl⟩

theorem evaluate_steady_of_callFree (env : Environment σ) (h : e.CallFree) :
    (evaluate env e).Steady := by
  rw [evaluate_silenced env h]
  exact evaluate_inStep env.silenced_inStep e

/-- Only calls write the output. -/
theorem evaluate_output_of_callFree (env : Environment σ) (h : e.CallFree) (m : Memory σ) :
    ((evaluate env e).exec m).2.output = m.output := by
  have hcall (name : String) (hname : name ∈ e.calledNames) (args : List Value) (n : Memory σ)
      (_ : n.output = m.output) : ((env.silenced.call name args).exec n).2.output = m.output := by
    rw [h] at hname
    cases hname
  rw [evaluate_silenced env h]
  exact evaluate_preserves (P := fun output => output = m.output) env.silenced_inStep hcall rfl

end LabelRules
