import LabelRules.Proofs.LabelWrites
import LabelRules.Proofs.ReachedEffects
import LabelRules.Proofs.Subjects

set_option autoImplicit false

/-! # The labels that a run leaves alone

A label is written by the capabilities that have it, so the names of the functions that an
expression calls (`Expr.calledNames`) say which labels a run can change at all (`Labels.Frame`). A
call keeps to this, whatever its arguments are and however it ends (`Writes.frame`); what all these
calls preserve, an evaluation preserves (`evaluate_preserves`), and so does a run
(`Program.runOnInterface_frame`).
-/

namespace LabelRules

variable {σ : Type}

/-! ## Functions that are called -/

namespace Expr

/-- The name of the function that a node calls. -/
def callName? : Expr → Option String
  | .call name _ => some name
  | _ => none

/-- The names of the functions that are called at the nodes of an expression, wherever they are. -/
def calledNames (e : Expr) : List String := e.postorder.filterMap callName?

end Expr

section Preserves

variable {env : Environment σ} {P : σ → Prop} {e : Expr}

theorem DoneWithin.mem_calledNames {name : String} {args : List Value}
    (h : DoneWithin env e (.call name args)) : name ∈ e.calledNames := by
  obtain ⟨node, hreaches, hdone⟩ := h
  cases hdone with
  | call hargs => exact List.mem_filterMap.2 ⟨_, hreaches.mem_postorder, rfl⟩

/-- What the calls of all functions that an expression calls preserve, its evaluation preserves. -/
theorem evaluate_preserves (henv : env.InStep (fun _ _ => True) env)
    (hcall : ∀ name ∈ e.calledNames, ∀ args (m : Memory σ),
      P m.output → P ((env.call name args).exec m).2.output)
    {m : Memory σ} (hm : P m.output) : P ((evaluate env e).exec m).2.output := by
  rw [exec_evaluate]
  refine List.foldlRecOn (motive := fun m : Memory σ => P m.output) _ _ hm ?_
  -- Fetching leaves the output alone, and a call is made at a node that is reached.
  intro m' hm' effect heffect
  cases effect with
  | fetch text => exact hm'
  | call name args =>
      have hdone := (mem_effects_iff henv).1 heffect
      exact hcall name hdone.mem_calledNames args m' hm'

theorem exec_evaluateCondition (e : Expr) (m : Memory σ) :
    ((evaluateCondition env e).exec m).2 = ((evaluate env e).exec m).2 := by
  rw [evaluateCondition, Run.exec_bind]
  rcases (evaluate env e).exec m with ⟨r, m'⟩
  cases r with
  | ok v => simp only [Run.exec_ofExcept]
  | error e => rfl

/-- A program that is of another kind than its environment changes nothing. -/
theorem Program.run_preserves {p : Program} (henv : env.InStep (fun _ _ => True) env)
    (hcall : ∀ name ∈ p.expr.calledNames, ∀ args (m : Memory σ),
      P m.output → P ((env.call name args).exec m).2.output)
    {m : Memory σ} (hm : P m.output) : P (p.run env m).2.output := by
  have hrun : (p.run env m).2 = ((p.fires env).exec m).2 := rfl
  rw [hrun, Program.fires]
  split
  · rw [exec_evaluateCondition]
    exact evaluate_preserves henv hcall hm
  · exact hm

end Preserves

/-! ## Labels that are left alone -/

open Capability

/-- Of a record of labels that only functions with some names have worked on, those labels are left
alone that none of these functions has; and the boundary is only marked by the mark for it. -/
structure Labels.Frame (names : List String) (before after : Labels) : Prop where
  connectivity : classifyConnectivity ∉ names → classifyConnectivityRegex ∉ names →
    after.connectivity = before.connectivity
  provider : classifyProvider ∉ names → classifyProviderRegex ∉ names →
    after.provider = before.provider
  boundary : classifyExternal ∉ names → classifyInternal ∉ names →
    after.boundary = before.boundary
  external : after.boundary = .external → before.boundary = .external ∨ classifyExternal ∈ names
  internal : after.boundary = .internal → before.boundary = .internal ∨ classifyInternal ∈ names

namespace Labels.Frame

variable {names : List String} {before middle after : Labels}

theorem refl (labels : Labels) : Frame names labels labels where
  connectivity := fun _ _ => rfl
  provider := fun _ _ => rfl
  boundary := fun _ _ => rfl
  external := .inl
  internal := .inl

theorem trans (h : Frame names before middle) (h' : Frame names middle after) :
    Frame names before after where
  connectivity := fun hname hregex =>
    (h'.connectivity hname hregex).trans (h.connectivity hname hregex)
  provider := fun hname hregex => (h'.provider hname hregex).trans (h.provider hname hregex)
  boundary := fun hexternal hinternal =>
    (h'.boundary hexternal hinternal).trans (h.boundary hexternal hinternal)
  external := fun hafter => (h'.external hafter).elim h.external .inr
  internal := fun hafter => (h'.internal hafter).elim h.internal .inr

end Labels.Frame

namespace Environment

/-- A call leaves all labels alone that its function does not have. -/
theorem Writes.frame {names : List String} {name : String} {labels later : Labels}
    (h : Writes name labels later) (hmem : name ∈ names) : Labels.Frame names labels later := by
  cases h with
  | nothing => exact .refl labels
  | connectivity s hname =>
      unfold writeConnectivity Labels.setConnectivity
      split
      · refine ⟨fun hvalue hregex => ?_, fun _ _ => rfl, fun _ _ => rfl, .inl, .inl⟩
        rcases hname with rfl | rfl
        · exact absurd hmem hvalue
        · exact absurd hmem hregex
      · exact .refl labels
  | provider s hname =>
      unfold writeProvider Labels.setProvider
      split
      · refine ⟨fun _ _ => rfl, fun hvalue hregex => ?_, fun _ _ => rfl, .inl, .inl⟩
        rcases hname with rfl | rfl
        · exact absurd hmem hvalue
        · exact absurd hmem hregex
      · exact .refl labels
  | external hname =>
      subst hname
      unfold writeBoundary Labels.setBoundary
      split
      · exact ⟨fun _ _ => rfl, fun _ _ => rfl, fun hnone _ => absurd hmem hnone,
          fun _ => .inr hmem, nofun⟩
      · exact .refl labels
  | internal hname =>
      subst hname
      unfold writeBoundary Labels.setBoundary
      split
      · exact ⟨fun _ _ => rfl, fun _ _ => rfl, fun _ hnone => absurd hmem hnone, nofun,
          fun _ => .inr hmem⟩
      · exact .refl labels

end Environment

/-- **A run leaves a label alone unless its program calls a capability that has it.** However a run
of a program on an interface ends, the connectivity is the one from before if there is no call of
`classifyConnectivity` and `classifyConnectivityRegex` anywhere in the expression, and so are the
provider and the boundary; and the boundary is external or internal afterwards only if it was so
before, or if there is a call of `classifyExternal` or `classifyInternal`, respectively. -/
theorem Program.runOnInterface_frame (p : Program) (exporter : Exporter) (interface : Interface)
    (labels : Labels) (cache : Cache) :
    Labels.Frame p.expr.calledNames labels
      (p.runOnInterface exporter interface labels cache).2.output := by
  have hsteady := (Environment.ofInterface_serves exporter interface).steady
  have hcall (name : String) (hname : name ∈ p.expr.calledNames) (args : List Value)
      (m : Memory Labels) (hm : Labels.Frame p.expr.calledNames labels m.output) :
      Labels.Frame p.expr.calledNames labels
        ((Environment.callForInterface name args).exec m).2.output :=
    hm.trans ((Environment.callForInterface_writes name args m).frame hname)
  exact Program.run_preserves hsteady hcall (.refl labels)

/-- A call that fails has no label itself, but those in its arguments are made all the same. -/
example :
    ((Program.mk "" .interface (.call classifyProvider [.array [
        .call classifyConnectivity [.literal (.string "isp")],
        .call classifyExternal []]])).runOnInterface {} {} .empty .empty).2.output
      = { connectivity := "isp", boundary := .external } := by
  decide

end LabelRules
