import LabelRules.Expr.Walk
import LabelRules.Proofs.Outcome
import Mathlib.Logic.Relation

set_option autoImplicit false

/-! # What an evaluation reaches

An evaluation needs some of the children of an expression and passes over others (`Needs`); it
reaches what it needs of what it reaches (`Reaches`). Nothing catches an error, so the evaluation
of an expression fails as soon as one that it reaches fails (`Reaches.fails`). What is reached is a
node of the expression (`Reaches.mem_postorder`).
-/

namespace LabelRules

/-! ## Nodes -/

namespace Expr

theorem postorder_subset_of_mem {e : Expr} {es : List Expr} (h : e ∈ es) :
    e.postorder ⊆ postorderAll es := by
  induction es with
  | nil => simp at h
  | cons a as ih =>
      rw [postorderAll]
      rcases List.mem_cons.1 h with rfl | h
      · exact List.subset_append_left _ _
      · exact List.subset_append_of_subset_right _ (ih h)

end Expr

/-! ## Needed children -/

variable {σ : Type}

/-- Evaluating the first expression comes to the second one, a child of it: what is evaluated
before it returns, and the value of a condition or of a logical operand asks for it. -/
inductive Needs (env : Environment σ) : Expr → Expr → Prop
  | left {op : Operator} {l r : Expr} : Needs env (.binary op l r) l
  | right {op : Operator} {l r : Expr} {v : Value} (hand : op ≠ .and) (hor : op ≠ .or)
      (hl : (evaluate env l).Returns v) : Needs env (.binary op l r) r
  | andRight {l r : Expr} (hl : (evaluate env l).Returns (.bool true)) :
      Needs env (.binary .and l r) r
  | orRight {l r : Expr} (hl : (evaluate env l).Returns (.bool false)) :
      Needs env (.binary .or l r) r
  | operand {op : UnaryOp} {e : Expr} : Needs env (.unary op e) e
  | argument {name : String} {before after : List Expr} {e : Expr}
      (hbefore : ∀ b ∈ before, ∃ v, (evaluate env b).Returns v) :
      Needs env (.call name (before ++ e :: after)) e
  | condition {c t f : Expr} : Needs env (.ternary c t f) c
  | whenTrue {c t f : Expr} (hc : (evaluate env c).Returns (.bool true)) :
      Needs env (.ternary c t f) t
  | whenFalse {c t f : Expr} (hc : (evaluate env c).Returns (.bool false)) :
      Needs env (.ternary c t f) f
  | item {before after : List Expr} {e : Expr}
      (hbefore : ∀ b ∈ before, ∃ v, (evaluate env b).Returns v) :
      Needs env (.array (before ++ e :: after)) e

/-- Evaluating the first expression comes to the second one, the expression itself or a node
inside it. -/
def Reaches (env : Environment σ) : Expr → Expr → Prop := Relation.ReflTransGen (Needs env)

section Fails

variable {env : Environment σ} {error : RunError}

/-- An operator other than `&&` and `||` evaluates both operands first. -/
theorem evaluate_binary {op : Operator} (hand : op ≠ .and) (hor : op ≠ .or) (l r : Expr) :
    evaluate env (.binary op l r) = (do
      let left ← evaluate env l
      let right ← evaluate env r
      if op.isComparison then
        return .bool (← Run.ofExcept ((op.compare left right).mapError .invalidOperation))
      else op.apply left right) := by
  rw [evaluate]
  · exact hand
  · exact hor

/-- A comparison only has the values of its operands to look at. -/
theorem evaluate_comparison {op : Operator} (hop : op.isComparison = true) (l r : Expr) :
    evaluate env (.binary op l r) = (do
      let left ← evaluate env l
      let right ← evaluate env r
      return .bool (← Run.ofExcept ((op.compare left right).mapError .invalidOperation))) := by
  have hand : op ≠ .and := by
    rintro rfl
    cases hop
  have hor : op ≠ .or := by
    rintro rfl
    cases hop
  simp only [evaluate_binary hand hor, hop, if_true]

theorem evaluateAll_fails {before after : List Expr} {e : Expr}
    (hbefore : ∀ b ∈ before, ∃ v, (evaluate env b).Returns v) (he : (evaluate env e).Fails error) :
    (evaluateAll env (before ++ e :: after)).Fails error := by
  induction before with
  | nil =>
      rw [List.nil_append, evaluateAll]
      exact he.bind _
  | cons b bs ih =>
      obtain ⟨v, hv⟩ := hbefore b List.mem_cons_self
      have hrest := ih fun c hc => hbefore c (List.mem_cons_of_mem b hc)
      rw [List.cons_append, evaluateAll]
      exact hv.bind_fails (hrest.bind _)

/-- An expression fails with a child that it needs. -/
theorem Needs.fails {e child : Expr} (h : Needs env e child)
    (hchild : (evaluate env child).Fails error) : (evaluate env e).Fails error := by
  cases h with
  | left =>
      unfold evaluate
      split
      · exact hchild.bind _
      · exact hchild.bind _
      · exact hchild.bind _
  | right hand hor hl =>
      rw [evaluate_binary hand hor]
      exact hl.bind_fails (hchild.bind _)
  | andRight hl =>
      rw [evaluate]
      exact hl.bind_fails (hchild.bind _)
  | orRight hl =>
      rw [evaluate]
      exact hl.bind_fails (hchild.bind _)
  | operand =>
      rw [evaluate]
      exact hchild.bind _
  | argument hbefore =>
      rw [evaluate]
      exact (evaluateAll_fails hbefore hchild).bind _
  | condition =>
      rw [evaluate]
      exact hchild.bind _
  | whenTrue hc =>
      rw [evaluate]
      exact hc.bind_fails hchild
  | whenFalse hc =>
      rw [evaluate]
      exact hc.bind_fails hchild
  | item hbefore =>
      rw [evaluate]
      exact (evaluateAll_fails hbefore hchild).bind _

/-- An expression fails with whatever it reaches. -/
theorem Reaches.fails {e node : Expr} (h : Reaches env e node)
    (hnode : (evaluate env node).Fails error) : (evaluate env e).Fails error := by
  induction h using Relation.ReflTransGen.head_induction_on with
  | refl => exact hnode
  | head hneeds _ ih => exact hneeds.fails ih

end Fails

/-! ## What is reached is a node -/

theorem Needs.postorder_subset {env : Environment σ} {e child : Expr} (h : Needs env e child) :
    child.postorder ⊆ e.postorder := by
  cases h with
  | left => simp [Expr.postorder]
  | right => simp [Expr.postorder]
  | andRight => simp [Expr.postorder]
  | orRight => simp [Expr.postorder]
  | operand => simp [Expr.postorder]
  | argument =>
      exact List.subset_append_of_subset_left _ (Expr.postorder_subset_of_mem (by simp))
  | condition => simp [Expr.postorder]
  | whenTrue => simp [Expr.postorder]
  | whenFalse => exact List.subset_append_of_subset_left _ (List.subset_append_right _ _)
  | item => exact List.subset_append_of_subset_left _ (Expr.postorder_subset_of_mem (by simp))

theorem Reaches.mem_postorder {env : Environment σ} {e node : Expr} (h : Reaches env e node) :
    node ∈ e.postorder := by
  induction h using Relation.ReflTransGen.head_induction_on with
  | refl => exact node.self_mem_postorder
  | head hneeds _ ih => exact hneeds.postorder_subset ih

end LabelRules
