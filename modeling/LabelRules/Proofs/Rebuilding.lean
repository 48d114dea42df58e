import LabelRules.Proofs.Contexts

set_option autoImplicit false

/-! # Changes all over an expression

An expression is rebuilt from its leaves up, with a change made to each node after its children
(`Expr.rebuild`); what is changed may depend on where the node stands. A preorder that every frame
keeps, and that takes each node to what it is changed to, takes the whole expression to the rebuilt
one (`Congruence.rebuild`). What a change brings about at a node, whatever is below it, rebuilding
brings about everywhere (`forall_mem_postorder_rebuild`).
-/

namespace LabelRules

namespace Expr

mutual

/-- The expression with a change made to each of its nodes, after those below it. The place of a
node is the way to it from the root, the last step first: at each step the number of a child. -/
def rebuild (change : List Nat → Expr → Expr) (place : List Nat) : Expr → Expr
  | .literal v => change place (.literal v)
  | .field path => change place (.field path)
  | .binary op l r =>
    change place (.binary op (rebuild change (0 :: place) l) (rebuild change (1 :: place) r))
  | .unary op e => change place (.unary op (rebuild change (0 :: place) e))
  | .call name args => change place (.call name (rebuildAll change place 0 args))
  | .ternary c t f =>
    change place (.ternary (rebuild change (0 :: place) c) (rebuild change (1 :: place) t)
      (rebuild change (2 :: place) f))
  | .array items => change place (.array (rebuildAll change place 0 items))

/-- The children of a node from a number on, each of them rebuilt. -/
def rebuildAll (change : List Nat → Expr → Expr) (place : List Nat) (number : Nat) :
    List Expr → List Expr
  | [] => []
  | e :: es => rebuild change (number :: place) e :: rebuildAll change place (number + 1) es

end

end Expr

/-! ## Relations that frames keep -/

/-- A preorder of expressions that every frame keeps. -/
structure Congruence (R : Expr → Expr → Prop) : Prop where
  refl (e : Expr) : R e e
  trans {a b c : Expr} : R a b → R b c → R a c
  fill {a b : Expr} (frame : Frame) : R a b → R (frame.fill a) (frame.fill b)

namespace Congruence

variable {R : Expr → Expr → Prop} {change : List Nat → Expr → Expr}

/-- If one child of a node may be exchanged, all of them may. -/
theorem children (hR : Congruence R) {node : List Expr → Expr}
    (hnode : ∀ (front back : List Expr) {a b : Expr}, R a b →
      R (node (front ++ a :: back)) (node (front ++ b :: back)))
    {es es' : List Expr} (h : List.Forall₂ R es es') (front : List Expr) :
    R (node (front ++ es)) (node (front ++ es')) := by
  induction h generalizing front with
  | nil => exact hR.refl _
  | @cons a b es es' hab _ ih =>
      have hrest := ih (front ++ [b])
      simp only [List.append_assoc, List.singleton_append] at hrest
      exact hR.trans (hnode front es hab) hrest

mutual

theorem rebuild (hR : Congruence R) (hchange : ∀ place e, R e (change place e))
    (place : List Nat) (e : Expr) : R e (e.rebuild change place) := by
  cases e with
  | literal v => exact hchange place (.literal v)
  | field path => exact hchange place (.field path)
  | binary op l r =>
      have hl := hR.fill (.left op r) (rebuild hR hchange (0 :: place) l)
      have hr := hR.fill (.right op (l.rebuild change (0 :: place)))
        (rebuild hR hchange (1 :: place) r)
      exact hR.trans (hR.trans hl hr) (hchange place _)
  | unary op e =>
      have he := hR.fill (.operand op) (rebuild hR hchange (0 :: place) e)
      exact hR.trans he (hchange place _)
  | call name args =>
      have hargs := hR.children (fun front back _ _ => hR.fill (.argument name front back))
        (rebuildAll hR hchange place 0 args) []
      exact hR.trans hargs (hchange place _)
  | ternary c t f =>
      have hc := hR.fill (.condition t f) (rebuild hR hchange (0 :: place) c)
      have ht := hR.fill (.whenTrue (c.rebuild change (0 :: place)) f)
        (rebuild hR hchange (1 :: place) t)
      have hf := hR.fill
        (.whenFalse (c.rebuild change (0 :: place)) (t.rebuild change (1 :: place)))
        (rebuild hR hchange (2 :: place) f)
      exact hR.trans (hR.trans hc (hR.trans ht hf)) (hchange place _)
  | array items =>
      have hitems := hR.children (fun front back _ _ => hR.fill (.item front back))
        (rebuildAll hR hchange place 0 items) []
      exact hR.trans hitems (hchange place _)

theorem rebuildAll (hR : Congruence R) (hchange : ∀ place e, R e (change place e))
    (place : List Nat) (number : Nat) (es : List Expr) :
    List.Forall₂ R es (Expr.rebuildAll change place number es) := by
  cases es with
  | nil => exact .nil
  | cons e es =>
      exact .cons (rebuild hR hchange (number :: place) e)
        (rebuildAll hR hchange place (number + 1) es)

end

end Congruence

/-! ## What holds of all nodes -/

section Nodes

variable {P : Expr → Prop} {change : List Nat → Expr → Expr}

mutual

/-- If a change makes a property hold of all nodes as soon as it holds of those below, it holds of
all nodes of the rebuilt expression. -/
theorem forall_mem_postorder_rebuild
    (hchange : ∀ place e, (∀ node ∈ e.postorder.dropLast, P node) →
      ∀ node ∈ (change place e).postorder, P node)
    (place : List Nat) (e : Expr) : ∀ node ∈ (e.rebuild change place).postorder, P node := by
  cases e with
  | literal v => exact hchange place (.literal v) (by simp [Expr.postorder])
  | field path => exact hchange place (.field path) (by simp [Expr.postorder])
  | binary op l r =>
      have hl := forall_mem_postorder_rebuild hchange (0 :: place) l
      have hr := forall_mem_postorder_rebuild hchange (1 :: place) r
      refine hchange place _ ?_
      rw [Expr.postorder, List.dropLast_concat]
      exact List.forall_mem_append.2 ⟨hl, hr⟩
  | unary op e =>
      have he := forall_mem_postorder_rebuild hchange (0 :: place) e
      refine hchange place _ ?_
      rw [Expr.postorder, List.dropLast_concat]
      exact he
  | call name args =>
      have hargs := forall_mem_postorderAll_rebuildAll hchange place 0 args
      refine hchange place _ ?_
      rw [Expr.postorder, List.dropLast_concat]
      exact hargs
  | ternary c t f =>
      have hc := forall_mem_postorder_rebuild hchange (0 :: place) c
      have ht := forall_mem_postorder_rebuild hchange (1 :: place) t
      have hf := forall_mem_postorder_rebuild hchange (2 :: place) f
      refine hchange place _ ?_
      rw [Expr.postorder, List.dropLast_concat]
      exact List.forall_mem_append.2 ⟨List.forall_mem_append.2 ⟨hc, ht⟩, hf⟩
  | array items =>
      have hitems := forall_mem_postorderAll_rebuildAll hchange place 0 items
      refine hchange place _ ?_
      rw [Expr.postorder, List.dropLast_concat]
      exact hitems

theorem forall_mem_postorderAll_rebuildAll
    (hchange : ∀ place e, (∀ node ∈ e.postorder.dropLast, P node) →
      ∀ node ∈ (change place e).postorder, P node)
    (place : List Nat) (number : Nat) (es : List Expr) :
    ∀ node ∈ Expr.postorderAll (Expr.rebuildAll change place number es), P node := by
  cases es with
  | nil => simp [Expr.rebuildAll, Expr.postorderAll]
  | cons e es =>
      have he := forall_mem_postorder_rebuild hchange (number :: place) e
      have hes := forall_mem_postorderAll_rebuildAll hchange place (number + 1) es
      rw [Expr.rebuildAll, Expr.postorderAll]
      exact List.forall_mem_append.2 ⟨he, hes⟩

end

end Nodes

end LabelRules
