import LabelRules.Expr.Basic

set_option autoImplicit false

/-! # Walking an expression

A depth-first walk enters a node before its children and leaves it after them (`Expr.visits`);
the nodes in the order in which they are left are the post-order (`Expr.postorder`,
`filterMap_left_visits`). A visitor takes a state along (`Expr.walk`); what it does is done step by
step (`walk_eq_foldl`), and one that only acts on leaving goes through the post-order
(`walk_eq_foldl_postorder`).
-/

namespace LabelRules

/-- A step of a walk: a node is entered or left. -/
inductive Visit where
  | enter (e : Expr)
  | leave (e : Expr)
  deriving Inhabited

/-- The node that a step leaves. -/
def Visit.left? : Visit → Option Expr
  | .enter _ => none
  | .leave e => some e

@[simp] theorem Visit.left?_enter (e : Expr) : (Visit.enter e).left? = none := rfl

@[simp] theorem Visit.left?_leave (e : Expr) : (Visit.leave e).left? = some e := rfl

/-- What is done to a state when a node is entered and when it is left. -/
structure Visitor (σ : Type) where
  enter : Expr → σ → σ := fun _ s => s
  leave : Expr → σ → σ := fun _ s => s

/-- What is done to a state at a step. -/
def Visitor.step {σ : Type} (v : Visitor σ) (s : σ) : Visit → σ
  | .enter e => v.enter e s
  | .leave e => v.leave e s

namespace Expr

/-- What kind of node an expression is, with what is written at the node itself. -/
def label : Expr → String
  | .literal v => "literal " ++ v.kind.name
  | .field path => "field " ++ ".".intercalate path
  | .binary op _ _ => "binary " ++ op.symbol
  | .unary op _ => "unary " ++ op.symbol
  | .call name _ => "call " ++ name
  | .ternary _ _ _ => "ternary"
  | .array _ => "array"

mutual

/-- The steps of a depth-first walk. -/
def visits : Expr → List Visit
  | .literal v => [.enter (.literal v), .leave (.literal v)]
  | .field path => [.enter (.field path), .leave (.field path)]
  | .binary op l r =>
    .enter (.binary op l r) :: visits l ++ visits r ++ [.leave (.binary op l r)]
  | .unary op e => .enter (.unary op e) :: visits e ++ [.leave (.unary op e)]
  | .call name args => .enter (.call name args) :: visitsAll args ++ [.leave (.call name args)]
  | .ternary c t f =>
    .enter (.ternary c t f) :: visits c ++ visits t ++ visits f ++ [.leave (.ternary c t f)]
  | .array items => .enter (.array items) :: visitsAll items ++ [.leave (.array items)]

/-- The steps of the walks of a list of expressions, one after the other. -/
def visitsAll : List Expr → List Visit
  | [] => []
  | e :: es => visits e ++ visitsAll es

end

mutual

/-- The nodes of an expression, each one after its children. -/
def postorder : Expr → List Expr
  | .literal v => [.literal v]
  | .field path => [.field path]
  | .binary op l r => postorder l ++ postorder r ++ [.binary op l r]
  | .unary op e => postorder e ++ [.unary op e]
  | .call name args => postorderAll args ++ [.call name args]
  | .ternary c t f => postorder c ++ postorder t ++ postorder f ++ [.ternary c t f]
  | .array items => postorderAll items ++ [.array items]

/-- The nodes of a list of expressions, each one after its children. -/
def postorderAll : List Expr → List Expr
  | [] => []
  | e :: es => postorder e ++ postorderAll es

end

/-- An expression is the last one of its nodes. -/
theorem exists_postorder (e : Expr) : ∃ below, e.postorder = below ++ [e] := by
  cases e with
  | literal | field => exact ⟨[], rfl⟩
  | binary | unary | call | ternary | array => exact ⟨_, rfl⟩

theorem self_mem_postorder (e : Expr) : e ∈ e.postorder := by
  obtain ⟨below, hnodes⟩ := e.exists_postorder
  simp [hnodes]

mutual

/-- The post-order is the order in which a walk leaves the nodes. -/
theorem filterMap_left_visits (e : Expr) : e.visits.filterMap Visit.left? = e.postorder := by
  cases e with
  | literal v => simp [visits, postorder, List.filterMap_cons]
  | field path => simp [visits, postorder, List.filterMap_cons]
  | binary op l r =>
      simp [visits, postorder, List.filterMap_cons, filterMap_left_visits l,
        filterMap_left_visits r]
  | unary op e => simp [visits, postorder, List.filterMap_cons, filterMap_left_visits e]
  | call name args =>
      simp [visits, postorder, List.filterMap_cons, filterMap_left_visitsAll args]
  | ternary c t f =>
      simp [visits, postorder, List.filterMap_cons, filterMap_left_visits c, filterMap_left_visits t,
        filterMap_left_visits f]
  | array items =>
      simp [visits, postorder, List.filterMap_cons, filterMap_left_visitsAll items]

theorem filterMap_left_visitsAll (es : List Expr) :
    (visitsAll es).filterMap Visit.left? = postorderAll es := by
  cases es with
  | nil => simp [visitsAll, postorderAll]
  | cons e es =>
      simp [visitsAll, postorderAll, filterMap_left_visits e, filterMap_left_visitsAll es]

end

/-! ## Visitors -/

section Walk

variable {σ : Type} (v : Visitor σ)

mutual

/-- Walks an expression depth-first with a visitor. -/
def walk (s : σ) : Expr → σ
  | .literal x => v.leave (.literal x) (v.enter (.literal x) s)
  | .field path => v.leave (.field path) (v.enter (.field path) s)
  | .binary op l r =>
    v.leave (.binary op l r) (walk (walk (v.enter (.binary op l r) s) l) r)
  | .unary op e => v.leave (.unary op e) (walk (v.enter (.unary op e) s) e)
  | .call name args => v.leave (.call name args) (walkAll (v.enter (.call name args) s) args)
  | .ternary c t f =>
    v.leave (.ternary c t f) (walk (walk (walk (v.enter (.ternary c t f) s) c) t) f)
  | .array items => v.leave (.array items) (walkAll (v.enter (.array items) s) items)

/-- Walks a list of expressions, one after the other. -/
def walkAll (s : σ) : List Expr → σ
  | [] => s
  | e :: es => walkAll (walk s e) es

end

mutual

theorem walk_eq_foldl (s : σ) (e : Expr) : walk v s e = e.visits.foldl v.step s := by
  cases e with
  | literal x => rfl
  | field path => rfl
  | binary op l r =>
      rw [walk, walk_eq_foldl _ l, walk_eq_foldl _ r]
      simp [visits, Visitor.step]
  | unary op e =>
      rw [walk, walk_eq_foldl _ e]
      simp [visits, Visitor.step]
  | call name args =>
      rw [walk, walkAll_eq_foldl _ args]
      simp [visits, Visitor.step]
  | ternary c t f =>
      rw [walk, walk_eq_foldl _ c, walk_eq_foldl _ t, walk_eq_foldl _ f]
      simp [visits, Visitor.step]
  | array items =>
      rw [walk, walkAll_eq_foldl _ items]
      simp [visits, Visitor.step]

theorem walkAll_eq_foldl (s : σ) (es : List Expr) :
    walkAll v s es = (visitsAll es).foldl v.step s := by
  cases es with
  | nil => rfl
  | cons e es =>
      rw [walkAll, walk_eq_foldl s e, walkAll_eq_foldl _ es]
      simp [visitsAll]

end

/-- A visitor that does nothing on entering a node acts on the nodes in post-order. -/
theorem walk_eq_foldl_postorder (henter : ∀ e s, v.enter e s = s) (s : σ) (e : Expr) :
    walk v s e = e.postorder.foldl (fun s node => v.leave node s) s := by
  rw [walk_eq_foldl, ← filterMap_left_visits, List.foldl_filterMap]
  congr 1
  funext s visit
  cases visit with
  | enter e => exact henter e s
  | leave e => rfl

end Walk

end Expr

end LabelRules
