import LabelRules.Proofs.Effects

set_option autoImplicit false

/-! # The nodes that have effects

Two kinds of node do something by themselves, after their children have returned: a `matches` on two
strings fetches the right one, and a call calls its function (`DoneAt`). What an evaluation does is
exactly what the nodes do that it reaches (`mem_effects_iff`): a side that is passed over, a branch
that is not taken, and whatever comes after a failure do nothing.
-/

namespace LabelRules

variable {σ α : Type}

/-- What a node does by itself, after its children have returned. -/
inductive DoneAt (env : Environment σ) : Expr → Effect → Prop
  | fetch {l r : Expr} {s text : String} (hl : (evaluate env l).Returns (.string s))
      (hr : (evaluate env r).Returns (.string text)) :
      DoneAt env (.binary .matches l r) (.fetch text)
  | call {name : String} {args : List Expr} {vs : List Value}
      (hargs : (evaluateAll env args).Returns vs) : DoneAt env (.call name args) (.call name vs)

/-- What a node does that the evaluation of an expression reaches. -/
def DoneWithin (env : Environment σ) (e : Expr) (effect : Effect) : Prop :=
  ∃ node, Reaches env e node ∧ DoneAt env node effect

theorem DoneWithin.of_needs {env : Environment σ} {e child : Expr} {effect : Effect}
    (h : DoneWithin env child effect) (hneeds : Needs env e child) : DoneWithin env e effect := by
  obtain ⟨node, hreaches, hdone⟩ := h
  exact ⟨node, .head hneeds hreaches, hdone⟩

theorem Operator.mem_effects_iff {op : Operator} {left right : Value} {effect : Effect} :
    effect ∈ op.effects left right ↔
      ∃ s text, op = .matches ∧ left = .string s ∧ right = .string text
        ∧ effect = .fetch text := by
  unfold effects
  split
  · simp
  · next hmatches =>
      constructor
      · intro h
        cases h
      · rintro ⟨s, text, hop, hleft, hright, -⟩
        exact absurd hright (hmatches s text hop hleft)

/-- A run whose result does not depend on the memory goes on with the one value that it returns. -/
theorem Run.mem_followedBy_iff {x : Run σ α} (hx : x.Steady) {m : Memory σ}
    {next : α → Memory σ → List Effect} {effect : Effect} :
    effect ∈ x.followedBy m next ↔ ∃ a, x.Returns a ∧ effect ∈ next a (x.exec m).2 := by
  unfold followedBy
  rcases hexec : x.exec m with ⟨r, m'⟩
  -- What is returned from this memory is returned from all of them.
  have hresult : ∀ n, (x.exec n).1 = r := fun n => by rw [hx.result_eq n m, hexec]
  cases r with
  | ok a =>
      constructor
      · intro h
        exact ⟨a, hresult, h⟩
      · rintro ⟨b, hb, h⟩
        obtain rfl : a = b := Except.ok.inj ((hresult m).symm.trans (hb m))
        exact h
  | error e =>
      constructor
      · intro h
        cases h
      · rintro ⟨b, hb, -⟩
        cases (hresult m).symm.trans (hb m)

theorem Value.condition_eq_ok_iff {v : Value} {b : Bool} : v.condition = .ok b ↔ v = .bool b := by
  rw [← asBool_eq_ok_iff, condition]
  cases v.asBool with
  | ok c =>
      have hok : (Except.ok c : Except Mismatch Bool).mapError RunError.mismatch = .ok c := rfl
      rw [hok, Except.ok.injEq, Except.ok.injEq]
  | error e => exact ⟨nofun, nofun⟩

section Reached

variable {env : Environment σ} {effect : Effect}

theorem evaluateCondition_returns_iff {e : Expr} {b : Bool} :
    (evaluateCondition env e).Returns b ↔ (evaluate env e).Returns (.bool b) := by
  unfold Run.Returns evaluateCondition
  refine forall_congr' fun m => ?_
  rw [Run.exec_bind]
  rcases (evaluate env e).exec m with ⟨r, m'⟩
  cases r with
  | ok v => simp only [Run.exec_ofExcept, Value.condition_eq_ok_iff, Except.ok.injEq]
  | error e => simp only [reduceCtorEq]

/-- `&&` and `||` ask for their right operand unless they pass over it. -/
theorem Needs.of_logical {op : Operator} (hop : op.isLogical = true) {l r : Expr} {left : Bool}
    (hl : (evaluate env l).Returns (.bool left)) (hpass : op.passesOver left ≠ true) :
    Needs env (.binary op l r) r := by
  rcases Operator.isLogical_iff.1 hop with rfl | rfl
  · cases left with
    | true => exact .andRight hl
    | false => exact absurd rfl hpass
  · cases left with
    | true => exact absurd rfl hpass
    | false => exact .orRight hl

/-! ## What a node adds to its children -/

section Nodes

variable (henv : env.InStep (fun _ _ => True) env) {m : Memory σ}

include henv

theorem mem_effects_logical {op : Operator} (hop : op.isLogical = true) {l r : Expr} :
    effect ∈ effects env m (.binary op l r) ↔
      effect ∈ effects env m l ∨ ∃ left, (evaluate env l).Returns (.bool left)
        ∧ op.passesOver left ≠ true
        ∧ effect ∈ effects env ((evaluateCondition env l).exec m).2 r := by
  rw [effects, List.mem_append, if_pos hop,
    Run.mem_followedBy_iff (evaluateCondition_inStep henv l)]
  refine or_congr_right (exists_congr fun left => ?_)
  rw [evaluateCondition_returns_iff]
  split
  · next hpass => simp [hpass]
  · next hpass => simp [hpass]

theorem mem_effects_strict {op : Operator} (hop : op.isLogical = false) {l r : Expr} :
    effect ∈ effects env m (.binary op l r) ↔
      effect ∈ effects env m l ∨ ∃ left, (evaluate env l).Returns left
        ∧ (effect ∈ effects env ((evaluate env l).exec m).2 r
          ∨ ∃ right, (evaluate env r).Returns right ∧ effect ∈ op.effects left right) := by
  rw [effects, List.mem_append, if_neg (by rw [hop]; decide),
    Run.mem_followedBy_iff (evaluate_inStep henv l)]
  simp only [List.mem_append, Run.mem_followedBy_iff (evaluate_inStep henv r)]

theorem mem_effects_call {name : String} {args : List Expr} :
    effect ∈ effects env m (.call name args) ↔
      effect ∈ effectsAll env m args
        ∨ ∃ vs, (evaluateAll env args).Returns vs ∧ effect = .call name vs := by
  rw [effects, List.mem_append, Run.mem_followedBy_iff (evaluateAll_inStep henv args)]
  simp only [List.mem_singleton]

theorem mem_effects_ternary {c t f : Expr} :
    effect ∈ effects env m (.ternary c t f) ↔
      effect ∈ effects env m c ∨ ∃ condition, (evaluate env c).Returns (.bool condition)
        ∧ effect ∈ effects env ((evaluateCondition env c).exec m).2
          (if condition then t else f) := by
  rw [effects, List.mem_append, Run.mem_followedBy_iff (evaluateCondition_inStep henv c)]
  refine or_congr_right (exists_congr fun condition => ?_)
  rw [evaluateCondition_returns_iff]
  cases condition with
  | true => rfl
  | false => rfl

theorem mem_effectsAll_cons {e : Expr} {es : List Expr} :
    effect ∈ effectsAll env m (e :: es) ↔
      effect ∈ effects env m e ∨ ∃ v, (evaluate env e).Returns v
        ∧ effect ∈ effectsAll env ((evaluate env e).exec m).2 es := by
  rw [effectsAll, List.mem_append, Run.mem_followedBy_iff (evaluate_inStep henv e)]

end Nodes

/-! ## What is done is done at a node that is reached -/

mutual

theorem doneWithin_of_mem (henv : env.InStep (fun _ _ => True) env) (e : Expr) {m : Memory σ}
    (h : effect ∈ effects env m e) : DoneWithin env e effect := by
  cases e with
  | literal v => cases h
  | field path => cases h
  | binary op l r =>
      -- The right operand is evaluated from a memory of its own.
      have hright {n : Memory σ} (h : effect ∈ effects env n r) := doneWithin_of_mem henv r h
      cases hop : op.isLogical with
      | true =>
          rcases (mem_effects_logical henv hop).1 h with h | ⟨left, hl, hpass, h⟩
          · exact (doneWithin_of_mem henv l h).of_needs .left
          · exact (hright h).of_needs (Needs.of_logical hop hl hpass)
      | false =>
          rcases (mem_effects_strict henv hop).1 h with h | ⟨left, hl, h | ⟨right, hr, h⟩⟩
          · exact (doneWithin_of_mem henv l h).of_needs .left
          · obtain ⟨hand, hor⟩ := Operator.isLogical_eq_false_iff.1 hop
            exact (hright h).of_needs (.right hand hor hl)
          · obtain ⟨s, text, rfl, rfl, rfl, rfl⟩ := Operator.mem_effects_iff.1 h
            exact ⟨_, .refl, .fetch hl hr⟩
  | unary op e => exact (doneWithin_of_mem henv e h).of_needs .operand
  | call name args =>
      rcases (mem_effects_call henv).1 h with h | ⟨vs, hargs, rfl⟩
      · obtain ⟨before, e, after, rfl, hbefore, hdone⟩ := doneWithin_of_memAll henv args h
        exact hdone.of_needs (.argument hbefore)
      · exact ⟨_, .refl, .call hargs⟩
  | ternary c t f =>
      have htrue {n : Memory σ} (h : effect ∈ effects env n t) := doneWithin_of_mem henv t h
      have hfalse {n : Memory σ} (h : effect ∈ effects env n f) := doneWithin_of_mem henv f h
      rcases (mem_effects_ternary henv).1 h with h | ⟨condition, hc, h⟩
      · exact (doneWithin_of_mem henv c h).of_needs .condition
      · cases condition with
        | true => exact (htrue h).of_needs (.whenTrue hc)
        | false => exact (hfalse h).of_needs (.whenFalse hc)
  | array items =>
      obtain ⟨before, e, after, rfl, hbefore, hdone⟩ := doneWithin_of_memAll henv items h
      exact hdone.of_needs (.item hbefore)

theorem doneWithin_of_memAll (henv : env.InStep (fun _ _ => True) env) (es : List Expr)
    {m : Memory σ} (h : effect ∈ effectsAll env m es) :
    ∃ before e after, es = before ++ e :: after
      ∧ (∀ b ∈ before, ∃ v, (evaluate env b).Returns v) ∧ DoneWithin env e effect := by
  cases es with
  | nil => cases h
  | cons e es =>
      have hrest {n : Memory σ} (h : effect ∈ effectsAll env n es) :=
        doneWithin_of_memAll henv es h
      rcases (mem_effectsAll_cons henv).1 h with h | ⟨v, hv, h⟩
      · exact ⟨[], e, es, rfl, by simp, doneWithin_of_mem henv e h⟩
      · obtain ⟨before, e', after, rfl, hbefore, hdone⟩ := hrest h
        refine ⟨e :: before, e', after, rfl, ?_, hdone⟩
        intro b hb
        rcases List.mem_cons.1 hb with rfl | hb
        · exact ⟨v, hv⟩
        · exact hbefore b hb

end

/-! ## What a node does that is reached is done -/

theorem DoneAt.mem_effects (henv : env.InStep (fun _ _ => True) env) {node : Expr}
    (h : DoneAt env node effect) (m : Memory σ) : effect ∈ effects env m node := by
  cases h with
  | fetch hl hr =>
      rw [mem_effects_strict henv (by decide)]
      exact .inr ⟨_, hl, .inr ⟨_, hr, List.mem_singleton_self _⟩⟩
  | call hargs =>
      rw [mem_effects_call henv]
      exact .inr ⟨_, hargs, rfl⟩

theorem mem_effectsAll (henv : env.InStep (fun _ _ => True) env) {before after : List Expr}
    {e : Expr} (hbefore : ∀ b ∈ before, ∃ v, (evaluate env b).Returns v)
    (h : ∀ m, effect ∈ effects env m e) (m : Memory σ) :
    effect ∈ effectsAll env m (before ++ e :: after) := by
  induction before generalizing m with
  | nil => exact (mem_effectsAll_cons henv).2 (.inl (h m))
  | cons b bs ih =>
      obtain ⟨v, hv⟩ := hbefore b List.mem_cons_self
      have hrest := ih fun c hc => hbefore c (List.mem_cons_of_mem b hc)
      exact (mem_effectsAll_cons henv).2 (.inr ⟨v, hv, hrest _⟩)

/-- What a needed child does, the expression does. -/
theorem Needs.mem_effects (henv : env.InStep (fun _ _ => True) env) {e child : Expr}
    (hneeds : Needs env e child) (h : ∀ m, effect ∈ effects env m child) (m : Memory σ) :
    effect ∈ effects env m e := by
  cases hneeds with
  | left => exact List.mem_append_left _ (h m)
  | right hand hor hl =>
      rw [mem_effects_strict henv (Operator.isLogical_eq_false_iff.2 ⟨hand, hor⟩)]
      exact .inr ⟨_, hl, .inl (h _)⟩
  | andRight hl =>
      rw [mem_effects_logical henv rfl]
      exact .inr ⟨true, hl, by decide, h _⟩
  | orRight hl =>
      rw [mem_effects_logical henv rfl]
      exact .inr ⟨false, hl, by decide, h _⟩
  | operand => exact h m
  | argument hbefore =>
      rw [mem_effects_call henv]
      exact .inl (mem_effectsAll henv hbefore h m)
  | condition =>
      rw [mem_effects_ternary henv]
      exact .inl (h m)
  | whenTrue hc =>
      rw [mem_effects_ternary henv]
      exact .inr ⟨true, hc, h _⟩
  | whenFalse hc =>
      rw [mem_effects_ternary henv]
      exact .inr ⟨false, hc, h _⟩
  | item hbefore => exact mem_effectsAll henv hbefore h m

/-- **What is done is what the nodes that are reached do.** -/
theorem mem_effects_iff (henv : env.InStep (fun _ _ => True) env) {e : Expr} {m : Memory σ} :
    effect ∈ effects env m e ↔ DoneWithin env e effect := by
  refine ⟨doneWithin_of_mem henv e, ?_⟩
  rintro ⟨node, hreaches, hdone⟩
  induction hreaches using Relation.ReflTransGen.head_induction_on generalizing m with
  | refl => exact hdone.mem_effects henv m
  | head hneeds _ ih => exact hneeds.mem_effects henv (fun _ => ih) m

end Reached

end LabelRules
