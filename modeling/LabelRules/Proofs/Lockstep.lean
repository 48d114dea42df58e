import LabelRules.Evaluation.Basic

set_option autoImplicit false

/-! # Two runs in step

Two runs are **in step** along a relation of memories if, from related memories, they have the same
result and end in related memories (`Run.InStep`). Evaluation never looks at its memory by itself,
so two evaluations of one expression are in step as soon as their environments have the same fields
and their calls are in step (`evaluate_inStep`, `Program.run_inStep`), where only the fields and the
functions at the nodes of the expression count (`evaluate_inStepOn`, `Program.run_inStepOn`). Along
the relation that always holds this says that the result does not depend on the memory
(`Run.Steady`).
-/

namespace LabelRules

variable {σ τ α β : Type}

/-- A relation of memories that fetching a pattern on both sides preserves. -/
def FetchStable (R : Memory σ → Memory τ → Prop) : Prop :=
  ∀ (m : Memory σ) (m' : Memory τ) (text : String), R m m' →
    R ⟨m.output, (m.cache.fetch text).2⟩ ⟨m'.output, (m'.cache.fetch text).2⟩

namespace Run

/-- From related memories two runs have the same result and end in related memories. -/
def InStep (R : Memory σ → Memory τ → Prop) (x : Run σ α) (y : Run τ α) : Prop :=
  ∀ (m : Memory σ) (m' : Memory τ), R m m' →
    (x.exec m).1 = (y.exec m').1 ∧ R (x.exec m).2 (y.exec m').2

/-! ## The operations of runs -/

namespace InStep

variable {R : Memory σ → Memory τ → Prop}

theorem pure (a : α) : InStep R (Pure.pure a) (Pure.pure a) :=
  fun _ _ h => ⟨rfl, h⟩

theorem throw (e : RunError) :
    InStep R (MonadExcept.throw e : Run σ α) (MonadExcept.throw e : Run τ α) :=
  fun _ _ h => ⟨rfl, h⟩

theorem ofExcept (r : Except RunError α) : InStep R (Run.ofExcept r) (Run.ofExcept r) := by
  intro m m' h
  rw [exec_ofExcept, exec_ofExcept]
  exact ⟨rfl, h⟩

/-- Running on after two runs in step; both have the same result, so both go on or both fail. -/
theorem bind {x : Run σ α} {y : Run τ α} {f : α → Run σ β} {g : α → Run τ β}
    (hxy : InStep R x y) (hfg : ∀ a, InStep R (f a) (g a)) : InStep R (x >>= f) (y >>= g) := by
  intro m m' h
  obtain ⟨hresult, hmemory⟩ := hxy m m' h
  rw [exec_bind, exec_bind]
  rcases hx : x.exec m with ⟨r, n⟩
  rcases hy : y.exec m' with ⟨r', n'⟩
  rw [hx, hy] at hresult hmemory
  simp only at hresult hmemory
  subst hresult
  cases r with
  | ok a => exact hfg a n n' hmemory
  | error e => exact ⟨rfl, hmemory⟩

/-- What is fetched does not depend on the cache. -/
theorem pattern (hR : FetchStable R) (text : String) :
    InStep R (Run.pattern text) (Run.pattern text) := by
  intro m m' h
  rw [exec_pattern, exec_pattern, Cache.fst_fetch, Cache.fst_fetch]
  exact ⟨rfl, hR m m' text h⟩

theorem change {f : σ → σ} {g : τ → τ}
    (h : ∀ (m : Memory σ) (m' : Memory τ), R m m' →
      R ⟨f m.output, m.cache⟩ ⟨g m'.output, m'.cache⟩) :
    InStep R (Run.change f) (Run.change g) :=
  fun m m' hR => ⟨rfl, h m m' hR⟩

end InStep

end Run

/-! ## Operators -/

/-- An operator only looks at its operands, and fetches a pattern at most. -/
theorem Operator.apply_inStep {R : Memory σ → Memory τ → Prop} (hR : FetchStable R)
    (op : Operator) (left right : Value) :
    Run.InStep R (op.apply left right) (op.apply left right) := by
  have hotherwise : ∀ v w : Value, Run.InStep R (onPresent.otherwise op v w)
      (onPresent.otherwise op v w) := by
    intro v w
    unfold onPresent.otherwise
    split
    · exact .ofExcept _
    · exact .throw _
  unfold Operator.apply
  split
  -- One of the operands is `nil`.
  · exact .pure _
  · exact .pure _
  · unfold Operator.onPresent
    split
    · split
      · exact .pure _
      · exact .pure _
      · exact .pure _
      · exact .pure _
      · exact .bind (.pattern hR _) fun _ => .pure _
      · exact hotherwise _ _
    · split
      · exact .pure _
      · exact .pure _
      · exact hotherwise _ _
    · exact hotherwise _ _

/-! ## Expressions -/

/-- Two environments that have the same values of the fields among some nodes, and whose calls of
the functions among them are in step. -/
structure Environment.InStepOn (nodes : List Expr) (R : Memory σ → Memory τ → Prop)
    (env : Environment σ) (env' : Environment τ) : Prop where
  field : ∀ variableName field, .field [variableName, field] ∈ nodes →
    env.field variableName field = env'.field variableName field
  call : ∀ name args, .call name args ∈ nodes →
    ∀ vs, Run.InStep R (env.call name vs) (env'.call name vs)
  fetch : FetchStable R

/-- Two environments with the same fields, whose calls are in step. -/
structure Environment.InStep (R : Memory σ → Memory τ → Prop) (env : Environment σ)
    (env' : Environment τ) : Prop where
  kind : env.kind = env'.kind
  field : env.field = env'.field
  call : ∀ name args, Run.InStep R (env.call name args) (env'.call name args)
  fetch : FetchStable R

section Evaluate

variable {R : Memory σ → Memory τ → Prop} {env : Environment σ} {env' : Environment τ}

theorem Environment.InStepOn.mono {nodes nodes' : List Expr} (h : InStepOn nodes R env env')
    (hsub : nodes' ⊆ nodes) : InStepOn nodes' R env env' :=
  ⟨fun variableName field hmem => h.field variableName field (hsub hmem),
    fun name args hmem => h.call name args (hsub hmem), h.fetch⟩

theorem Environment.InStep.on (h : env.InStep R env') (nodes : List Expr) :
    InStepOn nodes R env env' where
  field _ _ _ := by rw [h.field]
  call name _ _ := h.call name
  fetch := h.fetch

mutual

/-- Two evaluations of an expression are in step if the environments are so on its nodes. -/
theorem evaluate_inStepOn (e : Expr) (h : Environment.InStepOn e.postorder R env env') :
    Run.InStep R (evaluate env e) (evaluate env' e) := by
  cases e with
  | literal v => exact .pure v
  | field path =>
      -- Only a path of two names is looked up; all others have the same error everywhere.
      unfold evaluate
      split
      · rw [h.field _ _ (Expr.self_mem_postorder _)]
        exact .ofExcept _
      · exact .throw _
  | binary op l r =>
      have hl := evaluate_inStepOn l (h.mono (by simp [Expr.postorder]))
      have hr := evaluate_inStepOn r (h.mono (by simp [Expr.postorder]))
      unfold evaluate
      -- Both sides find the same left value, so both ask for the right one or neither does.
      split
      · refine .bind hl fun v => .bind (.ofExcept _) fun b => ?_
        cases b with
        | true => exact .bind hr fun w => .bind (.ofExcept _) fun _ => .pure _
        | false => exact .pure _
      · refine .bind hl fun v => .bind (.ofExcept _) fun b => ?_
        cases b with
        | true => exact .pure _
        | false => exact .bind hr fun w => .bind (.ofExcept _) fun _ => .pure _
      · refine .bind hl fun v => .bind hr fun w => ?_
        split
        · exact .bind (.ofExcept _) fun _ => .pure _
        · exact op.apply_inStep h.fetch v w
  | unary op e =>
      have he := evaluate_inStepOn e (h.mono (by simp [Expr.postorder]))
      unfold evaluate
      exact .bind he fun v => .ofExcept _
  | call name args =>
      have hargs := evaluateAll_inStepOn args (h.mono (by simp [Expr.postorder]))
      unfold evaluate
      exact .bind hargs fun vs => h.call name args (Expr.self_mem_postorder _) vs
  | ternary c t f =>
      have hc := evaluate_inStepOn c (h.mono (by simp [Expr.postorder]))
      have ht := evaluate_inStepOn t (h.mono (by simp [Expr.postorder]))
      have hf := evaluate_inStepOn f (h.mono
        (List.subset_append_of_subset_left _ (List.subset_append_right _ _)))
      unfold evaluate
      refine .bind hc fun v => .bind (.ofExcept _) fun b => ?_
      cases b with
      | true => exact ht
      | false => exact hf
  | array items =>
      have hitems := evaluateAll_inStepOn items (h.mono (by simp [Expr.postorder]))
      unfold evaluate
      exact .bind hitems fun vs => .pure _

theorem evaluateAll_inStepOn (es : List Expr)
    (h : Environment.InStepOn (Expr.postorderAll es) R env env') :
    Run.InStep R (evaluateAll env es) (evaluateAll env' es) := by
  cases es with
  | nil => exact .pure []
  | cons e es =>
      have he := evaluate_inStepOn e (h.mono (by simp [Expr.postorderAll]))
      have hes := evaluateAll_inStepOn es (h.mono (by simp [Expr.postorderAll]))
      unfold evaluateAll
      exact .bind he fun v => .bind hes fun vs => .pure _

end

theorem evaluate_inStep (h : env.InStep R env') (e : Expr) :
    Run.InStep R (evaluate env e) (evaluate env' e) :=
  evaluate_inStepOn e (h.on e.postorder)

theorem evaluateAll_inStep (h : env.InStep R env') (es : List Expr) :
    Run.InStep R (evaluateAll env es) (evaluateAll env' es) :=
  evaluateAll_inStepOn es (h.on (Expr.postorderAll es))

/-! ## Programs -/

theorem Program.fires_inStep (h : env.InStep R env') (p : Program) :
    Run.InStep R (p.fires env) (p.fires env') := by
  unfold Program.fires
  rw [h.kind]
  split
  · exact .bind (evaluate_inStep h p.expr) fun v => .ofExcept _
  · exact .throw _

/-- A program run in two environments that are in step. -/
theorem Program.run_inStep (h : env.InStep R env') (p : Program) {m : Memory σ} {m' : Memory τ}
    (hm : R m m') : (p.run env m).1 = (p.run env' m').1 ∧ R (p.run env m).2 (p.run env' m').2 := by
  obtain ⟨hresult, hmemory⟩ := p.fires_inStep h m m' hm
  unfold Program.run
  exact ⟨by simp only [hresult], hmemory⟩

/-- Programs of one rule text, each run in an environment of its kind. -/
theorem Program.run_inStepOn {p q : Program} (hp : p.kind = env.kind) (hq : q.kind = env'.kind)
    (hsource : p.source = q.source) (hexpr : p.expr = q.expr)
    (h : Environment.InStepOn p.expr.postorder R env env') {m : Memory σ} {m' : Memory τ}
    (hm : R m m') : (p.run env m).1 = (q.run env' m').1 ∧ R (p.run env m).2 (q.run env' m').2 := by
  have hcondition : Run.InStep R (evaluateCondition env p.expr) (evaluateCondition env' p.expr) :=
    .bind (evaluate_inStepOn p.expr h) fun v => .ofExcept v.condition
  obtain ⟨hresult, hmemory⟩ := hcondition m m' hm
  unfold run fires
  rw [if_pos hp, if_pos hq, ← hexpr, ← hsource]
  exact ⟨by simp only [hresult], hmemory⟩

end Evaluate

end LabelRules
