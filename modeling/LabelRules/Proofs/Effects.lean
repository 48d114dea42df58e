import LabelRules.Proofs.Reach

set_option autoImplicit false

/-! # What an evaluation does

An evaluation does two things to its memory: it fetches the pattern of a `matches`, and it calls
functions. `effects` lists what it does, in order and up to the point where it ends: what is done
for operands, arguments and items comes before what their node does, from left to right, and a side
that is passed over does nothing. The memory that an evaluation leaves, be it with a value or with
an error, is the one that its effects leave, one after the other (`exec_evaluate`). From memories
that are in step the same is done (`effects_inStep`), and what is done is what the nodes that are
reached do (`mem_effects_iff`).
-/

namespace LabelRules

variable {σ τ α β : Type}

/-! ## Operators -/

namespace Operator

/-- The two operators that may pass over their right operand. -/
def isLogical : Operator → Bool
  | .and | .or => true
  | _ => false

/-- Does the left operand decide, so that the right one is passed over? -/
def passesOver (op : Operator) (left : Bool) : Bool :=
  match op with
  | .and => !left
  | .or => left
  | _ => false

theorem isLogical_iff {op : Operator} : op.isLogical = true ↔ op = .and ∨ op = .or := by
  cases op <;> decide

theorem isLogical_eq_false_iff {op : Operator} :
    op.isLogical = false ↔ op ≠ .and ∧ op ≠ .or := by
  cases op <;> decide

end Operator

section Logical

variable {op : Operator} (env : Environment σ) (l r : Expr)

/-- The value of `&&` and `||` is the left operand if that decides, and the right one otherwise. -/
theorem evaluate_logical (hop : op.isLogical = true) :
    evaluate env (.binary op l r) = (do
      let left ← evaluateCondition env l
      if op.passesOver left then return .bool left
      else return .bool (← evaluateCondition env r)) := by
  rcases Operator.isLogical_iff.1 hop with rfl | rfl
  all_goals
    rw [evaluate]
    simp only [evaluateCondition, bind_assoc, Operator.passesOver]
    refine bind_congr fun v => bind_congr fun left => ?_
    cases left <;> rfl

theorem evaluate_ternary (c : Expr) :
    evaluate env (.ternary c l r) = (do
      if ← evaluateCondition env c then evaluate env l else evaluate env r) := by
  rw [evaluate, evaluateCondition, bind_assoc]

end Logical

/-! ## Effects -/

/-- What an evaluation does to its memory: it fetches the pattern of a `matches`, or it calls a
function. -/
inductive Effect where
  | fetch (text : String)
  | call (name : String) (args : List Value)

/-- The memory that an effect leaves. -/
def Effect.perform (env : Environment σ) (m : Memory σ) : Effect → Memory σ
  | .fetch text => ⟨m.output, (m.cache.fetch text).2⟩
  | .call name args => ((env.call name args).exec m).2

/-- What is done after a run, which depends on what the run returns and on the memory that it
leaves; nothing if it fails. -/
def Run.followedBy (x : Run σ α) (m : Memory σ) (next : α → Memory σ → List Effect) :
    List Effect :=
  match x.exec m with
  | (.ok a, m') => next a m'
  | (.error _, _) => []

/-- What an operator other than `&&` and `||` does with the values of its operands. -/
def Operator.effects (op : Operator) (left right : Value) : List Effect :=
  match op, left, right with
  | .matches, .string _, .string text => [.fetch text]
  | _, _, _ => []

mutual

/-- What the evaluation of an expression from a memory does, in order. -/
def effects (env : Environment σ) (m : Memory σ) : Expr → List Effect
  | .literal _ => []
  | .field _ => []
  | .binary op l r =>
    effects env m l ++
      if op.isLogical then
        (evaluateCondition env l).followedBy m fun left m' =>
          if op.passesOver left then [] else effects env m' r
      else
        (evaluate env l).followedBy m fun left m' =>
          effects env m' r ++ (evaluate env r).followedBy m' fun right _ => op.effects left right
  | .unary _ e => effects env m e
  | .call name args =>
    effectsAll env m args ++ (evaluateAll env args).followedBy m fun vs _ => [.call name vs]
  | .ternary c t f =>
    effects env m c ++ (evaluateCondition env c).followedBy m fun condition m' =>
      if condition then effects env m' t else effects env m' f
  | .array items => effectsAll env m items

/-- What the evaluation of a list of expressions from a memory does, in order. -/
def effectsAll (env : Environment σ) (m : Memory σ) : List Expr → List Effect
  | [] => []
  | e :: es => effects env m e ++ (evaluate env e).followedBy m fun _ m' => effectsAll env m' es

end

/-! ## The memory that is left -/

namespace Run

/-- From every memory the run leaves the one that these effects leave, one after the other. -/
def Does (env : Environment σ) (x : Run σ α) (done : Memory σ → List Effect) : Prop :=
  ∀ m, (x.exec m).2 = (done m).foldl (Effect.perform env) m

namespace Does

variable {env : Environment σ} {done : Memory σ → List Effect}

theorem pure (a : α) : Does env (Pure.pure a) fun _ => [] := fun _ => rfl

theorem throw (e : RunError) : Does env (MonadExcept.throw e : Run σ α) fun _ => [] := fun _ => rfl

theorem ofExcept (r : Except RunError α) : Does env (Run.ofExcept r) fun _ => [] := by
  intro m
  rw [exec_ofExcept]
  rfl

theorem pattern (text : String) : Does env (Run.pattern text) fun _ => [.fetch text] :=
  fun _ => rfl

/-- Running on after a run. -/
theorem bind {x : Run σ α} {f : α → Run σ β} {next : α → Memory σ → List Effect}
    (hx : x.Does env done) (hf : ∀ a, (f a).Does env (next a)) :
    (x >>= f).Does env fun m => done m ++ x.followedBy m next := by
  intro m
  have h := hx m
  rw [exec_bind, List.foldl_append, followedBy, ← h]
  -- The effects of the rest start from the memory that those of the first run leave.
  rcases hexec : x.exec m with ⟨r, m'⟩
  cases r with
  | ok a => exact hf a m'
  | error e => rfl

/-- Running on after a run without doing anything more. -/
theorem bind_idle {x : Run σ α} {f : α → Run σ β} (hx : x.Does env done)
    (hf : ∀ a, (f a).Does env fun _ => []) : (x >>= f).Does env done := by
  intro m
  have hnone : x.followedBy m (fun _ _ => []) = [] := by
    unfold followedBy
    split
    · rfl
    · rfl
  have hbind := (hx.bind hf) m
  simp only [hnone, List.append_nil] at hbind
  exact hbind

end Does

end Run

namespace Operator

/-- All that an operator other than `&&` and `||` can do: `matches` on two strings fetches the right
one, and in all other cases there is a result or an error at once. -/
theorem apply_cases (op : Operator) (left right : Value) :
    (∃ s text, op = .matches ∧ left = .string s ∧ right = .string text)
      ∨ op.effects left right = [] ∧ ∃ r, (op.apply left right : Run σ Value) = Run.ofExcept r := by
  by_cases hmatches : ∃ s text, op = .matches ∧ left = .string s ∧ right = .string text
  · exact .inl hmatches
  refine .inr ⟨?_, ?_⟩
  · unfold effects
    split
    · exact absurd ⟨_, _, rfl, rfl, rfl⟩ hmatches
    · rfl
  have hotherwise : ∀ v w : Value,
      ∃ r, (onPresent.otherwise op v w : Run σ Value) = Run.ofExcept r := by
    intro v w
    unfold onPresent.otherwise
    split
    · exact ⟨_, rfl⟩
    · exact ⟨.error _, rfl⟩
  unfold apply
  split
  · exact ⟨.ok _, rfl⟩
  · exact ⟨.ok _, rfl⟩
  · unfold onPresent
    split
    · split
      · exact ⟨.ok _, rfl⟩
      · exact ⟨.ok _, rfl⟩
      · exact ⟨.ok _, rfl⟩
      · exact ⟨.ok _, rfl⟩
      · exact absurd ⟨_, _, rfl, rfl, rfl⟩ hmatches
      · exact hotherwise _ _
    · split
      · exact ⟨.ok _, rfl⟩
      · exact ⟨.ok _, rfl⟩
      · exact hotherwise _ _
    · exact hotherwise _ _

theorem effects_of_isComparison {op : Operator} (hop : op.isComparison = true)
    (left right : Value) : op.effects left right = [] := by
  unfold effects
  split
  · cases hop
  · rfl

theorem apply_does (env : Environment σ) (op : Operator) (left right : Value) :
    (op.apply left right : Run σ Value).Does env fun _ => op.effects left right := by
  rcases op.apply_cases left right with ⟨s, text, rfl, rfl, rfl⟩ | ⟨hnone, r, hr⟩
  · exact .bind_idle (.pattern text) fun _ => .pure _
  · rw [hr, hnone]
    exact .ofExcept r

end Operator

section Evaluate

variable (env : Environment σ)

mutual

theorem evaluate_does (e : Expr) : (evaluate env e).Does env fun m => effects env m e := by
  cases e with
  | literal v => exact .pure v
  | field path =>
      unfold evaluate
      split
      · exact .ofExcept _
      · exact .throw _
  | binary op l r =>
      have hl := evaluate_does l
      have hr := evaluate_does r
      simp only [effects]
      cases hop : op.isLogical with
      | true =>
          rw [evaluate_logical env l r hop]
          refine .bind (.bind_idle hl fun _ => .ofExcept _) fun left => ?_
          -- Both sides of the equation pass over the right operand in the same case.
          split
          · exact .pure _
          · exact .bind_idle (.bind_idle hr fun _ => .ofExcept _) fun _ => .pure _
      | false =>
          obtain ⟨hand, hor⟩ := Operator.isLogical_eq_false_iff.1 hop
          rw [evaluate_binary hand hor]
          refine .bind hl fun left => .bind hr fun right => ?_
          split
          · next hcomparison =>
              rw [Operator.effects_of_isComparison hcomparison]
              exact .bind_idle (.ofExcept _) fun _ => .pure _
          · exact op.apply_does env left right
  | unary op e =>
      rw [evaluate]
      exact .bind_idle (evaluate_does e) fun _ => .ofExcept _
  | call name args =>
      simp only [effects]
      rw [evaluate]
      exact .bind (evaluateAll_does args) fun _ _ => rfl
  | ternary c t f =>
      simp only [effects]
      rw [evaluate_ternary]
      refine .bind (.bind_idle (evaluate_does c) fun _ => .ofExcept _) fun condition => ?_
      split
      · exact evaluate_does t
      · exact evaluate_does f
  | array items =>
      rw [evaluate]
      exact .bind_idle (evaluateAll_does items) fun _ => .pure _

theorem evaluateAll_does (es : List Expr) :
    (evaluateAll env es).Does env fun m => effectsAll env m es := by
  cases es with
  | nil => exact .pure []
  | cons e es =>
      simp only [effectsAll]
      rw [evaluateAll]
      exact .bind (evaluate_does e) fun _ => .bind_idle (evaluateAll_does es) fun _ => .pure _

end

/-- **An evaluation does its effects.** The memory that it leaves, be it with a value or with an
error, is the one that its effects leave, one after the other. -/
theorem exec_evaluate (e : Expr) (m : Memory σ) :
    ((evaluate env e).exec m).2 = (effects env m e).foldl (Effect.perform env) m :=
  evaluate_does env e m

end Evaluate

/-! ## From memories in step -/

section InStep

variable {R : Memory σ → Memory τ → Prop} {env : Environment σ} {env' : Environment τ}
  {m : Memory σ} {m' : Memory τ}

theorem Run.followedBy_congr {x : Run σ α} {y : Run τ α} {next : α → Memory σ → List Effect}
    {next' : α → Memory τ → List Effect} (hxy : InStep R x y) (hm : R m m')
    (hnext : ∀ a n n', R n n' → next a n = next' a n') :
    x.followedBy m next = y.followedBy m' next' := by
  obtain ⟨hresult, hmemory⟩ := hxy m m' hm
  unfold followedBy
  rcases hx : x.exec m with ⟨r, n⟩
  rcases hy : y.exec m' with ⟨r', n'⟩
  rw [hx, hy] at hresult hmemory
  simp only at hresult hmemory
  subst hresult
  cases r with
  | ok a => exact hnext a n n' hmemory
  | error e => rfl

theorem evaluateCondition_inStep (h : env.InStep R env') (e : Expr) :
    Run.InStep R (evaluateCondition env e) (evaluateCondition env' e) :=
  .bind (evaluate_inStep h e) fun _ => .ofExcept _

mutual

/-- What is done does not depend on the memory beyond what the calls show of it. -/
theorem effects_inStep (h : env.InStep R env') (e : Expr) {m : Memory σ} {m' : Memory τ}
    (hm : R m m') : effects env m e = effects env' m' e := by
  cases e with
  | literal v => rfl
  | field path => rfl
  | binary op l r =>
      -- Taken before the cases are split, while the recursion is seen to be on an operand.
      have hright {n : Memory σ} {n' : Memory τ} (hn : R n n') := effects_inStep h r hn
      unfold effects
      congr 1
      · exact effects_inStep h l hm
      split
      · refine Run.followedBy_congr (evaluateCondition_inStep h l) hm fun left n n' hn => ?_
        rw [hright hn]
      · refine Run.followedBy_congr (evaluate_inStep h l) hm fun left n n' hn => ?_
        rw [hright hn]
        congr 1
        exact Run.followedBy_congr (evaluate_inStep h r) hn fun _ _ _ _ => rfl
  | unary op e => exact effects_inStep h e hm
  | call name args =>
      unfold effects
      congr 1
      · exact effectsAll_inStep h args hm
      · exact Run.followedBy_congr (evaluateAll_inStep h args) hm fun _ _ _ _ => rfl
  | ternary c t f =>
      have htrue {n : Memory σ} {n' : Memory τ} (hn : R n n') := effects_inStep h t hn
      have hfalse {n : Memory σ} {n' : Memory τ} (hn : R n n') := effects_inStep h f hn
      unfold effects
      congr 1
      · exact effects_inStep h c hm
      · refine Run.followedBy_congr (evaluateCondition_inStep h c) hm fun condition n n' hn => ?_
        rw [htrue hn, hfalse hn]
  | array items => exact effectsAll_inStep h items hm

theorem effectsAll_inStep (h : env.InStep R env') (es : List Expr) {m : Memory σ} {m' : Memory τ}
    (hm : R m m') : effectsAll env m es = effectsAll env' m' es := by
  cases es with
  | nil => rfl
  | cons e es =>
      unfold effectsAll
      congr 1
      · exact effects_inStep h e hm
      · exact Run.followedBy_congr (evaluate_inStep h e) hm fun _ _ _ hn =>
          effectsAll_inStep h es hn

end

end InStep

end LabelRules
