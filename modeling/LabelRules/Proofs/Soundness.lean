import LabelRules.Proofs.Blame
import LabelRules.Proofs.Subjects

set_option autoImplicit false

/-! # What the checker is worth

In an environment that serves the scope, an accepted expression returns a value that respects its
type, and conforms to it if no ternary with one branch of type `any` is reached; or it fails, and
`Blame` says why (`evaluate_sound`). The proof has one lemma for each form of expression; each
takes from its operands just what `Sound` says of them.
-/

namespace LabelRules

variable {σ : Type}

/-- If the expression is accepted, it returns a value of its type or fails for a known reason. -/
def Sound (env : Environment σ) (s : Scope) (e : Expr) : Prop :=
  ∀ t, infer s e = .ok t →
    (evaluate env e).Ends (fun v => v.Meets (NilSafe env s e) t) (Blame env s e)

namespace Sound

variable {env : Environment σ} {s : Scope}

/-- What a needed child returns and fails with, seen from the whole. -/
theorem within {e child : Expr} {t : Ty} (h : Sound env s child) (henv : env.Serves s)
    (hneeds : Needs env e child) (ht : infer s child = .ok t) :
    (evaluate env child).Ends
      (fun v => (evaluate env child).Returns v ∧ v.Meets (NilSafe env s e) t)
      (Blame env s e) := by
  have hsteady : (evaluate env child).Steady := evaluate_inStep henv.steady child
  refine ((h t ht).steady hsteady).mono ?_ ?_
  · rintro v ⟨hreturns, hmeets⟩
    exact ⟨hreturns, hmeets.weaken fun hsafe => hsafe.of_needs hneeds⟩
  · rintro error ⟨-, hblame⟩
    exact hblame.of_needs hneeds

/-! ## Leaves -/

theorem literal (v : Value) : Sound env s (.literal v) := by
  intro t h
  obtain rfl : v.type = t := by
    unfold infer at h
    exact Except.ok.inj h
  exact .pure (v.conforms_type.meets _)

/-- A bare variable fails; a declared field has a value of its type. -/
theorem field (henv : env.Serves s) (path : List String) : Sound env s (.field path) := by
  intro t h
  by_cases hlength : path.length = 1
  -- The checker has found the variable, but evaluation looks for a field only.
  · obtain ⟨name, rfl⟩ := List.length_eq_one_iff.1 hlength
    intro m
    rw [evaluate_variable_fails env name m]
    exact .variable .refl (infer_variable_ok h)
  · obtain ⟨x, f, v, rfl, hv, hconforms⟩ := henv.field hlength (infer_field_ok hlength h)
    rw [evaluate, hv]
    exact .ofExcept (hconforms.meets _)

/-! ## Operators -/

/-- `&&` and `||`: both operands are booleans, and the right one is evaluated if it decides. -/
theorem logical {op : Operator} {l r : Expr} (hop : op = .and ∨ op = .or) (henv : env.Serves s)
    (hl : Sound env s l) (hr : Sound env s r) : Sound env s (.binary op l r) := by
  intro t h
  obtain ⟨left, right, hleft, hright, hbinary⟩ := infer_binary_ok h
  obtain ⟨rfl, rfl, rfl⟩ := Typing.binary_of_logical hop hbinary
  have hbool : ∀ b strict, (Value.bool b).Meets strict .bool := fun b strict =>
    (Value.conforms_type (.bool b)).meets strict
  have hneeds : Needs env (.binary op l r) l := .left
  have hl := hl.within henv hneeds hleft
  rcases hop with rfl | rfl
  · rw [evaluate]
    refine hl.bind ?_
    rintro _ ⟨hreturns, ⟨b, rfl⟩, -⟩
    refine .bind_ok (a := b) rfl ?_
    cases b with
    | true =>
        refine (hr.within henv (.andRight hreturns) hright).bind ?_
        rintro _ ⟨-, ⟨c, rfl⟩, -⟩
        exact .bind_ok (a := c) rfl (.pure (hbool c _))
    | false => exact .pure (hbool false _)
  · rw [evaluate]
    refine hl.bind ?_
    rintro _ ⟨hreturns, ⟨b, rfl⟩, -⟩
    refine .bind_ok (a := b) rfl ?_
    cases b with
    | true => exact .pure (hbool true _)
    | false =>
        refine (hr.within henv (.orRight hreturns) hright).bind ?_
        rintro _ ⟨-, ⟨c, rfl⟩, -⟩
        exact .bind_ok (a := c) rfl (.pure (hbool c _))

/-- A clash of the operands is blamed on their node. -/
theorem clash_blame {node : Expr} {error : RunError} (hclash : Clash env node error)
    (hhalf : ¬ NilSafe env s node) : Blame env s node error :=
  .clash .refl hclash hhalf

/-- The other operators evaluate both operands and are applied to their values. -/
theorem applied {op : Operator} {l r : Expr} (hand : op ≠ .and) (hor : op ≠ .or)
    (henv : env.Serves s) (hl : Sound env s l) (hr : Sound env s r) :
    Sound env s (.binary op l r) := by
  intro t h
  obtain ⟨left, right, hleft, hright, hbinary⟩ := infer_binary_ok h
  rw [evaluate_binary hand hor]
  refine (hl.within henv .left hleft).bind ?_
  rintro v ⟨hv, hvmeets⟩
  refine (hr.within henv (.right hand hor hv) hright).bind ?_
  rintro w ⟨hw, hwmeets⟩
  by_cases hop : op.isComparison = true
  -- A comparison fails with a clash at most.
  · rw [if_pos hop]
    rw [Typing.binary_eq_comparison hop] at hbinary
    obtain ⟨rfl, -⟩ := Typing.comparison_eq_ok hbinary
    have houtcome := (Operator.compare_typed hbinary hvmeets hwmeets).eq
    cases hresult : op.compare v w with
    | ok b => exact .bind_ok (a := b) rfl (.pure ((Value.conforms_type (.bool b)).meets _))
    | error o =>
        rw [hresult] at houtcome
        obtain ⟨-, -, hhalf⟩ := houtcome
        refine .bind (.ofExcept ?_) fun b (_ : True) => .pure ?_
        · exact clash_blame (.comparison hop hv hw hresult) hhalf
        · exact (Value.conforms_type (.bool b)).meets _
  -- Another operator fails with a clash or, if it is `matches`, with its pattern.
  · rw [if_neg hop]
    rw [Bool.not_eq_true] at hop
    have hends : (op.apply v w : Run σ Value).Ends _ _ :=
      Operator.apply_typed hop hand hor hbinary hvmeets hwmeets
    have hsteady : (op.apply v w : Run σ Value).Steady := op.apply_inStep henv.steady.fetch v w
    refine (hends.steady hsteady).mono (fun _ hr => hr.2) ?_
    rintro error ⟨hfails, ⟨hclash, hhalf⟩ | ⟨rfl, text, rfl, rfl, hinvalid⟩⟩
    · exact clash_blame (.operator hop hand hor hv hw hfails hclash) hhalf
    · have hoperand : (Expr.binary .matches l r).patternOperand? = some r := rfl
      exact .pattern .refl hoperand hw hinvalid

theorem binary {op : Operator} {l r : Expr} (henv : env.Serves s) (hl : Sound env s l)
    (hr : Sound env s r) : Sound env s (.binary op l r) := by
  by_cases hop : op = .and ∨ op = .or
  · exact logical hop henv hl hr
  · obtain ⟨hand, hor⟩ := not_or.1 hop
    exact applied hand hor henv hl hr

theorem unary {op : UnaryOp} {e : Expr} (henv : env.Serves s) (he : Sound env s e) :
    Sound env s (.unary op e) := by
  intro t h
  obtain ⟨operand, hoperand, hunary⟩ := infer_unary_ok h
  rw [evaluate]
  refine (he.within henv .operand hoperand).bind ?_
  rintro v ⟨hv, hmeets⟩
  have houtcome := (UnaryOp.apply_typed hunary hmeets).eq
  refine .ofExcept (.mapError (houtcome.mono (fun _ hr => hr.2) ?_))
  rintro o ⟨herror, -, hhalf⟩
  exact clash_blame (.unary hv herror) hhalf

/-! ## Ternaries -/

theorem ternary {c a b : Expr} (henv : env.Serves s) (hc : Sound env s c) (ha : Sound env s a)
    (hb : Sound env s b) : Sound env s (.ternary c a b) := by
  intro t h
  obtain ⟨condition, whenTrue, whenFalse, hcondition, htrue, hfalse, hternary⟩ :=
    infer_ternary_ok h
  obtain ⟨rfl, hcompatible, rfl⟩ := Typing.ternary_eq_ok hternary
  -- Without a half `nil` ternary both branches are `any` or none is.
  have hany : NilSafe env s (.ternary c a b) → (whenTrue = .any ↔ whenFalse = .any) := by
    intro hsafe
    have hhalf := hsafe.not_isHalfNil
    simp only [Expr.IsHalfNil, htrue, hfalse, Except.ok.injEq, xor_iff_not_iff, not_not] at hhalf
    exact hhalf
  rw [evaluate]
  refine (hc.within henv .condition hcondition).bind ?_
  rintro _ ⟨hreturns, ⟨d, rfl⟩, -⟩
  refine .bind_ok (a := d) rfl ?_
  cases d with
  | true =>
      refine (ha.within henv (.whenTrue hreturns) htrue).mono ?_ fun _ he => he
      rintro v ⟨-, hrespects, hconforms⟩
      split
      · next hfalseAny =>
          subst hfalseAny
          refine ⟨trivial, fun hsafe => ?_⟩
          have hv := hconforms hsafe
          rw [(hany hsafe).2 rfl] at hv
          exact hv
      · exact ⟨hrespects, hconforms⟩
  | false =>
      refine (hb.within henv (.whenFalse hreturns) hfalse).mono ?_ fun _ he => he
      rintro v ⟨-, hrespects, hconforms⟩
      split
      · exact ⟨hrespects, hconforms⟩
      · next hfalseAny =>
          refine ⟨hrespects.of_compatible hcompatible hfalseAny, fun hsafe => ?_⟩
          have htrueAny : whenTrue ≠ .any := fun htrueAny => hfalseAny ((hany hsafe).1 htrueAny)
          exact (hconforms hsafe).of_compatible hcompatible htrueAny hfalseAny

/-! ## Lists of expressions -/

/-- Expressions in a row, each described under the condition that those before it return. -/
theorem evaluateAll_ends {Q : Expr → Value → Prop} {E : RunError → Prop}
    (hsteady : env.InStep (fun _ _ => True) env) {es : List Expr}
    (h : ∀ before e after, es = before ++ e :: after →
      (∀ b ∈ before, ∃ v, (evaluate env b).Returns v) → (evaluate env e).Ends (Q e) E) :
    (evaluateAll env es).Ends
      (List.Forall₂ (fun e v => (evaluate env e).Returns v ∧ Q e v) es) E := by
  induction es with
  | nil => exact .pure .nil
  | cons e es ih =>
      rw [evaluateAll]
      have hhead := (h [] e es rfl (by simp)).steady (evaluate_inStep hsteady e)
      refine (hhead.mono (fun _ hv => hv) fun _ he => he.2).bind ?_
      rintro v ⟨hreturns, hv⟩
      -- The tail is described under the condition that the head, too, returns.
      have htail := ih fun before e' after hes hbefore =>
        h (e :: before) e' after (by rw [hes]; rfl) (by
          intro b hb
          rcases List.mem_cons.1 hb with rfl | hb
          · exact ⟨v, hreturns⟩
          · exact hbefore b hb)
      refine htail.bind ?_
      intro vs hvs
      exact .pure (.cons ⟨hreturns, hv⟩ hvs)

/-- The children of a node that evaluates them in a row. -/
theorem evaluateAll {node : Expr} {es : List Expr} (henv : env.Serves s)
    (hes : ∀ e ∈ es, Sound env s e) (htyped : ∀ e ∈ es, ∃ t, infer s e = .ok t)
    (hneeds : ∀ before e after, es = before ++ e :: after →
      (∀ b ∈ before, ∃ v, (evaluate env b).Returns v) → Needs env node e) :
    (LabelRules.evaluateAll env es).Ends
      (List.Forall₂ (fun e v => (evaluate env e).Returns v
        ∧ ∀ t, infer s e = .ok t → v.Respects t) es)
      (Blame env s node) := by
  refine evaluateAll_ends henv.steady ?_
  intro before e after heq hbefore
  have he : e ∈ es := by simp [heq]
  obtain ⟨t, ht⟩ := htyped e he
  refine ((hes e he).within henv (hneeds before e after heq hbefore) ht).mono ?_ fun _ h => h
  rintro v ⟨-, hrespects, -⟩ t' ht'
  obtain rfl : t = t' := Except.ok.inj (ht.symm.trans ht')
  exact hrespects

/-! ## Calls and arrays -/

/-- Values of arguments that fit their parameters respect the types of the parameters. -/
theorem respects_params {args : List Expr} {params : List Ty} {vs : List Value}
    (hargs : List.Forall₂ (Fits s) args params)
    (hvs : List.Forall₂ (fun e v => (evaluate env e).Returns v
      ∧ ∀ t, infer s e = .ok t → v.Respects t) args vs) :
    List.Forall₂ Value.Respects vs params := by
  induction hargs generalizing vs with
  | nil =>
      cases hvs
      exact .nil
  | cons hparam _ ih =>
      cases hvs with
      | cons hv hvs =>
          obtain ⟨actual, hactual, hfits⟩ := hparam
          exact .cons ((hv.2 actual hactual).of_assignable hfits) (ih hvs)

/-- The second of three arguments gives the pattern. -/
theorem patternOperand_of_values {name : String} {args : List Expr} {v pattern w : Value}
    {P : Expr → Value → Prop} (hname : Capability.takesPattern name = true)
    (h : List.Forall₂ (fun e v => (evaluate env e).Returns v ∧ P e v) args [v, pattern, w]) :
    ∃ operand, (Expr.call name args).patternOperand? = some operand
      ∧ (evaluate env operand).Returns pattern := by
  obtain ⟨subject, _, -, htwo, rfl⟩ := List.forall₂_cons_right_iff.1 h
  obtain ⟨operand, _, ⟨hreturns, -⟩, hone, rfl⟩ := List.forall₂_cons_right_iff.1 htwo
  obtain ⟨template, _, -, hnone, rfl⟩ := List.forall₂_cons_right_iff.1 hone
  cases hnone
  exact ⟨operand, if_pos hname, hreturns⟩

theorem call {name : String} {args : List Expr} (henv : env.Serves s)
    (hargs : ∀ e ∈ args, Sound env s e) : Sound env s (.call name args) := by
  intro t h
  obtain ⟨signature, hname, rfl, hfits⟩ := infer_call_ok h
  rw [evaluate]
  refine (evaluateAll henv hargs (typed_of_fits hfits) ?_).bind ?_
  · intro before e after heq hbefore
    rw [heq]
    exact .argument hbefore
  · intro vs hvs
    refine (henv.call hname (respects_params hfits hvs)).mono ?_ ?_
    · exact fun v hv => hv.meets _
    · rintro error ⟨subject, text, template, htakes, rfl, rfl, hinvalid⟩
      obtain ⟨operand, hoperand, hreturns⟩ := patternOperand_of_values htakes hvs
      exact .pattern .refl hoperand hreturns hinvalid

theorem array {items : List Expr} (henv : env.Serves s) (hitems : ∀ e ∈ items, Sound env s e) :
    Sound env s (.array items) := by
  intro t h
  obtain ⟨⟨item, rfl⟩, htyped⟩ := infer_array_ok h
  rw [evaluate]
  refine (evaluateAll henv hitems htyped ?_).bind ?_
  · intro before e after heq hbefore
    rw [heq]
    exact .item hbefore
  · intro vs _
    have hconforms : (Value.array vs).Conforms (.array item) := ⟨vs, rfl⟩
    exact .pure (hconforms.meets _)

end Sound

/-! ## All expressions -/

section Evaluate

variable {env : Environment σ} {s : Scope}

mutual

/-- **Checked expressions are sound.** -/
theorem evaluate_sound (henv : env.Serves s) (e : Expr) : Sound env s e := by
  cases e with
  | literal v => exact .literal v
  | field path => exact .field henv path
  | binary op l r => exact .binary henv (evaluate_sound henv l) (evaluate_sound henv r)
  | unary op e => exact .unary henv (evaluate_sound henv e)
  | call name args => exact .call henv (evaluateAll_sound henv args)
  | ternary c a b =>
      exact .ternary henv (evaluate_sound henv c) (evaluate_sound henv a) (evaluate_sound henv b)
  | array items => exact .array henv (evaluateAll_sound henv items)

theorem evaluateAll_sound (henv : env.Serves s) (es : List Expr) : ∀ e ∈ es, Sound env s e := by
  cases es with
  | nil => simp
  | cons a as =>
      intro e he
      rcases List.mem_cons.1 he with heq | he
      · rw [heq]
        exact evaluate_sound henv a
      · exact evaluateAll_sound henv as e he

end

end Evaluate

end LabelRules
