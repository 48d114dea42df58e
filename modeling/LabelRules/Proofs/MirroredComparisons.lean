import LabelRules.Proofs.CallFree
import LabelRules.Proofs.Numbers
import LabelRules.Proofs.Rebuilding

set_option autoImplicit false

/-! # Mirrored comparisons

The operands of a comparison may be exchanged if its operator is mirrored (`Operator.mirrored`).
This may be done at any nodes of an expression (`Expr.mirrorAt`): the checker still gives it its
type, or refuses it. Of two operands that fail the other one now fails first, so the error may be
another one; but if no function is called, what the one expression returns the other one returns,
whatever patterns are in the cache (`comparisons_mirrored`).
-/

namespace LabelRules

variable {σ α β γ : Type}

/-! ## Operators -/

namespace Operator

/-- The comparison that says the same of two operands in the other order. -/
def mirrored : Operator → Operator
  | .lt => .gt
  | .gt => .lt
  | .le => .ge
  | .ge => .le
  | op => op

variable (op : Operator)

theorem mirrored_mirrored : op.mirrored.mirrored = op := by cases op <;> rfl

theorem isComparison_mirrored : op.mirrored.isComparison = op.isComparison := by cases op <;> rfl

theorem isOrdering_mirrored : op.mirrored.isOrdering = op.isOrdering := by cases op <;> rfl

theorem holds_mirrored (equal less greater : Bool) :
    op.mirrored.holds equal greater less = op.holds equal less greater := by
  cases op <;> rfl

/-- Two values that are compared in the other order give the same boolean, or cannot be compared
either. Numbers that are not ordered are so in both orders. -/
theorem toOption_compare_mirrored (v w : Value) :
    (op.mirrored.compare w v).toOption = (op.compare v w).toOption := by
  cases v with
  | nil => rw [compare_nil_left, compare_nil_right]
  | number x =>
      cases w with
      | nil => rfl
      | number y =>
          show some (op.mirrored.holds (y == x) (y < x) (x < y))
            = some (op.holds (x == y) (x < y) (y < x))
          rw [holds_mirrored, Number.beq_comm]
      | bool | string | array => rfl
  | string s =>
      cases w with
      | nil => rfl
      | string t =>
          show some (op.mirrored.holds (t == s) (t < s) (s < t))
            = some (op.holds (s == t) (s < t) (t < s))
          rw [holds_mirrored, Bool.beq_comm]
      | bool | number | array => rfl
  | bool a =>
      cases w with
      | nil => rfl
      | bool b =>
          simp only [compare, isOrdering_mirrored]
          split
          · rfl
          · rw [holds_mirrored, Bool.beq_comm]
      | number | string | array => rfl
  | array items => cases w <;> rfl

end Operator

/-! ## Types -/

namespace Typing

theorem comparison_mirrored {op : Operator} {left right t : Ty}
    (h : comparison op left right = .ok t) : comparison op.mirrored right left = .ok t := by
  obtain ⟨hleft, hright, hcompatible, hordered, rfl⟩ := comparison_eq_ok_iff.1 h
  rw [Ty.compatible_comm] at hcompatible
  rw [or_comm, ← op.isOrdering_mirrored] at hordered
  exact comparison_eq_ok_iff.2 ⟨hright, hleft, hcompatible, hordered, rfl⟩

end Typing

theorem infer_mirrored {s : Scope} {op : Operator} (hop : op.isComparison = true) {l r : Expr}
    {t : Ty} (h : infer s (.binary op l r) = .ok t) :
    infer s (.binary op.mirrored r l) = .ok t := by
  obtain ⟨left, right, hl, hr, hbinary⟩ := infer_binary_ok h
  rw [Typing.binary_eq_comparison hop] at hbinary
  rw [← op.isComparison_mirrored] at hop
  simp only [infer, hl, hr, Typing.binary_eq_comparison hop, Typing.comparison_mirrored hbinary]

theorem sameType_mirrored (s : Scope) {op : Operator} (hop : op.isComparison = true)
    (l r : Expr) : SameType s (.binary op l r) (.binary op.mirrored r l) := by
  refine fun t => ⟨infer_mirrored hop, fun h => ?_⟩
  have hback := infer_mirrored (op.isComparison_mirrored.trans hop) h
  rwa [op.mirrored_mirrored] at hback

/-! ## Runs with the same result -/

namespace Run

/-- Whatever memories they start from, two runs return the same, or both fail. -/
def SameResult (x y : Run σ α) : Prop :=
  ∀ m m', (x.exec m).1.toOption = (y.exec m').1.toOption

theorem Steady.sameResult {x : Run σ α} (h : x.Steady) : SameResult x x :=
  fun m m' => congrArg Except.toOption (h.result_eq m m')

/-- A steady run always returns one value, or always fails with one error. -/
theorem Steady.returns_or_fails {x : Run σ α} (h : x.Steady) (m : Memory σ) :
    (∃ a, x.Returns a) ∨ ∃ e, x.Fails e := by
  cases hm : (x.exec m).1 with
  | ok a => exact .inl ⟨a, h.returns hm⟩
  | error e => exact .inr ⟨e, fun m' => (h.result_eq m' m).trans hm⟩

namespace SameResult

theorem trans {x y z : Run σ α} (hxy : SameResult x y) (hyz : SameResult y z) :
    SameResult x z :=
  fun m m' => (hxy m m).trans (hyz m m')

theorem pure (a : α) : SameResult (Pure.pure a : Run σ α) (Pure.pure a) := fun _ _ => rfl

theorem ofExcept {r r' : Except RunError α} (h : r.toOption = r'.toOption) :
    SameResult (Run.ofExcept r : Run σ α) (Run.ofExcept r') := by
  intro m m'
  rw [exec_ofExcept, exec_ofExcept]
  exact h

theorem bind {x y : Run σ α} {f g : α → Run σ β} (hxy : SameResult x y)
    (hfg : ∀ a, SameResult (f a) (g a)) : SameResult (x >>= f) (y >>= g) := by
  intro m m'
  have hresult := hxy m m'
  rw [exec_bind, exec_bind]
  rcases hx : x.exec m with ⟨r, n⟩
  rcases hy : y.exec m' with ⟨r', n'⟩
  rw [hx, hy] at hresult
  cases r with
  | ok a =>
      cases r' with
      | ok a' =>
          obtain rfl : a = a' := Option.some.inj hresult
          exact hfg a n n'
      | error e' => cases hresult
  | error e =>
      cases r' with
      | ok a' => cases hresult
      | error e' => rfl

/-- Of two steady runs any one may come first. If both fail, the error is that of the first. -/
theorem exchange {x : Run σ α} {y : Run σ β} {f : α → β → Run σ γ} {g : β → α → Run σ γ}
    (hx : x.Steady) (hy : y.Steady) (hfg : ∀ a b, SameResult (f a b) (g b a)) :
    SameResult (x >>= fun a => y >>= f a) (y >>= fun b => x >>= g b) := by
  intro m m'
  rcases hx.returns_or_fails m with ⟨a, ha⟩ | ⟨e, he⟩
  · rcases hy.returns_or_fails m with ⟨b, hb⟩ | ⟨e, he⟩
    · rw [ha.exec_bind, hb.exec_bind, hb.exec_bind, ha.exec_bind]
      exact hfg a b _ _
    · rw [ha.bind_fails (he.bind (f a)) m, he.bind _ m']
  · rcases hy.returns_or_fails m with ⟨b, hb⟩ | ⟨e', he'⟩
    · rw [he.bind _ m, hb.bind_fails (he.bind (g b)) m']
    · rw [he.bind _ m, he'.bind _ m']
      rfl

end SameResult

end Run

/-! ## Evaluation -/

theorem toOption_mapError {ε φ : Type} (f : ε → φ) (r : Except ε α) :
    (r.mapError f).toOption = r.toOption := by
  cases r <;> rfl

section Evaluate

variable {env : Environment σ} (henv : env.InStep (fun _ _ => True) env)

include henv

theorem sameResult_self (e : Expr) : Run.SameResult (evaluate env e) (evaluate env e) :=
  Run.Steady.sameResult (evaluate_inStep henv e)

omit henv in
theorem sameResult_condition {a b : Expr}
    (h : Run.SameResult (evaluate env a) (evaluate env b)) :
    Run.SameResult (evaluateCondition env a) (evaluateCondition env b) :=
  h.bind fun _ => .ofExcept rfl

omit henv in
theorem sameResult_binary (op : Operator) {l l' r r' : Expr}
    (hl : Run.SameResult (evaluate env l) (evaluate env l'))
    (hr : Run.SameResult (evaluate env r) (evaluate env r')) :
    Run.SameResult (evaluate env (.binary op l r)) (evaluate env (.binary op l' r')) := by
  cases hop : op.isLogical with
  | true =>
      rw [evaluate_logical env l r hop, evaluate_logical env l' r' hop]
      refine (sameResult_condition hl).bind fun left => ?_
      split
      · exact .pure _
      · exact (sameResult_condition hr).bind fun _ => .pure _
  | false =>
      obtain ⟨hand, hor⟩ := Operator.isLogical_eq_false_iff.1 hop
      rw [evaluate_binary hand hor, evaluate_binary hand hor]
      refine hl.bind fun v => hr.bind fun w => ?_
      split
      · exact .bind (.ofExcept rfl) fun _ => .pure _
      · exact Run.Steady.sameResult (op.apply_inStep (fun _ _ _ _ => trivial) v w)

omit henv in
theorem sameResult_ternary {c c' t t' f f' : Expr}
    (hc : Run.SameResult (evaluate env c) (evaluate env c'))
    (ht : Run.SameResult (evaluate env t) (evaluate env t'))
    (hf : Run.SameResult (evaluate env f) (evaluate env f')) :
    Run.SameResult (evaluate env (.ternary c t f)) (evaluate env (.ternary c' t' f')) := by
  rw [evaluate_ternary, evaluate_ternary]
  refine (sameResult_condition hc).bind fun b => ?_
  cases b with
  | true => exact ht
  | false => exact hf

theorem sameResult_all {a b : Expr} (h : Run.SameResult (evaluate env a) (evaluate env b))
    (front back : List Expr) : Run.SameResult (evaluateAll env (front ++ a :: back))
      (evaluateAll env (front ++ b :: back)) := by
  induction front with
  | nil =>
      have hback := Run.Steady.sameResult (evaluateAll_inStep henv back)
      simp only [List.nil_append, evaluateAll]
      exact h.bind fun _ => hback.bind fun _ => .pure _
  | cons e front ih =>
      simp only [List.cons_append, evaluateAll]
      exact (sameResult_self henv e).bind fun _ => ih.bind fun _ => .pure _

theorem congruence_sameResult :
    Congruence fun a b => Run.SameResult (evaluate env a) (evaluate env b) where
  refl := sameResult_self henv
  trans := .trans
  fill {a b} frame h := by
    cases frame with
    | left op r => exact sameResult_binary op h (sameResult_self henv r)
    | right op l => exact sameResult_binary op (sameResult_self henv l) h
    | operand op =>
        simp only [Frame.fill, evaluate]
        exact h.bind fun _ => .ofExcept rfl
    | argument name front back =>
        simp only [Frame.fill, evaluate]
        exact (sameResult_all henv h front back).bind fun vs =>
          Run.Steady.sameResult (henv.call name vs)
    | condition t f =>
        exact sameResult_ternary h (sameResult_self henv t) (sameResult_self henv f)
    | whenTrue c f =>
        exact sameResult_ternary (sameResult_self henv c) h (sameResult_self henv f)
    | whenFalse c t =>
        exact sameResult_ternary (sameResult_self henv c) (sameResult_self henv t) h
    | item front back =>
        simp only [Frame.fill, evaluate]
        exact (sameResult_all henv h front back).bind fun _ => .pure _

theorem sameResult_mirrored {op : Operator} (hop : op.isComparison = true) (l r : Expr) :
    Run.SameResult (evaluate env (.binary op l r)) (evaluate env (.binary op.mirrored r l)) := by
  rw [evaluate_comparison hop, evaluate_comparison (op.isComparison_mirrored.trans hop)]
  refine .exchange (evaluate_inStep henv l) (evaluate_inStep henv r) fun v w => ?_
  refine .bind (.ofExcept ?_) fun _ => .pure _
  rw [toOption_mapError, toOption_mapError, op.toOption_compare_mirrored]

end Evaluate

/-! ## Expressions -/

namespace Expr

/-- A comparison with its operands exchanged; any other node as it is. -/
def mirror : Expr → Expr
  | .binary op l r => if op.isComparison then .binary op.mirrored r l else .binary op l r
  | e => e

/-- The expression with the comparisons at the chosen places mirrored. A place is the way to the
node from the root, the last step first: at each step the number of a child. -/
def mirrorAt (chosen : List Nat → Bool) (e : Expr) : Expr :=
  e.rebuild (fun place node => if chosen place then node.mirror else node) []

end Expr

/-- A relation that takes each comparison to the mirrored one takes an expression to the one with
mirrored comparisons at any places. -/
theorem Congruence.mirrorAt {R : Expr → Expr → Prop} (hR : Congruence R)
    (hcomparison : ∀ op l r, op.isComparison = true →
      R (.binary op l r) (.binary op.mirrored r l))
    (chosen : List Nat → Bool) (e : Expr) : R e (e.mirrorAt chosen) := by
  refine hR.rebuild (fun place e => ?_) [] e
  split
  · unfold Expr.mirror
    split
    · next op l r =>
      split
      · next hop => exact hcomparison op l r hop
      · exact hR.refl _
    · exact hR.refl _
  · exact hR.refl _

theorem congruence_sameType (s : Scope) : Congruence (SameType s) where
  refl _ _ := Iff.rfl
  trans h h' t := (h t).trans (h' t)
  fill frame h := h.fill frame

theorem congruence_callFree : Congruence fun a b => a.CallFree → b.CallFree where
  refl _ := id
  trans h h' := h' ∘ h
  fill {a b} frame h := by
    obtain ⟨front, back, hnodes⟩ := exists_postorder_fill frame
    have hname : (frame.fill a).callName? = (frame.fill b).callName? := by cases frame <;> rfl
    simp only [Expr.CallFree, Expr.calledNames, hnodes, List.filterMap_append,
      List.filterMap_cons, hname, List.append_eq_nil_iff] at h ⊢
    exact fun ⟨⟨⟨hfront, ha⟩, hback⟩, hnode⟩ => ⟨⟨⟨hfront, h ha⟩, hback⟩, hnode⟩

theorem callFree_mirrored (op : Operator) {l r : Expr} (h : (Expr.binary op l r).CallFree) :
    (Expr.binary op.mirrored r l).CallFree := by
  simp only [Expr.CallFree, Expr.calledNames, Expr.postorder, List.filterMap_append,
    List.append_eq_nil_iff] at h ⊢
  obtain ⟨⟨hl, hr⟩, hnode⟩ := h
  exact ⟨⟨hr, hl⟩, hnode⟩

/-- **Comparisons may be mirrored.** If comparisons of an expression are mirrored, at whatever
places, every scope gives the expression the type that it gave it before, or still refuses it. If it
calls no function, both expressions evaluate in every environment to the same value, or both fail,
whatever the output and the cache are that either one starts from. -/
theorem comparisons_mirrored (e : Expr) (chosen : List Nat → Bool) :
    (∀ s : Scope, SameType s e (e.mirrorAt chosen))
    ∧ (e.CallFree → ∀ (σ : Type) (env : Environment σ) (m m' : Memory σ),
      ((evaluate env e).exec m).1.toOption
        = ((evaluate env (e.mirrorAt chosen)).exec m').1.toOption) := by
  refine ⟨fun s => ?_, fun hfree σ env => ?_⟩
  · exact (congruence_sameType s).mirrorAt (fun _ l r hop => sameType_mirrored s hop l r) chosen e
  · have hfree' : (e.mirrorAt chosen).CallFree :=
      congruence_callFree.mirrorAt (fun op _ _ _ h => callFree_mirrored op h) chosen e hfree
    have henv := env.silenced_inStep
    -- Without calls both are evaluated as where no function is known, and there steadily.
    rw [evaluate_silenced env hfree, evaluate_silenced env hfree']
    exact (congruence_sameResult henv).mirrorAt (fun _ l r hop => sameResult_mirrored henv hop l r)
      chosen e

/-- A comparison of comparisons under a negation, with all of them mirrored. -/
theorem comparisons_mirrored_nested :
    let e : Expr := .unary .not (.binary .eq
      (.binary .lt (.field ["Exporter", "Name"]) (.literal (.string "b")))
      (.binary .ge (.literal .nil) (.field ["Exporter", "IP"])))
    let e' : Expr := .unary .not (.binary .eq
      (.binary .le (.field ["Exporter", "IP"]) (.literal .nil))
      (.binary .gt (.literal (.string "b")) (.field ["Exporter", "Name"])))
    e.CallFree ∧ e.mirrorAt (fun _ => true) = e'
      ∧ (∀ s : Scope, SameType s e e')
      ∧ ∀ (σ : Type) (env : Environment σ) (m m' : Memory σ),
        ((evaluate env e).exec m).1.toOption = ((evaluate env e').exec m').1.toOption := by
  intro e e'
  have hfree : e.CallFree := by decide
  obtain ⟨htypes, hresults⟩ := comparisons_mirrored e fun _ => true
  exact ⟨hfree, rfl, htypes, hresults hfree⟩

end LabelRules
