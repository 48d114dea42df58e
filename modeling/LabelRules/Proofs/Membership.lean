import LabelRules.Proofs.CallFree
import LabelRules.Proofs.Numbers
import LabelRules.Proofs.ReachedEffects
import Mathlib.Data.List.Forall2

set_option autoImplicit false

/-! # Membership and equality

`x in [e₁, ..., eₙ]` looks for the value of `x` among those of the items, by an equality of values
that goes item by item through arrays; `x == e₁ || ... || x == eₙ` compares two values at a time,
and has its own rules for `nil` and for values of different kinds (`Expr.equalsAny`). On scalars
that can be compared both ask the same of two values (`Operator.compare_eq`), so the two expressions
have the same value (`membership_agrees`), and `not in` the other one unless `x` is `nil`.
-/

namespace LabelRules

variable {σ : Type}

/-! ## Comparisons of scalars -/

namespace Value

/-- Not an array. -/
def IsScalar (v : Value) : Prop := v.kind ≠ .array

/-- Two values that can be compared: they are of one kind, or one of them is `nil`. -/
def Comparable (v w : Value) : Prop := v.kind = .nil ∨ w.kind = .nil ∨ w.kind = v.kind

/-- What `==` says of two scalars: they are the same, and not `nil`. -/
def equals (v w : Value) : Bool := v.kind != .nil && same w v

theorem any_equals (v : Value) (ws : List Value) :
    ws.any v.equals = (v.kind != .nil && v.isIn ws) := by
  show (ws.any fun w => v.kind != .nil && same w v) = _
  induction ws with
  | nil => simp [isIn]
  | cons w ws ih =>
      rw [List.any_cons, ih]
      cases hv : v.kind != .nil with
      | true => simp [isIn]
      | false => rfl

end Value

open Value

/-- The comparison asks with its operands in the other order. -/
theorem Operator.compare_eq {v w : Value} (hv : v.IsScalar) (hw : w.IsScalar)
    (h : v.Comparable w) : Operator.eq.compare v w = .ok (v.equals w) := by
  cases v with
  | nil => rfl
  | array items => exact absurd rfl hv
  | number x =>
      cases w with
      | nil => rfl
      | number y =>
          show Except.ok (x == y) = .ok (same (.number y) (.number x))
          rw [same_number, Number.beq_comm]
      | array items => exact absurd rfl hw
      | bool | string => simp [Comparable, kind] at h
  | string s =>
      cases w with
      | nil => rfl
      | string t =>
          show Except.ok (s == t) = .ok (same (.string t) (.string s))
          rw [same_string, Bool.beq_comm]
      | array items => exact absurd rfl hw
      | bool | number => simp [Comparable, kind] at h
  | bool a =>
      cases w with
      | nil => rfl
      | bool b => cases a <;> cases b <;> rfl
      | array items => exact absurd rfl hw
      | string | number => simp [Comparable, kind] at h

/-! ## Runs that return -/

section Returns

variable {env : Environment σ}

theorem evaluateAll_returns {es : List Expr} {ws : List Value}
    (h : List.Forall₂ (fun e w => (evaluate env e).Returns w) es ws) :
    (evaluateAll env es).Returns ws := by
  induction h with
  | nil => exact fun _ => rfl
  | cons he _ ih =>
      rw [evaluateAll]
      exact he.bind (ih.bind fun _ => rfl)

theorem or_returns {l r : Expr} {a b : Bool} (hl : (evaluate env l).Returns (.bool a))
    (hr : (evaluate env r).Returns (.bool b)) :
    (evaluate env (.binary .or l r)).Returns (.bool (a || b)) := by
  rw [evaluate_logical env l r rfl]
  refine (evaluateCondition_returns_iff.2 hl).bind ?_
  cases a with
  | true => exact fun _ => rfl
  | false => exact (evaluateCondition_returns_iff.2 hr).bind fun _ => rfl

theorem equality_returns {x e : Expr} {v w : Value} (hx : (evaluate env x).Returns v)
    (he : (evaluate env e).Returns w) (hv : v.IsScalar) (hw : w.IsScalar) (h : v.Comparable w) :
    (evaluate env (.binary .eq x e)).Returns (.bool (v.equals w)) := by
  rw [evaluate_comparison rfl]
  refine hx.bind (he.bind fun m => ?_)
  rw [Operator.compare_eq hv hw h]
  rfl

theorem membership_returns {x : Expr} {es : List Expr} {v : Value} {ws : List Value}
    (hx : (evaluate env x).Returns v) (hes : (evaluateAll env es).Returns ws) (hv : v.IsScalar) :
    (evaluate env (.binary .isIn x (.array es))).Returns (.bool (v.kind != .nil && v.isIn ws))
      ∧ (evaluate env (.binary .notIn x (.array es))).Returns
        (.bool (v.kind != .nil && !v.isIn ws)) := by
  have harray : (evaluate env (.array es)).Returns (.array ws) := by
    rw [evaluate]
    exact hes.bind fun _ => rfl
  constructor
  · rw [evaluate_binary (by decide) (by decide)]
    refine hx.bind (harray.bind fun m => ?_)
    cases v with
    | array items => exact absurd rfl hv
    | nil | bool | number | string => rfl
  · rw [evaluate_binary (by decide) (by decide)]
    refine hx.bind (harray.bind fun m => ?_)
    cases v with
    | array items => exact absurd rfl hv
    | nil | bool | number | string => rfl

end Returns

/-! ## Membership as a chain of equalities -/

/-- `x == e₁ || ... || x == eₙ`, from the left; `false` if there is nothing to compare with. -/
def Expr.equalsAny (x : Expr) : List Expr → Expr
  | [] => .literal (.bool false)
  | e :: es => es.foldl (fun left e => .binary .or left (.binary .eq x e)) (.binary .eq x e)

section Chain

variable {env : Environment σ} {x : Expr} {v : Value} {es : List Expr} {ws : List Value}

/-- Each equality more in the chain is one more value that may be the same. -/
theorem chain_returns (hx : (evaluate env x).Returns v) (hv : v.IsScalar)
    (hes : List.Forall₂ (fun e w => (evaluate env e).Returns w) es ws)
    (hws : ∀ w ∈ ws, w.IsScalar ∧ v.Comparable w) {left : Expr} {b : Bool}
    (hleft : (evaluate env left).Returns (.bool b)) :
    (evaluate env (es.foldl (fun left e => .binary .or left (.binary .eq x e)) left)).Returns
      (.bool (b || ws.any v.equals)) := by
  induction hes generalizing left b with
  | nil => simpa using hleft
  | @cons e w es ws he _ ih =>
      obtain ⟨hw, hcomparable⟩ := hws w List.mem_cons_self
      have hequal := equality_returns hx he hv hw hcomparable
      have hrest := ih (fun u hu => hws u (List.mem_cons_of_mem w hu)) (or_returns hleft hequal)
      rw [List.foldl_cons, List.any_cons, ← Bool.or_assoc]
      exact hrest

theorem equalsAny_returns (hx : (evaluate env x).Returns v) (hv : v.IsScalar)
    (hes : List.Forall₂ (fun e w => (evaluate env e).Returns w) es ws)
    (hws : ∀ w ∈ ws, w.IsScalar ∧ v.Comparable w) :
    (evaluate env (x.equalsAny es)).Returns (.bool (v.kind != .nil && v.isIn ws)) := by
  rw [← any_equals]
  cases hes with
  | nil => exact fun _ => rfl
  | @cons e w es ws he hes =>
      obtain ⟨hw, hcomparable⟩ := hws w List.mem_cons_self
      have hequal := equality_returns hx he hv hw hcomparable
      have hrest : ∀ u ∈ ws, u.IsScalar ∧ v.Comparable u :=
        fun u hu => hws u (List.mem_cons_of_mem w hu)
      exact chain_returns hx hv hes hrest hequal

/-- **Membership agrees with equality.** Let `x` and some items be expressions without calls that
have scalars as their values, each of which can be compared with that of `x`. Then, from every
memory, `x in` the items has the same boolean as its value as the chain of equalities, and
`x not in` the items the other one; but both are false if `x` is `nil`. -/
theorem membership_agrees {m : Memory σ} (hx : x.CallFree) (hes : ∀ e ∈ es, e.CallFree)
    (hvalue : ((evaluate env x).exec m).1 = .ok v)
    (hvalues : List.Forall₂ (fun e w => ((evaluate env e).exec m).1 = .ok w) es ws)
    (hv : v.IsScalar) (hws : ∀ w ∈ ws, w.IsScalar ∧ v.Comparable w) :
    ∃ b, (evaluate env (.binary .isIn x (.array es))).Returns (.bool b)
      ∧ (evaluate env (x.equalsAny es)).Returns (.bool b)
      ∧ (v ≠ .nil → (evaluate env (.binary .notIn x (.array es))).Returns (.bool !b))
      ∧ (v = .nil → (evaluate env (.binary .notIn x (.array es))).Returns (.bool false)) := by
  have hreturns : (evaluate env x).Returns v := (evaluate_steady_of_callFree env hx).returns hvalue
  have hitems : List.Forall₂ (fun e w => (evaluate env e).Returns w) es ws := by
    refine List.Forall₂.imp ?_ ((List.forall₂_and_left _ _).2 ⟨hes, hvalues⟩)
    exact fun e w h => (evaluate_steady_of_callFree env h.1).returns h.2
  obtain ⟨hin, hnotIn⟩ := membership_returns hreturns (evaluateAll_returns hitems) hv
  refine ⟨_, hin, equalsAny_returns hreturns hv hitems hws, fun hne => ?_, fun hnil => ?_⟩
  · have hkind : (v.kind != .nil) = true := by
      cases v with
      | nil => exact absurd rfl hne
      | bool | number | string | array => rfl
    simpa only [hkind, Bool.true_and] using hnotIn
  · subst hnil
    exact hnotIn

end Chain

/-- Minus zero. -/
def minusZero : Expr := .unary .negate (.literal (.number 0))

/-- `nil`, not a number, and zero. -/
def peculiarItems : List Expr :=
  [.literal .nil, .binary .div (.literal (.number 0)) (.literal (.number 0)), .literal (.number 0)]

/-- Minus zero is in such items, for it equals zero. -/
theorem membership_agrees_minusZero :
    minusZero.CallFree ∧ (∀ e ∈ peculiarItems, e.CallFree)
      ∧ (evaluate (.ofExporter {}) (.binary .isIn minusZero (.array peculiarItems))).Returns
        (.bool true)
      ∧ (evaluate (.ofExporter {}) (minusZero.equalsAny peculiarItems)).Returns (.bool true)
      ∧ (evaluate (.ofExporter {}) (.binary .notIn minusZero (.array peculiarItems))).Returns
        (.bool false) := by
  have hx : minusZero.CallFree := by decide
  have hes : ∀ e ∈ peculiarItems, e.CallFree := by decide
  have hvalue : ((evaluate (.ofExporter {}) minusZero).exec ⟨none, .empty⟩).1
      = .ok (.number (-0)) := rfl
  have hvalues : List.Forall₂
      (fun e w => ((evaluate (.ofExporter {}) e).exec ⟨none, .empty⟩).1 = .ok w) peculiarItems
      [.nil, .number (0 / 0), .number 0] := .cons rfl (.cons rfl (.cons rfl .nil))
  have hscalars : ∀ w ∈ [.nil, .number (0 / 0), .number 0],
      w.IsScalar ∧ (Value.number (-0)).Comparable w := by
    simp [IsScalar, Comparable, kind]
  obtain ⟨b, hin, hequals, hnotIn, -⟩ :=
    membership_agrees hx hes hvalue hvalues (by simp [IsScalar, kind]) hscalars
  have hb : (Value.number (-0)).isIn [.nil, .number (0 / 0), .number 0] = b :=
    Value.bool.inj (Except.ok.inj (hin ⟨none, .empty⟩))
  have htrue : (Value.number (-0)).isIn [.nil, .number (0 / 0), .number 0] = true := by
    decide +kernel
  obtain rfl : true = b := htrue.symm.trans hb
  exact ⟨hx, hes, hin, hequals, hnotIn Value.noConfusion⟩

end LabelRules
