import LabelRules.Proofs.Operators
import LabelRules.Proofs.Reach
import LabelRules.Program
import Mathlib.Logic.Basic

set_option autoImplicit false

/-! # What a failure is blamed on

Three things can make an accepted expression fail, each at a node that its evaluation reaches: a
computed text that is no pattern, a bare variable, and an operator on values of kinds that it is not
defined on (`Clash`). `Blame` names the node for each error. Of a clash it says more: below the node
a ternary with one branch of type `any` was reached, so that the value of an operand may be of
another type than the operand (`NilSafe`).
-/

namespace LabelRules

variable {σ : Type}

/-! ## Patterns -/

/-- The expression whose value is the pattern at a node: the right side of `matches`, or the second
argument of a capability that takes a pattern. -/
def Expr.patternOperand? : Expr → Option Expr
  | .binary .matches _ right => some right
  | .call name args =>
    if Capability.takesPattern name then
      match args with
      | [_, pattern, _] => some pattern
      | _ => none
    else none
  | _ => none

/-- A pattern is written out if the expression that gives it is a string literal. -/
theorem Expr.literalPattern?_eq (e : Expr) :
    e.literalPattern? = e.patternOperand?.bind stringLiteral? := by
  cases e with
  | binary op l r => cases op <;> rfl
  | call name args =>
      simp only [literalPattern?, patternOperand?]
      split
      · rcases args with _ | ⟨a, _ | ⟨b, _ | ⟨c, _ | ⟨d, rest⟩⟩⟩⟩ <;> rfl
      · rfl
  | literal | field | unary | ternary | array => rfl

/-- Where no pattern that is written out is invalid, an invalid pattern is not written out. -/
theorem Expr.stringLiteral?_eq_none_of_invalid {env : Environment σ} {e node operand : Expr}
    {text : String} (hvalid : e.invalidPatterns = []) (hnode : node ∈ e.postorder)
    (hoperand : node.patternOperand? = some operand) (m : Memory σ)
    (hvalue : (evaluate env operand).Returns (.string text))
    (hinvalid : Pattern.isValid text = false) : operand.stringLiteral? = none := by
  cases hliteral : operand.stringLiteral? with
  | none => rfl
  | some literal =>
      exfalso
      obtain rfl : operand = .literal (.string literal) := by
        unfold stringLiteral? at hliteral
        split at hliteral
        · cases hliteral
          rfl
        · cases hliteral
      -- A literal returns itself, so the invalid text is the one that is written out.
      have hreturns : (evaluate env (.literal (.string literal))).Returns (.string literal) :=
        fun _ => rfl
      obtain rfl : literal = text := by
        have hboth := (hreturns m).symm.trans (hvalue m)
        simpa using hboth
      have hmem : literal ∈ e.invalidPatterns := by
        unfold invalidPatterns literalPatterns
        refine List.mem_filter.2 ⟨List.mem_filterMap.2 ⟨node, hnode, ?_⟩, by simp [hinvalid]⟩
        rw [literalPattern?_eq, hoperand]
        exact hliteral
      rw [hvalid] at hmem
      cases hmem

/-! ## Ternaries with one `nil` branch -/

/-- A ternary with exactly one branch of type `any`. -/
def Expr.IsHalfNil (s : Scope) : Expr → Prop
  | .ternary _ whenTrue whenFalse =>
    Xor (infer s whenTrue = .ok .any) (infer s whenFalse = .ok .any)
  | _ => False

/-- No ternary with one branch of type `any` is reached. -/
def NilSafe (env : Environment σ) (s : Scope) (e : Expr) : Prop :=
  ∀ node, Reaches env e node → ¬ node.IsHalfNil s

section NilSafe

variable {env : Environment σ} {s : Scope} {e child : Expr}

theorem NilSafe.of_needs (h : NilSafe env s e) (hneeds : Needs env e child) :
    NilSafe env s child := by
  intro node hreaches
  exact h node (.head hneeds hreaches)

theorem NilSafe.not_isHalfNil (h : NilSafe env s e) : ¬ e.IsHalfNil s := h e .refl

theorem NilSafe.of_postorder (h : ∀ node ∈ e.postorder, ¬ node.IsHalfNil s) :
    NilSafe env s e := by
  intro node hreaches
  exact h node hreaches.mem_postorder

end NilSafe

/-! ## Clashes -/

/-- The operands of a node return values that its operator is not defined on. -/
inductive Clash (env : Environment σ) : Expr → RunError → Prop
  | comparison {op : Operator} {l r : Expr} {v w : Value} {o : InvalidOperation}
      (hop : op.isComparison = true) (hl : (evaluate env l).Returns v)
      (hr : (evaluate env r).Returns w) (herror : op.compare v w = .error o) :
      Clash env (.binary op l r) (.invalidOperation o)
  | operator {op : Operator} {l r : Expr} {v w : Value} {error : RunError}
      (hop : op.isComparison = false) (hand : op ≠ .and) (hor : op ≠ .or)
      (hl : (evaluate env l).Returns v) (hr : (evaluate env r).Returns w)
      (herror : (op.apply v w : Run σ Value).Fails error) (hclash : error.IsKindClash) :
      Clash env (.binary op l r) error
  | unary {op : UnaryOp} {e : Expr} {v : Value} {o : InvalidOperation}
      (he : (evaluate env e).Returns v) (herror : op.apply v = .error o) :
      Clash env (.unary op e) (.invalidOperation o)

section Clash

variable {env : Environment σ} {node : Expr} {error : RunError}

/-- A clash is the error of its node. -/
theorem Clash.fails (h : Clash env node error) : (evaluate env node).Fails error := by
  cases h with
  | comparison hop hl hr herror =>
      rw [evaluate_comparison hop]
      refine hl.bind_fails (hr.bind_fails ?_)
      rw [herror]
      exact fun _ => rfl
  | operator hop hand hor hl hr herror _ =>
      rw [evaluate_binary hand hor]
      refine hl.bind_fails (hr.bind_fails ?_)
      rw [if_neg (by simp [hop])]
      exact herror
  | unary he herror =>
      rw [evaluate]
      refine he.bind_fails ?_
      rw [herror]
      exact fun _ => rfl

theorem Clash.isKindClash (h : Clash env node error) : error.IsKindClash := by
  cases h with
  | @comparison op l r v w o _ _ _ herror =>
      have hends := op.compare_clash v w
      rw [herror] at hends
      exact hends
  | operator _ _ _ _ _ _ hclash => exact hclash
  | @unary op e v o _ herror =>
      have hends := op.apply_clash v
      rw [herror] at hends
      exact hends

end Clash

/-! ## Blame -/

/-- Why an expression fails with an error: the node that is to blame is reached. -/
inductive Blame (env : Environment σ) (s : Scope) (e : Expr) : RunError → Prop
  | pattern {node operand : Expr} {text : String} (hreaches : Reaches env e node)
      (hoperand : node.patternOperand? = some operand)
      (hvalue : (evaluate env operand).Returns (.string text))
      (hinvalid : Pattern.isValid text = false) : Blame env s e (.invalidPattern text)
  | variable {name : String} {t : Ty} (hreaches : Reaches env e (.field [name]))
      (hdeclared : s.variableType? name = some t) : Blame env s e (.fieldNotFound name)
  | clash {node : Expr} {error : RunError} (hreaches : Reaches env e node)
      (hclash : Clash env node error) (hhalf : ¬ NilSafe env s node) : Blame env s e error

/-- What a needed child is blamed for, the whole is blamed for. -/
theorem Blame.of_needs {env : Environment σ} {s : Scope} {e child : Expr} {error : RunError}
    (h : Blame env s child error) (hneeds : Needs env e child) : Blame env s e error := by
  cases h with
  | pattern hreaches hoperand hvalue hinvalid =>
      exact .pattern (.head hneeds hreaches) hoperand hvalue hinvalid
  | «variable» hreaches hdeclared => exact .variable (.head hneeds hreaches) hdeclared
  | clash hreaches hclash hhalf => exact .clash (.head hneeds hreaches) hclash hhalf

/-- A bare variable has no value. -/
theorem evaluate_variable_fails (env : Environment σ) (name : String) :
    (evaluate env (.field [name])).Fails (.fieldNotFound name) := by
  intro m
  rw [evaluate]
  · simp
  · simp

end LabelRules
