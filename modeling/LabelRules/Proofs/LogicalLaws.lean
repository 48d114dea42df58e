import LabelRules.Proofs.Effects
import LabelRules.Proofs.Soundness

set_option autoImplicit false

/-! # The laws of the logical operators

The operands of `&&` and `||` may call capabilities, may fail, and may be passed over, so a law
about them compares two runs with all that they do. Connecting runs is associative, and negating
them exchanges the two ways of connecting (`Operator.connect_assoc`, `Operator.not_connect`). From
this the laws follow for all operands, and for expressions that have a boolean as their value or
fail (`BoolValued`), as those of type boolean do (`Subject.logical_laws`).
-/

namespace LabelRules

variable {σ α : Type}

/-- Runs that do the same from every memory are equal. -/
theorem Run.ext {x y : Run σ α} (h : ∀ m, x.exec m = y.exec m) : x = y := funext h

/-! ## Connecting runs -/

namespace Operator

/-- Two runs connected by a logical operator: the second one is run unless the result of the first
one decides. -/
def connect (op : Operator) (x y : Run σ Bool) : Run σ Bool := do
  let left ← x
  if op.passesOver left then return left else y

theorem connect_assoc (op : Operator) (x y z : Run σ Bool) :
    op.connect (op.connect x y) z = op.connect x (op.connect y z) := by
  unfold connect
  rw [bind_assoc]
  refine bind_congr fun left => ?_
  -- What decides in the first run decides for both operators.
  cases hleft : op.passesOver left with
  | true => simp only [if_true, pure_bind, hleft]
  | false => simp only [Bool.false_eq_true, if_false]

/-- `&&` for `||` and the other way round. -/
def dual : Operator → Operator
  | .and => .or
  | .or => .and
  | op => op

theorem isLogical_dual (op : Operator) : op.dual.isLogical = op.isLogical := by
  cases op <;> rfl

theorem passesOver_dual {op : Operator} (hop : op.isLogical = true) (left : Bool) :
    op.dual.passesOver (!left) = op.passesOver left := by
  rcases isLogical_iff.1 hop with rfl | rfl
  · cases left <;> rfl
  · cases left <;> rfl

/-- De Morgan's law for runs. -/
theorem not_connect {op : Operator} (hop : op.isLogical = true) (x y : Run σ Bool) :
    not <$> op.connect x y = op.dual.connect (not <$> x) (not <$> y) := by
  unfold connect
  rw [map_bind, bind_map_left]
  refine bind_congr fun left => ?_
  rw [passesOver_dual hop]
  cases op.passesOver left with
  | true => simp only [if_true, map_pure]
  | false => simp only [Bool.false_eq_true, if_false]

end Operator

/-! ## Values that are booleans -/

/-- An expression that has a boolean as its value, or fails. -/
def BoolValued (env : Environment σ) (e : Expr) : Prop :=
  evaluate env e = Value.bool <$> evaluateCondition env e

section Evaluate

variable {env : Environment σ} {op : Operator} {a b e : Expr}

theorem BoolValued.of_ends {E : RunError → Prop} (h : (evaluate env e).Ends Value.IsBool E) :
    BoolValued env e := by
  refine Run.ext fun m => ?_
  have hm := h m
  rw [evaluateCondition, ← bind_pure_comp, bind_assoc, Run.exec_bind]
  rcases hexec : (evaluate env e).exec m with ⟨r, m'⟩
  rw [hexec] at hm
  cases r with
  | ok v =>
      obtain ⟨b, rfl⟩ := hm
      rfl
  | error e => rfl

/-- As a condition, such an expression is the boolean itself. -/
theorem BoolValued.of_eq {x : Run σ Bool} (h : evaluate env e = Value.bool <$> x) :
    BoolValued env e ∧ evaluateCondition env e = x := by
  have hbool (b : Bool) : (Run.ofExcept (Value.bool b).condition : Run σ Bool) = pure b := rfl
  have hcondition : evaluateCondition env e = x := by
    rw [evaluateCondition, h, bind_map_left]
    simp only [hbool, bind_pure]
  refine ⟨?_, hcondition⟩
  rw [BoolValued, h, hcondition]

/-- `&&` and `||` connect their operands as conditions. -/
theorem evaluate_connect (env : Environment σ) (hop : op.isLogical = true) (a b : Expr) :
    evaluate env (.binary op a b)
      = Value.bool <$> op.connect (evaluateCondition env a) (evaluateCondition env b) := by
  rw [evaluate_logical env a b hop]
  unfold Operator.connect
  rw [map_bind]
  refine bind_congr fun left => ?_
  cases op.passesOver left with
  | true => simp only [if_true, map_pure]
  | false => simp only [Bool.false_eq_true, if_false, bind_pure_comp]

/-- `!` fails with an error of its own for an operand that is no boolean. -/
theorem evaluate_not (h : BoolValued env e) :
    evaluate env (.unary .not e) = Value.bool <$> not <$> evaluateCondition env e := by
  have hbool (b : Bool) :
      (Run.ofExcept ((UnaryOp.not.apply (.bool b)).mapError .invalidOperation) : Run σ Value)
        = pure (.bool !b) := rfl
  rw [evaluate, h, bind_map_left, Functor.map_map]
  simp only [hbool, bind_pure_comp]

theorem evaluate_assoc (env : Environment σ) (hop : op.isLogical = true) (a b c : Expr) :
    evaluate env (.binary op (.binary op a b) c)
      = evaluate env (.binary op a (.binary op b c)) := by
  have hleft := (BoolValued.of_eq (evaluate_connect env hop a b)).2
  have hright := (BoolValued.of_eq (evaluate_connect env hop b c)).2
  calc evaluate env (.binary op (.binary op a b) c)
      = Value.bool <$> op.connect
          (op.connect (evaluateCondition env a) (evaluateCondition env b))
          (evaluateCondition env c) := by rw [evaluate_connect env hop, hleft]
    _ = Value.bool <$> op.connect (evaluateCondition env a)
          (op.connect (evaluateCondition env b) (evaluateCondition env c)) := by
        rw [Operator.connect_assoc]
    _ = evaluate env (.binary op a (.binary op b c)) := by rw [evaluate_connect env hop, hright]

theorem evaluate_not_logical (hop : op.isLogical = true) (ha : BoolValued env a)
    (hb : BoolValued env b) :
    evaluate env (.unary .not (.binary op a b))
      = evaluate env (.binary op.dual (.unary .not a) (.unary .not b)) := by
  obtain ⟨hbool, hcondition⟩ := BoolValued.of_eq (evaluate_connect env hop a b)
  have hdual : op.dual.isLogical = true := op.isLogical_dual.trans hop
  have hnotA := (BoolValued.of_eq (evaluate_not ha)).2
  have hnotB := (BoolValued.of_eq (evaluate_not hb)).2
  calc evaluate env (.unary .not (.binary op a b))
      = Value.bool <$> not <$>
          op.connect (evaluateCondition env a) (evaluateCondition env b) := by
        rw [evaluate_not hbool, hcondition]
    _ = Value.bool <$> op.dual.connect (not <$> evaluateCondition env a)
          (not <$> evaluateCondition env b) := by rw [Operator.not_connect hop]
    _ = evaluate env (.binary op.dual (.unary .not a) (.unary .not b)) := by
        rw [evaluate_connect env hdual, hnotA, hnotB]

end Evaluate

/-! ## Laws -/

/-- **The laws of `&&` and `||`, with all that their operands do.** Two sides of a law are equal as
runs: from every output and with every cache they have the same value, or fail with the same error,
and leave the same output and the same cache. Both operators are associative, whatever their
operands are; and if two expressions have the type boolean, a negated `&&` or `||` of them is the
other operator applied to their negations. -/
theorem Subject.logical_laws (x : Subject) (a b c : Expr) :
    evaluate x.environment (.binary .and (.binary .and a b) c)
        = evaluate x.environment (.binary .and a (.binary .and b c))
    ∧ evaluate x.environment (.binary .or (.binary .or a b) c)
        = evaluate x.environment (.binary .or a (.binary .or b c))
    ∧ (infer (Schema.of x.kind).scope a = .ok .bool →
      infer (Schema.of x.kind).scope b = .ok .bool →
        evaluate x.environment (.unary .not (.binary .and a b))
            = evaluate x.environment (.binary .or (.unary .not a) (.unary .not b))
        ∧ evaluate x.environment (.unary .not (.binary .or a b))
            = evaluate x.environment (.binary .and (.unary .not a) (.unary .not b))) := by
  refine ⟨evaluate_assoc _ rfl a b c, evaluate_assoc _ rfl a b c, fun ha hb => ?_⟩
  have hbool {e : Expr} (he : infer (Schema.of x.kind).scope e = .ok .bool) :
      BoolValued x.environment e :=
    .of_ends ((evaluate_sound x.environment_serves e .bool he).mono (fun _ h => h.1) fun _ h => h)
  exact ⟨evaluate_not_logical rfl (hbool ha) (hbool hb),
    evaluate_not_logical rfl (hbool ha) (hbool hb)⟩

/-- Two calls that record a group, the second one with a text that is no pattern. -/
theorem logical_laws_classify : ∃ a b : Expr,
    a = .call Capability.classify [.field ["Exporter", "Name"]]
    ∧ b = .call Capability.classifyRegex
      [.field ["Exporter", "Name"], .field ["Exporter", "IP"], .literal (.string "$0")]
    ∧ infer (Schema.of .exporter).scope a = .ok .bool
    ∧ infer (Schema.of .exporter).scope b = .ok .bool
    ∧ evaluate (Subject.exporter { name := "core", ip := "(" }).environment
        (.unary .not (.binary .and a b))
      = evaluate (Subject.exporter { name := "core", ip := "(" }).environment
        (.binary .or (.unary .not a) (.unary .not b))
    ∧ evaluate (Subject.exporter { name := "core", ip := "(" }).environment
        (.unary .not (.binary .or a b))
      = evaluate (Subject.exporter { name := "core", ip := "(" }).environment
        (.binary .and (.unary .not a) (.unary .not b)) :=
  ⟨_, _, rfl, rfl, rfl, rfl,
    (Subject.logical_laws (.exporter { name := "core", ip := "(" }) _ _ (.literal .nil)).2.2
      rfl rfl⟩

/-- Of an operand that is no boolean `&&` and `!` complain in different ways. -/
example (m : Memory (Option String)) :
    ((evaluate (.ofExporter {}) (.unary .not
        (.binary .and (.literal .nil) (.literal .nil)))).exec m).1
      = .error (.mismatch ⟨.bool, .nil⟩)
    ∧ ((evaluate (.ofExporter {}) (.binary .or (.unary .not (.literal .nil))
        (.unary .not (.literal .nil)))).exec m).1
      = .error (.invalidOperation (.unary .not .nil)) :=
  ⟨rfl, rfl⟩

end LabelRules
