import LabelRules.Evaluation.Environment
import LabelRules.Evaluation.Operation
import LabelRules.Program

set_option autoImplicit false

/-! # Evaluation

`evaluate` finds the value of an expression in an environment. Operands and arguments are evaluated
from left to right; the right operand of `&&` and `||` and the branches of a ternary only if they
are needed, so that a capability on a side that is passed over does nothing. A program runs in an
environment of its kind (`Program.run`), and a failure of it names the rule.
-/

namespace LabelRules

variable {σ : Type}

/-! ## Expressions -/

/-- The boolean that a condition has to be. -/
def Value.condition (v : Value) : Except RunError Bool := v.asBool.mapError .mismatch

mutual

/-- The value of an expression. -/
def evaluate (env : Environment σ) : Expr → Run σ Value
  | .literal v => return v
  | .field path =>
    match path with
    | [variableName, field] => Run.ofExcept (env.field variableName field)
    | path => throw (.fieldNotFound (".".intercalate path))
  | .binary op l r =>
    match op with
    | .and => do
      if ← Run.ofExcept (← evaluate env l).condition then
        return .bool (← Run.ofExcept (← evaluate env r).condition)
      else return .bool false
    | .or => do
      if ← Run.ofExcept (← evaluate env l).condition then return .bool true
      else return .bool (← Run.ofExcept (← evaluate env r).condition)
    | op => do
      let left ← evaluate env l
      let right ← evaluate env r
      if op.isComparison then
        return .bool (← Run.ofExcept ((op.compare left right).mapError .invalidOperation))
      else op.apply left right
  | .unary op e => do
    let operand ← evaluate env e
    Run.ofExcept ((op.apply operand).mapError .invalidOperation)
  | .call name args => do env.call name (← evaluateAll env args)
  | .ternary c t f => do
    if ← Run.ofExcept (← evaluate env c).condition then evaluate env t else evaluate env f
  | .array items => return .array (← evaluateAll env items)

/-- The values of a list of expressions. -/
def evaluateAll (env : Environment σ) : List Expr → Run σ (List Value)
  | [] => return []
  | e :: es => do
    let v ← evaluate env e
    return v :: (← evaluateAll env es)

end

/-- The boolean that an expression is. -/
def evaluateCondition (env : Environment σ) (e : Expr) : Run σ Bool := do
  Run.ofExcept (← evaluate env e).condition

/-! ## Programs -/

namespace Program

/-- Whether a program fires, in an environment of its kind. -/
def fires (p : Program) (env : Environment σ) : Run σ Bool :=
  if p.kind = env.kind then evaluateCondition env p.expr
  else throw (.kindMismatch p.kind env.kind)

/-- Runs a program from a memory: whether it fires, or its failure, and the memory afterwards. -/
def run (p : Program) (env : Environment σ) (m : Memory σ) :
    Except RunFailure Bool × Memory σ :=
  let (result, m') := (p.fires env).exec m
  (result.mapError fun e => ⟨p.source, e⟩, m')

/-- Runs a program on an exporter: whether it fires and the group it records, or its failure, and
the cache afterwards. -/
def runOnExporter (p : Program) (exporter : Exporter) (cache : Cache) :
    Except RunFailure (Bool × Option String) × Cache :=
  let (result, m) := p.run (.ofExporter exporter) ⟨none, cache⟩
  (result.map fun fired => (fired, m.output), m.cache)

/-- Runs a program on an interface: whether it fires, or its failure, and the labels and the cache
afterwards. -/
def runOnInterface (p : Program) (exporter : Exporter) (interface : Interface) (labels : Labels)
    (cache : Cache) : Except RunFailure Bool × Memory Labels :=
  p.run (.ofInterface exporter interface) ⟨labels, cache⟩

end Program

end LabelRules
