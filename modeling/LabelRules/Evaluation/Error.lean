import LabelRules.Expr.Basic
import LabelRules.Subject
import LabelRules.Text.Quoted

set_option autoImplicit false

/-! # Errors of a run

Why a rule fails while it runs, and the wording of each reason (`RunError.message`). A failure of a
program names the rule (`RunFailure`).
-/

namespace LabelRules

/-- An operation on values of kinds for which it is not defined, or on too few or too many. -/
inductive InvalidOperation where
  | binary (op : Operator) (left right : ValueKind)
  | comparison (op : Operator) (left right : ValueKind)
  | unary (op : UnaryOp) (operand : ValueKind)
  | arity (function : String) (expected actual : Nat)
  deriving DecidableEq, Repr, Inhabited

def InvalidOperation.message : InvalidOperation → String
  | .binary op left right => s!"Cannot apply {op.symbol} to {left.name} and {right.name}"
  | .comparison op left right => s!"Cannot compare {left.name} and {right.name} with {op.symbol}"
  | .unary op operand => s!"Cannot apply {op.symbol} to {operand.name}"
  | .arity function expected actual =>
    s!"{function} expects {expected} argument(s), got {actual}"

inductive RunError where
  | invalidOperation (o : InvalidOperation)
  | unknownFunction (name : String)
  /-- A text that was to be a pattern is none. -/
  | invalidPattern (text : String)
  /-- A program of one kind was run in an environment of another. -/
  | kindMismatch (program environment : Kind)
  | mismatch (m : Mismatch)
  | fieldNotFound (path : String)
  deriving DecidableEq, Repr, Inhabited

def RunError.message : RunError → String
  | .invalidOperation o => "Invalid operation: " ++ o.message
  | .unknownFunction name => s!"Unknown function: {name}"
  | .invalidPattern text => "cannot compile regex " ++ Quoted.text text ++ ":"
  | .kindMismatch program environment =>
    s!"{program.name} program cannot run in {environment.name} environment"
  | .mismatch m => m.message
  | .fieldNotFound path => s!"Field not found: {path}"

/-- An error of a run of the program with a rule text. -/
structure RunFailure where
  rule : String
  error : RunError
  deriving DecidableEq, Repr, Inhabited

def RunFailure.message (f : RunFailure) : String :=
  s!"unable to execute classifier {Quoted.text f.rule}: {f.error.message}"

end LabelRules
