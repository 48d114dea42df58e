import LabelRules.Expr.Basic
import LabelRules.Typing.Basic

set_option autoImplicit false

/-! # Errors of types and names

Why the checker refuses an expression, and the wording of each reason (`CheckError.message`).
-/

namespace LabelRules

/-- What an operator needs of an operand. -/
inductive Need where
  | numeric
  | comparable
  | bool
  | string
  deriving DecidableEq, Repr, Inhabited

def Need.description : Need → String
  | .numeric => "numeric"
  | .comparable => "comparable"
  | .bool => "bool"
  | .string => "string"

/-- An operand of a binary operator. -/
inductive Side where
  | left
  | right
  deriving DecidableEq, Repr, Inhabited

def Side.description : Side → String
  | .left => "Left"
  | .right => "Right"

/-- The ways in which types do not fit. -/
inductive TypeError where
  /-- An operand is not of a type that the operator needs. -/
  | operand (side : Side) (op : Operator) (need : Need) (actual : Ty)
  /-- The operands of a comparison are not compatible. -/
  | incomparable (left right : Ty)
  /-- Booleans are not ordered. -/
  | unordered (op : Operator)
  /-- The right operand of a membership test is no array of items like the left operand. -/
  | notContainer (op : Operator) (left right : Ty)
  | notOperand (actual : Ty)
  | negationOperand (actual : Ty)
  | condition (actual : Ty)
  | branches (whenTrue whenFalse : Ty)
  /-- An item is not compatible with the type of the items before it. -/
  | mixedArray (items item : Ty)
  /-- An argument, counted from 1, does not fit its parameter. -/
  | argument (index : Nat) (function : String) (expected actual : Ty)
  deriving DecidableEq, Repr, Inhabited

def TypeError.message : TypeError → String
  | .operand side op need actual =>
    let shown := if need = .string then "'" ++ op.symbol ++ "'" else op.symbol
    s!"{side.description} operand of {shown} must be {need.description}, got {actual.name}"
  | .incomparable left right => s!"Cannot compare {left.name} with {right.name}"
  | .unordered op => s!"Operator {op.symbol} is not defined on bool"
  | .notContainer op left right =>
    "Right operand of '" ++ op.symbol ++
      s!"' must be an array of {left.name}, got {right.name}"
  | .notOperand actual => s!"Operand of '!' must be bool, got {actual.name}"
  | .negationOperand actual => s!"Operand of negation must be numeric, got {actual.name}"
  | .condition actual => s!"Ternary condition must be bool, got {actual.name}"
  | .branches whenTrue whenFalse =>
    s!"Ternary branches have incompatible types {whenTrue.name} and {whenFalse.name}"
  | .mixedArray items item => s!"Array mixes {items.name} and {item.name} elements"
  | .argument index function expected actual =>
    s!"Argument {index} of {function} must be {expected.name}, got {actual.name}"

inductive CheckError where
  /-- A variable or a field is not declared. -/
  | undefinedPath (path : String)
  | undefinedFunction (name : String)
  | arity (function : String) (expected actual : Nat)
  | type (e : TypeError)
  deriving DecidableEq, Repr, Inhabited

def CheckError.message : CheckError → String
  | .undefinedPath path => s!"Undefined symbol: {path}"
  | .undefinedFunction name => "Undefined symbol: " ++ name ++ "()"
  | .arity function expected actual =>
    s!"Wrong number of arguments for {function}: expected {expected}, got {actual}"
  | .type e => "Type error: " ++ e.message

end LabelRules
