set_option autoImplicit false

/-! # Types

The types of expressions. `any` is the type of `nil` and of the items of an empty array; `object`
is that of a variable, which can be used only through its fields. Two types are `compatible` if a
value may be of either; a value of type `any` fits every place but an argument (`assignable`).
Compatibility is symmetric (`compatible_comm`), but not reflexive on `object`.
-/

namespace LabelRules

inductive Ty where
  | number
  | string
  | bool
  | array (item : Ty)
  | object
  | any
  deriving DecidableEq, Repr, Inhabited

namespace Ty

/-- The name of a type, as it stands in messages. -/
def name : Ty → String
  | .number => "number"
  | .string => "string"
  | .bool => "bool"
  | .array item => "array of " ++ item.name
  | .object => "object"
  | .any => "any"

/-- May one value be of both types? -/
def compatible : Ty → Ty → Bool
  | .any, _ => true
  | _, .any => true
  | .number, .number => true
  | .string, .string => true
  | .bool, .bool => true
  | .array a, .array b => compatible a b
  | _, _ => false

/-- A type for an operand of arithmetic. -/
def isNumeric (t : Ty) : Bool := t == .number || t == .any

/-- A type for a condition; `nil` is none. -/
def isBool (t : Ty) : Bool := t == .bool

/-- A type for an operand of a test on strings; with `nil` the test is false. -/
def isString (t : Ty) : Bool := t == .string || t == .any

/-- A type for an operand of a comparison. -/
def isComparable (t : Ty) : Bool := t == .number || t == .string || t == .bool || t == .any

/-- May a value of the type stand where a parameter is declared? -/
def assignable (t param : Ty) : Bool := t != .any && t.compatible param

theorem compatible_comm (a b : Ty) : a.compatible b = b.compatible a := by
  induction a generalizing b with
  | array item ih =>
      cases b with
      | array other => simp [compatible, ih other]
      | _ => simp [compatible]
  | _ => cases b <;> simp [compatible]

@[simp] theorem compatible_any (t : Ty) : t.compatible .any = true := by
  cases t <;> rfl

end Ty

end LabelRules
