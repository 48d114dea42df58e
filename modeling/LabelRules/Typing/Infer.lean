import LabelRules.Typing.Error
import LabelRules.Typing.Scope

set_option autoImplicit false

/-! # The type of an expression

`infer` finds the type of an expression in a scope, or the first reason why it has none: operands
are checked from left to right and before their operator, a condition after its branches, a
function before its arguments. The type of an array is that of its first item which is not `any`;
that of a ternary is the type of its first branch, and `any` when the second branch is `any`.
-/

namespace LabelRules

/-! ## Literals and operators -/

/-- The type of a value; that of an array goes by its first item. -/
def Value.type : Value → Ty
  | .nil => .any
  | .bool _ => .bool
  | .number _ => .number
  | .string _ => .string
  | .array [] => .array .any
  | .array (first :: _) => .array first.type

namespace Typing

/-- Both operands must satisfy a condition; the left one is looked at first. -/
def bothOperands (need : Need) (holds : Ty → Bool) (op : Operator) (left right : Ty) :
    Except CheckError Unit :=
  if !holds left then .error (.type (.operand .left op need left))
  else if !holds right then .error (.type (.operand .right op need right))
  else .ok ()

/-- The type of arithmetic. -/
def arithmetic (op : Operator) (left right : Ty) : Except CheckError Ty :=
  match bothOperands .numeric Ty.isNumeric op left right with
  | .error e => .error e
  | .ok () => .ok .number

/-- The type of a comparison. -/
def comparison (op : Operator) (left right : Ty) : Except CheckError Ty :=
  match bothOperands .comparable Ty.isComparable op left right with
  | .error e => .error e
  | .ok () =>
    if !left.compatible right then .error (.type (.incomparable left right))
    else if op.isOrdering && (left == .bool || right == .bool) then .error (.type (.unordered op))
    else .ok .bool

/-- The type of a membership test. -/
def membership (op : Operator) (left right : Ty) : Except CheckError Ty :=
  match right with
  | .array item =>
    if item.compatible left then .ok .bool else .error (.type (.notContainer op left right))
  | .any => .ok .bool
  | _ => .error (.type (.notContainer op left right))

/-- The type of a binary operator on operands of two types. -/
def binary (op : Operator) (left right : Ty) : Except CheckError Ty :=
  match op with
  | .add => if left = .string ∧ right = .string then .ok .string else arithmetic op left right
  | .sub | .mul | .div | .mod => arithmetic op left right
  | .eq | .ne | .gt | .ge | .lt | .le => comparison op left right
  | .and | .or =>
    match bothOperands .bool Ty.isBool op left right with
    | .error e => .error e
    | .ok () => .ok .bool
  | .isIn | .notIn => membership op left right
  | .contains | .startsWith | .endsWith | .matches =>
    match bothOperands .string Ty.isString op left right with
    | .error e => .error e
    | .ok () => .ok .bool

/-- The type of a unary operator on an operand of a type. -/
def unary (op : UnaryOp) (operand : Ty) : Except CheckError Ty :=
  match op with
  | .not => if operand.isBool then .ok .bool else .error (.type (.notOperand operand))
  | .negate =>
    if operand.isNumeric then .ok .number else .error (.type (.negationOperand operand))

/-- The type of a ternary whose parts have three types. -/
def ternary (condition whenTrue whenFalse : Ty) : Except CheckError Ty :=
  if !condition.isBool then .error (.type (.condition condition))
  else if !whenTrue.compatible whenFalse then .error (.type (.branches whenTrue whenFalse))
  else .ok (if whenFalse = .any then whenFalse else whenTrue)

/-- The type of a variable or of a field. -/
def path (s : Scope) (path : List String) : Except CheckError Ty :=
  let found :=
    match path with
    | [name] => s.variableType? name
    | _ => s.fieldType? (".".intercalate path)
  match found with
  | some t => .ok t
  | none => .error (.undefinedPath (".".intercalate path))

end Typing

/-! ## Expressions -/

mutual

/-- The type of an expression in a scope. -/
def infer (s : Scope) : Expr → Except CheckError Ty
  | .literal v => .ok v.type
  | .field path => Typing.path s path
  | .binary op l r =>
    match infer s l with
    | .error e => .error e
    | .ok left =>
      match infer s r with
      | .error e => .error e
      | .ok right => Typing.binary op left right
  | .unary op e =>
    match infer s e with
    | .error e => .error e
    | .ok operand => Typing.unary op operand
  | .call name args =>
    match s.signature? name with
    | none => .error (.undefinedFunction name)
    | some signature =>
      if signature.arity ≠ args.length then
        .error (.arity name signature.arity args.length)
      else
        match checkArgs s name 1 args signature.params with
        | .error e => .error e
        | .ok () => .ok signature.returns
  | .ternary c t f =>
    match infer s c with
    | .error e => .error e
    | .ok condition =>
      match infer s t with
      | .error e => .error e
      | .ok whenTrue =>
        match infer s f with
        | .error e => .error e
        | .ok whenFalse => Typing.ternary condition whenTrue whenFalse
  | .array items =>
    match inferItems s .any items with
    | .error e => .error e
    | .ok item => .ok (.array item)

/-- The type of the items of an array, given that of the items before them. -/
def inferItems (s : Scope) (before : Ty) : List Expr → Except CheckError Ty
  | [] => .ok before
  | e :: es =>
    match infer s e with
    | .error e => .error e
    | .ok item =>
      if !before.compatible item then .error (.type (.mixedArray before item))
      else inferItems s (if before = .any then item else before) es

/-- Checks arguments against parameters, from left to right, counting from an index. -/
def checkArgs (s : Scope) (function : String) (index : Nat) :
    List Expr → List Ty → Except CheckError Unit
  | e :: es, param :: params =>
    match infer s e with
    | .error e => .error e
    | .ok actual =>
      if !actual.assignable param then .error (.type (.argument index function param actual))
      else checkArgs s function (index + 1) es params
  | _, _ => .ok ()

end

end LabelRules
