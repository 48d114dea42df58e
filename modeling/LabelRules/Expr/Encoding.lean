import LabelRules.Expr.Basic
import LabelRules.Tree

set_option autoImplicit false

/-! # Expressions as data trees

A node is a map with one entry, whose key names the kind of node: `Literal`, `FieldAccess`,
`Binary`, `Unary`, `FunctionCall`, `Ternary` or `Array`. `Expr.toTree` writes an expression and
`Expr.ofTree?` reads one; the fields of a node may come in any order, and an operator is a case
without fields (`Tree.asName?`).
-/

namespace LabelRules

/-! ## Operators -/

/-- The name of an operator in a tree. -/
def Operator.tag : Operator → String
  | .eq => "Eq" | .ne => "Ne" | .gt => "Gt" | .ge => "Ge" | .lt => "Lt" | .le => "Le"
  | .add => "Add" | .sub => "Sub" | .mul => "Mul" | .div => "Div" | .mod => "Mod"
  | .and => "And" | .or => "Or"
  | .contains => "Contains" | .startsWith => "StartsWith" | .endsWith => "EndsWith"
  | .matches => "Matches"
  | .isIn => "In" | .notIn => "NotIn"

def Operator.ofTag? (tag : String) : Option Operator := Operator.all.find? (·.tag = tag)

theorem Operator.ofTag?_tag (op : Operator) : Operator.ofTag? op.tag = some op := by
  cases op <;> decide

/-- The name of a unary operator in a tree. -/
def UnaryOp.tag : UnaryOp → String
  | .not => "Not"
  | .negate => "Negate"

def UnaryOp.ofTag? : String → Option UnaryOp
  | "Not" => some .not
  | "Negate" => some .negate
  | _ => none

theorem UnaryOp.ofTag?_tag (op : UnaryOp) : UnaryOp.ofTag? op.tag = some op := by
  cases op <;> rfl

namespace Expr

/-! ## Writing -/

mutual

/-- An expression as a tree. -/
def toTree : Expr → Tree
  | .literal v => .map [("Literal", v.toTree)]
  | .field path => .map [("FieldAccess", .list (path.map .text))]
  | .binary op l r =>
    .map [("Binary", .map [("left", toTree l), ("op", .text op.tag), ("right", toTree r)])]
  | .unary op e => .map [("Unary", .map [("op", .text op.tag), ("operand", toTree e)])]
  | .call name args =>
    .map [("FunctionCall", .map [("name", .text name), ("args", .list (toTrees args))])]
  | .ternary c t f =>
    .map [("Ternary", .map
      [("condition", toTree c), ("true_expr", toTree t), ("false_expr", toTree f)])]
  | .array items => .map [("Array", .list (toTrees items))]

def toTrees : List Expr → List Tree
  | [] => []
  | e :: es => toTree e :: toTrees es

end

/-! ## Reading -/

mutual

/-- Reads an expression. -/
def ofTree? : Tree → Option Expr
  | .map [("Literal", v)] => (Value.ofTree? v).map .literal
  | .map [("FieldAccess", path)] => path.asTexts?.map .field
  | .map [("Binary", .map fields)] => do
    let op ← (Tree.lookup "op" fields).bind Tree.asName? |>.bind Operator.ofTag?
    let left ← ofPart? "left" fields
    let right ← ofPart? "right" fields
    return .binary op left right
  | .map [("Unary", .map fields)] => do
    let op ← (Tree.lookup "op" fields).bind Tree.asName? |>.bind UnaryOp.ofTag?
    let operand ← ofPart? "operand" fields
    return .unary op operand
  | .map [("FunctionCall", .map fields)] => do
    let name ← (Tree.lookup "name" fields).bind Tree.asText?
    let args ← listOfPart? "args" fields
    return .call name args
  | .map [("Ternary", .map fields)] => do
    let condition ← ofPart? "condition" fields
    let whenTrue ← ofPart? "true_expr" fields
    let whenFalse ← ofPart? "false_expr" fields
    return .ternary condition whenTrue whenFalse
  | .map [("Array", .list items)] => (ofTrees? items).map .array
  | _ => none

/-- Reads a list of expressions. -/
def ofTrees? : List Tree → Option (List Expr)
  | [] => some []
  | t :: ts =>
    match ofTree? t, ofTrees? ts with
    | some e, some es => some (e :: es)
    | _, _ => none

/-- Reads the expression of the first entry of a map under a key. -/
def ofPart? (key : String) : List (String × Tree) → Option Expr
  | [] => none
  | (k, t) :: rest => if k = key then ofTree? t else ofPart? key rest

/-- Reads the expressions of the first entry of a map under a key. -/
def listOfPart? (key : String) : List (String × Tree) → Option (List Expr)
  | [] => none
  | (k, t) :: rest =>
    if k = key then
      match t with
      | .list items => ofTrees? items
      | _ => none
    else listOfPart? key rest

end

mutual

/-- Equality of expressions, with numbers compared as IEEE numbers. -/
def same : Expr → Expr → Bool
  | .literal v, .literal w => v.same w
  | .field p, .field q => p == q
  | .binary op l r, .binary op' l' r' => op == op' && same l l' && same r r'
  | .unary op e, .unary op' e' => op == op' && same e e'
  | .call name args, .call name' args' => name == name' && sameAll args args'
  | .ternary c t f, .ternary c' t' f' => same c c' && same t t' && same f f'
  | .array items, .array items' => sameAll items items'
  | _, _ => false

def sameAll : List Expr → List Expr → Bool
  | [], [] => true
  | e :: es, e' :: es' => same e e' && sameAll es es'
  | _, _ => false

end

/-- An expression survives being written as a tree and read back. -/
def roundTrips (e : Expr) : Bool :=
  match ofTree? e.toTree with
  | some e' => same e' e
  | none => false

end Expr

end LabelRules
