import LabelRules.Evaluation.Run
import LabelRules.Number.Binary

set_option autoImplicit false

/-! # Operations on values

What the operators do with values. A comparison with `nil` is false, and so is a test or a
membership with `nil`; arithmetic with `nil` is `nil`. Main definitions: `Operator.compare` for the
comparisons, `Operator.apply` for the other operators, `UnaryOp.apply`.
-/

namespace LabelRules

/-! ## Comparisons -/

/-- What a comparison says of two operands: are they equal, is the left one less, is it greater? -/
def Operator.holds (op : Operator) (equal less greater : Bool) : Bool :=
  match op with
  | .eq => equal
  | .ne => !equal
  | .gt => greater
  | .ge => greater || equal
  | .lt => less
  | .le => less || equal
  | _ => false

/-- Compares two values. Numbers compare as IEEE numbers, strings by their characters; booleans can
only be equal or not. -/
def Operator.compare (op : Operator) : Value → Value → Except InvalidOperation Bool
  | .nil, _ => .ok false
  | _, .nil => .ok false
  | .number x, .number y => .ok (op.holds (x == y) (x < y) (y < x))
  | .string s, .string t => .ok (op.holds (s == t) (s < t) (t < s))
  | .bool a, .bool b =>
    if op.isOrdering then .error (.comparison op .bool .bool)
    else .ok (op.holds (a == b) false false)
  | left, right => .error (.comparison op left.kind right.kind)

/-! ## Arithmetic -/

/-- Arithmetic on IEEE numbers; the remainder has the sign of the dividend. -/
def Operator.onNumbers (op : Operator) (x y : Float) : Float :=
  match op with
  | .add => x + y
  | .sub => x - y
  | .mul => x * y
  | .div => x / y
  | _ => remainder x y

/-- Arithmetic on values; the left operand is the first that has to be a number. -/
def Operator.onValues (op : Operator) (left right : Value) : Except RunError Value :=
  match left.asNumber with
  | .error e => .error (.mismatch e)
  | .ok x =>
    match right.asNumber with
    | .error e => .error (.mismatch e)
    | .ok y => .ok (.number (op.onNumbers x y))

/-! ## Tests on strings -/

/-- Is a list a sublist of neighbours in another? -/
def isInside (part : List Char) : List Char → Bool
  | [] => part.isEmpty
  | c :: cs => part.isPrefixOf (c :: cs) || isInside part cs

/-- What `contains` means on strings: the one stands in the other in one piece. -/
theorem isInside_iff {part whole : List Char} : isInside part whole = true ↔ part <:+: whole := by
  induction whole with
  | nil => simp [isInside]
  | cons c cs ih => simp [isInside, ih, List.infix_cons_iff]

/-! ## Other operators -/

/-- The result when an operand is `nil`. -/
def Operator.onNil (op : Operator) : Value :=
  if op.isStringTest || op.isMembership then .bool false else .nil

/-- An operator, other than a comparison, `&&` or `||`, on two values that are not `nil`. -/
def Operator.onPresent {σ : Type} (op : Operator) : Value → Value → Run σ Value
  | .string s, .string t =>
    match op with
    | .add => return .string (s ++ t)
    | .contains => return .bool (isInside t.toList s.toList)
    | .startsWith => return .bool (t.toList.isPrefixOf s.toList)
    | .endsWith => return .bool (t.toList.isSuffixOf s.toList)
    | .matches => return .bool ((← Run.pattern t).isMatch s)
    | _ => otherwise (.string s) (.string t)
  | v, .array items =>
    match op with
    | .isIn => return .bool (v.isIn items)
    | .notIn => return .bool (!v.isIn items)
    | _ => otherwise v (.array items)
  | left, right => otherwise left right
where
  /-- Arithmetic, or no operation at all. -/
  otherwise (left right : Value) : Run σ Value :=
    if op.isArithmetic then Run.ofExcept (op.onValues left right)
    else throw (.invalidOperation (.binary op left.kind right.kind))

/-- An operator, other than a comparison, `&&` or `||`, on two values. -/
def Operator.apply {σ : Type} (op : Operator) : Value → Value → Run σ Value
  | .nil, _ => return op.onNil
  | _, .nil => return op.onNil
  | left, right => op.onPresent left right

/-- A unary operator on a value; the negation of `nil` is `nil`. -/
def UnaryOp.apply (op : UnaryOp) (operand : Value) : Except InvalidOperation Value :=
  match op, operand with
  | .not, .bool b => .ok (.bool !b)
  | .negate, .number x => .ok (.number (-x))
  | .negate, .nil => .ok .nil
  | op, v => .error (.unary op v.kind)

end LabelRules
