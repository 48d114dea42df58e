import LabelRules.Value

set_option autoImplicit false

/-! # Expressions

A rule is one boolean expression. Calls of capabilities, such as `classify("core")`, are ordinary
calls inside it. Main definitions: the binary operators with their written form
(`Operator.symbol`), the expression tree (`Expr`), and its depth, the number of nodes on a longest
path from the root to a leaf (`Expr.depth`).
-/

namespace LabelRules

/-! ## Operators -/

/-- The binary operators. -/
inductive Operator where
  | eq | ne | gt | ge | lt | le
  | add | sub | mul | div | mod
  | and | or
  | contains | startsWith | endsWith | matches
  | isIn | notIn
  deriving DecidableEq, Repr, Inhabited

namespace Operator

/-- How an operator is written in a rule. -/
def symbol : Operator → String
  | .eq => "==" | .ne => "!=" | .gt => ">" | .ge => ">=" | .lt => "<" | .le => "<="
  | .add => "+" | .sub => "-" | .mul => "*" | .div => "/" | .mod => "%"
  | .and => "&&" | .or => "||"
  | .contains => "contains" | .startsWith => "startsWith" | .endsWith => "endsWith"
  | .matches => "matches"
  | .isIn => "in" | .notIn => "not in"

/-- The six comparisons. -/
def isComparison : Operator → Bool
  | .eq | .ne | .gt | .ge | .lt | .le => true
  | _ => false

/-- The five operators on numbers. -/
def isArithmetic : Operator → Bool
  | .add | .sub | .mul | .div | .mod => true
  | _ => false

/-- The four tests on two strings. -/
def isStringTest : Operator → Bool
  | .contains | .startsWith | .endsWith | .matches => true
  | _ => false

/-- Membership in an array and its negation. -/
def isMembership : Operator → Bool
  | .isIn | .notIn => true
  | _ => false

/-- The comparisons that order their operands. -/
def isOrdering : Operator → Bool
  | .gt | .ge | .lt | .le => true
  | _ => false

/-- All operators, in the order of their declaration. -/
def all : List Operator :=
  [.eq, .ne, .gt, .ge, .lt, .le, .add, .sub, .mul, .div, .mod, .and, .or,
    .contains, .startsWith, .endsWith, .matches, .isIn, .notIn]

end Operator

/-- The unary operators: logical negation and change of sign. -/
inductive UnaryOp where
  | not
  | negate
  deriving DecidableEq, Repr, Inhabited

def UnaryOp.symbol : UnaryOp → String
  | .not => "!"
  | .negate => "-"

/-! ## The tree -/

/-- An expression. A field is a path such as `Exporter.Name`; the items of an array are any
expressions. -/
inductive Expr where
  | literal (value : Value)
  | field (path : List String)
  | binary (op : Operator) (left right : Expr)
  | unary (op : UnaryOp) (operand : Expr)
  | call (name : String) (args : List Expr)
  | ternary (condition whenTrue whenFalse : Expr)
  | array (items : List Expr)
  deriving Inhabited

namespace Expr

/-- The text of a string literal. -/
def stringLiteral? : Expr → Option String
  | .literal (.string s) => some s
  | _ => none

mutual

/-- The number of nodes on a longest path from the root to a leaf. -/
def depth : Expr → Nat
  | .literal _ => 1
  | .field _ => 1
  | .binary _ l r => max (depth l) (depth r) + 1
  | .unary _ e => depth e + 1
  | .call _ args => maxDepth args + 1
  | .ternary c t f => max (max (depth c) (depth t)) (depth f) + 1
  | .array items => maxDepth items + 1

/-- The greatest depth of the expressions of a list, 0 when there are none. -/
def maxDepth : List Expr → Nat
  | [] => 0
  | e :: es => max (depth e) (maxDepth es)

end

theorem depth_pos (e : Expr) : 0 < e.depth := by
  cases e <;> simp [depth]

theorem depth_le_maxDepth {e : Expr} {es : List Expr} (h : e ∈ es) : e.depth ≤ maxDepth es := by
  induction es with
  | nil => simp at h
  | cons a as ih =>
      rcases List.mem_cons.1 h with rfl | h
      · exact Nat.le_max_left _ _
      · exact Nat.le_trans (ih h) (Nat.le_max_right _ _)

end Expr

end LabelRules
