set_option autoImplicit false

/-! # Values

A rule computes with five kinds of value: `nil`, booleans, IEEE double-precision numbers, strings
and arrays. `Value.same` is the equality that rules see: numbers compare as IEEE numbers (so a NaN
differs from itself and the two zeros agree), arrays item by item, and values of different kinds
are never the same. The accessors `asBool`, `asString`, `asNumber` fail with the kind they found.
-/

namespace LabelRules

/-- A value that a rule expression can produce. -/
inductive Value where
  | nil
  | bool (b : Bool)
  | number (x : Float)
  | string (s : String)
  | array (items : List Value)
  deriving Inhabited

/-- The five kinds of value. -/
inductive ValueKind where
  | nil
  | bool
  | number
  | string
  | array
  deriving DecidableEq, Repr, Inhabited

/-- The name of a kind, as it stands in messages. -/
def ValueKind.name : ValueKind → String
  | .nil => "nil"
  | .bool => "bool"
  | .number => "number"
  | .string => "string"
  | .array => "array"

/-- A value of one kind stood where another kind was needed. -/
structure Mismatch where
  expected : ValueKind
  actual : ValueKind
  deriving DecidableEq, Repr, Inhabited

def Mismatch.message (m : Mismatch) : String :=
  "Type error: expected " ++ m.expected.name ++ ", got " ++ m.actual.name

namespace Value

def kind : Value → ValueKind
  | .nil => .nil
  | .bool _ => .bool
  | .number _ => .number
  | .string _ => .string
  | .array _ => .array

/-! ## Accessors -/

def asBool : Value → Except Mismatch Bool
  | .bool b => .ok b
  | v => .error ⟨.bool, v.kind⟩

def asString : Value → Except Mismatch String
  | .string s => .ok s
  | v => .error ⟨.string, v.kind⟩

def asNumber : Value → Except Mismatch Float
  | .number x => .ok x
  | v => .error ⟨.number, v.kind⟩

theorem asBool_eq_ok_iff {v : Value} {b : Bool} : v.asBool = .ok b ↔ v = .bool b := by
  cases v <;> simp [asBool]

theorem asString_eq_ok_iff {v : Value} {s : String} : v.asString = .ok s ↔ v = .string s := by
  cases v <;> simp [asString]

/-! ## Equality as rules see it -/

mutual

/-- Equality of values: IEEE equality on numbers, item by item on arrays. -/
def same : Value → Value → Bool
  | .nil, .nil => true
  | .bool a, .bool b => a == b
  | .number x, .number y => x == y
  | .string s, .string t => s == t
  | .array xs, .array ys => sameAll xs ys
  | _, _ => false

/-- Equality of two lists of values: as long as each other and the same item by item. -/
def sameAll : List Value → List Value → Bool
  | [], [] => true
  | x :: xs, y :: ys => same x y && sameAll xs ys
  | _, _ => false

end

/-- Is a value the same as some item of a list? -/
def isIn (v : Value) (items : List Value) : Bool := items.any (same · v)

theorem same_number (x y : Float) : same (.number x) (.number y) = (x == y) := by
  simp [same]

theorem same_string (s t : String) : same (.string s) (.string t) = (s == t) := by
  simp [same]

/-! ## Finite values -/

mutual

/-- Every number in the value is finite. -/
def isFinite : Value → Bool
  | .number x => x.isFinite
  | .array items => allFinite items
  | _ => true

/-- Every number in every value of the list is finite. -/
def allFinite : List Value → Bool
  | [] => true
  | v :: vs => isFinite v && allFinite vs

end

end Value

end LabelRules
