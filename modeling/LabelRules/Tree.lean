import LabelRules.Value

set_option autoImplicit false

/-! # Data trees

A `Tree` is the shape in which values and expressions are exchanged: null, booleans, numbers (whole
numbers apart from the others), text, lists and maps. `Value.toTree` and `Value.ofTree?` go between
values and trees. A tree has no infinite number: such a number is written as null, so it is read
back as `nil`; every other value is read back as it was.
-/

namespace LabelRules

/-- A tree of plain data. The entries of a map are in the order in which they were written. -/
inductive Tree where
  | null
  | bool (b : Bool)
  | int (i : Int)
  | real (x : Float)
  | text (s : String)
  | list (items : List Tree)
  | map (entries : List (String × Tree))
  deriving Inhabited

namespace Tree

/-- The first entry of a map under a key. -/
def lookup (key : String) : List (String × Tree) → Option Tree
  | [] => none
  | (k, t) :: rest => if k = key then some t else lookup key rest

/-- The text at a leaf. -/
def asText? : Tree → Option String
  | .text s => some s
  | _ => none

/-- The name of a case without fields. It is written as a text, and may also stand as the only key
of a map, with null under it. -/
def asName? : Tree → Option String
  | .text s => some s
  | .map [(name, .null)] => some name
  | _ => none

/-- A list of texts. -/
def asTexts? : Tree → Option (List String)
  | .list items => items.mapM asText?
  | _ => none

end Tree

namespace Value

mutual

/-- A value as a tree; a number that is not finite becomes null. -/
def toTree : Value → Tree
  | .nil => .null
  | .bool b => .bool b
  | .number x => if x.isFinite then .real x else .null
  | .string s => .text s
  | .array items => .list (toTrees items)

/-- A list of values as trees. -/
def toTrees : List Value → List Tree
  | [] => []
  | v :: vs => toTree v :: toTrees vs

end

mutual

/-- Reads a value; a tree with a map in it is none. -/
def ofTree? : Tree → Option Value
  | .null => some .nil
  | .bool b => some (.bool b)
  | .int i => some (.number (Float.ofInt i))
  | .real x => some (.number x)
  | .text s => some (.string s)
  | .list items => (ofTrees? items).map .array
  | .map _ => none

/-- Reads a list of values. -/
def ofTrees? : List Tree → Option (List Value)
  | [] => some []
  | t :: ts =>
    match ofTree? t, ofTrees? ts with
    | some v, some vs => some (v :: vs)
    | _, _ => none

end

end Value

end LabelRules
