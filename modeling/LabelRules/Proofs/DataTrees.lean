import LabelRules.Expr.Encoding
import LabelRules.Expr.Walk
import Mathlib

set_option autoImplicit false

/-! # Expressions that are written as trees and read back

A tree does not say what kind of value it stands for: it is read as the first form that fits it
(`Value.ofTree?_eq_findSome?`). It has no number that is not finite, so what is read back is the same
expression with `nil` in place of such numbers and of nothing else, and an expression survives exactly
if all its numbers are finite (`Expr.reread_eq_finitePart`).
-/

namespace LabelRules

namespace Value

/-! ## The forms of a value -/

def nilOf? : Tree → Option Value
  | .null => some .nil
  | _ => none

def boolOf? : Tree → Option Value
  | .bool b => some (.bool b)
  | _ => none

def numberOf? : Tree → Option Value
  | .int i => some (.number (Float.ofInt i))
  | .real x => some (.number x)
  | _ => none

def stringOf? : Tree → Option Value
  | .text s => some (.string s)
  | _ => none

def arrayOf? : Tree → Option Value
  | .list items => (ofTrees? items).map .array
  | _ => none

/-- The forms of a value, in the order in which a tree is tried. -/
def forms : List (Tree → Option Value) := [nilOf?, boolOf?, numberOf?, stringOf?, arrayOf?]

/-- A tree is read as the first form that fits it. -/
theorem ofTree?_eq_findSome? (t : Tree) : ofTree? t = forms.findSome? (· t) := by
  cases t with
  | list items =>
      rw [ofTree?]
      unfold forms
      simp only [List.findSome?_cons, nilOf?, boolOf?, numberOf?, stringOf?, arrayOf?]
      cases ofTrees? items with
      | none => rfl
      | some vs => rfl
  | null | bool b | int i | real x | text s | map entries => rfl

/-! ## Values -/

mutual

/-- The value with `nil` in place of each number that is not finite. -/
def finitePart : Value → Value
  | .nil => .nil
  | .bool b => .bool b
  | .number x => if x.isFinite then .number x else .nil
  | .string s => .string s
  | .array items => .array (finiteParts items)

def finiteParts : List Value → List Value
  | [] => []
  | v :: vs => finitePart v :: finiteParts vs

end

mutual

/-- What is read back has `nil` where the value has a number that is not finite. -/
theorem ofTree?_toTree (v : Value) : ofTree? v.toTree = some v.finitePart := by
  cases v with
  | nil | bool b | string s => rfl
  | number x =>
      -- A number that is not finite is written as `null`, and this is read as `nil`.
      unfold toTree finitePart
      split
      · rfl
      · rfl
  | array items =>
      rw [toTree, ofTree?, ofTrees?_toTrees items]
      rfl

theorem ofTrees?_toTrees (vs : List Value) : ofTrees? (toTrees vs) = some (finiteParts vs) := by
  cases vs with
  | nil => rfl
  | cons v vs =>
      rw [toTrees, ofTrees?, ofTree?_toTree v, ofTrees?_toTrees vs]
      rfl

end

/-- A finite number is equal to itself. -/
theorem beq_self_of_isFinite {x : Float} (h : x.isFinite = true) : (x == x) = true := by
  have hnan : Float.nan.isFinite = false := by decide +kernel
  rw [Float.beq_self_iff]
  rintro rfl
  rw [hnan] at h
  cases h

mutual

/-- The finite part of a value is the same as the value exactly if all its numbers are finite. -/
theorem same_finitePart (v : Value) : v.finitePart.same v = v.isFinite := by
  cases v with
  | nil => rfl
  | bool b => simp [finitePart, same, isFinite]
  | string s => simp [finitePart, same, isFinite]
  | number x =>
      cases h : x.isFinite with
      | true => simp [finitePart, isFinite, h, same_number, beq_self_of_isFinite h]
      | false => simp [finitePart, isFinite, h, same]
  | array items =>
      rw [finitePart, same, isFinite]
      exact sameAll_finiteParts items

theorem sameAll_finiteParts (vs : List Value) : sameAll (finiteParts vs) vs = allFinite vs := by
  cases vs with
  | nil => rfl
  | cons v vs =>
      rw [finiteParts, sameAll, allFinite, same_finitePart v, sameAll_finiteParts vs]

end

mutual

theorem finitePart_eq_self_iff (v : Value) : v.finitePart = v ↔ v.isFinite = true := by
  cases v with
  | nil | bool b | string s => simp [finitePart, isFinite]
  | number x => cases h : x.isFinite <;> simp [finitePart, isFinite, h]
  | array items => simp [finitePart, isFinite, finiteParts_eq_self_iff items]

theorem finiteParts_eq_self_iff (vs : List Value) : finiteParts vs = vs ↔ allFinite vs = true := by
  cases vs with
  | nil => simp [finiteParts, allFinite]
  | cons v vs =>
      simp [finiteParts, allFinite, finitePart_eq_self_iff v, finiteParts_eq_self_iff vs]

end

end Value

namespace Expr

/-! ## Expressions -/

mutual

/-- The same tree, with each literal changed. -/
def mapLiterals (f : Value → Value) : Expr → Expr
  | .literal v => .literal (f v)
  | .field path => .field path
  | .binary op l r => .binary op (mapLiterals f l) (mapLiterals f r)
  | .unary op e => .unary op (mapLiterals f e)
  | .call name args => .call name (mapAllLiterals f args)
  | .ternary c t e => .ternary (mapLiterals f c) (mapLiterals f t) (mapLiterals f e)
  | .array items => .array (mapAllLiterals f items)

def mapAllLiterals (f : Value → Value) : List Expr → List Expr
  | [] => []
  | e :: es => mapLiterals f e :: mapAllLiterals f es

end

mutual

/-- Every number in the expression is finite. -/
def isFinite : Expr → Bool
  | .literal v => v.isFinite
  | .field _ => true
  | .binary _ l r => isFinite l && isFinite r
  | .unary _ e => isFinite e
  | .call _ args => allFinite args
  | .ternary c t f => isFinite c && isFinite t && isFinite f
  | .array items => allFinite items

/-- Every number in every expression of the list is finite. -/
def allFinite : List Expr → Bool
  | [] => true
  | e :: es => isFinite e && allFinite es

end

mutual

/-- What is read back has `nil` where the expression has a number that is not finite. -/
theorem ofTree?_toTree (e : Expr) : ofTree? e.toTree = some (e.mapLiterals Value.finitePart) := by
  cases e with
  | literal v => simp [toTree, ofTree?, Value.ofTree?_toTree, mapLiterals]
  | field path =>
      have htexts : (path.map Tree.text).mapM Tree.asText? = some path := by
        induction path with
        | nil => rfl
        | cons s path ih => simp [Tree.asText?, ih]
      simp [toTree, ofTree?, Tree.asTexts?, htexts, mapLiterals]
  | binary op l r =>
      simp [toTree, ofTree?, ofPart?, Tree.lookup, Tree.asName?, Operator.ofTag?_tag,
        ofTree?_toTree l, ofTree?_toTree r, mapLiterals]
  | unary op e =>
      simp [toTree, ofTree?, ofPart?, Tree.lookup, Tree.asName?, UnaryOp.ofTag?_tag,
        ofTree?_toTree e, mapLiterals]
  | call name args =>
      simp [toTree, ofTree?, listOfPart?, Tree.lookup, Tree.asText?, ofTrees?_toTrees args,
        mapLiterals]
  | ternary c t f =>
      simp [toTree, ofTree?, ofPart?, ofTree?_toTree c, ofTree?_toTree t, ofTree?_toTree f,
        mapLiterals]
  | array items => simp [toTree, ofTree?, ofTrees?_toTrees items, mapLiterals]

theorem ofTrees?_toTrees (es : List Expr) :
    ofTrees? (toTrees es) = some (mapAllLiterals Value.finitePart es) := by
  cases es with
  | nil => rfl
  | cons e es =>
      rw [toTrees, ofTrees?, ofTree?_toTree e, ofTrees?_toTrees es]
      rfl

end

mutual

/-- Taking the finite part changes nothing exactly if all numbers are finite. -/
theorem mapLiterals_eq_self_iff (e : Expr) :
    e.mapLiterals Value.finitePart = e ↔ e.isFinite = true := by
  cases e with
  | literal v => simp [mapLiterals, isFinite, Value.finitePart_eq_self_iff]
  | field path => simp [mapLiterals, isFinite]
  | binary op l r =>
      simp [mapLiterals, isFinite, mapLiterals_eq_self_iff l, mapLiterals_eq_self_iff r]
  | unary op e => simp [mapLiterals, isFinite, mapLiterals_eq_self_iff e]
  | call name args => simp [mapLiterals, isFinite, mapAllLiterals_eq_self_iff args]
  | ternary c t f =>
      simp [mapLiterals, isFinite, mapLiterals_eq_self_iff c, mapLiterals_eq_self_iff t,
        mapLiterals_eq_self_iff f, and_assoc]
  | array items => simp [mapLiterals, isFinite, mapAllLiterals_eq_self_iff items]

theorem mapAllLiterals_eq_self_iff (es : List Expr) :
    mapAllLiterals Value.finitePart es = es ↔ allFinite es = true := by
  cases es with
  | nil => simp [mapAllLiterals, allFinite]
  | cons e es =>
      simp [mapAllLiterals, allFinite, mapLiterals_eq_self_iff e, mapAllLiterals_eq_self_iff es]

end

mutual

/-- The finite part of an expression is the same as the expression, with numbers compared as IEEE
numbers, exactly if all numbers are finite. -/
theorem same_mapLiterals (e : Expr) : (e.mapLiterals Value.finitePart).same e = e.isFinite := by
  cases e with
  | literal v =>
      rw [mapLiterals, same, isFinite]
      exact v.same_finitePart
  | field path => simp [mapLiterals, same, isFinite]
  | binary op l r => simp [mapLiterals, same, isFinite, same_mapLiterals l, same_mapLiterals r]
  | unary op e => simp [mapLiterals, same, isFinite, same_mapLiterals e]
  | call name args => simp [mapLiterals, same, isFinite, sameAll_mapAllLiterals args]
  | ternary c t f =>
      simp [mapLiterals, same, isFinite, same_mapLiterals c, same_mapLiterals t,
        same_mapLiterals f]
  | array items => simp [mapLiterals, same, isFinite, sameAll_mapAllLiterals items]

theorem sameAll_mapAllLiterals (es : List Expr) :
    sameAll (mapAllLiterals Value.finitePart es) es = allFinite es := by
  cases es with
  | nil => rfl
  | cons e es =>
      rw [mapAllLiterals, sameAll, allFinite, same_mapLiterals e, sameAll_mapAllLiterals es]

end

/-- **An expression is read back as it was written, up to numbers that a tree does not have.** What
is read back is the same tree with `nil` in place of exactly those numbers that are not finite. So it
is the expression itself, and equal to it also where numbers are compared as IEEE numbers, exactly if
all its numbers are finite. -/
theorem reread_eq_finitePart (e : Expr) :
    ofTree? e.toTree = some (e.mapLiterals Value.finitePart)
      ∧ (e.mapLiterals Value.finitePart = e ↔ e.isFinite = true)
      ∧ e.roundTrips = e.isFinite := by
  refine ⟨e.ofTree?_toTree, e.mapLiterals_eq_self_iff, ?_⟩
  unfold roundTrips
  rw [e.ofTree?_toTree]
  exact e.same_mapLiterals

/-- An infinite number inside an array literal is lost, and the array of expressions around it stays
what it is. -/
example : ofTree? (Expr.array [.literal (.array [.number (1 / 0), .nil]), .array []]).toTree
    = some (.array [.literal (.array [.nil, .nil]), .array []]) := by
  rw [ofTree?_toTree]
  rfl

end Expr

end LabelRules
