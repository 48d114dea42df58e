import LabelRules.Proofs.Outcome

set_option autoImplicit false

/-! # What operators do with values

Each family of operators is defined on some kinds of values, and `nil` counts as a value of each of
these kinds: on such values the operators do not fail, but for a pattern that is none. On all other
values they fail with a *kind clash* (`RunError.IsKindClash`), if they fail at all.
-/

namespace LabelRules

variable {σ : Type}

/-- An operator met values of kinds that it is not defined on. -/
def RunError.IsKindClash : RunError → Prop
  | .invalidOperation (.binary _ _ _) => True
  | .invalidOperation (.comparison _ _ _) => True
  | .invalidOperation (.unary _ _) => True
  | .mismatch m => m.expected = .number
  | _ => False

namespace Value

def IsBool (v : Value) : Prop := ∃ b, v = .bool b

/-- `nil` or a number. -/
def IsNumeric (v : Value) : Prop := v = .nil ∨ ∃ x, v = .number x

/-- `nil` or a string. -/
def IsTextual (v : Value) : Prop := v = .nil ∨ ∃ s, v = .string s

/-- `nil` or an array. -/
def IsContainer (v : Value) : Prop := v = .nil ∨ ∃ items, v = .array items

end Value

namespace Operator

/-! ## Comparisons -/

/-- A comparison that fails met kinds that it is not defined on. -/
theorem compare_clash (op : Operator) (v w : Value) :
    Outcome (fun _ => True) (fun o => RunError.IsKindClash (.invalidOperation o))
      (op.compare v w) := by
  unfold compare
  split
  · trivial
  · trivial
  · trivial
  · trivial
  · split
    · trivial
    · trivial
  · trivial

theorem compare_nil_left (op : Operator) (w : Value) : op.compare .nil w = .ok false := by
  cases w <;> rfl

theorem compare_nil_right (op : Operator) (v : Value) : op.compare v .nil = .ok false := by
  cases v <;> rfl

theorem compare_numeric {op : Operator} {v w : Value} (hv : v.IsNumeric) (hw : w.IsNumeric) :
    ∃ b, op.compare v w = .ok b := by
  rcases hv with rfl | ⟨x, rfl⟩
  · exact ⟨false, op.compare_nil_left w⟩
  · rcases hw with rfl | ⟨y, rfl⟩
    · exact ⟨false, rfl⟩
    · exact ⟨_, rfl⟩

theorem compare_string (op : Operator) (s t : String) :
    ∃ b, op.compare (.string s) (.string t) = .ok b :=
  ⟨_, rfl⟩

theorem compare_bool {op : Operator} (hop : op.isOrdering = false) (a b : Bool) :
    ∃ c, op.compare (.bool a) (.bool b) = .ok c :=
  ⟨_, by rw [compare, hop]; rfl⟩

/-! ## Other operators -/

/-- The operators whose results are booleans: tests on strings and memberships. -/
def isTest (op : Operator) : Bool := op.isStringTest || op.isMembership

theorem isTest_of_isArithmetic {op : Operator} (hop : op.isArithmetic = true) :
    op.isTest = false := by
  cases op <;> first | rfl | cases hop

theorem isTest_of_isStringTest {op : Operator} (hop : op.isStringTest = true) :
    op.isTest = true := by
  simp [isTest, hop]

theorem isTest_of_isMembership {op : Operator} (hop : op.isMembership = true) :
    op.isTest = true := by
  simp [isTest, hop]

/-- The text that was to be the pattern of `matches` is none. -/
def PatternFails (op : Operator) (right : Value) (e : RunError) : Prop :=
  op = .matches ∧ ∃ text, right = .string text ∧ e = .invalidPattern text
    ∧ Pattern.isValid text = false

theorem onNil_isBool {op : Operator} (hop : op.isTest = true) : op.onNil.IsBool :=
  ⟨false, if_pos hop⟩

theorem onNil_eq_nil {op : Operator} (hop : op.isTest = false) : op.onNil = .nil := by
  unfold isTest at hop
  rw [onNil, hop]
  rfl

@[simp] theorem apply_nil_left (op : Operator) (w : Value) :
    (op.apply .nil w : Run σ Value) = pure op.onNil := by
  cases w <;> rfl

@[simp] theorem apply_nil_right (op : Operator) (v : Value) :
    (op.apply v .nil : Run σ Value) = pure op.onNil := by
  cases v <;> rfl

theorem onValues_clash (op : Operator) (v w : Value) :
    Outcome (fun _ => True) RunError.IsKindClash (op.onValues v w) := by
  unfold onValues
  cases v with
  | number x => cases w <;> trivial
  | _ => rfl

/-- What no operator is defined on is a clash; it is a value for arithmetic at most. -/
theorem otherwise_ends (op : Operator) (v w : Value) :
    (onPresent.otherwise op v w : Run σ Value).Ends (fun r => op.isTest = true → r.IsBool)
      RunError.IsKindClash := by
  unfold onPresent.otherwise
  by_cases hop : op.isArithmetic = true
  · rw [if_pos hop]
    have htest : op.isTest = false := isTest_of_isArithmetic hop
    refine .ofExcept ((op.onValues_clash v w).mono (fun r _ h => ?_) fun _ h => h)
    rw [htest] at h
    cases h
  · rw [if_neg hop]
    exact .throw trivial

/-- On values of whatever kinds, a test gives a boolean, and an operator fails with a clash or with
its pattern. -/
theorem apply_ends (op : Operator) (v w : Value) :
    (op.apply v w : Run σ Value).Ends (fun r => op.isTest = true → r.IsBool)
      (fun e => e.IsKindClash ∨ op.PatternFails w e) := by
  have hotherwise : ∀ a b : Value, (onPresent.otherwise op a b : Run σ Value).Ends
      (fun r => op.isTest = true → r.IsBool) (fun e => e.IsKindClash ∨ op.PatternFails w e) :=
    fun a b => (op.otherwise_ends a b).mono (fun _ h => h) fun _ h => .inl h
  unfold apply
  split
  -- With `nil` on either side no operator fails.
  · exact .pure onNil_isBool
  · exact .pure onNil_isBool
  · unfold onPresent
    split
    · split
      · exact .pure fun h => by cases h
      · exact .pure fun _ => ⟨_, rfl⟩
      · exact .pure fun _ => ⟨_, rfl⟩
      · exact .pure fun _ => ⟨_, rfl⟩
      · exact .bind (.pattern fun h => .inr ⟨rfl, _, rfl, rfl, h⟩) fun _ _ =>
          .pure fun _ => ⟨_, rfl⟩
      · exact hotherwise _ _
    · split
      · exact .pure fun _ => ⟨_, rfl⟩
      · exact .pure fun _ => ⟨_, rfl⟩
      · exact hotherwise _ _
    · exact hotherwise _ _

/-- Arithmetic on numbers does not fail; with `nil` it is `nil`. -/
theorem apply_numeric {op : Operator} (hop : op.isArithmetic = true) {v w : Value}
    (hv : v.IsNumeric) (hw : w.IsNumeric) :
    (op.apply v w : Run σ Value).Ends Value.IsNumeric (fun _ => False) := by
  have hnil : op.onNil = .nil := onNil_eq_nil (isTest_of_isArithmetic hop)
  rcases hv with rfl | ⟨x, rfl⟩
  · rw [apply_nil_left]
    exact .pure (.inl hnil)
  · rcases hw with rfl | ⟨y, rfl⟩
    · rw [apply_nil_right]
      exact .pure (.inl hnil)
    · have hpresent : (op.apply (.number x) (.number y) : Run σ Value)
          = Run.ofExcept (op.onValues (.number x) (.number y)) := if_pos hop
      rw [hpresent]
      exact .ofExcept (.inr ⟨_, rfl⟩)

/-- A test on strings fails only with its pattern. -/
theorem apply_textual {op : Operator} (hop : op.isStringTest = true) {v w : Value}
    (hv : v.IsTextual) (hw : w.IsTextual) :
    (op.apply v w : Run σ Value).Ends (fun _ => True) (op.PatternFails w) := by
  rcases hv with rfl | ⟨s, rfl⟩
  · rw [apply_nil_left]
    exact .pure trivial
  · rcases hw with rfl | ⟨t, rfl⟩
    · rw [apply_nil_right]
      exact .pure trivial
    · cases op with
      | contains => exact .pure trivial
      | startsWith => exact .pure trivial
      | endsWith => exact .pure trivial
      | «matches» =>
          exact .bind (.pattern fun h => ⟨rfl, t, rfl, rfl, h⟩) fun _ _ => .pure trivial
      | _ => cases hop

/-- Membership in an array does not fail. -/
theorem apply_container {op : Operator} (hop : op.isMembership = true) (v : Value) {w : Value}
    (hw : w.IsContainer) :
    (op.apply v w : Run σ Value).Ends (fun _ => True) (fun _ => False) := by
  rcases hw with rfl | ⟨items, rfl⟩
  · rw [apply_nil_right]
    exact .pure trivial
  · cases op with
    | isIn => cases v <;> exact .pure trivial
    | notIn => cases v <;> exact .pure trivial
    | _ => cases hop

end Operator

/-! ## Unary operators -/

namespace UnaryOp

/-- A unary operator that fails met a kind that it is not defined on. -/
theorem apply_clash (op : UnaryOp) (v : Value) :
    Outcome (fun _ => True) (fun o => RunError.IsKindClash (.invalidOperation o)) (op.apply v) := by
  cases op <;> cases v <;> trivial

theorem apply_negate {v : Value} (hv : v.IsNumeric) :
    ∃ w, UnaryOp.negate.apply v = .ok w ∧ w.IsNumeric := by
  rcases hv with rfl | ⟨x, rfl⟩
  · exact ⟨.nil, rfl, .inl rfl⟩
  · exact ⟨.number (-x), rfl, .inr ⟨-x, rfl⟩⟩

end UnaryOp

end LabelRules
