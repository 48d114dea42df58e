import LabelRules.Proofs.Checking
import LabelRules.Proofs.Operators

set_option autoImplicit false

/-! # Values of a type

A value conforms to a type if it is what the type says, where a number may also be `nil` and `any`
is the type of `nil` alone (`Value.Conforms`). It respects a type if this holds as far as booleans,
strings and arrays go (`Value.Respects`). The operators that the checker admits preserve both
(`Operator.compare_typed`, `Operator.apply_typed`, `UnaryOp.apply_typed`), and they clash only on
values that respect their types without conforming to them.
-/

namespace LabelRules

variable {σ : Type}

namespace Value

/-- A value of a type. No value is an object, since a variable is no value. -/
def Conforms (v : Value) : Ty → Prop
  | .bool => v.IsBool
  | .string => ∃ s, v = .string s
  | .array _ => ∃ items, v = .array items
  | .number => v.IsNumeric
  | .any => v = .nil
  | .object => False

/-- A value of a type, as far as booleans, strings and arrays go. -/
def Respects (v : Value) : Ty → Prop
  | .bool => v.IsBool
  | .string => ∃ s, v = .string s
  | .array _ => ∃ items, v = .array items
  | _ => True

theorem Conforms.respects {v : Value} {t : Ty} (h : v.Conforms t) : v.Respects t := by
  cases t with
  | bool | string | array item => exact h
  | number | object | any => trivial

/-- A value that respects a type, and conforms to it under a condition. -/
def Meets (v : Value) (strict : Prop) (t : Ty) : Prop := v.Respects t ∧ (strict → v.Conforms t)

theorem Conforms.meets {v : Value} {t : Ty} (h : v.Conforms t) (strict : Prop) :
    v.Meets strict t :=
  ⟨h.respects, fun _ => h⟩

theorem Meets.weaken {v : Value} {strict strict' : Prop} {t : Ty} (h : v.Meets strict t)
    (hstrict : strict' → strict) : v.Meets strict' t :=
  ⟨h.1, fun hs => h.2 (hstrict hs)⟩

/-- A literal is of its own type. -/
theorem conforms_type (v : Value) : v.Conforms v.type := by
  cases v with
  | nil => rfl
  | bool b => exact ⟨b, rfl⟩
  | number x => exact .inr ⟨x, rfl⟩
  | string s => exact ⟨s, rfl⟩
  | array items => cases items <;> exact ⟨_, rfl⟩

section Kinds

variable {v : Value} {t : Ty}

theorem Conforms.isNumeric (h : v.Conforms t) (ht : t.isNumeric = true) : v.IsNumeric := by
  rcases Ty.isNumeric_iff.1 ht with rfl | rfl
  · exact h
  · exact .inl h

theorem Conforms.isTextual (h : v.Conforms t) (ht : t.isString = true) : v.IsTextual := by
  rcases Ty.isString_iff.1 ht with rfl | rfl
  · exact .inr h
  · exact .inl h

theorem Conforms.isContainer (h : v.Conforms t) (ht : t = .any ∨ ∃ item, t = .array item) :
    v.IsContainer := by
  rcases ht with rfl | ⟨item, rfl⟩
  · exact .inl h
  · exact .inr h

/-- Compatible types other than `any` have the same values. -/
theorem Conforms.of_compatible {u : Ty} (h : v.Conforms t) (hcompatible : u.compatible t = true)
    (hu : u ≠ .any) (ht : t ≠ .any) : v.Conforms u := by
  rcases Ty.eq_or_array_of_compatible hcompatible hu ht with rfl | ⟨⟨item, rfl⟩, other, rfl⟩
  · exact h
  · exact h

theorem Respects.of_compatible {u : Ty} (h : v.Respects t) (hcompatible : u.compatible t = true)
    (ht : t ≠ .any) : v.Respects u := by
  by_cases hu : u = .any
  · subst hu
    trivial
  · rcases Ty.eq_or_array_of_compatible hcompatible hu ht with rfl | ⟨⟨item, rfl⟩, other, rfl⟩
    · exact h
    · exact h

/-- An argument respects the type of the parameter that it fits. -/
theorem Respects.of_assignable {param : Ty} (h : v.Respects t) (ht : t.assignable param = true) :
    v.Respects param := by
  obtain ⟨hany, hcompatible⟩ := Ty.assignable_iff.1 ht
  rw [Ty.compatible_comm] at hcompatible
  exact h.of_compatible hcompatible hany

end Kinds

end Value

/-! ## Operators on typed values -/

variable {strict : Prop} {left right t : Ty} {v w : Value}

/-- A comparison that the checker admits. -/
theorem Operator.compare_typed {op : Operator} (h : Typing.comparison op left right = .ok t)
    (hv : v.Meets strict left) (hw : w.Meets strict right) :
    Outcome (fun _ => True) (fun o => RunError.IsKindClash (.invalidOperation o) ∧ ¬ strict)
      (op.compare v w) := by
  by_cases hstrict : strict
  · have hv := hv.2 hstrict
    have hw := hw.2 hstrict
    have hok : ∃ b, op.compare v w = .ok b := by
      obtain ⟨-, rfl | rfl | ⟨rfl, rfl⟩ | ⟨rfl, rfl⟩ | ⟨rfl, rfl, hop⟩⟩ :=
        Typing.comparison_eq_ok h
      · obtain rfl : v = .nil := hv
        exact ⟨false, op.compare_nil_left w⟩
      · obtain rfl : w = .nil := hw
        exact ⟨false, op.compare_nil_right v⟩
      · exact compare_numeric hv hw
      · obtain ⟨s, rfl⟩ := hv
        obtain ⟨s', rfl⟩ := hw
        exact op.compare_string s s'
      · obtain ⟨a, rfl⟩ := hv
        obtain ⟨b, rfl⟩ := hw
        exact compare_bool hop a b
    obtain ⟨b, hb⟩ := hok
    rw [hb]
    trivial
  -- The values may be of any kinds; all that is known is that a failure is a clash.
  · exact (op.compare_clash v w).mono (fun _ h => h) fun _ h => ⟨h, hstrict⟩

/-- An operator that the checker admits on values that respect their types. -/
theorem Operator.apply_respects {op : Operator} (hcomparison : op.isComparison = false)
    (hand : op ≠ .and) (hor : op ≠ .or) (h : Typing.binary op left right = .ok t)
    (hv : v.Respects left) (hw : w.Respects right) :
    (op.apply v w : Run σ Value).Ends (fun r => r.Respects t)
      (fun e => e.IsKindClash ∨ op.PatternFails w e) := by
  have hends := op.apply_ends (σ := σ) v w
  rcases op.isArithmetic_or_isTest hcomparison hand hor with hop | hop | hop
  · rcases Typing.binary_of_isArithmetic hop h with ⟨rfl, rfl, rfl, rfl⟩ | ⟨-, -, rfl⟩
    · obtain ⟨s, rfl⟩ := hv
      obtain ⟨s', rfl⟩ := hw
      exact .pure ⟨s ++ s', rfl⟩
    · exact hends.mono (fun _ _ => trivial) fun _ he => he
  · obtain ⟨-, -, rfl⟩ := Typing.binary_of_isStringTest hop h
    exact hends.mono (fun _ hr => hr (isTest_of_isStringTest hop)) fun _ he => he
  · obtain ⟨rfl, -⟩ := Typing.binary_of_isMembership hop h
    exact hends.mono (fun _ hr => hr (isTest_of_isMembership hop)) fun _ he => he

/-- An operator that the checker admits on values that conform to their types. -/
theorem Operator.apply_conforms {op : Operator} (hcomparison : op.isComparison = false)
    (hand : op ≠ .and) (hor : op ≠ .or) (h : Typing.binary op left right = .ok t)
    (hv : v.Conforms left) (hw : w.Conforms right) :
    (op.apply v w : Run σ Value).Ends (fun r => r.Conforms t) (op.PatternFails w) := by
  have hends := op.apply_ends (σ := σ) v w
  rcases op.isArithmetic_or_isTest hcomparison hand hor with hop | hop | hop
  · rcases Typing.binary_of_isArithmetic hop h with ⟨rfl, rfl, rfl, rfl⟩ | ⟨hl, hr, rfl⟩
    · obtain ⟨s, rfl⟩ := hv
      obtain ⟨s', rfl⟩ := hw
      exact .pure ⟨s ++ s', rfl⟩
    · exact (apply_numeric hop (hv.isNumeric hl) (hw.isNumeric hr)).mono (fun _ hr => hr)
        fun _ he => he.elim
  · obtain ⟨hl, hr, rfl⟩ := Typing.binary_of_isStringTest hop h
    exact (hends.and (apply_textual hop (hv.isTextual hl) (hw.isTextual hr))).mono
      (fun _ hr => hr.1 (isTest_of_isStringTest hop)) fun _ he => he.2
  · obtain ⟨rfl, hr⟩ := Typing.binary_of_isMembership hop h
    exact (hends.and (apply_container hop v (hw.isContainer hr))).mono
      (fun _ hr => hr.1 (isTest_of_isMembership hop)) fun _ he => he.2.elim

/-- An operator that the checker admits, other than a comparison, `&&` and `||`. -/
theorem Operator.apply_typed {op : Operator} (hcomparison : op.isComparison = false)
    (hand : op ≠ .and) (hor : op ≠ .or) (h : Typing.binary op left right = .ok t)
    (hv : v.Meets strict left) (hw : w.Meets strict right) :
    (op.apply v w : Run σ Value).Ends (fun r => r.Meets strict t)
      (fun e => (e.IsKindClash ∧ ¬ strict) ∨ op.PatternFails w e) := by
  by_cases hstrict : strict
  · exact (apply_conforms hcomparison hand hor h (hv.2 hstrict) (hw.2 hstrict)).mono
      (fun _ hr => hr.meets strict) fun _ he => .inr he
  · exact (apply_respects hcomparison hand hor h hv.1 hw.1).mono
      (fun _ hr => ⟨hr, fun hs => absurd hs hstrict⟩)
      fun _ he => he.imp_left fun hclash => ⟨hclash, hstrict⟩

/-- A unary operator that the checker admits. -/
theorem UnaryOp.apply_typed {op : UnaryOp} (h : Typing.unary op left = .ok t)
    (hv : v.Meets strict left) :
    Outcome (fun r => r.Meets strict t)
      (fun o => RunError.IsKindClash (.invalidOperation o) ∧ ¬ strict) (op.apply v) := by
  cases op with
  | not =>
      obtain ⟨rfl, rfl⟩ := Typing.unary_not_eq_ok h
      obtain ⟨b, rfl⟩ := hv.1
      have hr : (Value.bool !b).Conforms .bool := ⟨!b, rfl⟩
      exact hr.meets strict
  | negate =>
      obtain ⟨hl, rfl⟩ := Typing.unary_negate_eq_ok h
      by_cases hstrict : strict
      · obtain ⟨r, hr, hnumeric⟩ := apply_negate ((hv.2 hstrict).isNumeric hl)
        have hconforms : r.Conforms .number := hnumeric
        rw [hr]
        exact hconforms.meets strict
      · exact (apply_clash .negate v).mono
          (fun _ _ => ⟨trivial, fun hs => absurd hs hstrict⟩) fun _ he => ⟨he, hstrict⟩

end LabelRules
