import LabelRules.Expr.Walk
import LabelRules.Typing.Infer
import Mathlib.Data.List.Forall2

set_option autoImplicit false

/-! # What the checker has established

The types that the checker admits at each operator, and the types of the parts of each expression
that it accepts (`infer_binary_ok` and its companions). So it accepts all nodes of what it accepts
(`infer_node_ok`).
-/

namespace LabelRules

/-! ## Families of operators -/

/-- An operator that is applied to the values of both operands, and is no comparison. -/
theorem Operator.isArithmetic_or_isTest {op : Operator} (hcomparison : op.isComparison = false)
    (hand : op ≠ .and) (hor : op ≠ .or) :
    op.isArithmetic = true ∨ op.isStringTest = true ∨ op.isMembership = true := by
  cases op with
  | and => exact absurd rfl hand
  | or => exact absurd rfl hor
  | add | sub | mul | div | mod => exact .inl rfl
  | contains | startsWith | endsWith | «matches» => exact .inr (.inl rfl)
  | isIn | notIn => exact .inr (.inr rfl)
  | eq | ne | gt | ge | lt | le => cases hcomparison

namespace Ty

theorem isNumeric_iff {t : Ty} : t.isNumeric = true ↔ t = .number ∨ t = .any := by
  simp [isNumeric]

theorem isString_iff {t : Ty} : t.isString = true ↔ t = .string ∨ t = .any := by
  simp [isString]

theorem isBool_iff {t : Ty} : t.isBool = true ↔ t = .bool := by
  simp [isBool]

/-- Two types other than `any` are compatible if they are equal or both types of arrays. -/
theorem eq_or_array_of_compatible {a b : Ty} (h : a.compatible b = true) (ha : a ≠ .any)
    (hb : b ≠ .any) : a = b ∨ ((∃ item, a = .array item) ∧ ∃ item, b = .array item) := by
  cases a with
  | any => exact absurd rfl ha
  | array item =>
      cases b with
      | any => exact absurd rfl hb
      | array other => exact .inr ⟨⟨item, rfl⟩, other, rfl⟩
      | number | string | bool | object => cases h
  | number | string | bool | object =>
      cases b with
      | any => exact absurd rfl hb
      | number | string | bool | object | array => first | exact .inl rfl | cases h

theorem assignable_iff {t param : Ty} :
    t.assignable param = true ↔ t ≠ .any ∧ t.compatible param = true := by
  simp [assignable]

end Ty

namespace Typing

/-! ## Operators -/

theorem bothOperands_eq_ok {need : Need} {holds : Ty → Bool} {op : Operator} {left right : Ty}
    {u : Unit} (h : bothOperands need holds op left right = .ok u) :
    holds left = true ∧ holds right = true := by
  unfold bothOperands at h
  cases hl : holds left
  · simp [hl] at h
  · cases hr : holds right
    · simp [hl, hr] at h
    · exact ⟨rfl, rfl⟩

variable {op : Operator} {left right t : Ty}

theorem arithmetic_eq_ok (h : arithmetic op left right = .ok t) :
    left.isNumeric = true ∧ right.isNumeric = true ∧ t = .number := by
  unfold arithmetic at h
  split at h
  · cases h
  · next hboth =>
      obtain ⟨hl, hr⟩ := bothOperands_eq_ok hboth
      cases h
      exact ⟨hl, hr, rfl⟩

theorem comparison_eq_ok_iff :
    comparison op left right = .ok t ↔
      left.isComparable = true ∧ right.isComparable = true ∧ left.compatible right = true
        ∧ ¬ (op.isOrdering = true ∧ (left = .bool ∨ right = .bool)) ∧ t = .bool := by
  unfold comparison bothOperands
  cases left.isComparable with
  | false => simp
  | true =>
      cases right.isComparable with
      | false => simp
      | true =>
          cases left.compatible right with
          | false => simp
          | true =>
              have hcondition : (op.isOrdering && (left == .bool || right == .bool)) = true
                  ↔ op.isOrdering = true ∧ (left = .bool ∨ right = .bool) := by
                simp
              simp only [Bool.not_true, Bool.false_eq_true, if_false, true_and, hcondition]
              split
              · next hordered => exact ⟨nofun, fun h => absurd hordered h.1⟩
              · next hordered =>
                exact ⟨fun h => ⟨hordered, (Except.ok.inj h).symm⟩, fun h => by rw [h.2]⟩

/-- What is compared is `nil`, or of one type; booleans are not ordered. -/
theorem comparison_eq_ok (h : comparison op left right = .ok t) :
    t = .bool ∧ (left = .any ∨ right = .any ∨ (left = .number ∧ right = .number)
      ∨ (left = .string ∧ right = .string)
      ∨ (left = .bool ∧ right = .bool ∧ op.isOrdering = false)) := by
  obtain ⟨hl, hr, hcompatible, hordered, rfl⟩ := comparison_eq_ok_iff.1 h
  refine ⟨rfl, ?_⟩
  cases left <;> cases right <;> simp_all [Ty.isComparable, Ty.compatible]

theorem membership_eq_ok (h : membership op left right = .ok t) :
    t = .bool ∧ (right = .any ∨ ∃ item, right = .array item) := by
  unfold membership at h
  split at h
  · split at h
    · cases h
      exact ⟨rfl, .inr ⟨_, rfl⟩⟩
    · cases h
  · cases h
    exact ⟨rfl, .inl rfl⟩
  · cases h

theorem binary_of_isArithmetic (hop : op.isArithmetic = true)
    (h : binary op left right = .ok t) :
    (op = .add ∧ left = .string ∧ right = .string ∧ t = .string)
      ∨ (left.isNumeric = true ∧ right.isNumeric = true ∧ t = .number) := by
  cases op with
  | add =>
      simp only [binary] at h
      split at h
      · next hstring =>
          cases h
          exact .inl ⟨rfl, hstring.1, hstring.2, rfl⟩
      · exact .inr (arithmetic_eq_ok h)
  | sub | mul | div | mod => exact .inr (arithmetic_eq_ok h)
  | _ => cases hop

theorem binary_eq_comparison (hop : op.isComparison = true) (left right : Ty) :
    binary op left right = comparison op left right := by
  cases op with
  | eq | ne | gt | ge | lt | le => rfl
  | _ => cases hop

theorem binary_of_isStringTest (hop : op.isStringTest = true)
    (h : binary op left right = .ok t) :
    left.isString = true ∧ right.isString = true ∧ t = .bool := by
  have hboth : ∃ u, bothOperands .string Ty.isString op left right = .ok u ∧ t = .bool := by
    cases op with
    | contains | startsWith | endsWith | «matches» =>
        simp only [binary] at h
        split at h
        · cases h
        · next hboth =>
            cases h
            exact ⟨(), hboth, rfl⟩
    | _ => cases hop
  obtain ⟨u, hboth, rfl⟩ := hboth
  obtain ⟨hl, hr⟩ := bothOperands_eq_ok hboth
  exact ⟨hl, hr, rfl⟩

theorem binary_of_isMembership (hop : op.isMembership = true)
    (h : binary op left right = .ok t) :
    t = .bool ∧ (right = .any ∨ ∃ item, right = .array item) := by
  cases op with
  | isIn | notIn => exact membership_eq_ok h
  | _ => cases hop

theorem binary_of_logical (hop : op = .and ∨ op = .or) (h : binary op left right = .ok t) :
    left = .bool ∧ right = .bool ∧ t = .bool := by
  rcases hop with rfl | rfl
  all_goals
    simp only [binary] at h
    split at h
    · cases h
    · next hboth =>
        obtain ⟨hl, hr⟩ := bothOperands_eq_ok hboth
        cases h
        exact ⟨Ty.isBool_iff.1 hl, Ty.isBool_iff.1 hr, rfl⟩

theorem unary_not_eq_ok (h : unary .not left = .ok t) : left = .bool ∧ t = .bool := by
  simp only [unary] at h
  split at h
  · next hbool =>
      cases h
      exact ⟨Ty.isBool_iff.1 hbool, rfl⟩
  · cases h

theorem unary_negate_eq_ok (h : unary .negate left = .ok t) :
    left.isNumeric = true ∧ t = .number := by
  simp only [unary] at h
  split at h
  · next hnumeric =>
      cases h
      exact ⟨hnumeric, rfl⟩
  · cases h

theorem ternary_eq_ok {condition whenTrue whenFalse : Ty}
    (h : ternary condition whenTrue whenFalse = .ok t) :
    condition = .bool ∧ whenTrue.compatible whenFalse = true
      ∧ t = if whenFalse = .any then whenFalse else whenTrue := by
  unfold ternary at h
  cases hc : condition.isBool
  · simp [hc] at h
  · cases hb : whenTrue.compatible whenFalse
    · simp [hc, hb] at h
    · simp only [hc, hb, Bool.not_true, Bool.false_eq_true, if_false, Except.ok.injEq] at h
      exact ⟨Ty.isBool_iff.1 hc, rfl, h.symm⟩

end Typing

/-! ## Expressions -/

section Infer

variable {s : Scope} {t : Ty}

theorem infer_binary_ok {op : Operator} {l r : Expr} (h : infer s (.binary op l r) = .ok t) :
    ∃ left right, infer s l = .ok left ∧ infer s r = .ok right
      ∧ Typing.binary op left right = .ok t := by
  unfold infer at h
  split at h
  · cases h
  · next left hl =>
      split at h
      · cases h
      · next right hr => exact ⟨left, right, hl, hr, h⟩

theorem infer_unary_ok {op : UnaryOp} {e : Expr} (h : infer s (.unary op e) = .ok t) :
    ∃ operand, infer s e = .ok operand ∧ Typing.unary op operand = .ok t := by
  unfold infer at h
  split at h
  · cases h
  · next operand he => exact ⟨operand, he, h⟩

theorem infer_ternary_ok {c a b : Expr} (h : infer s (.ternary c a b) = .ok t) :
    ∃ condition whenTrue whenFalse, infer s c = .ok condition ∧ infer s a = .ok whenTrue
      ∧ infer s b = .ok whenFalse ∧ Typing.ternary condition whenTrue whenFalse = .ok t := by
  unfold infer at h
  split at h
  · cases h
  · next condition hc =>
      split at h
      · cases h
      · next whenTrue ha =>
          split at h
          · cases h
          · next whenFalse hb => exact ⟨condition, whenTrue, whenFalse, hc, ha, hb, h⟩

/-- Every item of an array is of some type. -/
theorem inferItems_ok {items : List Expr} {before : Ty}
    (h : inferItems s before items = .ok t) : ∀ e ∈ items, ∃ item, infer s e = .ok item := by
  induction items generalizing before with
  | nil => simp
  | cons e es ih =>
      unfold inferItems at h
      split at h
      · cases h
      · next item he =>
          split at h
          · cases h
          · intro e' he'
            rcases List.mem_cons.1 he' with rfl | he'
            · exact ⟨item, he⟩
            · exact ih h e' he'

theorem infer_array_ok {items : List Expr} (h : infer s (.array items) = .ok t) :
    (∃ item, t = .array item) ∧ ∀ e ∈ items, ∃ item, infer s e = .ok item := by
  unfold infer at h
  split at h
  · cases h
  · next item hitems =>
      cases h
      exact ⟨⟨item, rfl⟩, inferItems_ok hitems⟩

/-- The argument is of a type that fits the parameter. -/
def Fits (s : Scope) (e : Expr) (param : Ty) : Prop :=
  ∃ actual, infer s e = .ok actual ∧ actual.assignable param = true

/-- As many arguments as parameters, and each fits its parameter. -/
theorem checkArgs_ok {function : String} {index : Nat} {args : List Expr} {params : List Ty}
    {u : Unit} (hlength : params.length = args.length)
    (h : checkArgs s function index args params = .ok u) :
    List.Forall₂ (Fits s) args params := by
  induction args generalizing index params with
  | nil =>
      cases params with
      | nil => exact .nil
      | cons param params => simp at hlength
  | cons e es ih =>
      cases params with
      | nil => simp at hlength
      | cons param params =>
          unfold checkArgs at h
          split at h
          · cases h
          · next actual he =>
              split at h
              · cases h
              · next hfits =>
                  exact .cons ⟨actual, he, by simpa using hfits⟩ (ih (by simpa using hlength) h)

/-- Arguments that fit are of some type. -/
theorem typed_of_fits {args : List Expr} {params : List Ty}
    (h : List.Forall₂ (Fits s) args params) : ∀ e ∈ args, ∃ actual, infer s e = .ok actual := by
  induction h with
  | nil => simp
  | cons hfits _ ih =>
      intro e he
      rcases List.mem_cons.1 he with rfl | he
      · obtain ⟨actual, hactual, -⟩ := hfits
        exact ⟨actual, hactual⟩
      · exact ih e he

theorem infer_call_ok {name : String} {args : List Expr} (h : infer s (.call name args) = .ok t) :
    ∃ signature, s.signature? name = some signature ∧ t = signature.returns
      ∧ List.Forall₂ (Fits s) args signature.params := by
  unfold infer at h
  split at h
  · cases h
  · next signature hsignature =>
      split at h
      · cases h
      · next hlength =>
          split at h
          · cases h
          · next hargs =>
              cases h
              exact ⟨signature, hsignature, rfl, checkArgs_ok (not_not.1 hlength) hargs⟩

theorem infer_variable_ok {name : String} (h : infer s (.field [name]) = .ok t) :
    s.variableType? name = some t := by
  unfold infer Typing.path at h
  simp only at h
  split at h
  · next u hu =>
      cases h
      exact hu
  · cases h

theorem infer_field_ok {path : List String} (hlength : path.length ≠ 1)
    (h : infer s (.field path) = .ok t) : s.fieldType? (".".intercalate path) = some t := by
  unfold infer Typing.path at h
  simp only at h
  split at h
  · next u hu =>
      cases h
      split at hu
      · simp at hlength
      · exact hu
  · cases h

mutual

/-- The checker accepts the nodes of what it accepts. -/
theorem infer_node_ok {e node : Expr} {t : Ty} (h : infer s e = .ok t)
    (hnode : node ∈ e.postorder) : ∃ u, infer s node = .ok u := by
  cases e with
  | literal v | field path =>
      obtain rfl := List.mem_singleton.1 hnode
      exact ⟨t, h⟩
  | binary op l r =>
      obtain ⟨left, right, hl, hr, -⟩ := infer_binary_ok h
      simp only [Expr.postorder, List.mem_append, List.mem_singleton] at hnode
      rcases hnode with (hnode | hnode) | rfl
      · exact infer_node_ok hl hnode
      · exact infer_node_ok hr hnode
      · exact ⟨t, h⟩
  | unary op e =>
      obtain ⟨operand, he, -⟩ := infer_unary_ok h
      simp only [Expr.postorder, List.mem_append, List.mem_singleton] at hnode
      rcases hnode with hnode | rfl
      · exact infer_node_ok he hnode
      · exact ⟨t, h⟩
  | call name args =>
      obtain ⟨signature, -, -, hargs⟩ := infer_call_ok h
      simp only [Expr.postorder, List.mem_append, List.mem_singleton] at hnode
      rcases hnode with hnode | rfl
      · exact infer_nodeAll_ok (typed_of_fits hargs) hnode
      · exact ⟨t, h⟩
  | ternary c a b =>
      obtain ⟨condition, whenTrue, whenFalse, hc, ha, hb, -⟩ := infer_ternary_ok h
      simp only [Expr.postorder, List.mem_append, List.mem_singleton] at hnode
      rcases hnode with ((hnode | hnode) | hnode) | rfl
      · exact infer_node_ok hc hnode
      · exact infer_node_ok ha hnode
      · exact infer_node_ok hb hnode
      · exact ⟨t, h⟩
  | array items =>
      obtain ⟨-, hitems⟩ := infer_array_ok h
      simp only [Expr.postorder, List.mem_append, List.mem_singleton] at hnode
      rcases hnode with hnode | rfl
      · exact infer_nodeAll_ok hitems hnode
      · exact ⟨t, h⟩

theorem infer_nodeAll_ok {es : List Expr} {node : Expr}
    (h : ∀ e ∈ es, ∃ t, infer s e = .ok t) (hnode : node ∈ Expr.postorderAll es) :
    ∃ u, infer s node = .ok u := by
  cases es with
  | nil => cases hnode
  | cons e es =>
      rw [Expr.postorderAll, List.mem_append] at hnode
      rcases hnode with hnode | hnode
      · obtain ⟨t, ht⟩ := h e List.mem_cons_self
        exact infer_node_ok ht hnode
      · exact infer_nodeAll_ok (fun e' he' => h e' (List.mem_cons_of_mem e he')) hnode

end

end Infer

end LabelRules
