import LabelRules.Evaluation.Basic
import LabelRules.Proofs.RuleValues
import Mathlib.Data.List.Perm.Basic

set_option autoImplicit false

/-! # Expressions inside others

A frame is a node with one of its children left out, and an expression stands inside a list of
frames (`Expr.inside`). An expression may be replaced inside any frames by one that the checker
gives the same type (`SameType.inside`), by one with the same written patterns
(`SamePatterns.inside`), or by one with the same evaluation (`evaluate_inside`). So a rule text
compiles as it did if a part of it is replaced by one of the same type and with the same patterns
(`compile_iff_of_same`).
-/

namespace LabelRules

/-! ## Frames -/

/-- A node with one child left out. -/
inductive Frame where
  | left (op : Operator) (r : Expr)
  | right (op : Operator) (l : Expr)
  | operand (op : UnaryOp)
  | argument (name : String) (before after : List Expr)
  | condition (t f : Expr)
  | whenTrue (c f : Expr)
  | whenFalse (c t : Expr)
  | item (before after : List Expr)

/-- The node with an expression as the child that was left out. -/
def Frame.fill (e : Expr) : Frame → Expr
  | .left op r => .binary op e r
  | .right op l => .binary op l e
  | .operand op => .unary op e
  | .argument name before after => .call name (before ++ e :: after)
  | .condition t f => .ternary e t f
  | .whenTrue c f => .ternary c e f
  | .whenFalse c t => .ternary c t e
  | .item before after => .array (before ++ e :: after)

/-- An expression inside frames, the innermost one first. -/
def Expr.inside (e : Expr) (frames : List Frame) : Expr := frames.foldl Frame.fill e

/-- What holds of a node if it holds of its child holds inside all frames. -/
theorem inside_of_fill {R : Expr → Expr → Prop} {e e' : Expr}
    (hfill : ∀ (frame : Frame) (a b : Expr), R a b → R (frame.fill a) (frame.fill b)) (h : R e e')
    (frames : List Frame) : R (e.inside frames) (e'.inside frames) := by
  induction frames generalizing e e' with
  | nil => exact h
  | cons frame frames ih => exact ih (hfill frame e e' h)

/-! ## Types -/

/-- The checker gives two expressions one type, or accepts neither. -/
def SameType (s : Scope) (e e' : Expr) : Prop := ∀ t, infer s e = .ok t ↔ infer s e' = .ok t

section Types

variable {s : Scope} {e e' : Expr}

theorem sameType_iff : SameType s e e' ↔ (infer s e).toOption = (infer s e').toOption := by
  unfold SameType
  cases infer s e with
  | error error =>
      cases infer s e' with
      | error error' => simp [Except.toOption]
      | ok t => simp [Except.toOption]
  | ok t =>
      cases infer s e' with
      | error error => simp [Except.toOption]
      | ok t' => simp [Except.toOption]

theorem toOption_infer_binary (op : Operator) (l r : Expr) :
    (infer s (.binary op l r)).toOption
      = (infer s l).toOption.bind fun left => (infer s r).toOption.bind fun right =>
          (Typing.binary op left right).toOption := by
  rw [infer]
  cases infer s l with
  | error error => rfl
  | ok left => cases infer s r <;> rfl

theorem toOption_infer_unary (op : UnaryOp) (e : Expr) :
    (infer s (.unary op e)).toOption
      = (infer s e).toOption.bind fun operand => (Typing.unary op operand).toOption := by
  rw [infer]
  cases infer s e <;> rfl

theorem toOption_infer_ternary (c t f : Expr) :
    (infer s (.ternary c t f)).toOption
      = (infer s c).toOption.bind fun condition => (infer s t).toOption.bind fun whenTrue =>
          (infer s f).toOption.bind fun whenFalse =>
            (Typing.ternary condition whenTrue whenFalse).toOption := by
  rw [infer]
  cases infer s c with
  | error error => rfl
  | ok condition =>
      cases infer s t with
      | error error => rfl
      | ok whenTrue => cases infer s f <;> rfl

theorem toOption_infer_call (name : String) (args : List Expr) :
    (infer s (.call name args)).toOption
      = (s.signature? name).bind fun signature =>
          if signature.arity = args.length then
            (checkArgs s name 1 args signature.params).toOption.map fun _ => signature.returns
          else none := by
  rw [infer]
  cases s.signature? name with
  | none => rfl
  | some signature =>
      by_cases harity : signature.arity = args.length
      · simp only [harity, ne_eq, not_true_eq_false, if_false, if_true, Option.bind_some]
        cases checkArgs s name 1 args signature.params <;> rfl
      · simp [harity, Except.toOption]

theorem toOption_infer_array (items : List Expr) :
    (infer s (.array items)).toOption = (inferItems s .any items).toOption.map .array := by
  rw [infer]
  cases inferItems s .any items <;> rfl

theorem toOption_inferItems_cons (before : Ty) (e : Expr) (es : List Expr) :
    (inferItems s before (e :: es)).toOption
      = (infer s e).toOption.bind fun item =>
          if before.compatible item then
            (inferItems s (if before = .any then item else before) es).toOption
          else none := by
  rw [inferItems]
  cases infer s e with
  | error error => rfl
  | ok item => cases h : before.compatible item <;> simp [Except.toOption, h]

theorem toOption_checkArgs_cons (function : String) (index : Nat) (e : Expr) (es : List Expr)
    (param : Ty) (params : List Ty) :
    (checkArgs s function index (e :: es) (param :: params)).toOption
      = (infer s e).toOption.bind fun actual =>
          if actual.assignable param then
            (checkArgs s function (index + 1) es params).toOption
          else none := by
  rw [checkArgs]
  cases infer s e with
  | error error => rfl
  | ok actual => cases h : actual.assignable param <;> simp [Except.toOption, h]

/-- One item may be replaced by another of its type. -/
theorem toOption_inferItems_congr (h : SameType s e e') (before : Ty) (front back : List Expr) :
    (inferItems s before (front ++ e :: back)).toOption
      = (inferItems s before (front ++ e' :: back)).toOption := by
  induction front generalizing before with
  | nil =>
      simp only [List.nil_append, toOption_inferItems_cons, sameType_iff.1 h]
  | cons a front ih =>
      simp only [List.cons_append, toOption_inferItems_cons, ih]

/-- One argument may be replaced by another of its type. -/
theorem toOption_checkArgs_congr (h : SameType s e e') (function : String) (index : Nat)
    (front back : List Expr) (params : List Ty) :
    (checkArgs s function index (front ++ e :: back) params).toOption
      = (checkArgs s function index (front ++ e' :: back) params).toOption := by
  induction front generalizing index params with
  | nil =>
      cases params with
      | nil => rfl
      | cons param params =>
          simp only [List.nil_append, toOption_checkArgs_cons, sameType_iff.1 h]
  | cons a front ih =>
      cases params with
      | nil => rfl
      | cons param params => simp only [List.cons_append, toOption_checkArgs_cons, ih]

theorem SameType.fill (h : SameType s e e') (frame : Frame) :
    SameType s (frame.fill e) (frame.fill e') := by
  have heq := sameType_iff.1 h
  rw [sameType_iff]
  cases frame with
  | left op r => simp only [Frame.fill, toOption_infer_binary, heq]
  | right op l => simp only [Frame.fill, toOption_infer_binary, heq]
  | operand op => simp only [Frame.fill, toOption_infer_unary, heq]
  | condition t f => simp only [Frame.fill, toOption_infer_ternary, heq]
  | whenTrue c f => simp only [Frame.fill, toOption_infer_ternary, heq]
  | whenFalse c t => simp only [Frame.fill, toOption_infer_ternary, heq]
  | argument name front back =>
      simp only [Frame.fill, toOption_infer_call, List.length_append, List.length_cons,
        toOption_checkArgs_congr h]
  | item front back =>
      simp only [Frame.fill, toOption_infer_array, toOption_inferItems_congr h]

theorem inferItems_congr (h : infer s e = infer s e') (before : Ty) (front back : List Expr) :
    inferItems s before (front ++ e :: back) = inferItems s before (front ++ e' :: back) := by
  induction front generalizing before with
  | nil => simp only [List.nil_append, inferItems, h]
  | cons a front ih => simp only [List.cons_append, inferItems, ih]

theorem checkArgs_congr (h : infer s e = infer s e') (function : String) (index : Nat)
    (front back : List Expr) (params : List Ty) :
    checkArgs s function index (front ++ e :: back) params
      = checkArgs s function index (front ++ e' :: back) params := by
  induction front generalizing index params with
  | nil =>
      cases params with
      | nil => rfl
      | cons param params => simp only [List.nil_append, checkArgs, h]
  | cons a front ih =>
      cases params with
      | nil => rfl
      | cons param params => simp only [List.cons_append, checkArgs, ih]

/-- What is found for a node, its type or what is wrong with it, depends on what is found for its
children. -/
theorem infer_fill (h : infer s e = infer s e') (frame : Frame) :
    infer s (frame.fill e) = infer s (frame.fill e') := by
  cases frame with
  | left op r | right op l => simp only [Frame.fill, infer, h]
  | operand op => simp only [Frame.fill, infer, h]
  | condition t f | whenTrue c f | whenFalse c t => simp only [Frame.fill, infer, h]
  | argument name front back =>
      simp only [Frame.fill, infer, List.length_append, List.length_cons, checkArgs_congr h]
  | item front back => simp only [Frame.fill, infer, inferItems_congr h]

/-- An expression may be replaced by one of its type, whatever it stands inside. -/
theorem SameType.inside (h : SameType s e e') (frames : List Frame) :
    SameType s (e.inside frames) (e'.inside frames) :=
  inside_of_fill (fun frame _ _ hab => hab.fill frame) h frames

end Types

/-! ## Written patterns -/

/-- Two expressions write the same patterns, in whatever order, and are the same string literal if
one of them is a string literal. -/
structure SamePatterns (e e' : Expr) : Prop where
  literal : e.stringLiteral? = e'.stringLiteral?
  patterns : e.literalPatterns.Perm e'.literalPatterns

section Patterns

variable {e e' : Expr}

theorem stringLiteral?_fill (frame : Frame) : (frame.fill e).stringLiteral? = none := by
  cases frame <;> rfl

/-- The pattern that is written at a node depends on the string literals among its children. -/
theorem literalPattern?_fill (h : e.stringLiteral? = e'.stringLiteral?) (frame : Frame) :
    (frame.fill e).literalPattern? = (frame.fill e').literalPattern? := by
  cases frame with
  | left op r => cases op <;> rfl
  | right op l =>
      cases op with
      | «matches» => exact h
      | _ => rfl
  | argument name front back =>
      simp only [Frame.fill, Expr.literalPattern?]
      split
      · rcases front with _ | ⟨a, _ | ⟨b, _ | ⟨c, front⟩⟩⟩
        · rcases back with _ | ⟨a, _ | ⟨b, _ | ⟨c, back⟩⟩⟩ <;> rfl
        · rcases back with _ | ⟨b, _ | ⟨c, back⟩⟩
          · rfl
          · exact h
          · rfl
        · rcases back with _ | ⟨c, back⟩ <;> rfl
        · rcases front with _ | ⟨d, front⟩ <;> rfl
      · rfl
  | operand | condition | whenTrue | whenFalse | item => rfl

theorem postorderAll_append (front back : List Expr) :
    Expr.postorderAll (front ++ back) = Expr.postorderAll front ++ Expr.postorderAll back := by
  induction front with
  | nil => rfl
  | cons e front ih => simp only [List.cons_append, Expr.postorderAll, ih, List.append_assoc]

/-- The nodes of an expression in a frame: those before it, its own, those after it, and the node
of the frame. -/
theorem exists_postorder_fill (frame : Frame) : ∃ front back : List Expr,
    ∀ e : Expr, (frame.fill e).postorder = front ++ e.postorder ++ back ++ [frame.fill e] := by
  cases frame with
  | left op r => exact ⟨[], r.postorder, fun e => by simp [Frame.fill, Expr.postorder]⟩
  | right op l => exact ⟨l.postorder, [], fun e => by simp [Frame.fill, Expr.postorder]⟩
  | operand op => exact ⟨[], [], fun e => by simp [Frame.fill, Expr.postorder]⟩
  | argument name front back =>
      refine ⟨Expr.postorderAll front, Expr.postorderAll back, fun e => ?_⟩
      simp [Frame.fill, Expr.postorder, postorderAll_append, Expr.postorderAll]
  | condition t f =>
      exact ⟨[], t.postorder ++ f.postorder, fun e => by simp [Frame.fill, Expr.postorder]⟩
  | whenTrue c f =>
      exact ⟨c.postorder, f.postorder, fun e => by simp [Frame.fill, Expr.postorder]⟩
  | whenFalse c t =>
      exact ⟨c.postorder ++ t.postorder, [], fun e => by simp [Frame.fill, Expr.postorder]⟩
  | item front back =>
      refine ⟨Expr.postorderAll front, Expr.postorderAll back, fun e => ?_⟩
      simp [Frame.fill, Expr.postorder, postorderAll_append, Expr.postorderAll]

theorem SamePatterns.fill (h : SamePatterns e e') (frame : Frame) :
    SamePatterns (frame.fill e) (frame.fill e') where
  literal := by rw [stringLiteral?_fill, stringLiteral?_fill]
  patterns := by
    obtain ⟨front, back, hnodes⟩ := exists_postorder_fill frame
    simp only [Expr.literalPatterns, hnodes, List.filterMap_append, List.filterMap_cons,
      literalPattern?_fill h.literal frame]
    exact ((h.patterns.append_left _).append_right _).append_right _

theorem SamePatterns.inside (h : SamePatterns e e') (frames : List Frame) :
    SamePatterns (e.inside frames) (e'.inside frames) :=
  inside_of_fill (fun frame _ _ hab => hab.fill frame) h frames

theorem SamePatterns.invalidPatterns (h : SamePatterns e e') :
    e.invalidPatterns.Perm e'.invalidPatterns := h.patterns.filter _

end Patterns

/-! ## Evaluation -/

section Evaluate

variable {σ : Type} {env : Environment σ} {e e' : Expr}

theorem evaluateAll_congr_of_eq (h : evaluate env e = evaluate env e') (front back : List Expr) :
    evaluateAll env (front ++ e :: back) = evaluateAll env (front ++ e' :: back) := by
  induction front with
  | nil => simp only [List.nil_append, evaluateAll, h]
  | cons a front ih => simp only [List.cons_append, evaluateAll, ih]

theorem evaluate_fill (h : evaluate env e = evaluate env e') (frame : Frame) :
    evaluate env (frame.fill e) = evaluate env (frame.fill e') := by
  cases frame with
  | left op r | right op l => cases op <;> simp only [Frame.fill, evaluate, h]
  | operand op => simp only [Frame.fill, evaluate, h]
  | condition t f | whenTrue c f | whenFalse c t => simp only [Frame.fill, evaluate, h]
  | argument name front back =>
      simp only [Frame.fill, evaluate, evaluateAll_congr_of_eq h]
  | item front back => simp only [Frame.fill, evaluate, evaluateAll_congr_of_eq h]

/-- An expression may be replaced by one with the same evaluation, whatever it stands inside. -/
theorem evaluate_inside (h : evaluate env e = evaluate env e') (frames : List Frame) :
    evaluate env (e.inside frames) = evaluate env (e'.inside frames) :=
  inside_of_fill (R := fun a b => evaluate env a = evaluate env b)
    (fun frame _ _ hab => evaluate_fill hab frame) h frames

end Evaluate

/-! ## Rule texts -/

/-- A text is a rule if its expression writes no invalid pattern and is of type boolean. -/
theorem exists_compile_iff {kind : Kind} {source : String} {e : Expr}
    (hparse : parse source = .ok e) :
    (∃ p, Program.compile kind source = .ok p)
      ↔ e.invalidPatterns = [] ∧ infer (Schema.of kind).scope e = .ok .bool := by
  constructor
  · rintro ⟨p, hp⟩
    obtain ⟨-, -, hexpr⟩ := Program.compile_eq_ok_iff.1 hp
    obtain ⟨hparse', hpatterns, hcheck⟩ := Program.expression_eq_ok_iff.1 hexpr
    obtain rfl := Except.ok.inj (hparse.symm.trans hparse')
    exact ⟨hpatterns, hcheck⟩
  · rintro ⟨hpatterns, hcheck⟩
    have hexpr := Program.expression_eq_ok_iff.2 ⟨hparse, hpatterns, hcheck⟩
    exact ⟨⟨source, kind, e⟩, Program.compile_eq_ok_iff.2 ⟨rfl, rfl, hexpr⟩⟩

/-- Texts of expressions of one type and with the same patterns are both rules, or none is. -/
theorem compile_iff_of_same {kind : Kind} {source source' : String} {e e' : Expr}
    (hparse : parse source = .ok e) (hparse' : parse source' = .ok e')
    (htype : SameType (Schema.of kind).scope e e') (hpatterns : SamePatterns e e') :
    (∃ p, Program.compile kind source = .ok p) ↔ ∃ p, Program.compile kind source' = .ok p := by
  rw [exists_compile_iff hparse, exists_compile_iff hparse', htype]
  have hnone : e.invalidPatterns = [] ↔ e'.invalidPatterns = [] := by
    rw [← List.length_eq_zero_iff, ← List.length_eq_zero_iff, hpatterns.invalidPatterns.length_eq]
  rw [hnone]

end LabelRules
