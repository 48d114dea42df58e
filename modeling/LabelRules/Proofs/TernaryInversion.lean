import LabelRules.Proofs.Contexts
import LabelRules.Proofs.LogicalLaws
import LabelRules.Proofs.Parsing.RoundTrip

set_option autoImplicit false

/-! # Inverting a ternary

`c ? a : b` and `!c ? b : a` are both accepted or both refused, and if they are accepted they have
the same evaluation. Their types are the same exactly if the branches are of one type or one branch
is of type `any` (`Balanced`): the checker takes the type of the first branch otherwise, and two
types of arrays may be compatible without being equal. Where the types are the same, one may replace
the other anywhere in a rule (`ternary_inverted`).
-/

namespace LabelRules

/-- The ternary with its condition negated and its branches exchanged. -/
def Expr.invertedTernary (c a b : Expr) : Expr := .ternary (.unary .not c) b a

/-- Compatible types of two branches are equal, or one of them is `any`. -/
def Balanced (s : Scope) (a b : Expr) : Prop :=
  ∀ whenTrue whenFalse, infer s a = .ok whenTrue → infer s b = .ok whenFalse →
    whenTrue.compatible whenFalse = true →
      whenTrue = whenFalse ∨ whenTrue = .any ∨ whenFalse = .any

/-! ## Types -/

namespace Typing

/-- The type of a ternary with branches of two types. -/
def branchType (whenTrue whenFalse : Ty) : Ty := if whenFalse = .any then whenFalse else whenTrue

theorem ternary_eq_ok_iff {condition whenTrue whenFalse t : Ty} :
    ternary condition whenTrue whenFalse = .ok t
      ↔ condition = .bool ∧ whenTrue.compatible whenFalse = true
        ∧ branchType whenTrue whenFalse = t := by
  constructor
  · intro h
    obtain ⟨hcondition, hcompatible, rfl⟩ := ternary_eq_ok h
    exact ⟨hcondition, hcompatible, rfl⟩
  · rintro ⟨rfl, hcompatible, rfl⟩
    simp [ternary, Ty.isBool, hcompatible, branchType]

/-- The order of the branches matters for two different types of which none is `any`. -/
theorem branchType_comm_iff {whenTrue whenFalse : Ty} :
    branchType whenTrue whenFalse = branchType whenFalse whenTrue
      ↔ whenTrue = whenFalse ∨ whenTrue = .any ∨ whenFalse = .any := by
  unfold branchType
  by_cases htrue : whenTrue = .any <;> by_cases hfalse : whenFalse = .any <;> simp [htrue, hfalse]

end Typing

section Types

variable {s : Scope} {c a b : Expr} {t : Ty}

theorem infer_not_eq_bool_iff : infer s (.unary .not c) = .ok .bool ↔ infer s c = .ok .bool := by
  constructor
  · intro h
    obtain ⟨operand, hoperand, hnot⟩ := infer_unary_ok h
    rw [(Typing.unary_not_eq_ok hnot).1] at hoperand
    exact hoperand
  · intro h
    simp [infer, h, Typing.unary, Ty.isBool]

theorem infer_ternary_eq_ok_iff :
    infer s (.ternary c a b) = .ok t ↔ infer s c = .ok .bool
      ∧ ∃ whenTrue whenFalse, infer s a = .ok whenTrue ∧ infer s b = .ok whenFalse
        ∧ whenTrue.compatible whenFalse = true ∧ Typing.branchType whenTrue whenFalse = t := by
  constructor
  · intro h
    obtain ⟨condition, whenTrue, whenFalse, hc, ha, hb, hternary⟩ := infer_ternary_ok h
    obtain ⟨rfl, hcompatible, hbranch⟩ := Typing.ternary_eq_ok_iff.1 hternary
    exact ⟨hc, whenTrue, whenFalse, ha, hb, hcompatible, hbranch⟩
  · rintro ⟨hc, whenTrue, whenFalse, ha, hb, hcompatible, hbranch⟩
    have hternary := Typing.ternary_eq_ok_iff.2 ⟨rfl, hcompatible, hbranch⟩
    simp [infer, hc, ha, hb, hternary]

/-- The inverted ternary has the type of the branches in the other order. -/
theorem infer_invertedTernary_eq_ok_iff :
    infer s (.invertedTernary c a b) = .ok t ↔ infer s c = .ok .bool
      ∧ ∃ whenTrue whenFalse, infer s a = .ok whenTrue ∧ infer s b = .ok whenFalse
        ∧ whenTrue.compatible whenFalse = true ∧ Typing.branchType whenFalse whenTrue = t := by
  rw [Expr.invertedTernary, infer_ternary_eq_ok_iff, infer_not_eq_bool_iff]
  constructor
  · rintro ⟨hc, whenFalse, whenTrue, hb, ha, hcompatible, hbranch⟩
    exact ⟨hc, whenTrue, whenFalse, ha, hb, Ty.compatible_comm _ _ ▸ hcompatible, hbranch⟩
  · rintro ⟨hc, whenTrue, whenFalse, ha, hb, hcompatible, hbranch⟩
    exact ⟨hc, whenFalse, whenTrue, hb, ha, Ty.compatible_comm _ _ ▸ hcompatible, hbranch⟩

/-- Both ternaries are accepted, or none is. -/
theorem accepted_invertedTernary_iff :
    (∃ t, infer s (.ternary c a b) = .ok t) ↔ ∃ t, infer s (.invertedTernary c a b) = .ok t := by
  simp only [infer_ternary_eq_ok_iff, infer_invertedTernary_eq_ok_iff]
  constructor
  · rintro ⟨-, hc, whenTrue, whenFalse, ha, hb, hcompatible, -⟩
    exact ⟨_, hc, whenTrue, whenFalse, ha, hb, hcompatible, rfl⟩
  · rintro ⟨-, hc, whenTrue, whenFalse, ha, hb, hcompatible, -⟩
    exact ⟨_, hc, whenTrue, whenFalse, ha, hb, hcompatible, rfl⟩

/-- Both ternaries are of one type exactly if the branches are balanced, as far as the condition is
one. -/
theorem sameType_invertedTernary_iff :
    SameType s (.ternary c a b) (.invertedTernary c a b)
      ↔ (infer s c = .ok .bool → Balanced s a b) := by
  constructor
  · intro h hc whenTrue whenFalse ha hb hcompatible
    have hternary : infer s (.ternary c a b) = .ok (Typing.branchType whenTrue whenFalse) :=
      infer_ternary_eq_ok_iff.2 ⟨hc, whenTrue, whenFalse, ha, hb, hcompatible, rfl⟩
    obtain ⟨-, whenTrue', whenFalse', ha', hb', -, hbranch⟩ :=
      infer_invertedTernary_eq_ok_iff.1 ((h _).1 hternary)
    obtain rfl := Except.ok.inj (ha.symm.trans ha')
    obtain rfl := Except.ok.inj (hb.symm.trans hb')
    exact Typing.branchType_comm_iff.1 hbranch.symm
  · intro hbalanced t
    rw [infer_ternary_eq_ok_iff, infer_invertedTernary_eq_ok_iff]
    refine and_congr_right fun hc => ?_
    refine exists_congr fun whenTrue => exists_congr fun whenFalse => ?_
    refine and_congr_right fun ha => and_congr_right fun hb => and_congr_right fun hcompatible => ?_
    rw [Typing.branchType_comm_iff.2 (hbalanced hc _ _ ha hb hcompatible)]

end Types

/-! ## Patterns and evaluation -/

theorem samePatterns_invertedTernary (c a b : Expr) :
    SamePatterns (.ternary c a b) (.invertedTernary c a b) where
  literal := rfl
  patterns := by
    have hnot : (Expr.unary .not c).literalPattern? = none := rfl
    have hternary (c a b : Expr) : (Expr.ternary c a b).literalPattern? = none := rfl
    simp only [Expr.invertedTernary, Expr.literalPatterns, Expr.postorder, List.filterMap_append,
      List.filterMap_cons, List.filterMap_nil, hnot, hternary, List.append_nil, List.append_assoc]
    exact List.perm_append_comm.append_left _

section Evaluate

variable {σ : Type} {env : Environment σ} {s : Scope} {c : Expr}

/-- An expression of type boolean has a boolean as its value, or fails. -/
theorem BoolValued.of_infer (henv : env.Serves s) (h : infer s c = .ok .bool) :
    BoolValued env c :=
  .of_ends ((evaluate_sound henv c .bool h).mono (fun _ hv => hv.1) fun _ he => he)

/-- A negated condition decides for the other branch. -/
theorem evaluate_invertedTernary (hc : BoolValued env c) (a b : Expr) :
    evaluate env (.ternary c a b) = evaluate env (.invertedTernary c a b) := by
  have hnot : evaluateCondition env (.unary .not c) = not <$> evaluateCondition env c :=
    (BoolValued.of_eq (evaluate_not hc)).2
  rw [Expr.invertedTernary, evaluate_ternary, evaluate_ternary, hnot, bind_map_left]
  refine bind_congr fun decision => ?_
  cases decision <;> rfl

end Evaluate

/-! ## The law -/

/-- **Inverting a ternary.** In every scope `c ? a : b` and `!c ? b : a` are both accepted or both
refused, and they are of one type exactly if, with a boolean as the condition, compatible types of
the branches are equal or one of them is `any`. If the branches are so in the scope of a kind of
rule, texts in which one stands in the place of the other are both rules of that kind, or none is.
And if one is accepted for a subject, both have the same evaluation, and so have all expressions in
which one stands in the place of the other: the same value or error, and the same output and cache
afterwards. -/
theorem ternary_inverted (c a b : Expr) :
    (∀ s : Scope,
      ((∃ t, infer s (.ternary c a b) = .ok t) ↔ ∃ t, infer s (.invertedTernary c a b) = .ok t)
        ∧ (SameType s (.ternary c a b) (.invertedTernary c a b)
          ↔ (infer s c = .ok .bool → Balanced s a b)))
    ∧ (∀ kind : Kind,
      (infer (Schema.of kind).scope c = .ok .bool → Balanced (Schema.of kind).scope a b) →
        ∀ (frames : List Frame) (source source' : String),
          parse source = .ok ((Expr.ternary c a b).inside frames) →
          parse source' = .ok ((Expr.invertedTernary c a b).inside frames) →
            ((∃ p, Program.compile kind source = .ok p)
              ↔ ∃ p, Program.compile kind source' = .ok p))
    ∧ ∀ (x : Subject) (t : Ty), infer (Schema.of x.kind).scope (.ternary c a b) = .ok t →
      ∀ frames : List Frame,
        evaluate x.environment ((Expr.ternary c a b).inside frames)
          = evaluate x.environment ((Expr.invertedTernary c a b).inside frames) := by
  refine ⟨fun s => ⟨accepted_invertedTernary_iff, sameType_invertedTernary_iff⟩, ?_, ?_⟩
  · intro kind hbalanced frames source source' hparse hparse'
    exact compile_iff_of_same hparse hparse'
      ((sameType_invertedTernary_iff.2 hbalanced).inside frames)
      ((samePatterns_invertedTernary c a b).inside frames)
  · intro x t ht frames
    have hc : infer (Schema.of x.kind).scope c = .ok .bool := (infer_ternary_eq_ok_iff.1 ht).1
    have hbool : BoolValued x.environment c := .of_infer x.environment_serves hc
    exact evaluate_inside (evaluate_invertedTernary hbool a b) frames

/-- A condition that records a group, and a branch that is `nil`. -/
theorem ternary_inverted_classify : ∃ (c a b : Expr) (frames : List Frame),
    c = .call Capability.classify [.literal (.string "a")]
    ∧ a = .literal .nil ∧ b = .field ["Exporter", "Name"]
    ∧ infer (Schema.of .exporter).scope (.ternary c a b) = .ok .any
    ∧ parse "(classify('a') ? nil : Exporter.Name) == 'b'"
      = .ok ((Expr.ternary c a b).inside frames)
    ∧ parse "(!classify('a') ? Exporter.Name : nil) == 'b'"
      = .ok ((Expr.invertedTernary c a b).inside frames)
    ∧ ((∃ p, Program.compile .exporter "(classify('a') ? nil : Exporter.Name) == 'b'" = .ok p)
      ↔ ∃ p, Program.compile .exporter "(!classify('a') ? Exporter.Name : nil) == 'b'" = .ok p)
    ∧ evaluate (Subject.exporter {}).environment ((Expr.ternary c a b).inside frames)
      = evaluate (Subject.exporter {}).environment ((Expr.invertedTernary c a b).inside frames) := by
  let c : Expr := .call Capability.classify [.literal (.string "a")]
  let a : Expr := .literal .nil
  let b : Expr := .field ["Exporter", "Name"]
  let frames : List Frame := [.left .eq (.literal (.string "b"))]
  have hparse : parse "(classify('a') ? nil : Exporter.Name) == 'b'"
      = .ok ((Expr.ternary c a b).inside frames) :=
    parse_of_tokens (by decide) (by decide +kernel) (by decide +kernel)
  have hparse' : parse "(!classify('a') ? Exporter.Name : nil) == 'b'"
      = .ok ((Expr.invertedTernary c a b).inside frames) :=
    parse_of_tokens (by decide) (by decide +kernel) (by decide +kernel)
  have hbalanced : Balanced (Schema.of .exporter).scope a b := by
    intro whenTrue whenFalse hnil _ _
    exact .inr (.inl (Except.ok.inj hnil).symm)
  have htype : infer (Schema.of .exporter).scope (.ternary c a b) = .ok .any := rfl
  obtain ⟨-, hcompile, hevaluate⟩ := ternary_inverted c a b
  exact ⟨c, a, b, frames, rfl, rfl, rfl, htype, hparse, hparse',
    hcompile .exporter (fun _ => hbalanced) frames _ _ hparse hparse',
    hevaluate (.exporter {}) _ htype frames⟩

/-- **Inverting a ternary can change its type.** With an empty array as one branch and an array of
numbers as the other, the type is that of the branch that stands first. So a string is looked for in
the one ternary and may not be looked for in the other. -/
theorem invertedTernary_other_type : ∃ c a b : Expr,
    c = .literal (.bool true) ∧ a = .array [] ∧ b = .array [.literal (.number 1)]
    ∧ infer .empty (.ternary c a b) = .ok (.array .any)
    ∧ infer .empty (.invertedTernary c a b) = .ok (.array .number)
    ∧ ¬ SameType .empty (.ternary c a b) (.invertedTernary c a b)
    ∧ ∃ frames : List Frame,
      parse "'a' in (true ? [] : [1])" = .ok ((Expr.ternary c a b).inside frames)
      ∧ parse "'a' in (!true ? [1] : [])" = .ok ((Expr.invertedTernary c a b).inside frames)
      ∧ ∀ kind, (Program.compile kind "'a' in (true ? [] : [1])").isOk = true
        ∧ (Program.compile kind "'a' in (!true ? [1] : [])").isOk = false := by
  refine ⟨_, _, _, rfl, rfl, rfl, rfl, rfl, ?_, [.right .isIn (.literal (.string "a"))],
    parse_of_tokens (by decide) (by decide +kernel) (by decide +kernel),
    parse_of_tokens (by decide) (by decide +kernel) (by decide +kernel), ?_⟩
  · intro hsame
    have hany := (hsame (.array .any)).1 rfl
    cases hany
  · intro kind
    cases kind
    · exact ⟨by decide +kernel, by decide +kernel⟩
    · exact ⟨by decide +kernel, by decide +kernel⟩

end LabelRules
