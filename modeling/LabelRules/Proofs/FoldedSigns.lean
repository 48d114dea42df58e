import LabelRules.Proofs.Parsing.Grammar
import LabelRules.Proofs.Rebuilding

set_option autoImplicit false

/-! # The signs of number literals

Of a minus before a number literal the parser makes one literal (`Expr.negation`). This can be done
all over an expression that has come about in another way, from its leaves up (`Expr.foldSigns`), so
that no minus is left before a number literal. It makes no difference to the checker, to the
patterns that are looked for, or to an evaluation (`Expr.foldSigns_transparent`).
-/

namespace LabelRules

namespace Expr

/-- A minus before a number literal. -/
def isNegatedNumber : Expr → Bool
  | .unary .negate (.literal (.number _)) => true
  | _ => false

/-- The minus of a node, if it has one, as the parser reads it. -/
def foldSign : Expr → Expr
  | .unary .negate e => e.negation
  | e => e

/-- The expression without a minus before any number literal. -/
def foldSigns (e : Expr) : Expr := e.rebuild (fun _ => foldSign) []

theorem foldSign_cases (e : Expr) :
    (e.isNegatedNumber = false ∧ e.foldSign = e)
      ∨ ∃ x, e = .unary .negate (.literal (.number x)) ∧ e.foldSign = .literal (.number (-x)) := by
  unfold isNegatedNumber foldSign
  split
  · next x => exact .inr ⟨x, rfl, rfl⟩
  · next hnone =>
    refine .inl ⟨rfl, ?_⟩
    split
    · next operand =>
      unfold negation
      split
      · next x => exact absurd rfl (hnone x)
      · rfl
    · rfl

/-- No minus is left before a number literal: one that comes about by folding what is below is
folded, too. -/
theorem foldSigns_isFolded (e : Expr) : e.foldSigns.postorder.any isNegatedNumber = false := by
  refine List.any_eq_false.2 fun node hnode => Bool.eq_false_iff.1 ?_
  refine forall_mem_postorder_rebuild (P := fun node => node.isNegatedNumber = false) ?_ [] e
    node hnode
  intro _ e hbelow
  rcases e.foldSign_cases with ⟨hself, hfold⟩ | ⟨x, -, hfold⟩
  · obtain ⟨below, hnodes⟩ := e.exists_postorder
    rw [hnodes, List.dropLast_concat] at hbelow
    rw [hfold, hnodes]
    exact List.forall_mem_append.2 ⟨hbelow, List.forall_mem_singleton.2 hself⟩
  · rw [hfold]
    exact List.forall_mem_singleton.2 rfl

end Expr

/-! ## What cannot tell the difference -/

theorem congruence_infer (s : Scope) : Congruence fun a b => infer s a = infer s b where
  refl _ := rfl
  trans := Eq.trans
  fill frame h := infer_fill h frame

theorem congruence_evaluate {σ : Type} (env : Environment σ) :
    Congruence fun a b => evaluate env a = evaluate env b where
  refl _ := rfl
  trans := Eq.trans
  fill frame h := evaluate_fill h frame

theorem congruence_literalPatterns : Congruence fun a b =>
    a.stringLiteral? = b.stringLiteral? ∧ a.literalPatterns = b.literalPatterns where
  refl _ := ⟨rfl, rfl⟩
  trans h h' := ⟨h.1.trans h'.1, h.2.trans h'.2⟩
  fill {a b} frame h := by
    obtain ⟨front, back, hnodes⟩ := exists_postorder_fill frame
    refine ⟨by rw [stringLiteral?_fill, stringLiteral?_fill], ?_⟩
    have hpatterns := h.2
    simp only [Expr.literalPatterns] at hpatterns
    simp only [Expr.literalPatterns, hnodes, List.filterMap_append, List.filterMap_cons,
      literalPattern?_fill h.1 frame, hpatterns]

/-- A relation that takes each minus before a number literal to the one literal takes an expression
to the folded one. -/
theorem Congruence.foldSigns {R : Expr → Expr → Prop} (hR : Congruence R)
    (hliteral : ∀ x, R (.unary .negate (.literal (.number x))) (.literal (.number (-x))))
    (e : Expr) : R e e.foldSigns := by
  refine hR.rebuild (fun _ e => ?_) [] e
  rcases e.foldSign_cases with ⟨-, hfold⟩ | ⟨x, rfl, hfold⟩
  · rw [hfold]
    exact hR.refl e
  · rw [hfold]
    exact hliteral x

/-- **A minus may be folded into the number literal after it.** If it is, from the leaves up and
wherever an expression has one, no minus before a number literal is left; every scope gives the
expression the type, or the error, that it gave it before; the same texts are refused as patterns,
in the same order; and in every environment, from every output and with every cache, the evaluation
has the same value or error and leaves the same output and the same cache. -/
theorem Expr.foldSigns_transparent (e : Expr) :
    e.foldSigns.postorder.any isNegatedNumber = false
    ∧ (∀ s : Scope, infer s e.foldSigns = infer s e)
    ∧ e.foldSigns.refusedPatterns = e.refusedPatterns
    ∧ ∀ (σ : Type) (env : Environment σ) (m : Memory σ),
      (evaluate env e.foldSigns).exec m = (evaluate env e).exec m := by
  refine ⟨e.foldSigns_isFolded, fun s => ?_, ?_, fun σ env m => ?_⟩
  · exact ((congruence_infer s).foldSigns (fun _ => rfl) e).symm
  · have hpatterns := (congruence_literalPatterns.foldSigns (fun _ => ⟨rfl, rfl⟩) e).2
    rw [refusedPatterns_eq, refusedPatterns_eq, invalidPatterns, invalidPatterns, hpatterns]
  · rw [(congruence_evaluate env).foldSigns (fun _ => rfl) e]

/-- Of two minus signs the inner one is folded first; what comes about is folded again. -/
example (x : Float) : (Expr.unary .negate (.unary .negate (.literal (.number x)))).foldSigns
    = .literal (.number (- -x)) := rfl

end LabelRules
