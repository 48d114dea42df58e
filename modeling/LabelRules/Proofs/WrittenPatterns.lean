import LabelRules.Proofs.TypeSafety

set_option autoImplicit false

/-! # Patterns that are written out

The compiler looks at the patterns that are written out in a rule text, and an evaluation fetches
patterns wherever it comes to one. These are the same places: a compiled rule that fails with an
invalid pattern has computed it (`Program.isComputedPattern_of_run`), so a compiled rule whose
patterns are all written out never fails with one (`Program.run_ne_invalidPattern`).
-/

namespace LabelRules

/-- Every pattern of the expression is written out: the right side of each `matches`, and the
second argument of each capability that takes a pattern, is a string literal. -/
def Expr.WritesPatternsOut (e : Expr) : Prop :=
  ∀ node ∈ e.postorder, ∀ operand ∈ node.patternOperand?, operand.stringLiteral?.isSome = true

instance (e : Expr) : Decidable e.WritesPatternsOut :=
  inferInstanceAs (Decidable (∀ node ∈ e.postorder, ∀ operand ∈ node.patternOperand?,
    operand.stringLiteral?.isSome = true))

namespace Program

variable {x : Subject} {source : String} {p : Program}

/-- An invalid pattern that a compiled rule fails with is not written out in it. -/
theorem isComputedPattern_of_run (h : compile x.kind source = .ok p) {m : Memory x.Output}
    {rule text : String} (hrun : (p.run x.environment m).1 = .error ⟨rule, .invalidPattern text⟩) :
    IsComputedPattern x.environment p.expr (.invalidPattern text) := by
  obtain ⟨-, -, hpatterns, -⟩ := compile_ok h
  have hends := run_ends h m
  rw [hrun] at hends
  obtain ⟨-, hblame⟩ := hends
  cases hblame with
  | pattern hreaches hoperand hvalue hinvalid =>
      have hcomputed := Expr.stringLiteral?_eq_none_of_invalid hpatterns hreaches.mem_postorder
        hoperand m hvalue hinvalid
      exact ⟨_, _, _, rfl, hreaches, hoperand, hcomputed, hvalue⟩
  -- Operators that are not defined on their operands fail with other errors.
  | clash _ hclash => exact hclash.isKindClash.elim

/-- **The patterns that are looked at ahead of time cover those of a run.** A compiled rule whose
patterns are all written out, run on a subject of its kind from any output and with any cache, does
not fail with an invalid pattern. -/
theorem run_ne_invalidPattern (h : compile x.kind source = .ok p)
    (hwritten : p.expr.WritesPatternsOut) (m : Memory x.Output) (rule text : String) :
    (p.run x.environment m).1 ≠ .error ⟨rule, .invalidPattern text⟩ := by
  intro hrun
  obtain ⟨node, operand, _, -, hreaches, hoperand, hcomputed, -⟩ := isComputedPattern_of_run h hrun
  have hliteral := hwritten node hreaches.mem_postorder operand hoperand
  rw [hcomputed] at hliteral
  cases hliteral

/-- A text is a rule whose patterns are all written out. -/
def isRuleWithWrittenPatterns (kind : Kind) (source : String) : Bool :=
  match compile kind source with
  | .ok p => p.expr.WritesPatternsOut
  | .error _ => false

/-- A rule with both kinds of pattern, on an interface that has its provider. -/
theorem run_ne_invalidPattern_both :
    ∃ p, compile .interface
        "Interface.Name matches \"^xe\" && classifyProviderRegex(Interface.Name, \"[a-z]+\", \"$0\")"
          = .ok p
      ∧ p.expr.WritesPatternsOut
      ∧ ∀ rule text, (p.run (Subject.interface {} { name := "xe-0" }).environment
          ⟨{ provider := "cogent" }, .empty⟩).1 ≠ .error ⟨rule, .invalidPattern text⟩ := by
  have hcheck : isRuleWithWrittenPatterns .interface
      "Interface.Name matches \"^xe\" && classifyProviderRegex(Interface.Name, \"[a-z]+\", \"$0\")"
        = true := by
    decide +kernel
  unfold isRuleWithWrittenPatterns at hcheck
  split at hcheck
  · next p hp =>
      have hwritten : p.expr.WritesPatternsOut := of_decide_eq_true hcheck
      refine ⟨p, hp, hwritten, ?_⟩
      exact run_ne_invalidPattern (x := .interface {} { name := "xe-0" }) hp hwritten _
  · cases hcheck

/-- A pattern that is computed may well be invalid. -/
example : failure? (.exporter { ip := "(" }) "Exporter.Name matches Exporter.IP" ⟨none, .empty⟩
    = some ⟨"Exporter.Name matches Exporter.IP", .invalidPattern "("⟩ := by
  decide +kernel

end Program

end LabelRules
