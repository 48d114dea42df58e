import LabelRules.Program

set_option autoImplicit false

/-! # Invalid patterns are refused together

The compiler walks over the whole expression before it looks at names and types, and notes every
pattern that is written out and invalid. So a text that parses is refused for its patterns exactly
if one of them is invalid, whatever else is wrong with it, and the error lists all of them, in the
order of the walk and with repetitions (`Program.compile_invalidPatterns`).
-/

namespace LabelRules

namespace Program

variable {kind : Kind} {source : String} {e : Expr} {patterns : List String}

/-- Invalid patterns count before what the checker says. -/
theorem expression_of_invalidPatterns (h : parse source = .ok e) (hne : e.invalidPatterns ≠ []) :
    expression kind source = .error (.invalidPatterns e.invalidPatterns) := by
  unfold expression
  simp only [h, e.refusedPatterns_eq]
  rw [if_pos hne]

/-- Only invalid patterns of the expression are complained about, and all of them. -/
theorem invalidPatterns_of_expression (h : parse source = .ok e)
    (hfault : expression kind source = .error (.invalidPatterns patterns)) :
    patterns = e.invalidPatterns ∧ patterns ≠ [] := by
  unfold expression at hfault
  simp only [h, e.refusedPatterns_eq] at hfault
  split at hfault
  · next hne =>
      cases hfault
      exact ⟨rfl, hne⟩
  -- Without invalid patterns the fault is the checker's or that of a type that is not `bool`.
  · split at hfault
    · cases hfault
    · split at hfault
      · cases hfault
      · cases hfault

theorem compile_eq_error_iff {error : CompileError} :
    compile kind source = .error error ↔
      error.kind = kind ∧ error.rule = source ∧ expression kind source = .error error.fault := by
  obtain ⟨k, s, fault⟩ := error
  unfold compile
  cases expression kind source with
  | error fault' => simp [eq_comm]
  | ok e' => simp

/-- **Invalid patterns are refused together and first.** A text that parses does not compile because
of its invalid patterns exactly if it has some, whatever names it mentions and whatever the types of
its parts are; the error lists every string literal that stands as a pattern and is none, in
post-order and with repetitions. Without such literals, patterns are never the reason. -/
theorem compile_invalidPatterns (h : parse source = .ok e) (kind : Kind) :
    (compile kind source = .error ⟨kind, source, .invalidPatterns e.invalidPatterns⟩
        ↔ e.invalidPatterns ≠ [])
      ∧ ∀ error patterns, compile kind source = .error error →
        error.fault = .invalidPatterns patterns →
        patterns = e.invalidPatterns ∧ e.invalidPatterns ≠ [] := by
  have honly : ∀ error patterns, compile kind source = .error error →
      error.fault = .invalidPatterns patterns →
      patterns = e.invalidPatterns ∧ e.invalidPatterns ≠ [] := by
    intro error patterns hcompile hfault
    obtain ⟨-, -, hexpression⟩ := compile_eq_error_iff.1 hcompile
    rw [hfault] at hexpression
    obtain ⟨rfl, hne⟩ := invalidPatterns_of_expression h hexpression
    exact ⟨rfl, hne⟩
  refine ⟨⟨fun hcompile => (honly _ _ hcompile rfl).2, fun hne => ?_⟩, honly⟩
  exact compile_eq_error_iff.2 ⟨rfl, rfl, expression_of_invalidPatterns h hne⟩

/-- A text in which patterns stand in an argument of another pattern call, in an array and in a
branch, and next to an unknown function; two of them are the same. -/
def patternsEverywhere : String :=
  "classifyRegex(nope(), classifyRegex(1, \"(a\", 2), \"x\") ? [\"x\" matches \"[b\"] "
    ++ ": classifyRegex(Exporter.Name, \"(a\", \"(c\")"

/-- All three are listed, for both kinds, though the text has no type. -/
theorem compile_invalidPatterns_everywhere :
    ∃ e, parse patternsEverywhere = .ok e
      ∧ e.invalidPatterns = ["(a", "[b", "(a"]
      ∧ ∀ kind, (infer (Schema.of kind).scope e).isOk = false
        ∧ compile kind patternsEverywhere
          = .error ⟨kind, patternsEverywhere, .invalidPatterns ["(a", "[b", "(a"]⟩ := by
  have hcheck : ((parse patternsEverywhere).toOption.map fun e =>
      (e.invalidPatterns, (infer (Schema.of .exporter).scope e).isOk,
        (infer (Schema.of .interface).scope e).isOk))
        = some (["(a", "[b", "(a"], false, false) := by
    decide +kernel
  cases hparse : parse patternsEverywhere with
  | error error =>
      rw [hparse] at hcheck
      cases hcheck
  | ok e =>
      rw [hparse] at hcheck
      simp only [Except.toOption, Option.map_some, Option.some.injEq, Prod.mk.injEq] at hcheck
      obtain ⟨hpatterns, hexporter, hinterface⟩ := hcheck
      refine ⟨e, rfl, hpatterns, fun kind => ⟨?_, ?_⟩⟩
      · cases kind
        · exact hexporter
        · exact hinterface
      · rw [← hpatterns]
        exact (compile_invalidPatterns hparse kind).1.2 (by simp [hpatterns])

end Program

end LabelRules
