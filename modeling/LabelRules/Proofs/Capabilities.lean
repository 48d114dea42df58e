import LabelRules.Proofs.Outcome

set_option autoImplicit false

/-! # What capabilities do

A capability looks at its arguments, fetches a pattern at most, and writes the output; it does not
look at the output. So its calls are in step along every relation that fetching and its writes
preserve (`callForExporter_inStep`, `callForInterface_inStep`). A pattern is fetched only if the
subject, the pattern and the template are all strings (`filledTemplate_cases`). Given strings, a
capability fails only with its pattern (`filledTemplate_ends`), and what it records it answers with
a boolean (`record_ends`).
-/

namespace LabelRules

variable {σ τ : Type}

/-- A relation of memories that writing on both sides preserves. -/
def WriteStable (R : Memory σ → Memory τ → Prop) (f : σ → σ) (g : τ → τ) : Prop :=
  ∀ (m : Memory σ) (m' : Memory τ), R m m' → R ⟨f m.output, m.cache⟩ ⟨g m'.output, m'.cache⟩

namespace Capability

/-! ## Calls in step -/

section InStep

variable {R : Memory σ → Memory τ → Prop}

theorem filledTemplate_inStep (hR : FetchStable R) (name : String) (args : List Value) :
    Run.InStep R (filledTemplate name args) (filledTemplate name args) := by
  unfold filledTemplate
  split
  · exact .bind (.ofExcept _) fun _ => .bind (.ofExcept _) fun _ => .bind (.ofExcept _) fun _ =>
      .bind (.pattern hR _) fun _ => .pure _
  · exact .throw _

/-- Looking at the arguments and at the pattern leaves the output as it is. -/
theorem filledTemplate_output (name : String) (args : List Value) (m : Memory σ) :
    ((filledTemplate name args).exec m).2.output = m.output :=
  (filledTemplate_inStep (R := fun n _ : Memory σ => n.output = m.output) (fun _ _ _ h => h) name
    args m m rfl).2

theorem record_inStep {write : String → σ → σ} {write' : String → τ → τ}
    (h : ∀ s, WriteStable R (write s) (write' s)) (s : Option String) :
    Run.InStep R (record write s) (record write' s) := by
  cases s with
  | some s => exact .bind (.change (h s)) fun _ => .pure _
  | none => exact .pure _

end InStep

/-! ## Texts as arguments -/

theorem text_cases (v : Value) :
    (∃ s, v = .string s) ∨ (∀ s, v ≠ .string s) ∧ ∃ e, text v = .error e := by
  cases v with
  | string s => exact .inl ⟨s, rfl⟩
  | nil | bool | number | array => exact .inr ⟨nofun, _, rfl⟩

/-- The subject, the pattern and the template, if these are the arguments and all are strings. -/
def patternArguments? : List Value → Option (String × String × String)
  | [.string subject, .string text, .string template] => some (subject, text, template)
  | _ => none

theorem patternArguments?_eq_some_iff {args : List Value} {subject text template : String} :
    patternArguments? args = some (subject, text, template) ↔
      args = [.string subject, .string text, .string template] := by
  constructor
  · intro h
    unfold patternArguments? at h
    split at h
    · cases h
      rfl
    · cases h
  · rintro rfl
    rfl

theorem patternArguments?_eq_none {args : List Value}
    (h : ∀ subject text template, args ≠ [.string subject, .string text, .string template]) :
    patternArguments? args = none := by
  unfold patternArguments?
  split
  · next subject text template => exact absurd rfl (h subject text template)
  · rfl

/-- All that a capability that takes a pattern can do before it records: with three strings it
fetches the second one, with anything else it fails at once. -/
theorem filledTemplate_cases (name : String) (args : List Value) :
    (∃ subject text template, patternArguments? args = some (subject, text, template)
        ∧ (filledTemplate name args : Run σ (Option String)) = (do
          return (← Run.pattern text).expand? subject template))
      ∨ patternArguments? args = none
        ∧ ∃ e, (filledTemplate name args : Run σ (Option String)) = throw e := by
  match args with
  | [subject, pattern, template] =>
      -- The template is looked at before the pattern.
      rcases text_cases subject with ⟨s, rfl⟩ | ⟨hs, e, he⟩
      · rcases text_cases template with ⟨t, rfl⟩ | ⟨ht, e, he⟩
        · rcases text_cases pattern with ⟨p, rfl⟩ | ⟨hp, e, he⟩
          · exact .inl ⟨s, p, t, rfl, rfl⟩
          · refine .inr ⟨patternArguments?_eq_none ?_, e, ?_⟩
            · rintro _ p _ ⟨⟩
              exact hp p rfl
            · simp only [filledTemplate, he]
              rfl
        · refine .inr ⟨patternArguments?_eq_none ?_, e, ?_⟩
          · rintro _ _ t ⟨⟩
            exact ht t rfl
          · simp only [filledTemplate, he]
            rfl
      · refine .inr ⟨patternArguments?_eq_none ?_, e, ?_⟩
        · rintro s _ _ ⟨⟩
          exact hs s rfl
        · simp only [filledTemplate, he]
          rfl
  | [] | [_] | [_, _] | _ :: _ :: _ :: _ :: _ =>
      exact .inr ⟨patternArguments?_eq_none (by rintro _ _ _ ⟨⟩), _, rfl⟩

/-! ## Calls with strings -/

/-- The pattern among the arguments of a call is none. -/
def PatternFails (name : String) (args : List Value) (e : RunError) : Prop :=
  ∃ subject text template, takesPattern name = true ∧ args = [subject, .string text, template]
    ∧ e = .invalidPattern text ∧ Pattern.isValid text = false

theorem filledTemplate_ends {name : String} (hname : takesPattern name = true)
    (subject text template : String) :
    (filledTemplate name [.string subject, .string text, .string template] :
        Run σ (Option String)).Ends (fun _ => True)
      (PatternFails name [.string subject, .string text, .string template]) := by
  refine .bind_ok rfl (.bind_ok rfl (.bind_ok rfl (.bind (.pattern fun h => ?_) fun _ _ => ?_)))
  · exact ⟨.string subject, text, .string template, hname, rfl, rfl, h⟩
  · exact .pure trivial

theorem record_ends (write : String → σ → σ) (s : Option String) {E : RunError → Prop} :
    (record write s : Run σ Value).Ends (fun v => ∃ b, v = .bool b) E := by
  cases s with
  | some s => exact .bind .change fun _ _ => .pure ⟨true, rfl⟩
  | none => exact .pure ⟨false, rfl⟩

end Capability

namespace Environment

open Capability

/-! ## Exporters -/

theorem callForExporter_inStep {R : Memory (Option String) → Memory (Option String) → Prop}
    (hR : FetchStable R) (hwrite : ∀ s, WriteStable R (fun _ => some s) (fun _ => some s))
    (name : String) (args : List Value) :
    Run.InStep R (callForExporter name args) (callForExporter name args) := by
  unfold callForExporter
  split
  · exact .bind (.ofExcept _) fun _ => record_inStep hwrite _
  split
  · exact .bind (filledTemplate_inStep hR name args) fun _ => record_inStep hwrite _
  · exact .throw _

/-! ## Interfaces -/

theorem markBoundary_inStep {R : Memory Labels → Memory Labels → Prop} {b : Boundary}
    (hwrite : WriteStable R (writeBoundary b) (writeBoundary b)) (name : String)
    (args : List Value) : Run.InStep R (markBoundary name args b) (markBoundary name args b) :=
  .bind (.ofExcept _) fun _ => .bind (.change hwrite) fun _ => .pure _

theorem callForInterface_inStep {R : Memory Labels → Memory Labels → Prop} (hR : FetchStable R)
    (hconnectivity : ∀ s, WriteStable R (writeConnectivity s) (writeConnectivity s))
    (hprovider : ∀ s, WriteStable R (writeProvider s) (writeProvider s))
    (hboundary : ∀ b, WriteStable R (writeBoundary b) (writeBoundary b))
    (name : String) (args : List Value) :
    Run.InStep R (callForInterface name args) (callForInterface name args) := by
  have htemplate := filledTemplate_inStep hR name args
  unfold callForInterface
  split
  · exact .bind (.ofExcept _) fun _ => record_inStep hconnectivity _
  split
  · exact .bind (.ofExcept _) fun _ => record_inStep hprovider _
  split
  · exact .bind htemplate fun _ => record_inStep hconnectivity _
  split
  · exact .bind htemplate fun _ => record_inStep hprovider _
  split
  · exact markBoundary_inStep (hboundary _) name args
  split
  · exact markBoundary_inStep (hboundary _) name args
  · exact .throw _

end Environment

end LabelRules
