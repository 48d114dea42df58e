import LabelRules.Proofs.Capabilities
import LabelRules.Proofs.Conformance
import LabelRules.Proofs.Schemas

set_option autoImplicit false

/-! # Environments that serve a scope

An environment serves a scope if each field that the scope declares has a value of its type, and
each function, called with arguments of the types of its parameters, returns a value of its type or
fails with its pattern (`Environment.Serves`). Each kind of rule runs on subjects of that kind
(`Subject`), and their environments serve the scope of the schema (`Subject.environment_serves`).
-/

namespace LabelRules

/-! ## Subjects -/

/-- What a rule runs on. -/
inductive Subject where
  | exporter (exporter : Exporter)
  | interface (exporter : Exporter) (interface : Interface)
  deriving DecidableEq, Repr, Inhabited

namespace Subject

def kind : Subject → Kind
  | .exporter _ => .exporter
  | .interface _ _ => .interface

/-- What the rules for a subject write. -/
def Output : Subject → Type
  | .exporter _ => Option String
  | .interface _ _ => Labels

/-- The environment of the rules for a subject. -/
def environment : (x : Subject) → Environment x.Output
  | .exporter e => .ofExporter e
  | .interface e i => .ofInterface e i

theorem kind_environment (x : Subject) : x.environment.kind = x.kind := by
  cases x <;> rfl

end Subject

/-! ## What a scope promises -/

variable {σ : Type}

/-- The environment has what the scope declares, and what it does depends on no memory. -/
structure Environment.Serves (env : Environment σ) (s : Scope) : Prop where
  steady : env.InStep (fun _ _ => True) env
  field : ∀ {path : List String} {t : Ty}, path.length ≠ 1 →
    s.fieldType? (".".intercalate path) = some t →
    ∃ x f v, path = [x, f] ∧ env.field x f = .ok v ∧ v.Conforms t
  call : ∀ {name : String} {signature : Signature} {args : List Value},
    s.signature? name = some signature → List.Forall₂ Value.Respects args signature.params →
    (env.call name args).Ends (fun v => v.Conforms signature.returns)
      (Capability.PatternFails name args)

/-! ## Arguments -/

namespace Value

variable {args : List Value}

theorem respects_nil (h : List.Forall₂ Respects args []) : args = [] := by
  cases h
  rfl

theorem respects_one (h : List.Forall₂ Respects args [.string]) : ∃ s, args = [.string s] := by
  obtain ⟨_, _, ⟨s, rfl⟩, hrest, rfl⟩ := List.forall₂_cons_right_iff.1 h
  obtain rfl := respects_nil hrest
  exact ⟨s, rfl⟩

theorem respects_patternParams (h : List.Forall₂ Respects args Schema.patternParams) :
    ∃ subject text template, args = [.string subject, .string text, .string template] := by
  obtain ⟨_, _, ⟨subject, rfl⟩, htwo, rfl⟩ := List.forall₂_cons_right_iff.1 h
  obtain ⟨_, _, ⟨text, rfl⟩, hone, rfl⟩ := List.forall₂_cons_right_iff.1 htwo
  obtain ⟨template, rfl⟩ := respects_one hone
  exact ⟨subject, text, template, rfl⟩

end Value

namespace Environment

open Capability

/-- A field found under a path joined with dots. -/
theorem field_of_path {env : Environment σ} {path : List String} {v : Value} {t : Ty}
    (x f : String) (hx : '.' ∉ x.toList) (hf : '.' ∉ f.toList) (hlength : path.length ≠ 1)
    (hpath : ".".intercalate path = x ++ "." ++ f) (hv : env.field x f = .ok v)
    (ht : v.Conforms t) : ∃ x f v, path = [x, f] ∧ env.field x f = .ok v ∧ v.Conforms t :=
  ⟨x, f, v, eq_pair_of_intercalate hx hf hlength hpath, hv, ht⟩

/-! ## Exporters -/

theorem callForExporter_ends {name : String} {signature : Signature} {args : List Value}
    (hname : (Schema.of .exporter).scope.signature? name = some signature)
    (hargs : List.Forall₂ Value.Respects args signature.params) :
    (callForExporter name args).Ends (fun v => v.Conforms signature.returns)
      (PatternFails name args) := by
  have hmem := Schema.mem_of_signature? hname
  simp only [Schema.of, Schema.capability, List.mem_cons, Prod.mk.injEq, List.not_mem_nil,
    or_false] at hmem
  rcases hmem with ⟨rfl, rfl⟩ | ⟨rfl, rfl⟩
  · obtain ⟨s, rfl⟩ := Value.respects_one hargs
    exact .bind_ok (a := s) rfl (record_ends _ _)
  · obtain ⟨subject, text, template, rfl⟩ := Value.respects_patternParams hargs
    exact .bind (filledTemplate_ends rfl subject text template) fun _ _ => record_ends _ _

/-- An exporter has the fields that the schema declares. -/
theorem ofExporter_field (exporter : Exporter) {path : List String} {t : Ty}
    (hlength : path.length ≠ 1)
    (h : (Schema.of .exporter).scope.fieldType? (".".intercalate path) = some t) :
    ∃ x f v, path = [x, f] ∧ (ofExporter exporter).field x f = .ok v ∧ v.Conforms t := by
  have hmem := Schema.mem_of_fieldType? h
  simp only [Schema.of, List.mem_cons, Prod.mk.injEq, List.not_mem_nil, or_false] at hmem
  rcases hmem with ⟨hpath, rfl⟩ | ⟨hpath, rfl⟩
  · exact field_of_path "Exporter" "IP" (by decide) (by decide) hlength hpath rfl ⟨_, rfl⟩
  · exact field_of_path "Exporter" "Name" (by decide) (by decide) hlength hpath rfl ⟨_, rfl⟩

theorem ofExporter_serves (exporter : Exporter) :
    (ofExporter exporter).Serves (Schema.of .exporter).scope where
  steady := {
    kind := rfl
    field := rfl
    call := callForExporter_inStep (fun _ _ _ _ => trivial) fun _ _ _ _ => trivial
    fetch := fun _ _ _ _ => trivial }
  field := ofExporter_field exporter
  call := callForExporter_ends

/-! ## Interfaces -/

theorem callForInterface_ends {name : String} {signature : Signature} {args : List Value}
    (hname : (Schema.of .interface).scope.signature? name = some signature)
    (hargs : List.Forall₂ Value.Respects args signature.params) :
    (callForInterface name args).Ends (fun v => v.Conforms signature.returns)
      (PatternFails name args) := by
  have hmem := Schema.mem_of_signature? hname
  simp only [Schema.of, Schema.capability, List.mem_cons, Prod.mk.injEq, List.not_mem_nil,
    or_false] at hmem
  -- A capability takes one text, or a text with a pattern and a template, or nothing.
  rcases hmem with ⟨rfl, rfl⟩ | ⟨rfl, rfl⟩ | ⟨rfl, rfl⟩ | ⟨rfl, rfl⟩ | ⟨rfl, rfl⟩ | ⟨rfl, rfl⟩
  · obtain ⟨s, rfl⟩ := Value.respects_one hargs
    exact .bind_ok (a := s) rfl (record_ends _ _)
  · obtain ⟨subject, text, template, rfl⟩ := Value.respects_patternParams hargs
    exact .bind (filledTemplate_ends rfl subject text template) fun _ _ => record_ends _ _
  · obtain rfl := Value.respects_nil hargs
    exact .bind_ok (a := ()) rfl (.bind .change fun _ _ => .pure ⟨true, rfl⟩)
  · obtain rfl := Value.respects_nil hargs
    exact .bind_ok (a := ()) rfl (.bind .change fun _ _ => .pure ⟨true, rfl⟩)
  · obtain ⟨s, rfl⟩ := Value.respects_one hargs
    exact .bind_ok (a := s) rfl (record_ends _ _)
  · obtain ⟨subject, text, template, rfl⟩ := Value.respects_patternParams hargs
    exact .bind (filledTemplate_ends rfl subject text template) fun _ _ => record_ends _ _

/-- An interface has the fields that the schema declares, its own and those of its exporter. -/
theorem ofInterface_field (exporter : Exporter) (interface : Interface) {path : List String}
    {t : Ty} (hlength : path.length ≠ 1)
    (h : (Schema.of .interface).scope.fieldType? (".".intercalate path) = some t) :
    ∃ x f v, path = [x, f] ∧ (ofInterface exporter interface).field x f = .ok v
      ∧ v.Conforms t := by
  have hmem := Schema.mem_of_fieldType? h
  simp only [Schema.of, List.mem_cons, Prod.mk.injEq, List.not_mem_nil, or_false] at hmem
  rcases hmem with ⟨hpath, rfl⟩ | ⟨hpath, rfl⟩ | ⟨hpath, rfl⟩ | ⟨hpath, rfl⟩ | ⟨hpath, rfl⟩
  · exact field_of_path "Exporter" "IP" (by decide) (by decide) hlength hpath rfl ⟨_, rfl⟩
  · exact field_of_path "Exporter" "Name" (by decide) (by decide) hlength hpath rfl ⟨_, rfl⟩
  · exact field_of_path "Interface" "Description" (by decide) (by decide) hlength hpath rfl
      ⟨_, rfl⟩
  · exact field_of_path "Interface" "Name" (by decide) (by decide) hlength hpath rfl ⟨_, rfl⟩
  · exact field_of_path "Interface" "Speed" (by decide) (by decide) hlength hpath rfl
      (.inr ⟨_, rfl⟩)

theorem ofInterface_serves (exporter : Exporter) (interface : Interface) :
    (ofInterface exporter interface).Serves (Schema.of .interface).scope where
  steady := {
    kind := rfl
    field := rfl
    call := callForInterface_inStep (fun _ _ _ _ => trivial) (fun _ _ _ _ => trivial)
      (fun _ _ _ _ => trivial) fun _ _ _ _ => trivial
    fetch := fun _ _ _ _ => trivial }
  field := ofInterface_field exporter interface
  call := callForInterface_ends

end Environment

/-- **Environments keep the promises of their schemas.** -/
theorem Subject.environment_serves (x : Subject) :
    x.environment.Serves (Schema.of x.kind).scope := by
  cases x with
  | exporter e => exact Environment.ofExporter_serves e
  | interface e i => exact Environment.ofInterface_serves e i

end LabelRules
