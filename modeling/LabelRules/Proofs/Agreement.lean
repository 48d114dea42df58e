import LabelRules.Proofs.Subjects

set_option autoImplicit false

/-! # Schemas and environments agree

The schema of a kind of rule and the environment of a subject of that kind are two descriptions of
one set of names. A declared function, called with any values, returns a boolean after it has been
given as many arguments as are declared, or it refuses the call: for their number, for an argument
that is no string, or for its pattern (`Capability.Responds`, `Subject.call_responds`). A function
that is not declared is unknown (`Subject.call_unknown`). A call that does not answer `true` has
written nothing (`Subject.call_onlyTrueWrites`). A field has a value exactly if it is declared, and
the value is of its type (`Subject.field_iff`).
-/

namespace LabelRules

variable {σ α : Type}

/-! ## Calls that answer `true` or write nothing -/

namespace Run

/-- The run leaves the output as it is. -/
def Keeps (x : Run σ α) : Prop := ∀ m, (x.exec m).2.output = m.output

theorem Keeps.ofExcept (r : Except RunError α) : Keeps (Run.ofExcept r : Run σ α) := by
  intro m
  rw [exec_ofExcept]

/-- If the run changes the output, it returns `true`. -/
def OnlyTrueWrites (x : Run σ Value) : Prop :=
  ∀ m, (x.exec m).1 = .ok (.bool true) ∨ (x.exec m).2.output = m.output

theorem OnlyTrueWrites.bind {x : Run σ α} {f : α → Run σ Value} (hx : x.Keeps)
    (hf : ∀ a, (f a).OnlyTrueWrites) : (x >>= f).OnlyTrueWrites := by
  intro m
  have hkeeps := hx m
  rw [exec_bind]
  rcases hexec : x.exec m with ⟨r, m'⟩
  rw [hexec] at hkeeps
  cases r with
  | error e => exact .inr hkeeps
  | ok a =>
      rcases hf a m' with htrue | hsame
      · exact .inl htrue
      · exact .inr (hsame.trans hkeeps)

end Run

namespace Capability

theorem record_onlyTrueWrites (write : String → σ → σ) (s : Option String) :
    (record write s).OnlyTrueWrites := by
  intro m
  cases s with
  | some s => exact .inl rfl
  | none => exact .inr rfl

/-! ## Calls that are refused -/

/-- Why a call of a declared function fails. -/
inductive Refuses (name : String) (arity : Nat) (args : List Value) : RunError → Prop
  | count (hcount : args.length ≠ arity) : Refuses name arity args (wrongArity name arity args)
  | argument {v : Value} {m : Mismatch} (hcount : args.length = arity) (hv : v ∈ args)
      (hm : v.asString = .error m) : Refuses name arity args (.mismatch m)
  | pattern {text : String} (hcount : args.length = arity) (hname : takesPattern name = true)
      (htext : .string text ∈ args) (hinvalid : Pattern.isValid text = false) :
      Refuses name arity args (.invalidPattern text)

/-- The call returns a boolean if it has as many arguments as it needs, or it is refused. -/
def Responds (name : String) (arity : Nat) (args : List Value) (call : Run σ Value) : Prop :=
  call.Ends (fun v => v.IsBool ∧ args.length = arity) (Refuses name arity args)

section Families

variable (name : String) (args : List Value)

/-- An argument that is to be a text. -/
theorem text_outcome (arity : Nat) {v : Value} (hcount : args.length = arity) (hv : v ∈ args) :
    Outcome (fun s => .string s ∈ args) (Refuses name arity args) (text v) := by
  unfold text
  cases htext : v.asString with
  | ok s =>
      obtain rfl := Value.asString_eq_ok_iff.1 htext
      exact hv
  | error m => exact .argument hcount hv htext

/-- The capabilities that record the text that they are given. -/
theorem record_text_responds (write : String → σ → σ) :
    Responds name 1 args (do
      let value ← Run.ofExcept (onlyText name args)
      record write (some value)) := by
  match args with
  | [v] =>
      refine .bind (.ofExcept (text_outcome name [v] 1 rfl (by simp))) fun s _ => ?_
      exact .bind .change fun _ _ => .pure ⟨⟨true, rfl⟩, rfl⟩
  | [] => exact .bind (P := fun _ => False) (.ofExcept (.count (by simp))) fun _ h => h.elim
  | _ :: _ :: _ =>
      exact .bind (P := fun _ => False) (.ofExcept (.count (by simp))) fun _ h => h.elim

/-- The capabilities that record a template filled from a match. -/
theorem record_template_responds (hname : takesPattern name = true) (write : String → σ → σ) :
    Responds name patternArity args (do
      let value ← filledTemplate name args
      record write value) := by
  match args with
  | [subject, pattern, template] =>
      have hargument {v : Value} (hv : v ∈ [subject, pattern, template]) :=
        text_outcome name [subject, pattern, template] patternArity rfl hv
      refine .bind (P := fun _ => True) ?_ fun s _ => ?_
      · refine .bind (.ofExcept (hargument (by simp))) fun _ _ => ?_
        refine .bind (.ofExcept (hargument (by simp))) fun _ _ => ?_
        refine .bind (.ofExcept (hargument (by simp))) fun text htext => ?_
        exact .bind (.pattern fun hinvalid => .pattern rfl hname htext hinvalid) fun _ _ =>
          .pure trivial
      · exact (record_ends write s).mono (fun _ hbool => ⟨hbool, rfl⟩) fun _ h => h
  | [] | [_] | [_, _] | _ :: _ :: _ :: _ :: _ =>
      exact .bind (P := fun _ => False) (.throw (.count (by simp [patternArity]))) fun _ h => h.elim

end Families

end Capability

namespace Environment

open Capability

/-- The capabilities that mark the boundary. -/
theorem markBoundary_responds (name : String) (args : List Value) (b : Boundary) :
    Responds name 0 args (markBoundary name args b) := by
  unfold markBoundary
  cases args with
  | nil => exact .bind_ok rfl (.bind .change fun _ _ => .pure ⟨⟨true, rfl⟩, rfl⟩)
  | cons v rest =>
      exact .bind (P := fun _ => False) (.ofExcept (.count (by simp))) fun _ h => h.elim

theorem markBoundary_onlyTrueWrites (name : String) (args : List Value) (b : Boundary) :
    (markBoundary name args b).OnlyTrueWrites :=
  .bind (.ofExcept _) fun _ _ => .inl rfl

/-! ## Exporters -/

theorem callForExporter_onlyTrueWrites (name : String) (args : List Value) :
    (callForExporter name args).OnlyTrueWrites := by
  unfold callForExporter
  split
  · exact .bind (.ofExcept _) fun _ => record_onlyTrueWrites _ _
  split
  · exact .bind (filledTemplate_output name args) fun _ => record_onlyTrueWrites _ _
  · exact fun _ => .inr rfl

theorem callForExporter_responds {name : String} {signature : Signature} (args : List Value)
    (h : (Schema.of .exporter).scope.signature? name = some signature) :
    Responds name signature.arity args (callForExporter name args) := by
  have hmem := Schema.mem_of_signature? h
  simp only [Schema.of, Schema.capability, List.mem_cons, Prod.mk.injEq, List.not_mem_nil,
    or_false] at hmem
  rcases hmem with ⟨rfl, rfl⟩ | ⟨rfl, rfl⟩
  · exact record_text_responds _ args _
  · exact record_template_responds _ args rfl _

theorem callForExporter_unknown {name : String} (args : List Value)
    (h : (Schema.of .exporter).scope.signature? name = none) :
    callForExporter name args = throw (.unknownFunction name) := by
  unfold callForExporter
  split
  · next hname =>
      subst hname
      cases h
  split
  · next hname =>
      subst hname
      cases h
  · rfl

/-! ## Interfaces -/

theorem callForInterface_onlyTrueWrites (name : String) (args : List Value) :
    (callForInterface name args).OnlyTrueWrites := by
  have htemplate : (filledTemplate name args : Run Labels _).Keeps :=
    filledTemplate_output name args
  unfold callForInterface
  split
  · exact .bind (.ofExcept _) fun _ => record_onlyTrueWrites _ _
  split
  · exact .bind (.ofExcept _) fun _ => record_onlyTrueWrites _ _
  split
  · exact .bind htemplate fun _ => record_onlyTrueWrites _ _
  split
  · exact .bind htemplate fun _ => record_onlyTrueWrites _ _
  split
  · exact markBoundary_onlyTrueWrites name args _
  split
  · exact markBoundary_onlyTrueWrites name args _
  · exact fun _ => .inr rfl

theorem callForInterface_responds {name : String} {signature : Signature} (args : List Value)
    (h : (Schema.of .interface).scope.signature? name = some signature) :
    Responds name signature.arity args (callForInterface name args) := by
  have hmem := Schema.mem_of_signature? h
  simp only [Schema.of, Schema.capability, List.mem_cons, Prod.mk.injEq, List.not_mem_nil,
    or_false] at hmem
  rcases hmem with ⟨rfl, rfl⟩ | ⟨rfl, rfl⟩ | ⟨rfl, rfl⟩ | ⟨rfl, rfl⟩ | ⟨rfl, rfl⟩ | ⟨rfl, rfl⟩
  · exact record_text_responds _ args _
  · exact record_template_responds _ args rfl _
  · exact markBoundary_responds _ args _
  · exact markBoundary_responds _ args _
  · exact record_text_responds _ args _
  · exact record_template_responds _ args rfl _

theorem callForInterface_unknown {name : String} (args : List Value)
    (h : (Schema.of .interface).scope.signature? name = none) :
    callForInterface name args = throw (.unknownFunction name) := by
  have hne : ∀ {declared : String},
      ((Schema.of .interface).scope.signature? declared).isSome = true → name ≠ declared := by
    rintro declared hdeclared rfl
    rw [h] at hdeclared
    cases hdeclared
  unfold callForInterface
  rw [if_neg (hne rfl), if_neg (hne rfl), if_neg (hne rfl), if_neg (hne rfl), if_neg (hne rfl),
    if_neg (hne rfl)]

end Environment

/-! ## Fields -/

theorem Exporter.field?_eq_some_iff {exporter : Exporter} {name : String} {v : Value} :
    exporter.field? name = some v ↔
      (name = "IP" ∧ v = .string exporter.ip) ∨ (name = "Name" ∧ v = .string exporter.name) := by
  unfold field?
  grind

theorem Interface.field?_eq_some_iff {interface : Interface} {name : String} {v : Value} :
    interface.field? name = some v ↔
      (name = "Name" ∧ v = .string interface.name)
        ∨ (name = "Description" ∧ v = .string interface.description)
        ∨ (name = "Speed" ∧ v = .number interface.speed.toFloat) := by
  unfold field?
  grind

namespace Environment

section Fields

variable {exporter : Exporter} {interface : Interface} {variableName field : String} {v : Value}
  {t : Ty}

theorem exporterField_eq_ok_iff :
    exporterField exporter field = .ok v ↔ exporter.field? field = some v := by
  unfold exporterField
  cases exporter.field? field <;> simp

theorem interfaceField_eq_ok_iff :
    interfaceField interface field = .ok v ↔ interface.field? field = some v := by
  unfold interfaceField
  cases interface.field? field <;> simp

/-- The fields of an exporter, under any environment's names. -/
theorem exporterField_type {kind : Kind} (h : exporterField exporter field = .ok v) :
    (Schema.of kind).scope.fieldType? ("Exporter" ++ "." ++ field) = some v.type := by
  rcases Exporter.field?_eq_some_iff.1 (exporterField_eq_ok_iff.1 h) with ⟨rfl, rfl⟩ | ⟨rfl, rfl⟩
  · cases kind <;> rfl
  · cases kind <;> rfl

theorem interfaceField_type (h : interfaceField interface field = .ok v) :
    (Schema.of .interface).scope.fieldType? ("Interface" ++ "." ++ field) = some v.type := by
  rcases Interface.field?_eq_some_iff.1 (interfaceField_eq_ok_iff.1 h) with
    ⟨rfl, rfl⟩ | ⟨rfl, rfl⟩ | ⟨rfl, rfl⟩
  · rfl
  · rfl
  · rfl

/-- The names in a declared path. -/
theorem eq_of_path (x f : String) (hx : '.' ∉ x.toList) (hf : '.' ∉ f.toList)
    (h : variableName ++ "." ++ field = x ++ "." ++ f) : variableName = x ∧ field = f := by
  have hpath : ".".intercalate [variableName, field] = x ++ "." ++ f := by
    rw [String.intercalate_cons_cons, String.intercalate_singleton, h]
  have hpair := eq_pair_of_intercalate hx hf (by simp) hpath
  simpa using hpair

theorem ofExporter_field_iff (exporter : Exporter) (variableName field : String) (t : Ty) :
    (∃ v, (ofExporter exporter).field variableName field = .ok v ∧ v.type = t) ↔
      (Schema.of .exporter).scope.fieldType? (variableName ++ "." ++ field) = some t := by
  constructor
  · rintro ⟨v, hv, rfl⟩
    simp only [ofExporter] at hv
    split at hv
    · next hname =>
        subst hname
        exact exporterField_type hv
    · cases hv
  · intro h
    have hmem := Schema.mem_of_fieldType? h
    simp only [Schema.of, List.mem_cons, Prod.mk.injEq, List.not_mem_nil, or_false] at hmem
    rcases hmem with ⟨hpath, rfl⟩ | ⟨hpath, rfl⟩
    · obtain ⟨rfl, rfl⟩ := eq_of_path "Exporter" "IP" (by decide) (by decide) hpath
      exact ⟨_, rfl, rfl⟩
    · obtain ⟨rfl, rfl⟩ := eq_of_path "Exporter" "Name" (by decide) (by decide) hpath
      exact ⟨_, rfl, rfl⟩

theorem ofInterface_field_iff (exporter : Exporter) (interface : Interface)
    (variableName field : String) (t : Ty) :
    (∃ v, (ofInterface exporter interface).field variableName field = .ok v ∧ v.type = t) ↔
      (Schema.of .interface).scope.fieldType? (variableName ++ "." ++ field) = some t := by
  constructor
  · rintro ⟨v, hv, rfl⟩
    simp only [ofInterface] at hv
    split at hv
    · next hname =>
        subst hname
        exact exporterField_type hv
    split at hv
    · next hname =>
        subst hname
        exact interfaceField_type hv
    · cases hv
  · intro h
    have hmem := Schema.mem_of_fieldType? h
    simp only [Schema.of, List.mem_cons, Prod.mk.injEq, List.not_mem_nil, or_false] at hmem
    rcases hmem with ⟨hpath, rfl⟩ | ⟨hpath, rfl⟩ | ⟨hpath, rfl⟩ | ⟨hpath, rfl⟩ | ⟨hpath, rfl⟩
    · obtain ⟨rfl, rfl⟩ := eq_of_path "Exporter" "IP" (by decide) (by decide) hpath
      exact ⟨_, rfl, rfl⟩
    · obtain ⟨rfl, rfl⟩ := eq_of_path "Exporter" "Name" (by decide) (by decide) hpath
      exact ⟨_, rfl, rfl⟩
    · obtain ⟨rfl, rfl⟩ := eq_of_path "Interface" "Description" (by decide) (by decide) hpath
      exact ⟨_, rfl, rfl⟩
    · obtain ⟨rfl, rfl⟩ := eq_of_path "Interface" "Name" (by decide) (by decide) hpath
      exact ⟨_, rfl, rfl⟩
    · obtain ⟨rfl, rfl⟩ := eq_of_path "Interface" "Speed" (by decide) (by decide) hpath
      exact ⟨_, rfl, rfl⟩

end Fields

end Environment

/-! ## Subjects -/

namespace Subject

open Capability

variable (x : Subject) (name : String) (args : List Value)

theorem call_onlyTrueWrites : (x.environment.call name args).OnlyTrueWrites := by
  cases x with
  | exporter e => exact Environment.callForExporter_onlyTrueWrites name args
  | interface e i => exact Environment.callForInterface_onlyTrueWrites name args

variable {name}

theorem call_responds {signature : Signature}
    (h : (Schema.of x.kind).scope.signature? name = some signature) :
    Responds name signature.arity args (x.environment.call name args) := by
  cases x with
  | exporter e => exact Environment.callForExporter_responds args h
  | interface e i => exact Environment.callForInterface_responds args h

theorem call_unknown (h : (Schema.of x.kind).scope.signature? name = none) :
    x.environment.call name args = throw (.unknownFunction name) := by
  cases x with
  | exporter e => exact Environment.callForExporter_unknown args h
  | interface e i => exact Environment.callForInterface_unknown args h

theorem field_iff (variableName field : String) (t : Ty) :
    (∃ v, x.environment.field variableName field = .ok v ∧ v.type = t) ↔
      (Schema.of x.kind).scope.fieldType? (variableName ++ "." ++ field) = some t := by
  cases x with
  | exporter e => exact Environment.ofExporter_field_iff e variableName field t
  | interface e i => exact Environment.ofInterface_field_iff e i variableName field t

/-! ## What a call ends with -/

/-- A declared function is not unknown, whatever it is called with. -/
theorem call_unknownFunction_iff (name : String) (m : Memory x.Output) (other : String) :
    ((x.environment.call name args).exec m).1 = .error (.unknownFunction other) ↔
      other = name ∧ (Schema.of x.kind).scope.signature? name = none := by
  cases h : (Schema.of x.kind).scope.signature? name with
  | none =>
      rw [x.call_unknown args h, Run.exec_throw]
      simp [eq_comm]
  | some signature =>
      refine ⟨fun hresult => ?_, fun hnone => by cases hnone.2⟩
      have hends := x.call_responds args h m
      rw [hresult] at hends
      cases hends

/-- A declared function needs its number of arguments. -/
theorem call_of_length_ne {signature : Signature}
    (h : (Schema.of x.kind).scope.signature? name = some signature)
    (hcount : args.length ≠ signature.arity) (m : Memory x.Output) :
    ((x.environment.call name args).exec m).1
      = .error (.invalidOperation (.arity name signature.arity args.length)) := by
  have hends := (x.call_responds args h m).eq
  cases hresult : ((x.environment.call name args).exec m).1 with
  | ok v =>
      rw [hresult] at hends
      exact absurd hends.2.2 hcount
  | error e =>
      rw [hresult] at hends
      cases hends.2 with
      | count => rfl
      | argument hlength | pattern hlength => exact absurd hlength hcount

/-- With as many strings as it needs, a declared function answers, unless its pattern is none. -/
theorem call_of_strings {signature : Signature}
    (h : (Schema.of x.kind).scope.signature? name = some signature)
    (hcount : args.length = signature.arity) (hstrings : ∀ v ∈ args, ∃ s, v = .string s)
    (m : Memory x.Output) :
    Outcome Value.IsBool (fun e => (∃ text, e = .invalidPattern text) ∧ takesPattern name = true)
      ((x.environment.call name args).exec m).1 := by
  refine (x.call_responds args h m).mono (fun v hv => hv.1) fun e he => ?_
  cases he with
  | count hne => exact absurd hcount hne
  | argument _ hv hm =>
      obtain ⟨s, rfl⟩ := hstrings _ hv
      cases hm
  | pattern _ hname => exact ⟨⟨_, rfl⟩, hname⟩

/-- **Schemas and environments agree.** In the environment of a subject, whatever has been written
and whatever is in the cache, a function is unknown exactly if the schema of the kind does not
declare it. A declared function fails with the number of its arguments if that is wrong; given the
right number of strings, it returns a boolean or fails with its pattern, the latter only if its name
ends in `Regex`. A call that fails, or that answers `false` and takes a pattern, leaves the output
as it was. A field of a variable has a value of a type exactly if the schema declares the path of the
two names with this type. -/
theorem environment_agrees :
    (∀ name args m,
      (∀ other, ((x.environment.call name args).exec m).1 = .error (.unknownFunction other) ↔
        other = name ∧ (Schema.of x.kind).scope.signature? name = none)
      ∧ (∀ signature, (Schema.of x.kind).scope.signature? name = some signature →
        (args.length ≠ signature.arity →
          ((x.environment.call name args).exec m).1
            = .error (.invalidOperation (.arity name signature.arity args.length)))
        ∧ (args.length = signature.arity → (∀ v ∈ args, ∃ s, v = .string s) →
          Outcome Value.IsBool
            (fun e => (∃ text, e = .invalidPattern text) ∧ takesPattern name = true)
            ((x.environment.call name args).exec m).1))
      ∧ ((∃ e, ((x.environment.call name args).exec m).1 = .error e)
          ∨ (takesPattern name = true
            ∧ ((x.environment.call name args).exec m).1 = .ok (.bool false)) →
        ((x.environment.call name args).exec m).2.output = m.output))
    ∧ ∀ variableName field t,
      (∃ v, x.environment.field variableName field = .ok v ∧ v.type = t) ↔
        (Schema.of x.kind).scope.fieldType? (variableName ++ "." ++ field) = some t := by
  refine ⟨fun name args m => ⟨?_, ?_, ?_⟩, x.field_iff⟩
  · exact x.call_unknownFunction_iff args name m
  · intro signature h
    exact ⟨fun hcount => x.call_of_length_ne args h hcount m,
      fun hcount hstrings => x.call_of_strings args h hcount hstrings m⟩
  · intro hresult
    rcases x.call_onlyTrueWrites name args m with htrue | hsame
    · rw [htrue] at hresult
      rcases hresult with ⟨e, he⟩ | ⟨-, hfalse⟩
      · cases he
      · cases hfalse
    · exact hsame

end Subject

end LabelRules
