import LabelRules.Proofs.Reach

set_option autoImplicit false

/-! # The fields that matter

A run looks at a field only where the expression has its path, and calls a function only where the
expression calls it. Two environments that agree on the nodes of an expression are the same to it
(`evaluate_congr`), so two subjects that agree on the paths in an expression have the same runs,
with the same output and the same cache (`Program.run_eq_of_agree`): what a rule does not mention
cannot leak into its result.
-/

namespace LabelRules

/-! ## Paths -/

/-- The path occurs in the expression. -/
def Expr.Mentions (e : Expr) (path : List String) : Prop := .field path ∈ e.postorder

/-- Two exporters agree on the fields that an expression mentions. -/
def Exporter.AgreesOn (e : Expr) (x y : Exporter) : Prop :=
  ∀ name, e.Mentions ["Exporter", name] → x.field? name = y.field? name

/-- Two interfaces agree on the fields that an expression mentions. -/
def Interface.AgreesOn (e : Expr) (x y : Interface) : Prop :=
  ∀ name, e.Mentions ["Interface", name] → x.field? name = y.field? name

/-! ## Environments that agree -/

variable {σ : Type}

/-- Two environments of one kind that carry out the calls among some nodes alike, and have the same
values of the fields among them. -/
structure Environment.AgreesOn (nodes : List Expr) (env env' : Environment σ) : Prop where
  kind : env.kind = env'.kind
  call : ∀ name args, .call name args ∈ nodes → env.call name = env'.call name
  field : ∀ variableName field, .field [variableName, field] ∈ nodes →
    env.field variableName field = env'.field variableName field

section Evaluate

variable {env env' : Environment σ}

/-- Environments that agree do the same with one memory. -/
theorem Environment.AgreesOn.inStepOn {nodes : List Expr} (h : AgreesOn nodes env env') :
    InStepOn nodes Eq env env' where
  field := h.field
  call name args hmem vs m m' hm := by
    rw [h.call name args hmem, hm]
    exact ⟨rfl, rfl⟩
  fetch m m' text hm := by rw [hm]

/-- An expression has the same evaluation in environments that agree on its nodes. -/
theorem evaluate_congr (e : Expr) (h : Environment.AgreesOn e.postorder env env') :
    evaluate env e = evaluate env' e := by
  funext m
  obtain ⟨hresult, hmemory⟩ := evaluate_inStepOn e h.inStepOn m m rfl
  exact Prod.ext hresult hmemory

/-- A program has the same runs in environments that agree on the nodes of its expression. -/
theorem Program.run_congr (p : Program) (h : Environment.AgreesOn p.expr.postorder env env') :
    p.run env = p.run env' := by
  have hfires : p.fires env = p.fires env' := by
    unfold Program.fires evaluateCondition
    rw [h.kind, evaluate_congr p.expr h]
  funext m
  unfold Program.run
  rw [hfires]

end Evaluate

/-! ## Subjects that agree -/

section Subjects

variable {e : Expr} {x y : Exporter} {i j : Interface}

theorem Environment.exporterField_congr (h : Exporter.AgreesOn e x y) {name : String}
    (hmentions : e.Mentions ["Exporter", name]) : exporterField x name = exporterField y name := by
  unfold exporterField
  rw [h name hmentions]

theorem Environment.interfaceField_congr (h : Interface.AgreesOn e i j) {name : String}
    (hmentions : e.Mentions ["Interface", name]) :
    interfaceField i name = interfaceField j name := by
  unfold interfaceField
  rw [h name hmentions]

theorem Environment.ofExporter_agreesOn (h : Exporter.AgreesOn e x y) :
    AgreesOn e.postorder (ofExporter x) (ofExporter y) where
  kind := rfl
  call _ _ _ := rfl
  field variableName field hmem := by
    unfold ofExporter
    by_cases hexporter : variableName = "Exporter"
    · subst hexporter
      simpa using exporterField_congr h hmem
    · simp [hexporter]

theorem Environment.ofInterface_agreesOn (hx : Exporter.AgreesOn e x y)
    (hi : Interface.AgreesOn e i j) :
    AgreesOn e.postorder (ofInterface x i) (ofInterface y j) where
  kind := rfl
  call _ _ _ := rfl
  field variableName field hmem := by
    unfold ofInterface
    by_cases hexporter : variableName = "Exporter"
    · subst hexporter
      simpa using exporterField_congr hx hmem
    · by_cases hinterface : variableName = "Interface"
      · subst hinterface
        simpa using interfaceField_congr hi hmem
      · simp [hexporter, hinterface]

end Subjects

/-- **Only the fields that a program mentions matter.** Whatever the program, on two exporters that
agree on them it has the same runs from every memory, with the same group and the same cache; and so
it has on two interfaces that agree on them, of exporters that do, from any labels and any cache. -/
theorem Program.run_eq_of_agree (p : Program) :
    (∀ x y : Exporter, x.AgreesOn p.expr y →
      (∀ m, p.run (.ofExporter x) m = p.run (.ofExporter y) m)
        ∧ ∀ cache, p.runOnExporter x cache = p.runOnExporter y cache)
      ∧ ∀ (x y : Exporter) (i j : Interface), x.AgreesOn p.expr y →
        i.AgreesOn p.expr j → ∀ labels cache,
          p.runOnInterface x i labels cache = p.runOnInterface y j labels cache := by
  constructor
  · intro x y hx
    have hrun := p.run_congr (Environment.ofExporter_agreesOn hx)
    refine ⟨congrFun hrun, fun cache => ?_⟩
    unfold runOnExporter
    rw [hrun]
  · intro x y i j hx hi labels cache
    have hrun := p.run_congr (Environment.ofInterface_agreesOn hx hi)
    unfold runOnInterface
    rw [hrun]

/-- A program that looks at the name of the exporter and at the description of the interface. -/
def describedProvider : Program where
  source := "Exporter.Name == 'edge1' && classifyProvider(Interface.Description)"
  kind := .interface
  expr := .binary .and
    (.binary .eq (.field ["Exporter", "Name"]) (.literal (.string "edge1")))
    (.call "classifyProvider" [.field ["Interface", "Description"]])

/-- Another address, another name of the interface and another speed change nothing. -/
theorem Program.run_eq_of_agree_described :
    Exporter.AgreesOn describedProvider.expr ⟨"192.0.2.1", "edge1"⟩ ⟨"192.0.2.7", "edge1"⟩
      ∧ Interface.AgreesOn describedProvider.expr ⟨"xe-0", "Cogent", 100⟩ ⟨"ge-3", "Cogent", 0⟩
      ∧ ∀ labels cache,
        describedProvider.runOnInterface ⟨"192.0.2.1", "edge1"⟩ ⟨"xe-0", "Cogent", 100⟩ labels cache
          = describedProvider.runOnInterface ⟨"192.0.2.7", "edge1"⟩ ⟨"ge-3", "Cogent", 0⟩ labels
            cache := by
  have hexporter : Exporter.AgreesOn describedProvider.expr ⟨"192.0.2.1", "edge1"⟩
      ⟨"192.0.2.7", "edge1"⟩ := by
    intro name hmentions
    have hname : name = "Name" := by
      simpa [Expr.Mentions, describedProvider, Expr.postorder, Expr.postorderAll] using hmentions
    rw [hname]
    rfl
  have hinterface : Interface.AgreesOn describedProvider.expr ⟨"xe-0", "Cogent", 100⟩
      ⟨"ge-3", "Cogent", 0⟩ := by
    intro name hmentions
    have hname : name = "Description" := by
      simpa [Expr.Mentions, describedProvider, Expr.postorder, Expr.postorderAll] using hmentions
    rw [hname]
    rfl
  exact ⟨hexporter, hinterface,
    describedProvider.run_eq_of_agree.2 _ _ _ _ hexporter hinterface⟩

end LabelRules
