import LabelRules.Proofs.CallFree
import LabelRules.Proofs.Parsing.RoundTrip
import LabelRules.Proofs.RuleValues

set_option autoImplicit false

/-! # Rules for exporters and interfaces

Scopes that agree on what stands at the nodes of an expression check it alike (`infer_congr_scope`).
The schema of interfaces declares the variable and the fields of the schema of exporters, and not
its capabilities. So a text without a capability that is a rule for exporters is a rule for
interfaces, too, and does there what it does for the exporter alone (`Program.carries_over`).
-/

namespace LabelRules

/-! ## Scopes that agree -/

/-- Two scopes that give the same types to the variables, the fields and the functions at some
nodes. -/
structure Scope.AgreesOn (nodes : List Expr) (s s' : Scope) : Prop where
  variableType : ∀ name, .field [name] ∈ nodes → s.variableType? name = s'.variableType? name
  fieldType : ∀ path, .field path ∈ nodes → path.length ≠ 1 →
    s.fieldType? (".".intercalate path) = s'.fieldType? (".".intercalate path)
  signature : ∀ name args, .call name args ∈ nodes → s.signature? name = s'.signature? name

section Check

variable {s s' : Scope}

theorem Scope.AgreesOn.mono {nodes nodes' : List Expr} (h : AgreesOn nodes s s')
    (hsub : nodes' ⊆ nodes) : AgreesOn nodes' s s' where
  variableType name hmem := h.variableType name (hsub hmem)
  fieldType path hmem := h.fieldType path (hsub hmem)
  signature name args hmem := h.signature name args (hsub hmem)

mutual

/-- An expression is checked alike in scopes that agree on its nodes. -/
theorem infer_congr_scope (e : Expr) (h : Scope.AgreesOn e.postorder s s') :
    infer s e = infer s' e := by
  cases e with
  | literal v => rfl
  | field path =>
      unfold infer Typing.path
      split
      · next name => rw [h.variableType name (Expr.self_mem_postorder _)]
      · next hpath =>
        rw [h.fieldType path (Expr.self_mem_postorder _) ?_]
        intro hlength
        obtain ⟨name, rfl⟩ := List.length_eq_one_iff.1 hlength
        exact hpath name rfl
  | binary op l r =>
      have hl := infer_congr_scope l (h.mono (by simp [Expr.postorder]))
      have hr := infer_congr_scope r (h.mono (by simp [Expr.postorder]))
      simp only [infer, hl, hr]
  | unary op e =>
      have he := infer_congr_scope e (h.mono (by simp [Expr.postorder]))
      simp only [infer, he]
  | call name args =>
      have hargs := checkArgs_congr_scope args (h.mono (by simp [Expr.postorder])) name 1
      simp only [infer, h.signature name args (Expr.self_mem_postorder _), hargs]
  | ternary c t f =>
      have hc := infer_congr_scope c (h.mono (by simp [Expr.postorder]))
      have ht := infer_congr_scope t (h.mono (by simp [Expr.postorder]))
      have hf := infer_congr_scope f (h.mono
        (List.subset_append_of_subset_left _ (List.subset_append_right _ _)))
      simp only [infer, hc, ht, hf]
  | array items =>
      have hitems := inferItems_congr_scope items (h.mono (by simp [Expr.postorder])) .any
      simp only [infer, hitems]

theorem inferItems_congr_scope (es : List Expr)
    (h : Scope.AgreesOn (Expr.postorderAll es) s s') (before : Ty) :
    inferItems s before es = inferItems s' before es := by
  cases es with
  | nil => rfl
  | cons e es =>
      have he := infer_congr_scope e (h.mono (by simp [Expr.postorderAll]))
      have hes := inferItems_congr_scope es (h.mono (by simp [Expr.postorderAll]))
      simp only [inferItems, he, hes]

theorem checkArgs_congr_scope (es : List Expr)
    (h : Scope.AgreesOn (Expr.postorderAll es) s s') (function : String) (index : Nat)
    (params : List Ty) :
    checkArgs s function index es params = checkArgs s' function index es params := by
  cases es with
  | nil => rfl
  | cons e es =>
      cases params with
      | nil => rfl
      | cons param params =>
          have he := infer_congr_scope e (h.mono (by simp [Expr.postorderAll]))
          have hes := checkArgs_congr_scope es (h.mono (by simp [Expr.postorderAll])) function
            (index + 1) params
          simp only [checkArgs, he, hes]

end

end Check

/-! ## What both schemas declare -/

namespace Schema

variable {t : Ty}

/-- A variable of a rule for exporters is one of a rule for interfaces. -/
theorem variableType?_interface {name : String}
    (h : (Schema.of .exporter).scope.variableType? name = some t) :
    (Schema.of .interface).scope.variableType? name = some t := by
  obtain rfl : name = "Exporter" := List.mem_singleton.1 (mem_of_variableType? h)
  exact h

/-- A field of an exporter can be used in a rule for interfaces. -/
theorem fieldType?_interface {path : String}
    (h : (Schema.of .exporter).scope.fieldType? path = some t) :
    (Schema.of .interface).scope.fieldType? path = some t := by
  have hmem := mem_of_fieldType? h
  simp only [Schema.of, List.mem_cons, Prod.mk.injEq, List.not_mem_nil, or_false] at hmem
  rcases hmem with ⟨rfl, rfl⟩ | ⟨rfl, rfl⟩
  · rfl
  · rfl

end Schema

/-- No function is called that is a capability, of whatever kind of rule. -/
def Expr.CapabilityFree (e : Expr) : Prop :=
  ∀ name ∈ e.calledNames, ∀ kind, (Schema.of kind).scope.signature? name = none

section Accepted

variable {e : Expr} {t : Ty}

/-- The checker knows no other functions than capabilities. -/
theorem Expr.CapabilityFree.callFree {kind : Kind} (h : e.CapabilityFree)
    (hcheck : infer (Schema.of kind).scope e = .ok t) : e.CallFree := by
  refine List.eq_nil_iff_forall_not_mem.2 fun name hname => ?_
  obtain ⟨node, hnode, hcalls⟩ := List.mem_filterMap.1 hname
  obtain ⟨u, hu⟩ := infer_node_ok hcheck hnode
  unfold Expr.callName? at hcalls
  split at hcalls
  · cases hcalls
    obtain ⟨signature, hsignature, -, -⟩ := infer_call_ok hu
    rw [h name hname kind] at hsignature
    cases hsignature
  · cases hcalls

/-- What a rule for exporters mentions is of the same type in one for interfaces. -/
theorem scope_agreesOn_interface (hcheck : infer (Schema.of .exporter).scope e = .ok t)
    (hfree : e.CallFree) :
    Scope.AgreesOn e.postorder (Schema.of .exporter).scope (Schema.of .interface).scope where
  variableType name hmem := by
    obtain ⟨u, hu⟩ := infer_node_ok hcheck hmem
    have htype := infer_variable_ok hu
    rw [htype, Schema.variableType?_interface htype]
  fieldType path hmem hlength := by
    obtain ⟨u, hu⟩ := infer_node_ok hcheck hmem
    have htype := infer_field_ok hlength hu
    rw [htype, Schema.fieldType?_interface htype]
  signature name args hmem := absurd hmem (hfree.call_not_mem name args)

/-- The value of a field of an exporter is the same from its interfaces. -/
theorem Environment.ofInterface_field_of_ok {exporter : Exporter} {variableName field : String}
    {v : Value} (h : (ofExporter exporter).field variableName field = .ok v)
    (interface : Interface) : (ofInterface exporter interface).field variableName field = .ok v := by
  simp only [ofExporter, ofInterface] at h ⊢
  split at h
  · next hexporter => rw [if_pos hexporter, h]
  · cases h

/-- The one memory still has a group and the other one has labels; the caches are the same. -/
def Unwritten (group : Option String) (labels : Labels) (m : Memory (Option String))
    (m' : Memory Labels) : Prop :=
  m.output = group ∧ m'.output = labels ∧ m.cache = m'.cache

theorem Unwritten.eq {group : Option String} {labels : Labels} {m : Memory (Option String)}
    {m' : Memory Labels} (h : Unwritten group labels m m') :
    m = ⟨group, m.cache⟩ ∧ m' = ⟨labels, m.cache⟩ := by
  obtain ⟨rfl, rfl, hcache⟩ := h
  exact ⟨rfl, by rw [hcache]⟩

/-- An accepted rule for exporters that calls nothing finds the same fields on both sides. -/
theorem Environment.inStepOn_interface (hcheck : infer (Schema.of .exporter).scope e = .ok t)
    (hfree : e.CallFree) (exporter : Exporter) (interface : Interface) (group : Option String)
    (labels : Labels) :
    InStepOn e.postorder (Unwritten group labels) (ofExporter exporter)
      (ofInterface exporter interface) where
  field variableName field hmem := by
    obtain ⟨u, hu⟩ := infer_node_ok hcheck hmem
    have hlength : [variableName, field].length ≠ 1 := by simp
    obtain ⟨x, f, v, hpath, hv, -⟩ := ofExporter_field exporter hlength (infer_field_ok hlength hu)
    cases hpath
    rw [hv, ofInterface_field_of_ok hv]
  call name args hmem := absurd hmem (hfree.call_not_mem name args)
  fetch := by
    rintro m m' text ⟨hgroup, hlabels, hcache⟩
    exact ⟨hgroup, hlabels, by rw [hcache]⟩

end Accepted

/-! ## Rule texts -/

/-- **Rules for exporters are rules for interfaces** if they call no capability. Such a text, if it
is a rule for exporters, is one for interfaces with the same expression. On every interface of an
exporter, from whatever labels and cache, it fires or fails as it does on the exporter, with the same
error, and leaves the same cache; neither run writes anything. -/
theorem Program.carries_over {source : String} {p : Program}
    (hp : Program.compile .exporter source = .ok p) (hfree : p.expr.CapabilityFree) :
    ∃ q, Program.compile .interface source = .ok q ∧ q.expr = p.expr
      ∧ ∀ exporter interface group labels cache, ∃ result cache',
        p.run (.ofExporter exporter) ⟨group, cache⟩ = (result, ⟨group, cache'⟩)
          ∧ q.runOnInterface exporter interface labels cache = (result, ⟨labels, cache'⟩) := by
  obtain ⟨hsource, hkind, hexpr⟩ := Program.compile_eq_ok_iff.1 hp
  obtain ⟨hparse, hpatterns, hcheck⟩ := Program.expression_eq_ok_iff.1 hexpr
  have hnone := hfree.callFree hcheck
  have hcheck' := hcheck
  rw [infer_congr_scope p.expr (scope_agreesOn_interface hcheck hnone)] at hcheck'
  have hexpr' := Program.expression_eq_ok_iff.2 ⟨hparse, hpatterns, hcheck'⟩
  let q : Program := ⟨source, .interface, p.expr⟩
  refine ⟨q, Program.compile_eq_ok_iff.2 ⟨rfl, rfl, hexpr'⟩, rfl, ?_⟩
  intro exporter interface group labels cache
  have hfields := Environment.inStepOn_interface hcheck hnone exporter interface group labels
  have hstart : Unwritten group labels ⟨group, cache⟩ ⟨labels, cache⟩ := ⟨rfl, rfl, rfl⟩
  obtain ⟨hresult, hmemory⟩ :=
    Program.run_inStepOn (q := q) hkind rfl hsource rfl hfields hstart
  obtain ⟨hexporter, hinterface⟩ := hmemory.eq
  exact ⟨_, _, Prod.ext rfl hexporter, Prod.ext hresult.symm hinterface⟩

/-- A rule with a pattern that it computes: whether this is one, both runs find alike. -/
theorem Program.carries_over_computed :
    ∃ p, Program.compile .exporter "Exporter.Name matches Exporter.IP" = .ok p
      ∧ p.expr.CapabilityFree
      ∧ ∃ q, Program.compile .interface "Exporter.Name matches Exporter.IP" = .ok q
        ∧ q.expr = p.expr
        ∧ ∀ exporter interface group labels cache, ∃ result cache',
          p.run (.ofExporter exporter) ⟨group, cache⟩ = (result, ⟨group, cache'⟩)
            ∧ q.runOnInterface exporter interface labels cache = (result, ⟨labels, cache'⟩) := by
  let e : Expr := .binary .matches (.field ["Exporter", "Name"]) (.field ["Exporter", "IP"])
  have hparse : parse "Exporter.Name matches Exporter.IP" = .ok e :=
    parse_of_tokens (by decide) (by decide +kernel) (by decide +kernel)
  have hexpr : Program.expression .exporter "Exporter.Name matches Exporter.IP" = .ok e :=
    Program.expression_eq_ok_iff.2 ⟨hparse, rfl, rfl⟩
  have hp := Program.compile_eq_ok_iff (p := ⟨_, _, e⟩).2 ⟨rfl, rfl, hexpr⟩
  have hfree : e.CapabilityFree := nofun
  exact ⟨_, hp, hfree, Program.carries_over hp hfree⟩

end LabelRules
