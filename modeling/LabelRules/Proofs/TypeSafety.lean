import LabelRules.Proofs.CompiledProgram

set_option autoImplicit false

/-! # Type safety of accepted rules

What the checker guarantees of a subject's rules, from the weakest assumption to the strongest.

* Every accepted expression returns booleans, strings and arrays where its type says so, and some
  errors it never fails with (`checked_respects`).
* An accepted expression without bare variables and without ternaries with one branch of type `any`
  returns a value of its type, or fails with an invalid pattern (`checked_conforms`).
* A compiled rule returns a boolean, or fails with a pattern that it has computed, exactly if it
  reaches no bare variable and no clash (`Program.allowed_iff`); it may well reach one
  (`Program.not_always_allowed`).
-/

namespace LabelRules

/-! ## Every accepted expression -/

/-- The errors that the checker rules out, whatever the rule does with `nil`, arrays and variables:
an unknown function, a program of another kind, a wrong number of arguments, a value that is no
boolean or no string where one is needed, and a missing field of a variable. -/
def RunError.IsRuledOut : RunError → Prop
  | .unknownFunction _ => True
  | .kindMismatch _ _ => True
  | .invalidOperation (.arity _ _ _) => True
  | .mismatch m => m.expected = .bool ∨ m.expected = .string
  | .fieldNotFound text => ∃ path : List String, 2 ≤ path.length ∧ text = ".".intercalate path
  | _ => False

/-- A clash is not ruled out. -/
theorem RunError.IsKindClash.not_isRuledOut {error : RunError} (h : error.IsKindClash) :
    ¬ error.IsRuledOut := by
  cases error with
  | invalidOperation o =>
      cases o with
      | arity => cases h
      | binary | comparison | unary => exact fun hout => hout
  | mismatch m =>
      have hnumber : m.expected = .number := h
      rintro (hbool | hstring)
      · rw [hnumber] at hbool
        cases hbool
      · rw [hnumber] at hstring
        cases hstring
  | unknownFunction | invalidPattern | kindMismatch | fieldNotFound => cases h

theorem Blame.not_isRuledOut {σ : Type} {env : Environment σ} {kind : Kind} {e : Expr}
    {error : RunError} (h : Blame env (Schema.of kind).scope e error) : ¬ error.IsRuledOut := by
  cases h with
  | pattern => exact fun hout => hout
  | «variable» _ hdeclared =>
      -- The name of a variable has no dot, but a longer path has one.
      rintro ⟨path, hlength, rfl⟩
      have hname := Schema.mem_of_variableType? hdeclared
      exact Schema.dot_notMem_of_mem_variableNames hname (dot_mem_intercalate hlength)
  | clash _ hclash => exact hclash.isKindClash.not_isRuledOut

/-- **What no accepted rule can do.** Of every accepted expression of a subject's rules, a value of
type boolean, string or array is one, and no error is one of those that are ruled out; in
particular a condition and an operand of `&&`, `||` or `!` is a boolean. A compiled rule, too, fails
with none of them, so that its result is a boolean. -/
theorem checked_respects (x : Subject) :
    (∀ e t, infer (Schema.of x.kind).scope e = .ok t →
      (evaluate x.environment e).Ends (fun v => v.Respects t) (fun error => ¬ error.IsRuledOut))
    ∧ ∀ source p, Program.compile x.kind source = .ok p → ∀ m,
      Outcome (fun _ => True) (fun failure => ¬ failure.error.IsRuledOut)
        (p.run x.environment m).1 := by
  constructor
  · intro e t ht
    refine (evaluate_sound x.environment_serves e t ht).mono ?_ ?_
    · exact fun v hv => hv.1
    · exact fun error hblame => hblame.not_isRuledOut
  · intro source p hcompile m
    refine (Program.run_ends hcompile m).mono (fun _ h => h) ?_
    exact fun failure hfailure => hfailure.2.not_isRuledOut

/-- A string compared with a boolean, past the checker behind a branch that is `nil`: the comparison
fails, which is not ruled out. -/
theorem checked_respects_half_nil :
    ∃ p, Program.compile .exporter "(true ? Exporter.Name : nil) == true" = .ok p
      ∧ infer (Schema.of .exporter).scope p.expr = .ok .bool
      ∧ (evaluate (Subject.exporter {}).environment p.expr).Ends (fun v => v.Respects .bool)
        (fun error => ¬ error.IsRuledOut)
      ∧ Outcome (fun _ => True) (fun failure => ¬ failure.error.IsRuledOut)
        (p.run (Subject.exporter {}).environment ⟨none, .empty⟩).1 := by
  have hfailure : Program.failure? (.exporter {}) "(true ? Exporter.Name : nil) == true"
      ⟨none, .empty⟩ = some ⟨"(true ? Exporter.Name : nil) == true",
        .invalidOperation (.comparison .eq .string .bool)⟩ := by
    decide +kernel
  obtain ⟨p, hp, -⟩ := Program.exists_of_failure? hfailure
  obtain ⟨-, -, -, hcheck⟩ := Program.compile_ok hp
  exact ⟨p, hp, hcheck, (checked_respects (.exporter {})).1 _ _ hcheck,
    (checked_respects (.exporter {})).2 _ _ hp _⟩

/-! ## Expressions without bare variables and half `nil` ternaries -/

/-- No node is a bare variable, and no node is a ternary with exactly one branch of type `any`. -/
def Expr.IsPlain (s : Scope) (e : Expr) : Prop :=
  ∀ node ∈ e.postorder, (∀ name, node ≠ .field [name]) ∧ ¬ node.IsHalfNil s

/-- **Progress and preservation.** An accepted expression that is plain returns a value of its type
or fails with an invalid pattern. -/
theorem checked_conforms (x : Subject) {e : Expr} {t : Ty}
    (hcheck : infer (Schema.of x.kind).scope e = .ok t)
    (hplain : e.IsPlain (Schema.of x.kind).scope) :
    (evaluate x.environment e).Ends (fun v => v.Conforms t)
      (fun error => ∃ text, error = .invalidPattern text) := by
  have hsafe : NilSafe x.environment (Schema.of x.kind).scope e :=
    .of_postorder fun node hnode => (hplain node hnode).2
  refine (evaluate_sound x.environment_serves e t hcheck).mono ?_ ?_
  · exact fun v hv => hv.2 hsafe
  · intro error hblame
    cases hblame with
    | @pattern _ _ text => exact ⟨text, rfl⟩
    | @«variable» name _ hreaches =>
        exact absurd rfl ((hplain _ hreaches.mem_postorder).1 name)
    | clash hreaches _ hhalf =>
        -- What the node reaches, the whole reaches.
        exact absurd (fun node hnode => hsafe node (hreaches.trans hnode)) hhalf

/-- A ternary with two branches of type `any` is plain; its condition may fail with its pattern. -/
theorem checked_conforms_nil :
    (evaluate (Subject.exporter { name := "core", ip := "(" }).environment
      (.ternary (.binary .matches (.field ["Exporter", "Name"]) (.field ["Exporter", "IP"]))
        (.literal .nil) (.literal .nil))).Ends
      (fun v => v.Conforms .any) (fun error => ∃ text, error = .invalidPattern text) := by
  refine checked_conforms _ rfl ?_
  intro node hnode
  simp only [Expr.postorder, List.cons_append, List.nil_append, List.mem_cons, List.not_mem_nil,
    or_false] at hnode
  rcases hnode with rfl | rfl | rfl | rfl | rfl | rfl
  · simp [Expr.IsHalfNil]
  · simp [Expr.IsHalfNil]
  · simp [Expr.IsHalfNil]
  · simp [Expr.IsHalfNil]
  · simp [Expr.IsHalfNil]
  · simp [Expr.IsHalfNil]

/-! ## Compiled rules -/

/-- The error is an invalid pattern that was computed: it is no string literal. -/
def IsComputedPattern {σ : Type} (env : Environment σ) (e : Expr) (error : RunError) : Prop :=
  ∃ node operand text, error = .invalidPattern text ∧ Reaches env e node
    ∧ node.patternOperand? = some operand ∧ operand.stringLiteral? = none
    ∧ (evaluate env operand).Returns (.string text)

/-- What a rule is specified to do: it returns a boolean, or it fails with a pattern that it has
computed. -/
def Program.Allowed {σ : Type} (p : Program) (env : Environment σ) (m : Memory σ) : Prop :=
  Outcome (fun _ => True) (fun failure => IsComputedPattern env p.expr failure.error)
    (p.run env m).1

theorem Program.not_allowed_of_run {σ : Type} {p : Program} {env : Environment σ} {m : Memory σ}
    {rule : String} {error : RunError} (hrun : (p.run env m).1 = .error ⟨rule, error⟩)
    (hpattern : ∀ text, error ≠ .invalidPattern text) : ¬ p.Allowed env m := by
  intro hallowed
  unfold Program.Allowed at hallowed
  rw [hrun] at hallowed
  obtain ⟨_, _, text, herror, -⟩ := hallowed
  exact hpattern text herror

/-- **How far compiled rules do what they are specified to do.** A compiled rule does so exactly if
it reaches no bare variable and no clash. A bare variable that is reached is the field that is not
found; a clash that is reached is the error, and below it the rule has reached a ternary with one
branch of type `any`. -/
theorem Program.allowed_iff {x : Subject} {source : String} {p : Program}
    (h : Program.compile x.kind source = .ok p) (m : Memory x.Output) :
    (p.Allowed x.environment m ↔
      (∀ name, ¬ Reaches x.environment p.expr (.field [name]))
        ∧ ∀ node error, Reaches x.environment p.expr node → ¬ Clash x.environment node error)
    ∧ (∀ name, Reaches x.environment p.expr (.field [name]) →
      (p.run x.environment m).1 = .error ⟨source, .fieldNotFound name⟩)
    ∧ ∀ node error, Reaches x.environment p.expr node → Clash x.environment node error →
      (p.run x.environment m).1 = .error ⟨source, error⟩
        ∧ ∃ ternary, Reaches x.environment node ternary
          ∧ ternary.IsHalfNil (Schema.of x.kind).scope := by
  obtain ⟨rfl, hkind, hpatterns, hcheck⟩ := Program.compile_ok h
  have hvariable : ∀ name, Reaches x.environment p.expr (.field [name]) →
      (p.run x.environment m).1 = .error ⟨p.source, .fieldNotFound name⟩ := by
    intro name hreaches
    exact Program.run_eq_of_reaches hkind hreaches (evaluate_variable_fails _ name) m
  have hclash : ∀ node error, Reaches x.environment p.expr node →
      Clash x.environment node error → (p.run x.environment m).1 = .error ⟨p.source, error⟩ := by
    intro node error hreaches hnode
    exact Program.run_eq_of_reaches hkind hreaches hnode.fails m
  refine ⟨⟨?_, ?_⟩, hvariable, ?_⟩
  · intro hallowed
    constructor
    · intro name hreaches
      exact Program.not_allowed_of_run (hvariable name hreaches) (by simp) hallowed
    · intro node error hreaches hnode
      refine Program.not_allowed_of_run (hclash node error hreaches hnode) ?_ hallowed
      rintro text rfl
      exact hnode.isKindClash
  · rintro ⟨hnovariable, hnoclash⟩
    refine (Program.run_ends h m).mono (fun _ h => h) ?_
    rintro ⟨rule, error⟩ ⟨-, hblame⟩
    cases hblame with
    | pattern hreaches hoperand hvalue hinvalid =>
        have hnode := hreaches.mem_postorder
        exact ⟨_, _, _, rfl, hreaches, hoperand,
          Expr.stringLiteral?_eq_none_of_invalid hpatterns hnode hoperand m hvalue hinvalid, hvalue⟩
    | «variable» hreaches => exact absurd hreaches (hnovariable _)
    | clash hreaches hnode => exact absurd hnode (hnoclash _ _ hreaches)
  · intro node error hreaches hnode
    obtain ⟨u, hu⟩ := hreaches.typed hcheck
    exact ⟨hclash node error hreaches hnode,
      hnode.exists_isHalfNil x.environment_serves hu m⟩

/-- A bare variable as the item of an array gets past the checker. -/
theorem Program.failure?_variable :
    Program.failure? (.exporter {}) "nil in [Exporter]" ⟨none, .empty⟩
      = some ⟨"nil in [Exporter]", .fieldNotFound "Exporter"⟩ := by
  decide +kernel

/-- So does a string behind a branch that is `nil`. -/
theorem Program.failure?_half_nil :
    Program.failure? (.exporter {}) "-(true ? Exporter.Name : nil) == nil" ⟨none, .empty⟩
      = some ⟨"-(true ? Exporter.Name : nil) == nil",
        .invalidOperation (.unary .negate .string)⟩ := by
  decide +kernel

/-- The rule with a bare variable reaches it, or a clash. -/
theorem Program.allowed_iff_variable :
    ∃ p, Program.compile .exporter "nil in [Exporter]" = .ok p
      ∧ ¬ ((∀ name, ¬ Reaches (Subject.exporter {}).environment p.expr (.field [name]))
        ∧ ∀ node error, Reaches (Subject.exporter {}).environment p.expr node →
          ¬ Clash (Subject.exporter {}).environment node error) := by
  obtain ⟨p, hp, hrun⟩ := Program.exists_of_failure? Program.failure?_variable
  refine ⟨p, hp, fun hreaches => ?_⟩
  exact Program.not_allowed_of_run hrun (by simp) ((Program.allowed_iff hp _).1.2 hreaches)

/-- Both rules compile, and neither does what it is specified to do. -/
theorem Program.not_always_allowed :
    (∃ p, Program.compile .exporter "nil in [Exporter]" = .ok p
      ∧ (p.run (Subject.exporter {}).environment ⟨none, .empty⟩).1
        = .error ⟨"nil in [Exporter]", .fieldNotFound "Exporter"⟩
      ∧ ¬ p.Allowed (Subject.exporter {}).environment ⟨none, .empty⟩)
    ∧ ∃ p, Program.compile .exporter "-(true ? Exporter.Name : nil) == nil" = .ok p
      ∧ (p.run (Subject.exporter {}).environment ⟨none, .empty⟩).1
        = .error ⟨"-(true ? Exporter.Name : nil) == nil",
          .invalidOperation (.unary .negate .string)⟩
      ∧ ¬ p.Allowed (Subject.exporter {}).environment ⟨none, .empty⟩ := by
  constructor
  · obtain ⟨p, hp, hrun⟩ := Program.exists_of_failure? Program.failure?_variable
    exact ⟨p, hp, hrun, Program.not_allowed_of_run hrun (by simp)⟩
  · obtain ⟨p, hp, hrun⟩ := Program.exists_of_failure? Program.failure?_half_nil
    exact ⟨p, hp, hrun, Program.not_allowed_of_run hrun (by simp)⟩

end LabelRules
