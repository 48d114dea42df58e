import LabelRules.Proofs.Soundness

set_option autoImplicit false

/-! # Runs of compiled programs

A compiled program has passed the checker with type `bool` and without an invalid pattern that is
written out (`Program.compile_ok`). Run on a subject of its kind, it returns a boolean or fails with
an error for which a node is to blame (`Program.run_ends`); and it fails with the error of every
node that it reaches (`Program.run_eq_of_reaches`). Whatever it reaches, the checker has accepted
(`Reaches.typed`), so that below every clash there is a ternary with one branch of type `any`
(`Clash.exists_isHalfNil`).
-/

namespace LabelRules

/-! ## What is reached is accepted -/

section Reached

variable {σ : Type} {env : Environment σ} {s : Scope} {e : Expr} {t : Ty}

theorem Reaches.typed {node : Expr} (h : Reaches env e node) (ht : infer s e = .ok t) :
    ∃ u, infer s node = .ok u :=
  infer_node_ok ht h.mem_postorder

/-- Below a clash in an accepted expression, a ternary with one branch of type `any` is reached. -/
theorem Clash.exists_isHalfNil {error : RunError} (h : Clash env e error) (henv : env.Serves s)
    (ht : infer s e = .ok t) (m : Memory σ) : ∃ node, Reaches env e node ∧ node.IsHalfNil s := by
  have hblame : Blame env s e error := by
    have hends := evaluate_sound henv e t ht m
    rw [h.fails m] at hends
    exact hends
  have hclash := h.isKindClash
  cases hblame with
  | pattern => cases hclash
  | «variable» => cases hclash
  | clash hreaches _ hhalf =>
      obtain ⟨node, hnode⟩ := not_forall.1 hhalf
      obtain ⟨hbelow, hnot⟩ := Classical.not_imp.1 hnode
      exact ⟨node, hreaches.trans hbelow, not_not.1 hnot⟩

end Reached

/-! ## Runs -/

/-- What a compiled program has passed. -/
theorem Program.compile_ok {kind : Kind} {source : String} {p : Program}
    (h : Program.compile kind source = .ok p) :
    p.source = source ∧ p.kind = kind ∧ p.expr.invalidPatterns = []
      ∧ infer (Schema.of kind).scope p.expr = .ok .bool := by
  obtain ⟨hsource, hkind, hexpr⟩ := Program.compile_eq_ok_iff.1 h
  refine ⟨hsource, hkind, ?_⟩
  unfold Program.expression at hexpr
  split at hexpr
  · cases hexpr
  · split at hexpr
    · cases hexpr
    · next e _ hpatterns =>
        rw [e.refusedPatterns_eq] at hpatterns
        split at hexpr
        · cases hexpr
        · next t ht =>
            split at hexpr
            · next hbool =>
                cases hexpr
                subst hbool
                exact ⟨not_not.1 hpatterns, ht⟩
            · cases hexpr

/-- A program of the kind of its subject is a condition. -/
theorem Program.fires_environment {x : Subject} {p : Program} (hkind : p.kind = x.kind) :
    p.fires x.environment = evaluateCondition x.environment p.expr := by
  unfold Program.fires
  rw [x.kind_environment, if_pos hkind]

/-- A run of a compiled program returns a boolean, or it fails and names the rule and the error,
for which there is a node to blame. -/
theorem Program.run_ends {x : Subject} {source : String} {p : Program}
    (h : Program.compile x.kind source = .ok p) (m : Memory x.Output) :
    Outcome (fun _ => True)
      (fun failure => failure.rule = source
        ∧ Blame x.environment (Schema.of x.kind).scope p.expr failure.error)
      (p.run x.environment m).1 := by
  obtain ⟨rfl, hkind, -, hcheck⟩ := Program.compile_ok h
  have hfires : (p.fires x.environment).Ends (fun _ => True)
      (Blame x.environment (Schema.of x.kind).scope p.expr) := by
    rw [Program.fires_environment hkind]
    refine (evaluate_sound x.environment_serves p.expr .bool hcheck).bind ?_
    rintro _ ⟨⟨b, rfl⟩, -⟩
    exact .ofExcept trivial
  unfold Program.run
  refine Outcome.mapError ((hfires m).mono (fun _ h => h) ?_)
  exact fun error hblame => ⟨rfl, hblame⟩

/-- A program of the kind of its subject fails with what its expression reaches. -/
theorem Program.run_eq_of_reaches {x : Subject} {p : Program} {node : Expr} {error : RunError}
    (hkind : p.kind = x.kind) (hreaches : Reaches x.environment p.expr node)
    (hnode : (evaluate x.environment node).Fails error) (m : Memory x.Output) :
    (p.run x.environment m).1 = .error ⟨p.source, error⟩ := by
  have hfires : (p.fires x.environment).Fails error := by
    rw [Program.fires_environment hkind]
    exact (hreaches.fails hnode).bind _
  unfold Program.run
  simp only [hfires m]
  rfl

/-! ## Single texts -/

/-- The failure of a rule text on a subject, if the text is a rule and the rule fails. -/
def Program.failure? (x : Subject) (source : String) (m : Memory x.Output) : Option RunFailure :=
  match Program.compile x.kind source with
  | .error _ => none
  | .ok p =>
    match (p.run x.environment m).1 with
    | .error failure => some failure
    | .ok _ => none

theorem Program.exists_of_failure? {x : Subject} {source : String} {m : Memory x.Output}
    {failure : RunFailure} (h : Program.failure? x source m = some failure) :
    ∃ p, Program.compile x.kind source = .ok p ∧ (p.run x.environment m).1 = .error failure := by
  unfold Program.failure? at h
  split at h
  · cases h
  · next p hp =>
      split at h
      · next error hrun =>
          cases h
          exact ⟨p, hp, hrun⟩
      · cases h

end LabelRules
