import LabelRules.Classifier
import LabelRules.Proofs.SharedCache
import Mathlib.Logic.Relation

set_option autoImplicit false

/-! # A pass over an exporter

A pass over an exporter gives each rule a group of its own to write, so that a rule does in the pass
what it does alone. The pass comes to a decision with the first rule that, alone, fires or fails
(`Rule.decides`): its group is that of the pass, unless it fails (`groupPass_eq_decision`). Rules
that do neither may come and go, whatever group they record, and so may all rules after that first
one (`Rule.Edit`, `Rule.decision_eq_of_edits`).
-/

namespace LabelRules

/-! ## Rules alone -/

namespace Rule

section Alone

variable (exporter : Exporter) (fresh : Cache)

/-- What a rule for exporters does alone: whether it fires and the group that it records, or its
failure. -/
def groupTrial (rule : Rule .exporter) : Except RunFailure (Bool × Option String) :=
  (rule.program.runOnExporter exporter fresh).1

/-- Alone, the rule fires or fails. -/
def decides (rule : Rule .exporter) : Bool :=
  match rule.groupTrial exporter fresh with
  | .ok (fired, _) => fired
  | .error _ => true

/-- Alone, the rule fails. -/
def fails (rule : Rule .exporter) : Bool :=
  match rule.groupTrial exporter fresh with
  | .ok _ => false
  | .error _ => true

/-- The group that the rule records alone, if it does not fail. -/
def recorded (rule : Rule .exporter) : Option String :=
  match rule.groupTrial exporter fresh with
  | .ok (_, group) => group
  | .error _ => none

/-- The first of the rules that fires or fails. -/
def decision (rules : List (Rule .exporter)) : Option (Rule .exporter) :=
  rules.find? (decides exporter fresh)

end Alone

/-! ## Lists of rules with one decision -/

/-- A change of a list of rules that leaves the decision alone: a rule that neither fires nor fails
comes or goes, at any place, or the rules after one that does are replaced. -/
inductive Edit (exporter : Exporter) (fresh : Cache) :
    List (Rule .exporter) → List (Rule .exporter) → Prop
  | insert {before after : List (Rule .exporter)} {rule : Rule .exporter}
      (hidle : rule.decides exporter fresh = false) :
      Edit exporter fresh (before ++ after) (before ++ rule :: after)
  | delete {before after : List (Rule .exporter)} {rule : Rule .exporter}
      (hidle : rule.decides exporter fresh = false) :
      Edit exporter fresh (before ++ rule :: after) (before ++ after)
  | replaceAfter {before after after' : List (Rule .exporter)} {rule : Rule .exporter}
      (hdecides : rule.decides exporter fresh = true) :
      Edit exporter fresh (before ++ rule :: after) (before ++ rule :: after')

section Edit

variable {exporter : Exporter} {fresh : Cache} {rules rules' : List (Rule .exporter)}

theorem Edit.decision_eq (h : Edit exporter fresh rules rules') :
    decision exporter fresh rules = decision exporter fresh rules' := by
  unfold decision
  cases h with
  | insert hidle => simp [List.find?_append, hidle]
  | delete hidle => simp [List.find?_append, hidle]
  | replaceAfter hdecides => simp [List.find?_append, hdecides]

/-- Any number of changes, one after the other. -/
theorem decision_eq_of_edits (h : Relation.ReflTransGen (Edit exporter fresh) rules rules') :
    decision exporter fresh rules = decision exporter fresh rules' := by
  induction h with
  | refl => rfl
  | tail _ hedit ih => exact ih.trans hedit.decision_eq

end Edit

end Rule

/-! ## The rules of a pass -/

section Pass

variable (exporter : Exporter) (fresh : Cache)

/-- A rule that fires or fails ends the pass, with its own group or with none. -/
theorem groupPass_cons_of_decides {rule : Rule .exporter}
    (h : rule.decides exporter fresh = true) (cache : Cache) (rules : List (Rule .exporter)) :
    (groupPass exporter cache (rule :: rules)).result = rule.recorded exporter fresh
      ∧ (groupPass exporter cache (rule :: rules)).failed = rule.fails exporter fresh := by
  -- In the pass the rule runs with another cache than alone.
  have htrial := rule.program.runOnExporter_fst exporter cache fresh
  unfold Rule.decides Rule.recorded Rule.fails Rule.groupTrial at *
  rw [← htrial] at h ⊢
  rcases hrun : rule.program.runOnExporter exporter cache with ⟨outcome, cache'⟩
  rw [hrun] at h
  rw [groupPass, hrun]
  cases outcome with
  | error e => exact ⟨rfl, rfl⟩
  | ok answer =>
      obtain ⟨fired, group⟩ := answer
      obtain rfl : fired = true := h
      exact ⟨rfl, rfl⟩

/-- A rule that neither fires nor fails leaves nothing but the patterns it has fetched. -/
theorem groupPass_cons_of_idle {rule : Rule .exporter}
    (h : rule.decides exporter fresh = false) (cache : Cache) :
    ∃ cache', ∀ rules,
      groupPass exporter cache (rule :: rules) = groupPass exporter cache' rules := by
  have htrial := rule.program.runOnExporter_fst exporter cache fresh
  unfold Rule.decides Rule.groupTrial at h
  rw [← htrial] at h
  rcases hrun : rule.program.runOnExporter exporter cache with ⟨outcome, cache'⟩
  rw [hrun] at h
  refine ⟨cache', fun rules => ?_⟩
  cases outcome with
  | error e => cases h
  | ok answer =>
      obtain ⟨fired, group⟩ := answer
      obtain rfl : fired = false := h
      rw [groupPass, hrun]

/-- A pass is decided by the first of its rules that, alone, fires or fails. -/
theorem groupPass_eq_decision (rules : List (Rule .exporter)) (cache : Cache) :
    (groupPass exporter cache rules).result
        = (Rule.decision exporter fresh rules).bind (Rule.recorded exporter fresh)
      ∧ (groupPass exporter cache rules).failed
        = (Rule.decision exporter fresh rules).any (Rule.fails exporter fresh) := by
  induction rules generalizing cache with
  | nil => exact ⟨rfl, rfl⟩
  | cons rule rules ih =>
      cases h : rule.decides exporter fresh with
      | true =>
          have hdecision : Rule.decision exporter fresh (rule :: rules) = some rule :=
            List.find?_cons_of_pos h
          rw [hdecision]
          exact groupPass_cons_of_decides exporter fresh h cache rules
      | false =>
          obtain ⟨cache', hpass⟩ := groupPass_cons_of_idle exporter fresh h cache
          have hdecision : Rule.decision exporter fresh (rule :: rules)
              = Rule.decision exporter fresh rules := List.find?_cons_of_neg (by simp [h])
          rw [hpass, hdecision]
          exact ih cache'

end Pass

namespace Classifier

variable (c : Classifier) (exporter : Exporter) (fresh : Cache)

/-- The first rule for exporters that, alone, fires or fails. -/
def decision : Option (Rule .exporter) := Rule.decision exporter fresh c.book.exporter

/-- The classifier with other rules for exporters. -/
def withExporterRules (rules : List (Rule .exporter)) : Classifier :=
  c.reload { c.book with exporter := rules }

theorem groupOf_result (cache : Cache) :
    (c.groupOf exporter cache).1
      = (c.decision exporter fresh).bind (Rule.recorded exporter fresh) :=
  (groupPass_eq_decision exporter fresh c.book.exporter cache).1

theorem groupOf_exporterErrors (cache : Cache) :
    (c.groupOf exporter cache).2.1.exporterErrors
      = c.exporterErrors
        + (if (c.decision exporter fresh).any (Rule.fails exporter fresh) then 1 else 0) := by
  have hfailed := (groupPass_eq_decision exporter fresh c.book.exporter cache).2
  have hnat : ∀ b : Bool, b.toNat = if b then 1 else 0 := by decide
  exact congrArg (c.exporterErrors + ·) ((hnat _).trans (by rw [hfailed]; rfl))

/-- **The first rule that fires or fails decides.** The group of an exporter is the one that this
rule records when it is run alone, which may be none; there is none if it fails, or if no rule fires
or fails. The number of failed passes over exporters grows by one if that rule fails and stays
otherwise, and the number of failed passes over interfaces stays. So the group and both numbers are
the same after any changes of the list of rules that only let rules come and go that neither fire
nor fail, even if they record a group, or that only replace rules after one that does. -/
theorem groupOf_eq_recorded (cache : Cache) :
    (c.groupOf exporter cache).1
        = (c.decision exporter fresh).bind (Rule.recorded exporter fresh)
      ∧ (c.groupOf exporter cache).2.1.exporterErrors
        = c.exporterErrors
          + (if (c.decision exporter fresh).any (Rule.fails exporter fresh) then 1 else 0)
      ∧ (c.groupOf exporter cache).2.1.interfaceErrors = c.interfaceErrors
      ∧ ∀ rules cache',
        Relation.ReflTransGen (Rule.Edit exporter fresh) c.book.exporter rules →
        ((c.withExporterRules rules).groupOf exporter cache').1 = (c.groupOf exporter cache).1
          ∧ ((c.withExporterRules rules).groupOf exporter cache').2.1.exporterErrors
            = (c.groupOf exporter cache).2.1.exporterErrors
          ∧ ((c.withExporterRules rules).groupOf exporter cache').2.1.interfaceErrors
            = (c.groupOf exporter cache).2.1.interfaceErrors := by
  refine ⟨c.groupOf_result exporter fresh cache, c.groupOf_exporterErrors exporter fresh cache,
    rfl, ?_⟩
  intro rules cache' hedits
  have hdecision : (c.withExporterRules rules).decision exporter fresh
      = c.decision exporter fresh := (Rule.decision_eq_of_edits hedits).symm
  refine ⟨?_, ?_, rfl⟩
  · rw [groupOf_result _ _ fresh, groupOf_result _ _ fresh, hdecision]
  · rw [groupOf_exporterErrors _ _ fresh, groupOf_exporterErrors _ _ fresh, hdecision]
    rfl

/-- Records a group and does not fire. -/
def labRule : Rule .exporter :=
  ⟨⟨"classify(\"lab\") && false", .exporter,
    .binary .and (.call Capability.classify [.literal (.string "lab")]) (.literal (.bool false))⟩,
    rfl⟩

/-- Records a group and fires. -/
def coreRule : Rule .exporter :=
  ⟨⟨"classify(\"core\")", .exporter, .call Capability.classify [.literal (.string "core")]⟩, rfl⟩

/-- Fails, as a variable by itself has no value. -/
def brokenRule : Rule .exporter :=
  ⟨⟨"nil in [Exporter]", .exporter,
    .binary .isIn (.literal .nil) (.array [.field ["Exporter"]])⟩, rfl⟩

/-- A classifier with these three rules. -/
def mixed : Classifier := { book := { exporter := [labRule, coreRule, brokenRule] } }

/-- The rule in the middle gives the group, with the other two as without them. -/
theorem groupOf_eq_recorded_core :
    Relation.ReflTransGen (Rule.Edit {} .empty) mixed.book.exporter [coreRule]
      ∧ labRule.recorded {} .empty = some "lab"
      ∧ brokenRule.fails {} .empty = true
      ∧ (mixed.groupOf {} .empty).1 = some "core"
      ∧ ((mixed.withExporterRules [coreRule]).groupOf {} .empty).1
        = (mixed.groupOf {} .empty).1 := by
  have hdelete : Rule.Edit {} .empty mixed.book.exporter [coreRule, brokenRule] :=
    @Rule.Edit.delete {} .empty [] [coreRule, brokenRule] labRule (by decide)
  have hreplace : Rule.Edit {} .empty [coreRule, brokenRule] [coreRule] :=
    @Rule.Edit.replaceAfter {} .empty [] [brokenRule] [] coreRule (by decide)
  have hedits : Relation.ReflTransGen (Rule.Edit {} .empty) mixed.book.exporter [coreRule] :=
    .tail (.single hdelete) hreplace
  obtain ⟨-, -, -, hsame⟩ := mixed.groupOf_eq_recorded {} .empty .empty
  exact ⟨hedits, by decide, by decide, by decide, (hsame [coreRule] .empty hedits).1⟩

end Classifier

end LabelRules
