import LabelRules.Classifier
import LabelRules.Proofs.Overlay
import LabelRules.Proofs.SharedCache

set_option autoImplicit false

/-! # A pass over an interface

A pass threads one record of labels through its rules. Each rule does in the pass what it does
alone, below the labels that are there (`Program.runOnInterface_eq_alone`), so the pass can be read
off the trials of its rules alone: it tries the rules up to the first one that fires or fails, and
each label is the first value that one of them sets (`labelPass_result`, `labelPass_failed`). The
rules after that one are not looked at (`labelPass_take`).
-/

namespace LabelRules

/-! ## The first value of each label -/

namespace Labels

/-- Each label is the first value that is set, in the order of the records. -/
def firstSet (records : List Labels) : Labels where
  connectivity := ((records.map (·.connectivity)).find? (· ≠ "")).getD ""
  provider := ((records.map (·.provider)).find? (· ≠ "")).getD ""
  boundary := ((records.map (·.boundary)).find? (· ≠ .undefined)).getD .undefined

@[simp] theorem firstSet_nil : firstSet [] = empty := rfl

theorem firstSet_cons (r : Labels) (records : List Labels) :
    firstSet (r :: records) = r.over (firstSet records) := by
  unfold firstSet Labels.over
  congr 1
  · by_cases h : r.connectivity = "" <;> simp [h]
  · by_cases h : r.provider = "" <;> simp [h]
  · by_cases h : r.boundary = .undefined <;> simp [h]

@[simp] theorem empty_over (c : Labels) : empty.over c = c := by
  simp [Labels.over, empty]

theorem over_assoc (a b c : Labels) : (a.over b).over c = a.over (b.over c) := by
  unfold Labels.over
  congr 1
  · by_cases h : a.connectivity = "" <;> simp [h]
  · by_cases h : a.provider = "" <;> simp [h]
  · by_cases h : a.boundary = .undefined <;> simp [h]

end Labels

/-! ## Rules alone -/

/-- A rule alone: whether it fires, or its failure, and the labels that it leaves. -/
structure Trial where
  outcome : Except RunFailure Bool
  labels : Labels

namespace Trial

def failed (t : Trial) : Bool :=
  match t.outcome with
  | .ok _ => false
  | .error _ => true

/-- The rule fires or fails, so that a pass ends with it. -/
def endsPass (t : Trial) : Bool :=
  match t.outcome with
  | .ok fired => fired
  | .error _ => true

/-- The index of the first trial that ends a pass; if none does, that of the last one. -/
def endIndex (trials : List Trial) : Nat :=
  min (trials.findIdx endsPass) (trials.length - 1)

theorem endIndex_cons_of_endsPass {t : Trial} (h : t.endsPass = true) (ts : List Trial) :
    endIndex (t :: ts) = 0 := by
  simp [endIndex, List.findIdx_cons, h]

theorem endIndex_cons_cons {t : Trial} (h : t.endsPass = false) (u : Trial) (ts : List Trial) :
    endIndex (t :: u :: ts) = endIndex (u :: ts) + 1 := by
  have hfind : (t :: u :: ts).findIdx endsPass = (u :: ts).findIdx endsPass + 1 := by
    rw [List.findIdx_cons, h]
    rfl
  simp only [endIndex, hfind, List.length_cons]
  omega

end Trial

/-- A rule for interfaces run alone, from no labels. -/
def Rule.trial (exporter : Exporter) (interface : Interface) (cache : Cache)
    (rule : Rule .interface) : Trial :=
  let (outcome, m) := rule.program.runOnInterface exporter interface .empty cache
  ⟨outcome, m.output⟩

section Pass

variable (exporter : Exporter) (interface : Interface)

/-- From any labels and with any cache a program does what it does alone, below the labels. -/
theorem Program.runOnInterface_eq_alone (p : Program) (m : Memory Labels) (fresh : Cache) :
    (p.runOnInterface exporter interface m.output m.cache).1
        = (p.runOnInterface exporter interface .empty fresh).1
      ∧ (p.runOnInterface exporter interface m.output m.cache).2.output
        = m.output.over (p.runOnInterface exporter interface .empty fresh).2.output := by
  obtain ⟨hresult, -, houtput⟩ := p.runOnInterface_over exporter interface m.output m.cache
  obtain ⟨hresult', houtput'⟩ :=
    p.runOnInterface_sameOutput exporter interface .empty m.cache fresh
  exact ⟨hresult.trans hresult', houtput.trans (congrArg m.output.over houtput')⟩

/-! ## The rules of a pass -/

variable (fresh : Cache)

/-- A rule that ends the pass: its failure is that of the pass, its labels come last. -/
theorem labelPass_cons_of_endsPass {rule : Rule .interface}
    (h : (rule.trial exporter interface fresh).endsPass = true) (m : Memory Labels)
    (rules : List (Rule .interface)) :
    (labelPass exporter interface m (rule :: rules)).result
        = m.output.over (rule.trial exporter interface fresh).labels
      ∧ (labelPass exporter interface m (rule :: rules)).failed
        = (rule.trial exporter interface fresh).failed
      ∧ labelPass exporter interface m (rule :: rules) = labelPass exporter interface m [rule] := by
  obtain ⟨hresult, houtput⟩ :=
    rule.program.runOnInterface_eq_alone exporter interface m fresh
  rcases hrun : rule.program.runOnInterface exporter interface m.output m.cache with ⟨r, m'⟩
  rw [hrun] at hresult houtput
  simp only at hresult houtput
  unfold Trial.endsPass Trial.failed Rule.trial at *
  simp only [← hresult] at h ⊢
  unfold labelPass
  rw [hrun]
  cases r with
  | error e => exact ⟨houtput, rfl, rfl⟩
  | ok fired =>
      simp only at h
      subst h
      exact ⟨houtput, rfl, rfl⟩

/-- A rule that does not end the pass leaves its labels below those that are there. -/
theorem labelPass_cons_of_not_endsPass {rule : Rule .interface}
    (h : (rule.trial exporter interface fresh).endsPass = false) (m : Memory Labels) :
    ∃ m' : Memory Labels,
      m'.output = m.output.over (rule.trial exporter interface fresh).labels
      ∧ ∀ rules, labelPass exporter interface m (rule :: rules)
        = labelPass exporter interface m' rules := by
  obtain ⟨hresult, houtput⟩ :=
    rule.program.runOnInterface_eq_alone exporter interface m fresh
  rcases hrun : rule.program.runOnInterface exporter interface m.output m.cache with ⟨r, m'⟩
  rw [hrun] at hresult houtput
  refine ⟨m', houtput, fun rules => ?_⟩
  simp only at hresult
  unfold Trial.endsPass Rule.trial at h
  simp only [← hresult] at h
  cases r with
  | error e => cases h
  | ok fired =>
      simp only at h
      subst h
      rw [labelPass, hrun]

/-- The trials of the rules of a pass. -/
abbrev trials (rules : List (Rule .interface)) : List Trial :=
  rules.map (Rule.trial exporter interface fresh)

/-- The labels after a pass: what was there, and then the first value that a tried rule sets. -/
theorem labelPass_result (rules : List (Rule .interface)) (m : Memory Labels) :
    (labelPass exporter interface m rules).result
      = m.output.over (.firstSet (((trials exporter interface fresh rules).take
          (Trial.endIndex (trials exporter interface fresh rules) + 1)).map (·.labels))) := by
  induction rules generalizing m with
  | nil => simp [labelPass]
  | cons rule rules ih =>
      cases h : (rule.trial exporter interface fresh).endsPass with
      | true =>
          rw [(labelPass_cons_of_endsPass exporter interface fresh h m rules).1]
          simp [trials, Trial.endIndex_cons_of_endsPass h, Labels.firstSet_cons]
      | false =>
          obtain ⟨m', houtput, hpass⟩ :=
            labelPass_cons_of_not_endsPass exporter interface fresh h m
          rw [hpass, ih, houtput, Labels.over_assoc, ← Labels.firstSet_cons]
          -- The last rule is tried whatever it does, so its index does not go up any more.
          cases rules with
          | nil => simp [trials]
          | cons next rest =>
              simp only [trials, List.map_cons, Trial.endIndex_cons_cons h, List.take_succ_cons]

/-- A pass fails if the rule that it ends with does. -/
theorem labelPass_failed (rules : List (Rule .interface)) (m : Memory Labels) :
    (labelPass exporter interface m rules).failed
      = ((trials exporter interface fresh rules)[
          Trial.endIndex (trials exporter interface fresh rules)]?).any Trial.failed := by
  induction rules generalizing m with
  | nil => rfl
  | cons rule rules ih =>
      cases h : (rule.trial exporter interface fresh).endsPass with
      | true =>
          rw [(labelPass_cons_of_endsPass exporter interface fresh h m rules).2.1]
          simp [trials, Trial.endIndex_cons_of_endsPass h]
      | false =>
          obtain ⟨m', -, hpass⟩ := labelPass_cons_of_not_endsPass exporter interface fresh h m
          rw [hpass, ih]
          cases rules with
          | nil =>
              have hfailed : (rule.trial exporter interface fresh).failed = false := by
                unfold Trial.endsPass at h
                unfold Trial.failed
                split <;> simp_all
              simp [trials, Trial.endIndex, hfailed]
          | cons next rest =>
              simp only [trials, List.map_cons, Trial.endIndex_cons_cons h,
                List.getElem?_cons_succ]

/-- The rules after the one that a pass ends with have no effect on it. -/
theorem labelPass_take (rules : List (Rule .interface)) (m : Memory Labels) :
    labelPass exporter interface m
        (rules.take (Trial.endIndex (trials exporter interface fresh rules) + 1))
      = labelPass exporter interface m rules := by
  induction rules generalizing m with
  | nil => rfl
  | cons rule rules ih =>
      cases h : (rule.trial exporter interface fresh).endsPass with
      | true =>
          simp only [trials, List.map_cons, Trial.endIndex_cons_of_endsPass h, List.take_succ_cons,
            List.take_zero]
          exact (labelPass_cons_of_endsPass exporter interface fresh h m rules).2.2.symm
      | false =>
          obtain ⟨m', -, hpass⟩ := labelPass_cons_of_not_endsPass exporter interface fresh h m
          cases rules with
          | nil => simp
          | cons next rest =>
              rw [hpass, ← ih m']
              simp only [trials, List.map_cons, Trial.endIndex_cons_cons h, List.take_succ_cons]
              exact hpass _

end Pass

namespace Classifier

variable (c : Classifier) (exporter : Exporter) (interface : Interface) (fresh : Cache)

/-- The rules for interfaces, each tried alone. -/
def interfaceTrials : List Trial := trials exporter interface fresh c.book.interface

/-- The index of the first rule for interfaces that, alone, fires or fails; if none does, of the
last one. -/
def lastTried : Nat := Trial.endIndex (c.interfaceTrials exporter interface fresh)

/-- The classifier without the rules for interfaces after the last one that is tried. -/
def cutAfterLastTried : Classifier :=
  c.reload { c.book with
    interface := c.book.interface.take (c.lastTried exporter interface fresh + 1) }

/-- **A pass is a merge of its rules run alone.** Each label of an interface is the first value that
one of the tried rules sets when it is run alone from no labels; the last of them, the first rule
that fires or fails, counts with what it has set, also if it fails afterwards. The number of failed
passes over interfaces grows by one if the last tried rule fails and stays otherwise, and the number
of failed passes over exporters stays. Without the rules after it the labels, both numbers and the
cache are the same. -/
theorem labelsOf_eq_firstSet (cache : Cache) :
    (c.labelsOf exporter interface cache).1
        = .firstSet (((c.interfaceTrials exporter interface fresh).take
            (c.lastTried exporter interface fresh + 1)).map (·.labels))
      ∧ (c.labelsOf exporter interface cache).2.1.interfaceErrors
        = c.interfaceErrors
          + (if ((c.interfaceTrials exporter interface fresh)[
                c.lastTried exporter interface fresh]?).any Trial.failed then 1 else 0)
      ∧ (c.labelsOf exporter interface cache).2.1.exporterErrors = c.exporterErrors
      ∧ c.labelsOf exporter interface cache
        = (let (labels, c', cache') :=
            (c.cutAfterLastTried exporter interface fresh).labelsOf exporter interface cache
          (labels, c'.reload c.book, cache')) := by
  have hresult := labelPass_result exporter interface fresh c.book.interface ⟨.empty, cache⟩
  have hfailed := labelPass_failed exporter interface fresh c.book.interface ⟨.empty, cache⟩
  have hcut : labelPass exporter interface ⟨.empty, cache⟩
      (c.cutAfterLastTried exporter interface fresh).book.interface
        = labelPass exporter interface ⟨.empty, cache⟩ c.book.interface :=
    labelPass_take exporter interface fresh c.book.interface ⟨.empty, cache⟩
  rw [Labels.empty_over] at hresult
  refine ⟨hresult, ?_, rfl, ?_⟩
  · have hnat : ∀ b : Bool, b.toNat = if b then 1 else 0 := by decide
    exact congrArg (c.interfaceErrors + ·) ((hnat _).trans (by rw [hfailed]; rfl))
  · simp only [labelsOf, hcut]
    rfl

end Classifier

end LabelRules
