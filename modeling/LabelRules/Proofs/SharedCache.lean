import LabelRules.Proofs.Subjects
import Mathlib.Logic.Function.Basic

set_option autoImplicit false

/-! # A cache that is shared

A cache answers with the compiled form of the text that it is asked for, whatever else it holds, so
two runs that differ in nothing but their caches cannot tell them apart: they have the same result
and leave the same output (`SameOutput`, `Subject.environment_inStep`). The programs that share a
cache may therefore run in any order, and the cache may be emptied between them, and every answer
is the one that an empty cache would have led to (`CacheUse.history_eq_alone`,
`cache_transparent`).
-/

namespace LabelRules

variable {σ ρ : Type}

/-! ## Two caches -/

/-- Two memories with the same output; their caches may differ. -/
def SameOutput (m m' : Memory σ) : Prop := m.output = m'.output

theorem sameOutput_fetchStable : FetchStable (SameOutput (σ := σ)) := fun _ _ _ h => h

theorem sameOutput_writeStable (write : σ → σ) : WriteStable SameOutput write write :=
  fun _ _ h => congrArg write h

namespace Environment

/-- No capability looks at the cache for anything but the compiled form of a pattern. -/
theorem ofExporter_inStep_sameOutput (exporter : Exporter) :
    (ofExporter exporter).InStep SameOutput (ofExporter exporter) where
  kind := rfl
  field := rfl
  call := callForExporter_inStep sameOutput_fetchStable fun _ => sameOutput_writeStable _
  fetch := sameOutput_fetchStable

theorem ofInterface_inStep_sameOutput (exporter : Exporter) (interface : Interface) :
    (ofInterface exporter interface).InStep SameOutput (ofInterface exporter interface) where
  kind := rfl
  field := rfl
  call := callForInterface_inStep sameOutput_fetchStable (fun _ => sameOutput_writeStable _)
    (fun _ => sameOutput_writeStable _) fun _ => sameOutput_writeStable _
  fetch := sameOutput_fetchStable

end Environment

theorem Subject.environment_inStep (x : Subject) :
    x.environment.InStep SameOutput x.environment := by
  cases x with
  | exporter e => exact Environment.ofExporter_inStep_sameOutput e
  | interface e i => exact Environment.ofInterface_inStep_sameOutput e i

namespace Program

/-- What a program does to an exporter does not depend on the cache. -/
theorem runOnExporter_fst (p : Program) (exporter : Exporter) (cache cache' : Cache) :
    (p.runOnExporter exporter cache).1 = (p.runOnExporter exporter cache').1 := by
  have hstart : SameOutput (⟨none, cache⟩ : Memory (Option String)) ⟨none, cache'⟩ := rfl
  obtain ⟨hresult, houtput⟩ :=
    p.run_inStep (Environment.ofExporter_inStep_sameOutput exporter) hstart
  unfold SameOutput at houtput
  unfold runOnExporter
  simp only [hresult, houtput]

/-- What a program does to an interface does not depend on the cache. -/
theorem runOnInterface_sameOutput (p : Program) (exporter : Exporter) (interface : Interface)
    (labels : Labels) (cache cache' : Cache) :
    (p.runOnInterface exporter interface labels cache).1
        = (p.runOnInterface exporter interface labels cache').1
      ∧ (p.runOnInterface exporter interface labels cache).2.output
        = (p.runOnInterface exporter interface labels cache').2.output :=
  p.run_inStep (Environment.ofInterface_inStep_sameOutput exporter interface) rfl

end Program

/-! ## Histories of one cache -/

/-- What can happen to a cache that is shared: a program runs on an exporter, or on an interface
whose record of labels is one of several; a pattern is fetched; the cache is emptied. Who runs a
program has no state but the cache, so it is not said which of those who share it does so. -/
inductive CacheUse (ρ : Type) where
  | runOnExporter (p : Program) (exporter : Exporter)
  | runOnInterface (p : Program) (exporter : Exporter) (interface : Interface) (record : ρ)
  | fetch (text : String)
  | clear

namespace CacheUse

/-- What is seen of a use: whether the program fires, or its failure, and the group or the labels
that are left; or the pattern. -/
inductive Answer where
  | onExporter (outcome : Except RunFailure (Bool × Option String))
  | onInterface (outcome : Except RunFailure Bool) (labels : Labels)
  | fetched (result : Except Pattern.Error Pattern)
  | cleared

section History

variable [DecidableEq ρ]

/-- Uses a cache; the output is the records of labels. -/
def perform (m : Memory (ρ → Labels)) : CacheUse ρ → Answer × Memory (ρ → Labels)
  | .runOnExporter p exporter =>
    let (outcome, cache) := p.runOnExporter exporter m.cache
    (.onExporter outcome, { m with cache })
  | .runOnInterface p exporter interface record =>
    let (outcome, m') := p.runOnInterface exporter interface (m.output record) m.cache
    (.onInterface outcome m'.output, ⟨Function.update m.output record m'.output, m'.cache⟩)
  | .fetch text =>
    let (result, cache) := m.cache.fetch text
    (.fetched result, { m with cache })
  | .clear => (.cleared, { m with cache := .empty })

/-- Uses one cache again and again: the answers, and the memory afterwards. -/
def history (m : Memory (ρ → Labels)) : List (CacheUse ρ) → List Answer × Memory (ρ → Labels)
  | [] => ([], m)
  | use :: uses =>
    let (answer, m) := use.perform m
    let (answers, m) := history m uses
    (answer :: answers, m)

/-- The same uses, each of an empty cache of its own: the answers, and the records afterwards. -/
def historyAlone (records : ρ → Labels) : List (CacheUse ρ) → List Answer × (ρ → Labels)
  | [] => ([], records)
  | use :: uses =>
    let (answer, m) := use.perform ⟨records, .empty⟩
    let (answers, records) := historyAlone m.output uses
    (answer :: answers, records)

/-- The answer to one use, and the records after it, do not depend on the cache. -/
theorem perform_eq_alone (use : CacheUse ρ) (m : Memory (ρ → Labels)) :
    (use.perform m).1 = (use.perform ⟨m.output, .empty⟩).1
      ∧ (use.perform m).2.output = (use.perform ⟨m.output, .empty⟩).2.output := by
  cases use with
  | runOnExporter p exporter =>
      have houtcome := p.runOnExporter_fst exporter m.cache .empty
      exact ⟨congrArg Answer.onExporter houtcome, rfl⟩
  | runOnInterface p exporter interface record =>
      obtain ⟨houtcome, hlabels⟩ :=
        p.runOnInterface_sameOutput exporter interface (m.output record) m.cache .empty
      exact ⟨congrArg₂ Answer.onInterface houtcome hlabels,
        congrArg (Function.update m.output record) hlabels⟩
  | fetch text =>
      have hresult : (m.cache.fetch text).1 = (Cache.empty.fetch text).1 := by
        rw [Cache.fst_fetch, Cache.fst_fetch]
      exact ⟨congrArg Answer.fetched hresult, rfl⟩
  | clear => exact ⟨rfl, rfl⟩

/-- Those who share a cache get the answers that each would get from an empty cache of its own. -/
theorem history_eq_alone (uses : List (CacheUse ρ)) (m : Memory (ρ → Labels)) :
    (history m uses).1 = (historyAlone m.output uses).1
      ∧ (history m uses).2.output = (historyAlone m.output uses).2 := by
  induction uses generalizing m with
  | nil => exact ⟨rfl, rfl⟩
  | cons use uses ih =>
      obtain ⟨hanswer, houtput⟩ := use.perform_eq_alone m
      obtain ⟨hanswers, hrecords⟩ := ih (use.perform m).2
      -- The caches after the first use differ, but the rest only takes the records over from it.
      rw [houtput] at hanswers hrecords
      exact ⟨congrArg₂ List.cons hanswer hanswers, hrecords⟩

end History

end CacheUse

/-- **The cache is transparent.** From any output and with any two caches an expression has the
same value, or fails with the same error, and leaves the same output. So in every history of runs
that share a cache, with patterns fetched and the cache emptied in between, each run has the
outcome and leaves the group or the labels that it would with an empty cache of its own. -/
theorem cache_transparent [DecidableEq ρ] :
    (∀ (x : Subject) (e : Expr) (output : x.Output) (cache cache' : Cache),
      ((evaluate x.environment e).exec ⟨output, cache⟩).1
          = ((evaluate x.environment e).exec ⟨output, cache'⟩).1
        ∧ ((evaluate x.environment e).exec ⟨output, cache⟩).2.output
          = ((evaluate x.environment e).exec ⟨output, cache'⟩).2.output)
    ∧ ∀ (uses : List (CacheUse ρ)) (records : ρ → Labels) (cache : Cache),
      (CacheUse.history ⟨records, cache⟩ uses).1 = (CacheUse.historyAlone records uses).1
        ∧ (CacheUse.history ⟨records, cache⟩ uses).2.output
          = (CacheUse.historyAlone records uses).2 := by
  constructor
  · intro x e output cache cache'
    exact evaluate_inStep x.environment_inStep e ⟨output, cache⟩ ⟨output, cache'⟩ rfl
  · intro uses records cache
    exact CacheUse.history_eq_alone uses ⟨records, cache⟩

end LabelRules
