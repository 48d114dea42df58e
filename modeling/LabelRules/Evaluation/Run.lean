import LabelRules.Evaluation.Cache
import LabelRules.Evaluation.Error

set_option autoImplicit false

/-! # Runs

A run works on a `Memory`: the output that capabilities write, and the cache of compiled patterns.
A run that fails keeps what it has done to its memory until then (`exec_bind`). Main operations:
fetching a pattern (`Run.pattern`) and changing the output (`Run.change`).
-/

namespace LabelRules

/-- What a run works on. -/
structure Memory (σ : Type) where
  output : σ
  cache : Cache

/-- A run with an output of type `σ` and a result of type `α`. -/
abbrev Run (σ α : Type) : Type := ExceptT RunError (StateM (Memory σ)) α

namespace Run

variable {σ α β : Type}

/-- Runs from a memory: the result or the error, and the memory afterwards. -/
def exec (x : Run σ α) (m : Memory σ) : Except RunError α × Memory σ := x.run.run m

/-- The run that only has a result or an error. -/
def ofExcept (result : Except RunError α) : Run σ α := liftExcept result

/-- The compiled form of a text that is to be a pattern. -/
def pattern (text : String) : Run σ Pattern :=
  ExceptT.mk fun m =>
    let (result, cache) := m.cache.fetch text
    (result.mapError fun _ => .invalidPattern text, { m with cache })

/-- Changes the output. -/
def change (f : σ → σ) : Run σ Unit :=
  ExceptT.mk fun m => (.ok (), { m with output := f m.output })

@[simp] theorem exec_pure (a : α) (m : Memory σ) : exec (pure a : Run σ α) m = (.ok a, m) := rfl

@[simp] theorem exec_throw (e : RunError) (m : Memory σ) :
    exec (throw e : Run σ α) m = (.error e, m) := rfl

theorem exec_bind (x : Run σ α) (f : α → Run σ β) (m : Memory σ) :
    exec (x >>= f) m =
      match exec x m with
      | (.ok a, m') => exec (f a) m'
      | (.error e, m') => (.error e, m') := by
  simp only [exec, ExceptT.run_bind, StateT.run_bind]
  rcases h : x.run.run m with ⟨r, m'⟩
  cases r <;> rfl

@[simp] theorem exec_ofExcept (r : Except RunError α) (m : Memory σ) :
    exec (ofExcept r : Run σ α) m = (r, m) := by
  cases r <;> rfl

@[simp] theorem exec_change (f : σ → σ) (m : Memory σ) :
    exec (change f) m = (.ok (), ⟨f m.output, m.cache⟩) := rfl

theorem exec_pattern (text : String) (m : Memory σ) :
    exec (pattern text) m =
      ((m.cache.fetch text).1.mapError fun _ => .invalidPattern text,
        ⟨m.output, (m.cache.fetch text).2⟩) := rfl

end Run

end LabelRules
