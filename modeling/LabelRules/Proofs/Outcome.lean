import LabelRules.Proofs.Lockstep

set_option autoImplicit false

/-! # How a run can end

`Outcome P E r` says that a result `r` is a value with the property `P` or an error with the
property `E`, and `Run.Ends` says it of the result of a run from every memory; it composes along
the operations of runs (`Run.Ends.bind`). A run whose result does not depend on the memory is
steady (`Run.Steady`); such a run always returns the value, or always fails with the error, that it
once ends with (`Run.Ends.steady`).
-/

namespace LabelRules

variable {σ α β : Type}

/-- A value with one property, or an error with another. -/
def Outcome {ε : Type} (P : α → Prop) (E : ε → Prop) : Except ε α → Prop
  | .ok a => P a
  | .error e => E e

theorem Outcome.mono {ε : Type} {P Q : α → Prop} {E F : ε → Prop} {r : Except ε α}
    (h : Outcome P E r) (hP : ∀ a, P a → Q a) (hE : ∀ e, E e → F e) : Outcome Q F r := by
  cases r with
  | ok a => exact hP a h
  | error e => exact hE e h

theorem Outcome.mapError {ε φ : Type} {P : α → Prop} {E : φ → Prop} {f : ε → φ} {r : Except ε α}
    (h : Outcome P (fun e => E (f e)) r) : Outcome P E (r.mapError f) := by
  cases r with
  | ok a => exact h
  | error e => exact h

/-- What the result is, beside what is known of it. -/
theorem Outcome.eq {ε : Type} {P : α → Prop} {E : ε → Prop} {r : Except ε α}
    (h : Outcome P E r) : Outcome (fun a => r = .ok a ∧ P a) (fun e => r = .error e ∧ E e) r := by
  cases r with
  | ok a => exact ⟨rfl, h⟩
  | error e => exact ⟨rfl, h⟩

namespace Run

/-- From every memory the run returns a value with one property or fails with an error with
another. -/
def Ends (x : Run σ α) (P : α → Prop) (E : RunError → Prop) : Prop :=
  ∀ m, Outcome P E (x.exec m).1

/-- From every memory the run returns the value. -/
def Returns (x : Run σ α) (a : α) : Prop := ∀ m, (x.exec m).1 = .ok a

/-- From every memory the run fails with the error. -/
def Fails (x : Run σ α) (e : RunError) : Prop := ∀ m, (x.exec m).1 = .error e

/-- The result of the run does not depend on the memory. -/
def Steady (x : Run σ α) : Prop := InStep (fun _ _ => True) x x

theorem Steady.result_eq {x : Run σ α} (h : x.Steady) (m m' : Memory σ) :
    (x.exec m).1 = (x.exec m').1 :=
  (h m m' trivial).1

/-- What a steady run returns from one memory, it returns from all. -/
theorem Steady.returns {x : Run σ α} (h : x.Steady) {m : Memory σ} {a : α}
    (hm : (x.exec m).1 = .ok a) : x.Returns a :=
  fun m' => (h.result_eq m' m).trans hm

/-! ## How the ends of runs compose -/

namespace Ends

variable {P : α → Prop} {Q : β → Prop} {E : RunError → Prop}

theorem pure {a : α} (h : P a) : Ends (Pure.pure a : Run σ α) P E := fun _ => h

theorem throw {e : RunError} (h : E e) : Ends (MonadExcept.throw e : Run σ α) P E := fun _ => h

theorem ofExcept {r : Except RunError α} (h : Outcome P E r) :
    Ends (Run.ofExcept r : Run σ α) P E := by
  intro m
  rw [exec_ofExcept]
  exact h

theorem change {f : σ → σ} : Ends (Run.change f) (fun _ => True) E := fun _ => trivial

/-- Running on after a run: what it returns is all that the rest may rely on. -/
theorem bind {x : Run σ α} {f : α → Run σ β} (hx : x.Ends P E) (hf : ∀ a, P a → (f a).Ends Q E) :
    (x >>= f).Ends Q E := by
  intro m
  have h := hx m
  rw [exec_bind]
  rcases hexec : x.exec m with ⟨r, m'⟩
  rw [hexec] at h
  cases r with
  | ok a => exact hf a h m'
  | error e => exact h

/-- Running on after a result that is known. -/
theorem bind_ok {r : Except RunError α} {a : α} {f : α → Run σ β} (hr : r = .ok a)
    (hf : (f a).Ends Q E) : (Run.ofExcept r >>= f).Ends Q E := by
  subst hr
  intro m
  rw [exec_bind, exec_ofExcept]
  exact hf m

theorem mono {P' : α → Prop} {E' : RunError → Prop} {x : Run σ α} (hx : x.Ends P E)
    (hP : ∀ a, P a → P' a) (hE : ∀ e, E e → E' e) : x.Ends P' E' :=
  fun m => (hx m).mono hP hE

/-- Two descriptions of the ends of one run. -/
theorem and {P' : α → Prop} {E' : RunError → Prop} {x : Run σ α} (h : x.Ends P E)
    (h' : x.Ends P' E') : x.Ends (fun a => P a ∧ P' a) (fun e => E e ∧ E' e) := by
  intro m
  have hm := h m
  have hm' := h' m
  cases hresult : (x.exec m).1 with
  | ok a =>
      rw [hresult] at hm hm'
      exact ⟨hm, hm'⟩
  | error e =>
      rw [hresult] at hm hm'
      exact ⟨hm, hm'⟩

/-- A text that is no pattern is the only thing that can go wrong when a pattern is fetched. -/
theorem pattern {text : String} (h : Pattern.isValid text = false → E (.invalidPattern text)) :
    Ends (Run.pattern text : Run σ Pattern) (fun _ => True) E := by
  intro m
  rw [exec_pattern, Cache.fst_fetch]
  cases hcompile : Pattern.compile text with
  | ok p => trivial
  | error e => exact h (by rw [Pattern.isValid, hcompile]; rfl)

/-- A steady run ends from every memory as it ends from one. -/
theorem steady {x : Run σ α} (hx : x.Ends P E) (hsteady : x.Steady) :
    x.Ends (fun a => x.Returns a ∧ P a) (fun e => x.Fails e ∧ E e) := by
  intro m
  have h := hx m
  cases hresult : (x.exec m).1 with
  | ok a =>
      rw [hresult] at h
      exact ⟨fun m' => (hsteady.result_eq m' m).trans hresult, h⟩
  | error e =>
      rw [hresult] at h
      exact ⟨fun m' => (hsteady.result_eq m' m).trans hresult, h⟩

end Ends

/-! ## Runs with one result -/

theorem Fails.bind {x : Run σ α} {e : RunError} (h : x.Fails e) (f : α → Run σ β) :
    (x >>= f).Fails e := by
  intro m
  have hx := h m
  rw [exec_bind]
  rcases hexec : x.exec m with ⟨r, m'⟩
  rw [hexec] at hx
  simp only at hx
  subst hx
  rfl

/-- A run that returns hands over its value and the memory that it leaves. -/
theorem Returns.exec_bind {x : Run σ α} {a : α} (h : x.Returns a) (f : α → Run σ β)
    (m : Memory σ) : (x >>= f).exec m = (f a).exec (x.exec m).2 := by
  have hx := h m
  rw [Run.exec_bind]
  rcases hexec : x.exec m with ⟨r, m'⟩
  rw [hexec] at hx
  simp only at hx
  subst hx
  rfl

theorem Returns.bind {x : Run σ α} {a : α} {f : α → Run σ β} {b : β}
    (h : x.Returns a) (hf : (f a).Returns b) : (x >>= f).Returns b := by
  intro m
  rw [h.exec_bind f m]
  exact hf _

theorem Returns.bind_fails {x : Run σ α} {a : α} {f : α → Run σ β} {e : RunError}
    (h : x.Returns a) (hf : (f a).Fails e) : (x >>= f).Fails e := by
  intro m
  rw [h.exec_bind f m]
  exact hf _

end Run

end LabelRules
