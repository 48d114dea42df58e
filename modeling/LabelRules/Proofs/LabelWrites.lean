import LabelRules.Proofs.Capabilities

set_option autoImplicit false

/-! # What a call writes to labels

A call of a function, whether it succeeds or fails, writes one label of the record at most, and only
a capability that has this label writes it (`Environment.Writes`, `callForInterface_writes`). What
holds of every write holds of every call.
-/

namespace LabelRules

variable {σ α : Type}

namespace Environment

open Capability

/-- What a call of a function may do to labels: nothing, or one write, by a capability that has
this label. -/
inductive Writes (name : String) (labels : Labels) : Labels → Prop
  | nothing : Writes name labels labels
  | connectivity (s : String)
      (hname : name = classifyConnectivity ∨ name = classifyConnectivityRegex) :
      Writes name labels (writeConnectivity s labels)
  | provider (s : String) (hname : name = classifyProvider ∨ name = classifyProviderRegex) :
      Writes name labels (writeProvider s labels)
  | external (hname : name = classifyExternal) : Writes name labels (writeBoundary .external labels)
  | internal (hname : name = classifyInternal) : Writes name labels (writeBoundary .internal labels)

section Calls

variable {name : String} {m : Memory Labels}

/-- A capability that records a text writes it, once, or nothing. -/
theorem record_writes {x : Run Labels α} (hx : (x.exec m).2.output = m.output)
    {write : String → Labels → Labels} (hwrite : ∀ s, Writes name m.output (write s m.output))
    (f : α → Option String) :
    Writes name m.output ((x >>= fun a => record write (f a)).exec m).2.output := by
  rw [Run.exec_bind]
  rcases hexec : x.exec m with ⟨r, m'⟩
  rw [hexec] at hx
  obtain ⟨output, cache⟩ := m'
  obtain rfl : output = m.output := hx
  cases r with
  | error e => exact .nothing
  | ok a =>
      cases hf : f a with
      | none =>
          simp only [hf]
          exact .nothing
      | some s =>
          simp only [hf]
          exact hwrite s

/-- A mark writes the boundary, or nothing if it is given arguments. -/
theorem markBoundary_writes (args : List Value) {b : Boundary}
    (hwrite : Writes name m.output (writeBoundary b m.output)) :
    Writes name m.output ((markBoundary name args b).exec m).2.output := by
  unfold markBoundary
  rw [Run.exec_bind, Run.exec_ofExcept]
  cases noArgument name args with
  | error e => exact .nothing
  | ok _ => exact hwrite

end Calls

/-- A call, whether it succeeds or fails, does nothing to the labels or writes one of them. -/
theorem callForInterface_writes (name : String) (args : List Value) (m : Memory Labels) :
    Writes name m.output ((callForInterface name args).exec m).2.output := by
  have hvalue : ((Run.ofExcept (onlyText name args) : Run Labels String).exec m).2.output
      = m.output := by
    rw [Run.exec_ofExcept]
  have htemplate := filledTemplate_output name args m
  unfold callForInterface
  split
  · next hname => exact record_writes hvalue (fun s => .connectivity s (.inl hname)) some
  split
  · next hname => exact record_writes hvalue (fun s => .provider s (.inl hname)) some
  split
  · next hname => exact record_writes htemplate (fun s => .connectivity s (.inr hname)) id
  split
  · next hname => exact record_writes htemplate (fun s => .provider s (.inr hname)) id
  split
  · next hname => exact markBoundary_writes args (.external hname)
  split
  · next hname => exact markBoundary_writes args (.internal hname)
  · exact .nothing

end Environment

end LabelRules
