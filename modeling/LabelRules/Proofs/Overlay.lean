import LabelRules.Proofs.Capabilities

set_option autoImplicit false

/-! # Labels as an overlay

A rule writes labels and never reads them. Laying one record over another (`Labels.over`) keeps the
fields of the upper record that are set and shows the lower one elsewhere. Each write commutes with
laying a record on top (`over_writeConnectivity` and its companions), so a run from the labels `c`
does what the run from no labels does, below `c` (`Program.runOnInterface_over`).
-/

namespace LabelRules

/-! ## Laying one record over another -/

/-- The fields of the upper record that are set, and those of the lower record elsewhere. -/
def Labels.over (upper lower : Labels) : Labels where
  connectivity := if upper.connectivity = "" then lower.connectivity else upper.connectivity
  provider := if upper.provider = "" then lower.provider else upper.provider
  boundary := if upper.boundary = .undefined then lower.boundary else upper.boundary

namespace Labels

@[simp] theorem over_empty (c : Labels) : c.over empty = c := by
  obtain ⟨connectivity, provider, boundary⟩ := c
  simp [Labels.over, empty, eq_comm]

/-- A write below a record is seen where the record leaves the field open, as if it were made from
above. -/
theorem over_writeConnectivity (c labels : Labels) (s : String) :
    c.over (Environment.writeConnectivity s labels)
      = Environment.writeConnectivity s (c.over labels) := by
  unfold Environment.writeConnectivity setConnectivity
  -- If `c` sets the field, neither write is seen; if not, the lower record decides on both sides.
  by_cases hc : c.connectivity = ""
  · by_cases hl : labels.connectivity = "" <;> simp [Labels.over, hc, hl]
  · by_cases hl : labels.connectivity = "" <;> simp [Labels.over, hc, hl]

theorem over_writeProvider (c labels : Labels) (s : String) :
    c.over (Environment.writeProvider s labels) = Environment.writeProvider s (c.over labels) := by
  unfold Environment.writeProvider setProvider
  by_cases hc : c.provider = ""
  · by_cases hl : labels.provider = "" <;> simp [Labels.over, hc, hl]
  · by_cases hl : labels.provider = "" <;> simp [Labels.over, hc, hl]

theorem over_writeBoundary (c labels : Labels) (b : Boundary) :
    c.over (Environment.writeBoundary b labels) = Environment.writeBoundary b (c.over labels) := by
  unfold Environment.writeBoundary setBoundary
  by_cases hc : c.boundary = .undefined
  · by_cases hl : labels.boundary = .undefined <;> simp [Labels.over, hc, hl]
  · by_cases hl : labels.boundary = .undefined <;> simp [Labels.over, hc, hl]

end Labels

/-! ## Runs below a record -/

/-- The first memory has the labels of the second one below the record `c`, and the same cache. -/
def Below (c : Labels) (m m' : Memory Labels) : Prop :=
  m.output = c.over m'.output ∧ m.cache = m'.cache

theorem below_fetchStable (c : Labels) : FetchStable (Below c) := by
  rintro m m' text ⟨houtput, hcache⟩
  exact ⟨houtput, by rw [hcache]⟩

/-- A write that commutes with laying `c` on top. -/
theorem below_writeStable {c : Labels} {write : Labels → Labels}
    (h : ∀ labels, c.over (write labels) = write (c.over labels)) :
    WriteStable (Below c) write write := by
  rintro m m' ⟨houtput, hcache⟩
  refine ⟨?_, hcache⟩
  rw [houtput, h]

namespace Environment

/-- No capability looks at the labels that are there, and each writes below `c` what it would write
without `c`. -/
theorem ofInterface_inStep_below (c : Labels) (exporter : Exporter) (interface : Interface) :
    (ofInterface exporter interface).InStep (Below c) (ofInterface exporter interface) where
  kind := rfl
  field := rfl
  call := callForInterface_inStep (below_fetchStable c)
    (fun s => below_writeStable fun labels => c.over_writeConnectivity labels s)
    (fun s => below_writeStable fun labels => c.over_writeProvider labels s)
    (fun b => below_writeStable fun labels => c.over_writeBoundary labels b)
  fetch := below_fetchStable c

end Environment

/-- **Labels are write-only.** Run from any labels, a program, whether it is typed or not, fires or
fails as it does from no labels and leaves the same cache; the labels afterwards, also after a
failure, are the old ones laid over those of the run from no labels. -/
theorem Program.runOnInterface_over (p : Program) (exporter : Exporter) (interface : Interface)
    (labels : Labels) (cache : Cache) :
    (p.runOnInterface exporter interface labels cache).1
        = (p.runOnInterface exporter interface .empty cache).1
      ∧ (p.runOnInterface exporter interface labels cache).2.cache
        = (p.runOnInterface exporter interface .empty cache).2.cache
      ∧ (p.runOnInterface exporter interface labels cache).2.output
        = labels.over (p.runOnInterface exporter interface .empty cache).2.output := by
  have hstart : Below labels ⟨labels, cache⟩ ⟨.empty, cache⟩ := ⟨by simp, rfl⟩
  obtain ⟨hresult, houtput, hcache⟩ :=
    p.run_inStep (Environment.ofInterface_inStep_below labels exporter interface) hstart
  exact ⟨hresult, hcache, houtput⟩

end LabelRules
