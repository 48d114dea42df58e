import LabelRules.Proofs.LabelWrites
import Mathlib.Data.List.Chain

set_option autoImplicit false

/-! # The labels of an interface over time

A record of labels may go through many runs, by any programs and for any subjects, with direct calls
of capabilities in between. To see the states that a record has in the middle of an evaluation, an
environment can note every state that a call leaves (`Environment.noted`); a run that is noted does
what the run does (`Environment.noted_inStep`). In every history the labels that are set are never
changed any more, and the texts among them are in normal form (`LabelStep.trail_setOnce`).
-/

namespace LabelRules

variable {σ τ α : Type}

/-! ## Labels that are kept, and labels in normal form -/

namespace Labels

/-- Every label that is set in the earlier record has its value in the later one. -/
structure Keeps (later earlier : Labels) : Prop where
  connectivity : earlier.connectivity ≠ "" → later.connectivity = earlier.connectivity
  provider : earlier.provider ≠ "" → later.provider = earlier.provider
  boundary : earlier.boundary ≠ .undefined → later.boundary = earlier.boundary

theorem Keeps.refl (labels : Labels) : labels.Keeps labels :=
  ⟨fun _ => rfl, fun _ => rfl, fun _ => rfl⟩

theorem Keeps.trans {last middle first : Labels} (h : last.Keeps middle)
    (h' : middle.Keeps first) : last.Keeps first := by
  constructor
  · intro hset
    have hmiddle := h'.connectivity hset
    exact (h.connectivity (hmiddle ▸ hset)).trans hmiddle
  · intro hset
    have hmiddle := h'.provider hset
    exact (h.provider (hmiddle ▸ hset)).trans hmiddle
  · intro hset
    have hmiddle := h'.boundary hset
    exact (h.boundary (hmiddle ▸ hset)).trans hmiddle

instance : Trans Keeps Keeps Keeps := ⟨Keeps.trans⟩

/-- A text of small letters, digits, dots, plus signs and dashes, which normalizing leaves alone. -/
structure IsNormalText (text : String) : Prop where
  chars : ∀ c ∈ text.toList,
    ('a' ≤ c ∧ c ≤ 'z') ∨ ('0' ≤ c ∧ c ≤ '9') ∨ c = '.' ∨ c = '+' ∨ c = '-'
  fixed : normalize text = text

theorem isNormalText_empty : IsNormalText "" := ⟨by simp, rfl⟩

theorem isNormalText_normalize (text : String) : IsNormalText (normalize text) where
  chars := fun _ hc => isLabelChar_iff.1 (isLabelChar_of_mem_normalize hc)
  fixed := normalize_normalize text

/-- The texts among the labels are in normal form. -/
structure IsNormal (labels : Labels) : Prop where
  connectivity : IsNormalText labels.connectivity
  provider : IsNormalText labels.provider

theorem isNormal_empty : empty.IsNormal := ⟨isNormalText_empty, isNormalText_empty⟩

end Labels

namespace Environment

section Writes

variable {name : String} {labels later : Labels}

theorem Writes.keeps (h : Writes name labels later) : later.Keeps labels := by
  cases h with
  | nothing => exact .refl labels
  | connectivity s =>
      unfold writeConnectivity Labels.setConnectivity
      split
      · next hopen => exact ⟨fun hset => absurd hopen hset, fun _ => rfl, fun _ => rfl⟩
      · exact .refl labels
  | provider s =>
      unfold writeProvider Labels.setProvider
      split
      · next hopen => exact ⟨fun _ => rfl, fun hset => absurd hopen hset, fun _ => rfl⟩
      · exact .refl labels
  | external | internal =>
      unfold writeBoundary Labels.setBoundary
      split
      · next hopen => exact ⟨fun _ => rfl, fun _ => rfl, fun hset => absurd hopen hset⟩
      · exact .refl labels

theorem Writes.isNormal (h : Writes name labels later) (hnormal : labels.IsNormal) :
    later.IsNormal := by
  cases h with
  | nothing => exact hnormal
  | connectivity s =>
      unfold writeConnectivity Labels.setConnectivity
      split
      · exact ⟨Labels.isNormalText_normalize s, hnormal.provider⟩
      · exact hnormal
  | provider s =>
      unfold writeProvider Labels.setProvider
      split
      · exact ⟨hnormal.connectivity, Labels.isNormalText_normalize s⟩
      · exact hnormal
  | external | internal =>
      unfold writeBoundary Labels.setBoundary
      split
      · exact ⟨hnormal.connectivity, hnormal.provider⟩
      · exact hnormal

end Writes

end Environment

/-! ## The states of a run -/

/-- A state together with the states that came before it, the latest first. -/
structure Trail (σ : Type) where
  now : σ
  before : List σ

namespace Trail

/-- All the states, the latest first. -/
def states (t : Trail σ) : List σ := t.now :: t.before

/-- The next state. -/
def push (t : Trail σ) (s : σ) : Trail σ := ⟨s, t.states⟩

end Trail

/-- Does on the present state of a trail what the run does, and notes the state that it leaves. -/
def Run.noted (x : Run σ α) : Run (Trail σ) α :=
  ExceptT.mk fun m =>
    let (result, m') := x.exec ⟨m.output.now, m.cache⟩
    (result, ⟨m.output.push m'.output, m'.cache⟩)

namespace Environment

/-- The environment that notes every state that a call leaves; nothing but calls changes it. -/
def noted (env : Environment σ) : Environment (Trail σ) where
  kind := env.kind
  field := env.field
  call := fun name args => (env.call name args).noted

/-- A trail, of which something is known, that has come to the output of the other memory. -/
def OnTrail (P : Trail σ → Prop) (m : Memory (Trail σ)) (m' : Memory σ) : Prop :=
  m.output.now = m'.output ∧ m.cache = m'.cache ∧ P m.output

/-- An environment and the one that notes the states are in step, and what every call preserves of
the trail is preserved. -/
theorem noted_inStep {env : Environment σ} {P : Trail σ → Prop}
    (hcall : ∀ (t : Trail σ) name args cache, P t →
      P (t.push ((env.call name args).exec ⟨t.now, cache⟩).2.output)) :
    env.noted.InStep (OnTrail P) env where
  kind := rfl
  field := rfl
  call := by
    rintro name args ⟨t, cache⟩ ⟨output, cache'⟩ ⟨hnow, hcache, hP⟩
    -- Both calls start from one and the same memory, the trail apart.
    obtain rfl : t.now = output := hnow
    obtain rfl : cache = cache' := hcache
    exact ⟨rfl, rfl, rfl, hcall t name args cache hP⟩
  fetch := by
    rintro m m' text ⟨hnow, hcache, hP⟩
    exact ⟨hnow, by rw [hcache], hP⟩

end Environment

/-! ## Actions -/

/-- What can be done in an environment: a program runs, or a function is called directly. -/
inductive Action where
  | run (p : Program)
  | call (name : String) (args : List Value)

namespace Action

/-- The memory after an action, whether it succeeds or fails. -/
def perform (env : Environment σ) (m : Memory σ) : Action → Memory σ
  | .run p => (p.run env m).2
  | .call name args => ((env.call name args).exec m).2

theorem perform_inStep {R : Memory σ → Memory τ → Prop} {env : Environment σ}
    {env' : Environment τ} (h : env.InStep R env') (a : Action) {m : Memory σ} {m' : Memory τ}
    (hm : R m m') : R (a.perform env m) (a.perform env' m') := by
  cases a with
  | run p => exact (p.run_inStep h hm).2
  | call name args => exact (h.call name args m m' hm).2

end Action

/-! ## Histories of a record -/

/-- A trail of labels on which each state comes from the one before it by one write, or by none, and
the texts are in normal form all along. -/
structure Trail.IsWritten (t : Trail Labels) : Prop where
  chain : t.states.IsChain fun later earlier => ∃ name, Environment.Writes name earlier later
  normal : ∀ state ∈ t.states, state.IsNormal

namespace Trail.IsWritten

variable {t : Trail Labels}

theorem start : IsWritten ⟨.empty, []⟩ where
  chain := .singleton _
  normal := by
    intro state hstate
    obtain rfl := List.mem_singleton.1 hstate
    exact Labels.isNormal_empty

/-- A call writes on. -/
theorem push (h : t.IsWritten) {name : String} {labels : Labels}
    (hwrites : Environment.Writes name t.now labels) : (t.push labels).IsWritten where
  chain := .cons_cons ⟨name, hwrites⟩ h.chain
  normal := by
    intro state hstate
    rcases List.mem_cons.1 hstate with rfl | hbefore
    · exact hwrites.isNormal (h.normal t.now List.mem_cons_self)
    · exact h.normal state hbefore

/-- No write changes what is set, so no number of writes does. -/
theorem pairwise_keeps (h : t.IsWritten) : t.states.Pairwise Labels.Keeps := by
  have hkeeps : t.states.IsChain Labels.Keeps := h.chain.imp fun _ _ ⟨_, hwrites⟩ => hwrites.keeps
  exact hkeeps.pairwise

end Trail.IsWritten

/-- An action for an interface of an exporter, with some cache. -/
structure LabelStep where
  exporter : Exporter
  interface : Interface
  cache : Cache
  action : Action

namespace LabelStep

/-- The environment of the step. -/
def environment (s : LabelStep) : Environment Labels := .ofInterface s.exporter s.interface

/-- The labels after a step. -/
def next (labels : Labels) (s : LabelStep) : Labels :=
  (s.action.perform s.environment ⟨labels, s.cache⟩).output

/-- The trail of labels after a step, with all the states that the step goes through. -/
def extend (t : Trail Labels) (s : LabelStep) : Trail Labels :=
  (s.action.perform s.environment.noted ⟨t, s.cache⟩).output

/-- The labels after some steps, from no labels. -/
def labels (steps : List LabelStep) : Labels := steps.foldl next .empty

/-- The trail of labels of some steps, from no labels. -/
def trail (steps : List LabelStep) : Trail Labels := steps.foldl extend ⟨.empty, []⟩

/-- A step adds states to the trail, by writes. -/
theorem extend_isWritten (s : LabelStep) {t : Trail Labels} (h : t.IsWritten) :
    (extend t s).now = next t.now s ∧ t.states <:+ (extend t s).states
      ∧ (extend t s).IsWritten := by
  have hstep : s.environment.noted.InStep
      (Environment.OnTrail fun t' => t.states <:+ t'.states ∧ t'.IsWritten) s.environment := by
    refine Environment.noted_inStep ?_
    -- A call in the middle of the step, from whatever trail the calls before it have left.
    rintro t' name args cache ⟨hsuffix, hwritten⟩
    have hwrites := Environment.callForInterface_writes name args ⟨t'.now, cache⟩
    exact ⟨hsuffix.trans (List.suffix_cons _ _), hwritten.push hwrites⟩
  have hmemory : Environment.OnTrail (fun t' => t.states <:+ t'.states ∧ t'.IsWritten)
      ⟨t, s.cache⟩ ⟨t.now, s.cache⟩ := ⟨rfl, rfl, List.suffix_refl _, h⟩
  obtain ⟨hnow, -, hP⟩ := s.action.perform_inStep hstep hmemory
  exact ⟨hnow, hP⟩

/-- So does any number of steps. -/
theorem foldl_extend_isWritten (steps : List LabelStep) {t : Trail Labels} (h : t.IsWritten) :
    (steps.foldl extend t).now = steps.foldl next t.now
      ∧ t.states <:+ (steps.foldl extend t).states ∧ (steps.foldl extend t).IsWritten := by
  induction steps generalizing t with
  | nil => exact ⟨rfl, List.suffix_refl _, h⟩
  | cons s steps ih =>
      obtain ⟨hnow, hsuffix, hwritten⟩ := s.extend_isWritten h
      obtain ⟨hnow', hsuffix', hwritten'⟩ := ih hwritten
      rw [hnow] at hnow'
      exact ⟨hnow', hsuffix.trans hsuffix', hwritten'⟩

/-- The labels after each part of the steps are on the trail of all of them. -/
theorem labels_take_mem (steps : List LabelStep) (n : Nat) :
    labels (steps.take n) ∈ (trail steps).states := by
  -- The trail of the first steps is the older end of the trail of all of them.
  obtain ⟨hpart, -, hwritten⟩ := foldl_extend_isWritten (steps.take n) .start
  obtain ⟨-, hsuffix, -⟩ := foldl_extend_isWritten (steps.drop n) hwritten
  rw [← List.foldl_append, List.take_append_drop] at hsuffix
  exact hsuffix.subset (List.mem_cons.2 (.inl hpart.symm))

/-- **Labels are set once.** In every history of one record that starts with no labels, a label that
is set in one state, be it in the middle of an evaluation, has its value in all later states; and in
all states the connectivity and the provider consist of small letters, digits, dots, plus signs and
dashes, and normalizing leaves them alone. No state is missed: each one comes from the one before it
by one write at most, and those after each of the steps are among them. -/
theorem trail_setOnce (steps : List LabelStep) :
    (trail steps).states.Pairwise Labels.Keeps
      ∧ (∀ state ∈ (trail steps).states, state.IsNormal)
      ∧ ((trail steps).states.IsChain fun later earlier =>
        ∃ name, Environment.Writes name earlier later)
      ∧ (trail steps).now = labels steps
      ∧ ∀ n, labels (steps.take n) ∈ (trail steps).states := by
  obtain ⟨hnow, -, hwritten⟩ := foldl_extend_isWritten steps .start
  exact ⟨hwritten.pairwise_keeps, hwritten.normal, hwritten.chain, hnow, labels_take_mem steps⟩

/-- A direct call that sets the provider, and a program that marks the boundary before it fails. -/
def transitSteps : List LabelStep :=
  [⟨{}, {}, .empty, .call Capability.classifyProvider [.string "Cogent!"]⟩,
    ⟨{}, {}, .empty, .run ⟨"classifyExternal() && classifyProvider(1)", .interface,
      .binary .and (.call Capability.classifyExternal [])
        (.call Capability.classifyProvider [.literal (.number 1)])⟩⟩]

/-- In the middle of the program the provider is in normal form and the boundary is marked. -/
theorem trail_setOnce_transit :
    { provider := "cogent", boundary := .external } ∈ (trail transitSteps).states
      ∧ Labels.IsNormal { provider := "cogent", boundary := .external } := by
  have hmem : { provider := "cogent", boundary := .external } ∈ (trail transitSteps).states := by
    decide
  exact ⟨hmem, (trail_setOnce transitSteps).2.1 _ hmem⟩

end LabelStep

end LabelRules
