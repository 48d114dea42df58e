import LabelRules.Proofs.Capabilities
import LabelRules.Proofs.Effects

set_option autoImplicit false

/-! # The groups that an evaluation records

A call of `classify`, and a call of `classifyRegex` whose pattern matches, answers `true` and
records a group; all other calls leave the group as it is (`Effect.group?`,
`callForExporter_group`). So the group after an evaluation is the last one that was recorded, or the
group from before. What is recorded, and in which order, is seen in an environment that notes the
output of every call that answers `true` (`Environment.noting`); it does not depend on the group
from before (`Exporter.evaluate_records`).
-/

namespace LabelRules

variable {σ α : Type}

/-! ## What a call records -/

/-- Is the result the value `true`? -/
def answersTrue : Except RunError Value → Bool
  | .ok (.bool true) => true
  | _ => false

namespace Capability

/-- The text that is the only argument. -/
def givenText? : List Value → Option String
  | [.string s] => some s
  | _ => none

/-- The template that is the third of three texts, filled from the first match of the second in the
first; nothing if the second is no pattern or does not match. -/
def filledText? (args : List Value) : Option String :=
  (patternArguments? args).bind fun (subject, text, template) =>
    match Pattern.compile text with
    | .ok pattern => pattern.expand? subject template
    | .error _ => none

theorem givenText?_eq_none {args : List Value} (h : ∀ s, args ≠ [.string s]) :
    givenText? args = none := by
  unfold givenText?
  split
  · next s => exact absurd rfl (h s)
  · rfl

theorem onlyText_outcome (name : String) (args : List Value) :
    Outcome (fun s => some s = givenText? args) (fun _ => givenText? args = none)
      (onlyText name args) := by
  match args with
  | [v] =>
      rcases text_cases v with ⟨s, rfl⟩ | ⟨hv, e, he⟩
      · exact rfl
      · rw [onlyText, he]
        refine givenText?_eq_none ?_
        rintro s ⟨⟩
        exact hv s rfl
  | [] => exact givenText?_eq_none fun s hs => by cases hs
  | _ :: _ :: _ => exact givenText?_eq_none fun s hs => by cases hs

theorem filledTemplate_ends_filledText (name : String) (args : List Value) :
    (filledTemplate name args : Run σ (Option String)).Ends
      (fun filled => filled = filledText? args) (fun _ => filledText? args = none) := by
  unfold filledText?
  rcases filledTemplate_cases (σ := σ) name args with
    ⟨subject, text, template, hargs, hrun⟩ | ⟨hargs, e, hrun⟩
  · intro m
    rw [hrun, hargs, Run.exec_bind, Run.exec_pattern, Cache.fst_fetch]
    simp only [Option.bind_some]
    cases Pattern.compile text with
    | ok pattern => exact rfl
    | error e => exact rfl
  · rw [hrun, hargs]
    exact .throw rfl

/-- A capability that records a text answers `true` exactly if there is one, and writes just
that. -/
theorem record_bind {x : Run σ α} {f : α → Option String} {text? : Option String}
    {m : Memory σ} (houtput : (x.exec m).2.output = m.output)
    (hx : x.Ends (fun a => f a = text?) (fun _ => text? = none)) (write : String → σ → σ) :
    answersTrue ((x >>= fun a => record write (f a)).exec m).1 = text?.isSome
      ∧ ((x >>= fun a => record write (f a)).exec m).2.output
        = text?.elim m.output (write · m.output) := by
  have hends := hx m
  rw [Run.exec_bind]
  rcases hexec : x.exec m with ⟨r, m'⟩
  rw [hexec] at houtput hends
  obtain ⟨output, cache⟩ := m'
  obtain rfl : output = m.output := houtput
  cases r with
  | ok a =>
      obtain rfl : f a = text? := hends
      cases hf : f a with
      | some s =>
          simp only [hf]
          exact ⟨rfl, rfl⟩
      | none =>
          simp only [hf]
          exact ⟨rfl, rfl⟩
  | error e =>
      obtain rfl : text? = none := hends
      exact ⟨rfl, rfl⟩

end Capability

/-- The group that a call of a function for exporters records: `classify` its text, and
`classifyRegex` its filled template. -/
def Effect.group? : Effect → Option String
  | .fetch _ => none
  | .call name args =>
    if name = Capability.classify then Capability.givenText? args
    else if name = Capability.classifyRegex then Capability.filledText? args
    else none

/-- A call answers `true` exactly if it records a group; otherwise it leaves the group as it is. -/
theorem Environment.callForExporter_group (name : String) (args : List Value)
    (m : Memory (Option String)) :
    answersTrue ((callForExporter name args).exec m).1 = (Effect.call name args).group?.isSome
      ∧ ((callForExporter name args).exec m).2.output
        = (Effect.call name args).group?.elim m.output some := by
  unfold callForExporter
  simp only [Effect.group?]
  split
  · exact Capability.record_bind (by rw [Run.exec_ofExcept])
      (.ofExcept (Capability.onlyText_outcome name args)) fun s _ => some s
  split
  · exact Capability.record_bind (f := id) (Capability.filledTemplate_output name args m)
      (Capability.filledTemplate_ends_filledText name args) fun s _ => some s
  · exact ⟨rfl, rfl⟩

/-! ## A ledger of outputs -/

/-- An output, and the outputs that were noted on the way to it, the earliest first. -/
structure Ledger (σ : Type) where
  now : σ
  noted : List σ

/-- Does what the run does, and notes the output that it leaves if it answers `true`. -/
def Run.noting (x : Run σ Value) : Run (Ledger σ) Value :=
  ExceptT.mk fun m =>
    let (result, m') := x.exec ⟨m.output.now, m.cache⟩
    (result, ⟨⟨m'.output, m.output.noted ++ if answersTrue result then [m'.output] else []⟩,
      m'.cache⟩)

/-- The environment that notes the output of every call that answers `true`. -/
def Environment.noting (env : Environment σ) : Environment (Ledger σ) where
  kind := env.kind
  field := env.field
  call := fun name args => (env.call name args).noting

/-- The output is the present one of a ledger, and the cache is the same. -/
def OnLedger (m : Memory (Ledger σ)) (m' : Memory σ) : Prop :=
  m.output.now = m'.output ∧ m.cache = m'.cache

/-- Noting changes nothing but the ledger. -/
theorem Environment.noting_inStep (env : Environment σ) : env.noting.InStep OnLedger env where
  kind := rfl
  field := rfl
  call := by
    rintro name args ⟨⟨now, noted⟩, cache⟩ ⟨output, cache'⟩ ⟨hnow, hcache⟩
    obtain rfl : now = output := hnow
    obtain rfl : cache = cache' := hcache
    exact ⟨rfl, rfl, rfl⟩
  fetch := by
    rintro m m' text ⟨hnow, hcache⟩
    exact ⟨hnow, by rw [hcache]⟩

/-! ## The groups of an evaluation -/

/-- Two memories with the same cache; their outputs may differ. -/
def SameCache (m m' : Memory σ) : Prop := m.cache = m'.cache

theorem sameCache_fetchStable : FetchStable (SameCache (σ := σ)) := by
  intro m m' text h
  unfold SameCache at *
  rw [h]

namespace Exporter

variable (x : Exporter)

/-- The groups that an evaluation records, in order. -/
def recordedGroups (e : Expr) (m : Memory (Option String)) : List String :=
  (effects (.ofExporter x) m e).filterMap Effect.group?

section Noting

variable (m : Memory (Ledger (Option String)))

/-- An effect notes the group that it records, and nothing if it records none. -/
theorem perform_noting (effect : Effect) :
    (effect.perform (Environment.ofExporter x).noting m).output
      = ⟨effect.group?.or m.output.now, m.output.noted ++ (effect.group?.map some).toList⟩ := by
  cases effect with
  | fetch text => simp [Effect.perform, Effect.group?]
  | call name args =>
      obtain ⟨hanswer, houtput⟩ :=
        Environment.callForExporter_group name args ⟨m.output.now, m.cache⟩
      have hperform : ((Effect.call name args).perform (Environment.ofExporter x).noting m).output
          = ⟨((Environment.callForExporter name args).exec ⟨m.output.now, m.cache⟩).2.output,
            m.output.noted ++
              if answersTrue ((Environment.callForExporter name args).exec
                ⟨m.output.now, m.cache⟩).1 then
                [((Environment.callForExporter name args).exec ⟨m.output.now, m.cache⟩).2.output]
              else []⟩ := rfl
      rw [hperform, hanswer, houtput]
      cases (Effect.call name args).group? <;> simp

/-- So do effects one after the other. -/
theorem foldl_perform_noting (effects : List Effect) :
    (effects.foldl (Effect.perform (Environment.ofExporter x).noting) m).output
      = ⟨(effects.filterMap Effect.group?).getLast?.or m.output.now,
        m.output.noted ++ (effects.filterMap Effect.group?).map some⟩ := by
  induction effects generalizing m with
  | nil => simp
  | cons effect effects ih =>
      rw [List.foldl_cons, ih, perform_noting]
      cases hgroup : effect.group? with
      | none => simp [hgroup]
      | some group => simp [hgroup, List.getLast?_cons]

end Noting

/-- No capability looks at the group that is there. -/
theorem environment_inStep_sameCache :
    (Environment.ofExporter x).InStep SameCache (Environment.ofExporter x) where
  kind := rfl
  field := rfl
  call := Environment.callForExporter_inStep sameCache_fetchStable fun _ _ _ h => h
  fetch := sameCache_fetchStable

/-- **An evaluation records the same groups from every group.** For an exporter, an expression has
the same value, or fails with the same error, whatever group there is before, and leaves the same
cache. The groups that its calls record are the same, too: an environment that notes the group of
every call that answers `true` does all that is done without it, and notes these groups, in this
order, be it up to a failure. The group that is left is the last of them, and the one from before if
there are none. -/
theorem evaluate_records (e : Expr) (group : Option String) (cache : Cache) :
    (∀ group',
      ((evaluate (.ofExporter x) e).exec ⟨group', cache⟩).1
          = ((evaluate (.ofExporter x) e).exec ⟨group, cache⟩).1
        ∧ ((evaluate (.ofExporter x) e).exec ⟨group', cache⟩).2.cache
          = ((evaluate (.ofExporter x) e).exec ⟨group, cache⟩).2.cache
        ∧ x.recordedGroups e ⟨group', cache⟩ = x.recordedGroups e ⟨group, cache⟩)
    ∧ ((evaluate (Environment.ofExporter x).noting e).exec ⟨⟨group, []⟩, cache⟩).1
      = ((evaluate (.ofExporter x) e).exec ⟨group, cache⟩).1
    ∧ ((evaluate (Environment.ofExporter x).noting e).exec ⟨⟨group, []⟩, cache⟩).2.output
      = ⟨((evaluate (.ofExporter x) e).exec ⟨group, cache⟩).2.output,
        (x.recordedGroups e ⟨group, cache⟩).map some⟩
    ∧ ((evaluate (.ofExporter x) e).exec ⟨group, cache⟩).2.output
      = (x.recordedGroups e ⟨group, cache⟩).getLast?.or group := by
  have hledger : OnLedger ⟨⟨group, []⟩, cache⟩ ⟨group, cache⟩ := ⟨rfl, rfl⟩
  have hnoting := (Environment.ofExporter x).noting_inStep
  obtain ⟨hresult, hnow, -⟩ := evaluate_inStep hnoting e _ _ hledger
  -- Both environments do the same, so that the ledger can be read off what is done without it.
  have hnoted : ((evaluate (Environment.ofExporter x).noting e).exec ⟨⟨group, []⟩, cache⟩).2.output
      = ⟨(x.recordedGroups e ⟨group, cache⟩).getLast?.or group,
        (x.recordedGroups e ⟨group, cache⟩).map some⟩ := by
    rw [exec_evaluate, effects_inStep hnoting e hledger, foldl_perform_noting]
    rfl
  have hgroup : ((evaluate (.ofExporter x) e).exec ⟨group, cache⟩).2.output
      = (x.recordedGroups e ⟨group, cache⟩).getLast?.or group := by
    rw [← hnow, hnoted]
  refine ⟨fun group' => ?_, hresult, ?_, hgroup⟩
  · have hcache : SameCache ⟨group', cache⟩ ⟨group, cache⟩ := rfl
    have hsteady := x.environment_inStep_sameCache
    obtain ⟨hvalue, hleft⟩ := evaluate_inStep hsteady e _ _ hcache
    refine ⟨hvalue, hleft, ?_⟩
    unfold recordedGroups
    rw [effects_inStep hsteady e hcache]
  · rw [hnoted, hgroup]

/-- Calls in arguments come first, a side that is passed over records nothing, and neither does what
comes after a failure. -/
example : recordedGroups {} (.array [
    .call Capability.classify [.ternary (.call Capability.classify [.literal (.string "a")])
      (.literal (.string "b")) (.literal (.string "c"))],
    .binary .or (.call Capability.classify [.literal (.string "d")])
      (.call Capability.classify [.literal (.string "e")]),
    .call Capability.classify [.literal .nil],
    .call Capability.classify [.literal (.string "f")]]) ⟨none, .empty⟩ = ["a", "b", "d"] := by
  decide

end Exporter

end LabelRules
