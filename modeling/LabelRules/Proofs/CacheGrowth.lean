import LabelRules.Proofs.ReachedEffects
import LabelRules.Proofs.Subjects

set_option autoImplicit false

/-! # The patterns that an evaluation leaves in the cache

Fetching a text adds it to the cache if it is a pattern and not there yet, and changes nothing
otherwise (`Cache.mem_texts_fetch`, `Cache.fetch_eq_self`). An evaluation asks the cache at two
sorts of node: at a `matches` on two strings, and at a call of a capability that takes a pattern, if
it is given three strings (`Subject.AsksFor`). So the cache holds afterwards what it held before and
the patterns that were asked for, and evaluating once more adds nothing (`Subject.evaluate_cache`).
-/

namespace LabelRules

variable {σ α : Type}

/-! ## Fetching -/

theorem Pattern.isValid_iff {text : String} :
    isValid text = true ↔ ∃ p, compile text = .ok p := by
  unfold isValid
  cases compile text with
  | ok p => simp [Except.toBool]
  | error e => simp [Except.toBool]

namespace Cache

variable {c : Cache} {text : String}

theorem get?_iff {p : Pattern} :
    c.get? text = some p ↔ text ∈ c.texts ∧ Pattern.compile text = .ok p := by
  constructor
  · intro h
    refine ⟨?_, compile_of_get? h⟩
    by_contra hmem
    rw [get?_eq_none_iff.2 hmem] at h
    cases h
  · rintro ⟨hmem, hcompile⟩
    cases hget : c.get? text with
    | none => exact absurd hmem (get?_eq_none_iff.1 hget)
    | some q =>
        have hq := compile_of_get? hget
        rw [hcompile] at hq
        rw [Except.ok.inj hq]

/-- A text that is in the cache, or that is no pattern, is not added. -/
theorem fetch_eq_self (h : Pattern.isValid text = true → text ∈ c.texts) :
    (c.fetch text).2 = c := by
  unfold fetch
  split
  · rfl
  · next hget =>
      split
      · rfl
      · next p hcompile =>
          exact absurd (h (Pattern.isValid_iff.2 ⟨p, hcompile⟩)) (get?_eq_none_iff.1 hget)

/-- A pattern is in the cache once it has been fetched. -/
theorem mem_texts_fetch {t : String} :
    t ∈ (c.fetch text).2.texts ↔ t ∈ c.texts ∨ t = text ∧ Pattern.isValid t = true := by
  -- Either the cache stays as it is, or the text is a pattern that was not there.
  by_cases hidle : Pattern.isValid text = true → text ∈ c.texts
  · rw [fetch_eq_self hidle]
    constructor
    · exact .inl
    · rintro (h | ⟨rfl, hvalid⟩)
      · exact h
      · exact hidle hvalid
  · obtain ⟨hvalid, hmem⟩ := Classical.not_imp.1 hidle
    obtain ⟨p, hp⟩ := Pattern.isValid_iff.1 hvalid
    have htexts : (c.fetch text).2.texts = text :: c.texts := by
      unfold fetch
      split
      · next hget => exact absurd (get?_iff.1 hget).1 hmem
      · split
        · next hcompile =>
            rw [hp] at hcompile
            cases hcompile
        · rfl
    rw [htexts, List.mem_cons]
    constructor
    · rintro (rfl | h)
      · exact .inr ⟨rfl, hvalid⟩
      · exact .inl h
    · rintro (h | ⟨rfl, -⟩)
      · exact .inr h
      · exact .inl rfl

/-- The cache after texts have been fetched, one after the other. -/
def fetchAll (c : Cache) (texts : List String) : Cache :=
  texts.foldl (fun c text => (c.fetch text).2) c

theorem mem_texts_fetchAll {texts : List String} {t : String} :
    t ∈ (c.fetchAll texts).texts ↔ t ∈ c.texts ∨ t ∈ texts ∧ Pattern.isValid t = true := by
  induction texts generalizing c with
  | nil => simp [fetchAll]
  | cons text texts ih =>
      have hcons : c.fetchAll (text :: texts) = (c.fetch text).2.fetchAll texts := rfl
      rw [hcons, ih, mem_texts_fetch, List.mem_cons, or_and_right, or_assoc]

theorem fetchAll_eq_self {texts : List String}
    (h : ∀ t ∈ texts, Pattern.isValid t = true → t ∈ c.texts) : c.fetchAll texts = c := by
  induction texts with
  | nil => rfl
  | cons text texts ih =>
      have hcons : c.fetchAll (text :: texts) = (c.fetch text).2.fetchAll texts := rfl
      rw [hcons, fetch_eq_self (h text List.mem_cons_self)]
      exact ih fun t ht => h t (List.mem_cons_of_mem text ht)

/-- What has been fetched once is not added again. -/
theorem fetchAll_fetchAll (texts : List String) :
    (c.fetchAll texts).fetchAll texts = c.fetchAll texts :=
  fetchAll_eq_self fun _ ht hvalid => mem_texts_fetchAll.2 (.inr ⟨ht, hvalid⟩)

end Cache

/-! ## What an effect looks up -/

/-- The functions of a schema that take a pattern. -/
def Schema.patternFunctions (s : Schema) : List String :=
  (s.functions.map (·.1)).filter Capability.takesPattern

/-- The text that an effect looks up in the cache: the pattern of a `matches`, or the second of the
three strings that a capability that takes a pattern is given. -/
def Effect.pattern? (kind : Kind) : Effect → Option String
  | .fetch text => some text
  | .call name args =>
    if name ∈ (Schema.of kind).patternFunctions then
      (Capability.patternArguments? args).map fun (_, text, _) => text
    else none

namespace Capability

theorem filledTemplate_cache (name : String) (args : List Value) (m : Memory σ) :
    ((filledTemplate name args).exec m).2.cache
      = m.cache.fetchAll ((patternArguments? args).map fun (_, text, _) => text).toList := by
  rcases filledTemplate_cases (σ := σ) name args with
    ⟨subject, text, template, hargs, hrun⟩ | ⟨hargs, e, hrun⟩
  · have hcache : ((Run.pattern text >>= fun pattern =>
        (pure (pattern.expand? subject template) : Run σ (Option String))).exec m).2.cache
          = (m.cache.fetch text).2 := by
      rw [Run.exec_bind, Run.exec_pattern]
      cases (m.cache.fetch text).1 with
      | ok pattern => rfl
      | error e => rfl
    rw [hrun, hargs, hcache]
    rfl
  · rw [hrun, hargs]
    rfl

/-- Recording what a run returns leaves the cache that the run leaves. -/
theorem bind_record_cache (x : Run σ α) (f : α → Option String) (write : String → σ → σ)
    (m : Memory σ) :
    ((x >>= fun a => record write (f a)).exec m).2.cache = (x.exec m).2.cache := by
  rw [Run.exec_bind]
  rcases x.exec m with ⟨r, m'⟩
  cases r with
  | error e => rfl
  | ok a =>
      simp only
      cases f a with
      | some s => rfl
      | none => rfl

end Capability

namespace Environment

open Capability

variable (name : String) (args : List Value)

theorem markBoundary_cache (b : Boundary) (m : Memory Labels) :
    ((markBoundary name args b).exec m).2.cache = m.cache := by
  unfold markBoundary
  rw [Run.exec_bind, Run.exec_ofExcept]
  cases noArgument name args with
  | ok _ => rfl
  | error e => rfl

theorem callForExporter_cache (m : Memory (Option String)) :
    ((callForExporter name args).exec m).2.cache
      = m.cache.fetchAll ((Effect.call name args).pattern? .exporter).toList := by
  have hfunctions : (Schema.of .exporter).patternFunctions = [classifyRegex] := by decide
  simp only [Effect.pattern?, hfunctions, List.mem_singleton]
  unfold callForExporter
  split
  · next hname =>
      rw [bind_record_cache _ some, Run.exec_ofExcept, if_neg (by rw [hname]; decide)]
      rfl
  split
  · exact (bind_record_cache _ id _ m).trans (filledTemplate_cache name args m)
  · rfl

theorem callForInterface_cache (m : Memory Labels) :
    ((callForInterface name args).exec m).2.cache
      = m.cache.fetchAll ((Effect.call name args).pattern? .interface).toList := by
  have hfunctions : (Schema.of .interface).patternFunctions
      = [classifyConnectivityRegex, classifyProviderRegex] := by decide
  simp only [Effect.pattern?, hfunctions, List.mem_cons, List.not_mem_nil, or_false]
  unfold callForInterface
  split
  · next hname =>
      rw [bind_record_cache _ some, Run.exec_ofExcept, if_neg (by rw [hname]; decide)]
      rfl
  split
  · next hname =>
      rw [bind_record_cache _ some, Run.exec_ofExcept, if_neg (by rw [hname]; decide)]
      rfl
  split
  · next hname =>
      rw [if_pos (.inl hname)]
      exact (bind_record_cache _ id _ m).trans (filledTemplate_cache name args m)
  split
  · next hname =>
      rw [if_pos (.inr hname)]
      exact (bind_record_cache _ id _ m).trans (filledTemplate_cache name args m)
  split
  · next hname =>
      rw [markBoundary_cache, if_neg (by rw [hname]; decide)]
      rfl
  split
  · next hname =>
      rw [markBoundary_cache, if_neg (by rw [hname]; decide)]
      rfl
  · next hconnectivity hprovider _ _ =>
      rw [if_neg (not_or.2 ⟨hconnectivity, hprovider⟩)]
      rfl

end Environment

/-! ## What an evaluation asks for -/

namespace Subject

variable (x : Subject)

theorem perform_cache (effect : Effect) (m : Memory x.Output) :
    (effect.perform x.environment m).cache
      = m.cache.fetchAll (effect.pattern? x.kind).toList := by
  cases effect with
  | fetch text => rfl
  | call name args =>
      cases x with
      | exporter e => exact Environment.callForExporter_cache name args m
      | interface e i => exact Environment.callForInterface_cache name args m

theorem foldl_perform_cache (effects : List Effect) (m : Memory x.Output) :
    (effects.foldl (Effect.perform x.environment) m).cache
      = m.cache.fetchAll (effects.filterMap (Effect.pattern? x.kind)) := by
  induction effects generalizing m with
  | nil => rfl
  | cons effect effects ih =>
      rw [List.foldl_cons, ih, perform_cache]
      cases hpattern : effect.pattern? x.kind with
      | none =>
          rw [List.filterMap_cons_none hpattern]
          rfl
      | some text =>
          rw [List.filterMap_cons_some hpattern]
          rfl

/-- The texts that the evaluation of an expression looks up in the cache, in order. -/
def askedPatterns (m : Memory x.Output) (e : Expr) : List String :=
  (effects x.environment m e).filterMap (Effect.pattern? x.kind)

theorem evaluate_fetchAll (m : Memory x.Output) (e : Expr) :
    ((evaluate x.environment e).exec m).2.cache = m.cache.fetchAll (x.askedPatterns m e) := by
  rw [exec_evaluate, foldl_perform_cache]
  rfl

/-- What is looked up does not depend on the memory, so not on what has been looked up before. -/
theorem askedPatterns_eq (m m' : Memory x.Output) (e : Expr) :
    x.askedPatterns m e = x.askedPatterns m' e := by
  have hdone : effects x.environment m e = effects x.environment m' e :=
    effects_inStep x.environment_serves.steady e trivial
  rw [askedPatterns, hdone, askedPatterns]

/-- **The evaluation of an expression asks the cache for a text**: it reaches a `matches` of which
both sides are strings, the right one the text; or it reaches a call of a capability that takes a
pattern, and the arguments are three strings, the second one the text. -/
inductive AsksFor (e : Expr) (text : String) : Prop
  | matching {l r : Expr} {s : String} (hreaches : Reaches x.environment e (.binary .matches l r))
      (hl : (evaluate x.environment l).Returns (.string s))
      (hr : (evaluate x.environment r).Returns (.string text))
  | filling {name : String} {args : List Expr} {subject template : String}
      (hreaches : Reaches x.environment e (.call name args))
      (hname : name ∈ (Schema.of x.kind).patternFunctions)
      (hargs : (evaluateAll x.environment args).Returns
        [.string subject, .string text, .string template])

theorem mem_askedPatterns {m : Memory x.Output} {e : Expr} {text : String} :
    text ∈ x.askedPatterns m e ↔ x.AsksFor e text := by
  have hmem (effect : Effect) :
      effect ∈ effects x.environment m e ↔ DoneWithin x.environment e effect :=
    mem_effects_iff x.environment_serves.steady
  unfold askedPatterns
  rw [List.mem_filterMap]
  constructor
  · rintro ⟨effect, heffect, hpattern⟩
    obtain ⟨node, hreaches, hdone⟩ := (hmem effect).1 heffect
    cases hdone with
    | fetch hl hr =>
        obtain rfl := Option.some.inj hpattern
        exact .matching hreaches hl hr
    | call hargs =>
        simp only [Effect.pattern?] at hpattern
        split at hpattern
        · next hname =>
            obtain ⟨⟨subject, text, template⟩, htexts, rfl⟩ := Option.map_eq_some_iff.1 hpattern
            obtain rfl := Capability.patternArguments?_eq_some_iff.1 htexts
            exact .filling hreaches hname hargs
        · cases hpattern
  · intro h
    cases h with
    | matching hreaches hl hr =>
        exact ⟨_, (hmem _).2 ⟨_, hreaches, .fetch hl hr⟩, rfl⟩
    | filling hreaches hname hargs =>
        refine ⟨_, (hmem _).2 ⟨_, hreaches, .call hargs⟩, ?_⟩
        simp only [Effect.pattern?, if_pos hname]
        rfl

/-- **The cache holds what was reached.** After an evaluation, be it with a value or with an error,
the cache holds the patterns that it held before and those that the evaluation asked for; a text
that is no pattern is not among them, and each is there with its compiled form. Evaluated once more
on the same subject, whatever the output is by then, the expression has the same value, or fails
with the same error, and leaves the cache as it is. -/
theorem evaluate_cache (e : Expr) (m : Memory x.Output) :
    (∀ text, text ∈ ((evaluate x.environment e).exec m).2.cache.texts
        ↔ text ∈ m.cache.texts ∨ x.AsksFor e text ∧ Pattern.isValid text = true)
    ∧ (∀ text p, ((evaluate x.environment e).exec m).2.cache.get? text = some p
        ↔ (text ∈ m.cache.texts ∨ x.AsksFor e text) ∧ Pattern.compile text = .ok p)
    ∧ ∀ output,
        ((evaluate x.environment e).exec
            ⟨output, ((evaluate x.environment e).exec m).2.cache⟩).1
          = ((evaluate x.environment e).exec m).1
        ∧ ((evaluate x.environment e).exec
            ⟨output, ((evaluate x.environment e).exec m).2.cache⟩).2.cache
          = ((evaluate x.environment e).exec m).2.cache := by
  have htexts (text : String) : text ∈ ((evaluate x.environment e).exec m).2.cache.texts
      ↔ text ∈ m.cache.texts ∨ x.AsksFor e text ∧ Pattern.isValid text = true := by
    rw [evaluate_fetchAll, Cache.mem_texts_fetchAll, mem_askedPatterns]
  refine ⟨htexts, fun text p => ?_, fun output => ⟨?_, ?_⟩⟩
  · rw [Cache.get?_iff, htexts]
    refine and_congr_left fun hcompile => or_congr_right (and_iff_left ?_)
    exact Pattern.isValid_iff.2 ⟨p, hcompile⟩
  · have hsteady : (evaluate x.environment e).Steady :=
      evaluate_inStep x.environment_serves.steady e
    exact hsteady.result_eq _ _
  · -- Once more the same texts are looked up, and the patterns among them are there by now.
    rw [evaluate_fetchAll, evaluate_fetchAll, x.askedPatterns_eq ⟨output, _⟩ m,
      Cache.fetchAll_fetchAll]

/-- A side that is passed over is not looked up, a text that is no pattern is not added, and nothing
is looked up after the failure with it. -/
example : ((evaluate (Environment.ofExporter {}) (.array [
    .binary .and (.binary .matches (.literal (.string "a")) (.literal (.string "b")))
      (.binary .matches (.literal (.string "a")) (.literal (.string "c"))),
    .call Capability.classifyRegex [.literal (.string "a"),
      .binary .add (.literal (.string "d")) (.literal (.string "e")), .literal (.string "f")],
    .binary .matches (.literal (.string "a")) (.literal (.string "(")),
    .binary .matches (.literal (.string "a")) (.literal (.string "g"))])).exec
      ⟨none, .empty⟩).2.cache.texts = ["de", "b"] := by
  decide +kernel

end Subject

end LabelRules
