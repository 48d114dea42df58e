import LabelRules.Proofs.GroupPass
import LabelRules.Proofs.LabelPass
import LabelRules.RuleBook.Setup
import Mathlib.Data.List.Infix

set_option autoImplicit false

/-! # Histories of classifiers

Several classifiers serve side by side (`Pool`): they classify, take other rules or fail to do so,
and hand out the rules that they have; some of them may use one cache. What a classifier answers
depends on nothing of this but the rules that it loaded last: it is the answer of a new classifier
with these rules (`Pool.after_start`). Its counts are the numbers of its passes that failed, and the
rules that it once handed out stay what they were.
-/

namespace LabelRules

/-! ## Passes and caches -/

section Pass

variable (exporter : Exporter) (interface : Interface) (cache : Cache)

/-- What a pass over an exporter finds does not depend on the cache. -/
theorem groupPass_cache (rules : List (Rule .exporter)) :
    (groupPass exporter cache rules).result = (groupPass exporter .empty rules).result
      ∧ (groupPass exporter cache rules).failed = (groupPass exporter .empty rules).failed := by
  obtain ⟨hresult, hfailed⟩ := groupPass_eq_decision exporter .empty rules cache
  obtain ⟨hresult', hfailed'⟩ := groupPass_eq_decision exporter .empty rules .empty
  exact ⟨hresult.trans hresult'.symm, hfailed.trans hfailed'.symm⟩

/-- What a pass over an interface finds does not depend on the cache. -/
theorem labelPass_cache (labels : Labels) (rules : List (Rule .interface)) :
    (labelPass exporter interface ⟨labels, cache⟩ rules).result
        = (labelPass exporter interface ⟨labels, .empty⟩ rules).result
      ∧ (labelPass exporter interface ⟨labels, cache⟩ rules).failed
        = (labelPass exporter interface ⟨labels, .empty⟩ rules).failed := by
  rw [labelPass_result _ _ .empty, labelPass_result _ _ .empty, labelPass_failed _ _ .empty,
    labelPass_failed _ _ .empty]
  exact ⟨rfl, rfl⟩

end Pass

/-! ## Moments of a history -/

section Moments

variable {α : Type}

/-- The events of a history, each with those before it. -/
def moments (events : List α) : List (List α × α) := events.inits.zip events

theorem moments_cons (event : α) (events : List α) :
    moments (event :: events) = ([], event) :: (moments events).map (Prod.map (event :: ·) id) := by
  unfold moments
  rw [List.inits_cons, List.zip_cons_cons, List.zip_map_left]

theorem moments_concat (events : List α) (event : α) :
    moments (events ++ [event]) = moments events ++ [(events, event)] := by
  induction events with
  | nil => rfl
  | cons first events ih =>
      rw [List.cons_append, moments_cons, ih, moments_cons]
      simp

end Moments

/-! ## Pools -/

/-- Classifiers, the caches that they use, and the rule books that they have handed out, the latest
last. -/
structure Pool (ι κ : Type) where
  member : ι → Classifier
  cache : κ → Cache
  snapshots : List RuleBook

namespace Pool

/-- What one of the classifiers is asked to do. -/
inductive Request (ι : Type) where
  | classifyExporter (who : ι) (exporter : Exporter)
  | classifyInterface (who : ι) (exporter : Exporter) (interface : Interface)
  | reload (who : ι) (source : RuleSource)
  | snapshot (who : ι)

/-- What it answers. -/
inductive Answer where
  | group (group : Option String)
  | labels (labels : Labels)
  | reload (outcome : Except SetupError Unit)
  | snapshot (book : RuleBook)

variable {ι κ : Type}

/-- The classifiers with some rule books, and with some caches. -/
def start (first : ι → RuleBook) (caches : κ → Cache) : Pool ι κ where
  member who := { book := first who }
  cache := caches
  snapshots := []

section Steps

variable [DecidableEq ι] [DecidableEq κ]

/-- Serves a request; each classifier uses its home among the caches. -/
def serve (home : ι → κ) (p : Pool ι κ) : Request ι → Answer × Pool ι κ
  | .classifyExporter who exporter =>
    let (group, c, cache) := (p.member who).groupOf exporter (p.cache (home who))
    (.group group, { p with
      member := Function.update p.member who c
      cache := Function.update p.cache (home who) cache })
  | .classifyInterface who exporter interface =>
    let (labels, c, cache) := (p.member who).labelsOf exporter interface (p.cache (home who))
    (.labels labels, { p with
      member := Function.update p.member who c
      cache := Function.update p.cache (home who) cache })
  | .reload who source =>
    let (outcome, c) := (p.member who).reloadFrom source
    (.reload outcome, { p with member := Function.update p.member who c })
  | .snapshot who =>
    (.snapshot (p.member who).book, { p with snapshots := p.snapshots ++ [(p.member who).book] })

/-- The pool after some requests, one after the other. -/
def after (home : ι → κ) (p : Pool ι κ) (requests : List (Request ι)) : Pool ι κ :=
  requests.foldl (fun p request => (p.serve home request).2) p

end Steps

/-! ## What a history says -/

section History

variable [DecidableEq ι]

namespace Request

/-- The rules that a classifier loads with a request, if it does. -/
def loads? (who : ι) : Request ι → Option RuleBook
  | .reload who' source => if who' = who then source.load.toOption else none
  | _ => none

/-- A pass of a classifier over an exporter that fails when it has the given rules. -/
def failsOnExporter (who : ι) (book : RuleBook) : Request ι → Bool
  | .classifyExporter who' exporter =>
    who' = who && (groupPass exporter .empty book.exporter).failed
  | _ => false

/-- A pass of a classifier over an interface that fails when it has the given rules. -/
def failsOnInterface (who : ι) (book : RuleBook) : Request ι → Bool
  | .classifyInterface who' exporter interface =>
    who' = who && (labelPass exporter interface ⟨.empty, .empty⟩ book.interface).failed
  | _ => false

/-- The classifier whose rules a request asks for. -/
def snapshotOf? : Request ι → Option ι
  | .snapshot who => some who
  | _ => none

end Request

variable (first : ι → RuleBook) (who : ι) (requests : List (Request ι))

/-- The rules that a classifier has loaded last; at first it has those that it started with. -/
def lastLoaded : RuleBook := ((requests.filterMap (Request.loads? who)).getLast?).getD (first who)

/-- How many requests of a history fail, each with the rules that a classifier has loaded last
before it. -/
def failures (fails : RuleBook → Request ι → Bool) : Nat :=
  (moments requests).countP fun moment => fails (lastLoaded first who moment.1) moment.2

/-- How many passes of a classifier over exporters fail. -/
def failedOnExporter : Nat := failures first who requests (Request.failsOnExporter who)

/-- How many passes of a classifier over interfaces fail. -/
def failedOnInterface : Nat := failures first who requests (Request.failsOnInterface who)

/-- The rules that are asked for, as they were loaded last before. -/
def taken : List RuleBook :=
  (moments requests).filterMap fun moment =>
    moment.2.snapshotOf?.map fun who => lastLoaded first who moment.1

/-! ## One more request -/

section Concat

variable (request : Request ι)

theorem lastLoaded_concat :
    lastLoaded first who (requests ++ [request])
      = (request.loads? who).getD (lastLoaded first who requests) := by
  unfold lastLoaded
  rw [List.filterMap_append]
  cases h : request.loads? who with
  | none => simp [h]
  | some book => simp [h]

theorem failures_concat (fails : RuleBook → Request ι → Bool) :
    failures first who (requests ++ [request]) fails
      = failures first who requests fails
        + (fails (lastLoaded first who requests) request).toNat := by
  unfold failures
  rw [moments_concat, List.countP_append, List.countP_singleton]
  cases fails (lastLoaded first who requests) request <;> simp

theorem taken_concat :
    taken first (requests ++ [request])
      = taken first requests
        ++ (request.snapshotOf?.map fun who => lastLoaded first who requests).toList := by
  unfold taken
  rw [moments_concat, List.filterMap_append]
  cases h : request.snapshotOf? <;> simp [h]

end Concat

end History

/-! ## Serving -/

section Serve

variable [DecidableEq ι] [DecidableEq κ] (home : ι → κ) (p : Pool ι κ) (who : ι)

/-- What a request does to a classifier, whatever is in the caches. -/
theorem member_serve (request : Request ι) :
    (p.serve home request).2.member who =
      { book := (request.loads? who).getD (p.member who).book
        exporterErrors := (p.member who).exporterErrors
          + (request.failsOnExporter who (p.member who).book).toNat
        interfaceErrors := (p.member who).interfaceErrors
          + (request.failsOnInterface who (p.member who).book).toNat } := by
  cases request with
  | classifyExporter who' exporter =>
      by_cases h : who' = who
      · subst h
        have hfailed := (groupPass_cache exporter (p.cache (home who'))
          (p.member who').book.exporter).2
        simp [serve, Classifier.groupOf, Request.loads?, Request.failsOnExporter,
          Request.failsOnInterface, hfailed]
      · simp [serve, Request.loads?, Request.failsOnExporter, Request.failsOnInterface, h,
          Function.update_of_ne (Ne.symm h)]
  | classifyInterface who' exporter interface =>
      by_cases h : who' = who
      · subst h
        have hfailed := (labelPass_cache exporter interface (p.cache (home who')) .empty
          (p.member who').book.interface).2
        simp [serve, Classifier.labelsOf, Request.loads?, Request.failsOnExporter,
          Request.failsOnInterface, hfailed]
      · simp [serve, Request.loads?, Request.failsOnExporter, Request.failsOnInterface, h,
          Function.update_of_ne (Ne.symm h)]
  | reload who' source =>
      by_cases h : who' = who
      · subst h
        cases hload : source.load with
        | error e =>
            simp [serve, Classifier.reloadFrom, Request.loads?, Request.failsOnExporter,
              Request.failsOnInterface, hload, Except.toOption]
        | ok book =>
            simp [serve, Classifier.reloadFrom, Classifier.reload, Request.loads?,
              Request.failsOnExporter, Request.failsOnInterface, hload, Except.toOption]
      · simp [serve, Request.loads?, Request.failsOnExporter, Request.failsOnInterface, h,
          Function.update_of_ne (Ne.symm h)]
  | snapshot who' => rfl

theorem snapshots_serve (request : Request ι) :
    (p.serve home request).2.snapshots
      = p.snapshots ++ (request.snapshotOf?.map fun who => (p.member who).book).toList := by
  cases request <;> simp [serve, Request.snapshotOf?]

/-- A reload that fails changes nothing. -/
theorem serve_reload_of_error {source : RuleSource} {e : SetupError}
    (h : source.load = .error e) :
    p.serve home (.reload who source) = (.reload (.error e), p) := by
  simp [serve, Classifier.reloadFrom, h]

theorem after_concat (requests : List (Request ι)) (request : Request ι) :
    after home p (requests ++ [request]) = ((after home p requests).serve home request).2 := by
  simp [after]

end Serve

/-! ## Histories -/

section Start

variable [DecidableEq ι] [DecidableEq κ] (home : ι → κ) (first : ι → RuleBook)
  (caches : κ → Cache) (requests : List (Request ι))

/-- A classifier has the rules that it loaded last, and the counts of its own failed passes. -/
theorem member_after (who : ι) :
    (after home (start first caches) requests).member who =
      { book := lastLoaded first who requests
        exporterErrors := failedOnExporter first who requests
        interfaceErrors := failedOnInterface first who requests } := by
  induction requests using List.reverseRecOn with
  | nil => rfl
  | append_singleton requests request ih =>
      rw [after_concat, member_serve, ih, lastLoaded_concat]
      unfold failedOnExporter failedOnInterface
      rw [failures_concat, failures_concat]

theorem snapshots_after :
    (after home (start first caches) requests).snapshots = taken first requests := by
  induction requests using List.reverseRecOn with
  | nil => rfl
  | append_singleton requests request ih =>
      rw [after_concat, snapshots_serve, ih, taken_concat]
      simp only [member_after]

/-- **A classifier is its rules.** Several classifiers start with some rules and any caches, one for
each or shared, and serve a history of requests. Then each of them has the rules that it loaded
last, and as its counts the numbers of its own passes over exporters and over interfaces that
failed, whatever was loaded in between; it gives an exporter the group, and an interface the labels,
that a new classifier with these rules and an empty cache gives. A reload from a source with an
error changes nothing at all. What was handed out as the rules of a classifier stays what it had
loaded last at that moment. -/
theorem after_start :
    (∀ who, (after home (start first caches) requests).member who =
      { book := lastLoaded first who requests
        exporterErrors := failedOnExporter first who requests
        interfaceErrors := failedOnInterface first who requests })
    ∧ (∀ who exporter,
      ((after home (start first caches) requests).serve home (.classifyExporter who exporter)).1
        = .group (({ book := lastLoaded first who requests } : Classifier).groupOf exporter
            .empty).1)
    ∧ (∀ who exporter interface,
      ((after home (start first caches) requests).serve home
          (.classifyInterface who exporter interface)).1
        = .labels (({ book := lastLoaded first who requests } : Classifier).labelsOf exporter
            interface .empty).1)
    ∧ (∀ who source e, source.load = .error e →
      (after home (start first caches) requests).serve home (.reload who source)
        = (.reload (.error e), after home (start first caches) requests))
    ∧ (after home (start first caches) requests).snapshots = taken first requests := by
  refine ⟨member_after home first caches requests, ?_, ?_, ?_,
    snapshots_after home first caches requests⟩
  · intro who exporter
    have hmember := member_after home first caches requests who
    simp only [serve, hmember, Classifier.groupOf]
    rw [(groupPass_cache exporter _ _).1]
  · intro who exporter interface
    have hmember := member_after home first caches requests who
    simp only [serve, hmember, Classifier.labelsOf]
    rw [(labelPass_cache exporter interface _ _ _).1]
  · intro who source e h
    exact serve_reload_of_error home _ who h

end Start

end Pool

end LabelRules
