import LabelRules.Evaluation.Basic
import LabelRules.RuleBook

set_option autoImplicit false

/-! # Classifiers

A classifier tries the rules of its book in order. A pass ends at the first rule that fires or
fails. An exporter gets the group of the rule that fires; an interface keeps the labels of all the
rules of the pass, also of those that do not fire and of the one that fails. The classifier counts
the passes that ended in a failure. The cache of patterns is not its own, so that several
classifiers can share one.
-/

namespace LabelRules

/-! ## Passes -/

/-- What a pass over a list of rules leaves: its result, whether a rule failed, and the cache. -/
structure Pass (α : Type) where
  result : α
  failed : Bool
  cache : Cache

/-- A pass of rules over an exporter; the result is the group. -/
def groupPass (exporter : Exporter) (cache : Cache) :
    List (Rule .exporter) → Pass (Option String)
  | [] => ⟨none, false, cache⟩
  | rule :: rest =>
    match rule.program.runOnExporter exporter cache with
    | (.error _, cache) => ⟨none, true, cache⟩
    | (.ok (true, group), cache) => ⟨group, false, cache⟩
    | (.ok (false, _), cache) => groupPass exporter cache rest

/-- A pass of rules over an interface, from labels that are there. -/
def labelPass (exporter : Exporter) (interface : Interface) (m : Memory Labels) :
    List (Rule .interface) → Pass Labels
  | [] => ⟨m.output, false, m.cache⟩
  | rule :: rest =>
    match rule.program.runOnInterface exporter interface m.output m.cache with
    | (.error _, m) => ⟨m.output, true, m.cache⟩
    | (.ok true, m) => ⟨m.output, false, m.cache⟩
    | (.ok false, m) => labelPass exporter interface m rest

/-! ## Classifiers -/

/-- A book of rules, and the numbers of passes over exporters and over interfaces that failed. They
stand for counters of 64 bits that can be shared between threads, and have no bound here: that such a
counter starts again from 0 after `2 ^ 64` failed passes is left out. -/
structure Classifier where
  book : RuleBook
  exporterErrors : Nat := 0
  interfaceErrors : Nat := 0

namespace Classifier

/-- The group of an exporter, if it has one. -/
def groupOf (c : Classifier) (exporter : Exporter) (cache : Cache) :
    Option String × Classifier × Cache :=
  let pass := groupPass exporter cache c.book.exporter
  (pass.result, { c with exporterErrors := c.exporterErrors + pass.failed.toNat }, pass.cache)

/-- The labels of an interface of an exporter. -/
def labelsOf (c : Classifier) (exporter : Exporter) (interface : Interface) (cache : Cache) :
    Labels × Classifier × Cache :=
  let pass := labelPass exporter interface ⟨.empty, cache⟩ c.book.interface
  (pass.result, { c with interfaceErrors := c.interfaceErrors + pass.failed.toNat }, pass.cache)

/-- Takes another book of rules; the counts stay. -/
def reload (c : Classifier) (book : RuleBook) : Classifier := { c with book }

end Classifier

end LabelRules
