import LabelRules.Rule

set_option autoImplicit false

/-! # Rule books

A rule book holds the rules for exporters and those for interfaces, each in the order in which they
are tried. Rules are added at the end (`RuleBook.push`); a list of texts is added text by text, and
the first text that is no rule is the error (`RuleBook.extend`).
-/

namespace LabelRules

/-- The rules for exporters and the rules for interfaces. -/
structure RuleBook where
  exporter : List (Rule .exporter) := []
  interface : List (Rule .interface) := []

namespace RuleBook

/-- The book without rules. -/
def empty : RuleBook := {}

def isEmpty (book : RuleBook) : Bool := book.exporter.isEmpty && book.interface.isEmpty

/-- The rules of a kind. -/
def rules (book : RuleBook) : (kind : Kind) → List (Rule kind)
  | .exporter => book.exporter
  | .interface => book.interface

/-- The texts of the rules of a kind. -/
def sources (book : RuleBook) (kind : Kind) : List String := (book.rules kind).map Rule.source

/-- The same rules in the same order. -/
def same (a b : RuleBook) : Bool :=
  a.sources .exporter == b.sources .exporter && a.sources .interface == b.sources .interface

/-- Adds a rule after the others of its kind. -/
def push (book : RuleBook) : {kind : Kind} → Rule kind → RuleBook
  | .exporter, rule => { book with exporter := book.exporter ++ [rule] }
  | .interface, rule => { book with interface := book.interface ++ [rule] }

/-- Adds the rule with a text. -/
def pushSource (book : RuleBook) (kind : Kind) (source : String) :
    Except CompileError RuleBook :=
  match Rule.compile kind source with
  | .error e => .error e
  | .ok rule => .ok (book.push rule)

/-- Adds the rules with some texts. -/
def pushSources (book : RuleBook) (kind : Kind) : List String → Except CompileError RuleBook
  | [] => .ok book
  | source :: rest =>
    match book.pushSource kind source with
    | .error e => .error e
    | .ok book => book.pushSources kind rest

/-- Adds rules for exporters and rules for interfaces, by their texts. -/
def extend (book : RuleBook) (exporter interface : List String) : Except CompileError RuleBook :=
  match book.pushSources .exporter exporter with
  | .error e => .error e
  | .ok book => book.pushSources .interface interface

@[simp] theorem sources_empty (kind : Kind) : empty.sources kind = [] := by cases kind <;> rfl

theorem sources_push {kind : Kind} (book : RuleBook) (rule : Rule kind) :
    (book.push rule).sources kind = book.sources kind ++ [rule.source] := by
  cases kind <;> simp [sources, rules, push]

end RuleBook

end LabelRules
