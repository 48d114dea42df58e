import LabelRules.Pattern.Reader
import LabelRules.Pattern.Search
import LabelRules.Pattern.Size
import LabelRules.Pattern.Template

set_option autoImplicit false

/-! # Patterns

A pattern is a regular expression that has been compiled (`Pattern.compile`). It tells whether a
text has a match (`Pattern.isMatch`), and what a template becomes when the groups of the leftmost
match are put into it (`Pattern.expand?`).
-/

namespace LabelRules

/-- A compiled regular expression: its automaton, the number of its groups, and their names. -/
structure Pattern where
  automaton : Pattern.Automaton
  groups : Nat
  names : List (String × Nat)
  deriving Inhabited

namespace Pattern

/-- Compiles the text of a regular expression. -/
def compile (text : String) : Except Error Pattern := do
  let source ← read text
  let (term, _) ← source.node.toTerm {}
  if term.isTooBig then throw .tooBig
  return ⟨term.automaton, source.groups, source.names⟩

/-- Is a text the text of a pattern? -/
def isValid (text : String) : Bool := (compile text).toBool

/-- Does a pattern match somewhere in a text? -/
def isMatch (p : Pattern) (text : String) : Bool :=
  (p.automaton.search p.groups text.toList).isSome

/-- The characters of a group of a match; a group that took no part in it has none. -/
def group (chars : List Char) (slots : Slots) (index : Nat) : List Char :=
  match (slots[2 * index]?).join, (slots[2 * index + 1]?).join with
  | some first, some last => (chars.drop first).take (last - first)
  | _, _ => []

/-- A template filled with the groups of the leftmost match in a text, if there is a match. -/
def expand? (p : Pattern) (text template : String) : Option String :=
  let chars := text.toList
  (p.automaton.search p.groups chars).map fun slots =>
    let numbered := group chars slots
    let named (name : String) : List Char :=
      match p.names.find? fun n => n.1 == name with
      | some (_, index) => numbered index
      | none => []
    String.ofList (Template.fill numbered named template.toList)

end Pattern

end LabelRules
