import LabelRules.Unicode.CharSet

set_option autoImplicit false

/-! # Patterns as they are written

A `Node` is a regular expression as its text gives it: repetitions, groups, flags and bracketed
classes are kept apart, and what a node matches still depends on the flags in force
(`Pattern/Term.lean`). `Node.nesting` measures how deeply nodes are nested.
-/

namespace LabelRules.Pattern

/-- Why a text is no pattern. -/
inductive Error where
  /-- A group is not closed, or a closing parenthesis opens none. -/
  | unbalancedGroup
  | groupName
  | duplicateGroupName
  | unsupportedGroup
  | flags
  | unclosedClass
  | invalidRange
  | invalidClassItem
  | nothingToRepeat
  | invalidRepetition
  | invalidEscape
  | invalidCodePoint
  | unknownProperty
  | unknownBoundary
  /-- The pattern could match a part of a character. -/
  | partialCharacter
  | tooDeep
  | tooBig
  deriving DecidableEq, Repr, Inhabited

/-- The switches that a pattern can set for a part of itself. -/
inductive Flag where
  | ignoreCase
  | multiLine
  | dotMatchesNewline
  | swapGreed
  | unicode
  | crlf
  | ignoreBlanks
  deriving DecidableEq, Repr, Inhabited

/-- Switches that are set on or off. -/
abbrev Settings : Type := List (Flag × Bool)

/-- What a setting says about a flag. -/
def Settings.of? (settings : Settings) (flag : Flag) : Option Bool :=
  (settings.find? fun s => s.1 = flag).map (·.2)

/-- Conditions on a place between two characters. -/
inductive Assertion where
  | startLine
  | endLine
  | startText
  | endText
  | wordBoundary
  | notWordBoundary
  | wordStart
  | wordEnd
  | wordStartHalf
  | wordEndHalf
  deriving DecidableEq, Repr, Inhabited

/-- The classes with a letter of their own: digits, blanks and word characters. -/
inductive LetterClass where
  | digit
  | space
  | word
  deriving DecidableEq, Repr, Inhabited

/-- A character in a pattern; `isByte` if it is written as two hexadecimal digits, so that without
the Unicode flag it is a byte. -/
structure Literal where
  char : Char
  isByte : Bool := false
  deriving DecidableEq, Repr, Inhabited

/-- How a property of characters is asked for. -/
inductive PropertyQuery where
  | named (name : String)
  | valued (name value : String)
  deriving DecidableEq, Repr, Inhabited

/-- The operators between sets in a bracketed class. -/
inductive SetOperator where
  | intersection
  | difference
  | symmetricDifference
  deriving DecidableEq, Repr, Inhabited

/-- A set of characters as it is written between brackets. -/
inductive ClassSet where
  | empty
  | literal (l : Literal)
  | range (first last : Literal)
  | ascii (negated : Bool) (set : CharSet)
  | letter (negated : Bool) (c : LetterClass)
  | property (negated : Bool) (q : PropertyQuery)
  | bracketed (negated : Bool) (s : ClassSet)
  | union (items : List ClassSet)
  | combine (op : SetOperator) (left right : ClassSet)
  deriving Inhabited

/-- A pattern as it is written. -/
inductive Node where
  | empty
  | settings (s : Settings)
  | literal (l : Literal)
  | dot
  | assertion (a : Assertion)
  | letter (negated : Bool) (c : LetterClass)
  | property (negated : Bool) (q : PropertyQuery)
  | bracketed (negated : Bool) (s : ClassSet)
  | repetition (least : Nat) (most : Option Nat) (greedy : Bool) (sub : Node)
  | capture (index : Nat) (sub : Node)
  | group (s : Settings) (sub : Node)
  | alternation (branches : List Node)
  | concat (items : List Node)
  deriving Inhabited

/-! ## Nesting -/

mutual

/-- How deeply the brackets of a class are nested. -/
def ClassSet.nesting : ClassSet → Nat
  | .bracketed _ s => s.nesting + 1
  | .union items => ClassSet.nestingAll items + 1
  | .combine _ l r => max l.nesting r.nesting + 1
  | _ => 0

def ClassSet.nestingAll : List ClassSet → Nat
  | [] => 0
  | s :: rest => max s.nesting (ClassSet.nestingAll rest)

end

mutual

/-- How deeply the nodes of a pattern are nested. -/
def Node.nesting : Node → Nat
  | .bracketed _ s => s.nesting + 1
  | .repetition _ _ _ sub => sub.nesting + 1
  | .capture _ sub => sub.nesting + 1
  | .group _ sub => sub.nesting + 1
  | .alternation branches => Node.nestingAll branches + 1
  | .concat items => Node.nestingAll items + 1
  | _ => 0

def Node.nestingAll : List Node → Nat
  | [] => 0
  | n :: rest => max n.nesting (Node.nestingAll rest)

end

/-- The sequence of some nodes; one node is its own sequence. -/
def Node.sequence : List Node → Node
  | [] => .empty
  | [n] => n
  | items => .concat items

/-- The choice between some nodes; one node is its own choice. -/
def Node.choice : List Node → Node
  | [n] => n
  | branches => .alternation branches

/-- The union of some sets; one set is its own union. -/
def ClassSet.unionOf : List ClassSet → ClassSet
  | [] => .empty
  | [s] => s
  | items => .union items

end LabelRules.Pattern
