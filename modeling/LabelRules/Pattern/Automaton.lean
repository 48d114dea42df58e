import LabelRules.Pattern.Term

set_option autoImplicit false

/-! # Instructions of a pattern

A term is turned into an array of instructions from its end to its start: each part is emitted for
the instruction that comes after it. The order in which a `split` names its two ways is their
preference. A repetition whose body can be empty enters its loop only after one pass through the
body, so that an empty pass is tried at its own place in the order of preference and ends the loop.
-/

namespace LabelRules.Pattern

/-- One step of a match; every instruction but the last names the one that follows. -/
inductive Instruction where
  /-- Takes a character of a set. -/
  | chars (set : CharSet) (next : Nat)
  /-- Goes on if a condition on the place holds. -/
  | look (l : Look) (next : Nat)
  /-- Remembers the place. -/
  | save (slot : Nat) (next : Nat)
  /-- Goes on in two ways, the first one preferred. -/
  | split (first second : Nat)
  /-- Cannot go on. -/
  | fail
  /-- The match is complete. -/
  | accept
  deriving Inhabited

/-- Instructions emitted so far. -/
abbrev Code : Type := Array Instruction

/-- A part of an automaton, emitted for the instruction that follows it: where the part starts, and
the code with it. -/
abbrev Emit : Type := (next : Nat) → Code → Nat × Code

/-- Adds an instruction and starts with it. -/
def Code.add (code : Code) (i : Instruction) : Nat × Code := (code.size, code.push i)

/-- The choice between a body and what follows the repetition. -/
def choose (greedy : Bool) (body after : Nat) : Instruction :=
  if greedy then .split body after else .split after body

/-- A number of copies, one after the other. -/
def copies (body : Emit) : Nat → Emit
  | 0, next, code => (next, code)
  | n + 1, next, code =>
    let (start, code) := body next code
    copies body n start code

/-- At most a number of further copies, emitted from the last one on; each may be the end. -/
def optionalCopies (greedy : Bool) (body : Emit) (after : Nat) : Nat → Emit
  | 0, next, code => (next, code)
  | n + 1, next, code =>
    let (start, code) := body next code
    let (start, code) := code.add (choose greedy start after)
    optionalCopies greedy body after n start code

/-- One or more copies. -/
def oneOrMore (greedy : Bool) (body : Emit) : Emit := fun next code =>
  let (loop, code) := code.add .fail
  let (start, code) := body loop code
  (start, code.setIfInBounds loop (choose greedy start next))

/-- The repetition of a body. -/
def repeatBody (least : Nat) (most : Option Nat) (greedy : Bool) (body : Emit) : Emit :=
  fun next code =>
    match most with
    | some most =>
      let (start, code) := optionalCopies greedy body next (most - least) next code
      copies body least start code
    | none =>
      let (start, code) := oneOrMore greedy body next code
      match least with
      | 0 => code.add (choose greedy start next)
      | n + 1 => copies body n start code

/-- A choice between parts that have been emitted, the first one preferred. -/
def chooseAll : List Nat → Code → Nat × Code
  | [], code => code.add .fail
  | [start], code => (start, code)
  | start :: rest, code =>
    let (others, code) := chooseAll rest code
    code.add (.split start others)

mutual

/-- The instructions of a term. -/
def Term.emit : Term → Emit
  | .empty => fun next code => (next, code)
  | .chars set => fun next code => code.add (.chars set next)
  | .look l => fun next code => code.add (.look l next)
  | .repetition least most greedy sub => repeatBody least most greedy (Term.emit sub)
  | .capture index sub => fun next code =>
    let (close, code) := code.add (.save (2 * index + 1) next)
    let (start, code) := Term.emit sub close code
    code.add (.save (2 * index) start)
  | .concat items => Term.emitSequence items
  | .alternation branches => fun next code =>
    let (starts, code) := Term.emitBranches branches next code
    chooseAll starts code

/-- The instructions of terms that stand one after the other. -/
def Term.emitSequence : List Term → Emit
  | [] => fun next code => (next, code)
  | t :: rest => fun next code =>
    let (start, code) := Term.emitSequence rest next code
    Term.emit t start code

/-- The instructions of the branches of a choice, with the start of each. -/
def Term.emitBranches : List Term → (next : Nat) → Code → List Nat × Code
  | [], _, code => ([], code)
  | t :: rest, next, code =>
    let (start, code) := Term.emit t next code
    let (starts, code) := Term.emitBranches rest next code
    (start :: starts, code)

end

/-- The instructions of a pattern and the one to start with. -/
structure Automaton where
  code : Code
  start : Nat
  deriving Inhabited

/-- The automaton of a term; the whole match is its group 0. -/
def Term.automaton (t : Term) : Automaton :=
  let (start, code) := Term.emit (.capture 0 t) 0 #[.accept]
  ⟨code, start⟩

end LabelRules.Pattern
