import LabelRules.Pattern.Shape

set_option autoImplicit false

/-! # The size of a pattern

A pattern is refused when one of two automata over bytes takes more than `sizeLimit` bytes: the one
that reads a text forward and remembers the groups, and the one that reads it backward. Neither is
built; `Shape.extend` only tells by how much each part of a pattern makes one of them grow. A state
takes 32 bytes, a transition of a state with several of them 8, and a way out of a fork 4.

A set beyond ASCII grows with its byte sequences. Forward, states that lead on in the same way are
one state. Backward, a step is shared by the sequences that begin alike, as long as a table of
`sharedSteps` places remembers it; the place of a step in the table depends on the number of the
state that it leads to, so equal parts of a pattern may take different sizes.
-/

namespace LabelRules.Pattern

/-- The most bytes that an automaton may take. -/
def sizeLimit : Nat := 10 * 1024 * 1024

/-- The direction in which an automaton reads. -/
inductive Direction where
  | forward
  | backward
  deriving DecidableEq, Repr

/-- How large an automaton is: its states, and the bytes of transitions and ways out of forks. -/
structure Extent where
  states : Nat
  edges : Nat
  deriving DecidableEq, Repr, Inhabited

namespace Extent

def bytes (e : Extent) : Nat := 32 * e.states + e.edges

def add (e d : Extent) : Extent := ⟨e.states + d.states, e.edges + d.edges⟩

def times (n : Nat) (e : Extent) : Extent := ⟨n * e.states, n * e.edges⟩

def isTooBig (e : Extent) : Bool := sizeLimit < e.bytes

/-- A state with one transition or none. -/
def state (e : Extent) : Extent := ⟨e.states + 1, e.edges⟩

/-- A state with some transitions on ranges of bytes. -/
def branching (transitions : Nat) (e : Extent) : Extent := ⟨e.states + 1, e.edges + 8 * transitions⟩

/-- A state that goes on in several ways at once. -/
def fork (ways : Nat) (e : Extent) : Extent := ⟨e.states + 1, e.edges + 4 * ways⟩

end Extent

/-! ## Sets -/

/-- The states that read the rest of some sequences forward, by their transitions; a transition
names the number of the state that it leads to, and 0 is the end. -/
abbrev ForwardStates : Type := List (List ((Nat × Nat) × Nat))

/-- Groups that stand side by side and have the same first range. -/
def groupsByFirst : List (List (Nat × Nat)) → List ((Nat × Nat) × List (List (Nat × Nat)))
  | [] => []
  | [] :: rest => groupsByFirst rest
  | (r :: tail) :: rest =>
    match groupsByFirst rest with
    | (r', tails) :: more =>
      if r = r' then (r, tail :: tails) :: more else (r, [tail]) :: (r', tails) :: more
    | [] => [(r, [tail])]

/-- Adds the state that reads some sequences, unless there is one that leads on in the same way, and
gives its number. Sequences have at most four ranges. -/
def addForward : (fuel : Nat) → List (List (Nat × Nat)) → ForwardStates → Nat × ForwardStates
  | 0, _, known => (0, known)
  | fuel + 1, sequences, known =>
    if sequences.all List.isEmpty then (0, known)
    else
      let step (acc : List ((Nat × Nat) × Nat) × ForwardStates)
          (group : (Nat × Nat) × List (List (Nat × Nat))) :=
        let (next, known) := addForward fuel group.2 acc.2
        ((group.1, next) :: acc.1, known)
      let (transitions, known) := (groupsByFirst sequences).foldl step ([], known)
      match known.findIdx? (· == transitions) with
      | some i => (known.length - i, known)
      | none => (known.length + 1, transitions :: known)

/-- How large a set beyond ASCII is forward: its states and their common end. -/
def forwardSet (sequences : List (List (Nat × Nat))) : Extent :=
  (addForward 5 sequences []).2.foldl (fun e t => e.branching t.length) ⟨1, 0⟩

/-- The number of places in the table of shared steps. -/
def sharedSteps : Nat := 1000

/-- A step backward: a range of bytes before a state, and the state that takes it. -/
structure SharedStep where
  after : Nat
  range : Nat × Nat
  state : Nat
  deriving DecidableEq, Repr, Inhabited

/-- The place of a step in the table: the remainder of its FNV-1a hash of 64 bits. -/
def placeOfStep (after : Nat) (range : Nat × Nat) : Nat :=
  let mix (hash : UInt64) (n : Nat) : UInt64 := (hash ^^^ n.toUInt64) * 1099511628211
  (mix (mix (mix 14695981039346656037 after) range.1) range.2).toNat % sharedSteps

/-- The number of states once a step stands before a state, the step's own state, and the table. -/
def addStep (table : Array (Option SharedStep)) (states after : Nat) (range : Nat × Nat) :
    Array (Option SharedStep) × Nat × Nat :=
  let place := placeOfStep after range
  let known := (table[place]?).join.filter fun s => s.after == after && s.range == range
  match known with
  | some s => (table, states, s.state)
  | none => (table.setIfInBounds place (some ⟨after, range, states⟩), states + 1, states)

/-- The growth by a set beyond ASCII that is read backward: a fork to its sequences, their common
end, and the steps of each sequence from its first byte on. -/
def backwardSet (sequences : List (List (Nat × Nat))) (e : Extent) : Extent :=
  let last := e.states + 1
  let readSequence (acc : Array (Option SharedStep) × Nat) (s : List (Nat × Nat)) :=
    let (table, states, _) := s.foldl
      (fun (table, states, after) range => addStep table states after range) (acc.1, acc.2, last)
    (table, states)
  let (_, states) :=
    sequences.foldl readSequence (Array.replicate sharedSteps none, e.states + 2)
  ⟨states, e.edges + 4 * sequences.length⟩

/-- The growth by a set. -/
def extendBySet (d : Direction) (set : CharSet) (e : Extent) : Extent :=
  if set.isAscii then (e.branching set.ranges.size).state
  else
    match d with
    | .forward => e.add (forwardSet (byteSequences set))
    | .backward => backwardSet (byteSequences set) e

/-! ## Choices between literals -/

/-- The words up to each empty one, and those after the last. -/
def segments : List (List Nat) → List (List (List Nat))
  | [] => [[]]
  | [] :: rest => [] :: segments rest
  | word :: rest =>
    match segments rest with
    | s :: more => (word :: s) :: more
    | [] => [[word]]

/-- An empty word that is repeated before any other word counts once. -/
def dropRepeatedEmpty : List (List (List Nat)) → List (List (List Nat))
  | [] :: [] :: rest => dropRepeatedEmpty ([] :: rest)
  | s => s

/-- What follows each of the first bytes of some words. -/
def followers (words : List (List Nat)) : List (List (List Nat)) :=
  (words.filterMap List.head?).eraseDups.map fun b =>
    words.filterMap fun
      | c :: rest => if c = b then some rest else none
      | [] => none

/-- The growth by the tree of some words in the order of preference: a state for the first bytes of
the words up to an empty one, and a fork between these states and the ends. The fuel is more than
the length of each word. -/
def extendByWords : (fuel : Nat) → List (List Nat) → Extent → Extent
  | 0, _, e => e
  | fuel + 1, words, e =>
    if words.all List.isEmpty then e
    else
      let parts := (dropRepeatedEmpty (segments words)).map followers
      let ends := parts.length - 1
      let taken := parts.filter fun p => !p.isEmpty
      let e := taken.flatten.foldl (fun e next => extendByWords fuel next e) e
      let e := taken.foldl
        (fun e p => if p.length = 1 then e.state else e.branching p.length) e
      e.fork (taken.length + ends)

/-- The bytes of a literal. -/
def Shape.literal? : Shape → Option (List Nat)
  | .literal bytes => some bytes
  | _ => none

/-- The growth by a choice between literals. -/
def extendByLiterals (d : Direction) (literals : List (List Nat)) (e : Extent) : Extent :=
  let words := if d = .backward then literals.map List.reverse else literals
  let longest := (words.map List.length).foldl max 0
  extendByWords (longest + 1) words e.state

/-! ## Shapes -/

/-- The growth by a number of copies. Copies of equal size are counted; others are added one by one
until the limit is passed. -/
def extendByCopies (equal : Bool) (one : Extent → Extent) (n : Nat) (e : Extent) : Extent :=
  if equal then e.add ((one ⟨0, 0⟩).times n)
  else
    let rec loop : Nat → Extent → Extent
      | 0, e => e
      | n + 1, e => if e.isTooBig then e else loop n (one e)
    loop (min n (sizeLimit / 32 + 1)) e

/-- The growth by a repetition of a part. -/
def extendByRepetition (equal isNeverEmpty : Bool) (one : Extent → Extent) (least : Nat)
    (most : Option Nat) (e : Extent) : Extent :=
  match most with
  | none =>
    match least with
    | 0 => if isNeverEmpty then one (e.fork 2) else (((one e).fork 2).fork 2).state
    | n + 1 => (one (extendByCopies equal one n e)).fork 2
  | some most =>
    let optional (e : Extent) : Extent := one (e.fork 2)
    if least = 0 ∧ most = 1 then (optional e).state
    else
      let e := if least = 0 then e.state else extendByCopies equal one least e
      if most ≤ least then e else extendByCopies equal optional (most - least) e.state

mutual

/-- The size of an automaton that goes on with a shape. -/
def Shape.extend (d : Direction) : Shape → Extent → Extent
  | .empty, e => e.state
  | .literal bytes, e => ⟨e.states + bytes.length, e.edges⟩
  | .set s, e => extendBySet d s e
  | .look _, e => e.state
  | .repetition least most _ sub, e =>
    extendByRepetition (d = .forward || !sub.hasWideSet) sub.isNeverEmpty (sub.extend d) least most e
  | .capture _ sub, e =>
    match d with
    | .forward => (sub.extend d e.state).state
    | .backward => sub.extend d e
  | .concat items, e => Shape.extendAll d items e
  | .alternation branches, e =>
    match branches.mapM Shape.literal? with
    | some literals => extendByLiterals d literals e
    | none => Shape.extendByBranches d branches 0 e

/-- The size of an automaton that goes on with some shapes, the last one first if it reads
backward. -/
def Shape.extendAll (d : Direction) : List Shape → Extent → Extent
  | [], e => e
  | s :: rest, e =>
    match d with
    | .forward => Shape.extendAll d rest (s.extend d e)
    | .backward => s.extend d (Shape.extendAll d rest e)

/-- The size of an automaton that goes on with a choice, of which some branches are there already;
the fork between the branches and their common end follow the second branch. -/
def Shape.extendByBranches (d : Direction) : List Shape → (done : Nat) → Extent → Extent
  | [], _, e => e
  | s :: rest, done, e =>
    let e := s.extend d e
    let e := ⟨e.states, e.edges + 4⟩
    Shape.extendByBranches d rest (done + 1) (if done = 1 then e.state.state else e)

end

/-- The size of an automaton for a term. Unless the term is anchored where the reading starts, a
loop before it skips what is in front of a match. -/
def Term.extent (d : Direction) (t : Term) : Extent :=
  let isAnchored :=
    match d with
    | .forward => t.startsWith .textStart
    | .backward => t.endsWith .textEnd
  let before : Extent := if isAnchored then ⟨1, 0⟩ else ⟨3, 16⟩
  ((Shape.capture 0 t.shape).extend d before).state

/-- Does one of the automata for a term pass the limit? -/
def Term.isTooBig (t : Term) : Bool :=
  (t.extent .backward).isTooBig || (t.extent .forward).isTooBig

end LabelRules.Pattern
