import LabelRules.Pattern.Automaton

set_option autoImplicit false

/-! # Searching a text

`Automaton.search` finds the leftmost match of an automaton in a text, and of the matches that start
there the preferred one. It runs all ways of matching side by side, in the order of preference, and
goes through the text once. A way that reaches an instruction which a preferred way has reached at
the same place is dropped, so a step of the search costs no more than the size of the automaton.
-/

namespace LabelRules.Pattern

/-- A place in a text: its index, and the characters around it. -/
structure Place where
  index : Nat
  before : Option Char
  after : Option Char

/-- The places that a match has remembered, by slot. -/
abbrev Slots : Type := Array (Option Nat)

/-! ## Conditions on a place -/

def isWordCharacter (unicode : Bool) (c : Char) : Bool :=
  if c.toNat < 128 || !unicode then asciiWordCharacters.contains c
  else wordCharacters.contains c

/-- Does a condition hold at a place? -/
def Look.holds (l : Look) (p : Place) : Bool :=
  match l with
  | .textStart => p.before.isNone
  | .textEnd => p.after.isNone
  | .lineStart false => p.before.isNone || p.before == some '\n'
  | .lineEnd false => p.after.isNone || p.after == some '\n'
  | .lineStart true =>
    p.before.isNone || p.before == some '\n' || (p.before == some '\r' && p.after != some '\n')
  | .lineEnd true =>
    p.after.isNone || p.after == some '\r' || (p.after == some '\n' && p.before != some '\r')
  | .word side unicode =>
    let before := p.before.any (isWordCharacter unicode)
    let after := p.after.any (isWordCharacter unicode)
    match side with
    | .wordBoundary => before != after
    | .notWordBoundary => before == after
    | .wordStart => !before && after
    | .wordEnd => before && !after
    | .wordStartHalf => !before
    | .wordEndHalf => !after
    | _ => true

/-! ## One place -/

/-- A way of matching: the instruction that it has reached, and the places it remembers. -/
structure Way where
  pc : Nat
  slots : Slots

/-- The ways that wait for a character, in the order of preference reversed, and the slots of a way
that is complete. -/
structure Reached where
  waiting : List (CharSet × Way)
  complete : Option Slots

/-- Follows ways up to where they need a character. The ways are given in the order of preference;
those after one that is complete are dropped. A step either drops a way or marks an instruction
and adds at most two, so twice the number of instructions and the number of ways bound the
steps. -/
def follow (code : Code) (place : Place) :
    (fuel : Nat) → (marked : Array Bool) → List Way → List (CharSet × Way) → Reached
  | 0, _, _, waiting => ⟨waiting, none⟩
  | _ + 1, _, [], waiting => ⟨waiting, none⟩
  | fuel + 1, marked, way :: ways, waiting =>
    if (marked[way.pc]?).getD true then follow code place fuel marked ways waiting
    else
      let marked := marked.setIfInBounds way.pc true
      match code[way.pc]? with
      | some (.chars set next) =>
        follow code place fuel marked ways ((set, { way with pc := next }) :: waiting)
      | some (.look l next) =>
        if l.holds place then follow code place fuel marked ({ way with pc := next } :: ways) waiting
        else follow code place fuel marked ways waiting
      | some (.save slot next) =>
        let slots := way.slots.setIfInBounds slot (some place.index)
        follow code place fuel marked (⟨next, slots⟩ :: ways) waiting
      | some (.split first second) =>
        follow code place fuel marked
          ({ way with pc := first } :: { way with pc := second } :: ways) waiting
      | some .accept => ⟨waiting, some way.slots⟩
      | _ => follow code place fuel marked ways waiting

/-! ## The whole text -/

/-- What the ways that have come to a place reach there. As long as nothing has matched, a new way
starts at every place, after all others. -/
def reachedAt (automaton : Automaton) (slotCount : Nat) (place : Place) (best : Option Slots)
    (ways : List Way) : Reached :=
  let ways :=
    if best.isNone then ways ++ [⟨automaton.start, Array.replicate slotCount none⟩] else ways
  let size := automaton.code.size
  follow automaton.code place (2 * size + ways.length + 1) (Array.replicate size false) ways []

/-- Goes on with a search, with the best match and the ways that have come so far. -/
def searchFrom (automaton : Automaton) (slotCount : Nat) :
    (before : Option Char) → (index : Nat) → Option Slots → List Way → List Char → Option Slots
  | before, index, best, ways, [] =>
    (reachedAt automaton slotCount ⟨index, before, none⟩ best ways).complete <|> best
  | before, index, best, ways, c :: cs =>
    let reached := reachedAt automaton slotCount ⟨index, before, some c⟩ best ways
    let best := reached.complete <|> best
    let ways := (reached.waiting.filter fun w => w.1.contains c).reverse.map (·.2)
    if best.isSome && ways.isEmpty then best
    else searchFrom automaton slotCount (some c) (index + 1) best ways cs

/-- The slots of the leftmost match in a text: two for each group, its start and its end. -/
def Automaton.search (automaton : Automaton) (groups : Nat) (text : List Char) : Option Slots :=
  searchFrom automaton (2 * (groups + 1)) none 0 none [] text

end LabelRules.Pattern
