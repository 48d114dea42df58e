import LabelRules.Document.Event

set_option autoImplicit false

/-! # Documents

A document is a list of parts, as far as it could be read, and what is wrong after them. An alias
refers to the part with its anchor by a number. A document that only maps keys to lists of texts can
be built from its entries (`Document.ofEntries`).
-/

namespace LabelRules

namespace Document

/-- A part of a document: a text, plain or not, a reference to another part, or the start or the
end of a sequence or a mapping. -/
inductive Part where
  | text (s : String) (isPlain : Bool)
  | reference (number : Nat)
  | sequenceStart
  | sequenceEnd
  | mappingStart
  | mappingEnd
  deriving DecidableEq, Repr, Inhabited

/-- Where nothing is written, there is an empty plain text. -/
def Part.absent : Part := .text "" true

end Document

/-- The parts of a document, the indices of the parts with a number, and what is wrong after the
parts. -/
structure Document where
  parts : List Document.Part
  targets : List (Nat × Nat) := []
  fault : Option Document.Fault := none
  deriving Inhabited

namespace Document

/-! ## Anchors -/

/-- The anchors so far: names with their numbers, and numbers with the indices of their parts, the
latest first. -/
structure Anchors where
  names : List (String × Nat) := []
  targets : List (Nat × Nat) := []

/-- Puts an anchor at a part. Its number is the count of the names so far; a name that comes again
gets a new number, and of two anchors with one number the later counts. -/
def Anchors.insert (a : Anchors) (index : Nat) : Option String → Anchors
  | none => a
  | some name =>
    let number := a.names.length
    { names := (name, number) :: a.names.filter (·.1 != name)
      targets := (number, index) :: a.targets }

/-- The anchor of an event. -/
def Event.anchor? : Event → Option String
  | .scalar anchor _ _ => anchor
  | .sequenceStart anchor => anchor
  | .mappingStart anchor => anchor
  | _ => none

/-- An event as a part, if it refers to a known anchor only. -/
def Event.part? (a : Anchors) : Event → Option Part
  | .scalar _ s isPlain => some (.text s isPlain)
  | .alias name => (a.names.lookup name).map .reference
  | .sequenceStart _ => some .sequenceStart
  | .sequenceEnd => some .sequenceEnd
  | .mappingStart _ => some .mappingStart
  | .mappingEnd => some .mappingEnd

/-- The parts of some events, with the anchors before them; the parts end before an alias without an
anchor. -/
def ofEvents (a : Anchors) (index : Nat) (fault : Option Fault) : List Event → Document
  | [] => { parts := [], targets := a.targets, fault }
  | e :: events =>
    match e.part? a with
    | none => { parts := [], targets := a.targets, fault := some .unknownAnchor }
    | some part =>
      let d := ofEvents (a.insert index e.anchor?) (index + 1) fault events
      { d with parts := part :: d.parts }

/-- The document of a text. -/
def ofText (text : String) : Document :=
  let parsed := parse text
  ofEvents {} 0 parsed.fault parsed.events

/-- The parts of a document from the one with a number on. -/
def target (d : Document) (number : Nat) : List Part :=
  match d.targets.lookup number with
  | some index => d.parts.drop index
  | none => []

/-- The text that a part is or refers to. -/
def text? (d : Document) : Part → Option String
  | .text s _ => some s
  | .reference n =>
    match d.target n with
    | .text s _ :: _ => some s
    | _ => none
  | _ => none

/-! ## Entries -/

/-- The parts of a list of texts. -/
def listParts (texts : List String) : List Part :=
  .sequenceStart :: texts.map (.text · false) ++ [.sequenceEnd]

/-- The document that maps keys to lists of texts. -/
def ofEntries (entries : List (String × List String)) : Document where
  parts := .mappingStart ::
    (entries.flatMap fun (key, texts) => .text key true :: listParts texts) ++ [.mappingEnd]

end Document

end LabelRules
