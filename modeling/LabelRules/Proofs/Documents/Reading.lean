import LabelRules.Document.Basic
import LabelRules.Proofs.Documents.Tokens
import Mathlib.Data.List.Forall2

set_option autoImplicit false

/-! # Written documents are read back

A mapping of keys to lists of texts is written as a text whose document is that mapping
(`Document.ofText_write`). The tokens of the text are known; here the events that they stand for are
followed goal by goal, and the events are the parts of the document, since nothing has an anchor.
Other texts may record the same mapping in another layout (`Document.Records`).
-/

namespace LabelRules.Document

/-! ## Events of some tokens -/

section Events

variable {handles : List String} {goal : Goal} {more : List Goal} {tokens rest : List Token}
  {events : List Event} {result : Except Fault (List Token)}

/-- A step towards a goal, and the events after it. -/
theorem eventsTowards_cons {s : Step} (hnext : Step.next handles goal tokens = .ok s)
    (h : eventsTowards handles (s.goals ++ more) s.rest = (events, result)) :
    eventsTowards handles (goal :: more) tokens = (s.events ++ events, result) := by
  rw [eventsTowards]
  split
  · next e he =>
    rw [hnext] at he
    cases he
  · next s' hs' =>
    rw [hnext] at hs'
    cases hs'
    rw [h]

theorem eventsTowards_nil (tokens : List Token) :
    eventsTowards handles [] tokens = ([], .ok tokens) := by
  rw [eventsTowards]

/-- The event of a part that refers to no other. -/
def Part.event : Part → Event
  | .text s isPlain => .scalar none s isPlain
  | .sequenceStart => .sequenceStart none
  | .sequenceEnd => .sequenceEnd
  | .mappingStart => .mappingStart none
  | .mappingEnd => .mappingEnd
  | .reference _ => .absent

/-- An entry is followed by another one or by the end of the mapping. -/
def endsEntry : List Token → Bool
  | .key :: _ | .blockEnd :: _ => true
  | _ => false

/-- The events of the items of a list. -/
theorem eventsTowards_items (texts : List String) (hrest : endsEntry rest = true)
    (h : eventsTowards handles more rest = (events, result)) :
    eventsTowards handles (.unindentedEntries :: more) (texts.flatMap Lexer.itemTokens ++ rest)
      = ((texts.map (Part.text · false) ++ [Part.sequenceEnd]).map Part.event ++ events,
          result) := by
  induction texts with
  | nil =>
      have hnext : Step.next handles .unindentedEntries rest
          = .ok { events := [.sequenceEnd], rest := rest } := by
        unfold endsEntry at hrest
        split at hrest
        · rfl
        · rfl
        · cases hrest
      exact eventsTowards_cons hnext h
  | cons text texts ih =>
      have hentry : Step.next handles .unindentedEntries
          ((text :: texts).flatMap Lexer.itemTokens ++ rest)
            = .ok { goals := [.node true false, .unindentedEntries]
                    rest := .scalar text false :: (texts.flatMap Lexer.itemTokens ++ rest) } := rfl
      have hnode : Step.next handles (.node true false)
          (.scalar text false :: (texts.flatMap Lexer.itemTokens ++ rest))
            = .ok { events := [.scalar none text false]
                    rest := texts.flatMap Lexer.itemTokens ++ rest } := rfl
      exact eventsTowards_cons hentry (eventsTowards_cons hnode ih)

/-- The events of the value of a key. -/
theorem eventsTowards_list (texts : List String) (hrest : endsEntry rest = true)
    (h : eventsTowards handles (.keys :: more) rest = (events, result)) :
    eventsTowards handles (.value :: more) (.value :: (Lexer.listTokens texts ++ rest))
      = ((listParts texts).map Part.event ++ events, result) := by
  cases texts with
  | nil =>
      have hvalue : Step.next handles .value
          (.value :: .flowSequenceStart :: .flowSequenceEnd :: rest)
            = .ok { goals := [.node true true, .keys]
                    rest := .flowSequenceStart :: .flowSequenceEnd :: rest } := rfl
      have hstart : Step.next handles (.node true true)
          (.flowSequenceStart :: .flowSequenceEnd :: rest)
            = .ok { events := [.sequenceStart none], goals := [.flowEntries true]
                    rest := .flowSequenceEnd :: rest } := rfl
      have hend : Step.next handles (.flowEntries true) (.flowSequenceEnd :: rest)
          = .ok { events := [.sequenceEnd], rest := rest } := rfl
      exact eventsTowards_cons hvalue (eventsTowards_cons hstart (eventsTowards_cons hend h))
  | cons text texts =>
      -- The dashes stand in the column of the key, so no token starts the sequence.
      have hitems := eventsTowards_items (text :: texts) hrest h
      have hvalue : Step.next handles .value
          (.value :: ((text :: texts).flatMap Lexer.itemTokens ++ rest))
            = .ok { goals := [.node true true, .keys]
                    rest := (text :: texts).flatMap Lexer.itemTokens ++ rest } := rfl
      have hstart : Step.next handles (.node true true)
          ((text :: texts).flatMap Lexer.itemTokens ++ rest)
            = .ok { events := [.sequenceStart none], goals := [.unindentedEntries]
                    rest := (text :: texts).flatMap Lexer.itemTokens ++ rest } := rfl
      exact eventsTowards_cons hvalue (eventsTowards_cons hstart hitems)

/-- The parts of an entry. -/
def entryParts (key : String) (texts : List String) : List Part := .text key true :: listParts texts

/-- The parts of entries. -/
def mappingParts (entries : List (String × List String)) : List Part :=
  entries.flatMap fun entry => entryParts entry.1 entry.2

/-- The events of an entry. -/
theorem eventsTowards_entry (key : String) (texts : List String) (hrest : endsEntry rest = true)
    (h : eventsTowards handles (.keys :: more) rest = (events, result)) :
    eventsTowards handles (.keys :: more) (Lexer.entryTokens key texts ++ rest)
      = ((entryParts key texts).map Part.event ++ events, result) := by
  have hkey : Step.next handles .keys (Lexer.entryTokens key texts ++ rest)
      = .ok { goals := [.node true true, .value]
              rest := .scalar key true :: .value :: (Lexer.listTokens texts ++ rest) } := rfl
  have hnode : Step.next handles (.node true true)
      (.scalar key true :: .value :: (Lexer.listTokens texts ++ rest))
        = .ok { events := [.scalar none key true]
                rest := .value :: (Lexer.listTokens texts ++ rest) } := rfl
  exact eventsTowards_cons hkey (eventsTowards_cons hnode (eventsTowards_list texts hrest h))

theorem eventsTowards_entries (entries : List (String × List String))
    (h : eventsTowards handles (.keys :: more) (.blockEnd :: rest) = (events, result)) :
    eventsTowards handles (.keys :: more) (Lexer.mappingTokens entries ++ .blockEnd :: rest)
      = ((mappingParts entries).map Part.event ++ events, result) := by
  induction entries with
  | nil => exact h
  | cons entry entries ih =>
      have hends : endsEntry (Lexer.mappingTokens entries ++ .blockEnd :: rest) = true := by
        cases entries <;> rfl
      have hentry := eventsTowards_entry entry.1 entry.2 hends ih
      simpa [mappingParts, Lexer.mappingTokens] using hentry

end Events

/-! ## Parts of some events -/

/-- Without anchors and references the events are the parts. -/
theorem ofEvents_event {parts : List Part} (h : ∀ part ∈ parts, ∀ n, part ≠ .reference n)
    (a : Anchors) (index : Nat) (fault : Option Fault) :
    ofEvents a index fault (parts.map Part.event) = { parts, targets := a.targets, fault } := by
  induction parts generalizing index with
  | nil => rfl
  | cons part parts ih =>
      have hparts : ∀ part ∈ parts, ∀ n, part ≠ .reference n :=
        fun part hpart => h part (List.mem_cons_of_mem _ hpart)
      have hpart : part.event.part? a = some part ∧ part.event.anchor? = none := by
        cases part with
        | reference n => exact absurd rfl (h _ List.mem_cons_self n)
        | _ => exact ⟨rfl, rfl⟩
      rw [List.map_cons, ofEvents, hpart.1, hpart.2]
      simp only [Anchors.insert, ih hparts]

theorem reference_notMem_ofEntries (entries : List (String × List String)) :
    ∀ part ∈ (Document.ofEntries entries).parts, ∀ n, part ≠ .reference n := by
  rintro part hpart n rfl
  simp [Document.ofEntries, listParts] at hpart

/-- **A written mapping is read back**: the document of its text is the mapping, whatever texts are
in it. -/
theorem ofText_write {entries : List (String × List String)} (hne : entries ≠ [])
    (hkeys : ∀ entry ∈ entries, Lexer.IsKey entry.1) :
    Document.ofText (write entries) = .ofEntries entries := by
  obtain ⟨⟨key, texts⟩, others, rfl⟩ := List.exists_cons_of_ne_nil hne
  have htokens := tokenize_write hkeys
  generalize (key, texts) :: others = entries at htokens
  have hparts : (Document.ofEntries entries).parts
      = .mappingStart :: (mappingParts entries ++ [.mappingEnd]) := rfl
  have hlast : Step.next knownHandles .keys [.blockEnd, .streamEnd]
      = .ok { events := [.mappingEnd], rest := [.streamEnd] } := rfl
  have hstart : Step.next knownHandles (.node true false)
      (.blockMappingStart :: (Lexer.mappingTokens entries ++ [.blockEnd, .streamEnd]))
        = .ok { events := [.mappingStart none], goals := [.keys]
                rest := Lexer.mappingTokens entries ++ [.blockEnd, .streamEnd] } := rfl
  have hend := eventsTowards_cons hlast (eventsTowards_nil [.streamEnd])
  have hevents := eventsTowards_cons hstart (eventsTowards_entries entries hend)
  have hfirst : ∀ tokens, firstDocument (.blockMappingStart :: tokens)
      = documentEvents knownHandles (.node true false) (.blockMappingStart :: tokens) :=
    fun _ => rfl
  have hparse : parse (write entries)
      = ⟨(Document.ofEntries entries).parts.map Part.event, none⟩ := by
    simp only [parse, htokens, hfirst, documentEvents, hevents]
    rw [hparts]
    simp [Part.event]
  rw [Document.ofText, hparse, ofEvents_event (reference_notMem_ofEntries entries)]
  rfl

/-- A tab is written by its number, a quote and a backslash with a backslash before them. -/
example : (Document.ofText "kept:\n- \"a\\U00000009b \\\"c\\\\\"\nnone: []\n").parts
    = (Document.ofEntries [("kept", ["a\tb \"c\\"]), ("none", [])]).parts := by
  decide +kernel

/-! ## Documents that record entries -/

/-- Some parts of a document list entries up to the end of the mapping. A text may be written in any
way, also as a reference to one before it. -/
inductive Lists (d : Document) : List Part → List (String × List String) → Prop where
  | done : Lists d [.mappingEnd] []
  | entry {key : String} {texts : List String} {entries : List (String × List String)}
      {keyPart : Part} {items rest : List Part} (hkey : d.text? keyPart = some key)
      (hitems : List.Forall₂ (fun part text => d.text? part = some text) items texts)
      (hrest : Lists d rest entries) :
      Lists d (keyPart :: .sequenceStart :: (items ++ .sequenceEnd :: rest))
        ((key, texts) :: entries)

/-- A document without fault that maps keys to lists of texts. -/
def Records (d : Document) (entries : List (String × List String)) : Prop :=
  d.fault = none ∧ ∃ rest, d.parts = .mappingStart :: rest ∧ d.Lists rest entries

theorem lists_mappingParts (d : Document) (entries : List (String × List String)) :
    d.Lists (mappingParts entries ++ [.mappingEnd]) entries := by
  induction entries with
  | nil => exact .done
  | cons entry entries ih =>
      have hitems : List.Forall₂ (fun part text => d.text? part = some text)
          (entry.2.map (Part.text · false)) entry.2 := by
        rw [List.forall₂_map_left_iff]
        exact List.forall₂_same.2 fun _ _ => rfl
      have hkey : d.text? (.text entry.1 true) = some entry.1 := rfl
      have hentry := Lists.entry hkey hitems ih
      simpa [mappingParts, entryParts, listParts] using hentry

theorem records_ofEntries (entries : List (String × List String)) :
    (Document.ofEntries entries).Records entries :=
  ⟨rfl, _, rfl, lists_mappingParts _ entries⟩

theorem records_write {entries : List (String × List String)} (hne : entries ≠ [])
    (hkeys : ∀ entry ∈ entries, Lexer.IsKey entry.1) :
    (Document.ofText (write entries)).Records entries := by
  rw [ofText_write hne hkeys]
  exact records_ofEntries entries

end LabelRules.Document
