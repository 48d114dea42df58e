import LabelRules.Proofs.Documents.Reading
import LabelRules.RuleBook.Document

set_option autoImplicit false

/-! # Documents that map keys to lists

A document may map keys to lists of texts in many ways: a text may stand for itself or be a
reference, and so may a list, which may also be left out (`Document.Maps`). Such a document is read
entry by entry, in its order, and an entry is added as a whole or refused (`Draft.addEntry`): what
comes out is what the entries give, however they are written (`RuleBook.ofDocument_of_maps`).
-/

namespace LabelRules

namespace Document

variable {d : Document}

/-! ## Mappings -/

/-- Some parts are or refer to some texts. -/
def Spells (d : Document) : List Part → List String → Prop :=
  List.Forall₂ fun part text => d.text? part = some text

/-- A list of texts stands at the start of some parts, with the rest after it: a sequence, or
nothing at all. -/
inductive WritesList (d : Document) : List Part → List String → List Part → Prop where
  | absent {rest : List Part} : WritesList d (.absent :: rest) [] rest
  | sequence {items rest : List Part} {texts : List String} (hitems : d.Spells items texts) :
      WritesList d (.sequenceStart :: (items ++ .sequenceEnd :: rest)) texts rest

/-- A list of texts, or a reference to one, stands at the start of some parts, with the rest after
it. -/
inductive GivesList (d : Document) : List Part → List String → List Part → Prop where
  | itself {parts rest : List Part} {texts : List String} (h : d.WritesList parts texts rest) :
      GivesList d parts texts rest
  | reference {n : Nat} {after rest : List Part} {texts : List String}
      (h : d.WritesList (d.target n) texts after) : GivesList d (.reference n :: rest) texts rest

/-- Some parts are keys with lists of texts, up to the end of the mapping. -/
inductive MapsFrom (d : Document) : List Part → List (String × List String) → Prop where
  | done : MapsFrom d [.mappingEnd] []
  | entry {key : String} {texts : List String} {entries : List (String × List String)}
      {keyPart : Part} {parts rest : List Part} (hkey : d.text? keyPart = some key)
      (hlist : d.GivesList parts texts rest) (hrest : MapsFrom d rest entries) :
      MapsFrom d (keyPart :: parts) ((key, texts) :: entries)

/-- A document without fault that maps keys to lists of texts, in any layout. -/
def Maps (d : Document) (entries : List (String × List String)) : Prop :=
  d.fault = none ∧ ∃ rest, d.parts = .mappingStart :: rest ∧ d.MapsFrom rest entries

theorem Lists.mapsFrom {parts : List Part} {entries : List (String × List String)}
    (h : d.Lists parts entries) : d.MapsFrom parts entries := by
  induction h with
  | done => exact .done
  | entry hkey hitems _ ih => exact .entry hkey (.itself (.sequence hitems)) ih

theorem Records.maps {entries : List (String × List String)} (h : d.Records entries) :
    d.Maps entries := by
  obtain ⟨hfault, rest, hparts, hlists⟩ := h
  exact ⟨hfault, rest, hparts, hlists.mapsFrom⟩

end Document

namespace RuleBook

variable {d : Document} {kind : Kind}

/-! ## Lists -/

section Lists

variable {items rest parts : List Document.Part} {texts : List String}

/-- A part that has a text adds the rule of the text. -/
theorem pushPart_eq {book : RuleBook} {part : Document.Part} {text : String}
    (htext : d.text? part = some text) :
    pushPart d book kind part = (book.pushSource kind text).mapError .rule := by
  rw [pushPart, htext]

/-- The parts of a sequence add the rules of their texts. -/
theorem pushParts_eq {book : RuleBook} (hitems : d.Spells items texts) :
    pushParts d book kind (items ++ .sequenceEnd :: rest)
      = (book.pushSources kind texts).mapError .rule := by
  induction hitems generalizing book with
  | nil => rfl
  | @cons part text items texts htext _ ih =>
      rw [List.cons_append, pushParts, pushPart_eq htext, pushSources]
      · cases book.pushSource kind text with
        | error e => rfl
        | ok pushed => exact ih
      · -- A part with a text is not the end of the sequence.
        rintro rfl
        cases htext

/-- The rest of a document is read after the rules of some texts were added. -/
def Draft.readAfter (d : Document) (draft : Draft) (kind : Kind) (texts : List String)
    (rest : List Document.Part) : Except BookError Draft :=
  match draft.book.pushSources kind texts with
  | .error e => .error (.rule e)
  | .ok book => { draft with book, stage := .key : Draft }.readAll d rest

theorem readAll_items {draft : Draft} (hstage : draft.stage = .item kind)
    (hitems : d.Spells items texts) :
    draft.readAll d (items ++ .sequenceEnd :: rest) = draft.readAfter d kind texts rest := by
  induction hitems generalizing draft with
  | nil =>
      have hread : draft.read d .sequenceEnd = .ok { draft with stage := .key } := by
        simp [Draft.read, hstage]
      rw [List.nil_append, Draft.readAll, hread]
      rfl
  | @cons part text items texts htext _ ih =>
      have hread : draft.read d part
          = (pushPart d draft.book kind part).map fun book => { draft with book } := by
        cases part with
        | sequenceEnd => cases htext
        | _ => simp [Draft.read, hstage]
      rw [List.cons_append, Draft.readAll, hread, pushPart_eq htext, Draft.readAfter, pushSources]
      cases draft.book.pushSource kind text with
      | error e => rfl
      | ok pushed =>
          have hstage' : ({ draft with book := pushed } : Draft).stage = .item kind := hstage
          exact ih hstage'

/-- A list is read as the rules of its texts, whatever stands for it. -/
theorem readAll_list {draft : Draft} (hstage : draft.stage = .list kind)
    (hlist : d.GivesList parts texts rest) :
    draft.readAll d parts = draft.readAfter d kind texts rest := by
  cases hlist with
  | itself h =>
      cases h with
      | absent =>
          have hread : draft.read d .absent = .ok { draft with stage := .key } := by
            simp [Draft.read, hstage, Document.Part.absent]
          rw [Draft.readAll, hread]
          rfl
      | sequence hitems =>
          have hread : draft.read d .sequenceStart = .ok { draft with stage := .item kind } := by
            simp [Draft.read, hstage]
          rw [Draft.readAll, hread]
          exact readAll_items rfl hitems
  | @reference n after rest texts h =>
      have hread : draft.read d (.reference n)
          = draft.readReference d kind (.reference n) (d.target n) := by
        simp [Draft.read, hstage]
      rw [Draft.readAll, hread]
      generalize htarget : d.target n = target at h
      cases h with
      | absent => rfl
      | sequence hitems =>
          rw [Draft.readReference, pushParts_eq hitems, Draft.readAfter]
          cases draft.book.pushSources kind texts with
          | error e => rfl
          | ok book => rfl

end Lists

/-! ## Entries -/

/-- Adds an entry: the rules of a list that was not given before. -/
def Draft.addEntry (draft : Draft) (entry : String × List String) : Except BookError Draft :=
  match Kind.ofKey? entry.1 with
  | none => .error (.unknownKey entry.1)
  | some kind =>
    if kind ∈ draft.given then .error (.duplicateKey kind)
    else
      match draft.book.pushSources kind entry.2 with
      | .error e => .error (.rule e)
      | .ok book => .ok ⟨book, kind :: draft.given, .key⟩

theorem Draft.stage_of_addEntry {draft draft' : Draft} {entry : String × List String}
    (h : draft.addEntry entry = .ok draft') : draft'.stage = .key := by
  unfold addEntry at h
  split at h
  · cases h
  · split at h
    · cases h
    · split at h
      · cases h
      · cases h
        rfl

/-- A key with its list is read as the entry. -/
theorem readAll_entry {draft : Draft} (hstage : draft.stage = .key) {keyPart : Document.Part}
    {parts rest : List Document.Part} {key : String} {texts : List String}
    (hkey : d.text? keyPart = some key) (hlist : d.GivesList parts texts rest) :
    draft.readAll d (keyPart :: parts)
      = match draft.addEntry (key, texts) with
        | .error e => .error e
        | .ok draft => draft.readAll d rest := by
  have hread : draft.read d keyPart = draft.readKey d keyPart := by
    cases keyPart with
    | mappingEnd => cases hkey
    | _ => simp [Draft.read, hstage]
  rw [Draft.readAll, hread]
  cases hkind : Kind.ofKey? key with
  | none => simp only [Draft.readKey, hkey, Draft.addEntry, hkind]
  | some kind =>
      by_cases hgiven : kind ∈ draft.given
      · simp only [Draft.readKey, hkey, Draft.addEntry, hkind, if_pos hgiven]
      · have hreadKey : draft.readKey d keyPart
            = .ok ⟨draft.book, kind :: draft.given, .list kind⟩ := by
          simp only [Draft.readKey, hkey, hkind, if_neg hgiven]
        have hstage' : (⟨draft.book, kind :: draft.given, .list kind⟩ : Draft).stage
            = .list kind := rfl
        simp only [hreadKey, readAll_list hstage' hlist, Draft.readAfter, Draft.addEntry, hkind,
          if_neg hgiven]
        cases draft.book.pushSources kind texts with
        | error e => rfl
        | ok book => rfl

/-- The entries of a mapping are added one after the other. -/
theorem readAll_entries {draft : Draft} (hstage : draft.stage = .key)
    {parts : List Document.Part} {entries : List (String × List String)}
    (h : d.MapsFrom parts entries) :
    draft.readAll d parts
      = match entries.foldlM Draft.addEntry draft with
        | .error e => .error e
        | .ok draft => .ok { draft with stage := .done } := by
  induction h generalizing draft with
  | done =>
      have hread : draft.read d .mappingEnd = .ok { draft with stage := .done } := by
        simp [Draft.read, hstage]
      rw [Draft.readAll, hread]
      rfl
  | @entry key texts entries keyPart parts rest hkey hlist _ ih =>
      rw [readAll_entry hstage hkey hlist, List.foldlM_cons]
      cases hadd : draft.addEntry (key, texts) with
      | error e => rfl
      | ok draft' => exact ih (Draft.stage_of_addEntry hadd)

/-- **A document is read as its entries**, in their order, however keys, lists and texts are
written. -/
theorem ofDocument_of_maps {entries : List (String × List String)} (h : d.Maps entries) :
    ofDocument d = (entries.foldlM Draft.addEntry ⟨.empty, [], .key⟩).map Draft.book := by
  obtain ⟨hfault, rest, hparts, hmaps⟩ := h
  have hstart : ({} : Draft).readAll d d.parts = (⟨.empty, [], .key⟩ : Draft).readAll d rest := by
    rw [hparts]
    rfl
  rw [ofDocument, hstart, readAll_entries rfl hmaps]
  cases entries.foldlM Draft.addEntry ⟨.empty, [], .key⟩ with
  | error e => rfl
  | ok draft => simp [hfault, Except.map]

end RuleBook

end LabelRules
