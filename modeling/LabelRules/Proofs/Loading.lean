import LabelRules.Proofs.Documents.Entries
import LabelRules.Proofs.Parsing.Reading
import LabelRules.RuleBook.Setup

set_option autoImplicit false

/-! # Loading rules

Rules are loaded all or not at all, and none is dropped or moved. Texts of rules are added one after
the other (`RuleBook.pushAll`): the first that is no rule is the error, and otherwise the rules
follow those that were there, in the order of the texts. So a document that maps keys to lists is
taken exactly if its keys are names of lists, none of them twice, and all texts are rules
(`RuleBook.Loadable`), and a classifier is set up exactly if all further texts are rules
(`RuleBook.loads_exactly`).
-/

namespace LabelRules

/-- The text is a rule of the kind. -/
def Kind.IsRule (kind : Kind) (source : String) : Prop := ∃ rule, Rule.compile kind source = .ok rule

/-- A key is known exactly in its two spellings. -/
theorem Kind.ofKey?_eq_some_iff {key : String} {kind : Kind} :
    Kind.ofKey? key = some kind ↔ key = kind.key ∨ key = kind.otherKey := by
  constructor
  · intro h
    simpa using List.find?_some h
  · rintro (rfl | rfl)
    · exact kind.ofKey?_key
    · exact kind.ofKey?_otherKey

/-- What is looked for in a list is its head, or the head is passed over and it is in the tail. -/
theorem exists_split_cons_iff {α : Type} {P Q : α → Prop} {a : α} {l : List α} :
    (∃ before b after, a :: l = before ++ b :: after ∧ (∀ c ∈ before, P c) ∧ Q b) ↔
      Q a ∨ P a ∧ ∃ before b after, l = before ++ b :: after ∧ (∀ c ∈ before, P c) ∧ Q b := by
  constructor
  · rintro ⟨before, b, after, hsplit, hbefore, hb⟩
    cases before with
    | nil =>
        cases hsplit
        exact .inl hb
    | cons c before =>
        cases hsplit
        rw [List.forall_mem_cons] at hbefore
        exact .inr ⟨hbefore.1, before, b, after, rfl, hbefore.2, hb⟩
  · rintro (ha | ⟨ha, before, b, after, rfl, hbefore, hb⟩)
    · exact ⟨[], a, l, rfl, by simp, ha⟩
    · refine ⟨a :: before, b, after, rfl, ?_, hb⟩
      rw [List.forall_mem_cons]
      exact ⟨ha, hbefore⟩

namespace RuleBook

/-! ## Adding texts one after the other -/

/-- Adds rules by their texts, each to those of its kind; the first text that is no rule is the
error. -/
def pushAll (book : RuleBook) (sources : List (Kind × String)) : Except CompileError RuleBook :=
  sources.foldlM (fun book source => book.pushSource source.1 source.2) book

/-- The texts for a kind, in their order. -/
def ofKind (kind : Kind) (sources : List (Kind × String)) : List String :=
  sources.filterMap fun source => if source.1 = kind then some source.2 else none

/-- The second book has the rules of the first, and after them those of the texts of each kind. -/
def Adds (texts : Kind → List String) (book book' : RuleBook) : Prop :=
  ∀ kind, ∃ rules, List.Forall₂ (fun source rule => Rule.compile kind source = .ok rule)
    (texts kind) rules ∧ book'.rules kind = book.rules kind ++ rules

section PushAll

variable {book book' : RuleBook} {kind : Kind} {source : String} {sources : List (Kind × String)}

theorem pushSource_of_compile {rule : Rule kind} (h : Rule.compile kind source = .ok rule) :
    book.pushSource kind source = .ok (book.push rule) := by
  rw [pushSource, h]

theorem pushAll_cons_of_compile {rule : Rule kind} (h : Rule.compile kind source = .ok rule) :
    book.pushAll ((kind, source) :: sources) = (book.push rule).pushAll sources := by
  rw [pushAll, List.foldlM_cons, pushSource_of_compile h]
  rfl

theorem pushAll_cons_of_error {e : CompileError} (h : Rule.compile kind source = .error e) :
    book.pushAll ((kind, source) :: sources) = .error e := by
  rw [pushAll, List.foldlM_cons, pushSource, h]
  rfl

theorem pushAll_append (first second : List (Kind × String)) :
    book.pushAll (first ++ second) = book.pushAll first >>= fun book => book.pushAll second := by
  unfold pushAll
  rw [List.foldlM_append]

theorem pushSources_eq_pushAll (texts : List String) :
    book.pushSources kind texts = book.pushAll (texts.map (kind, ·)) := by
  induction texts generalizing book with
  | nil => rfl
  | cons text texts ih =>
      rw [pushSources, List.map_cons]
      cases h : Rule.compile kind text with
      | error e =>
          rw [pushAll_cons_of_error h, pushSource, h]
      | ok rule =>
          rw [pushAll_cons_of_compile h, pushSource_of_compile h]
          exact ih

/-- Texts can be added exactly if all of them are rules. -/
theorem exists_pushAll_iff :
    (∃ book', book.pushAll sources = .ok book') ↔ ∀ source ∈ sources, source.1.IsRule source.2 := by
  induction sources generalizing book with
  | nil => simp [pushAll, pure, Except.pure]
  | cons source sources ih =>
      obtain ⟨kind, text⟩ := source
      rw [List.forall_mem_cons]
      cases h : Rule.compile kind text with
      | error e =>
          have hnot : ¬ kind.IsRule text := by simp [Kind.IsRule, h]
          rw [pushAll_cons_of_error h]
          simp [hnot]
      | ok rule =>
          have hrule : kind.IsRule text := ⟨rule, h⟩
          rw [pushAll_cons_of_compile h, ih]
          simp [hrule]

/-- The error is that of the first text that is no rule. -/
theorem pushAll_eq_error_iff {e : CompileError} :
    book.pushAll sources = .error e ↔
      ∃ before source after, sources = before ++ source :: after
        ∧ (∀ s ∈ before, s.1.IsRule s.2) ∧ Rule.compile source.1 source.2 = .error e := by
  induction sources generalizing book with
  | nil => simp [pushAll, pure, Except.pure]
  | cons source sources ih =>
      obtain ⟨kind, text⟩ := source
      rw [exists_split_cons_iff]
      cases h : Rule.compile kind text with
      | error e' =>
          have hnot : ¬ kind.IsRule text := by simp [Kind.IsRule, h]
          rw [pushAll_cons_of_error h]
          simp [hnot]
      | ok rule =>
          have hrule : kind.IsRule text := ⟨rule, h⟩
          rw [pushAll_cons_of_compile h, ih]
          simp [hrule]

/-! ## What is added -/

theorem Adds.refl (book : RuleBook) : Adds (fun _ => []) book book :=
  fun _ => ⟨[], .nil, (List.append_nil _).symm⟩

/-- Texts that are added after others follow them. -/
theorem Adds.trans {texts texts' : Kind → List String} {book'' : RuleBook}
    (h : Adds texts book book') (h' : Adds texts' book' book'') :
    Adds (fun kind => texts kind ++ texts' kind) book book'' := by
  intro kind
  obtain ⟨rules, hrules, hbook⟩ := h kind
  obtain ⟨rules', hrules', hbook'⟩ := h' kind
  refine ⟨rules ++ rules', List.rel_append hrules hrules', ?_⟩
  rw [hbook', hbook, List.append_assoc]

theorem rules_push (rule : Rule kind) : (book.push rule).rules kind = book.rules kind ++ [rule] := by
  cases kind <;> rfl

theorem rules_push_of_ne {other : Kind} (hne : kind ≠ other) (rule : Rule kind) :
    (book.push rule).rules other = book.rules other := by
  cases kind with
  | exporter =>
      cases other with
      | exporter => exact absurd rfl hne
      | interface => rfl
  | interface =>
      cases other with
      | exporter => rfl
      | interface => exact absurd rfl hne

theorem adds_push {rule : Rule kind} (h : Rule.compile kind source = .ok rule) :
    Adds (fun other => ofKind other [(kind, source)]) book (book.push rule) := by
  intro other
  by_cases hkind : kind = other
  · subst hkind
    exact ⟨[rule], by simpa [ofKind] using h, rules_push rule⟩
  · refine ⟨[], by simp [ofKind, hkind], ?_⟩
    rw [rules_push_of_ne hkind, List.append_nil]

theorem ofKind_append (first second : List (Kind × String)) :
    ofKind kind (first ++ second) = ofKind kind first ++ ofKind kind second :=
  List.filterMap_append

theorem ofKind_map (texts : List String) (other : Kind) :
    ofKind other (texts.map (kind, ·)) = if kind = other then texts else [] := by
  by_cases hkind : kind = other <;> simp [ofKind, hkind]

theorem adds_of_pushAll (h : book.pushAll sources = .ok book') :
    Adds (fun kind => ofKind kind sources) book book' := by
  induction sources generalizing book with
  | nil =>
      cases h
      exact Adds.refl _
  | cons source sources ih =>
      obtain ⟨kind, text⟩ := source
      cases hcompile : Rule.compile kind text with
      | error e =>
          rw [pushAll_cons_of_error hcompile] at h
          cases h
      | ok rule =>
          rw [pushAll_cons_of_compile hcompile] at h
          have hfirst : Adds (fun other => ofKind other [(kind, text)]) book (book.push rule) :=
            adds_push hcompile
          have hall := hfirst.trans (ih h)
          simp only [← ofKind_append] at hall
          exact hall

end PushAll

/-! ## Entries of a document -/

/-- The texts that the entries list for a kind. -/
def listed (kind : Kind) (entries : List (String × List String)) : List String :=
  entries.flatMap fun entry => if Kind.ofKey? entry.1 = some kind then entry.2 else []

/-- Each key is a name of a list, no list is given twice under its two names, and each text that is
listed is a rule of the kind of its list. -/
structure Loadable (entries : List (String × List String)) : Prop where
  known : ∀ entry ∈ entries, ∃ kind : Kind, entry.1 = kind.key ∨ entry.1 = kind.otherKey
  once : (entries.map fun entry => Kind.ofKey? entry.1).Nodup
  compiles : ∀ kind, ∀ source ∈ listed kind entries, kind.IsRule source

/-- The entries can be added after the lists of some kinds were given. -/
structure LoadableAfter (given : List Kind) (entries : List (String × List String)) : Prop extends
    Loadable entries where
  fresh : ∀ kind ∈ given, some kind ∉ entries.map fun entry => Kind.ofKey? entry.1

theorem loadableAfter_nil_iff {entries : List (String × List String)} :
    LoadableAfter [] entries ↔ Loadable entries :=
  ⟨fun h => h.toLoadable, fun h => ⟨h, by simp⟩⟩

section Entries

variable {entry : String × List String} {entries : List (String × List String)} {given : List Kind}

theorem listed_cons {kind : Kind} (hkind : Kind.ofKey? entry.1 = some kind) (other : Kind) :
    listed other (entry :: entries)
      = (if kind = other then entry.2 else []) ++ listed other entries := by
  simp [listed, hkind]

/-- A first entry can be added exactly if it is a list that was not given, of texts that are rules,
and the others can be added after it. -/
theorem loadableAfter_cons_iff :
    LoadableAfter given (entry :: entries) ↔
      ∃ kind, Kind.ofKey? entry.1 = some kind ∧ kind ∉ given
        ∧ (∀ source ∈ entry.2, kind.IsRule source) ∧ LoadableAfter (kind :: given) entries := by
  constructor
  · rintro ⟨⟨hknown, honce, hcompiles⟩, hfresh⟩
    rw [List.forall_mem_cons] at hknown
    obtain ⟨⟨kind, hkey⟩, hknown⟩ := hknown
    have hkind : Kind.ofKey? entry.1 = some kind := Kind.ofKey?_eq_some_iff.2 hkey
    rw [List.map_cons, List.nodup_cons, hkind] at honce
    refine ⟨kind, hkind, ?_, ?_, ⟨hknown, honce.2, ?_⟩, ?_⟩
    · intro hgiven
      exact hfresh kind hgiven (by simp [hkind])
    · intro source hsource
      refine hcompiles kind source ?_
      rw [listed_cons hkind, if_pos rfl]
      exact List.mem_append_left _ hsource
    · intro other source hsource
      refine hcompiles other source ?_
      rw [listed_cons hkind]
      exact List.mem_append_right _ hsource
    · intro other hother
      -- No key comes twice, so the kind of the first entry is not given again after it.
      rcases List.mem_cons.1 hother with rfl | hother
      · exact honce.1
      · exact fun hmem => hfresh other hother (List.mem_cons_of_mem _ hmem)
  · rintro ⟨kind, hkind, hgiven, hrules, ⟨hknown, honce, hcompiles⟩, hfresh⟩
    rw [List.forall_mem_cons] at hfresh
    refine ⟨⟨?_, ?_, ?_⟩, ?_⟩
    · rw [List.forall_mem_cons]
      exact ⟨⟨kind, Kind.ofKey?_eq_some_iff.1 hkind⟩, hknown⟩
    · rw [List.map_cons, List.nodup_cons, hkind]
      exact ⟨hfresh.1, honce⟩
    · intro other source hsource
      rw [listed_cons hkind, List.mem_append] at hsource
      rcases hsource with hsource | hsource
      · split at hsource
        · next heq =>
          subst heq
          exact hrules source hsource
        · cases hsource
      · exact hcompiles other source hsource
    · intro other hother
      rw [List.map_cons, List.mem_cons, hkind, not_or]
      refine ⟨?_, hfresh.2 other hother⟩
      rintro h
      cases h
      exact hgiven hother

/-- An entry that is added is a list that was not given, and its rules are added. -/
theorem pushSources_of_addEntry {draft draft' : Draft} (h : draft.addEntry entry = .ok draft') :
    ∃ kind, Kind.ofKey? entry.1 = some kind ∧ kind ∉ draft.given
      ∧ draft'.given = kind :: draft.given
      ∧ draft.book.pushSources kind entry.2 = .ok draft'.book := by
  unfold Draft.addEntry at h
  split at h
  · cases h
  · next kind hkind =>
    split at h
    · cases h
    · next hgiven =>
      split at h
      · cases h
      · next book hpush =>
        cases h
        exact ⟨kind, hkind, hgiven, rfl, hpush⟩

theorem addEntry_of_pushSources {draft : Draft} {kind : Kind} {book : RuleBook}
    (hkind : Kind.ofKey? entry.1 = some kind) (hgiven : kind ∉ draft.given)
    (hpush : draft.book.pushSources kind entry.2 = .ok book) :
    draft.addEntry entry = .ok ⟨book, kind :: draft.given, .key⟩ := by
  simp [Draft.addEntry, hkind, hgiven, hpush]

theorem exists_pushSources_iff (book : RuleBook) {kind : Kind} {texts : List String} :
    (∃ book', book.pushSources kind texts = .ok book') ↔ ∀ source ∈ texts, kind.IsRule source := by
  rw [pushSources_eq_pushAll, exists_pushAll_iff]
  simp

/-- Entries can be added exactly if they are loadable. -/
theorem exists_addEntries_iff (draft : Draft) :
    (∃ final, entries.foldlM Draft.addEntry draft = .ok final) ↔
      LoadableAfter draft.given entries := by
  induction entries generalizing draft with
  | nil =>
      have hnone : LoadableAfter draft.given [] :=
        ⟨⟨by simp, by simp, by simp [listed]⟩, by simp⟩
      simp [pure, Except.pure, hnone]
  | cons entry entries ih =>
      -- After the first entry its kind is given, which is what the others have to avoid.
      simp only [List.foldlM_cons, bind_eq_ok_iff, loadableAfter_cons_iff]
      constructor
      · rintro ⟨final, draft', hadd, hfinal⟩
        obtain ⟨kind, hkind, hgiven, hgiven', hpush⟩ := pushSources_of_addEntry hadd
        have hrest := (ih draft').1 ⟨final, hfinal⟩
        rw [hgiven'] at hrest
        exact ⟨kind, hkind, hgiven, (exists_pushSources_iff _).1 ⟨_, hpush⟩, hrest⟩
      · rintro ⟨kind, hkind, hgiven, hrules, hrest⟩
        obtain ⟨book, hpush⟩ := (exists_pushSources_iff draft.book).2 hrules
        obtain ⟨final, hfinal⟩ := (ih ⟨book, kind :: draft.given, .key⟩).2 hrest
        exact ⟨final, _, addEntry_of_pushSources hkind hgiven hpush, hfinal⟩

/-- Entries that are added add the rules of the texts that they list. -/
theorem adds_of_addEntries {draft final : Draft}
    (h : entries.foldlM Draft.addEntry draft = .ok final) :
    Adds (fun kind => listed kind entries) draft.book final.book := by
  induction entries generalizing draft with
  | nil =>
      cases h
      exact Adds.refl _
  | cons entry entries ih =>
      rw [List.foldlM_cons, bind_eq_ok_iff] at h
      obtain ⟨draft', hadd, hfinal⟩ := h
      obtain ⟨kind, hkind, -, -, hpush⟩ := pushSources_of_addEntry hadd
      rw [pushSources_eq_pushAll] at hpush
      have hall := (adds_of_pushAll hpush).trans (ih hfinal)
      simp only [listed_cons hkind]
      simpa only [ofKind_map] using hall

end Entries

/-! ## Documents and further texts -/

/-- The further texts for a kind. -/
def further (exporter interface : List String) : Kind → List String
  | .exporter => exporter
  | .interface => interface

/-- The further texts in the order in which they are added: those for exporters come first. -/
def inOrder (exporter interface : List String) : List (Kind × String) :=
  exporter.map (Kind.exporter, ·) ++ interface.map (Kind.interface, ·)

section Setup

variable {text : String} {entries : List (String × List String)} {book : RuleBook}
  {exporter interface : List String}

theorem ofKind_inOrder (kind : Kind) :
    ofKind kind (inOrder exporter interface) = further exporter interface kind := by
  rw [inOrder, ofKind_append, ofKind_map, ofKind_map]
  cases kind with
  | exporter => simp [further]
  | interface => simp [further]

theorem isRule_inOrder_iff :
    (∀ source ∈ inOrder exporter interface, source.1.IsRule source.2) ↔
      ∀ kind, ∀ source ∈ further exporter interface kind, kind.IsRule source := by
  simp only [inOrder, List.forall_mem_append, List.forall_mem_map]
  constructor
  · rintro ⟨hexporter, hinterface⟩ kind
    cases kind with
    | exporter => exact hexporter
    | interface => exact hinterface
  · intro hall
    exact ⟨hall .exporter, hall .interface⟩

theorem extend_eq_pushAll :
    book.extend exporter interface = book.pushAll (inOrder exporter interface) := by
  rw [inOrder, pushAll_append, ← pushSources_eq_pushAll, extend]
  cases book.pushSources .exporter exporter with
  | error e => rfl
  | ok book => exact pushSources_eq_pushAll interface

/-- A text that maps keys to lists is read as a book exactly if its entries can be added. -/
theorem ofText_eq_ok_iff (h : (Document.ofText text).Maps entries) :
    ofText text = .ok book ↔
      ∃ final, entries.foldlM Draft.addEntry ⟨.empty, [], .key⟩ = .ok final
        ∧ final.book = book := by
  rw [ofText, ofDocument_of_maps h]
  cases entries.foldlM Draft.addEntry ⟨.empty, [], .key⟩ with
  | error e => simp [Except.map]
  | ok final => simp [Except.map]

theorem exists_ofText_iff (h : (Document.ofText text).Maps entries) :
    (∃ book, ofText text = .ok book) ↔ Loadable entries := by
  rw [← loadableAfter_nil_iff]
  simp only [ofText_eq_ok_iff h]
  constructor
  · rintro ⟨-, final, hfinal, -⟩
    exact (exists_addEntries_iff _).1 ⟨final, hfinal⟩
  · intro hloadable
    obtain ⟨final, hfinal⟩ := (exists_addEntries_iff ⟨.empty, [], .key⟩).2 hloadable
    exact ⟨final.book, final, hfinal, rfl⟩

theorem adds_of_ofText (h : (Document.ofText text).Maps entries) (hbook : ofText text = .ok book) :
    Adds (fun kind => listed kind entries) .empty book := by
  obtain ⟨final, hfinal, rfl⟩ := (ofText_eq_ok_iff h).1 hbook
  exact adds_of_addEntries hfinal

theorem build_eq_ok_iff {c : Classifier} :
    Classifier.build book exporter interface = .ok c ↔
      ∃ book', book.pushAll (inOrder exporter interface) = .ok book' ∧ c = { book := book' } := by
  rw [Classifier.build, extend_eq_pushAll]
  cases book.pushAll (inOrder exporter interface) with
  | error e => simp
  | ok book' => simp [eq_comm]

theorem build_eq_error_iff {e : SetupError} :
    Classifier.build book exporter interface = .error e ↔
      ∃ fault, book.pushAll (inOrder exporter interface) = .error fault ∧ e = .compile fault := by
  rw [Classifier.build, extend_eq_pushAll]
  cases book.pushAll (inOrder exporter interface) with
  | error e => simp [eq_comm]
  | ok book' => simp

end Setup

/-- **Rules are loaded all or not at all.** A document that maps keys to lists of texts is a rule
book exactly if its entries are loadable, and the book then has the rules of each list in the order
of the list. A classifier is set up from a book and further texts exactly if all these texts are
rules, and has their rules after those of the book; otherwise the error is that of the first text
that is no rule. -/
theorem loads_exactly {text : String} {entries : List (String × List String)}
    (h : (Document.ofText text).Maps entries) :
    ((∃ book, ofText text = .ok book) ↔ Loadable entries)
      ∧ (∀ book, ofText text = .ok book → Adds (fun kind => listed kind entries) .empty book)
      ∧ ∀ (book : RuleBook) (exporter interface : List String),
        ((∃ c, Classifier.build book exporter interface = .ok c) ↔
          ∀ kind, ∀ source ∈ further exporter interface kind, kind.IsRule source)
        ∧ (∀ c, Classifier.build book exporter interface = .ok c →
          Adds (further exporter interface) book c.book)
        ∧ ∀ e, Classifier.build book exporter interface = .error e ↔
          ∃ before kind source after fault,
            inOrder exporter interface = before ++ (kind, source) :: after
              ∧ (∀ s ∈ before, s.1.IsRule s.2)
              ∧ Rule.compile kind source = .error fault ∧ e = .compile fault := by
  refine ⟨exists_ofText_iff h, fun book hbook => adds_of_ofText h hbook, ?_⟩
  intro book exporter interface
  refine ⟨?_, ?_, ?_⟩
  · have hbuild : (∃ c, Classifier.build book exporter interface = .ok c) ↔
        ∃ book', book.pushAll (inOrder exporter interface) = .ok book' := by
      simp [build_eq_ok_iff]
    rw [hbuild, exists_pushAll_iff, isRule_inOrder_iff]
  · intro c hc
    obtain ⟨book', hpush, rfl⟩ := build_eq_ok_iff.1 hc
    have hadds := adds_of_pushAll hpush
    simpa only [ofKind_inOrder] using hadds
  · intro e
    simp only [build_eq_error_iff, pushAll_eq_error_iff]
    constructor
    · rintro ⟨fault, ⟨before, ⟨kind, source⟩, after, hsplit, hbefore, hfault⟩, rfl⟩
      exact ⟨before, kind, source, after, fault, hsplit, hbefore, hfault, rfl⟩
    · rintro ⟨before, kind, source, after, fault, hsplit, hbefore, hfault, rfl⟩
      exact ⟨fault, ⟨before, (kind, source), after, hsplit, hbefore, hfault⟩, rfl⟩

/-- A document that gives one list for both kinds, first for interfaces and under its other name. -/
def sharedLists : String :=
  "interface_classifiers: &shared ['true', '1 == 2']\nexporter-classifiers: *shared\n"

theorem maps_sharedLists : (Document.ofText sharedLists).Maps
    [("interface_classifiers", ["true", "1 == 2"]),
      ("exporter-classifiers", ["true", "1 == 2"])] := by
  have hparts : (Document.ofText sharedLists).parts
      = [.mappingStart, .text "interface_classifiers" true, .sequenceStart, .text "true" false,
        .text "1 == 2" false, .sequenceEnd, .text "exporter-classifiers" true, .reference 0,
        .mappingEnd] := by
    decide +kernel
  have htargets : (Document.ofText sharedLists).targets = [(0, 2)] := by decide +kernel
  have hfault : (Document.ofText sharedLists).fault = none := by decide +kernel
  have hitems : (Document.ofText sharedLists).Spells [.text "true" false, .text "1 == 2" false]
      ["true", "1 == 2"] :=
    .cons rfl (.cons rfl .nil)
  have hshared : ∃ after, (Document.ofText sharedLists).WritesList
      ((Document.ofText sharedLists).target 0) ["true", "1 == 2"] after := by
    rw [Document.target, htargets, hparts]
    exact ⟨_, .sequence hitems⟩
  obtain ⟨after, hshared⟩ := hshared
  refine ⟨hfault, _, hparts, ?_⟩
  exact .entry rfl (.itself (.sequence hitems)) (.entry rfl (.reference hshared) .done)

/-- Both lists are taken in their order; a further text that is a rule is added after them, and of
two that are no rules the first is the error. -/
theorem loads_exactly_sharedLists :
    ∃ book c fault,
      ofText sharedLists = .ok book
      ∧ Adds (fun _ => ["true", "1 == 2"]) .empty book
      ∧ Classifier.build book ["false"] [] = .ok c
      ∧ Adds (further ["false"] []) book c.book
      ∧ Rule.compile .exporter "nope" = .error fault
      ∧ Classifier.build book ["false", "nope"] ["("] = .error (.compile fault) := by
  have hrule (kind : Kind) : ∀ source ∈ ["true", "1 == 2", "false"], kind.IsRule source := by
    have hok : ∀ source ∈ ["true", "1 == 2", "false"], (Rule.compile kind source).isOk = true := by
      cases kind with
      | exporter => decide +kernel
      | interface => decide +kernel
    exact fun source hsource => exists_of_isOk (hok source hsource)
  have hlisted : (fun kind => listed kind [("interface_classifiers", ["true", "1 == 2"]),
      ("exporter-classifiers", ["true", "1 == 2"])]) = fun _ => ["true", "1 == 2"] := by
    funext kind
    cases kind with
    | exporter => decide +kernel
    | interface => decide +kernel
  have hloadable : Loadable [("interface_classifiers", ["true", "1 == 2"]),
      ("exporter-classifiers", ["true", "1 == 2"])] := by
    refine ⟨?_, by decide +kernel, ?_⟩
    · simp only [List.forall_mem_cons]
      exact ⟨⟨.interface, .inr rfl⟩, ⟨.exporter, .inl rfl⟩, by simp⟩
    · intro kind source hsource
      rw [congrFun hlisted kind] at hsource
      exact hrule kind source (List.mem_append_left ["false"] hsource)
  have hfurther : ∀ kind, ∀ source ∈ further ["false"] [] kind, kind.IsRule source := by
    intro kind source hsource
    cases kind with
    | exporter =>
        exact hrule _ source (List.mem_cons_of_mem _ (List.mem_cons_of_mem _ hsource))
    | interface => cases hsource
  have hnope : (Rule.compile .exporter "nope").isOk = false := by decide +kernel
  obtain ⟨hbook, hadds, hbuild⟩ := loads_exactly maps_sharedLists
  obtain ⟨book, hread⟩ := hbook.2 hloadable
  obtain ⟨hsetup, hadded, -⟩ := hbuild book ["false"] []
  obtain ⟨c, hc⟩ := hsetup.2 hfurther
  cases hfault : Rule.compile .exporter "nope" with
  | ok rule =>
      rw [hfault] at hnope
      cases hnope
  | error fault =>
      refine ⟨book, c, fault, hread, hlisted ▸ hadds book hread, hc, hadded c hc, rfl, ?_⟩
      refine ((hbuild book ["false", "nope"] ["("]).2.2 _).2 ?_
      refine ⟨[(.exporter, "false")], .exporter, "nope", [(.interface, "(")], fault, rfl, ?_, hfault,
        rfl⟩
      simpa using hrule .exporter "false" (by simp)

end RuleBook

end LabelRules
