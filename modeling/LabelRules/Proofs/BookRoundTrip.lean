import LabelRules.Proofs.Documents.Entries
import LabelRules.Proofs.Parsing.Reading
import LabelRules.Proofs.Reloading

set_option autoImplicit false

/-! # Rule books that are written and read back

Only the texts of the rules are written. Every rule of a book that can come about is what its text
compiles to (`RuleBook.Obtained.compiled`), so the book that is read back is the book that was
written, with the trees of its rules, and classifiers with the two books answer alike
(`RuleBook.Obtained.reread`).
-/

namespace LabelRules

namespace RuleBook

/-! ## Books of compiled rules -/

/-- Every rule of the book is what its text compiles to. -/
def Compiled (book : RuleBook) : Prop :=
  ∀ kind, ∀ rule ∈ book.rules kind, Rule.compile kind rule.source = .ok rule

/-- The books that come about: by reading a text, and by adding rules that are compiled from their
texts. -/
inductive Obtained : RuleBook → Prop where
  | empty : Obtained .empty
  | read {text : String} {book : RuleBook} (h : ofText text = .ok book) : Obtained book
  | push {book : RuleBook} {kind : Kind} {source : String} {rule : Rule kind}
      (hbook : Obtained book) (hrule : Rule.compile kind source = .ok rule) :
      Obtained (book.push rule)

theorem compiled_empty : Compiled .empty := by
  intro kind rule hrule
  cases kind <;> cases hrule

theorem Compiled.push {book : RuleBook} (h : book.Compiled) {kind : Kind} {source : String}
    {rule : Rule kind} (hrule : Rule.compile kind source = .ok rule) :
    (book.push rule).Compiled := by
  have hself : Rule.compile kind rule.source = .ok rule := by
    rw [Rule.source_of_compile hrule, hrule]
  intro kind' rule' hmem
  cases kind <;> cases kind' <;> simp only [RuleBook.push, rules, List.mem_append,
    List.mem_singleton] at hmem
  case exporter.exporter =>
      obtain hmem | rfl := hmem
      · exact h .exporter rule' hmem
      · exact hself
  case exporter.interface => exact h .interface rule' hmem
  case interface.exporter => exact h .exporter rule' hmem
  case interface.interface =>
      obtain hmem | rfl := hmem
      · exact h .interface rule' hmem
      · exact hself

section Reading

variable {d : Document} {book book' : RuleBook} {kind : Kind}

theorem Compiled.pushSource (h : book.Compiled) {source : String}
    (hpush : book.pushSource kind source = .ok book') : book'.Compiled := by
  unfold RuleBook.pushSource at hpush
  split at hpush
  · cases hpush
  · next rule hrule =>
    cases hpush
    exact h.push hrule

theorem Compiled.pushPart (h : book.Compiled) {part : Document.Part}
    (hpush : RuleBook.pushPart d book kind part = .ok book') : book'.Compiled := by
  unfold RuleBook.pushPart at hpush
  split at hpush
  · cases hpush
  · next source _ =>
    cases hsource : book.pushSource kind source with
    | error e =>
        rw [hsource] at hpush
        cases hpush
    | ok pushed =>
        rw [hsource] at hpush
        cases hpush
        exact h.pushSource hsource

theorem Compiled.pushParts (h : book.Compiled) {parts : List Document.Part}
    (hpush : RuleBook.pushParts d book kind parts = .ok book') : book'.Compiled := by
  induction parts generalizing book with
  | nil => cases hpush
  | cons part parts ih =>
      unfold RuleBook.pushParts at hpush
      split at hpush
      · next hparts => cases hparts
      · cases hpush
        exact h
      · next hparts =>
        cases hparts
        split at hpush
        · cases hpush
        · next pushed hpart => exact ih (h.pushPart hpart) hpush

theorem book_of_readKey {draft draft' : Draft} {part : Document.Part}
    (hread : draft.readKey d part = .ok draft') : draft'.book = draft.book := by
  unfold Draft.readKey at hread
  split at hread
  · cases hread
  · split at hread
    · cases hread
    · split at hread
      · cases hread
      · cases hread
        rfl

theorem Compiled.readReference {draft draft' : Draft} {part : Document.Part}
    {parts : List Document.Part} (h : draft.book.Compiled)
    (hread : draft.readReference d kind part parts = .ok draft') : draft'.book.Compiled := by
  unfold Draft.readReference at hread
  split at hread
  · split at hread
    · cases hread
      exact h
    · cases hread
  · next rest =>
    cases hpush : RuleBook.pushParts d draft.book kind rest with
    | error e =>
        rw [hpush] at hread
        cases hread
    | ok pushed =>
        rw [hpush] at hread
        cases hread
        exact h.pushParts hpush
  · cases hread

/-- A part that is read leaves a book of compiled rules. -/
theorem Compiled.read {draft draft' : Draft} {part : Document.Part} (h : draft.book.Compiled)
    (hread : draft.read d part = .ok draft') : draft'.book.Compiled := by
  unfold Draft.read at hread
  split at hread
  case h_4 =>
      rw [book_of_readKey hread]
      exact h
  case h_7 => exact h.readReference hread
  case h_9 part _ _ kind _ _ =>
      cases hpush : RuleBook.pushPart d draft.book kind part with
      | error e =>
          rw [hpush] at hread
          cases hread
      | ok pushed =>
          rw [hpush] at hread
          cases hread
          exact h.pushPart hpush
  case h_1 | h_5 =>
      split at hread
      · cases hread
        exact h
      · cases hread
  all_goals
    cases hread
    try exact h

theorem Compiled.readAll {draft draft' : Draft} {parts : List Document.Part}
    (h : draft.book.Compiled) (hread : draft.readAll d parts = .ok draft') :
    draft'.book.Compiled := by
  induction parts generalizing draft with
  | nil =>
      cases hread
      exact h
  | cons part parts ih =>
      unfold Draft.readAll at hread
      split at hread
      · cases hread
      · next draft₁ hpart => exact ih (h.read hpart) hread

/-- A book that is read is one of compiled rules. -/
theorem compiled_of_ofDocument (h : ofDocument d = .ok book) : book.Compiled := by
  unfold ofDocument at h
  split at h
  · cases h
  · next draft hread =>
    have hcompiled : draft.book.Compiled := Compiled.readAll compiled_empty hread
    split at h
    · cases h
    · split at h
      · cases h
        exact hcompiled
      · cases h

end Reading

/-- Every rule of a book is what its text compiles to, however the book came about. -/
theorem Obtained.compiled {book : RuleBook} (h : book.Obtained) : book.Compiled := by
  induction h with
  | empty => exact compiled_empty
  | read h => exact compiled_of_ofDocument h
  | push _ hrule ih => exact ih.push hrule

/-! ## The texts of a book say it all -/

/-- Rules that are what their texts compile to are the same rules if their texts are the same. -/
theorem eq_of_map_source {kind : Kind} {rules rules' : List (Rule kind)}
    (h : ∀ rule ∈ rules, Rule.compile kind rule.source = .ok rule)
    (h' : ∀ rule ∈ rules', Rule.compile kind rule.source = .ok rule)
    (hsource : rules.map Rule.source = rules'.map Rule.source) : rules = rules' := by
  induction rules generalizing rules' with
  | nil => simpa using hsource.symm
  | cons rule rules ih =>
      cases rules' with
      | nil => cases hsource
      | cons rule' rules' =>
          -- Both rules are what the one text compiles to.
          obtain ⟨hhead, htail⟩ := List.cons_eq_cons.1 hsource
          have hrule := h rule List.mem_cons_self
          have hrule' := h' rule' List.mem_cons_self
          rw [hhead, hrule'] at hrule
          cases hrule
          rw [ih (fun r hr => h r (List.mem_cons_of_mem _ hr))
            (fun r hr => h' r (List.mem_cons_of_mem _ hr)) htail]

/-- **A book is its texts**: two books of compiled rules with the same texts have the same rules,
trees included. -/
theorem Compiled.eq_of_same {book book' : RuleBook} (h : book.Compiled) (h' : book'.Compiled)
    (hsame : book.same book' = true) : book = book' := by
  simp only [same, Bool.and_eq_true, beq_iff_eq] at hsame
  have hexporter := eq_of_map_source (h .exporter) (h' .exporter) hsame.1
  have hinterface := eq_of_map_source (h .interface) (h' .interface) hsame.2
  cases book
  cases book'
  simp only [rules] at hexporter hinterface
  rw [hexporter, hinterface]

/-! ## Reading what is written -/

section Records

variable {d : Document} {book : RuleBook}

/-- A document that records two lists of texts is read as the rules with these texts. -/
theorem ofDocument_of_records {exporter interface : List String}
    (h : d.Records [(Kind.exporter.key, exporter), (Kind.interface.key, interface)])
    (hextend : RuleBook.empty.extend exporter interface = .ok book) : ofDocument d = .ok book := by
  unfold extend at hextend
  split at hextend
  · cases hextend
  · next middle hmiddle =>
    have hexporter : (⟨.empty, [], .key⟩ : Draft).addEntry (Kind.exporter.key, exporter)
        = .ok ⟨middle, [.exporter], .key⟩ := by
      simp [Draft.addEntry, Kind.ofKey?_key, hmiddle]
    have hinterface : (⟨middle, [.exporter], .key⟩ : Draft).addEntry (Kind.interface.key, interface)
        = .ok ⟨book, [.interface, .exporter], .key⟩ := by
      simp [Draft.addEntry, Kind.ofKey?_key, hextend]
    rw [ofDocument_of_maps h.maps]
    simp [hexporter, hinterface, Except.map]

end Records

/-- Adds some rules after the others of their kind. -/
def append (book : RuleBook) : {kind : Kind} → List (Rule kind) → RuleBook
  | .exporter, rules => { book with exporter := book.exporter ++ rules }
  | .interface, rules => { book with interface := book.interface ++ rules }

theorem append_nil (book : RuleBook) (kind : Kind) :
    book.append ([] : List (Rule kind)) = book := by
  cases kind <;> simp [append]

theorem append_cons {kind : Kind} (book : RuleBook) (rule : Rule kind) (rules : List (Rule kind)) :
    book.append (rule :: rules) = (book.push rule).append rules := by
  cases kind <;> simp [append, push]

/-- Rules that are what their texts compile to are added by their texts. -/
theorem pushSources_map_source {kind : Kind} {rules : List (Rule kind)}
    (h : ∀ rule ∈ rules, Rule.compile kind rule.source = .ok rule) (book : RuleBook) :
    book.pushSources kind (rules.map Rule.source) = .ok (book.append rules) := by
  induction rules generalizing book with
  | nil =>
      rw [append_nil]
      rfl
  | cons rule rules ih =>
      have hpush : book.pushSource kind rule.source = .ok (book.push rule) := by
        rw [pushSource, h rule List.mem_cons_self]
      rw [List.map_cons, pushSources, hpush, append_cons]
      exact ih (fun r hr => h r (List.mem_cons_of_mem _ hr)) _

/-- A book of compiled rules is made from its texts. -/
theorem Compiled.extend_sources {book : RuleBook} (h : book.Compiled) :
    RuleBook.empty.extend (book.sources .exporter) (book.sources .interface) = .ok book := by
  have hexporter := pushSources_map_source (h .exporter) .empty
  have hinterface := pushSources_map_source (h .interface) (RuleBook.empty.append book.exporter)
  unfold extend sources
  rw [hexporter]
  exact hinterface

theorem isKey_key (kind : Kind) : Document.Lexer.IsKey kind.key := by
  cases kind with
  | exporter => exact ⟨by decide, by decide, by decide⟩
  | interface => exact ⟨by decide, by decide, by decide⟩

/-- The written text of a book records it. -/
theorem records_toText (book : RuleBook) : (Document.ofText book.toText).Records book.entries := by
  have hkeys : ∀ entry ∈ book.entries, Document.Lexer.IsKey entry.1 := by
    intro entry hentry
    simp only [entries, List.mem_cons, List.not_mem_nil, or_false] at hentry
    obtain rfl | rfl := hentry
    · exact isKey_key .exporter
    · exact isKey_key .interface
  exact Document.records_write (by simp [entries]) hkeys

/-- A document that records the entries of a book of compiled rules is read as that book. -/
theorem Compiled.ofDocument_eq {book : RuleBook} (h : book.Compiled) {d : Document}
    (hrecords : d.Records book.entries) : ofDocument d = .ok book :=
  ofDocument_of_records hrecords h.extend_sources

end RuleBook

/-! ## Classifiers with the same rules -/

namespace Pool

variable {ι κ κ' : Type} [DecidableEq ι] [DecidableEq κ] [DecidableEq κ'] (home : ι → κ)
  (home' : ι → κ') {p : Pool ι κ} {q : Pool ι κ'}

/-- What is answered to some requests, one after the other. -/
def answers (p : Pool ι κ) : List (Request ι) → List Answer
  | [] => []
  | request :: requests =>
    (p.serve home request).1 :: answers (p.serve home request).2 requests

/-- The answer to a request, and what it does to the classifiers, do not depend on what is in the
caches or on how they are shared. -/
theorem serve_eq_of_member (h : p.member = q.member) (request : Request ι) :
    (p.serve home request).1 = (q.serve home' request).1
      ∧ (p.serve home request).2.member = (q.serve home' request).2.member := by
  constructor
  · cases request with
    | classifyExporter who exporter =>
        simp only [serve, Classifier.groupOf, h]
        rw [(groupPass_cache exporter (p.cache (home who)) _).1,
          (groupPass_cache exporter (q.cache (home' who)) _).1]
    | classifyInterface who exporter interface =>
        simp only [serve, Classifier.labelsOf, h]
        rw [(labelPass_cache exporter interface (p.cache (home who)) _ _).1,
          (labelPass_cache exporter interface (q.cache (home' who)) _ _).1]
    | reload who source => simp only [serve, h]
    | snapshot who => simp only [serve, h]
  · funext who
    rw [member_serve home, member_serve home', h]

theorem answers_eq_of_member (h : p.member = q.member) (requests : List (Request ι)) :
    p.answers home requests = q.answers home' requests
      ∧ (p.after home requests).member = (q.after home' requests).member := by
  induction requests generalizing p q with
  | nil => exact ⟨rfl, h⟩
  | cons request requests ih =>
      obtain ⟨hanswer, hmember⟩ := serve_eq_of_member home home' h request
      obtain ⟨hanswers, hafter⟩ := ih hmember
      refine ⟨?_, hafter⟩
      rw [answers, answers, hanswer, hanswers]

end Pool

namespace RuleBook

theorem same_self (book : RuleBook) : book.same book = true := by simp [same]

/-- Classifiers that start with one book and those that start with the other answer every sequence
of requests alike, and have the same rules and counts after it, whatever caches they use. -/
def AnswersAs (book book' : RuleBook) : Prop :=
  ∀ (ι κ κ' : Type) [DecidableEq ι] [DecidableEq κ] [DecidableEq κ'] (home : ι → κ)
    (home' : ι → κ') (caches : κ → Cache) (caches' : κ' → Cache)
    (requests : List (Pool.Request ι)),
  (Pool.start (fun _ => book) caches).answers home requests
      = (Pool.start (fun _ => book') caches').answers home' requests
    ∧ ∀ who, ((Pool.start (fun _ => book) caches).after home requests).member who
      = ((Pool.start (fun _ => book') caches').after home' requests).member who

/-- Compiled rules with the same texts answer alike. -/
theorem Compiled.answersAs_of_same {book book' : RuleBook} (h : book.Compiled)
    (h' : book'.Compiled) (hsame : book.same book' = true) : book.AnswersAs book' := by
  intro ι κ κ' _ _ _ home home' caches caches' requests
  have hmember : (Pool.start (fun _ : ι => book) caches).member
      = (Pool.start (fun _ : ι => book') caches').member := by
    rw [h.eq_of_same h' hsame]
    rfl
  obtain ⟨hanswers, hafter⟩ := Pool.answers_eq_of_member home home' hmember requests
  exact ⟨hanswers, congrFun hafter⟩

/-- **A rule book survives being written and read back.** The text of a book that came about by
reading or from compiled rules records the texts of its rules; and every text that records them,
however it is laid out, is read as the same book, whose rules have the same trees in the same order
and whose classifiers answer alike. -/
theorem Obtained.reread {book : RuleBook} (h : book.Obtained) :
    (Document.ofText book.toText).Records book.entries
      ∧ ∀ text, (Document.ofText text).Records book.entries →
        ∃ again, ofText text = .ok again ∧ again.same book = true
          ∧ (∀ kind, (again.rules kind).map (·.program.expr)
            = (book.rules kind).map (·.program.expr))
          ∧ again.AnswersAs book := by
  refine ⟨records_toText book, fun text hrecords => ?_⟩
  have hcompiled := h.compiled
  have hread : ofText text = .ok book := hcompiled.ofDocument_eq hrecords
  exact ⟨book, hread, same_self book, fun _ => rfl,
    hcompiled.answersAs_of_same hcompiled (same_self book)⟩

/-- A rule over two lines with quotes, a backslash and letters beyond ASCII. -/
def spreadRule : String := "Exporter.Name == 'é\u2028\\\\' &&\n\tclassify(\"日本\")"

/-- A book that is read, with a rule that is added to it, is read back. -/
theorem reread_spreadRule :
    ∃ book rule, ofText "interface_classifiers:\n  - 'classifyExternal()'\n" = .ok book
      ∧ Rule.compile .exporter spreadRule = .ok rule
      ∧ (book.push rule).sources .exporter = [spreadRule]
      ∧ (book.push rule).sources .interface = ["classifyExternal()"]
      ∧ ∃ again, ofText (book.push rule).toText = .ok again
        ∧ again.same (book.push rule) = true ∧ again.AnswersAs (book.push rule) := by
  have hread : ((ofText "interface_classifiers:\n  - 'classifyExternal()'\n").toOption.map
      fun book => (book.sources .exporter, book.sources .interface))
        = some ([], ["classifyExternal()"]) := by
    decide +kernel
  have hcompile : (Rule.compile .exporter spreadRule).isOk = true := by decide +kernel
  obtain ⟨rule, hrule⟩ := exists_of_isOk hcompile
  cases hbook : ofText "interface_classifiers:\n  - 'classifyExternal()'\n" with
  | error e =>
      rw [hbook] at hread
      cases hread
  | ok book =>
      rw [hbook] at hread
      simp only [Except.toOption, Option.map_some, Option.some.injEq, Prod.mk.injEq] at hread
      have hobtained : (book.push rule).Obtained := .push (.read hbook) hrule
      obtain ⟨hrecords, hagain⟩ := Obtained.reread hobtained
      obtain ⟨again, hofText, hsame, -, halike⟩ := hagain _ hrecords
      have hsources : (book.push rule).sources .exporter = [spreadRule] := by
        rw [sources_push, hread.1, Rule.source_of_compile hrule]
        rfl
      exact ⟨book, rule, rfl, hrule, hsources, hread.2, again, hofText, hsame, halike⟩

end RuleBook

end LabelRules
