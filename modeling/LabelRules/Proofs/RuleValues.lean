import LabelRules.Proofs.CompiledProgram
import LabelRules.Proofs.Parsing.Language
import LabelRules.Rule

set_option autoImplicit false

/-! # What a rule holds

A rule is equal to the rules with its text, and its text is all that is written of it. That is sound
if its program is the one of its text (`Rule.Valid`): then the text gives back the same rule
(`Rule.valid_iff`), and valid rules with one text behave alike. A rule that is made from a text or
from a tree is valid. A program that is taken as a rule is only asked for its kind, so such a rule is
valid exactly if the compiler makes this program from its text (`Rule.valid_iff_checked`), and others
are taken as well (`Rule.not_always_valid`).
-/

namespace LabelRules

/-- A text compiles to an expression exactly if it parses as the expression, no invalid pattern is
written out in it, and it has type `bool`. -/
theorem Program.expression_eq_ok_iff {kind : Kind} {source : String} {e : Expr} :
    Program.expression kind source = .ok e ↔
      parse source = .ok e ∧ e.invalidPatterns = []
        ∧ infer (Schema.of kind).scope e = .ok .bool := by
  constructor
  · intro h
    have hcompile : Program.compile kind source = .ok ⟨source, kind, e⟩ :=
      Program.compile_eq_ok_iff.2 ⟨rfl, rfl, h⟩
    obtain ⟨-, -, hpatterns, hcheck⟩ := Program.compile_ok hcompile
    exact ⟨parse_of_compile hcompile, hpatterns, hcheck⟩
  · rintro ⟨hparse, hpatterns, hcheck⟩
    simp [Program.expression, hparse, e.refusedPatterns_eq, hpatterns, hcheck]

namespace Rule

variable {kind : Kind}

/-! ## Valid rules -/

/-- The rule holds the program of its text, and the compiler has nothing against it. -/
structure Valid (rule : Rule kind) : Prop where
  parse : LabelRules.parse rule.source = .ok rule.program.expr
  patterns : rule.program.expr.invalidPatterns = []
  check : infer (Schema.of kind).scope rule.program.expr = .ok .bool

/-- Run in any environment from any memory, the two rules end alike. -/
def BehavesAs (rule other : Rule kind) : Prop :=
  ∀ (σ : Type) (env : Environment σ) (m : Memory σ),
    rule.program.run env m = other.program.run env m

/-- The text of a valid rule gives the rule back, and this makes it valid. -/
theorem valid_iff {rule : Rule kind} : rule.Valid ↔ compile kind rule.source = .ok rule := by
  have hself : compile kind rule.source = .ok rule ↔
      Program.expression kind rule.source = .ok rule.program.expr := by
    rw [compile_eq_ok_iff, Program.compile_eq_ok_iff]
    exact ⟨fun h => h.2.2, fun h => ⟨rfl, rule.kind_eq, h⟩⟩
  rw [hself, Program.expression_eq_ok_iff]
  exact ⟨fun h => ⟨h.parse, h.patterns, h.check⟩, fun h => ⟨h.1, h.2.1, h.2.2⟩⟩

theorem valid_of_compile {source : String} {rule : Rule kind}
    (h : compile kind source = .ok rule) : rule.Valid := by
  rw [valid_iff, source_of_compile h, h]

/-- Valid rules with one text are one rule. -/
theorem Valid.eq_of_same {rule other : Rule kind} (h : rule.Valid) (h' : other.Valid)
    (hsame : rule.same other = true) : rule = other := by
  have hsource : rule.source = other.source := by simpa [same] using hsame
  have hrule := valid_iff.1 h
  rw [hsource, valid_iff.1 h'] at hrule
  cases hrule
  rfl

/-! ## How rules are made -/

/-- A rule of a kind is made from a text, from a data tree, or from a program. -/
inductive Making where
  | text (source : String)
  | tree (t : Tree)
  | program (p : Program)

/-- The rule is what comes out. -/
def Making.Gives : Making → Rule kind → Prop
  | .text source, rule => compile kind source = .ok rule
  | .tree t, rule => ofTree kind t = .ok rule
  | .program p, rule => ofProgram? kind p = .ok rule

/-- A program that a rule is made from is the one that the compiler makes from its text. -/
def Making.Checked (kind : Kind) : Making → Prop
  | .text _ => True
  | .tree _ => True
  | .program p => Program.compile kind p.source = .ok p

/-- Reading a tree compiles the text in it. -/
theorem compile_of_ofTree {t : Tree} {rule : Rule kind} (h : ofTree kind t = .ok rule) :
    ∃ source, compile kind source = .ok rule := by
  unfold ofTree at h
  split at h
  · next source =>
    cases hcompile : compile kind source with
    | error e =>
        rw [hcompile] at h
        cases h
    | ok rule' =>
        rw [hcompile] at h
        cases h
        exact ⟨source, hcompile⟩
  · cases h

theorem program_of_ofProgram? {p : Program} {rule : Rule kind}
    (h : ofProgram? kind p = .ok rule) : rule.program = p := by
  unfold ofProgram? at h
  split at h
  · cases h
    rfl
  · cases h

/-- A rule is valid exactly if a program that it is made from is the one of its text. -/
theorem Making.Gives.valid_iff {m : Making} {rule : Rule kind} (h : m.Gives rule) :
    rule.Valid ↔ m.Checked kind := by
  cases m with
  | text source => exact iff_of_true (valid_of_compile h) trivial
  | tree t =>
      obtain ⟨source, hcompile⟩ := compile_of_ofTree h
      exact iff_of_true (valid_of_compile hcompile) trivial
  | program p =>
      obtain rfl := program_of_ofProgram? h
      rw [Rule.valid_iff, compile_eq_ok_iff]
      exact Iff.rfl

/-- **What a rule holds.** However a rule is made, its program is of its kind. It is the valid
program of its text exactly if a program that the rule was made from is what the compiler makes from
its text; a text and a tree are compiled in any case. The text of such a rule compiles again, to a
rule that behaves alike, and two such rules that are equal behave alike. -/
theorem valid_iff_checked {m : Making} {rule : Rule kind} (h : m.Gives rule) :
    rule.program.kind = kind
      ∧ (rule.Valid ↔ m.Checked kind)
      ∧ (m.Checked kind →
        (∃ again, compile kind rule.source = .ok again ∧ again.BehavesAs rule)
          ∧ ∀ (m' : Making) (other : Rule kind), m'.Gives other → m'.Checked kind →
            rule.same other = true → rule.BehavesAs other) := by
  refine ⟨rule.kind_eq, h.valid_iff, fun hchecked => ?_⟩
  have hvalid : rule.Valid := h.valid_iff.2 hchecked
  refine ⟨⟨rule, valid_iff.1 hvalid, fun _ _ _ => rfl⟩, ?_⟩
  intro m' other hother hchecked' hsame
  obtain rfl := hvalid.eq_of_same (hother.valid_iff.2 hchecked') hsame
  exact fun _ _ _ => rfl

/-- A program that the compiler made is taken as a rule, and is what the text of the rule stands
for. -/
theorem valid_iff_checked_compiled :
    ∃ (p : Program) (rule : Rule .exporter),
      Program.compile .exporter "classify('core')" = .ok p
      ∧ (Making.program p).Gives rule ∧ (Making.program p).Checked .exporter
      ∧ rule.Valid
      ∧ ∃ again, compile .exporter "classify('core')" = .ok again ∧ again.BehavesAs rule := by
  have hok : (Program.compile .exporter "classify('core')").isOk = true := by decide +kernel
  obtain ⟨p, hp⟩ := exists_of_isOk hok
  obtain ⟨hsource, hkind, -⟩ := Program.compile_eq_ok_iff.1 hp
  have hgives : (Making.program p).Gives (⟨p, hkind⟩ : Rule .exporter) := by
    simp [Making.Gives, ofProgram?, hkind]
  have hchecked : (Making.program p).Checked .exporter := by
    rw [Making.Checked, hsource]
    exact hp
  obtain ⟨-, hvalid, hagain⟩ := valid_iff_checked hgives
  obtain ⟨again, hcompile, hbehaves⟩ := (hagain hchecked).1
  refine ⟨p, ⟨p, hkind⟩, hp, hgives, hchecked, hvalid.2 hchecked, again, ?_, hbehaves⟩
  rw [← hcompile, source, hsource]

/-- **Not every rule is valid.** A program whose expression is not the one of its text is taken as a
rule, which fires, though it is equal to the rule of the text, which does not. So is a program that
is no condition: its runs fail, and its text does not compile. -/
theorem not_always_valid :
    (∃ rule again : Rule .exporter,
      (Making.program ⟨"false", .exporter, .literal (.bool true)⟩).Gives rule
        ∧ compile .exporter rule.source = .ok again ∧ rule.same again = true
        ∧ (rule.program.runOnExporter {} .empty).1 = .ok (true, none)
        ∧ (again.program.runOnExporter {} .empty).1 = .ok (false, none)
        ∧ ¬ rule.Valid)
      ∧ ∃ rule : Rule .exporter,
        (Making.program ⟨"nil", .exporter, .literal .nil⟩).Gives rule
          ∧ (rule.program.runOnExporter {} .empty).1
            = .error ⟨"nil", .mismatch ⟨.bool, .nil⟩⟩
          ∧ (compile .exporter rule.source).isOk = false
          ∧ ¬ rule.Valid := by
  constructor
  · have hfires : ((compile .exporter "false").toOption.map fun again =>
        (again.program.runOnExporter {} .empty).1) = some (.ok (false, none)) := by
      decide +kernel
    cases hagain : compile .exporter "false" with
    | error e =>
        rw [hagain] at hfires
        cases hfires
    | ok again =>
        rw [hagain] at hfires
        have hnot : (again.program.runOnExporter {} .empty).1 = .ok (false, none) :=
          Option.some.inj hfires
        refine ⟨⟨⟨"false", .exporter, .literal (.bool true)⟩, rfl⟩, again, rfl, hagain, ?_, rfl,
          hnot, ?_⟩
        · rw [same, source_of_compile hagain]
          rfl
        · intro hvalid
          have hrule := valid_iff.1 hvalid
          rw [source, hagain] at hrule
          cases hrule
          cases hnot
  · have hnil : (compile .exporter "nil").isOk = false := by decide +kernel
    refine ⟨⟨⟨"nil", .exporter, .literal .nil⟩, rfl⟩, rfl, rfl, hnil, ?_⟩
    intro hvalid
    have hrule := valid_iff.1 hvalid
    rw [source] at hrule
    rw [hrule] at hnil
    cases hnil

end Rule

end LabelRules
