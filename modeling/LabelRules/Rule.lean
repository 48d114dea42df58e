import LabelRules.Number.Decimal
import LabelRules.Program
import LabelRules.Tree

set_option autoImplicit false

/-! # Rules

A rule of a kind is a program of that kind. It is made from its text (`Rule.compile`,
`Rule.ofTree`) or from a program (`Rule.ofProgram?`), and written as its text; two rules with one
text are the same rule (`Rule.same`).
-/

namespace LabelRules

/-- What a tree is, as it stands in messages. -/
def Tree.description : Tree → String
  | .null => "null"
  | .bool b => s!"boolean `{b}`"
  | .int i => s!"integer `{i}`"
  | .real x => "floating point `" ++ showWithPoint x ++ "`"
  | .text s => "string " ++ Quoted.text s
  | .list _ => "sequence"
  | .map _ => "map"

/-- A program of a kind. -/
structure Rule (kind : Kind) where
  program : Program
  kind_eq : program.kind = kind

namespace Rule

variable {kind : Kind}

/-- The text of a rule. -/
def source (rule : Rule kind) : String := rule.program.source

/-- The same rule: the same text. -/
def same (r s : Rule kind) : Bool := r.source == s.source

/-- The rule with a text. -/
def compile (kind : Kind) (source : String) : Except CompileError (Rule kind) :=
  match h : Program.compile kind source with
  | .error e => .error e
  | .ok p => .ok ⟨p, (Program.compile_eq_ok_iff.1 h).2.1⟩

theorem source_of_compile {source : String} {rule : Rule kind}
    (h : compile kind source = .ok rule) : rule.source = source := by
  unfold compile at h
  split at h
  · simp at h
  · next p hp =>
    cases h
    exact (Program.compile_eq_ok_iff.1 hp).1

theorem compile_eq_ok_iff {source : String} {rule : Rule kind} :
    compile kind source = .ok rule ↔ Program.compile kind source = .ok rule.program := by
  obtain ⟨q, hq⟩ := rule
  unfold compile
  split
  · next e h => simp [h]
  · next p h => simp [h]

/-- A program of the other kind stood where a rule of a kind was needed. -/
structure WrongKind where
  expected : Kind
  actual : Kind
  deriving DecidableEq, Repr, Inhabited

def WrongKind.message (e : WrongKind) : String :=
  s!"Configuration error: expected an {e.expected.name} program, got an {e.actual.name} program"

/-- A program as a rule of its own kind. -/
def ofProgram? (kind : Kind) (p : Program) : Except WrongKind (Rule kind) :=
  if h : p.kind = kind then .ok ⟨p, h⟩ else .error ⟨kind, p.kind⟩

theorem ofProgram?_program (rule : Rule kind) : ofProgram? kind rule.program = .ok rule := by
  simp [ofProgram?, rule.kind_eq]

/-! ## Rules as data trees -/

/-- Why a tree is no rule. -/
inductive ReadError where
  | notText (found : Tree)
  | compile (e : CompileError)

def ReadError.message : ReadError → String
  | .notText found => s!"invalid type: {found.description}, expected a string"
  | .compile e => e.message

/-- A rule as a tree: its text. -/
def toTree (rule : Rule kind) : Tree := .text rule.source

/-- Reads a rule. -/
def ofTree (kind : Kind) : Tree → Except ReadError (Rule kind)
  | .text source => (compile kind source).mapError .compile
  | found => .error (.notText found)

theorem ofTree_toTree {source : String} {rule : Rule kind} (h : compile kind source = .ok rule) :
    ofTree kind rule.toTree = .ok rule := by
  show (compile kind rule.source).mapError ReadError.compile = .ok rule
  rw [source_of_compile h, h]
  rfl

end Rule

end LabelRules
