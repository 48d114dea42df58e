import LabelRules.Expr.Walk
import LabelRules.Pattern.Basic
import LabelRules.Text.Parser
import LabelRules.Typing.Infer

set_option autoImplicit false

/-! # Programs

A program is a rule text with its expression and the kind of rule that it is. `Program.compile`
makes one from a text: it parses the text, refuses patterns that are written out and invalid (all
of them at once, in post-order), checks the types against the schema of the kind, and asks for a
boolean.
-/

namespace LabelRules

/-- A rule text, the kind of rule, and the expression that runs. -/
structure Program where
  source : String
  kind : Kind
  expr : Expr
  deriving Inhabited

/-! ## Patterns that are written out -/

/-- The pattern that is written out at a node: the right side of `matches`, or the second argument
of a capability that takes a pattern, if it is a string literal. -/
def Expr.literalPattern? : Expr → Option String
  | .binary .matches _ right => right.stringLiteral?
  | .call name args =>
    if Capability.takesPattern name then
      match args with
      | [_, pattern, _] => pattern.stringLiteral?
      | _ => none
    else none
  | _ => none

/-- The patterns that are written out in an expression, in post-order. -/
def Expr.literalPatterns (e : Expr) : List String := e.postorder.filterMap literalPattern?

/-- Those of the patterns written out that are no regular expressions. -/
def Expr.invalidPatterns (e : Expr) : List String :=
  e.literalPatterns.filter fun p => !Pattern.isValid p

/-- Notes a text that should be a pattern, if it is none. -/
def Pattern.note (found : List String) : Option String → List String
  | some text => if Pattern.isValid text then found else found ++ [text]
  | none => found

/-- Notes the invalid patterns that are written out, each one when its node is left. -/
def Pattern.validator : Visitor (List String) where
  leave node found :=
    match node with
    | .call name args =>
      if Capability.takesPattern name && args.length == Capability.patternArity then
        Pattern.note found (args[1]?.bind Expr.stringLiteral?)
      else found
    | .binary .matches _ right => Pattern.note found right.stringLiteral?
    | _ => found

/-- The patterns that a walk with the validator notes. -/
def Expr.refusedPatterns (e : Expr) : List String := e.walk Pattern.validator []

/-- The validator only acts on a pattern that is written out at the node. -/
theorem Pattern.leave_validator (node : Expr) (found : List String) :
    validator.leave node found = note found node.literalPattern? := by
  unfold validator Expr.literalPattern?
  cases node with
  | call name args =>
      by_cases hname : Capability.takesPattern name = true
      · match args with
        | [] | [_] | [_, _] | _ :: _ :: _ :: _ :: _ => simp [hname, note, Capability.patternArity]
        | [_, _, _] => simp [hname, Capability.patternArity]
      · simp [hname, note]
  | binary op l r => cases op <;> rfl
  | literal v | field path | unary op e | ternary c t f | array items => rfl

/-- Nodes that are left one after the other add their invalid patterns at the end. -/
theorem Pattern.foldl_note (nodes : List Expr) (found : List String) :
    nodes.foldl (fun found node => note found node.literalPattern?) found
      = found ++ (nodes.filterMap Expr.literalPattern?).filter fun p => !isValid p := by
  induction nodes generalizing found with
  | nil => simp
  | cons node nodes ih =>
      rw [List.foldl_cons, ih, List.filterMap_cons]
      cases node.literalPattern? with
      | none => rfl
      | some text => cases h : isValid text <;> simp [note, h]

/-- What the validator notes is the list of all invalid patterns, in post-order. -/
theorem Expr.refusedPatterns_eq (e : Expr) : e.refusedPatterns = e.invalidPatterns := by
  unfold refusedPatterns
  rw [walk_eq_foldl_postorder _ (fun _ _ => rfl)]
  simp only [Pattern.leave_validator]
  exact Pattern.foldl_note e.postorder []

/-! ## Errors -/

/-- Why a text is no rule. -/
inductive CompileFault where
  | parse (e : ParseError)
  | invalidPatterns (patterns : List String)
  | check (e : CheckError)
  | notBool (actual : Ty)
  deriving DecidableEq, Inhabited

def CompileFault.message : CompileFault → String
  | .parse e => "Parse error: " ++ e.message
  | .invalidPatterns patterns => "invalid regular expression " ++ Quoted.texts patterns
  | .check e => e.message
  | .notBool actual => s!"Type error: rule must evaluate to bool, got {actual.name}"

/-- The patterns that a fault complains about. -/
def CompileFault.patterns : CompileFault → List String
  | .invalidPatterns patterns => patterns
  | _ => []

/-- A fault of a rule text of a kind. -/
structure CompileError where
  kind : Kind
  rule : String
  fault : CompileFault
  deriving DecidableEq, Inhabited

def CompileError.message (e : CompileError) : String :=
  s!"cannot compile {e.kind.name} classifier rule {Quoted.text e.rule}: {e.fault.message}"

/-! ## Compiling -/

namespace Program

/-- The expression of a rule text, or its first fault. -/
def expression (kind : Kind) (source : String) : Except CompileFault Expr :=
  match parse source with
  | .error e => .error (.parse e)
  | .ok e =>
    if e.refusedPatterns ≠ [] then .error (.invalidPatterns e.refusedPatterns)
    else
      match infer (Schema.of kind).scope e with
      | .error fault => .error (.check fault)
      | .ok t => if t = .bool then .ok e else .error (.notBool t)

/-- The program of a rule text. -/
def compile (kind : Kind) (source : String) : Except CompileError Program :=
  match expression kind source with
  | .error fault => .error ⟨kind, source, fault⟩
  | .ok e => .ok ⟨source, kind, e⟩

theorem compile_eq_ok_iff {kind : Kind} {source : String} {p : Program} :
    compile kind source = .ok p ↔
      p.source = source ∧ p.kind = kind ∧ expression kind source = .ok p.expr := by
  obtain ⟨s, k, e⟩ := p
  unfold compile
  cases expression kind source with
  | error fault => simp
  | ok e' => simp [eq_comm]

end Program

end LabelRules
