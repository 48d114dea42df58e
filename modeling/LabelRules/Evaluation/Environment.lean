import LabelRules.Evaluation.Run
import LabelRules.Labels
import LabelRules.Labels.Normal
import LabelRules.Typing.Scope

set_option autoImplicit false

/-! # Environments

An environment gives a running rule the fields of what is labelled, and carries out the calls of
capabilities, which write the output. For exporters the output is a group, and the latest call
counts (`Environment.ofExporter`); for interfaces it is the labels, which are set once
(`Environment.ofInterface`).
-/

namespace LabelRules

/-- What a running rule can reach: fields of variables, and functions that may write an output of
type `σ`. -/
structure Environment (σ : Type) where
  kind : Kind
  field : String → String → Except RunError Value
  call : String → List Value → Run σ Value

/-! ## Arguments of capabilities -/

namespace Capability

variable {σ : Type}

/-- Only so many arguments can be given to a capability. -/
def wrongArity (name : String) (expected : Nat) (args : List Value) : RunError :=
  .invalidOperation (.arity name expected args.length)

/-- The text of an argument. -/
def text (v : Value) : Except RunError String := v.asString.mapError .mismatch

/-- The text of the only argument. -/
def onlyText (name : String) : List Value → Except RunError String
  | [v] => text v
  | args => .error (wrongArity name 1 args)

/-- There is no argument. -/
def noArgument (name : String) (args : List Value) : Except RunError Unit :=
  if args.isEmpty then .ok () else .error (wrongArity name 0 args)

/-- The template, the third argument, filled with the groups of the first match of the pattern, the
second argument, in the text that is the first argument; nothing if there is no match. The pattern
is looked at last. -/
def filledTemplate (name : String) : List Value → Run σ (Option String)
  | [subject, pattern, template] => do
    let subject ← Run.ofExcept (text subject)
    let template ← Run.ofExcept (text template)
    let pattern ← Run.pattern (← Run.ofExcept (text pattern))
    return pattern.expand? subject template
  | args => throw (wrongArity name patternArity args)

/-- Records a text and is true; without a text there is nothing to record. -/
def record (write : String → σ → σ) : Option String → Run σ Value
  | some s => do
    Run.change (write s)
    return .bool true
  | none => return .bool false

end Capability

/-! ## Environments for exporters -/

namespace Environment

/-- The fields of an exporter. -/
def exporterField (exporter : Exporter) (name : String) : Except RunError Value :=
  match exporter.field? name with
  | some v => .ok v
  | none => .error (.fieldNotFound ("Exporter." ++ name))

/-- The fields of an interface. -/
def interfaceField (interface : Interface) (name : String) : Except RunError Value :=
  match interface.field? name with
  | some v => .ok v
  | none => .error (.fieldNotFound ("Interface." ++ name))

/-- A field of a variable that there is not. -/
def noField (variableName field : String) : Except RunError Value :=
  .error (.fieldNotFound (variableName ++ "." ++ field))

/-- The capabilities of a rule for exporters record a group. -/
def callForExporter (name : String) (args : List Value) : Run (Option String) Value :=
  if name = Capability.classify then do
    let group ← Run.ofExcept (Capability.onlyText name args)
    Capability.record (fun s _ => some s) (some group)
  else if name = Capability.classifyRegex then do
    let group ← Capability.filledTemplate name args
    Capability.record (fun s _ => some s) group
  else throw (.unknownFunction name)

/-- The environment of a rule for an exporter; its output is the group. -/
def ofExporter (exporter : Exporter) : Environment (Option String) where
  kind := .exporter
  field := fun variableName field =>
    if variableName = "Exporter" then exporterField exporter field
    else noField variableName field
  call := callForExporter

/-! ## Environments for interfaces -/

/-- Sets the connectivity, in normal form, unless it is set. -/
def writeConnectivity (s : String) (labels : Labels) : Labels :=
  (labels.setConnectivity (normalize s)).2

/-- Sets the provider, in normal form, unless it is set. -/
def writeProvider (s : String) (labels : Labels) : Labels :=
  (labels.setProvider (normalize s)).2

/-- Sets the boundary unless it is set. -/
def writeBoundary (b : Boundary) (labels : Labels) : Labels := (labels.setBoundary b).2

/-- Marks the boundary and is true, whether it was set or not. -/
def markBoundary (name : String) (args : List Value) (b : Boundary) : Run Labels Value := do
  Run.ofExcept (Capability.noArgument name args)
  Run.change (writeBoundary b)
  return .bool true

/-- The capabilities of a rule for interfaces set labels. A capability that has a value is true
whether the value was stored or not. -/
def callForInterface (name : String) (args : List Value) : Run Labels Value :=
  if name = Capability.classifyConnectivity then do
    let value ← Run.ofExcept (Capability.onlyText name args)
    Capability.record writeConnectivity (some value)
  else if name = Capability.classifyProvider then do
    let value ← Run.ofExcept (Capability.onlyText name args)
    Capability.record writeProvider (some value)
  else if name = Capability.classifyConnectivityRegex then do
    let value ← Capability.filledTemplate name args
    Capability.record writeConnectivity value
  else if name = Capability.classifyProviderRegex then do
    let value ← Capability.filledTemplate name args
    Capability.record writeProvider value
  else if name = Capability.classifyExternal then markBoundary name args .external
  else if name = Capability.classifyInternal then markBoundary name args .internal
  else throw (.unknownFunction name)

/-- The environment of a rule for an interface of an exporter; its output is the labels. -/
def ofInterface (exporter : Exporter) (interface : Interface) : Environment Labels where
  kind := .interface
  field := fun variableName field =>
    if variableName = "Exporter" then exporterField exporter field
    else if variableName = "Interface" then interfaceField interface field
    else noField variableName field
  call := callForInterface

end Environment

end LabelRules
