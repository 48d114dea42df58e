import LabelRules.Subject
import LabelRules.Typing.Basic

set_option autoImplicit false

/-! # What a rule may mention

A `Scope` gives types to variables, to fields and to functions. The `Schema` of each kind of rule
says what rules of that kind may mention, in the order of the names; its scope declares all of it.
-/

namespace LabelRules

/-- The types of the parameters of a function, and that of its result. -/
structure Signature where
  params : List Ty
  returns : Ty
  deriving DecidableEq, Repr, Inhabited

def Signature.arity (s : Signature) : Nat := s.params.length

/-- Names with their types; of several declarations of a name the latest counts, and it stands
first. -/
structure Scope where
  variableTypes : List (String × Ty) := []
  fieldTypes : List (String × Ty) := []
  signatures : List (String × Signature) := []
  deriving Repr, Inhabited

namespace Scope

def empty : Scope := {}

def declareVariable (s : Scope) (name : String) (t : Ty) : Scope :=
  { s with variableTypes := (name, t) :: s.variableTypes }

/-- Declares a field, by its path with dots. -/
def declareField (s : Scope) (path : String) (t : Ty) : Scope :=
  { s with fieldTypes := (path, t) :: s.fieldTypes }

def declareFunction (s : Scope) (name : String) (signature : Signature) : Scope :=
  { s with signatures := (name, signature) :: s.signatures }

def variableType? (s : Scope) (name : String) : Option Ty := s.variableTypes.lookup name

def fieldType? (s : Scope) (path : String) : Option Ty := s.fieldTypes.lookup path

def signature? (s : Scope) (name : String) : Option Signature := s.signatures.lookup name

end Scope

/-! ## Capabilities

A capability is a function that records a result; rules and environments know it by its name. -/

namespace Capability

def classify : String := "classify"
def classifyRegex : String := "classifyRegex"
def classifyConnectivity : String := "classifyConnectivity"
def classifyConnectivityRegex : String := "classifyConnectivityRegex"
def classifyProvider : String := "classifyProvider"
def classifyProviderRegex : String := "classifyProviderRegex"
def classifyExternal : String := "classifyExternal"
def classifyInternal : String := "classifyInternal"

/-- Capabilities whose name ends in `Regex` record a text that they make from a match. -/
def takesPattern (name : String) : Bool := "Regex".toList.isSuffixOf name.toList

/-- The parameters of a capability that takes a pattern: the text, the pattern, the template. -/
def patternArity : Nat := 3

end Capability

/-! ## Schemas -/

/-- What the rules of a kind may mention. -/
structure Schema where
  kind : Kind
  variableNames : List String
  fields : List (String × Ty)
  functions : List (String × Signature)
  deriving Repr, Inhabited

namespace Schema

/-- Every capability returns a boolean, so that calls can be chained with `&&` and `||`. -/
def capability (name : String) (params : List Ty) : String × Signature := (name, ⟨params, .bool⟩)

/-- The parameters of a capability that takes a pattern. -/
def patternParams : List Ty := [.string, .string, .string]

/-- The schema of a kind of rule. -/
def of : Kind → Schema
  | .exporter =>
    { kind := .exporter
      variableNames := ["Exporter"]
      fields := [("Exporter.IP", .string), ("Exporter.Name", .string)]
      functions := [
        capability Capability.classify [.string],
        capability Capability.classifyRegex patternParams] }
  | .interface =>
    { kind := .interface
      variableNames := ["Exporter", "Interface"]
      fields := [
        ("Exporter.IP", .string), ("Exporter.Name", .string),
        ("Interface.Description", .string), ("Interface.Name", .string),
        ("Interface.Speed", .number)]
      functions := [
        capability Capability.classifyConnectivity [.string],
        capability Capability.classifyConnectivityRegex patternParams,
        capability Capability.classifyExternal [],
        capability Capability.classifyInternal [],
        capability Capability.classifyProvider [.string],
        capability Capability.classifyProviderRegex patternParams] }

/-- The scope that declares what a schema lists. -/
def scope (s : Schema) : Scope where
  variableTypes := s.variableNames.map fun name => (name, .object)
  fieldTypes := s.fields
  signatures := s.functions

end Schema

end LabelRules
