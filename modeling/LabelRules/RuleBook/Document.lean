import LabelRules.Document.Basic
import LabelRules.Document.Writer
import LabelRules.RuleBook

set_option autoImplicit false

/-! # Rule books as documents

A document of a rule book maps `exporter-classifiers` and `interface-classifiers` to lists of rule
texts; either key may be missing, have nothing as its value, or be written with an underscore. The
document is read from its start on (`RuleBook.ofDocument`), and the first thing that is wrong is the
error: a rule that does not compile, a key that is unknown or comes twice, a part of another shape,
or a fault of the text.
-/

namespace LabelRules

/-- Why a document is no rule book. -/
inductive BookError where
  | document (f : Document.Fault)
  | unknownKey (name : String)
  | duplicateKey (kind : Kind)
  /-- Something else than a mapping, a list or a text stood where one was needed. -/
  | shape (found : Document.Part)
  | rule (e : CompileError)
  deriving DecidableEq, Inhabited

/-- The key of the rules of a kind. -/
def Kind.key : Kind → String
  | .exporter => "exporter-classifiers"
  | .interface => "interface-classifiers"

/-- The other spelling of the key. -/
def Kind.otherKey : Kind → String
  | .exporter => "exporter_classifiers"
  | .interface => "interface_classifiers"

/-- The kind of rules under a key. -/
def Kind.ofKey? (key : String) : Option Kind :=
  [Kind.exporter, Kind.interface].find? fun k => key = k.key || key = k.otherKey

theorem Kind.ofKey?_key (k : Kind) : Kind.ofKey? k.key = some k := by cases k <;> decide

theorem Kind.ofKey?_otherKey (k : Kind) : Kind.ofKey? k.otherKey = some k := by
  cases k <;> decide

/-- The name of a part in messages. -/
def Document.Part.description : Document.Part → String
  | .text s _ => "string " ++ Quoted.text s
  | .reference _ => "alias"
  | .sequenceStart => "sequence"
  | .sequenceEnd => "end of a sequence"
  | .mappingStart => "map"
  | .mappingEnd => "end of a map"

def BookError.message : BookError → String
  | .document f => f.message
  | .unknownKey name => s!"unknown field `{name}`"
  | .duplicateKey kind => s!"duplicate field `{kind.key}`"
  | .shape found => s!"invalid type: {found.description}"
  | .rule e => e.message

namespace RuleBook

/-! ## Reading -/

/-- What the reader of a document expects. -/
inductive Stage where
  | root
  | key
  | list (kind : Kind)
  | item (kind : Kind)
  | done
  deriving DecidableEq, Repr, Inhabited

/-- A book that is being read: the rules so far, the kinds whose lists were given, and what is
expected. -/
structure Draft where
  book : RuleBook := {}
  given : List Kind := []
  stage : Stage := .root

/-- Adds the rule with the text of a part. -/
def pushPart (d : Document) (book : RuleBook) (kind : Kind) (part : Document.Part) :
    Except BookError RuleBook :=
  match d.text? part with
  | none => .error (.shape part)
  | some source => (book.pushSource kind source).mapError .rule

/-- Adds the rules of a list, up to its end. -/
def pushParts (d : Document) (book : RuleBook) (kind : Kind) :
    List Document.Part → Except BookError RuleBook
  | [] => .error (.document .unexpectedToken)
  | .sequenceEnd :: _ => .ok book
  | part :: rest =>
    match pushPart d book kind part with
    | .error e => .error e
    | .ok book => pushParts d book kind rest

namespace Draft

/-- Reads a key. -/
def readKey (d : Document) (draft : Draft) (part : Document.Part) : Except BookError Draft :=
  match d.text? part with
  | none => .error (.shape part)
  | some name =>
    match Kind.ofKey? name with
    | none => .error (.unknownKey name)
    | some kind =>
      if kind ∈ draft.given then .error (.duplicateKey kind)
      else .ok { draft with given := kind :: draft.given, stage := .list kind }

/-- Reads the list that an alias stands for. -/
def readReference (d : Document) (draft : Draft) (kind : Kind) (part : Document.Part) :
    List Document.Part → Except BookError Draft
  | .text s isPlain :: _ =>
    if s = "" ∧ isPlain then .ok { draft with stage := .key } else .error (.shape part)
  | .sequenceStart :: rest =>
    (pushParts d draft.book kind rest).map fun book => { draft with book, stage := .key }
  | _ => .error (.shape part)

/-- Reads a part. -/
def read (d : Document) (draft : Draft) (part : Document.Part) : Except BookError Draft :=
  match draft.stage, part with
  | .root, .text s isPlain =>
    if s = "" ∧ isPlain then .ok { draft with stage := .done } else .error (.shape part)
  | .root, .mappingStart => .ok { draft with stage := .key }
  | .key, .mappingEnd => .ok { draft with stage := .done }
  | .key, part => draft.readKey d part
  | .list _, .text s isPlain =>
    if s = "" ∧ isPlain then .ok { draft with stage := .key } else .error (.shape part)
  | .list kind, .sequenceStart => .ok { draft with stage := .item kind }
  | .list kind, .reference n => draft.readReference d kind part (d.target n)
  | .item _, .sequenceEnd => .ok { draft with stage := .key }
  | .item kind, part => (pushPart d draft.book kind part).map fun book => { draft with book }
  | _, part => .error (.shape part)

/-- Reads some parts. -/
def readAll (d : Document) (draft : Draft) : List Document.Part → Except BookError Draft
  | [] => .ok draft
  | part :: rest =>
    match draft.read d part with
    | .error e => .error e
    | .ok draft => readAll d draft rest

end Draft

/-- Reads a rule book. -/
def ofDocument (d : Document) : Except BookError RuleBook :=
  match ({} : Draft).readAll d d.parts with
  | .error e => .error e
  | .ok draft =>
    match d.fault with
    | some f => .error (.document f)
    | none => if draft.stage = .done then .ok draft.book else .error (.document .unexpectedToken)

/-- Reads the text of a rule book. -/
def ofText (text : String) : Except BookError RuleBook := ofDocument (.ofText text)

/-! ## Writing -/

/-- The keys of a rule book with the texts of its rules. -/
def entries (book : RuleBook) : List (String × List String) :=
  [(Kind.exporter.key, book.sources .exporter), (Kind.interface.key, book.sources .interface)]

/-- The text of a rule book. -/
def toText (book : RuleBook) : String := Document.write book.entries

/-- A rule book survives being written as a text and read back. -/
def roundTrips (book : RuleBook) : Bool :=
  match ofText book.toText with
  | .ok book' => book'.same book
  | .error _ => false

end RuleBook

end LabelRules
