import LabelRules.Classifier
import LabelRules.RuleBook.Document

set_option autoImplicit false

/-! # Setting up a classifier

A classifier is set up from a rule book, which may come from a file, and from the texts of further
rules. Either all rules are taken, or the first error is the answer (`Classifier.build`). The same
holds when a classifier takes other rules later on (`RuleSource`, `Classifier.reloadFrom`).
-/

namespace LabelRules

/-- Why a file cannot be read as text. -/
inductive FileError where
  | missing
  | notText
  deriving DecidableEq, Repr, Inhabited

def FileError.message : FileError → String
  | .missing => "No such file or directory (os error 2)"
  | .notText => "stream did not contain valid UTF-8"

/-- Why there is no rule book or no classifier. -/
inductive SetupError where
  | compile (e : CompileError)
  | book (e : BookError)
  | file (e : FileError)
  deriving DecidableEq, Inhabited

def SetupError.message : SetupError → String
  | .compile e => "Compiler error: " ++ e.message
  | .book e => "Invalid configuration: " ++ e.message
  | .file e => "I/O error: " ++ e.message

/-- The rule book in a text. -/
def RuleBook.read (text : String) : Except SetupError RuleBook :=
  (RuleBook.ofText text).mapError .book

/-- The rule book in a file, given the bytes of the file if there is one. -/
def RuleBook.ofFile : Option ByteArray → Except SetupError RuleBook
  | none => .error (.file .missing)
  | some bytes =>
    match String.fromUTF8? bytes with
    | none => .error (.file .notText)
    | some text => RuleBook.read text

/-- The classifier with the rules of a book and, after them, those with some texts. -/
def Classifier.build (book : RuleBook) (exporter interface : List String) :
    Except SetupError Classifier :=
  match book.extend exporter interface with
  | .error e => .error (.compile e)
  | .ok book => .ok { book }

/-! ## Reloading -/

/-- Where the rules of a reload come from: they are there, they are compiled from texts, or from
texts that follow a document. -/
inductive RuleSource where
  | rules (book : RuleBook)
  | texts (exporter interface : List String)
  | document (text : String) (exporter interface : List String)

/-- All the rules from a source, or the first error. -/
def RuleSource.load : RuleSource → Except SetupError RuleBook
  | .rules book => .ok book
  | .texts exporter interface =>
    (Classifier.build .empty exporter interface).map Classifier.book
  | .document text exporter interface =>
    match RuleBook.read text with
    | .error e => .error e
    | .ok book => (Classifier.build book exporter interface).map Classifier.book

/-- Takes the rules from a source, or stays as it is if there is an error. -/
def Classifier.reloadFrom (c : Classifier) (source : RuleSource) :
    Except SetupError Unit × Classifier :=
  match source.load with
  | .error e => (.error e, c)
  | .ok book => (.ok (), c.reload book)

end LabelRules
