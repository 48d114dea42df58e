set_option autoImplicit false

/-! # Faults of documents

Why a text is no document. The wording of a fault is `Fault.message`.
-/

namespace LabelRules.Document

inductive Fault where
  /-- A control character stands in the text. -/
  | controlCharacter
  | character
  | directive
  | anchorName
  /-- A tag is malformed, or its handle is not declared. -/
  | tag
  | escape
  /-- A quoted text does not end. -/
  | unclosedQuote
  /-- A tab stands where the indentation counts. -/
  | tabIndentation
  | blockHeader
  /-- A colon ends a key in a place that it may not. -/
  | colon
  /-- An entry, a key or a value starts where none may start. -/
  | misplacedIndicator
  /-- A key has no colon. -/
  | keyWithoutColon
  /-- The collection or the document that is being read cannot go on like this. -/
  | unexpectedToken
  | unknownAnchor
  /-- Something follows the document. -/
  | moreThanOneDocument
  deriving DecidableEq, Repr, Inhabited

def Fault.message : Fault → String
  | .controlCharacter => "control characters are not allowed"
  | .character => "a character that cannot start anything"
  | .directive => "a malformed directive"
  | .anchorName => "a malformed name of an anchor"
  | .tag => "a malformed or undeclared tag"
  | .escape => "an unknown escape in a quoted text"
  | .unclosedQuote => "a quoted text without an end"
  | .tabIndentation => "a tab where indentation is expected"
  | .blockHeader => "a malformed header of a block of text"
  | .colon => "an unexpected colon"
  | .misplacedIndicator => "an entry, a key or a value that is not allowed here"
  | .keyWithoutColon => "a key without a colon"
  | .unexpectedToken => "an unexpected end of a collection or a document"
  | .unknownAnchor => "an unknown anchor"
  | .moreThanOneDocument => "more than one document"

end LabelRules.Document
