import LabelRules.Text.Token

set_option autoImplicit false

/-! # Errors of a rule text

The ways in which a text fails to be an expression, each with the byte offset that it points at,
and the wording of each (`ParseError.message`).
-/

namespace LabelRules

/-- What the grammar asks for at the place of an error. -/
inductive Expected where
  | expression
  | endOfExpression
  | fieldName
  | closeParen
  | closeBracket
  | ternaryColon
  deriving DecidableEq, Repr, Inhabited

def Expected.description : Expected → String
  | .expression => "an expression"
  | .endOfExpression => "end of expression"
  | .fieldName => "field name after '.'"
  | .closeParen => "')'"
  | .closeBracket => "']'"
  | .ternaryColon => "':' in ternary expression"

/-- The greatest depth of an expression, and the greatest nesting of its text. -/
def nestingLimit : Nat := 128

inductive ParseError where
  /-- The text is blank. -/
  | emptyExpression
  /-- No token starts with the character. -/
  | unexpectedCharacter (c : Char) (position : Nat)
  /-- The string that starts here has no closing quote. -/
  | unterminatedString (position : Nat)
  /-- The backslash at the position is followed by a character that it cannot escape. -/
  | invalidEscape (c : Char) (position : Nat)
  /-- The literal is no number. -/
  | invalidNumber (literal : String) (position : Nat)
  /-- The grammar asks for something else than the token. -/
  | unexpectedToken (found : TokenKind) (expected : Expected) (position : Nat)
  /-- The text ends too early. -/
  | unexpectedEnd (expected : Expected)
  /-- A field of something that is not a variable; the position is that of the something. -/
  | fieldOfNonVariable (field : String) (position : Nat)
  /-- The expression is nested deeper than `nestingLimit` levels. -/
  | tooDeep (position : Nat)
  deriving DecidableEq, Inhabited

def ParseError.message : ParseError → String
  | .emptyExpression => "Empty expression"
  | .unexpectedCharacter c position =>
    s!"Unexpected character {Quoted.char c} at position {position}"
  | .unterminatedString position =>
    s!"Unterminated string literal starting at position {position}"
  | .invalidEscape c position =>
    "Invalid escape sequence \\" ++ c.toString ++ s!" at position {position}"
  | .invalidNumber literal position =>
    s!"Invalid number literal {Quoted.text literal} at position {position}"
  | .unexpectedToken found expected position =>
    s!"Unexpected {found.description} at position {position}, expected {expected.description}"
  | .unexpectedEnd expected =>
    s!"Unexpected end of expression, expected {expected.description}"
  | .fieldOfNonVariable field position =>
    "Invalid expression syntax: field access '." ++ field ++
      s!"' at position {position} is only supported on variables"
  | .tooDeep position =>
    "Invalid expression syntax: " ++
      s!"expression nested deeper than {nestingLimit} levels at position {position}"

end LabelRules
