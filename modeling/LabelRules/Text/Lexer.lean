import LabelRules.Text.ParseError
import LabelRules.Text.Width
import LabelRules.Unicode.Alphabet

set_option autoImplicit false

/-! # From text to tokens

`tokenize` cuts a text into tokens and skips the blanks between them. Each token takes as many
characters as it can: a symbol of two characters before one of one, all digits and underscores of a
number with at most one point that a digit follows, all letters and numerals of a word, a string up
to its closing quote. A token is found by `scan`, which says how many characters after the first
one belong to it, so the rest of the text is `drop`ped and the next position is computed from what
was `take`n.
-/

namespace LabelRules

namespace Lexer

/-! ## Symbols -/

/-- The symbols of two characters. -/
def pairSymbol? (first second : Char) : Option Symbol :=
  match first, second with
  | '!', '=' => some .notEq
  | '<', '=' => some .lessEq
  | '>', '=' => some .greaterEq
  | '=', '=' => some .eqEq
  | '&', '&' => some .andAnd
  | '|', '|' => some .orOr
  | _, _ => none

/-- The symbols of one character. -/
def singleSymbol? (c : Char) : Option Symbol :=
  match c with
  | '(' => some .openParen
  | ')' => some .closeParen
  | '[' => some .openBracket
  | ']' => some .closeBracket
  | ',' => some .comma
  | '.' => some .dot
  | '?' => some .question
  | ':' => some .colon
  | '+' => some .plus
  | '-' => some .minus
  | '*' => some .star
  | '/' => some .slash
  | '%' => some .percent
  | '!' => some .bang
  | '<' => some .less
  | '>' => some .greater
  | _ => none

/-- The symbol at the start of a text, and how many further characters belong to it. -/
def symbol? (c : Char) (cs : List Char) : Option (Symbol × Nat) :=
  match cs.head?.bind (pairSymbol? c) with
  | some s => some (s, 1)
  | none => (singleSymbol? c).map fun s => (s, 0)

/-! ## Strings -/

/-- The character that a backslash and a character stand for. -/
def unescape (c : Char) : Option Char :=
  match c with
  | '\\' => some '\\'
  | '"' => some '"'
  | '\x27' => some '\x27'
  | 'n' => some '\n'
  | 't' => some '\t'
  | 'r' => some '\r'
  | _ => none

/-- The content of a string up to its closing quote, and how many characters were read, the quote
included. The string starts at `start`; the characters left start at `position`. -/
def quoted (quote : Char) (start position : Nat) :
    List Char → Except ParseError (List Char × Nat)
  | [] => .error (.unterminatedString start)
  | [c] => if c = quote then .ok ([], 1) else .error (.unterminatedString start)
  | c :: d :: rest =>
    if c = quote then .ok ([], 1)
    else if c = '\\' then
      match unescape d with
      | none => .error (.invalidEscape d position)
      | some u =>
        match quoted quote start (position + 1 + d.utf8Size) rest with
        | .error e => .error e
        | .ok (content, n) => .ok (u :: content, n + 2)
    else
      match quoted quote start (position + c.utf8Size) (d :: rest) with
      | .error e => .error e
      | .ok (content, n) => .ok (c :: content, n + 1)

/-- The character that encloses raw strings. -/
def rawQuote : Char := '\x60'

/-- The content of a raw string, in which a backslash is a character like any other. -/
def raw (start : Nat) (cs : List Char) : Except ParseError (List Char × Nat) :=
  let content := cs.takeWhile (· != rawQuote)
  if content.length < cs.length then .ok (content, content.length + 1)
  else .error (.unterminatedString start)

/-! ## Numbers and words -/

/-- A character that continues a number: a digit, or an underscore, which has no value. -/
def continuesNumber (c : Char) : Bool := c.isDigit || c == '_'

/-- How many characters after its first digit belong to a number. -/
def numberLength (cs : List Char) : Nat :=
  let whole := (cs.takeWhile continuesNumber).length
  match cs.drop whole with
  | '.' :: d :: rest =>
    if d.isDigit then whole + 1 + ((d :: rest).takeWhile continuesNumber).length else whole
  | _ => whole

/-- The number that a literal writes. -/
def number (position : Nat) (literal : List Char) : Except ParseError Float :=
  match readDecimal (literal.filter (· != '_')) with
  | some x => .ok x
  | none => .error (.invalidNumber (String.ofList literal) position)

def startsWord (c : Char) : Bool := isLetter c || c == '_'

def continuesWord (c : Char) : Bool := isLetterOrNumeral c || c == '_'

/-! ## Tokens -/

/-- The token that starts with the character `c` at a position, and how many of the characters
after it belong to it. -/
def scan (position : Nat) (c : Char) (cs : List Char) : Except ParseError (TokenKind × Nat) :=
  match symbol? c cs with
  | some (s, n) => .ok (.symbol s, n)
  | none =>
    if c = '"' ∨ c = '\x27' then
      (quoted c position (position + 1) cs).map fun (s, n) => (.string (String.ofList s), n)
    else if c = rawQuote then
      (raw position cs).map fun (s, n) => (.string (String.ofList s), n)
    else if c.isDigit then
      let n := numberLength cs
      (number position (c :: cs.take n)).map fun x => (.number x, n)
    else if startsWord c then
      let tail := cs.takeWhile continuesWord
      .ok (.word (String.ofList (c :: tail)), tail.length)
    else .error (.unexpectedCharacter c position)

/-- The tokens of the characters from a position on; the last one is the stop token. -/
def tokenizeFrom (position : Nat) : List Char → Except ParseError (List Token)
  | [] => .ok [⟨.stop, position⟩]
  | c :: cs =>
    if isBlank c then tokenizeFrom (position + c.utf8Size) cs
    else
      match scan position c cs with
      | .error e => .error e
      | .ok (kind, n) =>
        match tokenizeFrom (position + c.utf8Size + byteLength (cs.take n)) (cs.drop n) with
        | .error e => .error e
        | .ok tokens => .ok (⟨kind, position⟩ :: tokens)
termination_by cs => cs.length
decreasing_by
  · simp
  · simp only [List.length_drop, List.length_cons]; omega

end Lexer

/-- The tokens of a text, closed by a stop token at its end. -/
def tokenize (text : String) : Except ParseError (List Token) :=
  Lexer.tokenizeFrom 0 text.toList

end LabelRules
