import LabelRules.Number.Decimal
import LabelRules.Text.Quoted

set_option autoImplicit false

/-! # Tokens

A rule text is a sequence of words, numbers, strings and symbols, closed by one stop token. Words
are names and, by position, the keyword operators; the words of `reserved` are never names of
variables or functions. Every token knows the byte offset where it starts.
-/

namespace LabelRules

/-- The punctuation and the symbolic operators. -/
inductive Symbol where
  | openParen | closeParen | openBracket | closeBracket
  | comma | dot | question | colon
  | plus | minus | star | slash | percent | bang
  | eqEq | notEq | less | lessEq | greater | greaterEq
  | andAnd | orOr
  deriving DecidableEq, Repr, Inhabited

/-- How a symbol is written. -/
def Symbol.spelling : Symbol → String
  | .openParen => "(" | .closeParen => ")" | .openBracket => "[" | .closeBracket => "]"
  | .comma => "," | .dot => "." | .question => "?" | .colon => ":"
  | .plus => "+" | .minus => "-" | .star => "*" | .slash => "/" | .percent => "%" | .bang => "!"
  | .eqEq => "==" | .notEq => "!=" | .less => "<" | .lessEq => "<="
  | .greater => ">" | .greaterEq => ">=" | .andAnd => "&&" | .orOr => "||"

inductive TokenKind where
  | word (name : String)
  | number (x : Float)
  | string (s : String)
  | symbol (s : Symbol)
  | stop
  deriving DecidableEq, Inhabited

/-- A kind of token as messages name it. -/
def TokenKind.description : TokenKind → String
  | .word name => "identifier '" ++ name ++ "'"
  | .number x => "number " ++ showNumber x
  | .string s => "string " ++ Quoted.text s
  | .symbol s => "'" ++ s.spelling ++ "'"
  | .stop => "end of expression"

/-- A token and the byte offset at which it starts. -/
structure Token where
  kind : TokenKind
  position : Nat
  deriving DecidableEq, Inhabited

namespace Token

def isSymbol (t : Token) (s : Symbol) : Bool := t.kind == .symbol s

def isWord (t : Token) (name : String) : Bool := t.kind == .word name

@[simp] theorem isSymbol_iff {t : Token} {s : Symbol} :
    t.isSymbol s = true ↔ t.kind = .symbol s := by
  simp [isSymbol]

@[simp] theorem isWord_iff {t : Token} {name : String} :
    t.isWord name = true ↔ t.kind = .word name := by
  simp [isWord]

end Token

/-- The words that cannot name a variable or a function. -/
def reserved : List String :=
  ["true", "false", "nil", "and", "or", "in", "not", "matches", "contains", "startsWith",
    "endsWith"]

end LabelRules
