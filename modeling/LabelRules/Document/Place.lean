set_option autoImplicit false

/-! # Placed characters

A text is read as characters with their places. A line break is one character, whatever its written
form: a carriage return, a line feed, both together, and the next-line character are all read as a
line feed; the two Unicode separators stay themselves (`Placed.ofText`).
-/

namespace LabelRules.Document

/-- Where a character stands: how many characters are before it in the text, how many lines, and how
many characters in its line. -/
structure Place where
  index : Nat
  line : Nat
  column : Nat
  deriving DecidableEq, Repr, Inhabited

/-- A character in its place. -/
structure Placed where
  char : Char
  place : Place
  deriving Repr, Inhabited

def lineSeparator : Char := '\u2028'
def paragraphSeparator : Char := '\u2029'
def nextLine : Char := '\u0085'
def byteOrderMark : Char := '\uFEFF'

/-! ## Kinds of characters -/

/-- A character that ends a line. -/
def isBreak (c : Char) : Bool := c == '\n' || c == lineSeparator || c == paragraphSeparator

def isBlank (c : Char) : Bool := c == ' ' || c == '\t'

def isSpacing (c : Char) : Bool := isBlank c || isBreak c

/-- Characters of the names of anchors and tags. -/
def isNameCharacter (c : Char) : Bool := c.isAlphanum || c == '_' || c == '-'

def isHexDigit (c : Char) : Bool :=
  c.isDigit || ('a' ≤ c && c ≤ 'f') || ('A' ≤ c && c ≤ 'F')

def hexValue (c : Char) : Nat :=
  if c.isDigit then c.toNat - '0'.toNat
  else if 'a' ≤ c then c.toNat - 'a'.toNat + 10
  else c.toNat - 'A'.toNat + 10

/-- A character that may stand in a document: no control character, but a tab or a line break. -/
def isAllowed (c : Char) : Bool :=
  c == '\t' || c == '\n' || c == '\r' || (' ' ≤ c && c ≤ '~') || c == nextLine ||
    ('\u00A0' ≤ c && c ≠ '\uFFFE' && c ≠ '\uFFFF')

/-! ## Placing -/

def Place.start : Place := ⟨0, 0, 0⟩

/-- The place after a character that is not a line break. -/
def Place.next (p : Place) : Place := ⟨p.index + 1, p.line, p.column + 1⟩

/-- The place after a line break that is written with so many characters. -/
def Place.nextLine (p : Place) (width : Nat) : Place := ⟨p.index + width, p.line + 1, 0⟩

/-- The characters of a text from a place on, and the place after the last one. -/
def placeFrom (p : Place) : List Char → List Placed × Place
  | [] => ([], p)
  | '\r' :: '\n' :: rest =>
    let (placed, stop) := placeFrom (p.nextLine 2) rest
    (⟨'\n', p⟩ :: placed, stop)
  | c :: rest =>
    if c = '\r' || c = nextLine then
      let (placed, stop) := placeFrom (p.nextLine 1) rest
      (⟨'\n', p⟩ :: placed, stop)
    else if isBreak c then
      let (placed, stop) := placeFrom (p.nextLine 1) rest
      (⟨c, p⟩ :: placed, stop)
    else
      let (placed, stop) := placeFrom p.next rest
      (⟨c, p⟩ :: placed, stop)

/-- The characters of a text in their places, and the place after the last one. -/
def Placed.ofText (text : String) : List Placed × Place := placeFrom .start text.toList

/-- Does a blank, a line break or the end follow? -/
def spacingAhead : List Placed → Bool
  | [] => true
  | p :: _ => isSpacing p.char

/-- Is a character next? -/
def ahead (c : Char) : List Placed → Bool
  | [] => false
  | p :: _ => p.char == c

/-- Is the line from here on a marker: three times a character, and then blank? -/
def isMarker (c : Char) : List Placed → Bool
  | p :: q :: r :: rest =>
    p.place.column == 0 && p.char == c && q.char == c && r.char == c && spacingAhead rest
  | _ => false

/-- Is the line from here on a marker between documents? -/
def isAnyMarker (input : List Placed) : Bool := isMarker '-' input || isMarker '.' input

end LabelRules.Document
