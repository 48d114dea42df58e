import LabelRules.Document.Fault
import LabelRules.Document.Place

set_option autoImplicit false

/-! # Scalars

The texts at the leaves of a document. A plain scalar and a quoted one may go over several lines; a
single line break in them is read as a space, and of several the first is dropped (`Gap.text`). In
a block of text the line breaks stay, or are folded in the same way (`block`).
-/

namespace LabelRules.Document

/-- What was read, with what follows it; or a fault. -/
abbrev Scan (α : Type) : Type := Except Fault (α × List Placed)

/-! ## White space inside a scalar -/

/-- White space between two pieces of a scalar: blanks, or line breaks, with the blanks around them
dropped. The first line break is none if it is escaped. Blanks and later breaks are in reverse. -/
inductive Gap where
  | blanks (cs : List Char)
  | breaks (first : Option Char) (later : List Char)

namespace Gap

def none : Gap := .blanks []

def isNone : Gap → Bool
  | .blanks [] => true
  | _ => false

/-- Does the gap go over the end of a line? -/
def isMultiline : Gap → Bool
  | .blanks _ => false
  | .breaks _ _ => true

/-- Adds a blank or a line break. -/
def push (c : Char) : Gap → Gap
  | .blanks cs => if isBreak c then .breaks (some c) [] else .blanks (c :: cs)
  | .breaks first later => if isBreak c then .breaks first (c :: later) else .breaks first later

/-- What a gap is read as, in reverse. -/
def text : Gap → List Char
  | .blanks cs => cs
  | .breaks (some '\n') [] => [' ']
  | .breaks (some '\n') later => later
  | .breaks first later => later ++ first.toList

end Gap

/-! ## Plain scalars -/

/-- What a plain scalar leaves: its text, whether a line ended after it, and what follows. -/
structure Plain where
  text : String
  endsLine : Bool
  rest : List Placed

/-- Does a colon end a plain scalar here? Inside brackets it must not be followed by an indicator. -/
def colonFault (flow : Bool) (rest : List Placed) : Bool :=
  flow && match rest with
    | [] => false
    | p :: _ => ",?[]\x7b\x7d".toList.contains p.char

def isFlowIndicator (c : Char) : Bool := ",[]\x7b\x7d".toList.contains c

/-- Reads a plain scalar whose lines after the first are indented to a column, inside brackets or
not. It ends before a comment, a marker, a colon with white space after it, a line that is indented
less, and inside brackets before an indicator. The text so far is in reverse. -/
def plain (flow : Bool) (indent : Int) (text : List Char) (gap : Gap) :
    List Placed → Except Fault Plain
  | [] => .ok ⟨String.ofList text.reverse, gap.isMultiline, []⟩
  | p :: rest =>
    let stop : Except Fault Plain :=
      .ok ⟨String.ofList text.reverse, gap.isMultiline, p :: rest⟩
    if isSpacing p.char then
      if p.char == '\t' && gap.isMultiline && (p.place.column : Int) < indent then
        .error .tabIndentation
      else plain flow indent text (gap.push p.char) rest
    else if !gap.isNone && !flow && (p.place.column : Int) < indent then stop
    else if isAnyMarker (p :: rest) then stop
    else if !gap.isNone && p.char == '#' then stop
    else if p.char == ':' && colonFault flow rest then .error .colon
    else if p.char == ':' && spacingAhead rest then stop
    else if flow && isFlowIndicator p.char then stop
    else plain flow indent (p.char :: (gap.text ++ text)) .none rest

/-! ## Quoted scalars -/

/-- Reads a scalar in single quotes, after the first quote; two quotes are one. -/
def singleQuoted (text : List Char) (gap : Gap) : List Placed → Scan String
  | [] => .error .unclosedQuote
  | p :: rest =>
    if isSpacing p.char then singleQuoted text (gap.push p.char) rest
    else
      let text := gap.text ++ text
      if isAnyMarker (p :: rest) then .error .unclosedQuote
      else if p.char == '\x27' then
        match rest with
        | q :: rest' =>
          if q.char == '\x27' then singleQuoted ('\x27' :: text) .none rest'
          else .ok (String.ofList text.reverse, rest)
        | [] => .ok (String.ofList text.reverse, rest)
      else singleQuoted (p.char :: text) .none rest

/-- The character that an escape of one letter stands for. -/
def escaped? : Char → Option Char
  | '0' => some '\x00' | 'a' => some '\x07' | 'b' => some '\x08' | 't' => some '\t'
  | '\t' => some '\t' | 'n' => some '\n' | 'v' => some '\x0b' | 'f' => some '\x0c'
  | 'r' => some '\r' | 'e' => some '\x1b' | ' ' => some ' ' | '"' => some '"' | '/' => some '/'
  | '\\' => some '\\' | 'N' => some nextLine | '_' => some '\u00A0' | 'L' => some lineSeparator
  | 'P' => some paragraphSeparator
  | _ => none

/-- How many hexadecimal digits follow the letter of an escape. -/
def escapeWidth? : Char → Option Nat
  | 'x' => some 2 | 'u' => some 4 | 'U' => some 8
  | _ => none

/-- Reads so many hexadecimal digits as the code of a character. -/
def codeEscape (width : Nat) (input : List Placed) : Option Char :=
  let digits := (input.take width).map (·.char)
  if digits.length = width && digits.all isHexDigit then
    let code := digits.foldl (fun n c => 16 * n + hexValue c) 0
    if code.isValidChar then some (Char.ofNat code) else none
  else none

/-- Reads a scalar in double quotes, after the first quote; `skip` characters belong to an escape
that has been read. -/
def doubleQuoted (text : List Char) (gap : Gap) (skip : Nat) : List Placed → Scan String
  | [] => .error .unclosedQuote
  | p :: rest =>
    if skip ≠ 0 then doubleQuoted text gap (skip - 1) rest
    else if isSpacing p.char then doubleQuoted text (gap.push p.char) 0 rest
    else
      let text := gap.text ++ text
      if isAnyMarker (p :: rest) then .error .unclosedQuote
      else if p.char == '"' then .ok (String.ofList text.reverse, rest)
      else if p.char == '\\' then
        match rest with
        | [] => .error .escape
        | q :: rest' =>
          if isBreak q.char then doubleQuoted text (.breaks .none []) 1 rest
          else
            match escaped? q.char with
            | some c => doubleQuoted (c :: text) .none 1 rest
            | none =>
              match escapeWidth? q.char with
              | none => .error .escape
              | some width =>
                match codeEscape width rest' with
                | none => .error .escape
                | some c => doubleQuoted (c :: text) .none (width + 1) rest
      else doubleQuoted (p.char :: text) .none 0 rest

/-! ## Blocks of text -/

/-- What happens to the line breaks at the end of a block: all are dropped, one is kept, or all. -/
inductive Chomping where
  | strip
  | clip
  | keep
  deriving DecidableEq, Repr, Inhabited

/-- The header of a block of text; an indentation of 0 is not given. -/
structure Header where
  chomping : Chomping := .clip
  indentation : Nat := 0
  deriving Repr, Inhabited

def chompingOf? : Char → Option Chomping
  | '+' => some .keep
  | '-' => some .strip
  | _ => none

/-- Reads the indicators of a header, in any order, at most one of each sort. -/
def Header.read (h : Header) (sized chomped : Bool) : List Placed → Scan Header
  | [] => .ok (h, [])
  | p :: rest =>
    match chompingOf? p.char with
    | some c =>
      if chomped then .ok (h, p :: rest) else read { h with chomping := c } sized true rest
    | none =>
      if p.char.isDigit && !sized then
        if p.char == '0' then .error .blockHeader
        else read { h with indentation := p.char.toNat - '0'.toNat } true chomped rest
      else .ok (h, p :: rest)

/-- Passes over blanks and a comment to the end of a line, and over the line break. -/
def restOfLine (fault : Fault) (input : List Placed) : Except Fault (List Placed) :=
  let rest := input.dropWhile fun p => isBlank p.char
  let rest := if ahead '#' rest then rest.dropWhile fun p => !isBreak p.char else rest
  match rest with
  | [] => .ok []
  | p :: after => if isBreak p.char then .ok after else .error fault

/-- A block of text that is being read. Texts and line breaks are in reverse; an indentation of 0 is
not known yet. -/
structure Block where
  text : List Char := []
  /-- The line break at the end of the last line. -/
  lineBreak : Option Char := none
  /-- The line breaks of empty lines after it. -/
  breaks : List Char := []
  /-- The last line started with a blank. -/
  wasBlank : Bool := false
  indent : Nat := 0
  /-- The most blanks at the start of a line so far. -/
  widest : Nat := 0
  inLine : Bool := false

namespace Block

/-- Starts a line with a character. In a folded block, a break between two lines that start with no
blank is read as a space, or as the empty lines after it. -/
def startLine (b : Block) (folded : Bool) (c : Char) : Block :=
  let joined :=
    if folded && b.lineBreak == some '\n' && !b.wasBlank && !isBlank c then
      if b.breaks.isEmpty then ' ' :: b.text else b.breaks ++ b.text
    else b.breaks ++ (b.lineBreak.toList ++ b.text)
  { b with text := c :: joined, lineBreak := none, breaks := [], wasBlank := isBlank c,
           inLine := true }

/-- The text of a block that has ended. -/
def finish (b : Block) (chomping : Chomping) : String :=
  let tail := match chomping with
    | .strip => []
    | .clip => b.lineBreak.toList
    | .keep => b.breaks ++ b.lineBreak.toList
  String.ofList (tail ++ b.text).reverse

end Block

/-- Reads the lines of a block of text. If the indentation is not known, it is that of the first
line that is not empty, and at least `least`. -/
def block (folded : Bool) (chomping : Chomping) (least : Nat) (b : Block) :
    List Placed → Scan String
  | [] => .ok (b.finish chomping, [])
  | p :: rest =>
    if b.inLine then
      if isBreak p.char then
        block folded chomping least { b with lineBreak := some p.char, inLine := false } rest
      else block folded chomping least { b with text := p.char :: b.text } rest
    else
      let inside := b.indent = 0 || p.place.column < b.indent
      if inside && p.char == ' ' then block folded chomping least b rest
      else if inside && p.char == '\t' then .error .tabIndentation
      else
        let b := { b with widest := max b.widest p.place.column }
        if isBreak p.char then
          block folded chomping least { b with breaks := p.char :: b.breaks } rest
        else
          let b := if b.indent = 0 then { b with indent := max b.widest least } else b
          if p.place.column = b.indent then
            block folded chomping least (b.startLine folded p.char) rest
          else .ok (b.finish chomping, p :: rest)

/-- Reads a block of text, after its first indicator, inside a block with an indentation. -/
def blockScalar (folded : Bool) (outer : Int) (input : List Placed) :
    Except Fault (String × List Placed) := do
  let (header, rest) ← Header.read {} false false input
  let rest ← restOfLine .blockHeader rest
  let base := (max outer 0).toNat
  let indent := if header.indentation = 0 then 0 else base + header.indentation
  block folded header.chomping (max (outer + 1) 1).toNat { indent := indent } rest

end LabelRules.Document
