import LabelRules.Document.Scalar

set_option autoImplicit false

/-! # Tokens of documents

The marks and texts of a document, with the starts and ends that its indentation implies. Scanning
functions for the tokens that carry a text: anchors, tags and directives.
-/

namespace LabelRules.Document

inductive Token where
  | streamEnd
  /-- A directive with the version of the format. -/
  | version (major minor : Nat)
  /-- A directive that declares a handle for tags. -/
  | handle (name : String)
  | documentStart
  | documentEnd
  | blockSequenceStart
  | blockMappingStart
  | blockEnd
  | flowSequenceStart
  | flowSequenceEnd
  | flowMappingStart
  | flowMappingEnd
  | blockEntry
  | flowEntry
  | key
  | value
  | alias (name : String)
  | anchor (name : String)
  /-- A tag with its handle; a tag that is written out in full has none. -/
  | tag (handle : Option String)
  | scalar (text : String) (isPlain : Bool)
  deriving DecidableEq, Repr, Inhabited

/-! ## Names -/

def textOf (input : List Placed) : String := String.ofList (input.map (·.char))

/-- The letters, digits, underscores and dashes that follow, and what is after them. -/
def nameAhead (input : List Placed) : String × List Placed :=
  (textOf (input.takeWhile fun p => isNameCharacter p.char),
    input.dropWhile fun p => isNameCharacter p.char)

/-- Reads the name of an anchor, after its indicator. -/
def anchorName (input : List Placed) : Scan String :=
  let (name, rest) := nameAhead input
  let ends := spacingAhead rest || "?:,]\x7d%@\x60".toList.any (ahead · rest)
  if name.isEmpty || !ends then .error .anchorName else .ok (name, rest)

/-! ## Tags -/

/-- Characters of a tag, inside angle brackets or not. -/
def isTagCharacter (verbatim : Bool) (c : Char) : Bool :=
  isNameCharacter c || ";/?:@&=+$.!~*\x27()%".toList.contains c ||
    (verbatim && ",[]".toList.contains c)

/-- How many bytes a character of a tag takes, by the first of its bytes. -/
def byteCount? (byte : Nat) : Option Nat :=
  if byte < 0x80 then some 1
  else if 0xC0 ≤ byte && byte < 0xE0 then some 2
  else if 0xE0 ≤ byte && byte < 0xF0 then some 3
  else if 0xF0 ≤ byte && byte < 0xF8 then some 4
  else none

/-- Passes over the characters of a tag and says whether there were any. A percent sign starts an
escaped byte; `more` bytes of an escaped character are still to come, `skip` characters belong to an
escape that has been read. -/
def tagBody (verbatim : Bool) (some_read : Bool) (more skip : Nat) : List Placed → Scan Bool
  | [] => if more = 0 then .ok (some_read, []) else .error .tag
  | p :: rest =>
    if skip ≠ 0 then tagBody verbatim some_read more (skip - 1) rest
    else if p.char == '%' then
      match rest with
      | a :: b :: _ =>
        if isHexDigit a.char && isHexDigit b.char then
          let byte := 16 * hexValue a.char + hexValue b.char
          if more = 0 then
            match byteCount? byte with
            | some n => tagBody verbatim true (n - 1) 2 rest
            | none => .error .tag
          else if 0x80 ≤ byte && byte < 0xC0 then tagBody verbatim true (more - 1) 2 rest
          else .error .tag
        else .error .tag
      | _ => .error .tag
    else if more ≠ 0 then .error .tag
    else if isTagCharacter verbatim p.char then tagBody verbatim true 0 0 rest
    else .ok (some_read, p :: rest)

/-- Passes over the characters of a tag; there must be some, here or before. -/
def tagText (verbatim before : Bool) (input : List Placed) : Except Fault (List Placed) := do
  let (some_read, rest) ← tagBody verbatim before 0 0 input
  if some_read then return rest else throw .tag

/-- Reads a handle, from its exclamation mark on, and whether a second mark ends it. -/
def tagHandle (input : List Placed) : Scan (String × Bool) :=
  match input with
  | [] => .error .tag
  | p :: after =>
    if p.char ≠ '!' then .error .tag
    else
      let (name, rest) := nameAhead after
      match rest with
      | [] => .ok (("!" ++ name, false), [])
      | q :: rest' =>
        if q.char == '!' then .ok (("!" ++ name ++ "!", true), rest')
        else .ok (("!" ++ name, false), rest)

/-- Reads a tag, from its exclamation mark on. -/
def tag (flow : Bool) (input : List Placed) : Except Fault (Token × List Placed) := do
  let (token, rest) ←
    if ahead '<' (input.drop 1) then do
      let rest ← tagText true false (input.drop 2)
      if ahead '>' rest then pure (Token.tag none, rest.drop 1) else throw .tag
    else do
      let ((handle, closed), rest) ← tagHandle input
      if closed then pure (Token.tag (some handle), ← tagText false false rest)
      else
        let rest' ← tagText false true rest
        let isBare := handle == "!" && rest'.length = rest.length
        pure (Token.tag (if isBare then none else some "!"), rest')
  if spacingAhead rest || (flow && ahead ',' rest) then return (token, rest) else throw .tag

/-! ## Directives -/

/-- The most digits of a number in a directive. -/
def versionDigits : Nat := 9

/-- Reads a number of a version. -/
def versionNumber (input : List Placed) : Except Fault (Nat × List Placed) :=
  let digits := input.takeWhile fun p => p.char.isDigit
  if digits.isEmpty || versionDigits < digits.length then .error .directive
  else .ok (digits.foldl (fun n p => 10 * n + (p.char.toNat - '0'.toNat)) 0,
    input.dropWhile fun p => p.char.isDigit)

def dropBlanks (input : List Placed) : List Placed := input.dropWhile fun p => isBlank p.char

/-- Reads a directive, after its percent sign, and the rest of its line. -/
def directive (input : List Placed) : Except Fault (Token × List Placed) := do
  let (name, rest) := nameAhead input
  if name.isEmpty || !spacingAhead rest then throw .directive
  let rest := dropBlanks rest
  if name == "YAML" then
    let (major, rest) ← versionNumber rest
    if !ahead '.' rest then throw .directive
    let (minor, rest) ← versionNumber (rest.drop 1)
    return (.version major minor, ← restOfLine .directive rest)
  else if name == "TAG" then
    let ((handle, closed), rest) ← tagHandle rest
    if !closed && handle ≠ "!" then throw .directive
    match rest with
    | [] => throw .directive
    | p :: _ =>
      if !isBlank p.char then throw .directive
      let rest ← tagText true false (dropBlanks rest)
      if !spacingAhead rest then throw .directive
      return (.handle handle, ← restOfLine .directive rest)
  else throw .directive

end LabelRules.Document
