import LabelRules.Document.Token

set_option autoImplicit false

/-! # Reading tokens

Indentation opens and closes blocks, and a text is the key of a mapping only if a colon follows it
in its line: the token that opens the mapping stands before a text that has been read already. So
the lexer remembers, for each level of brackets, the token that may turn out to be a key
(`SimpleKey`); while it may, that token and those after it are not settled. A fault ends the text at
the tokens that are settled (`tokenize`).
-/

namespace LabelRules.Document

/-- A token that may be a key: its index, its place, and whether it must be one, because of its
indentation. -/
structure SimpleKey where
  token : Nat
  required : Bool
  place : Place

/-- A key and its colon stand in one line and no farther apart than this. -/
def keyLimit : Nat := 1024

/-- Where the lexer is. Columns of open blocks and keys of outer brackets are innermost first. -/
structure Lexer where
  rest : List Placed
  stop : Place
  tokens : Array Token := #[]
  blocks : List Nat := []
  key : Option SimpleKey := none
  outer : List (Option SimpleKey) := []
  /-- May a key start here? -/
  keyAllowed : Bool := true

namespace Lexer

/-- The lexer at the start of a text. -/
def ofText (text : String) : Lexer :=
  let (rest, stop) := Placed.ofText text
  { rest, stop }

/-- Is the lexer inside brackets? -/
def inFlow (s : Lexer) : Bool := !s.outer.isEmpty

def place (s : Lexer) : Place :=
  match s.rest with
  | [] => s.stop
  | p :: _ => p.place

/-- The column of the innermost block, -1 outside of all blocks. -/
def indent (s : Lexer) : Int :=
  match s.blocks with
  | [] => -1
  | column :: _ => column

def emit (s : Lexer) (t : Token) : Lexer := { s with tokens := s.tokens.push t }

/-- How many tokens are settled: those before the first one that may be a key. -/
def settled (s : Lexer) : Nat :=
  (s.key :: s.outer).foldl (fun n key => key.elim n fun k => min n k.token) s.tokens.size

/-! ## Keys -/

def SimpleKey.isStale (k : SimpleKey) (p : Place) : Bool :=
  k.place.line < p.line || k.place.index + keyLimit < p.index

/-- Forgets the key of a level if no colon can follow it any more. -/
def expire (p : Place) : Option SimpleKey → Except Fault (Option SimpleKey)
  | none => .ok none
  | some k =>
    if SimpleKey.isStale k p then
      if k.required then .error .keyWithoutColon else .ok none
    else .ok (some k)

def expireKeys (s : Lexer) : Except Fault Lexer := do
  let outer ← s.outer.reverse.mapM (expire s.place)
  let key ← expire s.place s.key
  return { s with key, outer := outer.reverse }

/-- Forgets the key of the innermost level. -/
def dropKey (s : Lexer) : Except Fault Lexer :=
  match s.key with
  | some k => if k.required then .error .keyWithoutColon else .ok { s with key := none }
  | none => .ok s

/-- Remembers that the next token may be a key. -/
def saveKey (s : Lexer) : Except Fault Lexer := do
  if s.keyAllowed then
    let required := !s.inFlow && s.indent == s.place.column
    let s ← s.dropKey
    return { s with key := some ⟨s.tokens.size, required, s.place⟩ }
  else return s

/-! ## Blocks -/

/-- Closes the blocks that are indented more than a column. -/
def closeBlocks (s : Lexer) (column : Int) : Lexer :=
  if s.inFlow then s
  else
    let closed := s.blocks.takeWhile fun (b : Nat) => column < b
    { s with
      tokens := s.tokens ++ Array.replicate closed.length .blockEnd
      blocks := s.blocks.drop closed.length }

/-- Opens a block at a column that is indented more than the innermost one, with a token at an
index. -/
def openBlock (s : Lexer) (column : Nat) (index : Nat) (t : Token) : Lexer :=
  if s.inFlow || column ≤ s.indent then s
  else { s with blocks := column :: s.blocks, tokens := s.tokens.insertIdxIfInBounds index t }

/-! ## White space -/

/-- Passes over white space and comments, and says whether a key may start after it. Outside of
brackets a key may start after a line break, and no tab may stand where a key may start. -/
def skipSpacing (inFlow comment keyAllowed : Bool) : List Placed → Bool × List Placed
  | [] => (keyAllowed, [])
  | p :: rest =>
    if isBreak p.char then skipSpacing inFlow false (keyAllowed || !inFlow) rest
    else if comment || p.char == '#' then skipSpacing inFlow true keyAllowed rest
    else if p.char == ' ' || (p.char == '\t' && (inFlow || !keyAllowed)) then
      skipSpacing inFlow false keyAllowed rest
    else if p.char == byteOrderMark && p.place.column = 0 then
      skipSpacing inFlow false keyAllowed rest
    else (keyAllowed, p :: rest)

/-! ## Tokens -/

/-- Ends all blocks, before a directive or a marker between documents. -/
def endBlocks (s : Lexer) : Except Fault Lexer := do
  let s ← (s.closeBlocks (-1)).dropKey
  return { s with keyAllowed := false }

/-- An opening bracket, which may start a key. -/
def openBracket (s : Lexer) (t : Token) (rest : List Placed) : Except Fault Lexer := do
  let s ← s.saveKey
  return { s.emit t with key := none, outer := s.key :: s.outer, keyAllowed := true, rest }

/-- A closing bracket. -/
def closeBracket (s : Lexer) (t : Token) (rest : List Placed) : Except Fault Lexer := do
  let s ← s.dropKey
  let s := match s.outer with
    | [] => s
    | key :: outer => { s with key, outer }
  return { s.emit t with keyAllowed := false, rest }

/-- A comma inside brackets. -/
def flowEntry (s : Lexer) (rest : List Placed) : Except Fault Lexer := do
  let s ← s.dropKey
  return { s.emit .flowEntry with keyAllowed := true, rest }

/-- A dash that starts an entry of a sequence. -/
def blockEntry (s : Lexer) (rest : List Placed) : Except Fault Lexer := do
  if !s.inFlow && !s.keyAllowed then throw .misplacedIndicator
  let s ← (s.openBlock s.place.column s.tokens.size .blockSequenceStart).dropKey
  return { s.emit .blockEntry with keyAllowed := true, rest }

/-- A question mark that starts a key. -/
def explicitKey (s : Lexer) (rest : List Placed) : Except Fault Lexer := do
  if !s.inFlow && !s.keyAllowed then throw .misplacedIndicator
  let s ← (s.openBlock s.place.column s.tokens.size .blockMappingStart).dropKey
  return { s.emit .key with keyAllowed := !s.inFlow, rest }

/-- A colon that starts a value. The key before it gets its token, and if it is the first key of a
block, the block starts before it. -/
def value (s : Lexer) (rest : List Placed) : Except Fault Lexer :=
  match s.key with
  | some k =>
    let s := { s with tokens := s.tokens.insertIdxIfInBounds k.token .key, key := none }
    let s := s.openBlock k.place.column k.token .blockMappingStart
    .ok { s.emit .value with keyAllowed := false, rest }
  | none =>
    if !s.inFlow && !s.keyAllowed then .error .misplacedIndicator
    else
      let s := s.openBlock s.place.column s.tokens.size .blockMappingStart
      .ok { s.emit .value with keyAllowed := !s.inFlow, rest }

/-- A token that may be a key and after which none may start. -/
def keyLike (s : Lexer) (scan : Except Fault (Token × List Placed)) : Except Fault Lexer := do
  let s ← s.saveKey
  let (t, rest) ← scan
  return { s.emit t with keyAllowed := false, rest }

/-- A plain scalar; after one that goes over the end of its line a key may start. -/
def plainScalar (s : Lexer) : Except Fault Lexer := do
  let s ← s.saveKey
  let p ← plain s.inFlow (s.indent + 1) [] .none s.rest
  return { s.emit (.scalar p.text true) with keyAllowed := p.endsLine, rest := p.rest }

/-- A block of text. -/
def textBlock (s : Lexer) (folded : Bool) (rest : List Placed) : Except Fault Lexer := do
  let s ← s.dropKey
  let (text, rest) ← blockScalar folded s.indent rest
  return { s.emit (.scalar text false) with keyAllowed := true, rest }

/-- The end of the text. -/
def finish (s : Lexer) : Except Fault Lexer := do
  let s ← s.endBlocks
  return s.emit .streamEnd

/-- A quoted scalar as a token. -/
def quoted (scan : Scan String) : Except Fault (Token × List Placed) :=
  scan.map fun (text, rest) => (.scalar text false, rest)

/-- May a plain scalar start with a character? -/
def startsPlain (inFlow : Bool) (c : Char) (rest : List Placed) : Bool :=
  !"-?:,[]\x7b\x7d#&*!|>\x27\"%@\x60\t".toList.contains c ||
    (c == '-' && !(rest.head?.any fun p => isBlank p.char)) ||
    (!inFlow && (c == '?' || c == ':') && !spacingAhead rest)

/-- The next token, at a character that is no white space. -/
def tokenAt (s : Lexer) (p : Placed) (rest : List Placed) : Except Fault Lexer :=
  let alone := s.inFlow || spacingAhead rest
  if p.place.column = 0 && p.char == '%' then do
    let s ← s.endBlocks
    let (t, rest) ← directive rest
    return { s.emit t with rest }
  else if isMarker '-' s.rest then do
    let s ← s.endBlocks
    return { s.emit .documentStart with rest := s.rest.drop 3 }
  else if isMarker '.' s.rest then do
    let s ← s.endBlocks
    return { s.emit .documentEnd with rest := s.rest.drop 3 }
  else match p.char with
    | '[' => s.openBracket .flowSequenceStart rest
    | '\x7b' => s.openBracket .flowMappingStart rest
    | ']' => s.closeBracket .flowSequenceEnd rest
    | '\x7d' => s.closeBracket .flowMappingEnd rest
    | ',' => s.flowEntry rest
    | '*' => s.keyLike ((anchorName rest).map fun (name, rest) => (.alias name, rest))
    | '&' => s.keyLike ((anchorName rest).map fun (name, rest) => (.anchor name, rest))
    | '!' => s.keyLike (tag s.inFlow s.rest)
    | '\x27' => s.keyLike (quoted (singleQuoted [] .none rest))
    | '"' => s.keyLike (quoted (doubleQuoted [] .none 0 rest))
    | c =>
      if c == '-' && spacingAhead rest then s.blockEntry rest
      else if c == '?' && alone then s.explicitKey rest
      else if c == ':' && alone then s.value rest
      else if c == '|' && !s.inFlow then s.textBlock false rest
      else if c == '>' && !s.inFlow then s.textBlock true rest
      else if startsPlain s.inFlow c rest then s.plainScalar
      else .error .character

/-- The next token, or several, if blocks end or start before it; and whether the text goes on. -/
def next (s : Lexer) : Except Fault (Lexer × Bool) := do
  let (keyAllowed, rest) := skipSpacing s.inFlow false s.keyAllowed s.rest
  let s ← { s with keyAllowed, rest }.expireKeys
  let s := s.closeBlocks s.place.column
  match s.rest with
  | [] => return (← s.finish, false)
  | p :: rest => return (← s.tokenAt p rest, true)

/-- All tokens that are settled before the end of the text or a fault, with that fault. A token takes
at least one character, which bounds their number by `fuel`. -/
def all (s : Lexer) (settled : Nat) : (fuel : Nat) → List Token × Option Fault
  | 0 => (s.tokens.toList.take settled, none)
  | fuel + 1 =>
    match s.next with
    | .error e => (s.tokens.toList.take settled, some e)
    | .ok (s, true) =>
      match s.expireKeys with
      | .error e => (s.tokens.toList.take settled, some e)
      | .ok s => all s s.settled fuel
    | .ok (s, false) => (s.tokens.toList, none)

end Lexer

/-- The tokens of a text, up to a fault if it has one. -/
def tokenize (text : String) : List Token × Option Fault :=
  if text.toList.all isAllowed then
    let s := Lexer.ofText text
    s.all 0 (s.rest.length + 1)
  else ([], some .controlCharacter)

end LabelRules.Document
