import LabelRules.Pattern.Node
import LabelRules.Unicode.Age
import LabelRules.Unicode.Alphabet
import LabelRules.Unicode.CaseOrbit
import LabelRules.Unicode.Category
import LabelRules.Unicode.Property
import LabelRules.Unicode.Script
import LabelRules.Unicode.Segmentation

set_option autoImplicit false

/-! # What a pattern matches

A `Term` is a regular expression without flags: sets of characters, conditions on a place, captures,
repetitions, choices and sequences. `Node.toTerm` applies the flags in force: a setting holds from
where it stands to the end of its group, across the branches of a choice.
-/

namespace LabelRules.Pattern

/-! ## Terms -/

/-- A condition on the place between two characters. -/
inductive Look where
  | textStart
  | textEnd
  | lineStart (crlf : Bool)
  | lineEnd (crlf : Bool)
  | word (side : Assertion) (unicode : Bool)
  deriving DecidableEq, Repr, Inhabited

/-- A regular expression. -/
inductive Term where
  | empty
  | chars (set : CharSet)
  | look (l : Look)
  | repetition (least : Nat) (most : Option Nat) (greedy : Bool) (sub : Term)
  | capture (index : Nat) (sub : Term)
  | concat (items : List Term)
  | alternation (branches : List Term)
  deriving Inhabited

mutual

/-- The term matches the empty text and nothing else. -/
def Term.onlyEmpty : Term → Bool
  | .empty => true
  | .look _ => true
  | .chars _ => false
  | .repetition _ most _ sub => most == some 0 || sub.onlyEmpty
  | .capture _ sub => sub.onlyEmpty
  | .concat items => Term.allOnlyEmpty items
  | .alternation branches => Term.allOnlyEmpty branches

def Term.allOnlyEmpty : List Term → Bool
  | [] => true
  | t :: rest => t.onlyEmpty && Term.allOnlyEmpty rest

end

/-- A repetition; a text that is empty anyway need not be repeated, and what is repeated no times
is empty. -/
def Term.repeated (least : Nat) (most : Option Nat) (greedy : Bool) (sub : Term) : Term :=
  let (least, most) :=
    if sub.onlyEmpty then (min least 1, some ((most.getD 1).min 1)) else (least, most)
  if most = some 0 then .empty
  else if least = 1 ∧ most = some 1 then sub
  else .repetition least most greedy sub

/-! ## Flags in force -/

/-- The flags that decide what a node matches. -/
structure Flags where
  ignoreCase : Bool := false
  multiLine : Bool := false
  dotMatchesNewline : Bool := false
  swapGreed : Bool := false
  unicode : Bool := true
  crlf : Bool := false
  deriving DecidableEq, Repr, Inhabited

/-- The flags after a setting. -/
def Flags.with (f : Flags) (s : Settings) : Flags where
  ignoreCase := (s.of? .ignoreCase).getD f.ignoreCase
  multiLine := (s.of? .multiLine).getD f.multiLine
  dotMatchesNewline := (s.of? .dotMatchesNewline).getD f.dotMatchesNewline
  swapGreed := (s.of? .swapGreed).getD f.swapGreed
  unicode := (s.of? .unicode).getD f.unicode
  crlf := (s.of? .crlf).getD f.crlf

/-! ## Classes -/

/-- The word characters: letters, marks, decimal digits, connectors and the joiners. -/
def wordCharacters : CharSet :=
  .unions [(propertyNamed? "alphabetic").getD .empty, (categoryNamed? "m").getD .empty,
    decimalDigits, (minorCategory? "pc").getD .empty, .ofRanges [(0x200C, 0x200D)]]

/-- The word characters of ASCII. -/
def asciiWordCharacters : CharSet := .ofRanges [(48, 57), (65, 90), (95, 95), (97, 122)]

/-- The characters of a class with a letter of its own. -/
def LetterClass.set (unicode : Bool) : LetterClass → CharSet
  | .digit => if unicode then decimalDigits else .ofRanges [(48, 57)]
  | .space => if unicode then blanks else .ofRanges [(9, 13), (32, 32)]
  | .word => if unicode then wordCharacters else asciiWordCharacters

/-- All other characters, or all other bytes without the Unicode flag. -/
def Flags.compl (f : Flags) (s : CharSet) : CharSet :=
  if f.unicode then s.compl else s.compl.inter (.ofRanges [(0, 255)])

/-- The set with the other cases of its characters, if case is ignored. -/
def Flags.fold (f : Flags) (s : CharSet) : CharSet :=
  if f.ignoreCase then if f.unicode then foldCase s else foldAsciiCase s else s

/-- Without the Unicode flag a set must not reach beyond ASCII, or it would match a part of a
character. -/
def Flags.checked (f : Flags) (s : CharSet) : Except Error CharSet :=
  if f.unicode || s.isAscii then .ok s else .error .partialCharacter

/-- A set with case applied, and negated if need be. -/
def Flags.foldAndNegate (f : Flags) (negated : Bool) (s : CharSet) : Except Error CharSet :=
  f.checked (if negated then f.compl (f.fold s) else f.fold s)

/-- The name of a property without case and separators, and without a leading `is`. -/
def normalName (name : String) : String :=
  let chars := name.toList.map Char.toLower
  let isIs := chars.take 2 == ['i', 's']
  let kept := (if isIs then chars.drop 2 else chars).filter fun c =>
    c != ' ' && c != '_' && c != '-' && c.toNat < 128
  if isIs && kept == ['c'] then "isc" else String.ofList kept

/-- The characters that a property query asks for. -/
def PropertyQuery.set? : PropertyQuery → Option CharSet
  | .named name =>
    let name := normalName name
    let property :=
      if name = "cf" ∨ name = "sc" ∨ name = "lc" then none else propertyNamed? name
    property <|> categoryNamed? name <|> scriptNamed? name
  | .valued name value =>
    let name := normalName name
    let value := normalName value
    if name = "gc" ∨ name = "generalcategory" then categoryNamed? value
    else if name = "sc" ∨ name = "script" then scriptNamed? value
    else if name = "scx" ∨ name = "scriptextensions" then scriptExtensionNamed? value
    else if name = "age" then agedUpTo? value
    else if name = "gcb" ∨ name = "graphemeclusterbreak" then clusterBreakNamed? value
    else if name = "wb" ∨ name = "wordbreak" then wordBreakNamed? value
    else if name = "sb" ∨ name = "sentencebreak" then sentenceBreakNamed? value
    else none

/-- The characters of a class with a letter of its own, under the flags. -/
def Flags.letterSet (f : Flags) (negated : Bool) (c : LetterClass) : Except Error CharSet :=
  let set := c.set f.unicode
  f.checked (if negated then f.compl set else set)

/-- The characters with a property, under the flags. -/
def Flags.propertySet (f : Flags) (negated : Bool) (q : PropertyQuery) : Except Error CharSet :=
  if !f.unicode then .error .unknownProperty
  else
    match q.set? with
    | some set => f.foldAndNegate negated set
    | none => .error .unknownProperty

/-- A literal as a member of a class; without the Unicode flag it must be of ASCII, since other bytes
are parts of characters. -/
def Flags.member (f : Flags) (l : Literal) : Except Error Nat :=
  let code := l.char.toNat
  if f.unicode || code < 128 then .ok code else .error .partialCharacter

def SetOperator.apply : SetOperator → CharSet → CharSet → CharSet
  | .intersection => CharSet.inter
  | .difference => CharSet.diff
  | .symmetricDifference => CharSet.symmDiff

mutual

/-- The characters of a set that is written between brackets. -/
def ClassSet.toSet (f : Flags) : ClassSet → Except Error CharSet
  | .empty => .ok .empty
  | .literal l => do
    let code ← f.member l
    return .ofRanges [(code, code)]
  | .range first last => do
    let low ← f.member first
    let high ← f.member last
    return .ofRanges [(low, high)]
  | .ascii negated set => f.foldAndNegate negated set
  | .letter negated c => f.letterSet negated c
  | .property negated q => f.propertySet negated q
  | .bracketed negated s => do f.foldAndNegate negated (← ClassSet.toSet f s)
  | .union items => ClassSet.unionOfAll f items
  | .combine op left right => do
    let l ← ClassSet.toSet f left
    let r ← ClassSet.toSet f right
    return op.apply (f.fold l) (f.fold r)

def ClassSet.unionOfAll (f : Flags) : List ClassSet → Except Error CharSet
  | [] => .ok .empty
  | s :: rest => do
    let set ← ClassSet.toSet f s
    let more ← ClassSet.unionOfAll f rest
    return set.union more

end

/-! ## From nodes to terms -/

/-- What a literal matches. -/
def Flags.literal (f : Flags) (l : Literal) : Except Error Term :=
  if !f.unicode && l.isByte && 128 ≤ l.char.toNat then .error .partialCharacter
  else .ok (.chars (f.fold (.singleton l.char)))

/-- What a dot matches: any character, but no end of line unless the flag says so. -/
def Flags.dot (f : Flags) : Except Error Term :=
  if !f.unicode then .error .partialCharacter
  else if f.dotMatchesNewline then .ok (.chars .full)
  else if f.crlf then .ok (.chars (CharSet.ofRanges [(10, 10), (13, 13)]).compl)
  else .ok (.chars (CharSet.ofRanges [(10, 10)]).compl)

/-- What an assertion asks for. -/
def Flags.look (f : Flags) : Assertion → Look
  | .startLine => if f.multiLine then .lineStart f.crlf else .textStart
  | .endLine => if f.multiLine then .lineEnd f.crlf else .textEnd
  | .startText => .textStart
  | .endText => .textEnd
  | side => .word side f.unicode

mutual

/-- The term of a node under the flags in force, and the flags in force after it. -/
def Node.toTerm (f : Flags) : Node → Except Error (Term × Flags)
  | .empty => .ok (.empty, f)
  | .settings s => .ok (.empty, f.with s)
  | .literal l => do return (← f.literal l, f)
  | .dot => do return (← f.dot, f)
  | .assertion a => .ok (.look (f.look a), f)
  | .letter negated c => do return (.chars (← f.letterSet negated c), f)
  | .property negated q => do return (.chars (← f.propertySet negated q), f)
  | .bracketed negated s => do
    return (.chars (← f.foldAndNegate negated (← s.toSet f)), f)
  | .repetition least most greedy sub => do
    let (t, after) ← Node.toTerm f sub
    return (.repeated least most (greedy != f.swapGreed) t, after)
  | .capture index sub => do
    let (t, _) ← Node.toTerm f sub
    return (.capture index t, f)
  | .group s sub => do
    let (t, _) ← Node.toTerm (f.with s) sub
    return (t, f)
  | .alternation branches => do
    let (ts, after) ← Node.toTerms f branches
    return (.alternation ts, after)
  | .concat items => do
    let (ts, after) ← Node.toTerms f items
    return (.concat ts, after)

/-- The terms of nodes that stand one after the other. -/
def Node.toTerms (f : Flags) : List Node → Except Error (List Term × Flags)
  | [] => .ok ([], f)
  | n :: rest => do
    let (t, after) ← Node.toTerm f n
    let (ts, last) ← Node.toTerms after rest
    return (t :: ts, last)

end

end LabelRules.Pattern
