import LabelRules.Pattern.Node
import LabelRules.Unicode.Alphabet

set_option autoImplicit false

/-! # Reading a pattern

`Pattern.read` takes the text of a regular expression to a `Node`, together with the names of its
capture groups. Groups are numbered from 1 in the order of their opening parentheses.

With the flag `x` in force, blanks and comments are skipped wherever one character of the syntax
may follow another; a flag that a group sets holds up to the end of the group. The readers of
nested parts take a bound on their recursion, which `read` computes from the length of the text:
every step of the recursion but a few takes a character.
-/

namespace LabelRules.Pattern

/-- What is left to read, and what is known so far. -/
structure ReadState where
  rest : List Char
  /-- Blanks and comments are skipped. -/
  skips : Bool := false
  /-- How many capture groups are open or closed. -/
  groups : Nat := 0
  names : List (String × Nat) := []

abbrev Reading : Type → Type := StateT ReadState (Except Error)

namespace Reading

/-! ## Characters -/

def peek : Reading (Option Char) := return (← get).rest.head?

/-- Takes one character. -/
def bump : Reading Unit := modify fun s => { s with rest := s.rest.drop 1 }

/-- What follows blanks and comments; a comment goes up to the end of its line. -/
def afterBlanks : (inComment : Bool) → List Char → List Char
  | true, c :: cs => afterBlanks (c != '\n') cs
  | false, c :: cs =>
    if isBlank c then afterBlanks false cs
    else if c = '#' then afterBlanks true cs
    else c :: cs
  | _, [] => []

/-- Skips blanks and comments, if that is in force. -/
def skipBlanks : Reading Unit :=
  modify fun s => if s.skips then { s with rest := afterBlanks false s.rest } else s

/-- Takes one character and the blanks after it. -/
def advance : Reading Unit := do bump; skipBlanks

/-- Fails at the end of the text. -/
def needMore (e : Error) : Reading Unit := do
  if (← get).rest.isEmpty then throw e

/-- The character after the first one, blanks left out if they are skipped. -/
def peekSecond : Reading (Option Char) := do
  let s ← get
  let rest := s.rest.drop 1
  if s.skips then
    match rest.dropWhile isBlank with
    | '#' :: cs =>
      match cs.dropWhile isBlank with
      | c :: _ => return some c
      | [] => return rest.head?
    | c :: _ => return some c
    | [] => return rest.head?
  else return rest.head?

/-- Takes characters of a class, at most a number of them, and the blanks after each. -/
def collectUpTo (p : Char → Bool) : Nat → Reading (List Char)
  | 0 => return []
  | n + 1 => do
    match ← peek with
    | some c =>
      if p c then
        advance
        return c :: (← collectUpTo p n)
      else return []
    | none => return []

/-- Takes all characters of a class, and the blanks after each. -/
def collect (p : Char → Bool) : Reading (List Char) := do
  collectUpTo p (← get).rest.length

/-! ## Escapes -/

def isHexDigit (c : Char) : Bool :=
  c.isDigit || ('a' ≤ c && c ≤ 'f') || ('A' ≤ c && c ≤ 'F')

/-- The number that hexadecimal digits write. -/
def hexValue (digits : List Char) : Nat :=
  digits.foldl (fun n c => 16 * n + CharSet.digitValue c.toLower) 0

/-- The character of a code point. -/
def charOfCode (code : Nat) : Reading Char :=
  if h : code.isValidChar then return Char.ofNatAux code h else throw .invalidCodePoint

/-- The character that hexadecimal digits write, after the letter of the escape. -/
def hexLiteral (width : Nat) : Reading Literal := do
  match ← peek with
  | some '\x7b' =>
    advance
    let digits ← collect (· != '\x7d')
    needMore .invalidEscape
    advance
    if digits.isEmpty || !digits.all isHexDigit then throw .invalidEscape
    return ⟨← charOfCode (hexValue digits), false⟩
  | _ =>
    let digits ← collectUpTo isHexDigit width
    if digits.length < width then throw .invalidEscape
    return ⟨← charOfCode (hexValue digits), width == 2⟩

/-- The name and the value of a property, which an equals sign or a colon sets apart. -/
def propertyQuery (text : List Char) : PropertyQuery × Bool :=
  let before (c : Char) := text.takeWhile (· != c)
  let split (c : Char) := (before c, text.drop ((before c).length + 1))
  let valued (parts : List Char × List Char) : PropertyQuery :=
    .valued (String.ofList parts.1) (String.ofList parts.2)
  if text.contains ':' then (valued (split ':'), false)
  else if text.contains '=' then
    let (name, value) := split '='
    if name.getLast? = some '!' then (valued (name.dropLast, value), true)
    else (valued (name, value), false)
  else (.named (String.ofList text), false)

/-- The class of the characters with a property, after the letter of the escape. -/
def propertyClass (negated : Bool) : Reading Node := do
  needMore .invalidEscape
  match ← peek with
  | some '\x7b' =>
    advance
    let text ← collect (· != '\x7d')
    needMore .invalidEscape
    bump
    let (query, isUnequal) := propertyQuery text
    return .property (negated != isUnequal) query
  | some c =>
    if c = '\\' then throw .unknownProperty
    advance
    return .property negated (.named c.toString)
  | none => throw .invalidEscape

/-- A word boundary whose side is named in braces, after `\b`; what is in the braces may also be
the bounds of a repetition. -/
def wordBoundary : Reading Node := do
  let before ← get
  match before.rest with
  | '\x7b' :: _ =>
    advance
    needMore .unknownBoundary
    let isNameChar (c : Char) : Bool := c.isAlpha || c == '-'
    let name ← collect isNameChar
    if name.isEmpty then
      set before
      return .assertion .wordBoundary
    match ← peek with
    | some '\x7d' =>
      bump
      match String.ofList name with
      | "start" => return .assertion .wordStart
      | "end" => return .assertion .wordEnd
      | "start-half" => return .assertion .wordStartHalf
      | "end-half" => return .assertion .wordEndHalf
      | _ => throw .unknownBoundary
    | _ => throw .unknownBoundary
  | _ => return .assertion .wordBoundary

/-- The characters of the syntax, and those that need no backslash but may have one. -/
def standsForItself (c : Char) : Bool :=
  c.toNat < 128 && !c.isAlphanum && c != '<' && c != '>'

/-- What a backslash and the characters after it mean. -/
def escape : Reading Node := do
  bump
  match ← peek with
  | none => throw .invalidEscape
  | some c =>
    if c = 'x' ∨ c = 'u' ∨ c = 'U' then
      advance
      needMore .invalidEscape
      return .literal (← hexLiteral (if c = 'x' then 2 else if c = 'u' then 4 else 8))
    else if c = 'p' ∨ c = 'P' then
      advance
      propertyClass (c = 'P')
    else
      bump
      if standsForItself c then return .literal ⟨c, false⟩
      match c with
      | 'd' => return .letter false .digit
      | 'D' => return .letter true .digit
      | 's' => return .letter false .space
      | 'S' => return .letter true .space
      | 'w' => return .letter false .word
      | 'W' => return .letter true .word
      | 'a' => return .literal ⟨'\x07', false⟩
      | 'f' => return .literal ⟨'\x0c', false⟩
      | 't' => return .literal ⟨'\t', false⟩
      | 'n' => return .literal ⟨'\n', false⟩
      | 'r' => return .literal ⟨'\r', false⟩
      | 'v' => return .literal ⟨'\x0b', false⟩
      | 'A' => return .assertion .startText
      | 'z' => return .assertion .endText
      | 'b' => wordBoundary
      | 'B' => return .assertion .notWordBoundary
      | '<' => return .assertion .wordStart
      | '>' => return .assertion .wordEnd
      | _ => throw .invalidEscape

/-! ## Bracketed classes -/

/-- The classes with a name between colons. -/
def namedAsciiClass? (name : String) : Option CharSet :=
  let digit := [(48, 57)]
  let lower := [(97, 122)]
  let upper := [(65, 90)]
  match name with
  | "alnum" => some (.ofRanges (digit ++ upper ++ lower))
  | "alpha" => some (.ofRanges (upper ++ lower))
  | "ascii" => some (.ofRanges [(0, 127)])
  | "blank" => some (.ofRanges [(9, 9), (32, 32)])
  | "cntrl" => some (.ofRanges [(0, 31), (127, 127)])
  | "digit" => some (.ofRanges digit)
  | "graph" => some (.ofRanges [(33, 126)])
  | "lower" => some (.ofRanges lower)
  | "print" => some (.ofRanges [(32, 126)])
  | "punct" => some (.ofRanges [(33, 47), (58, 64), (91, 96), (123, 126)])
  | "space" => some (.ofRanges [(9, 13), (32, 32)])
  | "upper" => some (.ofRanges upper)
  | "word" => some (.ofRanges (digit ++ upper ++ [(95, 95)] ++ lower))
  | "xdigit" => some (.ofRanges (digit ++ [(65, 70), (97, 102)]))
  | _ => none

/-- A class with a name between colons, at the head of a text, and what follows it. -/
def asciiClass? : List Char → Option (ClassSet × List Char)
  | '[' :: ':' :: rest =>
    let negated := rest.head? == some '^'
    let rest := if negated then rest.drop 1 else rest
    let name := rest.takeWhile (· != ':')
    match rest.drop name.length with
    | ':' :: ']' :: after =>
      (namedAsciiClass? (String.ofList name)).map fun set => (.ascii negated set, after)
    | _ => none
  | _ => none

/-- One member of a class: a character, or an escape. -/
def classMember : Reading Node := do
  match ← peek with
  | some '\\' => escape
  | some c =>
    bump
    return .literal ⟨c, false⟩
  | none => throw .unclosedClass

/-- A member of a class as a set. -/
def memberSet : Node → Reading ClassSet
  | .literal l => return .literal l
  | .letter negated c => return .letter negated c
  | .property negated q => return .property negated q
  | _ => throw .invalidClassItem

/-- One member of a class, or a range between two. -/
def classRange : Reading ClassSet := do
  let first ← classMember
  skipBlanks
  needMore .unclosedClass
  let second ← peekSecond
  if (← peek) ≠ some '-' || second == some ']' || second == some '-' then memberSet first
  else
    advance
    needMore .unclosedClass
    let last ← classMember
    match first, last with
    | .literal a, .literal b =>
      if a.char ≤ b.char then return .range a b else throw .invalidRange
    | _, _ => throw .invalidRange

/-- The dashes at the start of a class stand for themselves. -/
def leadingDashes : Reading (List ClassSet) := do
  let dashes ← collect (· == '-')
  return dashes.map fun c => .literal ⟨c, false⟩

/-- Applies the operator that waits for its right side. -/
def combinePending (pending : Option (SetOperator × ClassSet)) (items : List ClassSet) :
    ClassSet :=
  match pending with
  | none => .unionOf items.reverse
  | some (op, left) => .combine op left (.unionOf items.reverse)

mutual

/-- A bracketed class, at its opening bracket. -/
def bracketed : Nat → Reading (Bool × ClassSet)
  | 0 => throw .tooDeep
  | fuel + 1 => do
    advance
    needMore .unclosedClass
    let negated := (← peek) == some '^'
    if negated then advance
    needMore .unclosedClass
    let dashes ← leadingDashes
    needMore .unclosedClass
    let first ← do
      if dashes.isEmpty && (← peek) == some ']' then
        advance
        needMore .unclosedClass
        pure [.literal ⟨']', false⟩]
      else pure dashes
    return (negated, ← classItems fuel none first.reverse)

/-- The rest of a class up to its closing bracket; the items read so far stand in reverse. -/
def classItems : Nat → Option (SetOperator × ClassSet) → List ClassSet → Reading ClassSet
  | 0, _, _ => throw .tooDeep
  | fuel + 1, pending, items => do
    skipBlanks
    let operator (op : SetOperator) (rest : List Char) : Reading ClassSet := do
      modify fun s => { s with rest := rest }
      classItems fuel (some (op, combinePending pending items)) []
    match (← get).rest with
    | [] => throw .unclosedClass
    | ']' :: rest =>
      modify fun s => { s with rest := rest }
      return combinePending pending items
    | '&' :: '&' :: rest => operator .intersection rest
    | '-' :: '-' :: rest => operator .difference rest
    | '~' :: '~' :: rest => operator .symmetricDifference rest
    | '[' :: tail =>
      match asciiClass? ('[' :: tail) with
      | some (set, rest) =>
        modify fun s => { s with rest := rest }
        classItems fuel pending (set :: items)
      | none =>
        let (negated, set) ← bracketed fuel
        classItems fuel pending (.bracketed negated set :: items)
    | _ =>
      let set ← classRange
      classItems fuel pending (set :: items)

end

/-! ## Repetitions -/

/-- What a repetition repeats: the item before it, which must not be a setting of flags. -/
def repeated : List Node → Reading (Node × List Node)
  | [] => throw .nothingToRepeat
  | .settings _ :: _ => throw .nothingToRepeat
  | n :: rest => return (n, rest)

/-- A number of repetitions, with blanks around it. -/
def repetitionCount : Reading Nat := do
  modify fun s => { s with rest := s.rest.dropWhile isBlank }
  let digits ← collect Char.isDigit
  let _ ← collect isBlank
  let n := digits.foldl (fun n c => 10 * n + (c.toNat - 48)) 0
  if digits.isEmpty || Nat.pow 2 32 ≤ n then throw .invalidRepetition
  return n

/-- A question mark after a repetition makes it take as little as it can. -/
def isGreedy : Reading Bool := do
  if (← peek) == some '?' then
    bump
    return false
  else return true

/-- A repetition with bounds in braces, at its opening brace. -/
def countedRepetition (items : List Node) : Reading (List Node) := do
  let (sub, before) ← repeated items
  advance
  let least ← repetitionCount
  let most ← do
    if (← peek) == some ',' then
      advance
      needMore .invalidRepetition
      if (← peek) == some '\x7d' then pure none else some <$> repetitionCount
    else pure (some least)
  if (← peek) ≠ some '\x7d' then throw .invalidRepetition
  advance
  let greedy ← isGreedy
  if most.any (· < least) then throw .invalidRepetition
  return .repetition least most greedy sub :: before

/-- A repetition with one of the signs `?`, `*` and `+`. -/
def signRepetition (least : Nat) (most : Option Nat) (items : List Node) :
    Reading (List Node) := do
  let (sub, before) ← repeated items
  bump
  let greedy ← isGreedy
  return .repetition least most greedy sub :: before

/-! ## Groups -/

def flag? : Char → Option Flag
  | 'i' => some .ignoreCase
  | 'm' => some .multiLine
  | 's' => some .dotMatchesNewline
  | 'U' => some .swapGreed
  | 'u' => some .unicode
  | 'R' => some .crlf
  | 'x' => some .ignoreBlanks
  | _ => none

/-- Flags up to a colon or a parenthesis, and what follows them; those after a dash are off. -/
def settingsFrom (on afterDash : Bool) (found : Settings) :
    List Char → Except Error (Settings × List Char)
  | [] => .error .flags
  | c :: cs =>
    if c = ':' ∨ c = ')' then
      if afterDash then .error .flags else .ok (found.reverse, c :: cs)
    else if c = '-' then
      if on then settingsFrom false true found cs else .error .flags
    else
      match flag? c with
      | none => .error .flags
      | some f =>
        if found.any fun s => s.1 = f then .error .flags
        else settingsFrom on false ((f, on) :: found) cs

/-- Opens a capture group. -/
def openGroup : Reading Nat := do
  let s ← get
  set { s with groups := s.groups + 1 }
  return s.groups + 1

/-- The name of a capture group, up to its closing angle. -/
def groupName (index : Nat) : Reading Unit := do
  let s ← get
  let name := s.rest.takeWhile (· != '>')
  let starts (c : Char) : Bool := c == '_' || isLetter c
  let continues (c : Char) : Bool :=
    c == '_' || c == '.' || c == '[' || c == ']' || isLetterOrNumeral c
  match s.rest.drop name.length, name with
  | _ :: rest, first :: more =>
    if !starts first || !more.all continues then throw .groupName
    let text := String.ofList name
    if s.names.any fun n => n.1 == text then throw .duplicateGroupName
    set { s with rest := rest, names := (text, index) :: s.names }
  | _, _ => throw .groupName

/-- How a group opens. -/
inductive Opening where
  | settings (s : Settings)
  | group (s : Settings)
  | capture (index : Nat)

/-- The opening of a group, after its parenthesis. -/
def opening : Reading Opening := do
  match (← get).rest with
  | '?' :: '=' :: _ => throw .unsupportedGroup
  | '?' :: '!' :: _ => throw .unsupportedGroup
  | '?' :: '<' :: '=' :: _ => throw .unsupportedGroup
  | '?' :: '<' :: '!' :: _ => throw .unsupportedGroup
  | '?' :: 'P' :: '<' :: rest =>
    modify fun s => { s with rest := rest }
    let index ← openGroup
    groupName index
    return .capture index
  | '?' :: '<' :: rest =>
    modify fun s => { s with rest := rest }
    let index ← openGroup
    groupName index
    return .capture index
  | '?' :: rest =>
    let (found, rest) ← settingsFrom true false [] rest
    modify fun s => { s with rest := rest.drop 1 }
    if rest.head? == some ')' then
      if found.isEmpty then throw .nothingToRepeat
      return .settings found
    else return .group found
  | _ => return .capture (← openGroup)

mutual

/-- The branches of a choice, up to a closing parenthesis or the end. -/
def branches : Nat → Reading (List Node)
  | 0 => throw .tooDeep
  | fuel + 1 => do
    let items ← itemsFrom fuel []
    if (← peek) == some '|' then
      bump
      return .sequence items.reverse :: (← branches fuel)
    else return [.sequence items.reverse]

/-- The items of a branch, in reverse and after those read so far. -/
def itemsFrom : Nat → List Node → Reading (List Node)
  | 0, _ => throw .tooDeep
  | fuel + 1, items => do
    skipBlanks
    match ← peek with
    | none => return items
    | some ')' => return items
    | some '|' => return items
    | some '(' => itemsFrom fuel ((← group fuel) :: items)
    | some '[' =>
      let (negated, set) ← bracketed fuel
      itemsFrom fuel (.bracketed negated set :: items)
    | some '?' => itemsFrom fuel (← signRepetition 0 (some 1) items)
    | some '*' => itemsFrom fuel (← signRepetition 0 none items)
    | some '+' => itemsFrom fuel (← signRepetition 1 none items)
    | some '\x7b' => itemsFrom fuel (← countedRepetition items)
    | some '\\' => itemsFrom fuel ((← escape) :: items)
    | some '.' => bump; itemsFrom fuel (.dot :: items)
    | some '^' => bump; itemsFrom fuel (.assertion .startLine :: items)
    | some '$' => bump; itemsFrom fuel (.assertion .endLine :: items)
    | some c => bump; itemsFrom fuel (.literal ⟨c, false⟩ :: items)

/-- A group, at its opening parenthesis. -/
def group : Nat → Reading Node
  | 0 => throw .tooDeep
  | fuel + 1 => do
    advance
    let outer := (← get).skips
    let enclose (settings : Settings) (wrap : Node → Node) : Reading Node := do
      modify fun s => { s with skips := (settings.of? .ignoreBlanks).getD outer }
      let found ← branches fuel
      if (← peek) ≠ some ')' then throw .unbalancedGroup
      modify fun s => { s with skips := outer }
      bump
      return wrap (.choice found)
    match ← opening with
    | .settings settings =>
      modify fun s => { s with skips := (settings.of? .ignoreBlanks).getD outer }
      return .settings settings
    | .group settings => enclose settings (.group settings)
    | .capture index => enclose [] (.capture index)

end

end Reading

/-- A pattern that has been read: its nodes, the number of its capture groups, and their names. -/
structure Source where
  node : Node
  groups : Nat
  names : List (String × Nat)

/-- The greatest nesting of a pattern. -/
def nestingLimit : Nat := 250

/-- Reads the text of a pattern. -/
def read (text : String) : Except Error Source := do
  let chars := text.toList
  let (found, left) ← (Reading.branches (4 * chars.length + 16)).run { rest := chars }
  if !left.rest.isEmpty then throw .unbalancedGroup
  let node := Node.choice found
  if nestingLimit < node.nesting then throw .tooDeep
  return ⟨node, left.groups, left.names⟩

end LabelRules.Pattern
