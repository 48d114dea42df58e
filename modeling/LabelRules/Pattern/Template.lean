set_option autoImplicit false

/-! # Templates

A template is a text with references to the groups of a match: `$1`, `$name`, `${1}`, `${name}`.
Without braces a reference takes as many letters, digits and underscores as it can; `$$` is a
dollar sign, and a dollar sign that starts no reference stands for itself.
-/

namespace LabelRules.Pattern

/-- A piece of a template. -/
inductive Piece where
  | text (c : Char)
  | numbered (index : Nat)
  | named (name : String)
  deriving DecidableEq, Repr, Inhabited

namespace Template

/-- What a reference names: a number below `2 ^ 64`, perhaps after a plus sign, or else a name. -/
def reference (name : List Char) : Piece :=
  let digits := if name.head? = some '+' then name.drop 1 else name
  let n := digits.foldl (fun n c => 10 * n + (c.toNat - 48)) 0
  if !digits.isEmpty && digits.all Char.isDigit && n < Nat.pow 2 64 then .numbered n
  else .named (String.ofList name)

def isNameCharacter (c : Char) : Bool := c.isAlphanum || c == '_'

/-- The piece at a dollar sign, given what follows the sign, and how many of the characters after
the sign belong to it. -/
def pieceAfterDollar : List Char → Piece × Nat
  | '$' :: _ => (.text '$', 1)
  | '\x7b' :: rest =>
    let name := rest.takeWhile (· != '\x7d')
    if name.length < rest.length then (reference name, name.length + 2) else (.text '$', 0)
  | rest =>
    let name := rest.takeWhile isNameCharacter
    if name.isEmpty then (.text '$', 0) else (reference name, name.length)

/-- The pieces of a template. -/
def pieces : List Char → List Piece
  | [] => []
  | c :: rest =>
    if c = '$' then
      let (piece, n) := pieceAfterDollar rest
      piece :: pieces (rest.drop n)
    else .text c :: pieces rest
termination_by cs => cs.length
decreasing_by
  all_goals simp only [List.length_drop, List.length_cons]; omega

/-- The text of a template, given the texts of the groups by number and by name. -/
def fill (numbered : Nat → List Char) (named : String → List Char) (template : List Char) :
    List Char :=
  (pieces template).flatMap fun
    | .text c => [c]
    | .numbered n => numbered n
    | .named name => named name

end Template

end LabelRules.Pattern
