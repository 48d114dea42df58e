import LabelRules.Pattern.Bytes
import LabelRules.Pattern.Term

set_option autoImplicit false

/-! # The shape of a pattern

A `Shape` is a term put into the form from which automata over bytes are built (`Term.shape`):
characters that stand side by side are one literal of bytes, a sequence holds neither sequences nor
empty parts, a choice holds no choices, a choice between single characters or between sets is one
set, and what all branches of a choice start with stands before the choice.
-/

namespace LabelRules.Pattern

/-- A regular expression over bytes and sets of characters. -/
inductive Shape where
  | empty
  | literal (bytes : List Nat)
  | set (s : CharSet)
  | look (l : Look)
  | repetition (least : Nat) (most : Option Nat) (greedy : Bool) (sub : Shape)
  | capture (index : Nat) (sub : Shape)
  | concat (items : List Shape)
  | alternation (branches : List Shape)
  deriving Inhabited

namespace Shape

mutual

/-- Are two shapes the same? -/
def same : Shape → Shape → Bool
  | .empty, .empty => true
  | .literal a, .literal b => a == b
  | .set a, .set b => a == b
  | .look a, .look b => a == b
  | .repetition least most greedy a, .repetition least' most' greedy' b =>
    least == least' && most == most' && greedy == greedy' && a.same b
  | .capture i a, .capture j b => i == j && a.same b
  | .concat a, .concat b => allSame a b
  | .alternation a, .alternation b => allSame a b
  | _, _ => false

def allSame : List Shape → List Shape → Bool
  | [], [] => true
  | a :: as, b :: bs => a.same b && allSame as bs
  | _, _ => false

end

/-- The shape of a set; a single character is a literal. -/
def ofSet (s : CharSet) : Shape :=
  match s.ranges.toList with
  | [(first, last)] => if first = last then .literal (utf8Bytes first) else .set s
  | _ => .set s

/-! ## Sequences -/

/-- The parts of a sequence that a shape stands for. -/
def parts : Shape → List Shape
  | .empty => []
  | .concat items => items
  | s => [s]

/-- Joins the literals that stand side by side. -/
def joinLiterals : List Shape → List Shape
  | [] => []
  | s :: rest =>
    match s, joinLiterals rest with
    | .literal a, .literal b :: more => .literal (a ++ b) :: more
    | s, joined => s :: joined

/-- The sequence of some parts; one part is its own sequence. -/
def sequence : List Shape → Shape
  | [] => .empty
  | [s] => s
  | items => .concat items

/-- The shapes one after the other. -/
def concatOf (items : List Shape) : Shape := sequence (joinLiterals (items.flatMap parts))

/-! ## Choices -/

/-- The branches of a choice that a shape stands for. -/
def branchesOf : Shape → List Shape
  | .alternation branches => branches
  | s => [s]

/-- The number that one UTF-8 form of a character stands for. -/
def codeOf? : List Nat → Option Nat
  | [a] => some a
  | [a, b] => if 0xC0 ≤ a ∧ a < 0xE0 then some (a % 0x20 * 0x40 + b % 0x40) else none
  | [a, b, c] =>
    if 0xE0 ≤ a ∧ a < 0xF0 then some ((a % 0x10 * 0x40 + b % 0x40) * 0x40 + c % 0x40) else none
  | [a, b, c, d] =>
    if 0xF0 ≤ a then
      some (((a % 0x08 * 0x40 + b % 0x40) * 0x40 + c % 0x40) * 0x40 + d % 0x40)
    else none
  | _ => none

/-- The code point of a shape that is a single character. -/
def character? : Shape → Option Nat
  | .literal bytes => codeOf? bytes
  | _ => none

def set? : Shape → Option CharSet
  | .set s => some s
  | _ => none

/-- The choice between branches that share no beginning. -/
def choice : List Shape → Shape
  | [s] => s
  | branches =>
    match branches.mapM character?, branches.mapM set? with
    | some codes, _ => ofSet (.ofRanges (codes.map fun n => (n, n)))
    | none, some sets => ofSet (.unions sets)
    | none, none => .alternation branches

/-- The common beginning of two sequences. -/
def commonStart : List Shape → List Shape → List Shape
  | a :: as, b :: bs => if a.same b then a :: commonStart as bs else []
  | _, _ => []

/-- The items of a shape that is a sequence of several. -/
def items? : Shape → Option (List Shape)
  | .concat items => some items
  | _ => none

/-- The choice between shapes. A beginning that all branches share is taken out; what is left of
the branches then shares no beginning. -/
def alternationOf (branches : List Shape) : Shape :=
  let branches := branches.flatMap branchesOf
  match branches.mapM items? with
  | some (first :: rest@(_ :: _)) =>
    let start := rest.foldl commonStart first
    if start.isEmpty then choice branches
    else
      let ends := (first :: rest).map fun items => concatOf (items.drop start.length)
      concatOf (start ++ [choice (ends.flatMap branchesOf)])
  | _ => choice branches

/-! ## Lengths -/

mutual

/-- The least number of bytes of a text with the shape; a shape that no text has gives none. -/
def leastLength? : Shape → Option Nat
  | .empty => some 0
  | .literal bytes => some bytes.length
  | .set s => if s.isEmpty then none else some 1
  | .look _ => some 0
  | .repetition least _ _ sub => sub.leastLength?.map (least * ·)
  | .capture _ sub => sub.leastLength?
  | .concat items => sumOfLeastLengths? items
  | .alternation branches => leastOfLeastLengths? branches

def sumOfLeastLengths? : List Shape → Option Nat
  | [] => some 0
  | s :: rest => do return (← s.leastLength?) + (← sumOfLeastLengths? rest)

def leastOfLeastLengths? : List Shape → Option Nat
  | [] => none
  | [s] => s.leastLength?
  | s :: rest => do return min (← s.leastLength?) (← leastOfLeastLengths? rest)

end

/-- No text with the shape is empty. -/
def isNeverEmpty (s : Shape) : Bool := s.leastLength?.any (0 < ·)

mutual

/-- Does a shape hold a set with characters beyond ASCII? -/
def hasWideSet : Shape → Bool
  | .set s => !s.isAscii
  | .repetition _ _ _ sub => sub.hasWideSet
  | .capture _ sub => sub.hasWideSet
  | .concat items => anyHasWideSet items
  | .alternation branches => anyHasWideSet branches
  | _ => false

def anyHasWideSet : List Shape → Bool
  | [] => false
  | s :: rest => s.hasWideSet || anyHasWideSet rest

end

end Shape

/-! ## From terms to shapes -/

mutual

/-- The shape of a term. -/
def Term.shape : Term → Shape
  | .empty => .empty
  | .chars s => .ofSet s
  | .look l => .look l
  | .repetition least most greedy sub => .repetition least most greedy sub.shape
  | .capture index sub => .capture index sub.shape
  | .concat items => .concatOf (Term.shapes items)
  | .alternation branches => .alternationOf (Term.shapes branches)

def Term.shapes : List Term → List Shape
  | [] => []
  | t :: rest => t.shape :: Term.shapes rest

end

/-! ## Anchors -/

mutual

/-- Does every match of a term start with a condition? -/
def Term.startsWith (l : Look) : Term → Bool
  | .look m => l == m
  | .repetition least _ _ sub => 0 < least && sub.startsWith l
  | .capture _ sub => sub.startsWith l
  | .concat items => Term.anyStartsWith l items
  | .alternation branches => !branches.isEmpty && Term.allStartWith l branches
  | _ => false

/-- Is a condition met before the first item that takes characters? -/
def Term.anyStartsWith (l : Look) : List Term → Bool
  | [] => false
  | t :: rest => t.startsWith l || (t.onlyEmpty && Term.anyStartsWith l rest)

def Term.allStartWith (l : Look) : List Term → Bool
  | [] => true
  | t :: rest => t.startsWith l && Term.allStartWith l rest

end

mutual

/-- Does every match of a term end with a condition? -/
def Term.endsWith (l : Look) : Term → Bool
  | .look m => l == m
  | .repetition least _ _ sub => 0 < least && sub.endsWith l
  | .capture _ sub => sub.endsWith l
  | .concat items => Term.anyEndsWith l items
  | .alternation branches => !branches.isEmpty && Term.allEndWith l branches
  | _ => false

/-- Is a condition met after the last item that takes characters? -/
def Term.anyEndsWith (l : Look) : List Term → Bool
  | [] => false
  | t :: rest => Term.anyEndsWith l rest || (Term.allOnlyEmpty rest && t.endsWith l)

def Term.allEndWith (l : Look) : List Term → Bool
  | [] => true
  | t :: rest => t.endsWith l && Term.allEndWith l rest

end

end LabelRules.Pattern
