set_option autoImplicit false

/-! # Sets of characters

A `CharSet` is a list of closed ranges of code points, in increasing order and apart from each
other. `contains` finds a code point by halving; `ofRanges` puts any ranges into order and joins
those that meet; `union`, `inter`, `diff`, `symmDiff` and `compl` are the set operations.

The tables of character properties are written as texts of run lengths (`ofRuns`): the numbers, in
base 36 and set apart by spaces, are the lengths of the runs of code points, from 0 on, that are in
turn outside and inside the set.
-/

namespace LabelRules

/-- A set of characters as closed ranges of code points, increasing and apart. -/
structure CharSet where
  ranges : Array (Nat × Nat)
  deriving Repr, Inhabited, DecidableEq

namespace CharSet

/-- The greatest code point. -/
def maxCode : Nat := 0x10FFFF

def empty : CharSet := ⟨#[]⟩

/-- All characters. -/
def full : CharSet := ⟨#[(0, maxCode)]⟩

def isEmpty (s : CharSet) : Bool := s.ranges.isEmpty

/-! ## Membership -/

/-- How many of the ranges with an index from `lo` to `hi` start at or before the code point, with
`lo` added: those ranges come first. -/
def rankFrom (ranges : Array (Nat × Nat)) (code lo hi : Nat) : Nat :=
  if _h : lo < hi then
    let mid := (lo + hi) / 2
    match ranges[mid]? with
    | some (first, _) =>
      if first ≤ code then rankFrom ranges code (mid + 1) hi else rankFrom ranges code lo mid
    | none => lo
  else lo
termination_by hi - lo
decreasing_by all_goals omega

/-- Is a code point in the set? -/
def containsCode (s : CharSet) (code : Nat) : Bool :=
  match rankFrom s.ranges code 0 s.ranges.size with
  | 0 => false
  | i + 1 =>
    match s.ranges[i]? with
    | some (_, last) => code ≤ last
    | none => false

/-- Is a character in the set? -/
def contains (s : CharSet) (c : Char) : Bool := s.containsCode c.toNat

/-! ## Putting ranges into order -/

/-- Joins ranges that overlap or touch, given in the order of their starts. -/
def joinFrom (current : Nat × Nat) : List (Nat × Nat) → List (Nat × Nat)
  | [] => [current]
  | (first, last) :: rest =>
    if first ≤ current.2 + 1 then joinFrom (current.1, max current.2 last) rest
    else current :: joinFrom (first, last) rest

/-- The set of the code points in some of the ranges. -/
def ofRanges (ranges : List (Nat × Nat)) : CharSet :=
  match ranges.mergeSort (fun a b => a.1 ≤ b.1) with
  | [] => empty
  | r :: rest => ⟨(joinFrom r rest).toArray⟩

def singleton (c : Char) : CharSet := ⟨#[(c.toNat, c.toNat)]⟩

/-! ## Set operations -/

def union (s t : CharSet) : CharSet := ofRanges (s.ranges.toList ++ t.ranges.toList)

/-- The gaps between increasing ranges, from the code point `next` on. -/
def gapsFrom (next : Nat) : List (Nat × Nat) → List (Nat × Nat)
  | [] => if next ≤ maxCode then [(next, maxCode)] else []
  | (first, last) :: rest =>
    if next < first then (next, first - 1) :: gapsFrom (last + 1) rest
    else gapsFrom (last + 1) rest

/-- All other characters. -/
def compl (s : CharSet) : CharSet := ⟨(gapsFrom 0 s.ranges.toList).toArray⟩

def inter (s t : CharSet) : CharSet := (s.compl.union t.compl).compl

def diff (s t : CharSet) : CharSet := s.inter t.compl

/-- The characters in exactly one of two sets. -/
def symmDiff (s t : CharSet) : CharSet := (s.diff t).union (t.diff s)

/-- The union of several sets. -/
def unions (sets : List CharSet) : CharSet :=
  ofRanges (sets.flatMap fun s => s.ranges.toList)

/-- Every character of the set is below 128. -/
def isAscii (s : CharSet) : Bool := s.ranges.all fun r => r.2 < 128

/-! ## Tables as run lengths -/

/-- The value of a digit of base 36. -/
def digitValue (c : Char) : Nat :=
  if c.isDigit then c.toNat - 48 else c.toNat - 87

/-- The numbers of a text of base 36 numbers set apart by spaces. -/
def numbers (text : String) : List Nat :=
  let step (state : List Nat × Nat) (c : Char) : List Nat × Nat :=
    if c = ' ' then (state.2 :: state.1, 0) else (state.1, state.2 * 36 + digitValue c)
  let (done, last) := text.toList.foldl step ([], 0)
  (last :: done).reverse

example : numbers "1a 0 z" = [46, 0, 35] := by decide

/-- The ranges of alternating runs from the code point `start` on, the first run outside. -/
def runsFrom (start : Nat) : List Nat → List (Nat × Nat)
  | gap :: run :: rest => (start + gap, start + gap + run - 1) :: runsFrom (start + gap + run) rest
  | _ => []

/-- The set that is written as the run lengths of the lines of a table. -/
def ofRuns (lines : List String) : CharSet :=
  ⟨(runsFrom 0 (lines.flatMap numbers)).toArray⟩

/-- The set of the first row of a table that has a name; a row is its names and its run lengths. -/
def named? (name : String) (table : List (List String × List String)) : Option CharSet :=
  (table.find? fun row => row.1.contains name).map fun row => .ofRuns row.2

end CharSet

end LabelRules
