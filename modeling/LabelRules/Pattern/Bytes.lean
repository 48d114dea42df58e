import LabelRules.Unicode.CharSet

set_option autoImplicit false

/-! # Characters as bytes

The bytes of UTF-8 that encode a character (`utf8Bytes`), and the sequences of byte ranges that
encode a range of code points (`byteSequences`): each sequence stands for all texts of bytes that
take one byte from each of its ranges, and the sequences of a range are in increasing order.
-/

namespace LabelRules.Pattern

/-- The bytes of the UTF-8 form of a code point. -/
def utf8Bytes (code : Nat) : List Nat :=
  if code < 0x80 then [code]
  else if code < 0x800 then [0xC0 + code / 0x40, 0x80 + code % 0x40]
  else if code < 0x10000 then
    [0xE0 + code / 0x1000, 0x80 + code / 0x40 % 0x40, 0x80 + code % 0x40]
  else
    [0xF0 + code / 0x40000, 0x80 + code / 0x1000 % 0x40, 0x80 + code / 0x40 % 0x40,
      0x80 + code % 0x40]

/-- Where a range has to be split, so that each part is a product of ranges of bytes: at the end of
the code points of a length, or where the last bytes do not run through all their values. -/
def splitAt? (first last : Nat) : Option Nat :=
  let lengthEnd := [0x7F, 0x7FF, 0xFFFF].find? fun m => first ≤ m && m < last
  match lengthEnd with
  | some m => some m
  | none =>
    if last ≤ 0x7F then none
    else
      [0x40, 0x1000, 0x40000].findSome? fun block =>
        if first / block = last / block then none
        else if first % block ≠ 0 then some (first / block * block + block - 1)
        else if last % block ≠ block - 1 then some (last / block * block - 1)
        else none

/-- The sequences of byte ranges that encode a range without surrogates. Few splits are needed: at
most three for the lengths, and two for each byte but the first. -/
def sequencesOfScalars : (fuel first last : Nat) → List (List (Nat × Nat))
  | 0, _, _ => []
  | fuel + 1, first, last =>
    match splitAt? first last with
    | some m => sequencesOfScalars fuel first m ++ sequencesOfScalars fuel (m + 1) last
    | none => [(utf8Bytes first).zip (utf8Bytes last)]

/-- The parts of a range before and after the surrogates, which no text contains. -/
def withoutSurrogates (range : Nat × Nat) : List (Nat × Nat) :=
  [(range.1, min range.2 0xD7FF), (max range.1 0xE000, range.2)].filter fun r => r.1 ≤ r.2

/-- The sequences of byte ranges that encode the characters of a set. -/
def byteSequences (set : CharSet) : List (List (Nat × Nat)) :=
  (set.ranges.toList.flatMap withoutSurrogates).flatMap fun r => sequencesOfScalars 40 r.1 r.2

end LabelRules.Pattern
