import LabelRules.Number.Binary

set_option autoImplicit false

/-! # Decimal text of a double

Reading: `readDecimal` takes digits, with at most one point between digits, to the nearest double
(a half goes to the even one, too large a number to infinity).

Writing: `shortest` finds the fewest digits that read back to a given double, and of those the
nearest; `showNumber` writes them with a point where it belongs and never with an exponent.
-/

namespace LabelRules

/-! ## Reading -/

/-- The number that a list of decimal digits writes. -/
def digitsValue (digits : List Char) : Nat :=
  digits.foldl (fun n c => 10 * n + (c.toNat - 48)) 0

/-- A non-empty run of decimal digits. -/
def isDigits (cs : List Char) : Bool := !cs.isEmpty && cs.all Char.isDigit

/-- Reads digits, or digits with one point between them. -/
def readDecimal (cs : List Char) : Option Float :=
  let whole := cs.takeWhile (· != '.')
  match cs.dropWhile (· != '.') with
  | [] => if isDigits whole then some (Float.ofScientific (digitsValue whole) false 0) else none
  | _ :: fraction =>
    if isDigits whole && isDigits fraction then
      some (Float.ofScientific (digitsValue (whole ++ fraction)) true fraction.length)
    else none

/-! ## The fewest digits -/

/-- A decimal number `digits · 10 ^ exponent`. -/
structure Decimal where
  digits : Nat
  exponent : Int
  deriving DecidableEq, Repr, Inhabited

namespace Decimal

/-- A positive value and the ends of the interval of the reals that round to it, all three over one
denominator; `closed` says whether the ends belong to the interval. -/
structure Interval where
  low : Nat
  value : Nat
  high : Nat
  denominator : Nat
  closed : Bool

/-- The interval of a double that is not zero. Below a power of two the doubles lie twice as
dense. -/
def Interval.ofBinary (b : Binary) : Interval :=
  let shift := b.exponent - 2
  let scale := Nat.pow 2 shift.toNat
  let narrow := b.mantissa = Nat.pow 2 52 ∧ b.exponent ≠ Binary.leastExponent
  { low := (4 * b.mantissa - if narrow then 1 else 2) * scale
    value := 4 * b.mantissa * scale
    high := (4 * b.mantissa + 2) * scale
    denominator := Nat.pow 2 (-shift).toNat
    closed := b.mantissa % 2 = 0 }

/-- Does `digits · 10 ^ exponent` lie in the interval? -/
def Interval.contains (i : Interval) (d : Decimal) : Bool :=
  let p := d.digits * Nat.pow 10 d.exponent.toNat * i.denominator
  let q := Nat.pow 10 (-d.exponent).toNat
  if i.closed then i.low * q ≤ p && p ≤ i.high * q else i.low * q < p && p < i.high * q

/-- The largest multiple of `10 ^ exponent` that is not above the value. -/
def Interval.floor (i : Interval) (exponent : Int) : Decimal :=
  ⟨i.value * Nat.pow 10 (-exponent).toNat / (i.denominator * Nat.pow 10 exponent.toNat), exponent⟩

/-- Of a multiple below the value and the next one, is the next one at least as near? -/
def Interval.nextIsNearer (i : Interval) (d : Decimal) : Bool :=
  let q := Nat.pow 10 (-d.exponent).toNat
  let unit := Nat.pow 10 d.exponent.toNat * i.denominator
  d.digits * unit + (d.digits + 1) * unit ≤ 2 * (i.value * q)

/-- The first of the exponents `exponent`, `exponent - 1`, … at which a multiple of the power of
ten lies in the interval; the multiple that is nearest to the value. -/
def Interval.search (i : Interval) (exponent : Int) : Nat → Decimal
  | 0 => i.floor exponent
  | more + 1 =>
    let below := i.floor exponent
    let above : Decimal := ⟨below.digits + 1, exponent⟩
    match i.contains below, i.contains above with
    | true, true => if i.nextIsNearer below then above else below
    | true, false => below
    | false, true => above
    | false, false => i.search (exponent - 1) more

/-- An exponent with `10 ^ exponent` above the value: it is the number of digits before the point,
or minus the number of zeros after it. -/
def Interval.magnitude (i : Interval) : Int :=
  let whole := i.value / i.denominator
  if whole ≠ 0 then (Nat.toDigits 10 whole).length
  else 1 - (Nat.toDigits 10 (i.denominator / i.value)).length

end Decimal

/-- The decimal number with the fewest digits that reads back to a double which is finite and not
zero; the nearest one when there are several, and the greater of two that are as near. -/
def shortest (x : Float) : Decimal :=
  let i := Decimal.Interval.ofBinary (Binary.ofFloat x)
  i.search i.magnitude 20

/-! ## Writing -/

/-- A decimal number in positional notation. -/
def Decimal.positional (d : Decimal) : List Char :=
  let digits := Nat.toDigits 10 d.digits
  match d.exponent with
  | .ofNat zeros => digits ++ List.replicate zeros '0'
  | .negSucc n =>
    let places := n + 1
    if places < digits.length then
      digits.take (digits.length - places) ++ '.' :: digits.drop (digits.length - places)
    else '0' :: '.' :: List.replicate (places - digits.length) '0' ++ digits

/-- The text of a number in a message: the fewest digits that read back, never with an exponent. -/
def showNumber (x : Float) : String :=
  if x.isNaN then "NaN"
  else
    let sign := if isSigned x then "-" else ""
    if x.isInf then sign ++ "inf"
    else if x == 0.0 then sign ++ "0"
    else sign ++ String.ofList (shortest x).positional

/-- The text of a number with a point in it, whatever its value. -/
def showWithPoint (x : Float) : String :=
  let shown := showNumber x
  if shown.toList.contains '.' || !x.isFinite then shown else shown ++ ".0"

end LabelRules
