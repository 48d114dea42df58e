set_option autoImplicit false

/-! # Doubles as integers times powers of two

A finite double is `mantissa · 2 ^ exponent`, with a mantissa below `2 ^ 53` (`Binary.ofFloat`,
`Binary.toFloat`). The remainder of two doubles, with the sign of the dividend, is exact in this
form (`remainder`).
-/

namespace LabelRules

/-- The magnitude of a finite double: `mantissa · 2 ^ exponent`. -/
structure Binary where
  mantissa : Nat
  exponent : Int
  deriving DecidableEq, Repr, Inhabited

namespace Binary

/-- The exponent of the smallest doubles. -/
def leastExponent : Int := -1074

/-- The magnitude of a finite double. -/
def ofFloat (x : Float) : Binary :=
  let bits : Nat := x.toBits.toNat
  let fraction : Nat := bits % Nat.pow 2 52
  let biased : Nat := bits / Nat.pow 2 52 % Nat.pow 2 11
  if biased = 0 then ⟨fraction, leastExponent⟩
  else ⟨fraction + Nat.pow 2 52, (biased : Int) - 1075⟩

/-- The double of a magnitude whose mantissa is below `2 ^ 53` and whose exponent is not below
`leastExponent`, with a sign. -/
def toFloat (negative : Bool) (b : Binary) : Float :=
  let sign := if negative then Nat.pow 2 63 else 0
  if b.mantissa = 0 then Float.ofBits (UInt64.ofNat sign)
  else
    let shift := min (52 - b.mantissa.log2) (b.exponent - leastExponent).toNat
    let mantissa := b.mantissa * Nat.pow 2 shift
    let exponent := b.exponent - shift
    if mantissa < Nat.pow 2 52 then Float.ofBits (UInt64.ofNat (sign + mantissa))
    else
      let biased := (exponent + 1075).toNat
      if biased < 2047 then
        Float.ofBits (UInt64.ofNat (sign + biased * Nat.pow 2 52 + (mantissa - Nat.pow 2 52)))
      else Float.ofBits (UInt64.ofNat (sign + 2047 * Nat.pow 2 52))

end Binary

/-- Is the sign bit of a double set? -/
def isSigned (x : Float) : Bool := Nat.pow 2 63 ≤ x.toBits.toNat

/-- The remainder of a division that is rounded toward zero. It has the sign of the dividend; the
remainder of an infinite number, or of a division by zero, is not a number. -/
def remainder (x y : Float) : Float :=
  if x.isNaN || y.isNaN || x.isInf then 0.0 / 0.0
  else if y.isInf then x
  else
    let a := Binary.ofFloat x
    let b := Binary.ofFloat y
    if b.mantissa = 0 then 0.0 / 0.0
    else
      let exponent := min a.exponent b.exponent
      let dividend := a.mantissa * Nat.pow 2 (a.exponent - exponent).toNat
      let divisor := b.mantissa * Nat.pow 2 (b.exponent - exponent).toNat
      Binary.toFloat (isSigned x) ⟨dividend % divisor, exponent⟩

end LabelRules
