import LabelRules.Number.Decimal
import Mathlib

set_option autoImplicit false

/-! # Signs of doubles, and decimal texts

The change of sign of a double flips its sign bit and nothing else, so that twice changed it is back
(`Number.neg_neg`). The order of the operands does not matter for the equality of doubles
(`Number.beq_comm`). A decimal text is never read as something that is not a number
(`Number.isNaN_of_readDecimal`): one rounding of a quotient or a product of finite numbers gives a
finite number or an infinite one.
-/

namespace LabelRules

namespace Number

open Float.Model (Format UnpackedFloat)
open Float.Model.UnpackedFloat

/-! ## The sign -/

theorem sign_neg_neg (s : Sign) : -(-s) = s := by
  cases s <;> rfl

/-- The sign bit is the sign of what a double unpacks to; not a number has none. -/
theorem unpack_packComponents_neg {format : Format} (s : Sign) (e : BitVec format.exponentBits)
    (m : BitVec format.mantissaBitsWithoutImplicit) :
    unpack format (packComponents format (-s) e m)
      = (unpack format (packComponents format s e m)).neg := by
  simp only [unpack, unpackExponent_packComponents, unpackMantissa_packComponents,
    unpackSign_packComponents, Sign.ofBitVec_toBitVec]
  split
  · split <;> rfl
  split
  · split <;> rfl
  · rfl

/-- Without the sign bit a pattern that is a number stays one. -/
theorem pack_neg_unpack {format : Format} (hformat : 2 ≤ format.exponentBits) (s : Sign)
    (e : BitVec format.exponentBits) (m : BitVec format.mantissaBitsWithoutImplicit)
    (hnumber : e = -1#_ → m = 0#_) :
    pack format (unpack format (packComponents format s e m)).neg
      = packComponents format (-s) e m := by
  rw [← unpack_packComponents_neg]
  refine pack_unpack_of_valid ⟨fun he hm => ?_⟩ hformat
  simp only [unpackExponent_packComponents, unpackMantissa_packComponents] at he hm
  exact absurd (hnumber he) hm

theorem pack_neg_neg_unpack {format : Format} (hformat : 2 ≤ format.exponentBits)
    {b : BitVec format.numBits} (hvalid : format.Valid b) :
    pack format (unpack format (pack format (unpack format b).neg)).neg = b := by
  -- There is one pattern that is not a number, and the change of sign keeps it.
  by_cases hnan : unpack format b = .notANumber
  · have hb : b = packedNaN format := (unpack_eq_notANumber_iff_of_valid hvalid hformat).1 hnan
    have hpack : pack format (unpack format b).neg = b := by
      rw [hnan, hb]
      rfl
    rw [hpack, hpack]
  · have hparts := packComponents_unpackSign_unpackExponent_unpackMantissa b
    have hnumber : unpackExponent b = -1#_ → unpackMantissa b = 0#_ := by
      intro he
      by_contra hm
      exact hnan ((unpack_eq_notANumber_iff_of_valid hvalid hformat).2 (hvalid.eq_packedNaN he hm))
    calc
      pack format (unpack format (pack format (unpack format b).neg)).neg
        = pack format (unpack format (packComponents format (-Sign.ofBitVec (unpackSign b))
            (unpackExponent b) (unpackMantissa b))).neg := by
          rw [← pack_neg_unpack hformat _ _ _ hnumber, hparts]
      _ = packComponents format (- -Sign.ofBitVec (unpackSign b)) (unpackExponent b)
            (unpackMantissa b) := pack_neg_unpack hformat _ _ _ hnumber
      _ = b := by rw [sign_neg_neg, hparts]

theorem neg_neg (x : Float) : -(-x) = x := by
  obtain ⟨bits, hvalid⟩ := x
  refine Float.toBits_inj.1 (UInt64.toBitVec_inj.1 ?_)
  exact pack_neg_neg_unpack (by decide) hvalid

theorem isNaN_neg (x : Float) : (-x).isNaN = x.isNaN := by
  have hnan : -Float.nan = Float.nan := by decide +kernel
  rw [Float.isNaN_eq_decide_eq_nan, Float.isNaN_eq_decide_eq_nan, decide_eq_decide]
  constructor
  · intro h
    rw [← neg_neg x, h, hnan]
  · intro h
    rw [h, hnan]

/-! ## Equality -/

/-- Equal is said in both orders or in none, also of zeros of different signs. -/
theorem unpacked_compare_eq_comm (u v : UnpackedFloat) :
    u.compare v = some .eq ↔ v.compare u = some .eq := by
  have hexponent (e f : Int) : compare e f = .eq ↔ compare f e = .eq := by
    rw [compare_eq_iff_eq, compare_eq_iff_eq, eq_comm]
  have hmantissa (m n : Nat) : compare m n = .eq ↔ compare n m = .eq := by
    rw [compare_eq_iff_eq, compare_eq_iff_eq, eq_comm]
  cases u with
  | notANumber => cases v <;> simp [UnpackedFloat.compare]
  | infinity s =>
      cases v with
      | infinity t => cases s <;> cases t <;> decide
      | notANumber | zero | finite => cases s <;> simp [UnpackedFloat.compare]
  | zero s =>
      cases v with
      | infinity t | finite t => cases t <;> simp [UnpackedFloat.compare]
      | notANumber | zero => simp [UnpackedFloat.compare]
  | finite s m e hm =>
      cases v with
      | finite t n f hn =>
          cases s <;> cases t <;>
            simp [UnpackedFloat.compare, Ordering.then_eq_eq, hexponent e f, hmantissa m n]
      | infinity t => cases t <;> simp [UnpackedFloat.compare]
      | notANumber => simp [UnpackedFloat.compare]
      | zero => cases s <;> simp [UnpackedFloat.compare]

/-- The equality of doubles is symmetric; it is not reflexive. -/
theorem beq_comm (x y : Float) : (x == y) = (y == x) := by
  have hcompare (x y : Float) :
      (x == y) = decide (x.toModel.unpack.compare y.toModel.unpack = some .eq) := by
    rw [← beq_eq_decide]
    rfl
  rw [hcompare, hcompare, decide_eq_decide]
  exact unpacked_compare_eq_comm _ _

/-! ## Results of one rounding -/

/-- The greatest exponent is that of an infinity, which has no mantissa. -/
theorem unpackMantissa_pack {format : Format} {u : UnpackedFloat} (h : u ≠ .notANumber)
    (he : unpackExponent (pack format u) = -1#_) : unpackMantissa (pack format u) = 0#_ := by
  revert he
  fun_cases pack format u with
  | case1 => exact absurd rfl h
  | case2 s => exact fun _ => unpackMantissa_packComponents
  | case3 s => exact fun _ => unpackMantissa_packComponents
  | case4 s m e hm biased hlarge => exact fun _ => unpackMantissa_packComponents
  | case5 s m e hm bits biased hlarge hnormal =>
      intro he
      have hbiased : biased % 2 ^ format.exponentBits = 2 ^ format.exponentBits - 1 := by
        simpa [BitVec.neg_one_eq_allOnes, ← BitVec.toNat_inj] using he
      rw [Nat.mod_eq_of_lt (by omega)] at hbiased
      omega
  | case6 s m e hm biased hlarge hnormal =>
      intro he
      simp [Nat.pos_iff_ne_zero.1 format.he] at he

theorem isNaN_unpack_pack {format : Format} {u : UnpackedFloat} (h : u ≠ .notANumber) :
    (unpack format (pack format u)).isNaN = false := by
  unfold unpack
  simp only
  split
  · next he =>
      rw [if_pos (unpackMantissa_pack h he)]
      rfl
  split
  · split <;> rfl
  · rfl

theorem roundWithAccuracy_ne_nan (format : Format) (s : Sign) (m : Nat) (e : Int) (a : Accuracy) :
    roundWithAccuracy format s m e a ≠ .notANumber := by
  unfold roundWithAccuracy
  simp only
  split <;> exact UnpackedFloat.noConfusion

theorem ofUInt64_ne_nan (format : Format) (n : UInt64) :
    UnpackedFloat.ofUInt64 format n ≠ .notANumber := by
  unfold UnpackedFloat.ofUInt64 UnpackedFloat.ofNat UnpackedFloat.ofInt UnpackedFloat.normalize
    UnpackedFloat.round
  split
  · exact roundWithAccuracy_ne_nan _ _ _ _ _
  · exact UnpackedFloat.noConfusion
  · exact roundWithAccuracy_ne_nan _ _ _ _ _

/-- Finite and not zero. -/
def isRegular : UnpackedFloat → Bool
  | .finite .. => true
  | _ => false

theorem mul_ne_nan (format : Format) {u v : UnpackedFloat} (hu : u ≠ .notANumber)
    (hv : isRegular v = true) : UnpackedFloat.mul format u v ≠ .notANumber := by
  cases v with
  | infinity s | notANumber | zero s => cases hv
  | finite s m e hm =>
      cases u with
      | notANumber => exact absurd rfl hu
      | infinity s' | zero s' => exact UnpackedFloat.noConfusion
      | finite s' m' e' hm' => exact roundWithAccuracy_ne_nan _ _ _ _ _

theorem div_ne_nan (format : Format) {u v : UnpackedFloat} (hu : u ≠ .notANumber)
    (hv : isRegular v = true) : UnpackedFloat.div format u v ≠ .notANumber := by
  cases v with
  | infinity s | notANumber | zero s => cases hv
  | finite s m e hm =>
      cases u with
      | notANumber => exact absurd rfl hu
      | infinity s' | zero s' => exact UnpackedFloat.noConfusion
      | finite s' m' e' hm' => exact roundWithAccuracy_ne_nan _ _ _ _ _

theorem ofScientific_ne_nan (format : Format) (m : Nat) (e : Int) :
    UnpackedFloat.ofScientific format m e ≠ .notANumber := by
  unfold UnpackedFloat.ofScientific
  split
  · exact UnpackedFloat.noConfusion
  split
  · exact UnpackedFloat.noConfusion
  split
  · exact UnpackedFloat.noConfusion
  split
  · exact mul_ne_nan _ UnpackedFloat.noConfusion rfl
  · exact div_ne_nan _ UnpackedFloat.noConfusion rfl

theorem isNaN_ofScientific (m : Nat) (s : Bool) (e : Nat) :
    (Float.ofScientific m s e).isNaN = false := by
  have hpowers : ∀ x ∈ Float.exactlyRepresentablePowersOfTen,
      isRegular (unpack Format.binary64 x.toModel.toBits.toBitVec) = true := by
    decide +kernel
  -- A short decimal is computed as a product or a quotient of two doubles.
  have hinteger : unpack Format.binary64 m.toUInt64.toFloat.toModel.toBits.toBitVec
      ≠ .notANumber := by
    intro h
    have hnumber := @isNaN_unpack_pack Format.binary64 _
      (ofUInt64_ne_nan Format.binary64 m.toUInt64)
    have hnan := isNaN_iff.2 h
    exact Bool.false_ne_true (hnumber.symm.trans hnan)
  have hsize : e ≤ 22 → e < Float.exactlyRepresentablePowersOfTen.size := Nat.lt_succ_of_le
  unfold Float.ofScientific
  split
  · next h =>
      have hpower := hpowers _ (Array.getElem_mem (hsize h.2))
      simp only
      split
      · exact isNaN_unpack_pack (div_ne_nan _ hinteger hpower)
      · exact isNaN_unpack_pack (mul_ne_nan _ hinteger hpower)
  · exact isNaN_unpack_pack (ofScientific_ne_nan _ _ _)

/-- What is read is a number, perhaps an infinite one. -/
theorem isNaN_of_readDecimal {cs : List Char} {x : Float} (h : readDecimal cs = some x) :
    x.isNaN = false := by
  unfold readDecimal at h
  simp only at h
  split at h <;>
    · split at h
      · cases h
        exact isNaN_ofScientific _ _ _
      · cases h

end Number

end LabelRules
