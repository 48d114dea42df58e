import LabelRules.Unicode.LowerCase

set_option autoImplicit false

/-! # The normal form of a label

Connectivity and provider are free text in the rules; as labels they are written in lower case with
letters, digits, dots, plus signs and dashes only, so that `Hurricane Electric!` and
`HurricaneElectric` are one provider. What the lower case of a character depends on, its place in
the text, is dropped again, so `normalize` works character by character (`toList_normalize`) and
respects concatenation (`normalize_append`); its results are the texts that consist of label
characters, and these it leaves alone (`isLabelChar_of_mem_normalize`, `normalize_eq_self`).
-/

namespace LabelRules

/-- The characters of a label in normal form. -/
def isLabelChar (c : Char) : Bool :=
  c.isLower || c.isDigit || c == '.' || c == '+' || c == '-'

theorem isLabelChar_iff {c : Char} : isLabelChar c = true ↔
    ('a' ≤ c ∧ c ≤ 'z') ∨ ('0' ≤ c ∧ c ≤ '9') ∨ c = '.' ∨ c = '+' ∨ c = '-' := by
  have hlower : c.isLower = true ↔ 'a' ≤ c ∧ c ≤ 'z' :=
    Bool.and_eq_true_iff.trans (and_congr decide_eq_true_iff decide_eq_true_iff)
  have hdigit : c.isDigit = true ↔ '0' ≤ c ∧ c ≤ '9' :=
    Bool.and_eq_true_iff.trans (and_congr decide_eq_true_iff decide_eq_true_iff)
  simp only [isLabelChar, Bool.or_eq_true, beq_iff_eq, hlower, hdigit, or_assoc]

/-- What a character leaves in the normal form. Beyond ASCII, two characters have a label character
in their lower case: the capital I with a dot above, and the Kelvin sign. -/
def labelChar? (c : Char) : Option Char :=
  if isLabelChar c then some c
  else if c.isUpper then some c.toLower
  else if c = '\u0130' then some 'i'
  else if c = '\u212A' then some 'k'
  else none

/-- Lower case, with every character dropped that is no label character. -/
def normalize (text : String) : String :=
  String.ofList ((lowerCase text).toList.filter isLabelChar)

/-! ## Character by character -/

theorem toNat_lt_of_isLabelChar {c : Char} (h : isLabelChar c = true) : c.toNat < 128 := by
  rcases isLabelChar_iff.1 h with ⟨-, hz⟩ | ⟨-, hnine⟩ | rfl | rfl | rfl
  · exact Nat.lt_of_le_of_lt (Char.le_def.1 hz) (by decide)
  · exact Nat.lt_of_le_of_lt (Char.le_def.1 hnine) (by decide)
  · decide
  · decide
  · decide

theorem toNat_of_isUpper {c : Char} (h : c.isUpper = true) : 65 ≤ c.toNat ∧ c.toNat ≤ 90 :=
  (@decide_eq_true_iff (c.val ≥ 'A'.val ∧ c.val ≤ 'Z'.val) _).1 h

/-- What holds of each of the 26 capital letters of ASCII. -/
theorem forall_isUpper {P : Char → Prop} (hall : ∀ n < 91, 65 ≤ n → P (Char.ofNat n)) {c : Char}
    (h : c.isUpper = true) : P c := by
  have hcapital := toNat_of_isUpper h
  have hc := hall c.toNat (Nat.lt_succ_of_le hcapital.2) hcapital.1
  rwa [Char.ofNat_toNat] at hc

theorem isLabelChar_eq_false {c : Char} (h : 128 ≤ c.toNat) : isLabelChar c = false := by
  rw [← Bool.not_eq_true]
  exact fun hc => absurd (toNat_lt_of_isLabelChar hc) (Nat.not_lt_of_le h)

theorem labelChar?_of_isLabelChar {c : Char} (h : isLabelChar c = true) :
    labelChar? c = some c := by
  simp [labelChar?, h]

/-- Beyond ASCII the small letters are no label characters, but for that of the Kelvin sign. -/
theorem isLabelChar_smallLetter {c : Char} (h : 128 ≤ c.toNat) (hkelvin : c ≠ '\u212A') :
    isLabelChar (smallLetter c) = false := by
  have hruns : ∀ r ∈ capitalRuns, 128 ≤ r.small := by decide +kernel
  unfold smallLetter
  rw [if_neg (Nat.not_lt_of_le h), if_neg hkelvin]
  split
  · next code hcode =>
      obtain ⟨r, hr, hsmall⟩ := List.exists_of_findSome?_eq_some hcode
      have hlarge : 128 ≤ code := by
        have hfirst := hruns r hr
        unfold CapitalRun.small? at hsmall
        split at hsmall
        · cases hsmall
          omega
        · cases hsmall
      -- A number that is no code point stands for the character zero.
      by_cases hvalid : code.isValidChar
      · rw [Char.ofNat, dif_pos hvalid]
        exact isLabelChar_eq_false hlarge
      · rw [Char.ofNat, dif_neg hvalid]
        decide
  · exact isLabelChar_eq_false h

theorem labelChar?_eq_none {c : Char} (h : 128 ≤ c.toNat) (hdotted : c ≠ '\u0130')
    (hkelvin : c ≠ '\u212A') : labelChar? c = none := by
  have hupper : c.isUpper = false := by
    rw [← Bool.not_eq_true]
    intro hc
    have hcapital := toNat_of_isUpper hc
    omega
  unfold labelChar?
  rw [isLabelChar_eq_false h, hupper, if_neg Bool.false_ne_true, if_neg Bool.false_ne_true,
    if_neg hdotted, if_neg hkelvin]

/-- Of the lower case of a character there is at most one label character, whatever stands around
it. -/
theorem filter_lowerCaseAt (before : List Char) (c : Char) (after : List Char) :
    (lowerCaseAt before c after).filter isLabelChar = (labelChar? c).toList := by
  have hascii : ∀ n < 128, [smallLetter (Char.ofNat n)].filter isLabelChar
      = (labelChar? (Char.ofNat n)).toList := by decide
  unfold lowerCaseAt
  split
  · next hdotted =>
      subst hdotted
      decide
  next hdotted =>
  split
  · next hsigma =>
      -- Both small letters of sigma are dropped.
      have hc : c = 'Σ' := of_decide_eq_true (Bool.and_eq_true_iff.1 hsigma).1
      subst hc
      decide
  · by_cases hc : c.toNat < 128
    · have hsmall := hascii c.toNat hc
      rwa [Char.ofNat_toNat] at hsmall
    · have hlarge : 128 ≤ c.toNat := Nat.le_of_not_lt hc
      by_cases hkelvin : c = '\u212A'
      · subst hkelvin
        decide
      · rw [labelChar?_eq_none hlarge hdotted hkelvin, List.filter_cons_of_neg]
        · rfl
        · rw [isLabelChar_smallLetter hlarge hkelvin]
          exact Bool.false_ne_true

theorem filter_lowerCaseFrom (before cs : List Char) :
    (lowerCaseFrom before cs).filter isLabelChar = cs.filterMap labelChar? := by
  induction cs generalizing before with
  | nil => rfl
  | cons c after ih =>
      rw [lowerCaseFrom, List.filter_append, filter_lowerCaseAt, ih]
      cases hc : labelChar? c with
      | none => rw [List.filterMap_cons_none hc]; rfl
      | some d => rw [List.filterMap_cons_some hc]; rfl

theorem toList_normalize (text : String) :
    (normalize text).toList = text.toList.filterMap labelChar? := by
  rw [normalize, lowerCase, String.toList_ofList, String.toList_ofList, filter_lowerCaseFrom]

theorem normalize_append (a b : String) : normalize (a ++ b) = normalize a ++ normalize b := by
  refine String.toList_inj.1 ?_
  rw [String.toList_append, toList_normalize, toList_normalize, toList_normalize,
    String.toList_append, List.filterMap_append]

/-! ## Fixed points -/

theorem isLabelChar_toLower {c : Char} (h : c.isUpper = true) : isLabelChar c.toLower = true :=
  @forall_isUpper (fun c => isLabelChar c.toLower = true) (by decide) c h

/-- What a character leaves is a label character. -/
theorem isLabelChar_of_labelChar? {c d : Char} (h : labelChar? c = some d) :
    isLabelChar d = true := by
  unfold labelChar? at h
  split at h
  · next hc =>
      cases h
      exact hc
  split at h
  · next hupper =>
      cases h
      exact isLabelChar_toLower hupper
  split at h
  · cases h
    decide
  split at h
  · cases h
    decide
  · cases h

theorem isLabelChar_of_mem_normalize {text : String} {c : Char}
    (h : c ∈ (normalize text).toList) : isLabelChar c = true := by
  rw [toList_normalize] at h
  obtain ⟨_, -, hc⟩ := List.mem_filterMap.1 h
  exact isLabelChar_of_labelChar? hc

/-- A text of label characters is in normal form. -/
theorem normalize_eq_self {text : String} (h : ∀ c ∈ text.toList, isLabelChar c = true) :
    normalize text = text := by
  have hkept : text.toList.filterMap labelChar? = text.toList := by
    generalize text.toList = cs at h ⊢
    induction cs with
    | nil => rfl
    | cons c cs ih =>
        have hc := labelChar?_of_isLabelChar (h c List.mem_cons_self)
        rw [List.filterMap_cons_some hc, ih fun d hd => h d (List.mem_cons_of_mem c hd)]
  rw [← String.toList_inj, toList_normalize, hkept]

theorem normalize_normalize (text : String) : normalize (normalize text) = normalize text :=
  normalize_eq_self fun _ => isLabelChar_of_mem_normalize

end LabelRules
