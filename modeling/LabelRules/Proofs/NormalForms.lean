import LabelRules.Labels.Normal
import Mathlib

set_option autoImplicit false

/-! # Normal forms of labels

Normalizing is a homomorphism of texts onto the texts of label characters (`IsLabelText`), which are
its fixed points (`normalize_eq_self_iff`). It does not see whether letters of ASCII are capital or
small (`SameButCase`, `normalize_eq_of_sameButCase`).
-/

namespace LabelRules

/-! ## Texts of label characters -/

/-- A text of small letters, digits, dots, plus signs and dashes. -/
def IsLabelText (text : String) : Prop :=
  ∀ c ∈ text.toList,
    ('a' ≤ c ∧ c ≤ 'z') ∨ ('0' ≤ c ∧ c ≤ '9') ∨ c = '.' ∨ c = '+' ∨ c = '-'

theorem isLabelText_normalize (text : String) : IsLabelText (normalize text) :=
  fun _ hc => isLabelChar_iff.1 (isLabelChar_of_mem_normalize hc)

/-- A text is in normal form exactly if it consists of label characters. -/
theorem normalize_eq_self_iff {text : String} : normalize text = text ↔ IsLabelText text := by
  constructor
  · intro h
    rw [← h]
    exact isLabelText_normalize text
  · intro h
    exact normalize_eq_self fun c hc => isLabelChar_iff.2 (h c hc)

/-! ## Capital and small letters of ASCII -/

/-- Two texts differ at most in the case of letters of ASCII. -/
def SameButCase (a b : String) : Prop :=
  List.Forall₂ (fun c d : Char => c.toLower = d.toLower) a.toList b.toList

theorem sameButCase_map (text : String) {f : Char → Char} (hf : ∀ c, (f c).toLower = c.toLower) :
    SameButCase (text.map f) text := by
  rw [SameButCase, String.toList_map, List.forall₂_map_left_iff]
  exact List.forall₂_same.2 fun c _ => hf c

/-- A capital letter leaves what its small letter leaves. -/
theorem labelChar?_toLower (c : Char) : labelChar? c.toLower = labelChar? c := by
  by_cases hupper : c.isUpper = true
  · exact @forall_isUpper (fun c => labelChar? c.toLower = labelChar? c) (by decide) c hupper
  · rw [Char.toLower_eq_of_not_isUpper hupper]

theorem labelChar?_eq_of_toLower_eq {c d : Char} (h : c.toLower = d.toLower) :
    labelChar? c = labelChar? d := by
  rw [← labelChar?_toLower c, h, labelChar?_toLower d]

theorem normalize_eq_of_sameButCase {a b : String} (h : SameButCase a b) :
    normalize a = normalize b := by
  rw [← String.toList_inj, toList_normalize, toList_normalize]
  unfold SameButCase at h
  generalize a.toList = cs, b.toList = ds at h ⊢
  induction h with
  | nil => rfl
  | cons hc _ ih =>
      rw [List.filterMap_cons, List.filterMap_cons, labelChar?_eq_of_toLower_eq hc, ih]

/-! ## The homomorphism -/

/-- **Normalizing is a homomorphism onto the texts of label characters.** It respects concatenation,
and a second time it changes nothing; its results are texts of label characters, and those it leaves
alone. The case of letters of ASCII does not matter, whether some of them are changed or all. -/
theorem normalize_homomorphism (a b : String) :
    normalize (a ++ b) = normalize a ++ normalize b
      ∧ normalize (normalize a) = normalize a
      ∧ (SameButCase a b → normalize a = normalize b)
      ∧ normalize a.toUpper = normalize a ∧ normalize a.toLower = normalize a
      ∧ IsLabelText (normalize a)
      ∧ (IsLabelText a → normalize a = a) := by
  have hupper : SameButCase a.toUpper a := sameButCase_map a Char.toLower_toUpper_eq_toLower
  have hlower : SameButCase a.toLower a := sameButCase_map a Char.toLower_toLower_eq_toLower
  exact ⟨normalize_append a b, normalize_normalize a, normalize_eq_of_sameButCase,
    normalize_eq_of_sameButCase hupper, normalize_eq_of_sameButCase hlower,
    isLabelText_normalize a, normalize_eq_self_iff.2⟩

/-- The dot above the capital I, the capital sigmas and the letter that follows them are dropped;
what the Kelvin sign leaves is a `k`. -/
theorem normalize_homomorphism_istanbul :
    SameButCase "İstanbul-ΣΑΣ 300\u212A" "İSTANBUL-ΣΑΣ 300\u212A"
      ∧ normalize "İstanbul-ΣΑΣ 300\u212A" = normalize "İSTANBUL-ΣΑΣ 300\u212A"
      ∧ normalize "İSTANBUL-ΣΑΣ 300\u212A" = "istanbul-300k"
      ∧ IsLabelText "istanbul-300k" := by
  have hcase : SameButCase "İstanbul-ΣΑΣ 300\u212A" "İSTANBUL-ΣΑΣ 300\u212A" := by
    unfold SameButCase
    decide
  obtain ⟨-, -, hsame, -, -, -, -⟩ :=
    normalize_homomorphism "İstanbul-ΣΑΣ 300\u212A" "İSTANBUL-ΣΑΣ 300\u212A"
  have hvalue : normalize "İSTANBUL-ΣΑΣ 300\u212A" = "istanbul-300k" := by
    rw [← String.toList_inj, toList_normalize]
    decide
  refine ⟨hcase, hsame hcase, hvalue, ?_⟩
  rw [← hvalue]
  exact isLabelText_normalize _

end LabelRules
