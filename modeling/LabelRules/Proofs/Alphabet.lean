import LabelRules.Unicode.Alphabet

set_option autoImplicit false

/-! # Blanks are no letters

A code point that the halving search finds lies in one of the ranges of the set
(`CharSet.exists_of_containsCode`), so that two sets are disjoint if their ranges are. Blanks are
neither letters nor numerals (`isLetterOrNumeral_of_isBlank`).
-/

namespace LabelRules

namespace CharSet

/-- The search keeps to its left a range that starts at or before the code point. -/
theorem first_le_of_rankFrom (ranges : Array (Nat × Nat)) (code lo hi : Nat)
    (hlo : lo = 0 ∨ ∃ r, ranges[lo - 1]? = some r ∧ r.1 ≤ code) :
    rankFrom ranges code lo hi = 0
      ∨ ∃ r, ranges[rankFrom ranges code lo hi - 1]? = some r ∧ r.1 ≤ code := by
  fun_induction rankFrom ranges code lo hi with
  | case1 lo hi hlt mid first last hmid hle ih => exact ih (.inr ⟨_, hmid, hle⟩)
  | case2 lo hi hlt mid first last hmid hle ih => exact ih hlo
  | case3 lo hi hlt mid hmid => exact hlo
  | case4 lo hi hlt => exact hlo

theorem exists_of_containsCode {s : CharSet} {code : Nat} (h : s.containsCode code = true) :
    ∃ r ∈ s.ranges.toList, r.1 ≤ code ∧ code ≤ r.2 := by
  have hfirst := first_le_of_rankFrom s.ranges code 0 s.ranges.size (.inl rfl)
  unfold containsCode at h
  split at h
  · cases h
  next i hi =>
  split at h
  · next first last hrange =>
      rw [hi] at hfirst
      obtain ⟨r, hr, hle⟩ := hfirst.resolve_left (Nat.succ_ne_zero i)
      obtain rfl := Option.some.inj (hr.symm.trans hrange)
      exact ⟨_, Array.mem_toList_iff.2 (Array.mem_of_getElem? hr), hle, of_decide_eq_true h⟩
  · cases h

/-- The numbers of a line, read from its characters. -/
theorem numbers_ofList (cs : List Char) :
    numbers (String.ofList cs)
      = (let step (state : List Nat × Nat) (c : Char) : List Nat × Nat :=
          if c = ' ' then (state.2 :: state.1, 0) else (state.1, state.2 * 36 + digitValue c)
        let (done, last) := cs.foldl step ([], 0)
        (last :: done).reverse) := by
  unfold numbers
  rw [String.toList_ofList]

/-- None of some code points is in any range of a set. -/
def avoids (s : CharSet) (codes : List Nat) : Bool :=
  s.ranges.toList.all fun r => codes.all fun n => n < r.1 || r.2 < n

theorem containsCode_of_avoids {s : CharSet} {codes : List Nat} (h : s.avoids codes = true)
    {n : Nat} (hn : n ∈ codes) : s.containsCode n = false := by
  rw [Bool.eq_false_iff]
  intro hcontains
  obtain ⟨r, hr, hfirst, hlast⟩ := exists_of_containsCode hcontains
  have hapart := List.all_eq_true.1 (List.all_eq_true.1 h r hr) n hn
  simp only [Bool.or_eq_true, decide_eq_true_eq] at hapart
  omega

end CharSet

/-! ## The tables -/

/-- The code points of the blanks from 128 on. -/
def wideBlanks : List Nat :=
  [0x85, 0xA0, 0x1680, 0x2000, 0x2001, 0x2002, 0x2003, 0x2004, 0x2005, 0x2006, 0x2007, 0x2008,
    0x2009, 0x200A, 0x2028, 0x2029, 0x202F, 0x205F, 0x3000]

theorem letters_avoids : letters.avoids wideBlanks = true := by
  unfold letters CharSet.ofRuns
  simp only [List.flatMap_cons, List.flatMap_nil]
  repeat rw [CharSet.numbers_ofList]
  decide +kernel

theorem numerals_avoids : numerals.avoids wideBlanks = true := by
  unfold numerals CharSet.ofRuns
  simp only [List.flatMap_cons, List.flatMap_nil]
  repeat rw [CharSet.numbers_ofList]
  decide +kernel

theorem isLetterOrNumeral_of_isLetter {c : Char} (h : isLetter c = true) :
    isLetterOrNumeral c = true := by
  unfold isLetter at h
  unfold isLetterOrNumeral
  split at h
  · next hc => simp [hc, Char.isAlphanum, h]
  · next hc => simp [hc, h]

theorem isAlpha_iff_toNat {c : Char} :
    c.isAlpha = true ↔ (65 ≤ c.toNat ∧ c.toNat ≤ 90) ∨ (97 ≤ c.toNat ∧ c.toNat ≤ 122) := by
  have hupper : c.isUpper = true ↔ 65 ≤ c.toNat ∧ c.toNat ≤ 90 :=
    @decide_eq_true_iff (c.val ≥ 'A'.val ∧ c.val ≤ 'Z'.val) _
  have hlower : c.isLower = true ↔ 97 ≤ c.toNat ∧ c.toNat ≤ 122 :=
    Bool.and_eq_true_iff.trans (and_congr decide_eq_true_iff decide_eq_true_iff)
  rw [← hupper, ← hlower]
  exact Bool.or_eq_true_iff

theorem isLetterOrNumeral_of_isDigit {c : Char} (h : c.isDigit = true) :
    isLetterOrNumeral c = true := by
  have hdigit : 48 ≤ c.toNat ∧ c.toNat ≤ 57 := Char.isDigit_iff_toNat.1 h
  have hc : c.toNat < 128 := by omega
  simp [isLetterOrNumeral, hc, Char.isAlphanum, h]

theorem isLetter_of_isDigit {c : Char} (h : c.isDigit = true) : isLetter c = false := by
  have hdigit : 48 ≤ c.toNat ∧ c.toNat ≤ 57 := Char.isDigit_iff_toNat.1 h
  have hc : c.toNat < 128 := by omega
  have halpha : ¬ c.isAlpha = true := by
    rw [isAlpha_iff_toNat]
    omega
  simp [isLetter, hc, halpha]

theorem isLetterOrNumeral_of_isBlank {c : Char} (h : isBlank c = true) :
    isLetterOrNumeral c = false := by
  simp only [isBlank, Bool.or_eq_true, Bool.and_eq_true, beq_iff_eq, decide_eq_true_eq] at h
  unfold isLetterOrNumeral
  split
  · next hc =>
      have halpha : ¬ c.isAlpha = true := by
        rw [isAlpha_iff_toNat]
        omega
      have hdigit : ¬ c.isDigit = true := by
        intro hd
        have hcodes : 48 ≤ c.toNat ∧ c.toNat ≤ 57 := Char.isDigit_iff_toNat.1 hd
        omega
      simp [Char.isAlphanum, halpha, hdigit]
  · next hc =>
      have hwide : c.toNat ∈ wideBlanks := by
        simp only [wideBlanks, List.mem_cons, List.not_mem_nil]
        omega
      have hletters := CharSet.containsCode_of_avoids letters_avoids hwide
      have hnumerals := CharSet.containsCode_of_avoids numerals_avoids hwide
      exact Bool.or_eq_false_iff.2 ⟨hletters, hnumerals⟩

end LabelRules
