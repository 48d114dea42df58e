import LabelRules.Proofs.Parsing.Offences

set_option autoImplicit false

/-! # Numbers can always be read

The characters of a number are found by a loop that goes over digits and underscores, and over one
point if a digit comes after it (`collects`); it takes as many as the longest whole part and the
longest fraction have together (`numberLength_eq_collects`). So what is collected after a digit,
whatever it is, is one run of digits without its underscores, or two with a point between, and no
text has a number in it that cannot be read (`tokenize_ne_invalidNumber`).
-/

namespace LabelRules

open Lexer

namespace Lexer

/-! ## The loop -/

/-- How many characters are collected one by one for a number. A point is taken once and only if a
digit comes after it. -/
def collects (seenPoint : Bool) : List Char → Nat
  | [] => 0
  | c :: cs =>
    if continuesNumber c then collects seenPoint cs + 1
    else if c = '.' ∧ seenPoint = false ∧ cs.head?.any Char.isDigit then collects true cs + 1
    else 0

/-- After the point only digits and underscores are collected. -/
theorem collects_true (cs : List Char) :
    collects true cs = (cs.takeWhile continuesNumber).length := by
  induction cs with
  | nil => rfl
  | cons c cs ih =>
      rw [collects, List.takeWhile_cons]
      cases hc : continuesNumber c with
      | true => simp [ih]
      | false => simp

theorem numberLength_cons {c : Char} (hc : continuesNumber c = true) (cs : List Char) :
    numberLength (c :: cs) = numberLength cs + 1 := by
  rw [numberLength_eq, numberLength_eq, List.takeWhile_cons, if_pos hc, List.length_cons,
    List.drop_succ_cons]
  omega

/-- The loop collects the whole part and then the fraction. -/
theorem numberLength_eq_collects (cs : List Char) : numberLength cs = collects false cs := by
  induction cs with
  | nil => rfl
  | cons c cs ih =>
      rw [collects]
      cases hc : continuesNumber c with
      | true => rw [numberLength_cons hc, ih, if_pos rfl]
      | false =>
          rw [numberLength_eq, List.takeWhile_cons, if_neg (by simp [hc]), collects_true]
          cases cs with
          | nil => simp [fractionLength]
          | cons d rest => simp [fractionLength]

/-! ## What is collected is read -/

/-- No token fails for a number in it. -/
theorem scan_ne_invalidNumber (position : Nat) (c : Char) (cs : List Char) (literal : String)
    (start : Nat) : scan position c cs ≠ .error (.invalidNumber literal start) := by
  intro h
  unfold scan at h
  split at h
  · cases h
  split at h
  · cases hread : quoted c position (position + 1) cs <;> rw [hread] at h <;> cases h
    obtain ⟨_, _, -, ⟨he, -⟩ | ⟨_, _, -, -, he⟩⟩ := quoted_error hread
    · cases he
    · cases he
  split at h
  · cases hread : raw position cs <;> rw [hread] at h <;> cases h
    obtain ⟨he, -⟩ := raw_error hread
    cases he
  split at h
  · next hdigit =>
    obtain ⟨x, hx⟩ := exists_number hdigit position cs
    simp only [hx] at h
    cases h
  split at h
  · cases h
  · cases h

end Lexer

/-- **No number is invalid.** No text fails for a number that cannot be read. For whatever comes
after a digit, what the loop collects is a number: without its underscores it is a run of digits, or
two runs of digits with a point between, and this has a value. -/
theorem tokenize_ne_invalidNumber (text : String) :
    (∀ literal position, tokenize text ≠ .error (.invalidNumber literal position))
    ∧ ∀ (c : Char) (cs : List Char), c.isDigit = true →
      numberLength cs = collects false cs
        ∧ IsDecimal ((c :: cs.take (collects false cs)).filter (· != '_'))
        ∧ ∃ x, readDecimal ((c :: cs.take (collects false cs)).filter (· != '_')) = some x := by
  refine ⟨fun literal position h => ?_, fun c cs hdigit => ?_⟩
  · obtain ⟨before, c, after, tokens, -, -, hscan⟩ := stopsWith_of_error text.toList h
    exact scan_ne_invalidNumber _ c after literal position hscan
  · obtain ⟨x, hx⟩ := exists_value_of_isNumeral (isNumeral_take hdigit cs)
    rw [numberLength_eq_collects] at hx
    exact ⟨numberLength_eq_collects cs, isDecimal_of_readDecimal hx, x, hx⟩

/-- Of `1_.5.2` the second point is left, though a digit comes after it. -/
theorem tokenize_ne_invalidNumber_points :
    ('1' :: "_.5.2".toList.take (collects false "_.5.2".toList)).filter (· != '_') = "1.5".toList
    ∧ (∀ literal position, tokenize "1_.5.2" ≠ .error (.invalidNumber literal position))
    ∧ numberLength "_.5.2".toList = 3 ∧ IsDecimal "1.5".toList
    ∧ ∃ x, readDecimal "1.5".toList = some x := by
  have hcollects : collects false "_.5.2".toList = 3 := by decide
  have hliteral : ('1' :: "_.5.2".toList.take 3).filter (· != '_') = "1.5".toList := by decide
  obtain ⟨htext, hnumber⟩ := tokenize_ne_invalidNumber "1_.5.2"
  obtain ⟨hlength, hdecimal, hvalue⟩ := hnumber '1' "_.5.2".toList (by decide)
  rw [hcollects, hliteral] at hdecimal hvalue
  rw [hcollects] at hlength ⊢
  exact ⟨hliteral, htext, hlength, hdecimal, hvalue⟩

end LabelRules
