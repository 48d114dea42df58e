import LabelRules.Document.Scalar
import LabelRules.Document.Writer
import Mathlib.Tactic.Ring

set_option autoImplicit false

/-! # Texts in double quotes

A text that is written in double quotes is read back as it was, whatever characters it has
(`doubleQuoted_quote`). A character that is not written as itself is written by its number in base
16, and the digits of a number are read as that number (`foldl_hexDigits`).
-/

namespace LabelRules.Document

/-! ## Characters in a line -/

/-- A character that stays itself and in its line when it is placed. -/
def staysInLine (c : Char) : Bool := !isBreak c && c ≠ '\r' && c ≠ nextLine

/-- The place after some characters that stay in their line. -/
def Place.advance (p : Place) (n : Nat) : Place := ⟨p.index + n, p.line, p.column + n⟩

@[simp] theorem Place.advance_zero (p : Place) : p.advance 0 = p := rfl

@[simp] theorem Place.advance_advance (p : Place) (m n : Nat) :
    (p.advance m).advance n = p.advance (m + n) := by
  simp [Place.advance, Nat.add_assoc]

@[simp] theorem Place.next_eq_advance (p : Place) : p.next = p.advance 1 := rfl

@[simp] theorem Place.advance_line (p : Place) (n : Nat) : (p.advance n).line = p.line := rfl

@[simp] theorem Place.advance_column (p : Place) (n : Nat) :
    (p.advance n).column = p.column + n := rfl

@[simp] theorem placeFrom_nil (p : Place) : placeFrom p [] = ([], p) := rfl

theorem placeFrom_cons {c : Char} (h : staysInLine c = true) (p : Place) (cs : List Char) :
    placeFrom p (c :: cs) = (⟨c, p⟩ :: (placeFrom p.next cs).1, (placeFrom p.next cs).2) := by
  simp only [staysInLine, Bool.and_eq_true, Bool.not_eq_true', decide_eq_true_eq] at h
  obtain ⟨⟨hbreak, hreturn⟩, hnext⟩ := h
  rw [placeFrom]
  · simp [hbreak, hreturn, hnext]
  · rintro rest rfl
    exact absurd rfl hreturn

theorem placeFrom_newline (p : Place) (cs : List Char) :
    placeFrom p ('\n' :: cs)
      = (⟨'\n', p⟩ :: (placeFrom (p.nextLine 1) cs).1, (placeFrom (p.nextLine 1) cs).2) := by
  rw [placeFrom]
  · rfl
  · simp

theorem placeFrom_append {cs : List Char} (h : ∀ c ∈ cs, staysInLine c = true) (p : Place)
    (more : List Char) :
    placeFrom p (cs ++ more)
      = ((placeFrom p cs).1 ++ (placeFrom (p.advance cs.length) more).1,
          (placeFrom (p.advance cs.length) more).2) := by
  induction cs generalizing p with
  | nil => rfl
  | cons c cs ih =>
      have hc := h c List.mem_cons_self
      have hcs : ∀ c ∈ cs, staysInLine c = true := fun c hc => h c (List.mem_cons_of_mem _ hc)
      rw [List.cons_append, placeFrom_cons hc, placeFrom_cons hc, ih hcs]
      simp [Nat.add_comm 1]

/-- What is placed are the characters. -/
theorem map_char_placeFrom {cs : List Char} (h : ∀ c ∈ cs, staysInLine c = true) (p : Place) :
    (placeFrom p cs).1.map (·.char) = cs := by
  induction cs generalizing p with
  | nil => rfl
  | cons c cs ih =>
      rw [placeFrom_cons (h c List.mem_cons_self), List.map_cons,
        ih fun c hc => h c (List.mem_cons_of_mem _ hc)]

theorem length_placeFrom {cs : List Char} (h : ∀ c ∈ cs, staysInLine c = true) (p : Place) :
    (placeFrom p cs).1.length = cs.length := by
  have hlength := congrArg List.length (map_char_placeFrom h p)
  rwa [List.length_map] at hlength

/-! ## Numbers in base 16 -/

theorem hexValue_hexDigit {n : Nat} (h : n < 16) : hexValue (hexDigit n) = n := by
  have : ∀ n < 16, hexValue (hexDigit n) = n := by decide
  exact this n h

/-- A digit is one, and stands for itself wherever it is written. -/
theorem hexDigit_written {n : Nat} (h : n < 16) :
    isHexDigit (hexDigit n) = true ∧ isAllowed (hexDigit n) = true
      ∧ staysInLine (hexDigit n) = true := by
  have : ∀ n < 16, isHexDigit (hexDigit n) = true ∧ isAllowed (hexDigit n) = true
      ∧ staysInLine (hexDigit n) = true := by decide
  exact this n h

@[simp] theorem length_hexDigits (width n : Nat) : (hexDigits width n).length = width := by
  simp [hexDigits]

theorem hexDigits_succ (width n : Nat) :
    hexDigits (width + 1) n = hexDigit (n / 16 ^ width % 16) :: hexDigits width n := by
  unfold hexDigits
  rw [List.range_succ_eq_map, List.map_cons, List.map_map]
  congr 1
  refine List.map_congr_left fun i hi => ?_
  have hwidth : width + 1 - 1 - (i + 1) = width - 1 - i := by omega
  rw [Function.comp_apply, Nat.succ_eq_add_one, hwidth]

theorem exists_of_mem_hexDigits {width n : Nat} {c : Char} (h : c ∈ hexDigits width n) :
    ∃ d < 16, c = hexDigit d := by
  obtain ⟨i, -, rfl⟩ := List.mem_map.1 h
  exact ⟨_, Nat.mod_lt _ (by decide), rfl⟩

/-- The digits of a number are read as the number, as far as they show it. -/
theorem foldl_hexDigits (width n start : Nat) :
    (hexDigits width n).foldl (fun m c => 16 * m + hexValue c) start
      = start * 16 ^ width + n % 16 ^ width := by
  induction width generalizing start with
  | zero => simp [hexDigits, Nat.mod_one]
  | succ width ih =>
      have hdigit : hexValue (hexDigit (n / 16 ^ width % 16)) = n / 16 ^ width % 16 :=
        hexValue_hexDigit (Nat.mod_lt _ (by decide))
      calc (hexDigits (width + 1) n).foldl (fun m c => 16 * m + hexValue c) start
          = (hexDigits width n).foldl (fun m c => 16 * m + hexValue c)
              (16 * start + n / 16 ^ width % 16) := by
            rw [hexDigits_succ, List.foldl_cons, hdigit]
        _ = (16 * start + n / 16 ^ width % 16) * 16 ^ width + n % 16 ^ width := ih _
        _ = start * 16 ^ (width + 1) + n % 16 ^ (width + 1) := by
            rw [pow_succ, Nat.mod_mul]
            ring

/-! ## Characters in quotes -/

/-- The three ways in which a character is written. -/
theorem quoteCharacter_cases (c : Char) :
    (isPlainInQuotes c = true ∧ quoteCharacter c = [c])
      ∨ ((c = '"' ∨ c = '\\') ∧ quoteCharacter c = ['\\', c])
      ∨ quoteCharacter c = '\\' :: 'U' :: hexDigits 8 c.toNat := by
  unfold quoteCharacter
  split
  · next h => exact .inl ⟨h, rfl⟩
  · split
    · next h => exact .inr (.inl ⟨by simpa using h, rfl⟩)
    · exact .inr (.inr rfl)

/-- A character that is written for another may stand in a document, and stands for itself there. -/
theorem written_of_mem_quoteCharacter {c d : Char} (h : d ∈ quoteCharacter c) :
    isAllowed d = true ∧ staysInLine d = true := by
  obtain ⟨hplain, hc⟩ | ⟨hc, hquote⟩ | hcode := quoteCharacter_cases c
  · rw [hc, List.mem_singleton] at h
    subst h
    simp only [isPlainInQuotes, Bool.and_eq_true, decide_eq_true_eq] at hplain
    simp [staysInLine, hplain]
  · rw [hquote, List.mem_cons, List.mem_singleton] at h
    obtain rfl | rfl := h
    · decide
    · obtain rfl | rfl := hc <;> decide
  · rw [hcode, List.mem_cons, List.mem_cons] at h
    obtain rfl | rfl | h := h
    · decide
    · decide
    · obtain ⟨n, hn, rfl⟩ := exists_of_mem_hexDigits h
      exact (hexDigit_written hn).2

/-- The characters between the quotes of a text. -/
def quoteBody (cs : List Char) : List Char := cs.flatMap quoteCharacter

theorem written_of_mem_quoteBody {cs : List Char} {d : Char} (h : d ∈ quoteBody cs) :
    isAllowed d = true ∧ staysInLine d = true := by
  obtain ⟨c, -, hd⟩ := List.mem_flatMap.1 h
  exact written_of_mem_quoteCharacter hd

theorem toList_quote (text : String) :
    (quote text).toList = '"' :: (quoteBody text.toList ++ ['"']) := by
  simp [quote, quoteBody]

theorem written_of_mem_quote {text : String} {c : Char} (h : c ∈ (quote text).toList) :
    isAllowed c = true ∧ staysInLine c = true := by
  rw [toList_quote, List.mem_cons, List.mem_append, List.mem_singleton] at h
  obtain rfl | h | rfl := h
  · decide
  · exact written_of_mem_quoteBody h
  · decide

/-! ## Reading -/

/-- The number of a character is read as the character. -/
theorem codeEscape_hexDigits (p : Place) (c : Char) (more : List Char) :
    codeEscape 8 (placeFrom p (hexDigits 8 c.toNat ++ more)).1 = some c := by
  have hline : ∀ d ∈ hexDigits 8 c.toNat, staysInLine d = true := by
    intro d hd
    obtain ⟨n, hn, rfl⟩ := exists_of_mem_hexDigits hd
    exact (hexDigit_written hn).2.2
  have hdigits : ((placeFrom p (hexDigits 8 c.toNat ++ more)).1.take 8).map (·.char)
      = hexDigits 8 c.toNat := by
    rw [placeFrom_append hline, List.take_left' (by rw [length_placeFrom hline, length_hexDigits]),
      map_char_placeFrom hline]
  have hall : (hexDigits 8 c.toNat).all isHexDigit = true := by
    rw [List.all_eq_true]
    intro d hd
    obtain ⟨n, hn, rfl⟩ := exists_of_mem_hexDigits hd
    exact (hexDigit_written hn).1
  have hvalid : c.toNat.isValidChar := c.valid
  -- Eight digits are enough for the number of a character.
  have hcode : (hexDigits 8 c.toNat).foldl (fun n c => 16 * n + hexValue c) 0 = c.toNat := by
    have hsmall : c.toNat < 16 ^ 8 := by
      have := UInt32.toNat_lt c.val
      show c.val.toNat < 16 ^ 8
      omega
    rw [foldl_hexDigits, Nat.mod_eq_of_lt hsmall]
    omega
  unfold codeEscape
  simp only [hdigits, length_hexDigits, hall, hcode, hvalid, Char.ofNat_toNat]
  rfl

/-- The characters of an escape that has been read are passed over. -/
theorem doubleQuoted_skip {cs : List Char} (h : ∀ c ∈ cs, staysInLine c = true)
    (text : List Char) (gap : Gap) (p : Place) (more : List Char) :
    doubleQuoted text gap cs.length (placeFrom p (cs ++ more)).1
      = doubleQuoted text gap 0 (placeFrom (p.advance cs.length) more).1 := by
  induction cs generalizing p with
  | nil => rfl
  | cons c cs ih =>
      rw [List.cons_append, placeFrom_cons (h c List.mem_cons_self), List.length_cons,
        doubleQuoted, if_pos (Nat.succ_ne_zero _), Nat.add_sub_cancel,
        ih fun c hc => h c (List.mem_cons_of_mem _ hc), Place.next_eq_advance,
        Place.advance_advance, Nat.add_comm 1]

/-- A marker starts at the start of a line, and with its character. -/
theorem isMarker_eq_false {c d : Char} {p : Place} (h : p.column ≠ 0 ∨ c ≠ d)
    (rest : List Placed) : isMarker d (⟨c, p⟩ :: rest) = false := by
  unfold isMarker
  split
  · next hp =>
    cases hp
    obtain h | h := h <;> simp [h]
  · rfl

theorem isAnyMarker_of_column {p : Place} (h : p.column ≠ 0) (c : Char) (rest : List Placed) :
    isAnyMarker (⟨c, p⟩ :: rest) = false := by
  simp [isAnyMarker, isMarker_eq_false (.inl h)]

section Step

variable (text blanks : List Char) {p : Place} (hp : p.column ≠ 0) (more : List Char)

theorem doubleQuoted_space :
    doubleQuoted text (.blanks blanks) 0 (placeFrom p (' ' :: more)).1
      = doubleQuoted text (.blanks (' ' :: blanks)) 0 (placeFrom p.next more).1 := by
  rw [placeFrom_cons (by decide), doubleQuoted]
  rfl

include hp

theorem doubleQuoted_plain {c : Char} (h : isPlainInQuotes c = true) (hspace : c ≠ ' ') :
    doubleQuoted text (.blanks blanks) 0 (placeFrom p (c :: more)).1
      = doubleQuoted (c :: (blanks ++ text)) .none 0 (placeFrom p.next more).1 := by
  have hline : staysInLine c = true := (written_of_mem_quoteCharacter (c := c)
    (by simp [quoteCharacter, h])).2
  simp only [isPlainInQuotes, Bool.and_eq_true, decide_eq_true_eq, Bool.not_eq_true'] at h
  have hspacing : isSpacing c = false := by simp [isSpacing, isBlank, h, hspace]
  rw [placeFrom_cons hline, doubleQuoted]
  simp [hspacing, isAnyMarker_of_column hp, h, Gap.text]

/-- A quote or a backslash after a backslash stands for itself. -/
theorem doubleQuoted_escape {c : Char} (h : c = '"' ∨ c = '\\') :
    doubleQuoted text (.blanks blanks) 0 (placeFrom p ('\\' :: c :: more)).1
      = doubleQuoted (c :: (blanks ++ text)) .none 0 (placeFrom (p.advance 2) more).1 := by
  have hline : staysInLine c = true := by obtain rfl | rfl := h <;> decide
  have hbreak : isBreak c = false := by obtain rfl | rfl := h <;> decide
  have hescaped : escaped? c = some c := by obtain rfl | rfl := h <;> rfl
  have hall : ∀ d ∈ [c], staysInLine d = true := by simpa using hline
  have hskip := doubleQuoted_skip hall (c :: (blanks ++ text)) .none (p.advance 1) more
  rw [List.singleton_append, placeFrom_cons hline] at hskip
  have hspacing : isSpacing '\\' = false := by decide
  rw [placeFrom_cons (by decide), placeFrom_cons hline, doubleQuoted]
  simp [isAnyMarker_of_column hp, hspacing, hbreak, hescaped, Gap.text]
  simpa using hskip

/-- A character that is written by its number. -/
theorem doubleQuoted_code (c : Char) :
    doubleQuoted text (.blanks blanks) 0
        (placeFrom p ('\\' :: 'U' :: (hexDigits 8 c.toNat ++ more))).1
      = doubleQuoted (c :: (blanks ++ text)) .none 0 (placeFrom (p.advance 10) more).1 := by
  have hline : ∀ d ∈ 'U' :: hexDigits 8 c.toNat, staysInLine d = true := by
    intro d hd
    obtain rfl | hd := List.mem_cons.1 hd
    · decide
    · obtain ⟨n, hn, rfl⟩ := exists_of_mem_hexDigits hd
      exact (hexDigit_written hn).2.2
  have hskip := doubleQuoted_skip hline (c :: (blanks ++ text)) .none (p.advance 1) more
  rw [List.cons_append, placeFrom_cons (by decide)] at hskip
  have hcode := codeEscape_hexDigits (p.advance 2) c more
  have hspacing : isSpacing '\\' = false := by decide
  have hbreak : isBreak 'U' = false := by decide
  rw [placeFrom_cons (by decide), placeFrom_cons (by decide), doubleQuoted]
  simp [isAnyMarker_of_column hp, hspacing, hbreak, escaped?, escapeWidth?, hcode,
    Gap.text]
  simpa using hskip

end Step

/-- **A text in double quotes is read as the text**, whatever its characters are. -/
theorem doubleQuoted_quoteBody (cs text blanks : List Char) {p : Place} (hp : p.column ≠ 0)
    (more : List Char) :
    doubleQuoted text (.blanks blanks) 0 (placeFrom p (quoteBody cs ++ '"' :: more)).1
      = .ok (String.ofList ((blanks ++ text).reverse ++ cs),
          (placeFrom (p.advance ((quoteBody cs).length + 1)) more).1) := by
  induction cs generalizing text blanks p with
  | nil =>
      show doubleQuoted text (.blanks blanks) 0 (placeFrom p ('"' :: more)).1 = _
      have hspacing : isSpacing '"' = false := by decide
      rw [placeFrom_cons (by decide), doubleQuoted]
      simp [isAnyMarker_of_column hp, hspacing, Gap.text, quoteBody]
  | cons c cs ih =>
      have hbody : quoteBody (c :: cs) = quoteCharacter c ++ quoteBody cs := rfl
      rw [hbody, List.append_assoc, List.length_append]
      by_cases hspace : c = ' '
      · -- A space waits among the blanks until a character follows that is none.
        subst hspace
        have hquote : quoteCharacter ' ' = [' '] := by decide
        rw [hquote, List.singleton_append, doubleQuoted_space, ih _ _ (by simp)]
        simp [Nat.add_comm]
      obtain ⟨hplain, hquote⟩ | ⟨hc, hquote⟩ | hquote := quoteCharacter_cases c
      · rw [hquote, List.singleton_append, doubleQuoted_plain text blanks hp _ hplain hspace,
          Gap.none, ih _ _ (by simp)]
        simp [Nat.add_comm]
      · rw [hquote, List.cons_append, List.singleton_append,
          doubleQuoted_escape text blanks hp _ hc, Gap.none, ih _ _ (by simp)]
        simp [Nat.add_comm, Nat.add_left_comm]
      · rw [hquote, List.cons_append, List.cons_append, doubleQuoted_code text blanks hp,
          Gap.none, ih _ _ (by simp)]
        simp [Nat.add_comm, Nat.add_left_comm]

/-- After its first quote, a quoted text is read up to its last one. -/
theorem doubleQuoted_quote (text : String) (p : Place) (more : List Char) :
    doubleQuoted [] .none 0 (placeFrom (p.advance 1) (quoteBody text.toList ++ '"' :: more)).1
      = .ok (text, (placeFrom (p.advance (quote text).toList.length) more).1) := by
  have hlength : (quote text).toList.length = 1 + ((quoteBody text.toList).length + 1) := by
    rw [toList_quote, List.length_cons, List.length_append, Nat.add_comm 1]
    rfl
  have hcolumn : (p.advance 1).column ≠ 0 := Nat.succ_ne_zero _
  rw [Gap.none, doubleQuoted_quoteBody _ _ _ hcolumn, Place.advance_advance, hlength]
  simp

end LabelRules.Document
