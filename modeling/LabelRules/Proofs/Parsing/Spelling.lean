import LabelRules.Proofs.Alphabet
import LabelRules.Proofs.Numbers
import LabelRules.Text.Lexer

set_option autoImplicit false

/-! # How tokens are written

`Spells` says which characters write a token: a numeral may have underscores, a string stands
between two quotes of either kind, with escapes, or between backticks, without. What `scan` takes
from a text writes the token that it returns (`spells_of_scan`), and characters that write a token
are taken for it wherever the next character would not go on with it (`TokenKind.Spells.scans`).
-/

namespace LabelRules

open Lexer

/-! ## Tokens that can be written -/

/-- A letter or an underscore, and after it letters, numerals and underscores. -/
def isIdentifier (name : String) : Bool :=
  match name.toList with
  | [] => false
  | c :: cs => startsWord c && cs.all continuesWord

/-- The words are identifiers, and the numbers are numbers. -/
def TokenKind.IsLexical : TokenKind → Prop
  | .word name => isIdentifier name = true
  | .number x => x.isNaN = false
  | .string _ | .symbol _ => True
  | .stop => False

/-- A digit, and after it digits and underscores. -/
def isDigitRun : List Char → Bool
  | [] => false
  | c :: cs => c.isDigit && cs.all continuesNumber

/-- A run of digits and underscores, or two of them with a point between. Each starts with a
digit. -/
inductive IsNumeral : List Char → Prop where
  | whole {cs : List Char} (h : isDigitRun cs = true) : IsNumeral cs
  | fraction {cs ds : List Char} (hcs : isDigitRun cs = true) (hds : isDigitRun ds = true) :
      IsNumeral (cs ++ '.' :: ds)

/-- A character of a string between quotes. -/
def escaped (quote c : Char) : List Char := if c = '\\' ∨ c = quote then ['\\', c] else [c]

/-- The characters between two quotes that write a string: a character stands for itself, or for
another one after a backslash. -/
inductive Escapes (quote : Char) : List Char → List Char → Prop where
  | nil : Escapes quote [] []
  | plain {c : Char} {written s : List Char} (hquote : c ≠ quote) (hbackslash : c ≠ '\\')
      (h : Escapes quote written s) : Escapes quote (c :: written) (c :: s)
  | escape {c u : Char} {written s : List Char} (hu : unescape c = some u)
      (h : Escapes quote written s) : Escapes quote ('\\' :: c :: written) (u :: s)

/-- The characters write the token. A number is the value of its numeral without the
underscores. -/
inductive TokenKind.Spells : TokenKind → List Char → Prop where
  | word {name : String} (h : isIdentifier name = true) : Spells (.word name) name.toList
  | number {cs : List Char} {x : Float} (hcs : IsNumeral cs)
      (hx : readDecimal (cs.filter (· != '_')) = some x) : Spells (.number x) cs
  | quoted {quote : Char} {written s : List Char} (hquote : quote = '"' ∨ quote = '\x27')
      (h : Escapes quote written s) :
      Spells (.string (String.ofList s)) (quote :: (written ++ [quote]))
  | raw {s : List Char} (h : rawQuote ∉ s) :
      Spells (.string (String.ofList s)) (rawQuote :: (s ++ [rawQuote]))
  | symbol (s : Symbol) : Spells (.symbol s) s.spelling.toList

theorem TokenKind.Spells.isLexical {k : TokenKind} {written : List Char} (h : k.Spells written) :
    k.IsLexical := by
  cases h with
  | word h => exact h
  | number _ hx => exact Number.isNaN_of_readDecimal hx
  | quoted | raw | symbol => trivial

theorem TokenKind.Spells.ne_stop {k : TokenKind} {written : List Char} (h : k.Spells written) :
    k ≠ .stop := by
  rintro rfl
  cases h

/-! ## Classes of characters -/

namespace Lexer

/-- The characters of the symbols. -/
def symbolChars : List Char :=
  ['!', '<', '>', '=', '&', '|', '(', ')', '[', ']', ',', '.', '?', ':', '+', '-', '*', '/', '%']

theorem notMem_of_all {p : Char → Bool} {cs : List Char} (hcs : cs.all (fun d => !p d) = true)
    {c : Char} (h : p c = true) : c ∉ cs := by
  intro hc
  have hnone := List.all_eq_true.1 hcs c hc
  rw [h] at hnone
  cases hnone

theorem pairSymbol?_of_notMem {c : Char} (h : c ∉ symbolChars) (d : Char) :
    pairSymbol? c d = none := by
  unfold pairSymbol?
  split <;> first | exact absurd (by decide) h | rfl

theorem symbol?_of_notMem {c : Char} (h : c ∉ symbolChars) (cs : List Char) :
    symbol? c cs = none := by
  have hsingle : singleSymbol? c = none := by
    unfold singleSymbol?
    split <;> first | exact absurd (by decide) h | rfl
  unfold symbol?
  cases cs with
  | nil => simp [hsingle]
  | cons d ds => simp [pairSymbol?_of_notMem h, hsingle]

theorem isBlank_of_isLetterOrNumeral {c : Char} (h : isLetterOrNumeral c = true) :
    isBlank c = false := by
  rw [Bool.eq_false_iff]
  intro hblank
  rw [isLetterOrNumeral_of_isBlank hblank] at h
  cases h

theorem isBlank_of_startsWord {c : Char} (h : startsWord c = true) : isBlank c = false := by
  rcases Bool.or_eq_true_iff.1 h with hletter | hunderscore
  · exact isBlank_of_isLetterOrNumeral (isLetterOrNumeral_of_isLetter hletter)
  · rw [beq_iff_eq.1 hunderscore]
    decide

theorem isBlank_of_isDigit {c : Char} (h : c.isDigit = true) : isBlank c = false :=
  isBlank_of_isLetterOrNumeral (isLetterOrNumeral_of_isDigit h)

/-- A run of characters of a class ends where one follows that is not in it. -/
theorem takeWhile_append_of_ends {p : Char → Bool} {run rest : List Char}
    (hrun : ∀ c ∈ run, p c = true) (hrest : ∀ c ∈ rest.head?, p c = false) :
    (run ++ rest).takeWhile p = run := by
  rw [List.takeWhile_append_of_pos hrun]
  cases rest with
  | nil => simp
  | cons c cs =>
      have hc : p c = false := hrest c rfl
      simp [hc]

/-- As many characters as a run has are the run. -/
theorem take_length_takeWhile (p : Char → Bool) (cs : List Char) :
    cs.take (cs.takeWhile p).length = cs.takeWhile p :=
  (List.prefix_iff_eq_take.1 (List.takeWhile_prefix p)).symm

end Lexer

/-! ## Where a token ends -/

/-- A character that would go on with the token if it came right after it. -/
def TokenKind.goesOn : TokenKind → Char → Bool
  | .word _, c => continuesWord c
  | .number _, c => continuesNumber c || c == '.'
  | .symbol s, c =>
    match s.spelling.toList with
    | [first] => (pairSymbol? first c).isSome
    | _ => false
  | .string _, _ | .stop, _ => false

/-- The token ends before some characters. -/
def TokenKind.endsBefore (k : TokenKind) (rest : List Char) : Bool :=
  rest.head?.all fun c => !k.goesOn c

theorem TokenKind.goesOn_of_endsBefore {k : TokenKind} {rest : List Char}
    (h : k.endsBefore rest = true) : ∀ c ∈ rest.head?, k.goesOn c = false := by
  intro c hc
  simpa using (Option.all_eq_true _ _).1 h c hc

/-- Before the rest of a text, the characters are cut off as a token of the kind. -/
def Scans (k : TokenKind) (written rest : List Char) : Prop :=
  ∃ c tail, written = c :: tail ∧ isBlank c = false
    ∧ ∀ position, scan position c (tail ++ rest) = .ok (k, tail.length)

namespace Lexer

variable {rest : List Char}

/-! ## Symbols -/

theorem spelling_eq (s : Symbol) :
    (∃ c, s.spelling.toList = [c] ∧ isBlank c = false ∧ singleSymbol? c = some s)
      ∨ ∃ c d, s.spelling.toList = [c, d] ∧ isBlank c = false ∧ pairSymbol? c d = some s := by
  cases s <;>
    first
      | exact .inl ⟨_, rfl, by decide, rfl⟩
      | exact .inr ⟨_, _, rfl, by decide, rfl⟩

theorem spelling_of_pairSymbol? {c d : Char} {s : Symbol} (h : pairSymbol? c d = some s) :
    s.spelling.toList = [c, d] := by
  unfold pairSymbol? at h
  split at h <;> cases h <;> rfl

theorem spelling_of_singleSymbol? {c : Char} {s : Symbol} (h : singleSymbol? c = some s) :
    s.spelling.toList = [c] := by
  unfold singleSymbol? at h
  split at h <;> cases h <;> rfl

theorem spelling_of_symbol? {c : Char} {cs : List Char} {s : Symbol} {n : Nat}
    (h : symbol? c cs = some (s, n)) : s.spelling.toList = c :: cs.take n := by
  unfold symbol? at h
  split at h
  · next s' hpair =>
    cases h
    obtain ⟨d, hd, hpair⟩ := Option.bind_eq_some_iff.1 hpair
    obtain ⟨ds, rfl⟩ := List.head?_eq_some_iff.1 hd
    exact spelling_of_pairSymbol? hpair
  · obtain ⟨s', hsingle, hs⟩ := Option.map_eq_some_iff.1 h
    cases hs
    rw [spelling_of_singleSymbol? hsingle, List.take_zero]

theorem scans_symbol {s : Symbol} (hrest : (TokenKind.symbol s).endsBefore rest = true) :
    Scans (.symbol s) s.spelling.toList rest := by
  rcases spelling_eq s with ⟨c, hs, hblank, hsingle⟩ | ⟨c, d, hs, hblank, hpair⟩
  · refine ⟨c, [], hs, hblank, fun position => ?_⟩
    have hnone : rest.head?.bind (pairSymbol? c) = none := by
      cases rest with
      | nil => rfl
      | cons d ds =>
          have hgoes : (pairSymbol? c d).isSome = false := by
            have hsome := TokenKind.goesOn_of_endsBefore hrest d rfl
            rwa [TokenKind.goesOn, hs] at hsome
          simpa using hgoes
    simp [scan, symbol?, hnone, hsingle]
  · refine ⟨c, [d], hs, hblank, fun position => ?_⟩
    simp [scan, symbol?, hpair]

/-! ## Words -/

theorem scan_of_startsWord {c : Char} (h : startsWord c = true) (position : Nat) (cs : List Char) :
    scan position c cs
      = .ok (.word (String.ofList (c :: cs.takeWhile continuesWord)),
          (cs.takeWhile continuesWord).length) := by
  have hother : c ∉ ['"', '\x27', rawQuote] := notMem_of_all (p := startsWord) (by decide) h
  have hdigit : c.isDigit = false := by
    rw [Bool.eq_false_iff]
    intro hd
    rcases Bool.or_eq_true_iff.1 h with hletter | hunderscore
    · rw [isLetter_of_isDigit hd] at hletter
      cases hletter
    · rw [beq_iff_eq.1 hunderscore] at hd
      cases hd
  unfold scan
  rw [symbol?_of_notMem (notMem_of_all (p := startsWord) (by decide) h)]
  simp only [List.mem_cons, List.not_mem_nil, not_or] at hother
  simp [hother, hdigit, h]

theorem scans_word {name : String} (hname : isIdentifier name = true)
    (hrest : (TokenKind.word name).endsBefore rest = true) :
    Scans (.word name) name.toList rest := by
  unfold isIdentifier at hname
  split at hname
  · cases hname
  next c tail hchars =>
  obtain ⟨hstart, htail⟩ := Bool.and_eq_true_iff.1 hname
  refine ⟨c, tail, hchars, isBlank_of_startsWord hstart, fun position => ?_⟩
  rw [scan_of_startsWord hstart,
    takeWhile_append_of_ends (List.all_eq_true.1 htail) (TokenKind.goesOn_of_endsBefore hrest),
    ← hchars, String.ofList_toList]

/-! ## Numbers -/

theorem all_continuesNumber_of_isDigitRun {cs : List Char} (h : isDigitRun cs = true) :
    ∀ c ∈ cs, continuesNumber c = true := by
  cases cs with
  | nil => cases h
  | cons c cs =>
      obtain ⟨hc, hcs⟩ := Bool.and_eq_true_iff.1 h
      exact List.forall_mem_cons.2 ⟨by simp [continuesNumber, hc], List.all_eq_true.1 hcs⟩

theorem isDigitRun_takeWhile {c : Char} (hc : c.isDigit = true) (cs : List Char) :
    isDigitRun (c :: cs.takeWhile continuesNumber) = true :=
  Bool.and_eq_true_iff.2 ⟨hc, List.all_takeWhile⟩

/-- What is taken after a digit is the rest of a numeral. -/
theorem isNumeral_take {c : Char} (hc : c.isDigit = true) (cs : List Char) :
    IsNumeral (c :: cs.take (numberLength cs)) := by
  unfold numberLength
  simp only
  split
  · next d rest hdrop =>
    have hcs : cs = cs.takeWhile continuesNumber ++ '.' :: d :: rest := by
      calc
        cs = cs.take (cs.takeWhile continuesNumber).length
              ++ cs.drop (cs.takeWhile continuesNumber).length := (List.take_append_drop _ cs).symm
        _ = cs.takeWhile continuesNumber ++ '.' :: d :: rest := by
            rw [take_length_takeWhile, hdrop]
    split
    · next hd =>
      have htake : cs.take ((cs.takeWhile continuesNumber).length + 1
            + ((d :: rest).takeWhile continuesNumber).length)
          = cs.takeWhile continuesNumber ++ '.' :: (d :: rest).takeWhile continuesNumber := by
        conv => lhs; arg 2; rw [hcs]
        rw [Nat.add_assoc, List.take_length_add_append, Nat.add_comm 1, List.take_succ_cons,
          take_length_takeWhile]
      have hcontinues : continuesNumber d = true := by simp [continuesNumber, hd]
      rw [htake, List.takeWhile_cons, if_pos hcontinues]
      exact .fraction (isDigitRun_takeWhile hc cs) (isDigitRun_takeWhile hd rest)
    · rw [take_length_takeWhile]
      exact .whole (isDigitRun_takeWhile hc cs)
  · rw [take_length_takeWhile]
    exact .whole (isDigitRun_takeWhile hc cs)

/-- All of a numeral is taken, and nothing of what follows. -/
theorem numberLength_append {c : Char} {tail : List Char} (h : IsNumeral (c :: tail)) {x : Float}
    (hrest : (TokenKind.number x).endsBefore rest = true) :
    c.isDigit = true ∧ numberLength (tail ++ rest) = tail.length := by
  have hgoes : ∀ d ∈ rest.head?, continuesNumber d = false ∧ d ≠ '.' := by
    intro d hd
    have hnone := TokenKind.goesOn_of_endsBefore hrest d hd
    simpa [TokenKind.goesOn] using hnone
  have hends : ∀ d ∈ rest.head?, continuesNumber d = false := fun d hd => (hgoes d hd).1
  generalize hcs : c :: tail = cs at h
  cases h with
  | whole h =>
      cases hcs
      obtain ⟨hdigit, htail⟩ := Bool.and_eq_true_iff.1 h
      refine ⟨hdigit, ?_⟩
      simp only [numberLength, takeWhile_append_of_ends (List.all_eq_true.1 htail) hends,
        List.drop_left]
      split
      · exact absurd rfl (hgoes '.' rfl).2
      · rfl
  | @fraction whole fraction hwhole hfraction =>
      cases whole with
      | nil => cases hwhole
      | cons w ws =>
          rw [List.cons_append] at hcs
          obtain ⟨rfl, rfl⟩ := List.cons.inj hcs
          obtain ⟨hdigit, hws⟩ := Bool.and_eq_true_iff.1 hwhole
          refine ⟨hdigit, ?_⟩
          -- The point is taken because a digit comes after it.
          cases fraction with
          | nil => cases hfraction
          | cons f fs =>
              have hf : f.isDigit = true := (Bool.and_eq_true_iff.1 hfraction).1
              have hpoint : ∀ d ∈ ('.' :: f :: (fs ++ rest)).head?, continuesNumber d = false := by
                rintro _ ⟨⟩
                decide
              have hfs : (f :: (fs ++ rest)).takeWhile continuesNumber = f :: fs :=
                takeWhile_append_of_ends (all_continuesNumber_of_isDigitRun hfraction) hends
              simp only [numberLength, List.append_assoc, List.cons_append,
                takeWhile_append_of_ends (List.all_eq_true.1 hws) hpoint, List.drop_left, hf,
                if_true, hfs, List.length_append, List.length_cons]
              omega

theorem scans_number {x : Float} {cs : List Char} (hcs : IsNumeral cs)
    (hx : readDecimal (cs.filter (· != '_')) = some x)
    (hrest : (TokenKind.number x).endsBefore rest = true) : Scans (.number x) cs rest := by
  cases cs with
  | nil => cases hx
  | cons c tail =>
      obtain ⟨hdigit, hlength⟩ := numberLength_append hcs hrest
      have hother : c ∉ ['"', '\x27', rawQuote] :=
        notMem_of_all (p := Char.isDigit) (by decide) hdigit
      refine ⟨c, tail, rfl, isBlank_of_isDigit hdigit, fun position => ?_⟩
      unfold scan
      rw [symbol?_of_notMem (notMem_of_all (p := Char.isDigit) (by decide) hdigit)]
      simp only [List.mem_cons, List.not_mem_nil, not_or] at hother
      simp only [hother, hdigit, hlength, number, or_false, if_false, if_true, List.take_left, hx]
      rfl

/-! ## Values of numerals -/

/-- A run of digits, or two of them with a point between. -/
def IsDecimal (cs : List Char) : Prop :=
  ∃ whole, isDigits whole = true
    ∧ (cs = whole ∨ ∃ fraction, isDigits fraction = true ∧ cs = whole ++ '.' :: fraction)

/-- What is read as a number is a decimal. -/
theorem isDecimal_of_readDecimal {cs : List Char} {x : Float} (h : readDecimal cs = some x) :
    IsDecimal cs := by
  have hcs : cs = cs.takeWhile (· != '.') ++ cs.dropWhile (· != '.') :=
    List.takeWhile_append_dropWhile.symm
  unfold readDecimal at h
  simp only at h
  split at h
  · next hdrop =>
    split at h
    · next hwhole => exact ⟨_, hwhole, .inl (by rw [hdrop, List.append_nil] at hcs; exact hcs)⟩
    · cases h
  · next point fraction hdrop =>
    split at h
    · next hdigits =>
      obtain ⟨hwhole, hfraction⟩ := Bool.and_eq_true_iff.1 hdigits
      have hpoint : point = '.' := by
        have hhead := List.head?_dropWhile_not (· != '.') cs
        rw [hdrop] at hhead
        simpa using hhead
      rw [hdrop, hpoint] at hcs
      exact ⟨_, hwhole, .inr ⟨fraction, hfraction, hcs⟩⟩
    · cases h

theorem isDigitRun_of_isDigits {cs : List Char} (h : isDigits cs = true) :
    isDigitRun cs = true := by
  cases cs with
  | nil => cases h
  | cons c cs =>
      obtain ⟨hc, hcs⟩ := List.forall_mem_cons.1 (List.all_eq_true.1 (Bool.and_eq_true_iff.1 h).2)
      refine Bool.and_eq_true_iff.2 ⟨hc, List.all_eq_true.2 fun d hd => ?_⟩
      simp [continuesNumber, hcs d hd]

theorem filter_of_isDigits {cs : List Char} (h : isDigits cs = true) :
    cs.filter (· != '_') = cs := by
  refine List.filter_eq_self.2 fun c hc => ?_
  have hdigit := List.all_eq_true.1 (Bool.and_eq_true_iff.1 h).2 c hc
  rw [bne_iff_ne]
  rintro rfl
  cases hdigit

/-- A decimal text is a numeral that has no underscores. -/
theorem isNumeral_of_readDecimal {cs : List Char} {x : Float} (h : readDecimal cs = some x) :
    IsNumeral cs ∧ cs.filter (· != '_') = cs := by
  obtain ⟨whole, hwhole, rfl | ⟨fraction, hfraction, rfl⟩⟩ := isDecimal_of_readDecimal h
  · exact ⟨.whole (isDigitRun_of_isDigits hwhole), filter_of_isDigits hwhole⟩
  · refine ⟨.fraction (isDigitRun_of_isDigits hwhole) (isDigitRun_of_isDigits hfraction), ?_⟩
    rw [List.filter_append, List.filter_cons, filter_of_isDigits hwhole,
      filter_of_isDigits hfraction]
    rfl

/-- Without its underscores a run of digits and underscores is a run of digits. -/
theorem isDigits_filter {cs : List Char} (h : isDigitRun cs = true) :
    isDigits (cs.filter (· != '_')) = true := by
  cases cs with
  | nil => cases h
  | cons c cs =>
      obtain ⟨hc, hcs⟩ := Bool.and_eq_true_iff.1 h
      have hdigits : ∀ d ∈ (c :: cs).filter (· != '_'), d.isDigit = true := by
        intro d hd
        obtain ⟨hmem, hne⟩ := List.mem_filter.1 hd
        have hcontinues := all_continuesNumber_of_isDigitRun h d hmem
        simpa [continuesNumber, bne_iff_ne.1 hne] using hcontinues
      have hmem : c ∈ (c :: cs).filter (· != '_') := by
        refine List.mem_filter.2 ⟨List.mem_cons_self, bne_iff_ne.2 ?_⟩
        rintro rfl
        cases hc
      refine Bool.and_eq_true_iff.2 ⟨?_, List.all_eq_true.2 hdigits⟩
      simpa using List.ne_nil_of_mem hmem

theorem ne_point_of_isDigits {cs : List Char} (h : isDigits cs = true) :
    ∀ c ∈ cs, (c != '.') = true := by
  intro c hc
  have hdigit := List.all_eq_true.1 (Bool.and_eq_true_iff.1 h).2 c hc
  rw [bne_iff_ne]
  rintro rfl
  cases hdigit

/-- Every numeral has a value. -/
theorem exists_value_of_isNumeral {cs : List Char} (h : IsNumeral cs) :
    ∃ x, readDecimal (cs.filter (· != '_')) = some x := by
  cases h with
  | whole h =>
      have hdigits := isDigits_filter h
      have htake := List.takeWhile_eq_self_iff.2 (ne_point_of_isDigits hdigits)
      have hdrop := List.dropWhile_eq_nil_iff.2 (ne_point_of_isDigits hdigits)
      simp only [readDecimal, htake, hdrop, hdigits, if_true]
      exact ⟨_, rfl⟩
  | @fraction whole fraction hwhole hfraction =>
      have hdigits := isDigits_filter hwhole
      have hfilter : (whole ++ '.' :: fraction).filter (· != '_')
          = whole.filter (· != '_') ++ '.' :: fraction.filter (· != '_') := by
        rw [List.filter_append, List.filter_cons]
        rfl
      have htake : (whole.filter (· != '_') ++ '.' :: fraction.filter (· != '_')).takeWhile
          (· != '.') = whole.filter (· != '_') :=
        takeWhile_append_of_ends (ne_point_of_isDigits hdigits) (by rintro _ ⟨⟩; decide)
      have hdrop : (whole.filter (· != '_') ++ '.' :: fraction.filter (· != '_')).dropWhile
          (· != '.') = '.' :: fraction.filter (· != '_') := by
        rw [List.dropWhile_append_of_pos (ne_point_of_isDigits hdigits)]
        rfl
      simp only [hfilter, readDecimal, htake, hdrop, hdigits, isDigits_filter hfraction,
        Bool.and_self, if_true]
      exact ⟨_, rfl⟩

/-! ## Strings -/

/-- What is read of a string is its characters and the closing quote. -/
theorem escapes_of_quoted {quote : Char} {start position : Nat} {cs s : List Char} {n : Nat}
    (h : quoted quote start position cs = .ok (s, n)) :
    ∃ written, cs.take n = written ++ [quote] ∧ Escapes quote written s := by
  fun_induction quoted quote start position cs generalizing s n with
  | case1 => cases h
  | case2 position =>
      cases h
      exact ⟨[], rfl, .nil⟩
  | case3 => cases h
  | case4 position d rest =>
      cases h
      exact ⟨[], rfl, .nil⟩
  | case5 => cases h
  | case6 => cases h
  | case7 position d rest u hu content m hrest hquote ih =>
      cases h
      obtain ⟨written, htake, hescapes⟩ := ih hrest
      refine ⟨'\\' :: d :: written, ?_, .escape hu hescapes⟩
      rw [List.take_succ_cons, List.take_succ_cons, htake]
      rfl
  | case8 => cases h
  | case9 position c d rest hquote hbackslash content m hrest ih =>
      cases h
      obtain ⟨written, htake, hescapes⟩ := ih hrest
      refine ⟨c :: written, ?_, .plain hquote hbackslash hescapes⟩
      rw [List.take_succ_cons, htake]
      rfl

/-- What is escaped is read back, up to the quote that ends the string. -/
theorem quoted_of_escapes {quote : Char} {written s : List Char} (hquote : quote ≠ '\\')
    (h : Escapes quote written s) (start position : Nat) :
    quoted quote start position (written ++ quote :: rest) = .ok (s, written.length + 1) := by
  induction h generalizing position with
  | nil => cases rest <;> simp [quoted]
  | @plain c written s hne hbackslash _ ih =>
      obtain ⟨d, more, hmore⟩ : ∃ d more, written ++ quote :: rest = d :: more :=
        List.exists_cons_of_ne_nil (by simp)
      have hrest := ih (position + c.utf8Size)
      rw [hmore] at hrest
      simp [quoted, hne, hbackslash, hmore, hrest]
  | escape hu _ ih => simp [quoted, hquote.symm, hu, ih]

/-- What is read of a raw string is its characters and the closing backtick. -/
theorem take_of_raw {start : Nat} {cs s : List Char} {n : Nat} (h : raw start cs = .ok (s, n)) :
    cs.take n = s ++ [rawQuote] ∧ rawQuote ∉ s := by
  unfold raw at h
  simp only at h
  split at h
  · next hlength =>
    cases h
    obtain ⟨c, rest, hrest⟩ : ∃ c rest, cs.dropWhile (· != rawQuote) = c :: rest := by
      refine List.exists_cons_of_ne_nil fun hnil => ?_
      rw [List.takeWhile_eq_self_iff.2 (List.dropWhile_eq_nil_iff.1 hnil)] at hlength
      exact Nat.lt_irrefl _ hlength
    have hquote : c = rawQuote := by
      have hhead := List.head?_dropWhile_not (· != rawQuote) cs
      rw [hrest] at hhead
      simpa using hhead
    refine ⟨?_, fun hmem => ?_⟩
    · conv => lhs; arg 2; rw [← List.takeWhile_append_dropWhile (p := (· != rawQuote)) (l := cs)]
      rw [List.take_length_add_append, hrest, hquote]
      rfl
    · simpa using List.mem_takeWhile_imp hmem
  · cases h

theorem raw_append {s : List Char} (h : rawQuote ∉ s) (start : Nat) :
    raw start (s ++ rawQuote :: rest) = .ok (s, s.length + 1) := by
  have hcontent : (s ++ rawQuote :: rest).takeWhile (· != rawQuote) = s := by
    refine takeWhile_append_of_ends (fun c hc => bne_iff_ne.2 ?_) ?_
    · rintro rfl
      exact h hc
    · rintro _ ⟨⟩
      decide
  simp [raw, hcontent]

theorem scans_quoted {quote : Char} {written s : List Char} (hquote : quote = '"' ∨ quote = '\x27')
    (h : Escapes quote written s) :
    Scans (.string (String.ofList s)) (quote :: (written ++ [quote])) rest := by
  obtain ⟨hblank, hne, hsymbol⟩ : isBlank quote = false ∧ quote ≠ '\\' ∧ quote ∉ symbolChars := by
    rcases hquote with rfl | rfl <;> decide
  refine ⟨quote, _, rfl, hblank, fun position => ?_⟩
  rw [scan, symbol?_of_notMem hsymbol, List.append_assoc, List.singleton_append]
  simp only [hquote, if_true]
  rw [quoted_of_escapes hne h]
  simp [Except.map]

theorem scans_raw {s : List Char} (h : rawQuote ∉ s) :
    Scans (.string (String.ofList s)) (rawQuote :: (s ++ [rawQuote])) rest := by
  refine ⟨rawQuote, _, rfl, by decide, fun position => ?_⟩
  have hother : ¬ (rawQuote = '"' ∨ rawQuote = '\x27') := by decide
  rw [scan, symbol?_of_notMem (by decide), List.append_assoc, List.singleton_append]
  simp only [hother, if_false, if_true]
  rw [raw_append h]
  simp [Except.map]

/-- A backslash before each backslash and each quote writes any string. -/
theorem escapes_escaped {quote : Char} (hescape : unescape quote = some quote) (s : List Char) :
    Escapes quote (s.flatMap (escaped quote)) s := by
  induction s with
  | nil => exact .nil
  | cons c s ih =>
      rw [List.flatMap_cons, escaped]
      split
      · next hc =>
        have hunescape : unescape c = some c := by
          rcases hc with rfl | rfl
          · rfl
          · exact hescape
        exact .escape hunescape ih
      · next hc => exact .plain (fun h => hc (.inr h)) (fun h => hc (.inl h)) ih

end Lexer

/-! ## Ways to write a string -/

theorem spells_escaped {quote : Char} (hquote : quote = '"' ∨ quote = '\x27') (s : String) :
    (TokenKind.string s).Spells (quote :: (s.toList.flatMap (escaped quote) ++ [quote])) := by
  have hescape : unescape quote = some quote := by
    rcases hquote with rfl | rfl <;> rfl
  simpa only [String.ofList_toList] using
    TokenKind.Spells.quoted hquote (escapes_escaped hescape s.toList)

theorem spells_raw {s : String} (h : rawQuote ∉ s.toList) :
    (TokenKind.string s).Spells (rawQuote :: (s.toList ++ [rawQuote])) := by
  simpa only [String.ofList_toList] using TokenKind.Spells.raw h

/-! ## Spelling and scanning -/

/-- Characters that write a token are taken for it, unless the token would go on. -/
theorem TokenKind.Spells.scans {k : TokenKind} {written rest : List Char} (h : k.Spells written)
    (hrest : k.endsBefore rest = true) : Scans k written rest := by
  cases h with
  | word h => exact scans_word h hrest
  | number hcs hx => exact scans_number hcs hx hrest
  | quoted hquote h => exact scans_quoted hquote h
  | raw h => exact scans_raw h
  | symbol s => exact scans_symbol hrest

/-- The characters of a token write it. -/
theorem Lexer.spells_of_scan {position n : Nat} {c : Char} {cs : List Char} {k : TokenKind}
    (h : scan position c cs = .ok (k, n)) : k.Spells (c :: cs.take n) := by
  unfold scan at h
  split at h
  · next s m hsymbol =>
    cases h
    rw [← spelling_of_symbol? hsymbol]
    exact .symbol s
  split at h
  · next hquote =>
    cases hquoted : quoted c position (position + 1) cs <;> rw [hquoted] at h <;> cases h
    obtain ⟨written, htake, hescapes⟩ := escapes_of_quoted hquoted
    rw [htake]
    exact .quoted hquote hescapes
  split at h
  · next hraw =>
    subst hraw
    cases hread : raw position cs <;> rw [hread] at h <;> cases h
    obtain ⟨htake, hmem⟩ := take_of_raw hread
    rw [htake]
    exact .raw hmem
  split at h
  · next hdigit =>
    simp only [number] at h
    split at h
    · next x hread =>
      cases h
      exact .number (isNumeral_take hdigit cs) hread
    · cases h
  split at h
  · next hstart =>
    cases h
    rw [take_length_takeWhile]
    have hword : isIdentifier (String.ofList (c :: cs.takeWhile continuesWord)) = true := by
      simp [isIdentifier, hstart]
    simpa only [String.toList_ofList] using TokenKind.Spells.word hword
  · cases h

/-! ## Blanks end tokens -/

theorem second_of_pairSymbol? {c d : Char} {s : Symbol} (h : pairSymbol? c d = some s) :
    d ∈ ['=', '&', '|'] := by
  unfold pairSymbol? at h
  split at h <;> cases h <;> simp

/-- No token goes on with a blank. -/
theorem TokenKind.goesOn_of_isBlank (k : TokenKind) {c : Char} (hc : isBlank c = true) :
    k.goesOn c = false := by
  have hnone : isLetterOrNumeral c = false := isLetterOrNumeral_of_isBlank hc
  have hne : ∀ d, isBlank d = false → c ≠ d := by
    rintro _ hd rfl
    rw [hc] at hd
    cases hd
  have hunderscore : c ≠ '_' := hne _ (by decide)
  cases k with
  | word name => simp [goesOn, continuesWord, hnone, hunderscore]
  | number x =>
      have hdigit : c.isDigit = false := by
        rw [Bool.eq_false_iff]
        intro hd
        rw [isLetterOrNumeral_of_isDigit hd] at hnone
        cases hnone
      have hpoint : c ≠ '.' := hne _ (by decide)
      simp [goesOn, continuesNumber, hdigit, hunderscore, hpoint]
  | string s | stop => rfl
  | symbol s =>
      simp only [goesOn]
      split
      · rw [Option.isSome_eq_false_iff, Option.isNone_iff_eq_none, Option.eq_none_iff_forall_ne_some]
        intro s' hpair
        exact notMem_of_all (p := isBlank) (by decide) hc (second_of_pairSymbol? hpair)
      · rfl

theorem TokenKind.endsBefore_of_all_isBlank (k : TokenKind) {gap : List Char}
    (hgap : gap.all isBlank = true) (rest : List Char) (h : gap ≠ [] ∨ rest = []) :
    k.endsBefore (gap ++ rest) = true := by
  cases gap with
  | nil =>
      rw [h.resolve_left (fun hne => hne rfl)]
      rfl
  | cons c gap =>
      have hc := (Bool.and_eq_true_iff.1 hgap).1
      simp [endsBefore, k.goesOn_of_isBlank hc]

end LabelRules
