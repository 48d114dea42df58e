import LabelRules.Proofs.Parsing.Lexemes

set_option autoImplicit false

/-! # Where a text cannot be cut

A text that cannot be cut into tokens has a first offence, and the error points at it
(`tokenize_offence`). No token depends on what comes after it (`scan_of_append`), so whatever is
wrong with a text, all of it up to the token that cannot be read is cut without an error
(`stopsWith_of_error`). What is left is why a single token cannot be read (`scan_offence`): no token
starts with the character, or a string does that has no end, or that has a backslash before a
character that it cannot escape.
-/

namespace LabelRules

open Lexer

/-! ## Offences -/

namespace Lexer

/-- After some characters of a string between quotes, is the next one escaped? A backslash that is
not escaped itself escapes the character after it. -/
def escapesNext (cs : List Char) : Bool :=
  cs.foldl (fun escaped c => !escaped && c == '\\') false

/-- None of the characters ends a string that starts with the quote: each quote of its kind is
escaped, and a backtick never is. -/
def Unclosed (quote : Char) (cs : List Char) : Prop :=
  ∀ before after, cs = before ++ quote :: after → quote ≠ rawQuote ∧ escapesNext before = true

/-- The characters are cut into tokens. -/
def Cut (cs : List Char) : Prop := ∃ tokens, tokenize (String.ofList cs) = .ok tokens

end Lexer

/-- The error points at the first offence in the characters of a text. -/
inductive ParseError.Offence (cs : List Char) : ParseError → Prop where
  /-- No token starts with the character. -/
  | unexpectedCharacter {before after : List Char} {c : Char} (hcs : cs = before ++ c :: after)
      (hbefore : Cut before)
      (hnone : ∀ k written rest, c :: after = written ++ rest →
        ¬ TokenKind.Spells k written) :
      Offence cs (.unexpectedCharacter c (byteLength before))
  /-- A string starts with the quote and does not end. -/
  | unterminatedString {before after : List Char} {quote : Char}
      (hcs : cs = before ++ quote :: after)
      (hquote : quote = '"' ∨ quote = '\x27' ∨ quote = rawQuote) (hbefore : Cut before)
      (hunclosed : Unclosed quote after) :
      Offence cs (.unterminatedString (byteLength before))
  /-- A string starts with the quote, and a backslash in it that is not escaped comes before a
  character that is none of the six that can be escaped. -/
  | invalidEscape {before inside after : List Char} {quote c : Char}
      (hcs : cs = before ++ quote :: (inside ++ '\\' :: c :: after))
      (hquote : quote = '"' ∨ quote = '\x27') (hbefore : Cut before)
      (hunclosed : Unclosed quote inside) (hescaped : escapesNext inside = false)
      (hc : c ∉ ['\\', '"', '\x27', 'n', 't', 'r']) :
      Offence cs (.invalidEscape c (byteLength (before ++ quote :: inside)))

/-- The byte offset that an error points at. -/
def ParseError.position? : ParseError → Option Nat
  | .emptyExpression | .unexpectedEnd _ => none
  | .unexpectedCharacter _ position | .unterminatedString position | .invalidEscape _ position
  | .invalidNumber _ position | .unexpectedToken _ _ position | .fieldOfNonVariable _ position
  | .tooDeep position => some position

namespace Lexer

/-! ## No token depends on what comes after it -/

section Append

variable {front back : List Char}

theorem takeWhile_of_append {p : Char → Bool}
    (h : ((front ++ back).takeWhile p).length ≤ front.length) :
    front.takeWhile p = (front ++ back).takeWhile p := by
  induction front with
  | nil => exact (List.eq_nil_of_length_eq_zero (Nat.le_zero.1 h)).symm
  | cons d front ih =>
      rw [List.cons_append, List.takeWhile_cons] at h ⊢
      rw [List.takeWhile_cons]
      by_cases hd : p d = true
      · rw [if_pos hd, List.length_cons, List.length_cons] at h
        rw [if_pos hd, if_pos hd, ih (Nat.le_of_succ_le_succ h)]
      · rw [if_neg hd, if_neg hd]

theorem symbol?_of_append {c : Char} {s : Symbol} {n : Nat}
    (h : symbol? c (front ++ back) = some (s, n)) (hn : n ≤ front.length) :
    symbol? c front = some (s, n) := by
  cases front with
  | cons d front => exact h
  | nil =>
      -- There is no second character any more, and none belonged to the symbol.
      obtain rfl : n = 0 := Nat.le_zero.1 hn
      unfold symbol? at h ⊢
      split at h
      · cases h
      · exact h

theorem symbol?_eq_none_of_append {c : Char} (h : symbol? c (front ++ back) = none) :
    symbol? c front = none := by
  cases front with
  | cons d front => exact h
  | nil =>
      unfold symbol? at h ⊢
      split at h
      · cases h
      · exact h

/-- How many characters belong to a number as its point and the digits after it: none unless there
is a digit. -/
def fractionLength : List Char → Nat
  | point :: d :: rest =>
    if point = '.' ∧ d.isDigit = true then ((d :: rest).takeWhile continuesNumber).length + 1 else 0
  | _ => 0

theorem numberLength_eq (cs : List Char) :
    numberLength cs = (cs.takeWhile continuesNumber).length
      + fractionLength (cs.drop (cs.takeWhile continuesNumber).length) := by
  unfold numberLength
  simp only
  split
  · next d rest hdrop =>
    rw [hdrop, fractionLength]
    by_cases hd : d.isDigit = true
    · rw [if_pos hd, if_pos ⟨rfl, hd⟩]
      omega
    · rw [if_neg hd, if_neg fun h => hd h.2]
      rfl
  · next hpoint =>
    generalize cs.drop (cs.takeWhile continuesNumber).length = tail at hpoint
    rcases tail with _ | ⟨point, _ | ⟨d, rest⟩⟩
    · rfl
    · rfl
    · rw [fractionLength, if_neg]
      · rfl
      · rintro ⟨rfl, -⟩
        exact hpoint d rest rfl

theorem fractionLength_of_append (h : fractionLength (front ++ back) ≤ front.length) :
    fractionLength front = fractionLength (front ++ back) := by
  rcases front with _ | ⟨point, _ | ⟨d, front⟩⟩
  · exact (Nat.le_zero.1 h).symm
  · -- With the point a digit would belong to the number, too.
    cases back with
    | nil => rfl
    | cons d back =>
        rw [List.cons_append, List.nil_append, fractionLength] at h ⊢
        by_cases hpoint : point = '.' ∧ d.isDigit = true
        · have hcontinues : continuesNumber d = true := by simp [continuesNumber, hpoint.2]
          rw [if_pos hpoint, List.takeWhile_cons, if_pos hcontinues] at h
          simp at h
        · rw [if_neg hpoint]
          rfl
  · rw [List.cons_append, List.cons_append, fractionLength] at h ⊢
    rw [fractionLength]
    by_cases hpoint : point = '.' ∧ d.isDigit = true
    · rw [if_pos hpoint] at h
      have hdigits := @takeWhile_of_append (d :: front) back _ (Nat.le_of_succ_le_succ h)
      rw [if_pos hpoint, if_pos hpoint, hdigits, List.cons_append]
    · rw [if_neg hpoint, if_neg hpoint]

theorem numberLength_of_append (h : numberLength (front ++ back) ≤ front.length) :
    numberLength front = numberLength (front ++ back) := by
  rw [numberLength_eq] at h
  have hle : ((front ++ back).takeWhile continuesNumber).length ≤ front.length := by omega
  have hwhole := takeWhile_of_append hle
  rw [List.drop_append_of_le_length hle] at h
  have hfraction : fractionLength (front.drop ((front ++ back).takeWhile continuesNumber).length)
      = fractionLength (front.drop ((front ++ back).takeWhile continuesNumber).length ++ back) := by
    apply fractionLength_of_append
    rw [List.length_drop]
    omega
  rw [numberLength_eq, numberLength_eq, hwhole, hfraction, List.drop_append_of_le_length hle]

/-- What is read of a string with its closing quote does not depend on what comes after it. -/
theorem quoted_of_append {quote : Char} (hquote : quote ≠ '\\') {start position n : Nat}
    {s : List Char} (h : quoted quote start position (front ++ back) = .ok (s, n))
    (hn : n ≤ front.length) : quoted quote start position front = .ok (s, n) := by
  obtain ⟨written, htake, hescapes⟩ := escapes_of_quoted h
  rw [List.take_append_of_le_length hn] at htake
  have hfront : front = written ++ quote :: front.drop n := by
    calc front = front.take n ++ front.drop n := (List.take_append_drop n front).symm
      _ = written ++ quote :: front.drop n := by rw [htake, List.append_assoc]; rfl
  have hlength : n = written.length + 1 := by
    have hlen := congrArg List.length htake
    simpa [hn] using hlen
  rw [hfront, quoted_of_escapes hquote hescapes, hlength]

theorem raw_of_append {start n : Nat} {s : List Char} (h : raw start (front ++ back) = .ok (s, n))
    (hn : n ≤ front.length) : raw start front = .ok (s, n) := by
  obtain ⟨htake, hmem⟩ := take_of_raw h
  rw [List.take_append_of_le_length hn] at htake
  have hfront : front = s ++ rawQuote :: front.drop n := by
    calc front = front.take n ++ front.drop n := (List.take_append_drop n front).symm
      _ = s ++ rawQuote :: front.drop n := by rw [htake, List.append_assoc]; rfl
  have hlength : n = s.length + 1 := by
    have hlen := congrArg List.length htake
    simpa [hn] using hlen
  rw [hfront, raw_append hmem, hlength]

/-- The token at the start of a text is that of any shorter text that still has all of it. -/
theorem scan_of_append {position n : Nat} {c : Char} {k : TokenKind}
    (h : scan position c (front ++ back) = .ok (k, n)) (hn : n ≤ front.length) :
    scan position c front = .ok (k, n) := by
  unfold scan at h ⊢
  split at h
  · next s m hsymbol =>
    cases h
    rw [symbol?_of_append hsymbol hn]
  next hsymbol =>
  rw [symbol?_eq_none_of_append hsymbol]
  simp only
  split at h
  · next hquote =>
    have hne : c ≠ '\\' := by
      rcases hquote with rfl | rfl <;> decide
    rw [if_pos hquote]
    cases hread : quoted c position (position + 1) (front ++ back) <;> rw [hread] at h <;> cases h
    rw [quoted_of_append hne hread hn]
    rfl
  next hquote =>
  rw [if_neg hquote]
  split at h
  · next hraw =>
    rw [if_pos hraw]
    cases hread : raw position (front ++ back) <;> rw [hread] at h <;> cases h
    rw [raw_of_append hread hn]
    rfl
  next hraw =>
  rw [if_neg hraw]
  split at h
  · next hdigit =>
    rw [if_pos hdigit]
    simp only at h ⊢
    cases hnumber : number position (c :: (front ++ back).take (numberLength (front ++ back))) <;>
      rw [hnumber] at h <;> cases h
    rw [List.take_append_of_le_length hn] at hnumber
    rw [numberLength_of_append hn, hnumber]
    rfl
  next hdigit =>
  rw [if_neg hdigit]
  split at h
  · next hstart =>
    cases h
    rw [if_pos hstart, takeWhile_of_append hn]
  · cases h

end Append

/-- A token before a text is cut off before any part of the text that it starts with. -/
theorem tokenizeFrom_token {c : Char} (hc : isBlank c = false) {position : Nat} {k : TokenKind}
    {first front back : List Char}
    (hscan : scan position c (first ++ front ++ back) = .ok (k, first.length)) :
    tokenizeFrom position (c :: (first ++ front))
      = (tokenizeFrom (position + c.utf8Size + byteLength first) front).map
          (⟨k, position⟩ :: ·) := by
  have hle : first.length ≤ (first ++ front).length := by
    rw [List.length_append]
    exact Nat.le_add_right _ _
  rw [tokenizeFrom_scan hc (scan_of_append hscan hle), List.take_left, List.drop_left]

/-- Some characters are cut, from a position on, up to a token that cannot be read. -/
def StopsWith (position : Nat) (cs : List Char) (e : ParseError) : Prop :=
  ∃ before c after tokens, cs = before ++ c :: after
    ∧ tokenizeFrom position before = .ok tokens
    ∧ scan (position + byteLength before) c after = .error e

section StopsWith

variable {position : Nat} {c : Char} {cs : List Char} {e : ParseError}

theorem StopsWith.of_scan (h : scan position c cs = .error e) :
    StopsWith position (c :: cs) e :=
  ⟨[], c, cs, _, rfl, tokenizeFrom_nil position, h⟩

theorem StopsWith.blank (hc : isBlank c = true) (h : StopsWith (position + c.utf8Size) cs e) :
    StopsWith position (c :: cs) e := by
  obtain ⟨before, d, after, tokens, rfl, hbefore, hscan⟩ := h
  refine ⟨c :: before, d, after, tokens, rfl, ?_, ?_⟩
  · rw [tokenizeFrom_blank hc, hbefore]
  · rw [byteLength_cons, ← Nat.add_assoc, hscan]

/-- A token before the characters that are cut is cut off all the same. -/
theorem StopsWith.token (hc : isBlank c = false) {k : TokenKind} {n : Nat}
    (hscan : scan position c cs = .ok (k, n))
    (h : StopsWith (position + c.utf8Size + byteLength (cs.take n)) (cs.drop n) e) :
    StopsWith position (c :: cs) e := by
  obtain ⟨before, d, after, tokens, hdrop, hbefore, herror⟩ := h
  have hcs : cs = (cs.take n ++ before) ++ d :: after := by
    calc cs = cs.take n ++ cs.drop n := (List.take_append_drop n cs).symm
      _ = (cs.take n ++ before) ++ d :: after := by rw [hdrop, List.append_assoc]
  -- There is a character after the token, so the token is not longer than what is left.
  have hn : (cs.take n).length = n := by
    have hlength := congrArg List.length hdrop
    rw [List.length_drop, List.length_append, List.length_cons] at hlength
    apply List.length_take_of_le
    omega
  generalize cs.take n = first at hcs hn hbefore herror
  subst hcs hn
  refine ⟨c :: (first ++ before), d, after, ⟨k, position⟩ :: tokens, rfl, ?_, ?_⟩
  · rw [tokenizeFrom_token hc hscan, hbefore]
    rfl
  · rw [byteLength_cons, byteLength_append, ← Nat.add_assoc, ← Nat.add_assoc, herror]

end StopsWith

/-- A text that cannot be cut is cut up to a token that cannot be read. -/
theorem stopsWith_of_error (cs : List Char) {position : Nat} {e : ParseError}
    (h : tokenizeFrom position cs = .error e) : StopsWith position cs e := by
  induction hlength : cs.length using Nat.strongRecOn generalizing cs position with
  | ind length ih =>
    cases cs with
    | nil =>
        rw [tokenizeFrom_nil] at h
        cases h
    | cons c cs =>
        rw [List.length_cons] at hlength
        cases hblank : isBlank c with
        | true =>
            rw [tokenizeFrom_blank hblank] at h
            exact .blank hblank (ih cs.length (by omega) cs h rfl)
        | false =>
            cases hscan : scan position c cs with
            | error e' =>
                rw [tokenizeFrom, if_neg (by simp [hblank]), hscan] at h
                cases h
                exact .of_scan hscan
            | ok result =>
                obtain ⟨k, n⟩ := result
                rw [tokenizeFrom_scan hblank hscan] at h
                cases hrest : tokenizeFrom (position + c.utf8Size + byteLength (cs.take n))
                    (cs.drop n) with
                | ok tokens =>
                    rw [hrest] at h
                    cases h
                | error e' =>
                    rw [hrest] at h
                    cases h
                    have hshorter : (cs.drop n).length < length := by
                      rw [List.length_drop]
                      omega
                    exact .token hblank hscan (ih _ hshorter _ hrest rfl)

/-! ## Strings that cannot be read -/

theorem escapesNext_append {front back : List Char} (h : escapesNext front = false) :
    escapesNext (front ++ back) = escapesNext back := by
  unfold escapesNext at h ⊢
  rw [List.foldl_append, h]

theorem escapesNext_cons {c : Char} (hc : c ≠ '\\') (cs : List Char) :
    escapesNext (c :: cs) = escapesNext cs :=
  @escapesNext_append [c] cs (beq_false_of_ne hc)

/-- What stands after a backslash has no further effect. -/
theorem escapesNext_escape (c : Char) (cs : List Char) :
    escapesNext ('\\' :: c :: cs) = escapesNext cs :=
  @escapesNext_append ['\\', c] cs rfl

end Lexer

theorem Escapes.escapesNext_eq_false {quote : Char} {written s : List Char}
    (h : Escapes quote written s) : escapesNext written = false := by
  induction h with
  | nil => rfl
  | plain _ hbackslash _ ih => rw [escapesNext_cons hbackslash, ih]
  | escape _ _ ih => rw [escapesNext_escape, ih]

/-- The characters that write a string do not end it. -/
theorem Escapes.unclosed {quote : Char} {written s : List Char} (h : Escapes quote written s)
    (hquote : quote = '"' ∨ quote = '\x27') : Unclosed quote written := by
  have hne : quote ≠ rawQuote ∧ quote ≠ '\\' := by
    rcases hquote with rfl | rfl <;> decide
  intro before after hwritten
  refine ⟨hne.1, ?_⟩
  induction h generalizing before with
  | nil => simp at hwritten
  | @plain c written s hplain hbackslash _ ih =>
      cases before with
      | nil => exact absurd (List.cons.inj hwritten).1 hplain
      | cons d before =>
          obtain ⟨rfl, hrest⟩ := List.cons.inj hwritten
          rw [escapesNext_cons hbackslash, ih before hrest]
  | @escape c u written s _ _ ih =>
      rcases before with _ | ⟨backslash, _ | ⟨d, before⟩⟩
      · exact absurd (List.cons.inj hwritten).1.symm hne.2
      · obtain ⟨rfl, -⟩ := List.cons.inj hwritten
        rfl
      · obtain ⟨rfl, hrest⟩ := List.cons.inj hwritten
        obtain ⟨rfl, hmore⟩ := List.cons.inj hrest
        rw [escapesNext_escape, ih before hmore]

namespace Lexer

/-- A backslash at the end does not end a string either. -/
theorem Unclosed.append_backslash {quote : Char} (hquote : quote ≠ '\\') {cs : List Char}
    (h : Unclosed quote cs) : Unclosed quote (cs ++ ['\\']) := by
  intro before after heq
  rcases cons_left_or_right heq with ⟨between, rfl⟩ | ⟨between, -, hlast⟩
  · exact h before between rfl
  · have hmem : quote ∈ ['\\'] := hlast ▸ List.mem_append_right _ List.mem_cons_self
    exact absurd (List.mem_singleton.1 hmem) hquote

/-- A string between quotes that cannot be read goes on to the end of the text, where a backslash
may be left over, or up to a backslash that escapes nothing. -/
theorem quoted_error {quote : Char} {start position : Nat} {cs : List Char} {e : ParseError}
    (h : quoted quote start position cs = .error e) :
    ∃ written s, Escapes quote written s ∧
      ((e = .unterminatedString start ∧ (cs = written ∨ cs = written ++ ['\\']))
        ∨ ∃ c after, cs = written ++ '\\' :: c :: after ∧ unescape c = none
          ∧ e = .invalidEscape c (position + byteLength written)) := by
  fun_induction quoted quote start position cs with
  | case1 =>
      cases h
      exact ⟨[], [], .nil, .inl ⟨rfl, .inl rfl⟩⟩
  | case2 => cases h
  | case3 position c hc =>
      cases h
      by_cases hbackslash : c = '\\'
      · subst hbackslash
        exact ⟨[], [], .nil, .inl ⟨rfl, .inr rfl⟩⟩
      · exact ⟨[c], [c], .plain hc hbackslash .nil, .inl ⟨rfl, .inl rfl⟩⟩
  | case4 => cases h
  | case5 position d rest hu hquote =>
      cases h
      exact ⟨[], [], .nil, .inr ⟨d, rest, rfl, hu, rfl⟩⟩
  | case6 position d rest u hu e' hrest hquote ih =>
      cases h
      obtain ⟨written, s, hescapes, ⟨he, hcs⟩ | ⟨c, after, hcs, hc, he⟩⟩ := ih hrest
      · refine ⟨_, _, .escape hu hescapes, .inl ⟨he, ?_⟩⟩
        rcases hcs with rfl | rfl
        · exact .inl rfl
        · exact .inr rfl
      · refine ⟨_, _, .escape hu hescapes, .inr ⟨c, after, by rw [hcs]; rfl, hc, ?_⟩⟩
        rw [he, byteLength_cons, byteLength_cons]
        congr 1
        have hsize : ('\\' : Char).utf8Size = 1 := rfl
        omega
  | case7 => cases h
  | case8 position c d rest hquote hbackslash e' hrest ih =>
      cases h
      obtain ⟨written, s, hescapes, ⟨he, hcs⟩ | ⟨c', after, hcs, hc', he⟩⟩ := ih hrest
      · refine ⟨_, _, .plain hquote hbackslash hescapes, .inl ⟨he, ?_⟩⟩
        rcases hcs with hcs | hcs
        · exact .inl (by rw [hcs])
        · exact .inr (by rw [hcs]; rfl)
      · refine ⟨_, _, .plain hquote hbackslash hescapes,
          .inr ⟨c', after, by rw [hcs]; rfl, hc', ?_⟩⟩
        rw [he, byteLength_cons]
        congr 1
        omega
  | case9 => cases h

/-- A raw string that cannot be read has no further backtick. -/
theorem raw_error {start : Nat} {cs : List Char} {e : ParseError} (h : raw start cs = .error e) :
    e = .unterminatedString start ∧ rawQuote ∉ cs := by
  unfold raw at h
  simp only at h
  split at h
  · cases h
  · next hlength =>
    cases h
    have hall : cs.takeWhile (· != rawQuote) = cs :=
      (List.takeWhile_prefix _).eq_of_length_le (Nat.le_of_not_lt hlength)
    refine ⟨rfl, fun hmem => ?_⟩
    simpa using List.takeWhile_eq_self_iff.1 hall rawQuote hmem

/-! ## Tokens that cannot be read -/

theorem unescape_eq_none {c : Char} (h : unescape c = none) :
    c ∉ ['\\', '"', '\x27', 'n', 't', 'r'] := by
  intro hc
  simp only [List.mem_cons, List.not_mem_nil, or_false] at hc
  rcases hc with rfl | rfl | rfl | rfl | rfl | rfl <;> cases h

/-- A number can always be read. -/
theorem exists_number {c : Char} (hc : c.isDigit = true) (position : Nat) (cs : List Char) :
    ∃ x, number position (c :: cs.take (numberLength cs)) = .ok x := by
  obtain ⟨x, hx⟩ := exists_value_of_isNumeral (isNumeral_take hc cs)
  refine ⟨x, ?_⟩
  rw [number, hx]

/-- A symbol that stands at the start of a text is found there. -/
theorem symbol?_ne_none (s : Symbol) {c : Char} {cs rest : List Char}
    (h : c :: cs = s.spelling.toList ++ rest) : symbol? c cs ≠ none := by
  unfold symbol?
  rcases spelling_eq s with ⟨d, hs, -, hsingle⟩ | ⟨d, d', hs, -, hpair⟩
  · rw [hs] at h
    obtain ⟨rfl, -⟩ := List.cons.inj h
    rw [hsingle]
    split <;> exact Option.some_ne_none _
  · rw [hs, List.cons_append, List.cons_append] at h
    obtain ⟨rfl, rfl⟩ := List.cons.inj h
    rw [List.head?_cons, Option.bind_some, hpair]
    exact Option.some_ne_none _

/-- No token starts with a character that starts no symbol and is no quote, digit or letter. -/
theorem not_spells {c : Char} {cs written rest : List Char} {k : TokenKind}
    (hsymbol : symbol? c cs = none) (hquote : ¬ (c = '"' ∨ c = '\x27')) (hraw : c ≠ rawQuote)
    (hdigit : ¬ c.isDigit = true) (hstart : ¬ startsWord c = true)
    (hcs : c :: cs = written ++ rest) : ¬ k.Spells written := by
  intro h
  cases h with
  | @word name hname =>
      unfold isIdentifier at hname
      split at hname
      · cases hname
      · next d tail hchars =>
        rw [hchars] at hcs
        obtain ⟨rfl, -⟩ := List.cons.inj hcs
        exact hstart (Bool.and_eq_true_iff.1 hname).1
  | @number _ x hnumeral hx =>
      cases written with
      | nil => cases hx
      | cons d written =>
          obtain ⟨rfl, -⟩ := List.cons.inj hcs
          exact hdigit (@numberLength_append [] c written hnumeral x rfl).1
  | quoted hkind _ =>
      obtain ⟨rfl, -⟩ := List.cons.inj hcs
      exact hquote hkind
  | raw _ =>
      obtain ⟨rfl, -⟩ := List.cons.inj hcs
      exact hraw rfl
  | symbol s => exact symbol?_ne_none s hcs hsymbol

/-- Why the token after a part of a text that can be cut cannot be read. -/
theorem scan_offence {before after : List Char} {c : Char} {e : ParseError}
    (hbefore : Cut before) (h : scan (byteLength before) c after = .error e) :
    e.Offence (before ++ c :: after) := by
  unfold scan at h
  split at h
  · cases h
  next hsymbol =>
  split at h
  · next hquote =>
    cases hread : quoted c (byteLength before) (byteLength before + 1) after <;>
      rw [hread] at h <;> cases h
    obtain ⟨written, s, hescapes, ⟨rfl, hafter⟩ | ⟨d, rest, rfl, hd, rfl⟩⟩ := quoted_error hread
    · have hunclosed := hescapes.unclosed hquote
      have hne : c ≠ '\\' := by
        rcases hquote with rfl | rfl <;> decide
      refine .unterminatedString rfl (hquote.imp_right .inl) hbefore ?_
      rcases hafter with rfl | rfl
      · exact hunclosed
      · exact hunclosed.append_backslash hne
    · have hsize : c.utf8Size = 1 := by
        rcases hquote with rfl | rfl <;> rfl
      have hposition : byteLength before + 1 + byteLength written
          = byteLength (before ++ c :: written) := by
        rw [byteLength_append, byteLength_cons, hsize, Nat.add_assoc]
      rw [hposition]
      exact .invalidEscape rfl hquote hbefore (hescapes.unclosed hquote)
        hescapes.escapesNext_eq_false (unescape_eq_none hd)
  next hquote =>
  split at h
  · next hraw =>
    cases hread : raw (byteLength before) after <;> rw [hread] at h <;> cases h
    obtain ⟨rfl, hmem⟩ := raw_error hread
    refine .unterminatedString rfl (.inr (.inr hraw)) hbefore ?_
    intro front back hfront
    rw [hraw] at hfront
    exact absurd (hfront ▸ List.mem_append_right _ List.mem_cons_self) hmem
  next hraw =>
  split at h
  · next hdigit =>
    obtain ⟨x, hx⟩ := exists_number hdigit (byteLength before) after
    simp only [hx] at h
    cases h
  next hdigit =>
  split at h
  · cases h
  · next hstart =>
    cases h
    exact .unexpectedCharacter rfl hbefore fun k written rest hcs =>
      not_spells hsymbol hquote hraw hdigit hstart hcs

end Lexer

/-- The position at which some characters of a text start lies between characters, and inside the
text. -/
theorem isValid_byteLength {text : String} {before after : List Char} {c : Char}
    (h : text.toList = before ++ c :: after) :
    String.Pos.Raw.IsValid text ⟨byteLength before⟩ ∧ byteLength before < text.utf8ByteSize := by
  constructor
  · refine String.Pos.Raw.isValid_iff_exists_append.2
      ⟨String.ofList before, String.ofList (c :: after), ?_, ?_⟩
    · rw [← String.ofList_append, ← h, String.ofList_toList]
    · refine String.Pos.Raw.ext ?_
      show byteLength before = (String.ofList before).utf8ByteSize
      rw [← byteLength_toList, String.toList_ofList]
  · have hpos := c.utf8Size_pos
    rw [← byteLength_toList, h, byteLength_append, byteLength_cons]
    omega

/-- An offence lies inside the text. -/
theorem ParseError.Offence.isValid {text : String} {e : ParseError} (h : e.Offence text.toList) :
    ∃ position, e.position? = some position ∧ String.Pos.Raw.IsValid text ⟨position⟩
      ∧ position < text.utf8ByteSize := by
  cases h with
  | unexpectedCharacter hcs _ _ => exact ⟨_, rfl, isValid_byteLength hcs⟩
  | unterminatedString hcs _ _ _ => exact ⟨_, rfl, isValid_byteLength hcs⟩
  | @invalidEscape before inside after quote c hcs _ _ _ _ _ =>
      have hbackslash : text.toList = (before ++ quote :: inside) ++ '\\' :: c :: after := by
        rw [hcs, List.append_assoc, List.cons_append]
      exact ⟨_, rfl, isValid_byteLength hbackslash⟩

/-- **An error in cutting a text points at its first offence.** The position lies inside the text
and between characters. -/
theorem tokenize_offence {text : String} {e : ParseError} (h : tokenize text = .error e) :
    e.Offence text.toList ∧ ∃ position, e.position? = some position
      ∧ String.Pos.Raw.IsValid text ⟨position⟩ ∧ position < text.utf8ByteSize := by
  obtain ⟨before, c, after, tokens, hcs, hbefore, hscan⟩ := stopsWith_of_error text.toList h
  have hcut : Cut before := ⟨tokens, by rw [tokenize, String.toList_ofList, hbefore]⟩
  rw [Nat.zero_add] at hscan
  have hoffence := scan_offence hcut hscan
  rw [← hcs] at hoffence
  exact ⟨hoffence, hoffence.isValid⟩

/-- A string, a point that no digit follows, and a quote that is escaped come before the backslash
that escapes nothing; each `é` takes two bytes. -/
theorem tokenize_offence_escape :
    tokenize "\"é\" < 1.x \"\\\"é\\q" = .error (.invalidEscape 'q' 16)
    ∧ (ParseError.invalidEscape 'q' 16).Offence "\"é\" < 1.x \"\\\"é\\q".toList
    ∧ String.Pos.Raw.IsValid "\"é\" < 1.x \"\\\"é\\q" ⟨16⟩
    ∧ 16 < "\"é\" < 1.x \"\\\"é\\q".utf8ByteSize := by
  have herror : tokenize "\"é\" < 1.x \"\\\"é\\q" = .error (.invalidEscape 'q' 16) := by
    decide +kernel
  obtain ⟨hoffence, position, hposition, hinside⟩ := tokenize_offence herror
  cases hposition
  exact ⟨herror, hoffence, hinside⟩

end LabelRules
