import LabelRules.Proofs.Parsing.Spelling

set_option autoImplicit false

/-! # Tokens and the characters that write them

A text is cut into lexemes: characters that write a token, and the blanks after them
(`Lexer.exists_lexemes`). Conversely characters that write tokens one after the other, with blanks
between them wherever two of them would run together (`Layout`), are cut into these tokens
(`tokenizeFrom_layout`).
-/

namespace LabelRules

open Lexer

/-! ## The tokens of a text -/

namespace Lexer

@[simp] theorem tokenizeFrom_nil (position : Nat) :
    tokenizeFrom position [] = .ok [⟨.stop, position⟩] := by
  rw [tokenizeFrom]

theorem tokenizeFrom_blank {c : Char} (h : isBlank c = true) (position : Nat) (cs : List Char) :
    tokenizeFrom position (c :: cs) = tokenizeFrom (position + c.utf8Size) cs := by
  rw [tokenizeFrom, if_pos h]

/-- A character that is no blank starts a token. -/
theorem tokenizeFrom_scan {c : Char} (h : isBlank c = false) {position n : Nat} {cs : List Char}
    {k : TokenKind} (hscan : scan position c cs = .ok (k, n)) :
    tokenizeFrom position (c :: cs)
      = (tokenizeFrom (position + c.utf8Size + byteLength (cs.take n)) (cs.drop n)).map
          (⟨k, position⟩ :: ·) := by
  rw [tokenizeFrom, if_neg (by simp [h]), hscan]
  simp only
  split <;> next hrest => rw [hrest]; rfl

theorem tokenizeFrom_append_blanks {lead : List Char} (h : lead.all isBlank = true)
    (position : Nat) (cs : List Char) :
    tokenizeFrom position (lead ++ cs) = tokenizeFrom (position + byteLength lead) cs := by
  induction lead generalizing position with
  | nil => rfl
  | cons c lead ih =>
      obtain ⟨hc, hlead⟩ := Bool.and_eq_true_iff.1 h
      rw [List.cons_append, tokenizeFrom_blank hc, ih hlead, byteLength_cons, Nat.add_assoc]

/-- A text of blanks has no token but the stop token. -/
theorem tokenizeFrom_of_all_isBlank {cs : List Char} (h : cs.all isBlank = true) (position : Nat) :
    ∃ tokens, tokenizeFrom position cs = .ok tokens ∧ tokens.map (·.kind) = [.stop] := by
  refine ⟨[⟨.stop, position + byteLength cs⟩], ?_, rfl⟩
  rw [← List.append_nil cs, tokenizeFrom_append_blanks h, tokenizeFrom_nil, List.append_nil]

/-- Characters that are cut off as a token are the first token. -/
theorem tokenizeFrom_written {k : TokenKind} {written rest : List Char} (h : Scans k written rest)
    (position : Nat) :
    tokenizeFrom position (written ++ rest)
      = (tokenizeFrom (position + byteLength written) rest).map (⟨k, position⟩ :: ·) := by
  obtain ⟨c, tail, rfl, hc, hscan⟩ := h
  rw [List.cons_append, tokenizeFrom_scan hc (hscan position), List.take_left, List.drop_left,
    byteLength_cons, Nat.add_assoc]

/-- Where no blank stands, a token does, and the other tokens are those of what is left. -/
theorem exists_scan_of_tokenizeFrom {c : Char} (hc : isBlank c = false) {position : Nat}
    {cs : List Char} {tokens : List Token} (h : tokenizeFrom position (c :: cs) = .ok tokens) :
    ∃ k n rest, scan position c cs = .ok (k, n)
      ∧ tokenizeFrom (position + c.utf8Size + byteLength (cs.take n)) (cs.drop n) = .ok rest
      ∧ tokens = ⟨k, position⟩ :: rest := by
  cases hscan : scan position c cs with
  | error e =>
      rw [tokenizeFrom, if_neg (by simp [hc]), hscan] at h
      cases h
  | ok result =>
      obtain ⟨k, n⟩ := result
      rw [tokenizeFrom_scan hc hscan] at h
      cases hrest : tokenizeFrom (position + c.utf8Size + byteLength (cs.take n)) (cs.drop n) with
      | error e =>
          rw [hrest] at h
          cases h
      | ok rest =>
          rw [hrest] at h
          cases h
          exact ⟨k, n, rest, rfl, hrest, rfl⟩

end Lexer

/-! ## Lexemes -/

/-- A token as it stands in a text, with the blanks after it. -/
structure Lexeme where
  kind : TokenKind
  written : List Char
  gap : List Char
  spells : kind.Spells written
  isBlank_gap : gap.all isBlank = true

namespace Lexeme

/-- The characters up to the next lexeme. -/
def chars (l : Lexeme) : List Char := l.written ++ l.gap

/-- The tokens of lexemes from a position on; the last one is the stop token. -/
def tokens (position : Nat) : List Lexeme → List Token
  | [] => [⟨.stop, position⟩]
  | l :: ls => ⟨l.kind, position⟩ :: tokens (position + byteLength l.chars) ls

theorem map_kind_tokens (position : Nat) (ls : List Lexeme) :
    (tokens position ls).map (·.kind) = ls.map (·.kind) ++ [.stop] := by
  induction ls generalizing position with
  | nil => rfl
  | cons l ls ih =>
      rw [tokens, List.map_cons, ih]
      rfl

end Lexeme

/-- The tokens of a text are those of lexemes that make up the text, after some blanks. -/
theorem Lexer.exists_lexemes (cs : List Char) {position : Nat} {tokens : List Token}
    (h : tokenizeFrom position cs = .ok tokens) :
    ∃ lead lexemes, cs = lead ++ lexemes.flatMap Lexeme.chars ∧ lead.all isBlank = true
      ∧ tokens = Lexeme.tokens (position + byteLength lead) lexemes := by
  induction hlength : cs.length using Nat.strongRecOn generalizing cs position tokens with
  | ind length ih =>
    cases cs with
    | nil =>
        rw [tokenizeFrom_nil] at h
        cases h
        exact ⟨[], [], rfl, rfl, rfl⟩
    | cons c cs =>
        rw [List.length_cons] at hlength
        cases hblank : isBlank c with
        | true =>
            rw [tokenizeFrom_blank hblank] at h
            obtain ⟨lead, lexemes, hcs, hlead, htokens⟩ := ih cs.length (by omega) cs h rfl
            refine ⟨c :: lead, lexemes, by rw [hcs, List.cons_append], ?_, ?_⟩
            · exact Bool.and_eq_true_iff.2 ⟨hblank, hlead⟩
            · rw [htokens, byteLength_cons, Nat.add_assoc]
        | false =>
            obtain ⟨k, n, rest, hscan, hrest, rfl⟩ := exists_scan_of_tokenizeFrom hblank h
            have hshorter : (cs.drop n).length < length := by
              rw [List.length_drop]
              omega
            obtain ⟨gap, lexemes, hcs, hgap, htokens⟩ := ih _ hshorter _ hrest rfl
            refine ⟨[], ⟨k, c :: cs.take n, gap, spells_of_scan hscan, hgap⟩ :: lexemes, ?_, rfl, ?_⟩
            · calc
                c :: cs = c :: cs.take n ++ cs.drop n := by
                  rw [List.cons_append, List.take_append_drop]
                _ = (c :: cs.take n ++ gap) ++ lexemes.flatMap Lexeme.chars := by
                  rw [hcs, List.append_assoc]
            · rw [htokens, Lexeme.tokens, Lexeme.chars, byteLength_append, byteLength_cons]
              simp only [byteLength_nil, Nat.add_zero, Nat.add_assoc]

/-- Every token of a text can be written, and a stop token comes last. -/
theorem tokenize_lexical {text : String} {tokens : List Token} (h : tokenize text = .ok tokens) :
    ∃ ts, tokens.map (·.kind) = ts ++ [.stop] ∧ ∀ k ∈ ts, k.IsLexical := by
  obtain ⟨lead, lexemes, -, -, rfl⟩ := exists_lexemes text.toList h
  refine ⟨lexemes.map (·.kind), Lexeme.map_kind_tokens _ lexemes, fun k hk => ?_⟩
  obtain ⟨l, -, rfl⟩ := List.mem_map.1 hk
  exact l.spells.isLexical

/-! ## The plain spelling -/

/-- How a token is written: a number as a decimal text that is read as it, a string between double
quotes with a backslash before each backslash and each quote. -/
def TokenKind.Spelled : TokenKind → List Char → Prop
  | .word name, cs => cs = name.toList
  | .number x, cs => readDecimal cs = some x
  | .string s, cs => cs = '"' :: (s.toList.flatMap (escaped '"') ++ ['"'])
  | .symbol s, cs => cs = s.spelling.toList
  | .stop, _ => False

theorem TokenKind.Spelled.spells {k : TokenKind} {written : List Char} (h : k.Spelled written)
    (hk : k.IsLexical) : k.Spells written := by
  cases k with
  | word name => exact h ▸ .word hk
  | number x =>
      obtain ⟨hnumeral, hfilter⟩ := isNumeral_of_readDecimal h
      exact .number hnumeral (hfilter.symm ▸ h)
  | string s =>
      have hs := Spells.quoted (.inl rfl) (escapes_escaped rfl s.toList)
      rw [String.ofList_toList] at hs
      exact h ▸ hs
  | symbol s => exact h ▸ .symbol s
  | stop => cases h

/-! ## Texts -/

/-- The characters write the tokens one after the other, with any blanks around them; a token that
would run together with the next character has a blank after it. -/
inductive Layout (spelled : TokenKind → List Char → Prop) : List TokenKind → List Char → Prop where
  | nil : Layout spelled [] []
  | blank {c : Char} {ts : List TokenKind} {cs : List Char} (hc : isBlank c = true)
      (h : Layout spelled ts cs) : Layout spelled ts (c :: cs)
  | token {k : TokenKind} {ts : List TokenKind} {written cs : List Char} (hk : spelled k written)
      (hends : k.endsBefore cs = true) (h : Layout spelled ts cs) :
      Layout spelled (k :: ts) (written ++ cs)

/-- A text is cut into the tokens that it was written from. -/
theorem tokenizeFrom_layout {spelled : TokenKind → List Char → Prop} {ts : List TokenKind}
    {cs : List Char} (h : Layout spelled ts cs)
    (hscans : ∀ k ∈ ts, ∀ written rest, spelled k written → k.endsBefore rest = true →
      Scans k written rest) (position : Nat) :
    ∃ tokens, tokenizeFrom position cs = .ok tokens ∧ tokens.map (·.kind) = ts ++ [.stop] := by
  induction h generalizing position with
  | nil => exact ⟨_, tokenizeFrom_nil position, rfl⟩
  | blank hc _ ih =>
      rw [tokenizeFrom_blank hc]
      exact ih hscans _
  | @token k ts written cs hk hends _ ih =>
      obtain ⟨tokens, htokens, hkinds⟩ := ih (fun k' hk' => hscans k' (List.mem_cons_of_mem _ hk'))
        (position + byteLength written)
      refine ⟨⟨k, position⟩ :: tokens, ?_, by rw [List.map_cons, hkinds]; rfl⟩
      rw [tokenizeFrom_written (hscans k List.mem_cons_self written cs hk hends), htokens]
      rfl

end LabelRules
