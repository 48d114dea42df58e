import LabelRules.Proofs.Parsing.Interchange
import LabelRules.Proofs.Parsing.Language

set_option autoImplicit false

/-! # Writing tokens in another way

Tokens that are written with blanks between them are read back, however each of them is written and
whatever the blanks are (`tokenize_text`). As the parsers do not look at positions, a text can be
spaced and quoted in another way without a change of what it is parsed as, or of why it is not
parsed (`parse_text_congr`).
-/

namespace LabelRules

open Lexer

/-! ## Texts of lexemes -/

namespace Lexeme

/-- The text that starts with some blanks and goes on with lexemes. -/
def text (lead : List Char) (ls : List Lexeme) : String :=
  String.ofList (lead ++ ls.flatMap chars)

/-- Between any two of the lexemes there is a blank. -/
def Spaced (ls : List Lexeme) : Prop := ∀ l ∈ ls.dropLast, l.gap ≠ []

theorem Spaced.tail {l : Lexeme} {ls : List Lexeme} (h : Spaced (l :: ls)) :
    (l.gap ≠ [] ∨ ls.flatMap chars = []) ∧ Spaced ls := by
  cases ls with
  | nil => exact ⟨.inr rfl, fun _ hl => nomatch hl⟩
  | cons m ls =>
      refine ⟨.inl (h l ?_), fun l' hl' => h l' ?_⟩
      · rw [List.dropLast_cons_cons]
        exact List.mem_cons_self
      · rw [List.dropLast_cons_cons]
        exact List.mem_cons_of_mem _ hl'

end Lexeme

/-- Lexemes with blanks between them are cut into their tokens. -/
theorem Lexer.tokenizeFrom_lexemes {ls : List Lexeme} (h : Lexeme.Spaced ls) (position : Nat) :
    tokenizeFrom position (ls.flatMap Lexeme.chars) = .ok (Lexeme.tokens position ls) := by
  induction ls generalizing position with
  | nil => exact tokenizeFrom_nil position
  | cons l ls ih =>
      obtain ⟨hgap, hspaced⟩ := h.tail
      have hscans : Scans l.kind l.written (l.gap ++ ls.flatMap Lexeme.chars) :=
        l.spells.scans (l.kind.endsBefore_of_all_isBlank l.isBlank_gap _ hgap)
      rw [List.flatMap_cons, Lexeme.chars, List.append_assoc, tokenizeFrom_written hscans,
        tokenizeFrom_append_blanks l.isBlank_gap, Nat.add_assoc, ← byteLength_append,
        ih hspaced]
      rfl

/-- **Tokens are read back from any text that writes them** with blanks between them. -/
theorem tokenize_text {lead : List Char} (hlead : lead.all isBlank = true) {ls : List Lexeme}
    (h : Lexeme.Spaced ls) :
    tokenize (Lexeme.text lead ls) = .ok (Lexeme.tokens (byteLength lead) ls) := by
  rw [tokenize, Lexeme.text, String.toList_ofList, tokenizeFrom_append_blanks hlead, Nat.zero_add]
  exact tokenizeFrom_lexemes h _

/-! ## What the text is parsed as -/

/-- An error without the place where it was found. -/
def ParseError.unplaced : ParseError → ParseError
  | .emptyExpression => .emptyExpression
  | .unexpectedCharacter c _ => .unexpectedCharacter c 0
  | .unterminatedString _ => .unterminatedString 0
  | .invalidEscape c _ => .invalidEscape c 0
  | .invalidNumber literal _ => .invalidNumber literal 0
  | .unexpectedToken found expected _ => .unexpectedToken found expected 0
  | .unexpectedEnd expected => .unexpectedEnd expected
  | .fieldOfNonVariable field _ => .fieldOfNonVariable field 0
  | .tooDeep _ => .tooDeep 0

theorem ParseError.unplaced_eq {e e' : ParseError} (h : Exchange.unchanged.ErrorsAlike e e') :
    e.unplaced = e'.unplaced := by
  cases h with
  | unexpectedToken hkind expected =>
      obtain rfl := hkind.resolve_right id
      rfl
  | unexpectedEnd | fieldOfNonVariable | tooDeep => rfl

theorem interchanged_of_kinds {ts us : List Token} (h : ts.map (·.kind) = us.map (·.kind)) :
    Exchange.unchanged.Interchanged ts us := by
  induction ts generalizing us with
  | nil =>
      obtain rfl := List.map_eq_nil_iff.1 h.symm
      exact .nil
  | cons t ts ih =>
      cases us with
      | nil => cases h
      | cons u us =>
          obtain ⟨hhead, hkinds⟩ := List.cons.inj h
          have hkind : t.kind = u.kind := hhead
          have hmore := ih hkinds
          refine .cons (.inl hkind) (fun _ => ?_) (fun _ => by rw [hkind]) hmore
          exact (Exchange.pair_headKind hmore).resolve_right id

/-- Tokens of the same kinds are read as the same expression, or fail in the same way. -/
theorem expression_congr {ts us : List Token} (h : ts.map (·.kind) = us.map (·.kind)) :
    (Parser.expression ts).mapError ParseError.unplaced
      = (Parser.expression us).mapError ParseError.unplaced := by
  rcases Exchange.expression_alike (interchanged_of_kinds h) with
    ⟨e, hts, hus⟩ | ⟨e, e', hts, hus, he⟩
  · rw [hts, hus]
  · rw [hts, hus]
    exact congrArg Except.error (ParseError.unplaced_eq he)

theorem parse_text {lead : List Char} (hlead : lead.all isBlank = true) {ls : List Lexeme}
    (h : Lexeme.Spaced ls) :
    parse (Lexeme.text lead ls)
      = if ls = [] then .error .emptyExpression
        else Parser.expression (Lexeme.tokens (byteLength lead) ls) := by
  cases ls with
  | nil => simp [parse, Lexeme.text, hlead]
  | cons l ls =>
      exact parse_eq_expression (tokenize_text hlead h) (Lexeme.map_kind_tokens _ _)
        (List.cons_ne_nil _ _)

/-- Two texts with the same tokens are parsed alike. -/
theorem parse_text_congr {lead lead' : List Char} (hlead : lead.all isBlank = true)
    (hlead' : lead'.all isBlank = true) {ls ls' : List Lexeme} (h : Lexeme.Spaced ls)
    (h' : Lexeme.Spaced ls') (hkinds : ls.map (·.kind) = ls'.map (·.kind)) :
    (parse (Lexeme.text lead ls)).mapError ParseError.unplaced
      = (parse (Lexeme.text lead' ls')).mapError ParseError.unplaced := by
  have hnil : ls = [] ↔ ls' = [] := by
    rw [← List.map_eq_nil_iff (f := (·.kind)), hkinds, List.map_eq_nil_iff]
  rw [parse_text hlead h, parse_text hlead' h']
  by_cases hls : ls = []
  · rw [if_pos hls, if_pos (hnil.1 hls)]
  · rw [if_neg hls, if_neg (hnil.not.1 hls)]
    refine expression_congr ?_
    rw [Lexeme.map_kind_tokens, Lexeme.map_kind_tokens, hkinds]

/-! ## All spellings -/

/-- **Writing tokens and cutting the text is the identity,** whatever the spellings and the blanks.
Each numeral writes a number, and each string can be written between quotes of either kind with that
quote and the backslash escaped, and between backticks if it has none. A text of lexemes, after any
blanks, with blanks between any two of them, has their tokens and a stop token. Two such texts of
the same tokens are parsed as the same expression or fail alike. -/
theorem tokenize_respelled :
    (∀ cs, IsNumeral cs → ∃ x, (TokenKind.number x).Spells cs)
    ∧ (∀ s : String,
        (∀ quote, quote = '"' ∨ quote = '\x27' →
          (TokenKind.string s).Spells (quote :: (s.toList.flatMap (escaped quote) ++ [quote])))
        ∧ (rawQuote ∉ s.toList →
          (TokenKind.string s).Spells (rawQuote :: (s.toList ++ [rawQuote]))))
    ∧ ∀ (lead : List Char) (ls : List Lexeme), lead.all isBlank = true → Lexeme.Spaced ls →
        tokenize (Lexeme.text lead ls) = .ok (Lexeme.tokens (byteLength lead) ls)
        ∧ (Lexeme.tokens (byteLength lead) ls).map (·.kind) = ls.map (·.kind) ++ [.stop]
        ∧ ∀ (lead' : List Char) (ls' : List Lexeme), lead'.all isBlank = true →
          Lexeme.Spaced ls' → ls.map (·.kind) = ls'.map (·.kind) →
            (parse (Lexeme.text lead ls)).mapError ParseError.unplaced
              = (parse (Lexeme.text lead' ls')).mapError ParseError.unplaced := by
  refine ⟨fun cs hcs => ?_, fun s => ⟨fun quote hquote => spells_escaped hquote s, spells_raw⟩,
    fun lead ls hlead hspaced => ⟨tokenize_text hlead hspaced, Lexeme.map_kind_tokens _ _,
      fun lead' ls' hlead' hspaced' hkinds => ?_⟩⟩
  · obtain ⟨x, hx⟩ := exists_value_of_isNumeral hcs
    exact ⟨x, .number hcs hx⟩
  · exact parse_text_congr hlead hlead' hspaced hspaced' hkinds

/-- A number and a string, each written in two ways, with blanks of one and of several bytes. -/
theorem tokenize_respelled_backticks :
    ∃ ls ls' : List Lexeme,
      Lexeme.Spaced ls ∧ Lexeme.Spaced ls' ∧ ls.map (·.kind) = ls'.map (·.kind)
      ∧ Lexeme.text [] ls = "!\tnot 1_0.50 == \"it's \\\"\" "
      ∧ Lexeme.text ['\u00a0'] ls' = "\u00a0! not\n10.5\u2003== \x60it's \"\x60"
      ∧ tokenize "\u00a0! not\n10.5\u2003== \x60it's \"\x60"
        = .ok (Lexeme.tokens 2 ls')
      ∧ (parse "!\tnot 1_0.50 == \"it's \\\"\" ").mapError ParseError.unplaced
        = (parse "\u00a0! not\n10.5\u2003== \x60it's \"\x60").mapError ParseError.unplaced := by
  let ls : List Lexeme :=
    [⟨.symbol .bang, ['!'], ['\t'], .symbol .bang, by decide⟩,
      ⟨.word "not", "not".toList, [' '], .word (by decide), by decide⟩,
      ⟨.number 10.5, ['1', '_', '0', '.', '5', '0'], [' '],
        .number (@IsNumeral.fraction ['1', '_', '0'] ['5', '0'] (by decide) (by decide))
          (by decide +kernel), by decide⟩,
      ⟨.symbol .eqEq, ['=', '='], [' '], .symbol .eqEq, by decide⟩,
      ⟨.string "it's \"", _, [' '], (tokenize_respelled.2.1 _).1 '"' (.inl rfl), by decide⟩]
  let ls' : List Lexeme :=
    [⟨.symbol .bang, ['!'], [' '], .symbol .bang, by decide⟩,
      ⟨.word "not", "not".toList, ['\n'], .word (by decide), by decide⟩,
      ⟨.number 10.5, ['1', '0', '.', '5'], ['\u2003'],
        .number (@IsNumeral.fraction ['1', '0'] ['5'] (by decide) (by decide))
          (by decide +kernel), by decide⟩,
      ⟨.symbol .eqEq, ['=', '='], [' '], .symbol .eqEq, by decide⟩,
      ⟨.string "it's \"", _, [], (tokenize_respelled.2.1 _).2 (by decide), by decide⟩]
  have hspaced : Lexeme.Spaced ls := by
    simp [Lexeme.Spaced, ls]
  have hspaced' : Lexeme.Spaced ls' := by
    simp [Lexeme.Spaced, ls']
  have htext : Lexeme.text [] ls = "!\tnot 1_0.50 == \"it's \\\"\" " := by decide +kernel
  have htext' : Lexeme.text ['\u00a0'] ls' = "\u00a0! not\n10.5\u2003== \x60it's \"\x60" := by
    decide +kernel
  obtain ⟨htokens, -, -⟩ := tokenize_respelled.2.2 ['\u00a0'] ls' (by decide) hspaced'
  obtain ⟨-, -, hparse⟩ := tokenize_respelled.2.2 [] ls (by decide) hspaced
  have hcongr := hparse ['\u00a0'] ls' (by decide) hspaced' rfl
  rw [htext'] at htokens
  rw [htext, htext'] at hcongr
  exact ⟨ls, ls', hspaced, hspaced', rfl, htext, htext', htokens, hcongr⟩

end LabelRules
