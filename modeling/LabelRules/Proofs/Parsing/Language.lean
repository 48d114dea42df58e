import LabelRules.Program
import LabelRules.Proofs.Parsing.Completeness
import LabelRules.Proofs.Parsing.Lexing
import LabelRules.Proofs.Parsing.Soundness

set_option autoImplicit false

/-! # The language of rule texts

What `parse` accepts, said of texts: `parse` reads a text as an expression exactly if the tokens of
the text write it within the limit (`parse_eq_ok_iff`). Without the limit this is the grammar
(`parse_iff_writes`), and with it no expression is deeper (`depth_le_of_parse`).
-/

namespace LabelRules

open LabelRules.Parser

section Tokens

variable {text : String} {tokens : List Token} {ts : List TokenKind}

/-- A text with a token is parsed by reading its tokens. -/
theorem parse_eq_expression (h : tokenize text = .ok tokens)
    (hkinds : tokens.map (·.kind) = ts ++ [.stop]) (hts : ts ≠ []) :
    parse text = expression tokens := by
  have hblank : text.toList.all isBlank = false := by
    rw [Bool.eq_false_iff]
    intro hall
    obtain ⟨tokens', htokens', hstop⟩ := Lexer.tokenizeFrom_of_all_isBlank hall 0
    obtain rfl : tokens = tokens' := Except.ok.inj (h.symm.trans htokens')
    exact hts (List.append_left_eq_self.1 (hkinds.symm.trans hstop))
  rw [parse, hblank, h]
  rfl

/-- What is parsed has been read from the tokens of the text. -/
theorem expression_of_parse {e : Expr} (h : parse text = .ok e) :
    ∃ tokens, tokenize text = .ok tokens ∧ expression tokens = .ok e := by
  unfold parse at h
  split at h
  · cases h
  split at h
  · cases h
  · next tokens htokens => exact ⟨tokens, htokens, h⟩

theorem stop_notMem_of_isLexical (hts : ∀ k ∈ ts, k.IsLexical) : .stop ∉ ts :=
  fun hstop => hts .stop hstop

/-- The tokens of a text but the stop token. -/
theorem exists_kinds (h : tokenize text = .ok tokens) :
    ∃ ts, tokens.map (·.kind) = ts ++ [.stop] ∧ (tokens.dropLast.map (·.kind) = ts)
      ∧ ∀ k ∈ ts, k.IsLexical := by
  obtain ⟨ts, hkinds, hts⟩ := tokenize_lexical h
  refine ⟨ts, hkinds, ?_, hts⟩
  rw [List.map_dropLast, hkinds, List.dropLast_concat]

/-- An expression is parsed exactly if the tokens write it, with no more nesting than the limit
allows, and it is not too deep itself. -/
theorem parse_eq_ok_iff (h : tokenize text = .ok tokens)
    (hkinds : tokens.map (·.kind) = ts ++ [.stop]) {e : Expr} :
    parse text = .ok e
      ↔ Derives (nestingLimit - 1) ts (.expr .ternary e) ∧ e.depth ≤ nestingLimit := by
  constructor
  · intro hparse
    obtain ⟨tokens', htokens', hread⟩ := expression_of_parse hparse
    obtain rfl : tokens = tokens' := Except.ok.inj (h.symm.trans htokens')
    obtain ⟨ts', hkinds', hts'⟩ := tokenize_lexical h
    obtain rfl : ts = ts' := List.append_cancel_right (hkinds.symm.trans hkinds')
    exact expression_derives hkinds (stop_notMem_of_isLexical hts') hread
  · rintro ⟨hderives, hdepth⟩
    have hne : ts ≠ [] := by
      rintro rfl
      obtain ⟨k, us, hnil, -⟩ := hderives.starts
      cases hnil
    rw [parse_eq_expression h hkinds hne]
    -- Within the limit nothing excuses the parser from reading the expression.
    rcases expression_agrees hkinds hderives with hread | ⟨hexcused, -⟩
    · exact hread
    · have hlimit : 0 < nestingLimit := by decide
      omega

/-- **The parser accepts its grammar.** What a text is parsed as is written by its tokens, and what
its tokens write is what the text is parsed as, unless the parser gives up because of the limit. -/
theorem parse_iff_writes (h : tokenize text = .ok tokens) :
    (∀ e, parse text = .ok e → Writes (tokens.dropLast.map (·.kind)) e)
      ∧ ∀ e, Writes (tokens.dropLast.map (·.kind)) e →
        parse text = .ok e ∨ ∃ position, parse text = .error (.tooDeep position) := by
  obtain ⟨ts, hkinds, rfl, -⟩ := exists_kinds h
  constructor
  · intro e hparse
    exact ⟨_, ((parse_eq_ok_iff h hkinds).1 hparse).1⟩
  · rintro e ⟨m, hderives⟩
    have hne : tokens.dropLast.map (·.kind) ≠ [] := by
      intro hnil
      rw [hnil] at hderives
      obtain ⟨k, us, hcons, -⟩ := hderives.starts
      cases hcons
    rw [parse_eq_expression h hkinds hne]
    exact (expression_agrees hkinds hderives).imp_right And.right

end Tokens

/-- The minus belongs to the number, and `not in` is one operator. -/
theorem parse_iff_writes_notIn :
    ∃ tokens, tokenize "a.b not in [-1]" = .ok tokens
      ∧ Writes (tokens.dropLast.map (·.kind))
          (.binary .notIn (.field ["a", "b"]) (.array [.literal (.number (-1))]))
      ∧ parse "a.b not in [-1]"
        = .ok (.binary .notIn (.field ["a", "b"]) (.array [.literal (.number (-1))])) := by
  let tokens : List Token :=
    [⟨.word "a", 0⟩, ⟨.symbol .dot, 1⟩, ⟨.word "b", 2⟩, ⟨.word "not", 4⟩, ⟨.word "in", 8⟩,
      ⟨.symbol .openBracket, 11⟩, ⟨.symbol .minus, 12⟩, ⟨.number 1, 13⟩,
      ⟨.symbol .closeBracket, 14⟩, ⟨.stop, 15⟩]
  have htokens : tokenize "a.b not in [-1]" = .ok tokens := by decide +kernel
  have hfield : Derives 2 [.word "a", .symbol .dot, .word "b"]
      (.expr .member (.field ["a", "b"])) :=
    .fields (.word (by decide)) ["b"]
  have hnumber : Derives 1 [.symbol .minus, .number 1] (.expr .unary (.literal (.number (-1)))) :=
    .negate (e := .literal (.number 1)) ((Derives.literal rfl).of_rank_le (by decide))
  have harray : Derives 2 [.symbol .openBracket, .symbol .minus, .number 1, .symbol .closeBracket]
      (.expr .primary (.array [.literal (.number (-1))])) :=
    .array (.last (hnumber.of_rank_le (by decide)))
  have hcomparison : Derives 2 ([.word "a", .symbol .dot, .word "b"] ++ ([.word "not", .word "in"]
      ++ [.symbol .openBracket, .symbol .minus, .number 1, .symbol .closeBracket]))
      (.expr .comparison (.binary .notIn (.field ["a", "b"]) (.array [.literal (.number (-1))]))) :=
    .binary (hfield.of_rank_le (by decide)) (by decide) (harray.of_rank_le (by decide))
  have hwrites : Writes (tokens.dropLast.map (·.kind))
      (.binary .notIn (.field ["a", "b"]) (.array [.literal (.number (-1))])) :=
    ⟨2, hcomparison.of_rank_le (by decide)⟩
  refine ⟨tokens, htokens, hwrites, ?_⟩
  rcases (parse_iff_writes htokens).2 _ hwrites with hparse | ⟨position, hparse⟩
  · exact hparse
  · have hok : (parse "a.b not in [-1]").isOk = true := by decide +kernel
    rw [hparse] at hok
    cases hok

/-! ## The limit -/

theorem depth_le_of_parse {text : String} {e : Expr} (h : parse text = .ok e) :
    e.depth ≤ nestingLimit := by
  obtain ⟨tokens, htokens, -⟩ := expression_of_parse h
  obtain ⟨ts, hkinds, -⟩ := tokenize_lexical htokens
  exact ((parse_eq_ok_iff htokens hkinds).1 h).2

theorem parse_of_compile {kind : Kind} {source : String} {p : Program}
    (h : Program.compile kind source = .ok p) : parse source = .ok p.expr := by
  obtain ⟨-, -, hexpr⟩ := Program.compile_eq_ok_iff.1 h
  unfold Program.expression at hexpr
  split at hexpr
  · cases hexpr
  next e hparse =>
  repeat' split at hexpr
  all_goals cases hexpr
  exact hparse

/-- **Expressions are bounded.** No text is parsed as an expression that is deeper than the limit,
and no program has one. -/
theorem depth_le_nestingLimit :
    (∀ text e, parse text = .ok e → e.depth ≤ nestingLimit)
      ∧ ∀ kind source p, Program.compile kind source = .ok p → p.expr.depth ≤ nestingLimit :=
  ⟨fun _ _ h => depth_le_of_parse h, fun _ _ _ h => depth_le_of_parse (parse_of_compile h)⟩

theorem depth_le_nestingLimit_product :
    (∃ e, parse "(1 + 2) * 3" = .ok e ∧ e.depth ≤ nestingLimit)
      ∧ ∃ p, Program.compile .exporter "(1 + 2) * 3 == 9" = .ok p
        ∧ p.expr.depth ≤ nestingLimit := by
  have hparse : (parse "(1 + 2) * 3").isOk = true := by decide +kernel
  have hcompile : (Program.compile .exporter "(1 + 2) * 3 == 9").isOk = true := by decide +kernel
  obtain ⟨e, he⟩ := exists_of_isOk hparse
  obtain ⟨p, hp⟩ := exists_of_isOk hcompile
  exact ⟨⟨e, he, depth_le_nestingLimit.1 _ _ he⟩, p, hp, depth_le_nestingLimit.2 _ _ _ hp⟩

end LabelRules
