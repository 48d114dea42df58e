import LabelRules.Proofs.Parsing.Language
import LabelRules.Proofs.Parsing.Rendering

set_option autoImplicit false

/-! # Writing and parsing

A text that writes an expression is parsed as that expression, and whatever a text is parsed as is
an expression that can be written (`parse_writtenAs`).
-/

namespace LabelRules

open LabelRules.Expr

/-- A text that writes an expression: its tokens, with any blanks between them. -/
def Expr.WrittenAs (e : Expr) (text : String) : Prop :=
  Layout TokenKind.Spelled e.tokens text.toList

/-- A text with the tokens of an expression is parsed as the expression. -/
theorem parse_of_tokens {e : Expr} {text : String} (hdepth : e.depth ≤ 64)
    (h : e.isWritable = true)
    (htokens : (tokenize text).toOption.map (List.map (·.kind)) = some (e.tokens ++ [.stop])) :
    parse text = .ok e := by
  obtain ⟨tokens, htokens, hkinds⟩ := Option.map_eq_some_iff.1 htokens
  have hlimit : nestingLimit = 128 := rfl
  have hderives := (derives_tokens e h).loosest
  cases hresult : tokenize text with
  | error error =>
      rw [hresult] at htokens
      cases htokens
  | ok tokens' =>
      rw [hresult] at htokens
      cases htokens
      exact (parse_eq_ok_iff hresult hkinds).2 ⟨hderives.mono (by omega), by omega⟩

theorem parse_of_writtenAs {e : Expr} {text : String} (hdepth : e.depth ≤ 64)
    (h : e.IsReadable) (htext : e.WrittenAs text) : parse text = .ok e := by
  have hlexical := allLexical_tokens e h
  obtain ⟨tokens, htokens, hkinds⟩ := tokenizeFrom_layout htext
    (fun k hk _ _ hspelled hrest => (hspelled.spells (hlexical k hk)).scans hrest) 0
  have hresult : tokenize text = .ok tokens := htokens
  refine parse_of_tokens hdepth h.1 ?_
  rw [hresult, ← hkinds]
  rfl

/-! ## What is parsed can be written -/

/-- The expressions of a phrase can be written and read back. -/
def Phrase.IsReadable : Phrase → Prop
  | .expr _ e => e.IsReadable
  | .items es => AreReadable es

theorem isReadable_literal {k : TokenKind} {v : Value} (hk : k.IsLexical)
    (h : k.literal? = some v) : (Expr.literal v).IsReadable := by
  unfold TokenKind.literal? at h
  split at h
  · next x =>
    cases h
    have hnumber : x.isNaN = false := hk
    refine ⟨?_, rfl⟩
    show (!x.isNaN && true) = true
    rw [hnumber]
    rfl
  · cases h
    exact ⟨rfl, rfl⟩
  · repeat' split at h
    all_goals cases h
    all_goals exact ⟨rfl, rfl⟩
  · cases h

theorem isReadable_negation {e : Expr} (h : e.IsReadable) : e.negation.IsReadable := by
  -- The minus before a number literal becomes a part of it.
  by_cases hnumber : ∃ x, e = .literal (.number x)
  · obtain ⟨x, rfl⟩ := hnumber
    have hx : x.isNaN = false := by
      simpa [isWritable, postorder, isWritableNode] using h.1
    exact @isReadable_literal (.number (-x)) _ ((Number.isNaN_neg x).trans hx) rfl
  · have hnode : isWritableNode (.unary .negate e) = true := by
      unfold isWritableNode
      split <;> first | rfl | simp_all
    have hnegation : e.negation = .unary .negate e := by
      unfold negation
      split
      · exact absurd ⟨_, rfl⟩ hnumber
      · rfl
    rw [hnegation]
    exact isReadable_negate.2 ⟨h, hnode⟩

theorem all_isIdentifier_of_accessors {names : List String} (h : AllLexical (accessors names)) :
    names.all isIdentifier = true := by
  refine List.all_eq_true.2 fun name hname => ?_
  exact h (.word name) (List.mem_flatMap.2 ⟨name, hname, by simp⟩)

theorem isReadable_field_append {path names : List String} (h : (field path).IsReadable)
    (hnames : names.all isIdentifier = true) : (field (path ++ names)).IsReadable := by
  cases path with
  | nil => cases h.1
  | cons name path =>
      obtain ⟨⟨hname, hpath⟩, hreserved⟩ := isReadable_field.1 h
      rw [List.cons_append]
      refine isReadable_field.2 ⟨⟨hname, ?_⟩, hreserved⟩
      rw [List.all_append, hpath, hnames]
      rfl

/-- What lexical tokens write can be written. -/
theorem isReadable_of_derives {n : Nat} {ts : List TokenKind} {p : Phrase} (h : Derives n ts p)
    (hts : AllLexical ts) : p.IsReadable := by
  induction h with
  | looser _ _ ih => exact ih hts
  | ternary _ _ _ ihc iht ihf =>
      simp only [allLexical_append, allLexical_cons] at hts
      exact isReadable_ternary.2 ⟨ihc hts.1, iht hts.2.2.1, ihf hts.2.2.2.2⟩
  | binary _ _ _ ihl ihr =>
      simp only [allLexical_append] at hts
      exact isReadable_binary.2 ⟨ihl hts.1, ihr hts.2.2⟩
  | not _ _ ih => exact isReadable_not.2 (ih (allLexical_cons.1 hts).2)
  | negate _ ih => exact isReadable_negation (ih (allLexical_cons.1 hts).2)
  | fields _ names ih =>
      obtain ⟨hpath, hnames⟩ := allLexical_append.1 hts
      exact isReadable_field_append (ih hpath) (all_isIdentifier_of_accessors hnames)
  | literal h => exact isReadable_literal (allLexical_cons.1 hts).1 h
  | word h => exact isReadable_field.2 ⟨⟨(allLexical_cons.1 hts).1, rfl⟩, h⟩
  | parens _ ih =>
      simp only [allLexical_append, allLexical_cons] at hts
      exact ih hts.2.1
  | call hname _ ih =>
      simp only [allLexical_append, allLexical_cons] at hts
      exact isReadable_call.2 ⟨ih hts.2.2.1, hname, hts.1⟩
  | array _ ih =>
      simp only [allLexical_append, allLexical_cons] at hts
      exact isReadable_array.2 (ih hts.2.1)
  | none => exact ⟨rfl, rfl⟩
  | last _ ih => exact areReadable_cons.2 ⟨ih hts, rfl, rfl⟩
  | more _ _ ih ihs =>
      simp only [allLexical_append, allLexical_cons] at hts
      exact areReadable_cons.2 ⟨ih hts.1, ihs hts.2.2⟩

theorem isReadable_of_parse {text : String} {e : Expr} (h : parse text = .ok e) :
    e.IsReadable := by
  obtain ⟨tokens, htokens, -⟩ := expression_of_parse h
  obtain ⟨ts, hkinds, -, hts⟩ := exists_kinds htokens
  exact isReadable_of_derives ((parse_eq_ok_iff htokens hkinds).1 h).1 hts

/-- **Writing and then parsing is the identity.** An expression of depth at most 64 is what its
texts are parsed as, if its literals are no arrays and are numbers where they are numbers at all, no
minus stands right before a number literal, its paths are not empty, all names are identifiers and
no path and no function starts with a keyword. Whatever is parsed, of any depth, is such an
expression. -/
theorem parse_writtenAs :
    (∀ (e : Expr) (text : String), e.depth ≤ 64 → e.isWritable = true → e.callsIdentifiers = true →
      e.WrittenAs text → parse text = .ok e)
      ∧ ∀ text e, parse text = .ok e → e.isWritable = true ∧ e.callsIdentifiers = true :=
  ⟨fun _ _ hdepth hwritable hcalls htext => parse_of_writtenAs hdepth ⟨hwritable, hcalls⟩ htext,
    fun _ _ h => isReadable_of_parse h⟩

/-- Parentheses, a negative number and a quote in a string. -/
theorem parse_writtenAs_quote :
    (Expr.binary .and (.unary .not (.binary .eq (.field ["a", "b"]) (.literal (.number (-1.5)))))
      (.call "f" [.literal (.string "x\"")])).WrittenAs "!(a.b == -1.5) && f(\"x\\\"\")"
    ∧ parse "!(a.b == -1.5) && f(\"x\\\"\")"
      = .ok (.binary .and
          (.unary .not (.binary .eq (.field ["a", "b"]) (.literal (.number (-1.5)))))
          (.call "f" [.literal (.string "x\"")])) := by
  have hwritten : (Expr.binary .and
      (.unary .not (.binary .eq (.field ["a", "b"]) (.literal (.number (-1.5)))))
      (.call "f" [.literal (.string "x\"")])).WrittenAs "!(a.b == -1.5) && f(\"x\\\"\")" := by
    have htokens : (Expr.binary .and
        (.unary .not (.binary .eq (.field ["a", "b"]) (.literal (.number (-1.5)))))
        (.call "f" [.literal (.string "x\"")])).tokens
        = [.symbol .bang, .symbol .openParen, .word "a", .symbol .dot, .word "b", .symbol .eqEq,
          .symbol .minus, .number 1.5, .symbol .closeParen, .symbol .andAnd, .word "f",
          .symbol .openParen, .string "x\"", .symbol .closeParen] := by
      decide +kernel
    have hchars : "!(a.b == -1.5) && f(\"x\\\"\")".toList
        = ['!'] ++ (['('] ++ (['a'] ++ (['.'] ++ (['b'] ++ ' ' :: (['=', '='] ++ ' ' :: (['-']
          ++ (['1', '.', '5'] ++ ([')'] ++ ' ' :: (['&', '&'] ++ ' ' :: (['f'] ++ (['(']
          ++ (['"', 'x', '\\', '"', '"'] ++ ([')'] ++ []))))))))))))) :=
      String.toList_ofList
    unfold WrittenAs
    rw [htokens, hchars]
    have hnumber : readDecimal ['1', '.', '5'] = some 1.5 := by decide +kernel
    repeat' first
      | exact Layout.nil
      | exact rfl
      | exact hnumber
      | refine Layout.blank (by decide) ?_
      | refine Layout.token ?_ (by decide +kernel) ?_
  refine ⟨hwritten, parse_writtenAs.1 _ _ ?_ ?_ ?_ hwritten⟩
  · decide
  · decide +kernel
  · decide +kernel

/-- The name of a function that is no identifier is not read back: a minus in it is an operator. -/
theorem not_parse_writtenAs_minus :
    (call "a-b" []).depth ≤ 64 ∧ (call "a-b" []).isWritable = true
      ∧ (call "a-b" []).WrittenAs "a-b()" ∧ parse "a-b()" ≠ .ok (call "a-b" []) := by
  have hchars : "a-b()".toList = ['a', '-', 'b'] ++ (['('] ++ ([')'] ++ [])) := String.toList_ofList
  refine ⟨by decide, by decide, ?_, fun hparse => ?_⟩
  · unfold WrittenAs
    rw [hchars]
    exact .token rfl (by decide) (.token rfl (by decide) (.token rfl (by decide) .nil))
  · have hname : (call "a-b" []).callsIdentifiers = false := by decide +kernel
    rw [(isReadable_of_parse hparse).2] at hname
    cases hname

end LabelRules
