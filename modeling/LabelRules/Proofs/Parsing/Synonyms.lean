import LabelRules.Proofs.Parsing.Interchange
import LabelRules.Proofs.Parsing.Language

set_option autoImplicit false

/-! # Words and symbols for the logical operators

`and`, `or` and `not` are other spellings of `&&`, `||` and `!`. In a list of tokens any of them
may be replaced by their other spellings, in both directions (`Respelled`), and the parser reads
the same expression, or none from both lists (`parse_respelled`). Two places are excepted, since a
word is no operator there: after a dot, where it is the name of a field, and before `in`, where
`not` is the first half of `not in`.
-/

namespace LabelRules

open LabelRules.Parser

/-- The exchange of any logical operator for its other spelling. -/
def Exchange.spellings : Exchange := ⟨fun k k' => k.Synonym k' ∨ k'.Synonym k, id⟩

/-- The kind of the token at an index. -/
def kindAt (ts : List Token) (i : Nat) : Option TokenKind := ts[i]?.map (·.kind)

/-- Lists of tokens that differ in nothing but positions and the spellings of logical operators. -/
structure Respelled (ts us : List Token) : Prop where
  kinds : List.Forall₂
    (fun t u => t.kind = u.kind ∨ t.kind.Synonym u.kind ∨ u.kind.Synonym t.kind) ts us
  /-- The token after a dot is the same. -/
  field : ∀ i, kindAt ts i = some (.symbol .dot) → kindAt ts (i + 1) = kindAt us (i + 1)
  /-- Before `in` no `not` is replaced, and none stands in for a `!`. -/
  notIn : ∀ i, kindAt ts (i + 1) = some (.word "in") →
    (kindAt ts i = some (.word "not") ↔ kindAt us i = some (.word "not"))

/-! ## From places to heads -/

theorem headKind_eq_getD (ts : List Token) : headKind ts = (kindAt ts 0).getD .stop := by
  cases ts <;> rfl

theorem kindAt_zero_of_headKind {ts : List Token} {k : TokenKind} (h : headKind ts = k)
    (hk : k ≠ .stop) : kindAt ts 0 = some k := by
  cases ts with
  | nil => exact absurd h.symm hk
  | cons t ts => exact congrArg some h

namespace Respelled

variable {ts us : List Token}

theorem tail {t u : Token} (h : Respelled (t :: ts) (u :: us)) : Respelled ts us where
  kinds := (List.forall₂_cons.1 h.kinds).2
  field i := h.field (i + 1)
  notIn i := h.notIn (i + 1)

/-- What is said of all places holds at the head of each rest of the tokens. -/
theorem interchanged (h : Respelled ts us) : Exchange.spellings.Interchanged ts us := by
  induction ts generalizing us with
  | nil =>
      obtain rfl := List.forall₂_nil_left_iff.1 h.kinds
      exact .nil
  | cons t ts ih =>
      obtain ⟨u, us, hkind, -, rfl⟩ := List.forall₂_cons_left_iff.1 h.kinds
      refine .cons hkind (fun hdot => ?_) (fun hin => ?_) (ih h.tail)
      · have hnext : kindAt ts 0 = kindAt us 0 := h.field 0 (congrArg some hdot)
        rw [headKind_eq_getD, headKind_eq_getD, hnext]
      · have hnext : kindAt ts 0 = some (.word "in") :=
          kindAt_zero_of_headKind hin TokenKind.noConfusion
        have hnot := h.notIn 0 hnext
        simpa [kindAt] using hnot

/-- The same expression is read from both lists, or none. -/
theorem expression_iff (h : Respelled ts us) (e : Expr) :
    expression ts = .ok e ↔ expression us = .ok e := by
  rcases Exchange.expression_alike h.interchanged with
    ⟨e', hts, hus⟩ | ⟨e', e'', hts, hus, -⟩
  · rw [hts, hus]
  · rw [hts, hus]
    exact ⟨nofun, nofun⟩

end Respelled

/-! ## Texts -/

/-- A text is parsed as what is read from its tokens. -/
theorem parse_iff_expression {text : String} {tokens : List Token}
    (h : tokenize text = .ok tokens) (e : Expr) :
    parse text = .ok e ↔ expression tokens = .ok e := by
  constructor
  · intro hparse
    obtain ⟨tokens', htokens', hread⟩ := expression_of_parse hparse
    obtain rfl : tokens = tokens' := Except.ok.inj (h.symm.trans htokens')
    exact hread
  · intro hread
    obtain ⟨ts, hkinds, -, hts⟩ := exists_kinds h
    have hne : ts ≠ [] := by
      rintro rfl
      obtain ⟨hderives, -⟩ := expression_derives hkinds (stop_notMem_of_isLexical hts) hread
      obtain ⟨k, us, hcons, -⟩ := hderives.starts
      cases hcons
    rw [parse_eq_expression h hkinds hne, hread]

/-- **The words and the symbols for the logical operators are interchangeable.** The parser reads
the same expression from two lists of tokens that differ in the spellings of logical operators only,
or fails on both; and so it does with two texts that have such lists of tokens. -/
theorem parse_respelled {ts us : List Token} (h : Respelled ts us) :
    (∀ e, expression ts = .ok e ↔ expression us = .ok e)
      ∧ ∀ text text' : String, tokenize text = .ok ts → tokenize text' = .ok us →
        ∀ e, parse text = .ok e ↔ parse text' = .ok e := by
  refine ⟨h.expression_iff, fun text text' hts hus e => ?_⟩
  calc parse text = .ok e ↔ expression ts = .ok e := parse_iff_expression hts e
    _ ↔ expression us = .ok e := h.expression_iff e
    _ ↔ parse text' = .ok e := (parse_iff_expression hus e).symm

/-- Three operators are replaced; the field `and` and the `not` before `in` are not. -/
theorem parse_respelled_notIn : ∃ ts us : List Token,
    tokenize "!a && x.and not in [b] or not c" = .ok ts
    ∧ tokenize "not a and x.and not in [b] || !c" = .ok us
    ∧ Respelled ts us
    ∧ (∀ e, expression ts = .ok e ↔ expression us = .ok e)
    ∧ ∀ e, parse "!a && x.and not in [b] or not c" = .ok e
      ↔ parse "not a and x.and not in [b] || !c" = .ok e := by
  let ts : List Token :=
    [⟨.symbol .bang, 0⟩, ⟨.word "a", 1⟩, ⟨.symbol .andAnd, 3⟩, ⟨.word "x", 6⟩, ⟨.symbol .dot, 7⟩,
      ⟨.word "and", 8⟩, ⟨.word "not", 12⟩, ⟨.word "in", 16⟩, ⟨.symbol .openBracket, 19⟩,
      ⟨.word "b", 20⟩, ⟨.symbol .closeBracket, 21⟩, ⟨.word "or", 23⟩, ⟨.word "not", 26⟩,
      ⟨.word "c", 30⟩, ⟨.stop, 31⟩]
  let us : List Token :=
    [⟨.word "not", 0⟩, ⟨.word "a", 4⟩, ⟨.word "and", 6⟩, ⟨.word "x", 10⟩, ⟨.symbol .dot, 11⟩,
      ⟨.word "and", 12⟩, ⟨.word "not", 16⟩, ⟨.word "in", 20⟩, ⟨.symbol .openBracket, 23⟩,
      ⟨.word "b", 24⟩, ⟨.symbol .closeBracket, 25⟩, ⟨.symbol .orOr, 27⟩, ⟨.symbol .bang, 30⟩,
      ⟨.word "c", 31⟩, ⟨.stop, 32⟩]
  have hts : tokenize "!a && x.and not in [b] or not c" = .ok ts := by decide +kernel
  have hus : tokenize "not a and x.and not in [b] || !c" = .ok us := by decide +kernel
  have hlength {i : Nat} {k : TokenKind} (hi : kindAt ts i = some k) : i < 15 := by
    by_contra hge
    have hnone : ts[i]? = none := List.getElem?_eq_none (Nat.le_of_not_lt hge)
    rw [kindAt, hnone] at hi
    cases hi
  have hplaces : ∀ i < 15,
      (kindAt ts i = some (.symbol .dot) → kindAt ts (i + 1) = kindAt us (i + 1))
      ∧ (kindAt ts (i + 1) = some (.word "in") →
        (kindAt ts i = some (.word "not") ↔ kindAt us i = some (.word "not"))) := by
    decide
  have hrespelled : Respelled ts us := by
    refine ⟨?_, fun i hi => (hplaces i (hlength hi)).1 hi, fun i hi => ?_⟩
    · exact .cons (.inr (.inr .not)) <| .cons (.inl rfl) <| .cons (.inr (.inr .and)) <|
        .cons (.inl rfl) <| .cons (.inl rfl) <| .cons (.inl rfl) <| .cons (.inl rfl) <|
        .cons (.inl rfl) <| .cons (.inl rfl) <| .cons (.inl rfl) <| .cons (.inl rfl) <|
        .cons (.inr (.inl .or)) <| .cons (.inr (.inl .not)) <| .cons (.inl rfl) <|
        .cons (.inl rfl) .nil
    · exact (hplaces i (Nat.lt_of_succ_lt (hlength hi))).2 hi
  obtain ⟨hexpression, hparse⟩ := parse_respelled hrespelled
  exact ⟨ts, us, hts, hus, hrespelled, hexpression, hparse _ _ hts hus⟩

end LabelRules
