import LabelRules.Proofs.Parsing.Lexing

set_option autoImplicit false

/-! # A text is the lexemes of its tokens

Nothing of a text is lost when it is cut into tokens: the text is some blanks and then one lexeme
for each token, and a token starts where its lexeme does (`tokenize_partition`). So the positions
increase and lie between characters, and a character that is no blank belongs to exactly one token.
-/

namespace LabelRules

open Lexer

theorem TokenKind.Spells.byteLength_pos {k : TokenKind} {written : List Char}
    (h : k.Spells written) : 0 < byteLength written := by
  have hscans : Scans k written [] := h.scans rfl
  obtain ⟨c, tail, rfl, -, -⟩ := hscans
  rw [byteLength_cons]
  exact Nat.add_pos_left c.utf8Size_pos _

/-- Two ways to cut a list: a member after the second cut lies on one side of the first. -/
theorem cons_left_or_right {α : Type} {xs ys before after : List α} {c : α}
    (h : xs ++ ys = before ++ c :: after) :
    (∃ between, xs = before ++ c :: between)
      ∨ ∃ between, before = xs ++ between ∧ ys = between ++ c :: after := by
  rcases List.append_eq_append_iff.1 h with ⟨between, hbefore, hys⟩ | ⟨between, hxs, hafter⟩
  · exact .inr ⟨between, hbefore, hys⟩
  · cases between with
    | nil => exact .inr ⟨[], by rw [hxs, List.append_nil, List.append_nil], hafter.symm⟩
    | cons d between =>
        obtain ⟨rfl, -⟩ := List.cons.inj hafter
        exact .inl ⟨between, hxs⟩

namespace Lexeme

/-! ## Where the tokens are -/

/-- The stop token comes last, at the end of the lexemes, and is the only one. -/
theorem tokens_eq_append_stop (position : Nat) (ls : List Lexeme) :
    ∃ ts, tokens position ls = ts ++ [⟨.stop, position + byteLength (ls.flatMap chars)⟩]
      ∧ ∀ t ∈ ts, t.kind ≠ .stop := by
  induction ls generalizing position with
  | nil => exact ⟨[], rfl, by simp⟩
  | cons l ls ih =>
      obtain ⟨ts, htokens, hts⟩ := ih (position + byteLength l.chars)
      refine ⟨⟨l.kind, position⟩ :: ts, ?_, List.forall_mem_cons.2 ⟨l.spells.ne_stop, hts⟩⟩
      rw [tokens, htokens, List.flatMap_cons, byteLength_append, Nat.add_assoc, List.cons_append]

/-- Every token starts after some of the characters. -/
theorem position_of_mem_tokens {position : Nat} {ls : List Lexeme} {t : Token}
    (h : t ∈ tokens position ls) :
    ∃ before after, ls.flatMap chars = before ++ after
      ∧ t.position = position + byteLength before := by
  induction ls generalizing position with
  | nil =>
      obtain rfl := List.mem_singleton.1 h
      exact ⟨[], [], rfl, rfl⟩
  | cons l ls ih =>
      rcases List.mem_cons.1 h with rfl | h
      · exact ⟨[], _, rfl, rfl⟩
      · obtain ⟨before, after, hchars, hposition⟩ := ih h
        refine ⟨l.chars ++ before, after, ?_, ?_⟩
        · rw [List.flatMap_cons, hchars, List.append_assoc]
        · rw [hposition, byteLength_append, Nat.add_assoc]

theorem le_position_of_mem_tokens {position : Nat} {ls : List Lexeme} {t : Token}
    (h : t ∈ tokens position ls) : position ≤ t.position := by
  obtain ⟨before, -, -, hposition⟩ := position_of_mem_tokens h
  omega

theorem pairwise_tokens (position : Nat) (ls : List Lexeme) :
    (tokens position ls).Pairwise fun t u => t.position < u.position := by
  induction ls generalizing position with
  | nil => exact List.pairwise_singleton _ _
  | cons l ls ih =>
      refine List.pairwise_cons.2 ⟨fun t ht => ?_, ih _⟩
      have hle := le_position_of_mem_tokens ht
      have hpos := l.spells.byteLength_pos
      rw [chars, byteLength_append] at hle
      show position < t.position
      omega

/-! ## Which token a character belongs to -/

/-- The character at an offset belongs to the token of an index: it is one of those that write the
token. -/
def Owns (tokens : List Token) (ls : List Lexeme) (offset i : Nat) : Prop :=
  ∃ t ∈ tokens[i]?, ∃ l ∈ ls[i]?,
    t.position ≤ offset ∧ offset < t.position + byteLength l.written

variable {position offset : Nat} {l : Lexeme} {ls : List Lexeme}

theorem owns_zero :
    Owns (tokens position (l :: ls)) (l :: ls) offset 0
      ↔ position ≤ offset ∧ offset < position + byteLength l.written := by
  simp [Owns, tokens]

theorem owns_succ {i : Nat} :
    Owns (tokens position (l :: ls)) (l :: ls) offset (i + 1)
      ↔ Owns (tokens (position + byteLength l.chars) ls) ls offset i :=
  Iff.rfl

theorem le_of_owns {i : Nat} (h : Owns (tokens position ls) ls offset i) : position ≤ offset := by
  obtain ⟨t, ht, l, -, hle, -⟩ := h
  exact (le_position_of_mem_tokens (List.mem_of_getElem? ht)).trans hle

theorem owns_unique {i j : Nat} (hi : Owns (tokens position ls) ls offset i)
    (hj : Owns (tokens position ls) ls offset j) : i = j := by
  induction ls generalizing position i j with
  | nil =>
      obtain ⟨_, -, _, hnone, -⟩ := hi
      cases hnone
  | cons l ls ih =>
      -- What belongs to a later token comes after all the characters of this one.
      have hlater : ∀ k, Owns (tokens position (l :: ls)) (l :: ls) offset (k + 1) →
          ¬ Owns (tokens position (l :: ls)) (l :: ls) offset 0 := by
        intro k hk hzero
        have hle := le_of_owns (owns_succ.1 hk)
        have hlt := (owns_zero.1 hzero).2
        rw [chars, byteLength_append] at hle
        omega
      cases i with
      | zero =>
          cases j with
          | zero => rfl
          | succ j => exact absurd hi (hlater j hj)
      | succ i =>
          cases j with
          | zero => exact absurd hj (hlater i hi)
          | succ j => rw [ih (owns_succ.1 hi) (owns_succ.1 hj)]

theorem exists_owns {before after : List Char} {c : Char}
    (h : ls.flatMap chars = before ++ c :: after) (hc : isBlank c = false) :
    ∃ i, Owns (tokens position ls) ls (position + byteLength before) i := by
  induction ls generalizing position before with
  | nil => simp at h
  | cons l ls ih =>
      rw [List.flatMap_cons] at h
      rcases cons_left_or_right h with ⟨between, hchars⟩ | ⟨between, rfl, hrest⟩
      · rcases cons_left_or_right hchars with ⟨more, hwritten⟩ | ⟨more, -, hgap⟩
        · refine ⟨0, owns_zero.2 ⟨Nat.le_add_right _ _, ?_⟩⟩
          have hpos := c.utf8Size_pos
          rw [hwritten, byteLength_append, byteLength_cons]
          omega
        · have hblank := List.all_eq_true.1 l.isBlank_gap c (by simp [hgap])
          rw [hc] at hblank
          cases hblank
      · obtain ⟨i, hi⟩ := @ih (position + byteLength l.chars) between hrest
        refine ⟨i + 1, owns_succ.2 ?_⟩
        rwa [byteLength_append, ← Nat.add_assoc]

end Lexeme

/-! ## The partition -/

/-- The tokens cut the text into some blanks and one lexeme for each token but the last. -/
structure Partition (text : String) (tokens : List Token) (lead : List Char)
    (lexemes : List Lexeme) : Prop where
  /-- The blanks and the lexemes are the text. -/
  toList_eq : text.toList = lead ++ lexemes.flatMap Lexeme.chars
  isBlank_lead : lead.all isBlank = true
  /-- Each token starts where its lexeme does. -/
  tokens_eq : tokens = Lexeme.tokens (byteLength lead) lexemes
  stop_last : ∃ ts, tokens = ts ++ [⟨.stop, text.utf8ByteSize⟩] ∧ ∀ t ∈ ts, t.kind ≠ .stop
  increasing : tokens.Pairwise fun t u => t.position < u.position
  /-- The positions lie between characters. -/
  isValid : ∀ t ∈ tokens, String.Pos.Raw.IsValid text ⟨t.position⟩
  existsUnique_owns : ∀ before c after, text.toList = before ++ c :: after → isBlank c = false →
    ∃! i, Lexeme.Owns tokens lexemes (byteLength before) i

/-- **Nothing is lost in cutting a text into tokens.** A text that has tokens is some blanks and
then, for each token but the stop token, the characters that write it and the blanks up to the next
token. Each character that is no blank belongs to exactly one token. -/
theorem tokenize_partition {text : String} {tokens : List Token} (h : tokenize text = .ok tokens) :
    ∃ lead lexemes, Partition text tokens lead lexemes := by
  obtain ⟨lead, lexemes, htext, hlead, htokens⟩ := exists_lexemes text.toList h
  rw [Nat.zero_add] at htokens
  subst htokens
  have hsize : text.utf8ByteSize = byteLength lead + byteLength (lexemes.flatMap Lexeme.chars) := by
    rw [← byteLength_toList, htext, byteLength_append]
  refine ⟨lead, lexemes, htext, hlead, rfl, ?_, Lexeme.pairwise_tokens _ _, fun t ht => ?_,
    fun before c after hbefore hc => ?_⟩
  · rw [hsize]
    exact Lexeme.tokens_eq_append_stop _ _
  · obtain ⟨before, after, hchars, hposition⟩ := Lexeme.position_of_mem_tokens ht
    refine String.Pos.Raw.isValid_iff_exists_append.2
      ⟨String.ofList (lead ++ before), String.ofList after, ?_, ?_⟩
    · rw [← String.ofList_append, List.append_assoc, ← hchars, ← htext, String.ofList_toList]
    · rw [hposition, ← byteLength_append]
      refine String.Pos.Raw.ext ?_
      show byteLength (lead ++ before) = (String.ofList (lead ++ before)).utf8ByteSize
      rw [← byteLength_toList, String.toList_ofList]
  · rw [htext] at hbefore
    obtain ⟨between, hlead'⟩ | ⟨between, rfl, hchars⟩ := cons_left_or_right hbefore
    · have hblank := List.all_eq_true.1 hlead c (by simp [hlead'])
      rw [hc] at hblank
      cases hblank
    · rw [byteLength_append]
      obtain ⟨i, hi⟩ := Lexeme.exists_owns hchars hc
      exact ⟨i, hi, fun j hj => Lexeme.owns_unique hj hi⟩

/-- Characters of several bytes in blanks and strings, an underscore before the point of a number
and a dot that is none, an escape, and backticks. -/
theorem tokenize_partition_mixed : ∃ tokens : List Token,
    tokens = [⟨.word "x", 2⟩, ⟨.symbol .eqEq, 3⟩, ⟨.number 1.5, 5⟩, ⟨.symbol .dot, 10⟩,
      ⟨.word "y", 11⟩, ⟨.string "\n€", 12⟩, ⟨.string "é\\", 20⟩, ⟨.stop, 25⟩]
    ∧ tokenize "\u00a0x==1_.50.y\"\\n€\" `é\\`" = .ok tokens
    ∧ ∃ lead lexemes, Partition "\u00a0x==1_.50.y\"\\n€\" `é\\`" tokens lead lexemes := by
  have htokens : tokenize "\u00a0x==1_.50.y\"\\n€\" `é\\`"
      = .ok [⟨.word "x", 2⟩, ⟨.symbol .eqEq, 3⟩, ⟨.number 1.5, 5⟩, ⟨.symbol .dot, 10⟩,
          ⟨.word "y", 11⟩, ⟨.string "\n€", 12⟩, ⟨.string "é\\", 20⟩, ⟨.stop, 25⟩] := by
    decide +kernel
  exact ⟨_, rfl, htokens, tokenize_partition htokens⟩

end LabelRules
