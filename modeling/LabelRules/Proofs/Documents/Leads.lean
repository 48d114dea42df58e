import LabelRules.Document.Lexer
import LabelRules.Proofs.Documents.Quoting
import Mathlib.Tactic.Common

set_option autoImplicit false

/-! # States of the lexer that lead to others

The lexer turns back to texts that it has read, since they may turn out to be keys. What it gives in
the end is followed from state to state: a state leads to a later one if all the tokens that it
gives are those that the later one gives (`Lexer.Leads`). White space leads on
(`Lexer.next_space`, `Lexer.next_newline`), and so does each token (`Lexer.leads_token`).
-/

namespace LabelRules.Document

/-! ## States that lead to others -/

namespace Lexer

/-- All the tokens that a lexer gives are those that it gives from a later state on. -/
def Leads (s t : Lexer) : Prop :=
  ∀ settled fuel, s.rest.length < fuel →
    ∃ settled' fuel', t.rest.length < fuel' ∧ s.all settled fuel = t.all settled' fuel'

theorem Leads.refl (s : Lexer) : s.Leads s := fun settled fuel h => ⟨settled, fuel, h, rfl⟩

theorem Leads.trans {s t u : Lexer} (hst : s.Leads t) (htu : t.Leads u) : s.Leads u := by
  intro settled fuel h
  obtain ⟨settled', fuel', h', hall⟩ := hst settled fuel h
  obtain ⟨settled'', fuel'', h'', hall'⟩ := htu settled' fuel' h'
  exact ⟨settled'', fuel'', h'', hall.trans hall'⟩

/-- A token that is read leads on. -/
theorem Leads.of_next {s t u : Lexer} (hnext : s.next = .ok (t, true))
    (hexpire : t.expireKeys = .ok u) (hshorter : u.rest.length < s.rest.length) : s.Leads u := by
  intro settled fuel h
  -- A token takes a character at least, so one step of the bound is enough for it.
  obtain ⟨fuel, rfl⟩ : ∃ n, fuel = n + 1 := ⟨fuel - 1, by omega⟩
  refine ⟨u.settled, fuel, by omega, ?_⟩
  rw [all, hnext]
  simp only [hexpire]

/-- Two states with the same next token: what is before it is passed over. -/
theorem Leads.of_next_eq {s t : Lexer} (hnext : s.next = t.next) (htokens : s.tokens = t.tokens)
    (hshorter : t.rest.length ≤ s.rest.length) : s.Leads t := by
  intro settled fuel h
  obtain ⟨fuel, rfl⟩ : ∃ n, fuel = n + 1 := ⟨fuel - 1, by omega⟩
  refine ⟨settled, fuel + 1, by omega, ?_⟩
  rw [all, all, hnext, htokens]

/-- The tokens of a state that leads to the end of the text. -/
theorem Leads.all_eq {s t u : Lexer} (h : s.Leads t) (hnext : t.next = .ok (u, false))
    {settled fuel : Nat} (hfuel : s.rest.length < fuel) :
    s.all settled fuel = (u.tokens.toList, none) := by
  obtain ⟨settled', fuel', hfuel', hall⟩ := h settled fuel hfuel
  obtain ⟨fuel', rfl⟩ : ∃ n, fuel' = n + 1 := ⟨fuel' - 1, by omega⟩
  rw [hall, all, hnext]

/-! ## Outside of brackets -/

/-- The lexer before some characters, outside of brackets. -/
def before (p : Place) (cs : List Char) (tokens : List Token) (blocks : List Nat)
    (key : Option SimpleKey) (keyAllowed : Bool) : Lexer where
  rest := (placeFrom p cs).1
  stop := (placeFrom p cs).2
  tokens := tokens.toArray
  blocks := blocks
  key := key
  keyAllowed := keyAllowed

/-- Whatever a text starts with, its first character has the place of its start. -/
theorem exists_placeFrom_cons (p : Place) (c : Char) (cs : List Char) :
    ∃ d rest stop, placeFrom p (c :: cs) = (⟨d, p⟩ :: rest, stop) := by
  rw [placeFrom.eq_def]
  split
  · next h => cases h
  · exact ⟨_, _, _, rfl⟩
  · split_ifs <;> exact ⟨_, _, _, rfl⟩

section Before

variable (p : Place) (cs : List Char) (tokens : List Token) (blocks : List Nat)
  (key : Option SimpleKey) (keyAllowed : Bool)

theorem place_before : (before p cs tokens blocks key keyAllowed).place = p := by
  cases cs with
  | nil => rfl
  | cons c cs =>
      obtain ⟨d, rest, stop, hplace⟩ := exists_placeFrom_cons p c cs
      simp [before, place, hplace]

theorem rest_before_cons {c : Char} (h : staysInLine c = true) :
    (before p (c :: cs) tokens blocks key keyAllowed).rest
      = ⟨c, p⟩ :: (placeFrom p.next cs).1 := by
  simp [before, placeFrom_cons h]

/-- After a token the lexer stands before the characters that follow. -/
theorem emit_before {taken : List Char} (h : ∀ c ∈ taken, staysInLine c = true) (t : Token)
    (allowed : Bool) :
    { (before p (taken ++ cs) tokens blocks key keyAllowed).emit t with
        keyAllowed := allowed, rest := (placeFrom (p.advance taken.length) cs).1 }
      = before (p.advance taken.length) cs (tokens ++ [t]) blocks key allowed := by
  simp [before, emit, placeFrom_append h]

/-! ## White space -/

theorem next_space :
    (before p (' ' :: cs) tokens blocks key keyAllowed).next
      = (before p.next cs tokens blocks key keyAllowed).next := by
  simp only [next, before, placeFrom_cons (c := ' ') (by decide)]
  rfl

theorem next_newline :
    (before p ('\n' :: cs) tokens blocks key keyAllowed).next
      = (before (p.nextLine 1) cs tokens blocks key true).next := by
  simp only [next, before, placeFrom_newline]
  simp [skipSpacing, isBreak, inFlow]

end Before

/-! ## Keys that can no longer be keys -/

/-- What is no key in the lines below a place. -/
def Lapses (key : Option SimpleKey) (p : Place) : Prop :=
  ∀ k ∈ key, k.required = false ∧ k.place.line ≤ p.line

theorem lapses_none (p : Place) : Lapses none p := by simp [Lapses]

theorem expire_of_lapses {key : Option SimpleKey} {p q : Place} (h : Lapses key p)
    (hline : p.line < q.line) : expire q key = .ok none := by
  cases key with
  | none => rfl
  | some k =>
      obtain ⟨hrequired, hk⟩ := h k rfl
      have hstale : SimpleKey.isStale k q = true := by
        have : k.place.line < q.line := by omega
        simp [SimpleKey.isStale, this]
      simp [expire, hstale, hrequired]

/-- In its line a key lasts up to the limit. -/
theorem expire_of_near {k : SimpleKey} {n : Nat} (h : n ≤ keyLimit) :
    expire (k.place.advance n) (some k) = .ok (some k) := by
  have hstale : SimpleKey.isStale k (k.place.advance n) = false := by
    simpa [SimpleKey.isStale, Place.advance] using h
  simp [expire, hstale]

/-- What need not be a key lapses, sooner or later in its line. -/
theorem exists_lapses {k : SimpleKey} {p : Place} (h : k.required = false)
    (hline : k.place.line ≤ p.line) :
    ∃ key, expire p (some k) = .ok key ∧ Lapses key p := by
  cases hstale : SimpleKey.isStale k p with
  | true => exact ⟨none, by simp [expire, hstale, h], lapses_none p⟩
  | false =>
      refine ⟨some k, by simp [expire, hstale], ?_⟩
      intro k' hk'
      cases hk'
      exact ⟨h, hline⟩

/-! ## One token -/

/-- A character that starts a token wherever it stands. -/
def startsToken (c : Char) : Bool := !isSpacing c && c ≠ '#' && c ≠ byteOrderMark

/-- There is no block, or only one that is not indented. -/
def AtMargin (blocks : List Nat) : Prop := blocks = [] ∨ blocks = [0]

theorem atMargin_zero : AtMargin [0] := .inr rfl

/-- The column of the innermost of some blocks. -/
def indentOf (blocks : List Nat) : Int := blocks.head?.elim (-1) (↑)

section Token

variable {p : Place} {tokens : List Token} {blocks : List Nat} {key key' : Option SimpleKey}

/-- No block at the margin is closed within the text. -/
theorem closeBlocks_eq_self {s : Lexer} (h : AtMargin s.blocks) (column : Nat) :
    s.closeBlocks column = s := by
  have hclosed : (s.blocks.takeWhile fun b : Nat => decide ((column : Int) < b)) = [] := by
    obtain h | h := h <;> rw [h] <;> simp
  unfold closeBlocks
  rw [hclosed]
  simp

/-- The next token is the one at the first character that is not passed over. -/
theorem next_of_skip {s t : Lexer} {allowed : Bool} {q : Placed} {rest after : List Placed}
    (hskip : skipSpacing s.inFlow false s.keyAllowed s.rest = (allowed, rest))
    (hexpire : ({ s with keyAllowed := allowed, rest := rest } : Lexer).expireKeys = .ok t)
    (hclose : t.closeBlocks t.place.column = t) (hrest : t.rest = q :: after) :
    s.next = (t.tokenAt q after).map (·, true) := by
  simp only [next, hskip, hexpire, bind, Except.bind, hclose, hrest]
  cases t.tokenAt q after <;> rfl

/-- Where nothing is left the text ends. -/
theorem next_of_end {s t u : Lexer} {allowed : Bool} {rest : List Placed}
    (hskip : skipSpacing s.inFlow false s.keyAllowed s.rest = (allowed, rest))
    (hexpire : ({ s with keyAllowed := allowed, rest := rest } : Lexer).expireKeys = .ok t)
    (hclose : t.closeBlocks t.place.column = t) (hrest : t.rest = []) (hfinish : t.finish = .ok u) :
    s.next = .ok (u, false) := by
  simp only [next, hskip, hexpire, bind, Except.bind, hclose, hrest, hfinish]
  rfl

/-- At its own place a state has only its key to forget. -/
theorem expireKeys_before (cs : List Char) (keyAllowed : Bool) (hexpire : expire p key = .ok key') :
    (before p cs tokens blocks key keyAllowed).expireKeys
      = .ok (before p cs tokens blocks key' keyAllowed) := by
  rw [expireKeys, place_before]
  simp only [before, List.reverse_nil, List.mapM_nil, hexpire]
  rfl

/-- Where a character starts a token, that token is the next. -/
theorem next_token {c : Char} (cs : List Char) (keyAllowed : Bool) (hc : startsToken c = true)
    (hline : staysInLine c = true) (hblocks : AtMargin blocks)
    (hexpire : expire p key = .ok key') :
    (before p (c :: cs) tokens blocks key keyAllowed).next
      = ((before p (c :: cs) tokens blocks key' keyAllowed).tokenAt ⟨c, p⟩
          (placeFrom p.next cs).1).map (·, true) := by
  simp only [startsToken, Bool.and_eq_true, Bool.not_eq_true', decide_eq_true_eq] at hc
  obtain ⟨⟨hspacing, hcomment⟩, hmark⟩ := hc
  simp only [isSpacing, isBlank, Bool.or_eq_false_iff, beq_eq_false_iff_ne] at hspacing
  have hskip : skipSpacing false false keyAllowed
      (before p (c :: cs) tokens blocks key keyAllowed).rest
        = (keyAllowed, (before p (c :: cs) tokens blocks key keyAllowed).rest) := by
    rw [rest_before_cons p cs tokens blocks key keyAllowed hline, skipSpacing]
    simp [hspacing, hcomment, hmark]
  exact next_of_skip hskip (expireKeys_before _ _ hexpire) (closeBlocks_eq_self hblocks _)
    (rest_before_cons p cs tokens blocks key' keyAllowed hline)

/-- A token leads on past its characters. -/
theorem leads_token {cs more : List Char} {tokens' : List Token} {blocks' : List Nat}
    {key₁ key₂ : Option SimpleKey} {allowed allowed' : Bool}
    (hcs : ∀ c ∈ cs, staysInLine c = true) (hne : cs ≠ [])
    (hnext : (before p (cs ++ more) tokens blocks key allowed).next
      = .ok (before (p.advance cs.length) more tokens' blocks' key₁ allowed', true))
    (hexpire : expire (p.advance cs.length) key₁ = .ok key₂) :
    (before p (cs ++ more) tokens blocks key allowed).Leads
      (before (p.advance cs.length) more tokens' blocks' key₂ allowed') := by
  refine .of_next hnext (expireKeys_before _ _ hexpire) ?_
  have hlength : 0 < cs.length := List.length_pos_iff.2 hne
  simp only [before, placeFrom_append hcs, List.length_append, length_placeFrom hcs]
  omega

/-- Where a key may start, what is next is remembered. -/
theorem saveKey_before (cs : List Char) :
    (before p cs tokens blocks none true).saveKey
      = .ok (before p cs tokens blocks
          (some ⟨tokens.length, indentOf blocks == (p.column : Int), p⟩) true) := by
  have hindent : (before p cs tokens blocks none true).indent = indentOf blocks := by
    cases blocks <;> rfl
  have hdrop : (before p cs tokens blocks none true).dropKey
      = .ok (before p cs tokens blocks none true) := rfl
  simp only [saveKey, hindent, hdrop, place_before, bind, Except.bind]
  rfl

end Token

end Lexer

end LabelRules.Document
