import LabelRules.Proofs.Parsing.Reading
import Mathlib.Data.List.Basic

set_option autoImplicit false

/-! # What is read is derived

The tokens that a parser takes write the expression that it returns, and the expression is not
deeper than the limit (`read_taken`). There is one lemma for each parser; each takes from the
parsers inside it what `SoundBelow` says of them, and `read_taken` is the induction on the number of
levels that are left.
-/

namespace LabelRules

/-- The depth of a phrase; items are as deep as the deepest of them. -/
def Phrase.depth : Phrase → Nat
  | .expr _ e => e.depth
  | .items es => Expr.maxDepth es

namespace Parser

/-- The tokens before the rest have been taken, and write a phrase that is not too deep. -/
def Taken (n : Nat) (p : Phrase) (tokens rest : List Token) : Prop :=
  ∃ used, tokens = used ++ rest ∧ Derives n (used.map (·.kind)) p ∧ p.depth ≤ nestingLimit

/-- What is read at a level is derived there. -/
def SoundAt (n : Nat) (level : Level) : Prop :=
  ∀ tokens e rest, read (level.parser (nested n)) tokens = .ok (e, rest) →
    Taken n (.expr level e) tokens rest

/-- What the parsers inside another one read is derived. -/
def SoundBelow (n : Nat) : Prop := ∀ m, n = m + 1 → ∀ level, SoundAt m level

/-! ## Expressions inside others -/

section Below

variable {n : Nat} {tokens rest : List Token}

theorem ternary_of_nested {e : Expr} (hbelow : SoundBelow n)
    (h : read (nested n).ternary tokens = .ok (e, rest)) :
    ∃ m, n = m + 1 ∧ Taken m (.expr .ternary e) tokens rest := by
  cases n with
  | zero => cases h
  | succ m => exact ⟨m, rfl, hbelow m rfl .ternary tokens e rest h⟩

theorem unary_of_nested {e : Expr} (hbelow : SoundBelow n)
    (h : read (nested n).unary tokens = .ok (e, rest)) :
    ∃ m, n = m + 1 ∧ Taken m (.expr .unary e) tokens rest := by
  cases n with
  | zero => cases h
  | succ m => exact ⟨m, rfl, hbelow m rfl .unary tokens e rest h⟩

theorem kind_of_symbol {s : Symbol} {expected : Expected}
    (h : read (symbol s expected) tokens = .ok ((), rest)) :
    ∃ t, tokens = t :: rest ∧ t.kind = .symbol s := by
  cases tokens with
  | nil => cases h
  | cons t more =>
      rw [read_symbol_cons] at h
      split at h
      · next hs =>
        cases h
        exact ⟨t, rfl, Token.isSymbol_iff.1 hs⟩
      · cases h

/-- The items of a list, and the token that closes it. -/
def TakenItems (n : Nat) (es : List Expr) (close : Symbol) (tokens rest : List Token) : Prop :=
  ∃ t, t.kind = .symbol close ∧ Taken n (.items es) tokens (t :: rest)

theorem readItems_taken {close : Symbol} {expected : Expected} {es : List Expr}
    (hbelow : SoundBelow n)
    (h : readItems (nested n).ternary close expected tokens = .ok (es, rest)) :
    es ≠ [] ∧ TakenItems n es close tokens rest := by
  induction hlength : tokens.length using Nat.strongRecOn generalizing tokens es with
  | ind length ih =>
    rw [readItems_eq, bind_eq_ok_iff] at h
    obtain ⟨⟨e, afterItem⟩, hitem, h⟩ := h
    obtain ⟨m, rfl, used, rfl, hderives, hdepth⟩ := ternary_of_nested hbelow hitem
    cases afterItem with
    | nil => cases h
    | cons t more =>
        simp only at h
        split at h
        · next hcomma =>
          rw [bind_eq_ok_iff] at h
          obtain ⟨⟨es', left⟩, hmore, h⟩ := h
          cases h
          have hshorter : more.length < length := by
            rw [← hlength]
            simp only [List.length_append, List.length_cons]
            omega
          obtain ⟨hne, close', hclose', used', rfl, hderives', hdepth'⟩ :=
            ih more.length hshorter hmore rfl
          obtain ⟨e', es, rfl⟩ := List.exists_cons_of_ne_nil hne
          refine ⟨List.cons_ne_nil _ _, close', hclose', used ++ t :: used', by simp, ?_, ?_⟩
          · rw [List.map_append, List.map_cons, Token.isSymbol_iff.1 hcomma]
            exact .more hderives hderives'
          · exact Nat.max_le.2 ⟨hdepth, hdepth'⟩
        split at h
        · next hclose =>
          cases h
          refine ⟨List.cons_ne_nil _ _, t, Token.isSymbol_iff.1 hclose, used, rfl,
            .last hderives, ?_⟩
          exact Nat.max_le.2 ⟨hdepth, Nat.zero_le _⟩
        · cases h

theorem items_taken {close : Symbol} {expected : Expected} {es : List Expr}
    (hbelow : SoundBelow n)
    (h : read (items (nested n).ternary close expected) tokens = .ok (es, rest)) :
    TakenItems n es close tokens rest := by
  cases tokens with
  | nil => exact (readItems_taken hbelow h).2
  | cons t more =>
      rw [read_items_cons] at h
      split at h
      · next hclose =>
        cases h
        exact ⟨t, Token.isSymbol_iff.1 hclose, [], rfl, .none, Nat.zero_le _⟩
      · exact (readItems_taken hbelow h).2

end Below

/-! ## One lemma for each level -/

section Levels

variable {n : Nat} {tokens rest : List Token} {e : Expr}

theorem Taken.token {t : Token} {v : Value} (h : t.kind.literal? = some v) :
    Taken n (.expr .primary (.literal v)) (t :: rest) rest := by
  refine ⟨[t], rfl, .literal h, ?_⟩
  show 1 ≤ nestingLimit
  decide

theorem named_taken {t : Token} {name : String} (hbelow : SoundBelow n) (ht : t.kind = .word name)
    (hname : name ∉ reserved) (h : readNamed (nested n) name tokens = .ok (e, rest)) :
    Taken n (.expr .primary e) (t :: tokens) rest := by
  have hvariable : Taken n (.expr .primary (.field [name])) (t :: tokens) tokens := by
    refine ⟨[t], rfl, ?_, ?_⟩
    · rw [List.map_singleton, ht]
      exact .word hname
    · show 1 ≤ nestingLimit
      decide
  unfold readNamed at h
  split at h
  · cases h
    exact hvariable
  split at h
  · next u more hopen =>
    rw [bind_eq_ok_iff] at h
    obtain ⟨⟨es, left⟩, hitems, h⟩ := h
    simp only [bind_eq_ok_iff] at h
    obtain ⟨call, hbounded, h⟩ := h
    cases h
    obtain ⟨rfl, hdepth⟩ := depth_le_of_bounded hbounded
    obtain ⟨close, hclose, used, rfl, hderives, -⟩ := items_taken hbelow hitems
    refine ⟨t :: u :: (used ++ [close]), by simp, ?_, hdepth⟩
    simp only [List.map_cons, List.map_append, List.map_nil, ht, Token.isSymbol_iff.1 hopen,
      hclose]
    exact .call hname hderives
  · cases h
    exact hvariable

theorem primary_taken (hbelow : SoundBelow n) : SoundAt n .primary := by
  intro tokens e rest h
  change read (primary (nested n)) tokens = .ok (e, rest) at h
  cases tokens with
  | nil => cases h
  | cons t more =>
      rw [read_primary_cons] at h
      split at h
      · next x hk =>
        cases h
        exact Taken.token (by rw [hk]; rfl)
      · next s hk =>
        cases h
        exact Taken.token (by rw [hk]; rfl)
      · next hopen =>
        rw [bind_eq_ok_iff] at h
        obtain ⟨⟨e', afterItem⟩, hinner, h⟩ := h
        simp only [bind_eq_ok_iff] at h
        obtain ⟨⟨⟨⟩, left⟩, hsymbol, h⟩ := h
        cases h
        obtain ⟨m, rfl, used, rfl, hderives, hdepth⟩ := ternary_of_nested hbelow hinner
        obtain ⟨close, rfl, hclose⟩ := kind_of_symbol hsymbol
        refine ⟨t :: (used ++ [close]), by simp, ?_, hdepth⟩
        simp only [List.map_cons, List.map_append, List.map_nil, hopen, hclose]
        exact .parens hderives
      · next hopen =>
        rw [bind_eq_ok_iff] at h
        obtain ⟨⟨es, left⟩, hitems, h⟩ := h
        simp only [bind_eq_ok_iff] at h
        obtain ⟨array, hbounded, h⟩ := h
        cases h
        obtain ⟨rfl, hdepth⟩ := depth_le_of_bounded hbounded
        obtain ⟨close, hclose, used, rfl, hderives, -⟩ := items_taken hbelow hitems
        refine ⟨t :: (used ++ [close]), by simp, ?_, hdepth⟩
        simp only [List.map_cons, List.map_append, List.map_nil, hopen, hclose]
        exact .array hderives
      · next name hk =>
        split at h
        · next htrue =>
          cases h
          exact Taken.token (by rw [hk, htrue]; rfl)
        split at h
        · next hfalse =>
          cases h
          exact Taken.token (by rw [hk, hfalse]; rfl)
        split at h
        · next hnil =>
          cases h
          exact Taken.token (by rw [hk, hnil]; rfl)
        split at h
        · cases h
        · next hname => exact named_taken hbelow hk hname h
      · cases h

/-- Fields are taken after a variable only, and lengthen its path. -/
theorem readFields_taken {start : Nat} {e' : Expr}
    (h : readFields start e tokens = .ok (e', rest)) :
    (e' = e ∧ rest = tokens) ∨
      ∃ path names used, e = .field path ∧ e' = .field (path ++ names) ∧ tokens = used ++ rest
        ∧ used.map (·.kind) = accessors names := by
  induction hlength : tokens.length using Nat.strongRecOn generalizing tokens e with
  | ind length ih =>
    cases tokens with
    | nil =>
        cases h
        exact .inl ⟨rfl, rfl⟩
    | cons t more =>
        rw [readFields_cons] at h
        split at h
        · next hdot =>
          split at h
          · cases h
          next u more =>
          split at h
          · next name path hword =>
            have hshorter : more.length < length := by
              rw [← hlength]
              simp only [List.length_cons]
              omega
            have hkinds : [t, u].map (·.kind) = accessors [name] := by
              simp [accessors, hword, Token.isSymbol_iff.1 hdot]
            right
            rcases ih more.length hshorter h rfl with ⟨rfl, rfl⟩ | hmore
            · exact ⟨path, [name], [t, u], rfl, rfl, rfl, hkinds⟩
            · obtain ⟨_, names, used, hpath, rfl, rfl, hused⟩ := hmore
              cases hpath
              refine ⟨path, name :: names, t :: u :: used, rfl, by simp, rfl, ?_⟩
              calc
                (t :: u :: used).map (·.kind)
                  = [t, u].map (·.kind) ++ used.map (·.kind) := rfl
                _ = accessors [name] ++ accessors names := by rw [hkinds, hused]
                _ = accessors (name :: names) := by simp [accessors]
          · cases h
          · cases h
        · cases h
          exact .inl ⟨rfl, rfl⟩

theorem member_taken (hprimary : SoundAt n .primary) : SoundAt n .member := by
  intro tokens e rest h
  change read (member (nested n)) tokens = .ok (e, rest) at h
  rw [read_member, bind_eq_ok_iff] at h
  obtain ⟨⟨first, afterFirst⟩, hfirst, hfields⟩ := h
  obtain ⟨used, rfl, hderives, hdepth⟩ := hprimary _ _ _ hfirst
  rcases readFields_taken hfields with ⟨rfl, rfl⟩ | hnames
  · exact ⟨used, rfl, .looser (by decide) hderives, hdepth⟩
  · obtain ⟨path, names, used', rfl, rfl, rfl, hused'⟩ := hnames
    refine ⟨used ++ used', by simp, ?_, ?_⟩
    · rw [List.map_append, hused']
      exact .fields hderives names
    · show 1 ≤ nestingLimit
      decide

theorem unary_taken (hbelow : SoundBelow n) (hmember : SoundAt n .member) : SoundAt n .unary := by
  intro tokens e rest h
  change read (unary (nested n)) tokens = .ok (e, rest) at h
  have hlooser : read (member (nested n)) tokens = .ok (e, rest) →
      Taken n (.expr .unary e) tokens rest := by
    intro hread
    obtain ⟨used, htokens, hderives, hdepth⟩ := hmember _ _ _ hread
    exact ⟨used, htokens, .looser (by decide) hderives, hdepth⟩
  cases tokens with
  | nil => exact hlooser h
  | cons t more =>
      rw [read_unary_cons] at h
      split at h
      · next hnot =>
        rw [bind_eq_ok_iff] at h
        obtain ⟨⟨operand, left⟩, hinner, h⟩ := h
        simp only [bind_eq_ok_iff] at h
        obtain ⟨tree, hbounded, h⟩ := h
        cases h
        obtain ⟨rfl, hdepth⟩ := depth_le_of_bounded hbounded
        obtain ⟨m, rfl, used, rfl, hderives, -⟩ := unary_of_nested hbelow hinner
        refine ⟨t :: used, rfl, .not ?_ hderives, hdepth⟩
        simpa only [Bool.or_eq_true, Token.isSymbol_iff, Token.isWord_iff] using hnot
      split at h
      · next hminus =>
        rw [bind_eq_ok_iff] at h
        obtain ⟨⟨operand, left⟩, hinner, h⟩ := h
        simp only [bind_eq_ok_iff, negated_eq] at h
        obtain ⟨tree, hbounded, h⟩ := h
        cases h
        obtain ⟨rfl, hdepth⟩ := depth_le_of_bounded hbounded
        obtain ⟨m, rfl, used, rfl, hderives, -⟩ := unary_of_nested hbelow hinner
        refine ⟨t :: used, rfl, ?_, hdepth⟩
        rw [List.map_cons, Token.isSymbol_iff.1 hminus]
        exact .negate hderives
      · exact hlooser h

/-- Going on with a chain after a left operand: what has been taken writes the rest of it. -/
theorem readChain_taken {level : Level} (hnext : SoundAt n level.next) {left : Expr}
    (h : readChain (level.next.parser (nested n)) level.operatorAt left tokens = .ok (e, rest))
    (hleft : left.depth ≤ nestingLimit) :
    ∃ used, tokens = used ++ rest ∧ e.depth ≤ nestingLimit
      ∧ ∀ ls, Derives n ls (.expr level left) →
        Derives n (ls ++ used.map (·.kind)) (.expr level e) := by
  induction hlength : tokens.length using Nat.strongRecOn generalizing tokens left with
  | ind length ih =>
    cases hop : level.operatorAt tokens with
    | none =>
        rw [readChain_of_none _ hop] at h
        cases h
        exact ⟨[], rfl, hleft, fun ls hls => by simpa using hls⟩
    | some found =>
        obtain ⟨op, width⟩ := found
        rw [readChain_of_some _ hop, bind_eq_ok_iff] at h
        obtain ⟨⟨right, afterRight⟩, hright, h⟩ := h
        simp only [bind_eq_ok_iff] at h
        obtain ⟨tree, hbounded, h⟩ := h
        obtain ⟨rfl, hdepth⟩ := depth_le_of_bounded hbounded
        obtain ⟨written, afterOp, rfl, rfl, hwritten⟩ := Level.exists_of_operatorAt hop
        rw [List.drop_left] at hright
        obtain ⟨used, rfl, hderives, -⟩ := hnext _ _ _ hright
        -- The right operand takes a token, so the rest of the chain starts in fewer tokens.
        have hne : used ≠ [] := by
          rintro rfl
          obtain ⟨k, us, hnil, -⟩ := hderives.starts
          cases hnil
        have hshorter : afterRight.length < length := by
          have hpos := List.length_pos_iff.2 hne
          rw [← hlength]
          simp only [List.length_append]
          omega
        obtain ⟨used', rfl, hdepth', hderives'⟩ := ih _ hshorter h hdepth rfl
        refine ⟨written ++ (used ++ used'), by simp, hdepth', fun ls hls => ?_⟩
        have htree := hderives' _ (.binary hls hwritten hderives)
        simpa using htree

theorem chain_taken {level : Level} (hchain : level.isChain = true)
    (hnext : SoundAt n level.next) : SoundAt n level := by
  intro tokens e rest h
  rw [Level.read_of_isChain hchain, bind_eq_ok_iff] at h
  obtain ⟨⟨first, afterFirst⟩, hfirst, hmore⟩ := h
  obtain ⟨used, rfl, hderives, hdepth⟩ := hnext _ _ _ hfirst
  obtain ⟨used', rfl, hdepth', hderives'⟩ := readChain_taken hnext hmore hdepth
  have hne : level ≠ .primary := by
    rintro rfl
    cases hchain
  refine ⟨used ++ used', by simp, ?_, hdepth'⟩
  rw [List.map_append]
  exact hderives' _ (.looser hne hderives)

theorem ternary_taken (hbelow : SoundBelow n) (hdisjunction : SoundAt n .disjunction) :
    SoundAt n .ternary := by
  intro tokens e rest h
  change read (ternary (nested n)) tokens = .ok (e, rest) at h
  rw [read_ternary, bind_eq_ok_iff] at h
  obtain ⟨⟨condition, afterCondition⟩, hcondition, h⟩ := h
  obtain ⟨used, rfl, hderives, hdepth⟩ := hdisjunction _ _ _ hcondition
  have hlooser : Taken n (.expr .ternary condition) (used ++ afterCondition) afterCondition :=
    ⟨used, rfl, .looser (by decide) hderives, hdepth⟩
  simp only [readBranches] at h
  split at h
  · cases h
    exact hlooser
  split at h
  · next t more hquestion =>
    rw [bind_eq_ok_iff] at h
    obtain ⟨⟨whenTrue, afterTrue⟩, htrue, h⟩ := h
    simp only [bind_eq_ok_iff] at h
    obtain ⟨⟨⟨⟩, afterColon⟩, hsymbol, ⟨whenFalse, left⟩, hfalse, tree, hbounded, h⟩ := h
    cases h
    obtain ⟨rfl, hdepth'⟩ := depth_le_of_bounded hbounded
    obtain ⟨m, rfl, ts, rfl, hts, -⟩ := ternary_of_nested hbelow htrue
    obtain ⟨colon, rfl, hcolon⟩ := kind_of_symbol hsymbol
    obtain ⟨_, hm, fs, rfl, hfs, -⟩ := ternary_of_nested hbelow hfalse
    obtain rfl := Nat.succ.inj hm
    refine ⟨used ++ t :: (ts ++ colon :: fs), by simp, ?_, hdepth'⟩
    simp only [List.map_append, List.map_cons, Token.isSymbol_iff.1 hquestion, hcolon]
    exact .ternary hderives hts hfs
  · cases h
    exact hlooser

end Levels

/-- What is read at any level is derived there. -/
theorem soundAt_of_below {n : Nat} (hbelow : SoundBelow n) (level : Level) : SoundAt n level := by
  have hprimary : SoundAt n .primary := primary_taken hbelow
  have hmember : SoundAt n .member := member_taken hprimary
  have hunary : SoundAt n .unary := unary_taken hbelow hmember
  have hmultiplicative : SoundAt n .multiplicative := chain_taken rfl hunary
  have hadditive : SoundAt n .additive := chain_taken rfl hmultiplicative
  have hcomparison : SoundAt n .comparison := chain_taken rfl hadditive
  have hconjunction : SoundAt n .conjunction := chain_taken rfl hcomparison
  have hdisjunction : SoundAt n .disjunction := chain_taken rfl hconjunction
  have hternary : SoundAt n .ternary := ternary_taken hbelow hdisjunction
  cases level <;> assumption

/-- **What is read is derived.** The tokens that the parser of a level takes write its result, with
no more nesting than there are levels left, and the result is not deeper than the limit. -/
theorem read_taken (n : Nat) (level : Level) : SoundAt n level := by
  induction n generalizing level with
  | zero => exact soundAt_of_below (fun m hm => absurd hm (Nat.succ_ne_zero m).symm) level
  | succ n ih =>
      refine soundAt_of_below (fun m hm l => ?_) level
      obtain rfl := Nat.succ.inj hm
      exact ih l

/-- An expression that is read to the stop token is written by the tokens before it. -/
theorem expression_derives {tokens : List Token} {ts : List TokenKind} {e : Expr}
    (htokens : tokens.map (·.kind) = ts ++ [.stop]) (hstop : .stop ∉ ts)
    (h : expression tokens = .ok e) :
    Derives (nestingLimit - 1) ts (.expr .ternary e) ∧ e.depth ≤ nestingLimit := by
  rw [expression_eq, bind_eq_ok_iff] at h
  obtain ⟨⟨e', rest⟩, hread, h⟩ := h
  simp only at h
  split at h
  case h_2 => cases h
  next hrest =>
  cases h
  obtain ⟨used, rfl, hderives, hdepth⟩ := read_taken (nestingLimit - 1) .ternary _ _ _ hread
  rw [List.map_append] at htokens
  cases rest with
  -- Without tokens left the stop token would have been taken.
  | nil =>
      rw [List.map_nil, List.append_nil] at htokens
      exact absurd (htokens ▸ List.mem_append_right ts (List.mem_singleton_self _))
        hderives.stop_notMem
  | cons t more =>
      have hkind : t.kind = .stop := hrest
      rw [List.map_cons, hkind] at htokens
      obtain ⟨hused, -⟩ :=
        (List.append_cons_inj_of_notMem hstop List.not_mem_nil).1 htokens.symm
      exact ⟨hused ▸ hderives, hdepth⟩

end Parser

end LabelRules
