import LabelRules.Proofs.Parsing.Reading

set_option autoImplicit false

/-! # What is derived is read

The tokens of a derivation are read back as the expression that they write, unless the parser gives
up because of the limit (`reads_of_derives`). It can only do so if the derivation nests deeper than
there are levels left, or if the expression is too deep itself.

A chain of operands goes on after an operand that has been read, so what is said of a level is said
before its next operator: after the tokens of the derivation the parser is about to go on with the
chain (`resume`), and the tokens that follow end an operand (`Level.operand`), but perhaps not the
chain.
-/

namespace LabelRules

/-- The level of the operands of a chain; an expression of another level is its own operand. -/
def Level.operand (level : Level) : Level := if level.isChain then level.next else level

theorem Level.rank_le_rank_operand (level : Level) : level.rank ≤ level.operand.rank := by
  cases level <;> decide

theorem Expr.depth_le_depth_negation (e : Expr) : e.depth ≤ e.negation.depth := by
  unfold negation
  split
  · exact Nat.le_refl 1
  · exact Nat.le_succ _

namespace Parser

/-! ## Results up to the limit -/

section Agrees

variable {α β : Type}

/-- A result is the expected one, or the limit has been hit and that is excused. -/
def Agrees (excused : Prop) (result expected : Except ParseError α) : Prop :=
  result = expected ∨ (excused ∧ ∃ position, result = .error (.tooDeep position))

theorem Agrees.refl {excused : Prop} (r : Except ParseError α) : Agrees excused r r := .inl rfl

theorem Agrees.imp {p q : Prop} {r s : Except ParseError α} (h : Agrees p r s) (hpq : p → q) :
    Agrees q r s :=
  Or.imp_right (And.imp_left hpq) h

/-- Two steps agree with what is expected if the first one does and, after it, the second one. -/
theorem Agrees.bind {p : Prop} {r : Except ParseError α} {a : α}
    {f : α → Except ParseError β} {s : Except ParseError β} (hr : Agrees p r (.ok a))
    (hf : Agrees p (f a) s) : Agrees p (r >>= f) s := by
  rcases hr with rfl | ⟨hp, position, rfl⟩
  · exact hf
  · exact .inr ⟨hp, position, rfl⟩

theorem bounded_agrees (e : Expr) (rest : List Token) :
    Agrees (nestingLimit < e.depth) (bounded e rest) (.ok e) := by
  unfold bounded
  by_cases h : nestingLimit < e.depth
  · rw [if_pos h]
    exact .inr ⟨h, _, rfl⟩
  · rw [if_neg h]
    exact .refl _

/-- A tree that is built and checked last. -/
theorem Agrees.tree {p : Prop} {e : Expr} {rest : List Token} (h : nestingLimit < e.depth → p) :
    Agrees p (do
      let e ← bounded e rest
      return (e, rest)) (.ok (e, rest)) :=
  ((bounded_agrees e rest).imp h).bind (.refl _)

end Agrees

/-! ## What a derivation says of the parsers -/

/-- After an operand of a level: the chain goes on, if the level is one. -/
def resume (level : Level) (inner : Nested) (e : Expr) (rest : List Token) :
    Except ParseError (Expr × List Token) :=
  readChain (level.next.parser inner) level.operatorAt e rest

theorem resume_of_ends {level : Level} {rest : List Token} (h : level.Ends rest) (inner : Nested)
    (e : Expr) : resume level inner e rest = .ok (e, rest) := by
  have hnone : level.operatorAt rest = none := by
    have hends : level.continues rest = false := h level (Nat.le_refl _)
    cases level with
    | ternary | unary | member | primary => rfl
    | _ => exact Option.isSome_eq_false_iff.1 hends |> Option.isNone_iff_eq_none.1
  exact readChain_of_none _ hnone e

/-- A level that is no chain has read an expression when it has read an operand. -/
theorem resume_of_isChain_eq_false {level : Level} (h : level.isChain = false) (inner : Nested)
    (e : Expr) (rest : List Token) : resume level inner e rest = .ok (e, rest) := by
  cases level with
  | ternary | unary | member | primary => exact readChain_of_none _ rfl e
  | _ => cases h

/-- The tokens of a phrase are read by the parsers with any number of levels left: those of an
expression as an operand of its level, those of items up to the symbol that closes them. -/
def Reads (m : Nat) (ts : List TokenKind) : Phrase → Prop
  | .expr level e =>
    ∀ n tokens rest, tokens.map (·.kind) = ts → level.operand.Ends rest →
      Agrees (n < m ∨ nestingLimit < e.depth) (read (level.parser (nested n)) (tokens ++ rest))
        (resume level (nested n) e rest)
  | .items es =>
    ∀ n tokens t rest close expected, tokens.map (·.kind) = ts → t.kind = .symbol close →
      Level.closes t.kind = true → close ≠ .comma → es ≠ [] →
      Agrees (n < m ∨ nestingLimit < Expr.maxDepth es)
        (readItems (nested n).ternary close expected (tokens ++ t :: rest)) (.ok (es, rest))

section Reads

variable {m n : Nat} {ts : List TokenKind} {level : Level} {e : Expr} {tokens rest : List Token}

/-- Before tokens that end an expression of its level, an expression is read as a whole. -/
theorem Reads.whole (h : Reads m ts (.expr level e)) (htokens : tokens.map (·.kind) = ts)
    (hrest : level.Ends rest) :
    Agrees (n < m ∨ nestingLimit < e.depth) (read (level.parser (nested n)) (tokens ++ rest))
      (.ok (e, rest)) := by
  rw [← resume_of_ends hrest (nested n) e]
  exact h n tokens rest htokens (hrest.of_rank_le level.rank_le_rank_operand)

/-- An expression inside another one needs one more level. -/
theorem Reads.ternary (h : Reads m ts (.expr .ternary e)) (htokens : tokens.map (·.kind) = ts)
    (hrest : Level.ternary.Ends rest) :
    Agrees (n < m + 1 ∨ nestingLimit < e.depth) (read (nested n).ternary (tokens ++ rest))
      (.ok (e, rest)) := by
  cases n with
  | zero => exact .inr ⟨.inl m.succ_pos, _, rfl⟩
  | succ n => exact (h.whole htokens hrest).imp (Or.imp_left Nat.succ_lt_succ)

theorem Reads.unary (h : Reads m ts (.expr .unary e)) (htokens : tokens.map (·.kind) = ts)
    (hrest : Level.unary.Ends rest) :
    Agrees (n < m + 1 ∨ nestingLimit < e.depth) (read (nested n).unary (tokens ++ rest))
      (.ok (e, rest)) := by
  cases n with
  | zero => exact .inr ⟨.inl m.succ_pos, _, rfl⟩
  | succ n => exact (h.whole htokens hrest).imp (Or.imp_left Nat.succ_lt_succ)

end Reads

/-! ## One lemma for each form of a derivation -/

section Forms

variable {m : Nat} {ts : List TokenKind}

/-- A token that starts a member is no unary operator. -/
theorem read_unary_of_starts {t : Token} (h : Level.member.starts t.kind = true) (inner : Nested)
    (rest : List Token) :
    read (Parser.unary inner) (t :: rest) = read (member inner) (t :: rest) := by
  obtain ⟨hbang, hnot, hminus⟩ := Level.ne_of_starts_member h
  rw [read_unary_cons, if_neg (by simp [hbang, hnot]), if_neg (by simp [hminus])]

theorem reads_looser {level : Level} {e : Expr} (hlevel : level ≠ .primary)
    (hderives : Derives m ts (.expr level.next e)) (h : Reads m ts (.expr level.next e)) :
    Reads m ts (.expr level e) := by
  intro n tokens rest htokens hrest
  -- A chain reads its first operand and goes on; any other level reads a tighter expression and
  -- must not find its own token after it.
  by_cases hchain : level.isChain = true
  · rw [Level.operand, if_pos hchain] at hrest
    rw [Level.read_of_isChain hchain]
    exact (h.whole htokens hrest).bind (.refl _)
  · rw [Level.operand, if_neg hchain] at hrest
    rw [resume_of_isChain_eq_false (Bool.eq_false_iff.2 hchain)]
    have hnext : Agrees (n < m ∨ nestingLimit < e.depth)
        (read (level.next.parser (nested n)) (tokens ++ rest)) (.ok (e, rest)) :=
      h.whole htokens (hrest.of_rank_le (by rw [Level.rank_next_of_ne hlevel]; omega))
    have hends : level.continues rest = false := hrest level (Nat.le_refl _)
    cases level with
    | primary => exact absurd rfl hlevel
    | ternary =>
        show Agrees _ (read (Parser.ternary _) _) _
        rw [read_ternary]
        refine hnext.bind ?_
        unfold readBranches
        cases rest with
        | nil => exact .refl _
        | cons t more =>
            have hquestion : t.isSymbol .question = false := hends
            simp only [hquestion]
            exact .refl _
    | unary =>
        show Agrees _ (read (Parser.unary _) _) _
        obtain ⟨k, us, rfl, hstarts⟩ := hderives.starts
        obtain ⟨t, more, rfl, rfl, -⟩ := List.map_eq_cons_iff.1 htokens
        rw [List.cons_append, read_unary_of_starts hstarts]
        exact hnext
    | member =>
        show Agrees _ (read (Parser.member _) _) _
        rw [read_member]
        refine hnext.bind ?_
        cases rest with
        | nil => exact .refl _
        | cons t more =>
            have hdot : t.isSymbol .dot = false := hends
            show Agrees _ (readFields _ e (t :: more)) _
            rw [readFields_cons, hdot]
            exact .refl _
    | _ => exact absurd rfl hchain

theorem reads_ternary {cs fs : List TokenKind} {c t f : Expr}
    (hc : Reads (m + 1) cs (.expr .disjunction c)) (ht : Reads m ts (.expr .ternary t))
    (hf : Reads m fs (.expr .ternary f)) :
    Reads (m + 1) (cs ++ .symbol .question :: (ts ++ .symbol .colon :: fs))
      (.expr .ternary (.ternary c t f)) := by
  intro n tokens rest htokens hrest
  have hdepth : c.depth ≤ (Expr.ternary c t f).depth ∧ t.depth ≤ (Expr.ternary c t f).depth
      ∧ f.depth ≤ (Expr.ternary c t f).depth := by
    simp only [Expr.depth]
    omega
  obtain ⟨ctokens, more, rfl, hctokens, hmore⟩ := List.map_eq_append_iff.1 htokens
  obtain ⟨question, more, rfl, hquestion, hmore⟩ := List.map_eq_cons_iff.1 hmore
  obtain ⟨ttokens, more, rfl, httokens, hmore⟩ := List.map_eq_append_iff.1 hmore
  obtain ⟨colon, ftokens, rfl, hcolon, hftokens⟩ := List.map_eq_cons_iff.1 hmore
  rw [resume_of_isChain_eq_false rfl]
  show Agrees _ (read (Parser.ternary _) _) _
  simp only [List.append_assoc, List.cons_append]
  rw [read_ternary]
  refine ((hc.whole hctokens (Level.ends_question hquestion _)).imp (by omega)).bind ?_
  simp only [readBranches, Token.isSymbol_iff.2 hquestion, if_true]
  have hends : Level.ternary.Ends (colon :: (ftokens ++ rest)) :=
    Level.ends_of_closes (by rw [hcolon]; rfl) _ _
  refine ((ht.ternary httokens hends).imp (by omega)).bind ?_
  simp only [read_symbol_cons, Token.isSymbol_iff.2 hcolon, if_true, ok_bind]
  refine ((hf.ternary hftokens hrest).imp (by omega)).bind ?_
  exact .tree .inr

theorem reads_binary {ls os rs : List TokenKind} {level : Level} {op : Operator} {l r : Expr}
    (hop : (os, op) ∈ level.operators) (hl : Reads m ls (.expr level l))
    (hr : Reads m rs (.expr level.next r)) :
    Reads m (ls ++ (os ++ rs)) (.expr level (.binary op l r)) := by
  intro n tokens rest htokens hrest
  have hdepth : l.depth ≤ (Expr.binary op l r).depth ∧ r.depth ≤ (Expr.binary op l r).depth := by
    simp only [Expr.depth]
    omega
  have hchain : level.isChain = true := by
    cases level with
    | ternary | unary | member | primary => cases hop
    | _ => rfl
  have hoperand : level.operand = level.next := if_pos hchain
  obtain ⟨ltokens, more, rfl, hltokens, hmore⟩ := List.map_eq_append_iff.1 htokens
  obtain ⟨otokens, rtokens, rfl, hotokens, hrtokens⟩ := List.map_eq_append_iff.1 hmore
  simp only [List.append_assoc]
  have hleft := hl n ltokens (otokens ++ (rtokens ++ rest)) hltokens
    (by rw [hoperand]; exact Level.ends_operator hop hotokens _)
  -- The left side is read up to the operator, from which the chain goes on.
  have hresume : Agrees (n < m ∨ nestingLimit < (Expr.binary op l r).depth)
      (resume level (nested n) l (otokens ++ (rtokens ++ rest)))
      (resume level (nested n) (.binary op l r) rest) := by
    unfold resume
    rw [readChain_of_some _ (Level.operatorAt_append hop hotokens _), List.drop_left]
    refine ((hr.whole hrtokens (by rwa [← hoperand])).imp (by omega)).bind ?_
    exact ((bounded_agrees _ _).imp .inr).bind (.refl _)
  rcases hleft with hleft | ⟨hexcused, position, hleft⟩
  · rw [hleft]
    exact hresume
  · exact .inr ⟨by omega, position, hleft⟩

theorem reads_not {k : TokenKind} {e : Expr} (hk : k = .symbol .bang ∨ k = .word "not")
    (h : Reads m ts (.expr .unary e)) : Reads (m + 1) (k :: ts) (.expr .unary (.unary .not e)) := by
  intro n tokens rest htokens hrest
  have hdepth : e.depth ≤ (Expr.unary .not e).depth := by
    simp only [Expr.depth]
    omega
  obtain ⟨t, more, rfl, rfl, hmore⟩ := List.map_eq_cons_iff.1 htokens
  have hnot : (t.isSymbol .bang || t.isWord "not") = true := by
    simpa using hk
  rw [resume_of_isChain_eq_false rfl]
  show Agrees _ (read (Parser.unary _) (t :: (more ++ rest))) _
  rw [read_unary_cons, if_pos hnot]
  refine ((h.unary hmore hrest).imp (by omega)).bind ?_
  exact .tree .inr

theorem reads_negate {e : Expr} (h : Reads m ts (.expr .unary e)) :
    Reads (m + 1) (.symbol .minus :: ts) (.expr .unary e.negation) := by
  intro n tokens rest htokens hrest
  have hdepth := e.depth_le_depth_negation
  obtain ⟨t, more, rfl, ht, hmore⟩ := List.map_eq_cons_iff.1 htokens
  have hnot : ¬ (t.isSymbol .bang || t.isWord "not") = true := by
    simp [ht]
  rw [resume_of_isChain_eq_false rfl]
  show Agrees _ (read (Parser.unary _) (t :: (more ++ rest))) _
  rw [read_unary_cons, if_neg hnot, if_pos (Token.isSymbol_iff.2 ht)]
  refine ((h.unary hmore hrest).imp (by omega)).bind ?_
  simp only [negated_eq]
  exact .tree .inr

/-- The fields after a variable are taken one after the other. -/
theorem readFields_accessors {rest : List Token} (hrest : Level.member.Ends rest) (start : Nat)
    (path names : List String) (tokens : List Token)
    (htokens : tokens.map (·.kind) = accessors names) :
    readFields start (.field path) (tokens ++ rest) = .ok (.field (path ++ names), rest) := by
  induction names generalizing path tokens with
  | nil =>
      obtain rfl := List.map_eq_nil_iff.1 htokens
      rw [List.append_nil]
      cases rest with
      | nil => rfl
      | cons t more =>
          have hdot : t.isSymbol .dot = false := hrest .member (Nat.le_refl _)
          show readFields start _ (t :: more) = _
          rw [readFields_cons, hdot]
          rfl
  | cons name names ih =>
      obtain ⟨t, more, rfl, ht, hmore⟩ := List.map_eq_cons_iff.1 htokens
      obtain ⟨u, more, rfl, hu, hmore⟩ := List.map_eq_cons_iff.1 hmore
      show readFields start _ (t :: u :: (more ++ rest)) = _
      rw [readFields_cons, if_pos (Token.isSymbol_iff.2 ht)]
      simp only [hu]
      rw [ih (path ++ [name]) more hmore, List.append_assoc]
      rfl

theorem reads_fields {path : List String} (names : List String)
    (h : Reads m ts (.expr .primary (.field path))) :
    Reads m (ts ++ accessors names) (.expr .member (.field (path ++ names))) := by
  intro n tokens rest htokens hrest
  obtain ⟨ptokens, ntokens, rfl, hptokens, hntokens⟩ := List.map_eq_append_iff.1 htokens
  have hprimary : Level.primary.Ends (ntokens ++ rest) := by
    cases ntokens with
    | nil => exact hrest.of_rank_le (by decide)
    | cons t more =>
        cases names with
        | nil => cases hntokens
        | cons name names => exact Level.ends_dot (List.cons.inj hntokens).1 _
  rw [resume_of_isChain_eq_false rfl, List.append_assoc]
  show Agrees _ (read (Parser.member _) _) _
  rw [read_member]
  refine (h.whole hptokens hprimary).bind ?_
  exact .inl (readFields_accessors hrest _ path names ntokens hntokens)

theorem reads_literal {k : TokenKind} {v : Value} (h : k.literal? = some v) :
    Reads m [k] (.expr .primary (.literal v)) := by
  intro n tokens rest htokens _
  obtain ⟨t, rfl, rfl⟩ := List.map_eq_singleton_iff.1 htokens
  obtain ⟨kind, position⟩ := t
  rw [resume_of_isChain_eq_false rfl]
  show Agrees _ (read (Parser.primary _) (⟨kind, position⟩ :: rest)) _
  refine .inl ?_
  rw [read_primary_cons]
  cases kind with
  | number x | string s =>
      cases h
      rfl
  | symbol s | stop => cases h
  | word name =>
      simp only [TokenKind.literal?] at h ⊢
      repeat' split at h
      all_goals first
        | next hname =>
            cases h
            simp [hname]
        | cases h

theorem reads_word {name : String} (hname : name ∉ reserved) :
    Reads m [.word name] (.expr .primary (.field [name])) := by
  intro n tokens rest htokens hrest
  obtain ⟨t, rfl, ht⟩ := List.map_eq_singleton_iff.1 htokens
  rw [resume_of_isChain_eq_false rfl]
  show Agrees _ (read (Parser.primary _) (t :: rest)) _
  refine .inl ?_
  rw [read_primary_word _ ht hname]
  cases rest with
  | nil => rfl
  | cons u more =>
      have hopen : u.isSymbol .openParen = false := hrest .primary (Nat.le_refl _)
      simp only [readNamed, hopen]
      rfl

theorem reads_parens {e : Expr} (h : Reads m ts (.expr .ternary e)) :
    Reads (m + 1) (.symbol .openParen :: (ts ++ [.symbol .closeParen])) (.expr .primary e) := by
  intro n tokens rest htokens _
  obtain ⟨t, more, rfl, ht, hmore⟩ := List.map_eq_cons_iff.1 htokens
  obtain ⟨inside, last, rfl, hinside, hlast⟩ := List.map_eq_append_iff.1 hmore
  obtain ⟨close, rfl, hclose⟩ := List.map_eq_singleton_iff.1 hlast
  have hends : Level.ternary.Ends (close :: rest) :=
    Level.ends_of_closes (by rw [hclose]; rfl) _ _
  rw [resume_of_isChain_eq_false rfl]
  show Agrees _ (read (Parser.primary _) (t :: (inside ++ [close] ++ rest))) _
  rw [read_primary_cons, List.append_assoc]
  simp only [ht]
  refine (h.ternary hinside hends).bind ?_
  show Agrees _ (read (symbol _ _) (close :: rest) >>= _) _
  rw [read_symbol_cons, if_pos (Token.isSymbol_iff.2 hclose)]
  exact .refl _

/-- All of the items are read, up to the symbol that closes them. -/
theorem Reads.items {es : List Expr} {close : Symbol} {expected : Expected} {n : Nat}
    {tokens rest : List Token} {t : Token} (h : Reads m ts (.items es))
    (hderives : Derives m ts (.items es)) (htokens : tokens.map (·.kind) = ts)
    (ht : t.kind = .symbol close) (hcloses : Level.closes t.kind = true) (hcomma : close ≠ .comma) :
    Agrees (n < m ∨ nestingLimit < Expr.maxDepth es)
      (read (Parser.items (nested n).ternary close expected) (tokens ++ t :: rest))
      (.ok (es, rest)) := by
  cases es with
  | nil =>
      obtain rfl : ts = [] := by
        cases hderives
        rfl
      obtain rfl := List.map_eq_nil_iff.1 htokens
      rw [List.nil_append, read_items_cons, if_pos (Token.isSymbol_iff.2 ht)]
      exact .refl _
  | cons e es =>
      -- The first token starts an expression, so it does not close the list at once.
      obtain ⟨k, us, hts, hk⟩ := hderives.items_starts
      subst hts
      obtain ⟨u, more, rfl, rfl, -⟩ := List.map_eq_cons_iff.1 htokens
      have hopen : u.isSymbol close = false := by
        rw [Bool.eq_false_iff]
        intro hu
        rw [Token.isSymbol_iff.1 hu, ← ht] at hk
        rw [Level.closes_eq_false_of_starts hk] at hcloses
        cases hcloses
      rw [List.cons_append, read_items_cons, hopen]
      exact h n _ t rest close expected htokens ht hcloses hcomma (List.cons_ne_nil _ _)

theorem reads_call {name : String} {es : List Expr} (hname : name ∉ reserved)
    (hderives : Derives m ts (.items es)) (h : Reads m ts (.items es)) :
    Reads m (.word name :: .symbol .openParen :: (ts ++ [.symbol .closeParen]))
      (.expr .primary (.call name es)) := by
  intro n tokens rest htokens _
  obtain ⟨t, more, rfl, ht, hmore⟩ := List.map_eq_cons_iff.1 htokens
  obtain ⟨u, more, rfl, hu, hmore⟩ := List.map_eq_cons_iff.1 hmore
  obtain ⟨inside, last, rfl, hinside, hlast⟩ := List.map_eq_append_iff.1 hmore
  obtain ⟨close, rfl, hclose⟩ := List.map_eq_singleton_iff.1 hlast
  have hdepth : Expr.maxDepth es ≤ (Expr.call name es).depth := by
    simp only [Expr.depth]
    omega
  rw [resume_of_isChain_eq_false rfl]
  show Agrees _ (read (Parser.primary _) (t :: u :: (inside ++ [close] ++ rest))) _
  rw [read_primary_word _ ht hname, List.append_assoc]
  simp only [readNamed, Token.isSymbol_iff.2 hu, if_true]
  have hcloses : Level.closes close.kind = true := by rw [hclose]; rfl
  refine ((h.items hderives hinside hclose hcloses (by decide)).imp (by omega)).bind ?_
  exact .tree .inr

theorem reads_array {es : List Expr} (hderives : Derives m ts (.items es))
    (h : Reads m ts (.items es)) :
    Reads m (.symbol .openBracket :: (ts ++ [.symbol .closeBracket]))
      (.expr .primary (.array es)) := by
  intro n tokens rest htokens _
  obtain ⟨t, more, rfl, ht, hmore⟩ := List.map_eq_cons_iff.1 htokens
  obtain ⟨inside, last, rfl, hinside, hlast⟩ := List.map_eq_append_iff.1 hmore
  obtain ⟨close, rfl, hclose⟩ := List.map_eq_singleton_iff.1 hlast
  have hdepth : Expr.maxDepth es ≤ (Expr.array es).depth := by
    simp only [Expr.depth]
    omega
  rw [resume_of_isChain_eq_false rfl]
  show Agrees _ (read (Parser.primary _) (t :: (inside ++ [close] ++ rest))) _
  rw [read_primary_cons, List.append_assoc]
  simp only [ht]
  have hcloses : Level.closes close.kind = true := by rw [hclose]; rfl
  refine ((h.items hderives hinside hclose hcloses (by decide)).imp (by omega)).bind ?_
  exact .tree .inr

theorem reads_last {e : Expr} (h : Reads m ts (.expr .ternary e)) :
    Reads (m + 1) ts (.items [e]) := by
  intro n tokens t rest close expected htokens ht hcloses hcomma _
  have hdepth : e.depth ≤ Expr.maxDepth [e] := Expr.depth_le_maxDepth (List.mem_singleton_self e)
  rw [readItems_eq]
  refine ((h.ternary htokens (Level.ends_of_closes hcloses _ _)).imp (by omega)).bind ?_
  have hne : t.isSymbol .comma = false := by
    simp [Token.isSymbol, ht, hcomma]
  simp only [hne, Token.isSymbol_iff.2 ht]
  exact .refl _

theorem reads_more {us : List TokenKind} {e e' : Expr} {es : List Expr}
    (h : Reads m ts (.expr .ternary e)) (hs : Reads (m + 1) us (.items (e' :: es))) :
    Reads (m + 1) (ts ++ .symbol .comma :: us) (.items (e :: e' :: es)) := by
  intro n tokens t rest close expected htokens ht hcloses hcomma _
  have hdepth : e.depth ≤ Expr.maxDepth (e :: e' :: es)
      ∧ Expr.maxDepth (e' :: es) ≤ Expr.maxDepth (e :: e' :: es) := by
    rw [Expr.maxDepth]
    omega
  obtain ⟨first, more, rfl, hfirst, hmore⟩ := List.map_eq_append_iff.1 htokens
  obtain ⟨comma, others, rfl, hcommaKind, hothers⟩ := List.map_eq_cons_iff.1 hmore
  have hends : Level.ternary.Ends (comma :: (others ++ t :: rest)) :=
    Level.ends_of_closes (by rw [hcommaKind]; rfl) _ _
  rw [readItems_eq, List.append_assoc, List.cons_append]
  refine ((h.ternary hfirst hends).imp (by omega)).bind ?_
  simp only [Token.isSymbol_iff.2 hcommaKind, if_true]
  have hrest := hs n others t rest close expected hothers ht hcloses hcomma (List.cons_ne_nil _ _)
  exact (hrest.imp (by omega)).bind (.refl _)

end Forms

/-- **What is derived is read.** The tokens of a derivation are read back as its phrase, unless it
nests deeper than there are levels left or its tree is too deep. -/
theorem reads_of_derives {m : Nat} {ts : List TokenKind} {p : Phrase} (h : Derives m ts p) :
    Reads m ts p := by
  induction h with
  | looser hlevel h ih => exact reads_looser hlevel h ih
  | ternary _ _ _ ihc iht ihf => exact reads_ternary ihc iht ihf
  | binary _ hop _ ihl ihr => exact reads_binary hop ihl ihr
  | not hk _ ih => exact reads_not hk ih
  | negate _ ih => exact reads_negate ih
  | fields _ names ih => exact reads_fields names ih
  | literal h => exact reads_literal h
  | word h => exact reads_word h
  | parens _ ih => exact reads_parens ih
  | call hname h ih => exact reads_call hname h ih
  | array h ih => exact reads_array h ih
  | none => exact fun _ _ _ _ _ _ _ _ _ _ hne => absurd rfl hne
  | last _ ih => exact reads_last ih
  | more _ _ ih ihs => exact reads_more ih ihs

/-- The expression that the tokens before a stop token write is read, up to the limit. -/
theorem expression_agrees {m : Nat} {tokens : List Token} {ts : List TokenKind} {e : Expr}
    (htokens : tokens.map (·.kind) = ts ++ [.stop]) (h : Derives m ts (.expr .ternary e)) :
    Agrees (nestingLimit < m + 1 ∨ nestingLimit < e.depth) (expression tokens) (.ok e) := by
  obtain ⟨before, last, rfl, hbefore, hlast⟩ := List.map_eq_append_iff.1 htokens
  obtain ⟨stop, rfl, hstop⟩ := List.map_eq_singleton_iff.1 hlast
  have hends : Level.ternary.Ends [stop] := Level.ends_of_closes (by rw [hstop]; rfl) _ _
  rw [expression_eq]
  refine ((reads_of_derives h).ternary hbefore hends).bind ?_
  simp only [headKind, hstop]
  exact .refl _

end Parser

end LabelRules
