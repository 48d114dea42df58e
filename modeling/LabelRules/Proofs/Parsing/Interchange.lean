import LabelRules.Proofs.Parsing.Reading

set_option autoImplicit false

/-! # Tokens that the parsers do not tell apart

The parsers look at the kinds of tokens only; a position is copied to an error and never compared.
Nor do they tell the two spellings of a logical operator apart, except where a word is the name of a
field, and where `not` is the first half of `not in`. `Interchanged` relates lists of tokens that
differ in no other way. Each parser takes related lists to the same result with related rests, or
to errors of one kind (`readsAlike_level`), and so does the parser of whole expressions
(`expression_alike`).
-/

namespace LabelRules

open LabelRules.Parser

/-! ## The relation -/

/-- Two spellings of one operator. -/
inductive TokenKind.Synonym : TokenKind → TokenKind → Prop where
  | and : Synonym (.word "and") (.symbol .andAnd)
  | or : Synonym (.word "or") (.symbol .orOr)
  | not : Synonym (.word "not") (.symbol .bang)

/-- The exchanges of a token for another spelling of it that are allowed. -/
structure Exchange where
  Allows : TokenKind → TokenKind → Prop
  synonym : ∀ {k k'}, Allows k k' → k.Synonym k' ∨ k'.Synonym k

namespace Exchange

/-- No exchange at all. -/
def unchanged : Exchange := ⟨fun _ _ => False, False.elim⟩

variable (x : Exchange)

/-- A kind of token and the kind that stands in its place. -/
def Pair (k k' : TokenKind) : Prop := k = k' ∨ x.Allows k k'

/-- Lists of tokens that differ in positions and in allowed exchanges. The token after a dot is
not exchanged, and `in` does not follow what becomes `not` or was it. -/
inductive Interchanged : List Token → List Token → Prop where
  | nil : Interchanged [] []
  | cons {t u : Token} {ts us : List Token} (hkind : x.Pair t.kind u.kind)
      (hfield : t.kind = .symbol .dot → headKind ts = headKind us)
      (hnotIn : headKind ts = .word "in" → (t.kind = .word "not" ↔ u.kind = .word "not"))
      (h : Interchanged ts us) : Interchanged (t :: ts) (u :: us)

/-- Errors that differ in positions and in allowed exchanges. -/
inductive ErrorsAlike : ParseError → ParseError → Prop where
  | unexpectedToken {k k' : TokenKind} (hkind : x.Pair k k') (expected : Expected)
      (position position' : Nat) :
      ErrorsAlike (.unexpectedToken k expected position) (.unexpectedToken k' expected position')
  | unexpectedEnd (expected : Expected) :
      ErrorsAlike (.unexpectedEnd expected) (.unexpectedEnd expected)
  | fieldOfNonVariable (field : String) (position position' : Nat) :
      ErrorsAlike (.fieldOfNonVariable field position) (.fieldOfNonVariable field position')
  | tooDeep (position position' : Nat) : ErrorsAlike (.tooDeep position) (.tooDeep position')

/-- The same result with related tokens left, or related errors. -/
inductive Alike {α : Type} :
    Except ParseError (α × List Token) → Except ParseError (α × List Token) → Prop where
  | ok {a : α} {rest rest' : List Token} (h : x.Interchanged rest rest') :
      Alike (.ok (a, rest)) (.ok (a, rest'))
  | error {e e' : ParseError} (h : x.ErrorsAlike e e') : Alike (.error e) (.error e')

/-- A parser that does not tell related lists apart. -/
def ReadsAlike {α : Type} (parser : Parser α) : Prop :=
  ∀ ts us, x.Interchanged ts us → x.Alike (read parser ts) (read parser us)

/-- The parsers of the expressions inside others do not tell related lists apart. -/
def NestedAlike (inner : Nested) : Prop := x.ReadsAlike inner.ternary ∧ x.ReadsAlike inner.unary

end Exchange

namespace Exchange

variable {x : Exchange} {α β : Type}

/-! ## Single tokens -/

section Kinds

variable {k k' : TokenKind}

/-- What does not tell two spellings of an operator apart does not tell a pair apart. -/
theorem Pair.congr {γ : Type} (h : x.Pair k k') (f : TokenKind → γ)
    (hf : ∀ k k', k.Synonym k' → f k = f k') : f k = f k' := by
  rcases h with rfl | h
  · rfl
  rcases x.synonym h with hk | hk
  · exact hf _ _ hk
  · exact (hf _ _ hk).symm

/-- The kinds of tokens that have another spelling. -/
def logical : List TokenKind :=
  [.word "and", .symbol .andAnd, .word "or", .symbol .orOr, .word "not", .symbol .bang]

theorem mem_logical_of_synonym (h : k.Synonym k') : k ∈ logical ∧ k' ∈ logical := by
  cases h <;> simp [logical]

theorem Pair.eq_or_mem_logical (h : x.Pair k k') : k = k' ∨ (k ∈ logical ∧ k' ∈ logical) := by
  refine h.imp_right fun h => ?_
  rcases x.synonym h with hk | hk
  · exact mem_logical_of_synonym hk
  · exact (mem_logical_of_synonym hk).symm

/-- A kind without another spelling stands in its own place only. -/
theorem Pair.eq_iff (h : x.Pair k k') {l : TokenKind} (hl : l ∉ logical) : k = l ↔ k' = l := by
  rcases h.eq_or_mem_logical with rfl | ⟨hk, hk'⟩
  · rfl
  · refine ⟨?_, ?_⟩
    · rintro rfl
      exact absurd hk hl
    · rintro rfl
      exact absurd hk' hl

end Kinds

variable {ts us : List Token}

theorem pair_headKind (h : x.Interchanged ts us) : x.Pair (headKind ts) (headKind us) := by
  cases h with
  | nil => exact .inl rfl
  | cons hkind _ _ _ => exact hkind

theorem isSymbol_eq {t u : Token} (h : x.Pair t.kind u.kind) {s : Symbol}
    (hs : .symbol s ∉ logical) : t.isSymbol s = u.isSymbol s := by
  rw [Bool.eq_iff_iff, Token.isSymbol_iff, Token.isSymbol_iff]
  exact h.eq_iff hs

theorem Interchanged.drop (h : x.Interchanged ts us) (n : Nat) :
    x.Interchanged (ts.drop n) (us.drop n) := by
  induction h generalizing n with
  | nil => simpa using .nil
  | @cons t u ts us hkind hfield hnotIn h ih =>
      cases n with
      | zero => exact .cons hkind hfield hnotIn h
      | succ n => exact ih n

theorem unexpected_alike (h : x.Interchanged ts us) (expected : Expected) :
    x.ErrorsAlike (unexpected expected ts) (unexpected expected us) := by
  have hpair := pair_headKind h
  have hstop : headKind ts = .stop ↔ headKind us = .stop := hpair.eq_iff (by decide)
  unfold unexpected
  split
  · next hts =>
    rw [hstop.1 hts]
    exact .unexpectedEnd expected
  · next hts =>
    split
    · next hus => exact absurd (hstop.2 hus) hts
    · exact .unexpectedToken hpair _ _ _

/-! ## Steps -/

theorem Alike.unexpected (h : x.Interchanged ts us) (expected : Expected) :
    x.Alike (.error (unexpected expected ts) : Except ParseError (α × List Token))
      (.error (unexpected expected us)) :=
  .error (unexpected_alike h expected)

/-- Two steps are alike if the first ones are and, after results that are alike, the second ones. -/
theorem Alike.bind {r r' : Except ParseError (α × List Token)}
    {f f' : α × List Token → Except ParseError (β × List Token)} (h : x.Alike r r')
    (hf : ∀ a rest rest', r = .ok (a, rest) → x.Interchanged rest rest' →
      x.Alike (f (a, rest)) (f' (a, rest'))) : x.Alike (r >>= f) (r' >>= f') := by
  cases h with
  | ok hrest => exact hf _ _ _ rfl hrest
  | error he => exact .error he

/-- A tree is checked alike whatever tokens are left. -/
theorem Alike.bounded {f f' : Expr → Except ParseError (α × List Token)} (e : Expr)
    (h : x.Alike (f e) (f' e)) (rest rest' : List Token) :
    x.Alike (bounded e rest >>= f) (bounded e rest' >>= f') := by
  unfold Parser.bounded
  split
  · exact .error (.tooDeep _ _)
  · exact h

/-! ## Symbols and chains -/

theorem readsAlike_symbol {s : Symbol} (hs : .symbol s ∉ logical) (expected : Expected) :
    x.ReadsAlike (symbol s expected) := by
  intro ts us h
  cases h with
  | nil => exact .unexpected .nil expected
  | cons hkind hfield hnotIn h =>
      rw [read_symbol_cons, read_symbol_cons, isSymbol_eq hkind hs]
      split
      · exact .ok h
      · exact .unexpected (.cons hkind hfield hnotIn h) expected

/-- A token that has another spelling is an operator of the two loosest chains only, or the `not`
of `not in`. -/
theorem operatorAt_of_mem_logical {level : Level} (hor : level ≠ .disjunction)
    (hand : level ≠ .conjunction) {t : Token} (ht : t.kind ∈ logical) {rest : List Token}
    (hnotIn : headKind rest = .word "in" → t.kind ≠ .word "not") :
    level.operatorAt (t :: rest) = none := by
  obtain ⟨kind, position⟩ := t
  simp only [logical, List.mem_cons, List.not_mem_nil, or_false] at ht
  cases level with
  | disjunction => exact absurd rfl hor
  | conjunction => exact absurd rfl hand
  | ternary | unary | member | primary => rfl
  | additive | multiplicative => rcases ht with rfl | rfl | rfl | rfl | rfl | rfl <;> rfl
  | comparison =>
      by_cases hin : headKind rest = .word "in"
      · have hnot : kind ≠ .word "not" := hnotIn hin
        rcases ht with rfl | rfl | rfl | rfl | rfl | rfl <;> first | rfl | exact absurd rfl hnot
      · rcases ht with rfl | rfl | rfl | rfl | rfl | rfl <;> simp [Level.operatorAt, comparisonAt, hin]

/-- The same operator stands at the head of related lists. -/
theorem operatorAt_eq (level : Level) (h : x.Interchanged ts us) :
    level.operatorAt ts = level.operatorAt us := by
  cases h with
  | nil => rfl
  | @cons t u ts us hkind hfield hnotIn h =>
      have hin : headKind ts = .word "in" ↔ headKind us = .word "in" :=
        (pair_headKind h).eq_iff (by decide)
      cases level with
      | ternary | unary | member | primary => rfl
      | disjunction =>
          exact hkind.congr (fun k => if k == .symbol .orOr || k == .word "or" then
            some (Operator.or, 1) else none) (by rintro _ _ ⟨⟩ <;> rfl)
      | conjunction =>
          exact hkind.congr (fun k => if k == .symbol .andAnd || k == .word "and" then
            some (Operator.and, 1) else none) (by rintro _ _ ⟨⟩ <;> rfl)
      | comparison | additive | multiplicative =>
          by_cases hsame : t.kind = u.kind
          · simp only [Level.operatorAt, comparisonAt, additiveAt, multiplicativeAt, hsame, hin]
          · obtain ⟨ht, hu⟩ := hkind.eq_or_mem_logical.resolve_left hsame
            rw [operatorAt_of_mem_logical (by decide) (by decide) ht fun h hnot =>
                hsame (hnot.trans ((hnotIn h).1 hnot).symm),
              operatorAt_of_mem_logical (by decide) (by decide) hu fun h hnot =>
                hsame (((hnotIn (hin.2 h)).2 hnot).trans hnot.symm)]

/-- A chain goes on alike from related lists. -/
theorem readChain_alike {level : Level} {inner : Nested}
    (hnext : x.ReadsAlike (level.next.parser inner)) (left : Expr) (h : x.Interchanged ts us) :
    x.Alike (readChain (level.next.parser inner) level.operatorAt left ts)
      (readChain (level.next.parser inner) level.operatorAt left us) := by
  induction hlength : ts.length using Nat.strongRecOn generalizing ts us left with
  | ind length ih =>
    have hop := operatorAt_eq level h
    cases hts : level.operatorAt ts with
    | none =>
        rw [readChain_of_none _ hts, readChain_of_none _ (hop.symm.trans hts)]
        exact .ok h
    | some found =>
        obtain ⟨op, width⟩ := found
        rw [readChain_of_some _ hts, readChain_of_some _ (hop.symm.trans hts)]
        refine (hnext _ _ (h.drop width)).bind fun right rest rest' hread hrest => ?_
        refine .bounded _ (ih rest.length ?_ _ hrest rfl) _ _
        have hshorter := length_lt_of_read hread
        rw [List.length_drop] at hshorter
        omega

theorem readsAlike_chain {level : Level} (hchain : level.isChain = true) {inner : Nested}
    (hnext : x.ReadsAlike (level.next.parser inner)) : x.ReadsAlike (level.parser inner) := by
  intro ts us h
  rw [Level.read_of_isChain hchain, Level.read_of_isChain hchain]
  exact (hnext ts us h).bind fun first rest rest' _ hrest => readChain_alike hnext first hrest

/-! ## Lists -/

section Items

variable {item : Parser Expr} {close : Symbol}

theorem readItems_alike (hitem : x.ReadsAlike item) (hclose : .symbol close ∉ logical)
    (expected : Expected) (h : x.Interchanged ts us) :
    x.Alike (readItems item close expected ts) (readItems item close expected us) := by
  induction hlength : ts.length using Nat.strongRecOn generalizing ts us with
  | ind length ih =>
    rw [readItems_eq, readItems_eq]
    refine (hitem _ _ h).bind fun e rest rest' hread hrest => ?_
    have hshorter := length_lt_of_read hread
    cases hrest with
    | nil => exact .unexpected .nil expected
    | @cons t u ts us hkind hfield hnotIn hmore =>
        simp only [isSymbol_eq hkind (show .symbol .comma ∉ logical by decide),
          isSymbol_eq hkind hclose]
        split
        · rw [List.length_cons] at hshorter
          refine (ih ts.length (by omega) hmore rfl).bind fun es left left' _ hleft => .ok hleft
        split
        · exact .ok hmore
        · exact .unexpected (.cons hkind hfield hnotIn hmore) expected

theorem readsAlike_items (hitem : x.ReadsAlike item) (hclose : .symbol close ∉ logical)
    (expected : Expected) : x.ReadsAlike (items item close expected) := by
  intro ts us h
  cases h with
  | nil => exact readItems_alike hitem hclose expected .nil
  | cons hkind hfield hnotIn h =>
      rw [read_items_cons, read_items_cons, isSymbol_eq hkind hclose]
      split
      · exact .ok h
      · exact readItems_alike hitem hclose expected (.cons hkind hfield hnotIn h)

end Items

/-! ## The levels -/

section Levels

variable {inner : Nested}

theorem readNamed_alike (hinner : x.NestedAlike inner) (name : String)
    (h : x.Interchanged ts us) : x.Alike (readNamed inner name ts) (readNamed inner name us) := by
  cases h with
  | nil => exact .ok .nil
  | cons hkind hfield hnotIn h =>
      simp only [readNamed, isSymbol_eq hkind (show .symbol .openParen ∉ logical by decide)]
      split
      · refine (readsAlike_items hinner.1 (by decide) _ _ _ h).bind
          fun es left left' _ hleft => ?_
        exact .bounded _ (.ok hleft) _ _
      · exact .ok (.cons hkind hfield hnotIn h)

/-- No expression starts with a token that has another spelling, but what a unary operator does. -/
theorem read_primary_of_mem_logical {t : Token} (ht : t.kind ∈ logical) (rest : List Token) :
    read (primary inner) (t :: rest) = .error (unexpected .expression (t :: rest)) := by
  obtain ⟨kind, position⟩ := t
  simp only [logical, List.mem_cons, List.not_mem_nil, or_false] at ht
  rw [read_primary_cons]
  rcases ht with rfl | rfl | rfl | rfl | rfl | rfl <;> rfl

theorem readsAlike_primary (hinner : x.NestedAlike inner) : x.ReadsAlike (primary inner) := by
  intro ts us h
  cases h with
  | nil => exact .unexpected .nil _
  | @cons t u ts us hkind hfield hnotIn h =>
      have hwhole : x.Interchanged (t :: ts) (u :: us) := .cons hkind hfield hnotIn h
      rcases hkind.eq_or_mem_logical with hsame | ⟨ht, hu⟩
      · rw [read_primary_cons, read_primary_cons, hsame]
        cases u.kind with
        | number v | string v => exact .ok h
        | stop => exact .unexpected hwhole _
        | symbol s =>
            cases s
            case openParen =>
              refine (hinner.1 _ _ h).bind fun e more more' _ hmore => ?_
              exact (readsAlike_symbol (by decide) _ _ _ hmore).bind fun _ left left' _ hleft =>
                .ok hleft
            case openBracket =>
              refine (readsAlike_items hinner.1 (by decide) _ _ _ h).bind
                fun es left left' _ hleft => ?_
              exact .bounded _ (.ok hleft) _ _
            all_goals exact .unexpected hwhole _
        | word name =>
            simp only
            split
            · exact .ok h
            split
            · exact .ok h
            split
            · exact .ok h
            split
            · exact .unexpected hwhole _
            · exact readNamed_alike hinner name h
      · rw [read_primary_of_mem_logical ht, read_primary_of_mem_logical hu]
        exact .unexpected hwhole _

/-- The position at which an expression starts is only copied to an error. -/
theorem readFields_alike (start start' : Nat) (e : Expr) (h : x.Interchanged ts us) :
    x.Alike (readFields start e ts) (readFields start' e us) := by
  induction hlength : ts.length using Nat.strongRecOn generalizing ts us e with
  | ind length ih =>
    cases h with
    | nil => exact .ok .nil
    | @cons t u ts us hkind hfield hnotIn h =>
        rw [readFields_cons, readFields_cons, isSymbol_eq hkind (s := .dot) (by decide)]
        split
        · next hdot =>
          have hdot' : t.kind = .symbol .dot :=
            (hkind.eq_iff (by decide)).2 (Token.isSymbol_iff.1 hdot)
          have hname := hfield hdot'
          have hwhole := h
          cases h with
          | nil => exact .unexpected .nil _
          | @cons name name' ts us hkind' hfield' hnotIn' h =>
              have hsame : name.kind = name'.kind := hname
              simp only [hsame]
              split
              · exact ih ts.length (by simp only [List.length_cons] at hlength; omega) _ h rfl
              · exact .error (.fieldOfNonVariable _ _ _)
              · exact .unexpected hwhole _
        · exact .ok (.cons hkind hfield hnotIn h)

theorem readsAlike_member (hinner : x.NestedAlike inner) : x.ReadsAlike (member inner) := by
  intro ts us h
  rw [read_member, read_member]
  exact (readsAlike_primary hinner _ _ h).bind fun e rest rest' _ hrest =>
    readFields_alike _ _ e hrest

theorem readsAlike_unary (hinner : x.NestedAlike inner) : x.ReadsAlike (unary inner) := by
  intro ts us h
  cases h with
  | nil => exact readsAlike_member hinner _ _ .nil
  | @cons t u ts us hkind hfield hnotIn h =>
      have hnot : (t.isSymbol .bang || t.isWord "not") = (u.isSymbol .bang || u.isWord "not") :=
        hkind.congr (fun k => k == .symbol .bang || k == .word "not") (by rintro _ _ ⟨⟩ <;> rfl)
      rw [read_unary_cons, read_unary_cons, hnot, isSymbol_eq hkind (s := .minus) (by decide)]
      split
      · refine (hinner.2 _ _ h).bind fun e left left' _ hleft => ?_
        exact .bounded _ (.ok hleft) _ _
      split
      · refine (hinner.2 _ _ h).bind fun e left left' _ hleft => ?_
        simp only [negated_eq]
        exact .bounded _ (.ok hleft) _ _
      · exact readsAlike_member hinner _ _ (.cons hkind hfield hnotIn h)

theorem readsAlike_ternary (hinner : x.NestedAlike inner)
    (hdisjunction : x.ReadsAlike (disjunction inner)) : x.ReadsAlike (ternary inner) := by
  intro ts us h
  rw [read_ternary, read_ternary]
  refine (hdisjunction _ _ h).bind fun condition rest rest' _ hrest => ?_
  cases hrest with
  | nil => exact .ok .nil
  | cons hkind hfield hnotIn hmore =>
      simp only [readBranches, isSymbol_eq hkind (show .symbol .question ∉ logical by decide)]
      split
      · refine (hinner.1 _ _ hmore).bind fun whenTrue _ _ _ htrue => ?_
        refine (readsAlike_symbol (by decide) _ _ _ htrue).bind fun _ _ _ _ hcolon => ?_
        refine (hinner.1 _ _ hcolon).bind fun whenFalse left left' _ hleft => ?_
        exact .bounded _ (.ok hleft) _ _
      · exact .ok (.cons hkind hfield hnotIn hmore)

end Levels

/-- The parser of any level does not tell related lists apart. -/
theorem readsAlike_level {inner : Nested} (hinner : x.NestedAlike inner) (level : Level) :
    x.ReadsAlike (level.parser inner) := by
  have hunary : x.ReadsAlike (unary inner) := readsAlike_unary hinner
  have hmultiplicative : x.ReadsAlike (Level.multiplicative.parser inner) :=
    readsAlike_chain rfl hunary
  have hadditive : x.ReadsAlike (Level.additive.parser inner) :=
    readsAlike_chain rfl hmultiplicative
  have hcomparison : x.ReadsAlike (Level.comparison.parser inner) := readsAlike_chain rfl hadditive
  have hconjunction : x.ReadsAlike (Level.conjunction.parser inner) :=
    readsAlike_chain rfl hcomparison
  have hdisjunction : x.ReadsAlike (Level.disjunction.parser inner) :=
    readsAlike_chain rfl hconjunction
  cases level with
  | ternary => exact readsAlike_ternary hinner hdisjunction
  | member => exact readsAlike_member hinner
  | primary => exact readsAlike_primary hinner
  | unary | multiplicative | additive | comparison | conjunction | disjunction => assumption

theorem nestedAlike_nested (levels : Nat) : x.NestedAlike (nested levels) := by
  induction levels with
  | zero => exact ⟨fun _ _ _ => .error (.tooDeep _ _), fun _ _ _ => .error (.tooDeep _ _)⟩
  | succ levels ih => exact ⟨readsAlike_level ih .ternary, readsAlike_level ih .unary⟩

/-- **Related lists of tokens are the same expression** or none, for the same kind of reason. -/
theorem expression_alike (h : x.Interchanged ts us) :
    (∃ e, expression ts = .ok e ∧ expression us = .ok e)
      ∨ ∃ e e', expression ts = .error e ∧ expression us = .error e' ∧ x.ErrorsAlike e e' := by
  rw [expression_eq, expression_eq]
  have hread := (nestedAlike_nested (x := x) nestingLimit).1 ts us h
  generalize read (nested nestingLimit).ternary ts = r at hread
  generalize read (nested nestingLimit).ternary us = r' at hread
  cases hread with
  | error he => exact .inr ⟨_, _, rfl, rfl, he⟩
  | @ok e rest rest' hrest =>
      simp only [ok_bind]
      have hstop : headKind rest = .stop ↔ headKind rest' = .stop :=
        (pair_headKind hrest).eq_iff (by decide)
      split
      · next hend =>
        rw [hstop.1 hend]
        exact .inl ⟨e, rfl, rfl⟩
      · next hend =>
        split
        · next hend' => exact absurd (hstop.2 hend') hend
        · exact .inr ⟨_, _, rfl, rfl, unexpected_alike hrest _⟩

end Exchange

end LabelRules
