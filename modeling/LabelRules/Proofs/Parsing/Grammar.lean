import LabelRules.Text.Parser

set_option autoImplicit false

/-! # The grammar of expressions

`Derives` is the grammar of rules as a relation between lists of token kinds and phrases: nine
levels of expressions, of which five are chains that associate to the left, and lists of items. A
derivation says how many levels of nesting it takes at most; that number only matters for the limit
of the parser, and more of it never hurts (`Derives.mono`). Beside it stand the facts about single
tokens on which reading rests: the tokens with which an expression starts (`Derives.starts`), those
that write an operator (`Level.operatorAt_append`, `Level.exists_of_operatorAt`), and those that end
an expression of a level (`Level.Ends`).
-/

namespace LabelRules

/-! ## Levels -/

/-- The levels of expressions, from the loosest to the tightest. -/
inductive Level where
  | ternary | disjunction | conjunction | comparison | additive | multiplicative | unary | member
  | primary
  deriving DecidableEq, Repr, Inhabited

namespace Level

/-- The next tighter level. -/
def next : Level → Level
  | .ternary => .disjunction
  | .disjunction => .conjunction
  | .conjunction => .comparison
  | .comparison => .additive
  | .additive => .multiplicative
  | .multiplicative => .unary
  | .unary => .member
  | .member => .primary
  | .primary => .primary

/-- How tight a level is. -/
def rank : Level → Nat
  | .ternary => 0
  | .disjunction => 1
  | .conjunction => 2
  | .comparison => 3
  | .additive => 4
  | .multiplicative => 5
  | .unary => 6
  | .member => 7
  | .primary => 8

/-- The operators of a level that is a chain of operands, with the tokens that write them. -/
def operators : Level → List (List TokenKind × Operator)
  | .disjunction => [([.symbol .orOr], .or), ([.word "or"], .or)]
  | .conjunction => [([.symbol .andAnd], .and), ([.word "and"], .and)]
  | .comparison =>
    [([.symbol .eqEq], .eq), ([.symbol .notEq], .ne), ([.symbol .less], .lt),
      ([.symbol .lessEq], .le), ([.symbol .greater], .gt), ([.symbol .greaterEq], .ge),
      ([.word "matches"], .matches), ([.word "contains"], .contains),
      ([.word "startsWith"], .startsWith), ([.word "endsWith"], .endsWith), ([.word "in"], .isIn),
      ([.word "not", .word "in"], .notIn)]
  | .additive => [([.symbol .plus], .add), ([.symbol .minus], .sub)]
  | .multiplicative =>
    [([.symbol .star], .mul), ([.symbol .slash], .div), ([.symbol .percent], .mod)]
  | _ => []

theorem rank_next_of_ne {level : Level} (h : level ≠ .primary) :
    level.next.rank = level.rank + 1 := by
  cases level with
  | primary => exact absurd rfl h
  | _ => rfl

/-- No operator is written with the stop token. -/
theorem stop_notMem_operators {level : Level} {os : List TokenKind} {op : Operator}
    (h : (os, op) ∈ level.operators) : .stop ∉ os := by
  have hall : ∀ p ∈ level.operators, .stop ∉ p.1 := by
    cases level <;> decide
  exact hall _ h

/-- Every operator is written with some token. -/
theorem nil_notMem_operators (level : Level) (op : Operator) : ([], op) ∉ level.operators := by
  cases level <;> simp [operators]

theorem eq_of_rank_eq {l level : Level} (h : l.rank = level.rank) : l = level := by
  cases l <;> cases level <;> first | rfl | cases h

end Level

/-! ## Derivations -/

/-- The value that a token writes by itself. -/
def TokenKind.literal? : TokenKind → Option Value
  | .number x => some (.number x)
  | .string s => some (.string s)
  | .word name =>
    if name = "true" then some (.bool true)
    else if name = "false" then some (.bool false)
    else if name = "nil" then some .nil
    else none
  | _ => none

/-- What a minus before an expression makes of it. -/
def Expr.negation : Expr → Expr
  | .literal (.number x) => .literal (.number (-x))
  | e => .unary .negate e

/-- The tokens of the fields after a variable. -/
def accessors (names : List String) : List TokenKind :=
  names.flatMap fun name => [.symbol .dot, .word name]

/-- What a list of tokens can write: an expression of a level, or items set apart by commas. -/
inductive Phrase where
  | expr (level : Level) (e : Expr)
  | items (es : List Expr)

/-- `Derives n ts p`: the tokens `ts` write the phrase `p`, with at most `n` expressions around any
other one: parentheses, brackets, arguments, unary operators, branches. -/
inductive Derives : Nat → List TokenKind → Phrase → Prop where
  | looser {n : Nat} {ts : List TokenKind} {level : Level} {e : Expr} (hlevel : level ≠ .primary)
      (h : Derives n ts (.expr level.next e)) : Derives n ts (.expr level e)
  | ternary {n : Nat} {cs ts fs : List TokenKind} {c t f : Expr}
      (hc : Derives (n + 1) cs (.expr .disjunction c)) (ht : Derives n ts (.expr .ternary t))
      (hf : Derives n fs (.expr .ternary f)) :
      Derives (n + 1) (cs ++ .symbol .question :: (ts ++ .symbol .colon :: fs))
        (.expr .ternary (.ternary c t f))
  | binary {n : Nat} {ls os rs : List TokenKind} {level : Level} {op : Operator} {l r : Expr}
      (hl : Derives n ls (.expr level l)) (hop : (os, op) ∈ level.operators)
      (hr : Derives n rs (.expr level.next r)) :
      Derives n (ls ++ (os ++ rs)) (.expr level (.binary op l r))
  | not {n : Nat} {k : TokenKind} {ts : List TokenKind} {e : Expr}
      (hk : k = .symbol .bang ∨ k = .word "not") (h : Derives n ts (.expr .unary e)) :
      Derives (n + 1) (k :: ts) (.expr .unary (.unary .not e))
  | negate {n : Nat} {ts : List TokenKind} {e : Expr} (h : Derives n ts (.expr .unary e)) :
      Derives (n + 1) (.symbol .minus :: ts) (.expr .unary e.negation)
  | fields {n : Nat} {ts : List TokenKind} {path : List String}
      (h : Derives n ts (.expr .primary (.field path))) (names : List String) :
      Derives n (ts ++ accessors names) (.expr .member (.field (path ++ names)))
  | literal {n : Nat} {k : TokenKind} {v : Value} (h : k.literal? = some v) :
      Derives n [k] (.expr .primary (.literal v))
  | word {n : Nat} {name : String} (h : name ∉ reserved) :
      Derives n [.word name] (.expr .primary (.field [name]))
  | parens {n : Nat} {ts : List TokenKind} {e : Expr} (h : Derives n ts (.expr .ternary e)) :
      Derives (n + 1) (.symbol .openParen :: (ts ++ [.symbol .closeParen])) (.expr .primary e)
  | call {n : Nat} {name : String} {ts : List TokenKind} {es : List Expr} (hname : name ∉ reserved)
      (h : Derives n ts (.items es)) :
      Derives n (.word name :: .symbol .openParen :: (ts ++ [.symbol .closeParen]))
        (.expr .primary (.call name es))
  | array {n : Nat} {ts : List TokenKind} {es : List Expr} (h : Derives n ts (.items es)) :
      Derives n (.symbol .openBracket :: (ts ++ [.symbol .closeBracket]))
        (.expr .primary (.array es))
  | none {n : Nat} : Derives n [] (.items [])
  | last {n : Nat} {ts : List TokenKind} {e : Expr} (h : Derives n ts (.expr .ternary e)) :
      Derives (n + 1) ts (.items [e])
  | more {n : Nat} {ts us : List TokenKind} {e e' : Expr} {es : List Expr}
      (h : Derives n ts (.expr .ternary e)) (hs : Derives (n + 1) us (.items (e' :: es))) :
      Derives (n + 1) (ts ++ .symbol .comma :: us) (.items (e :: e' :: es))

/-- The tokens write the expression. -/
def Writes (ts : List TokenKind) (e : Expr) : Prop := ∃ n, Derives n ts (.expr .ternary e)

namespace Derives

/-- A number of levels that suffices may be exceeded. -/
theorem mono {n m : Nat} {ts : List TokenKind} {p : Phrase} (h : Derives n ts p) (hnm : n ≤ m) :
    Derives m ts p := by
  induction h generalizing m with
  | looser hlevel _ ih => exact .looser hlevel (ih hnm)
  | ternary _ _ _ ihc iht ihf =>
      obtain ⟨m, rfl⟩ := Nat.exists_eq_add_one.2 (Nat.lt_of_lt_of_le (Nat.succ_pos _) hnm)
      exact .ternary (ihc (by omega)) (iht (by omega)) (ihf (by omega))
  | binary _ hop _ ihl ihr => exact .binary (ihl hnm) hop (ihr hnm)
  | not hk _ ih =>
      obtain ⟨m, rfl⟩ := Nat.exists_eq_add_one.2 (Nat.lt_of_lt_of_le (Nat.succ_pos _) hnm)
      exact .not hk (ih (by omega))
  | negate _ ih =>
      obtain ⟨m, rfl⟩ := Nat.exists_eq_add_one.2 (Nat.lt_of_lt_of_le (Nat.succ_pos _) hnm)
      exact .negate (ih (by omega))
  | fields _ names ih => exact .fields (ih hnm) names
  | literal h => exact .literal h
  | word h => exact .word h
  | parens _ ih =>
      obtain ⟨m, rfl⟩ := Nat.exists_eq_add_one.2 (Nat.lt_of_lt_of_le (Nat.succ_pos _) hnm)
      exact .parens (ih (by omega))
  | call hname _ ih => exact .call hname (ih hnm)
  | array _ ih => exact .array (ih hnm)
  | none => exact .none
  | last _ ih =>
      obtain ⟨m, rfl⟩ := Nat.exists_eq_add_one.2 (Nat.lt_of_lt_of_le (Nat.succ_pos _) hnm)
      exact .last (ih (by omega))
  | more _ _ ih ihs =>
      obtain ⟨m, rfl⟩ := Nat.exists_eq_add_one.2 (Nat.lt_of_lt_of_le (Nat.succ_pos _) hnm)
      exact .more (ih (by omega)) (ihs (by omega))

/-- An expression of a level stands wherever one of a looser level may. -/
theorem of_rank_le {n : Nat} {ts : List TokenKind} {l level : Level} {e : Expr}
    (h : Derives n ts (.expr l e)) (hrank : level.rank ≤ l.rank) :
    Derives n ts (.expr level e) := by
  obtain ⟨d, hd⟩ := Nat.exists_eq_add_of_le hrank
  induction d generalizing level with
  | zero => exact Level.eq_of_rank_eq hd ▸ h
  | succ d ih =>
      have hne : level ≠ .primary := by
        rintro rfl
        cases l <;> simp [Level.rank] at hd <;> omega
      have hnext := Level.rank_next_of_ne hne
      exact .looser hne (ih (by omega) (by omega))

/-- Every expression stands where the loosest level may. -/
theorem loosest {n : Nat} {ts : List TokenKind} {l : Level} {e : Expr}
    (h : Derives n ts (.expr l e)) : Derives n ts (.expr .ternary e) :=
  h.of_rank_le (Nat.zero_le l.rank)

end Derives

/-! ## The tokens with which an expression starts -/

/-- An expression of the level can start with the token; a unary operator stands before members. -/
def Level.starts (level : Level) : TokenKind → Bool
  | .number _ | .string _ | .symbol .openParen | .symbol .openBracket => true
  | .symbol .bang | .symbol .minus => level.rank ≤ Level.unary.rank
  | .word name => name ≠ "not" ∨ level.rank ≤ Level.unary.rank
  | _ => false

theorem Level.starts_of_rank_le {l level : Level} {k : TokenKind} (hk : l.starts k = true)
    (h : level.rank ≤ l.rank) : level.starts k = true := by
  have hunary : l.rank ≤ Level.unary.rank → level.rank ≤ Level.unary.rank := fun hl => by omega
  unfold Level.starts at hk ⊢
  split at hk
  · rfl
  · rfl
  · rfl
  · rfl
  · simpa using hunary (by simpa using hk)
  · simpa using hunary (by simpa using hk)
  · next name =>
      simp only [decide_eq_true_eq] at hk ⊢
      exact hk.imp_right hunary
  · cases hk

/-- A token that starts a member is no unary operator. -/
theorem Level.ne_of_starts_member {k : TokenKind} (h : Level.member.starts k = true) :
    k ≠ .symbol .bang ∧ k ≠ .word "not" ∧ k ≠ .symbol .minus := by
  refine ⟨?_, ?_, ?_⟩ <;>
    · rintro rfl
      exact absurd h (by decide)

theorem TokenKind.starts_of_literal? {k : TokenKind} {v : Value} (h : k.literal? = some v)
    (level : Level) : level.starts k = true := by
  unfold TokenKind.literal? at h
  split at h
  · rfl
  · rfl
  · next name =>
      have hname : name ≠ "not" := by
        rintro rfl
        simp at h
      simp [Level.starts, hname]
  · cases h

theorem not_mem_reserved {name : String} (h : name ∉ reserved) : name ≠ "not" := by
  rintro rfl
  exact h (by decide)

/-- What an expression starts with. -/
theorem Derives.starts {n : Nat} {ts : List TokenKind} {level : Level} {e : Expr}
    (h : Derives n ts (.expr level e)) : ∃ k us, ts = k :: us ∧ level.starts k = true := by
  -- The induction is over the derivations of all phrases, of which items are none that we look at.
  generalize hp : Phrase.expr level e = p at h
  induction h generalizing level e with
  | looser hlevel _ ih =>
      obtain ⟨rfl, rfl⟩ := Phrase.expr.inj hp
      obtain ⟨k, us, rfl, hk⟩ := ih rfl
      exact ⟨k, us, rfl, Level.starts_of_rank_le hk (by rw [Level.rank_next_of_ne hlevel]; omega)⟩
  | ternary _ _ _ ihc _ _ =>
      obtain ⟨rfl, rfl⟩ := Phrase.expr.inj hp
      obtain ⟨k, us, rfl, hk⟩ := ihc rfl
      exact ⟨k, _, rfl, Level.starts_of_rank_le hk (by decide)⟩
  | binary _ _ _ ihl _ =>
      obtain ⟨rfl, rfl⟩ := Phrase.expr.inj hp
      obtain ⟨k, us, rfl, hk⟩ := ihl rfl
      exact ⟨k, _, rfl, hk⟩
  | not hk _ _ =>
      obtain ⟨rfl, rfl⟩ := Phrase.expr.inj hp
      rcases hk with rfl | rfl
      · exact ⟨_, _, rfl, rfl⟩
      · exact ⟨_, _, rfl, by decide⟩
  | negate _ _ =>
      obtain ⟨rfl, rfl⟩ := Phrase.expr.inj hp
      exact ⟨_, _, rfl, rfl⟩
  | fields _ _ ih =>
      obtain ⟨rfl, rfl⟩ := Phrase.expr.inj hp
      obtain ⟨k, us, rfl, hk⟩ := ih rfl
      exact ⟨k, _, rfl, Level.starts_of_rank_le hk (by decide)⟩
  | literal h =>
      obtain ⟨rfl, rfl⟩ := Phrase.expr.inj hp
      exact ⟨_, _, rfl, TokenKind.starts_of_literal? h _⟩
  | word h =>
      obtain ⟨rfl, rfl⟩ := Phrase.expr.inj hp
      exact ⟨_, _, rfl, by simp [Level.starts, not_mem_reserved h]⟩
  | parens _ _ =>
      obtain ⟨rfl, rfl⟩ := Phrase.expr.inj hp
      exact ⟨_, _, rfl, rfl⟩
  | call hname _ _ =>
      obtain ⟨rfl, rfl⟩ := Phrase.expr.inj hp
      exact ⟨_, _, rfl, by simp [Level.starts, not_mem_reserved hname]⟩
  | array _ _ =>
      obtain ⟨rfl, rfl⟩ := Phrase.expr.inj hp
      exact ⟨_, _, rfl, rfl⟩
  | none => cases hp
  | last _ _ => cases hp
  | more _ _ _ _ => cases hp

/-- Items start like their first expression. -/
theorem Derives.items_starts {n : Nat} {ts : List TokenKind} {e : Expr} {es : List Expr}
    (h : Derives n ts (.items (e :: es))) :
    ∃ k us, ts = k :: us ∧ Level.ternary.starts k = true := by
  cases h with
  | last h => exact h.starts
  | more h _ =>
      obtain ⟨k, us, rfl, hk⟩ := h.starts
      exact ⟨k, _, rfl, hk⟩

/-- The stop token writes nothing. -/
theorem Derives.stop_notMem {n : Nat} {ts : List TokenKind} {p : Phrase} (h : Derives n ts p) :
    .stop ∉ ts := by
  induction h with
  | looser _ _ ih => exact ih
  | ternary _ _ _ ihc iht ihf => simp [ihc, iht, ihf]
  | binary _ hop _ ihl ihr => simp [ihl, ihr, Level.stop_notMem_operators hop]
  | not hk _ ih => rcases hk with rfl | rfl <;> simp [ih]
  | negate _ ih => simp [ih]
  | fields _ names ih => simp [ih, accessors]
  | literal h =>
      rename_i k v
      cases k with
      | stop => cases h
      | _ => simp
  | word _ => simp
  | parens _ ih => simp [ih]
  | call _ _ ih => simp [ih]
  | array _ ih => simp [ih]
  | none => simp
  | last _ ih => exact ih
  | more _ _ ih ihs => simp [ih, ihs]

/-! ## The tokens that go on with an expression -/

namespace Level

open LabelRules.Parser

/-- A level that is a chain of operands with operators between them. -/
def isChain (level : Level) : Bool := !level.operators.isEmpty

/-- The operator of a level at the head of some tokens. -/
def operatorAt : Level → OperatorAt
  | .disjunction => orAt
  | .conjunction => andAt
  | .comparison => comparisonAt
  | .additive => additiveAt
  | .multiplicative => multiplicativeAt
  | _ => fun _ => none

/-- The head of some tokens goes on with an expression of the level. -/
def continues (level : Level) (tokens : List Token) : Bool :=
  match level with
  | .ternary => headKind tokens == .symbol .question
  | .member => headKind tokens == .symbol .dot
  | .primary => headKind tokens == .symbol .openParen
  | level => (level.operatorAt tokens).isSome

/-- The tokens go on with no expression of the level or of a tighter one. -/
def Ends (level : Level) (tokens : List Token) : Prop :=
  ∀ l : Level, level.rank ≤ l.rank → l.continues tokens = false

theorem Ends.of_rank_le {level l : Level} {tokens : List Token} (h : level.Ends tokens)
    (hrank : level.rank ≤ l.rank) : l.Ends tokens :=
  fun m hm => h m (by omega)

/-- Tokens that write an operator are found. -/
theorem operatorAt_append {level : Level} {os : List TokenKind} {op : Operator}
    (h : (os, op) ∈ level.operators) {used : List Token} (hused : used.map (·.kind) = os)
    (rest : List Token) : level.operatorAt (used ++ rest) = some (op, used.length) := by
  have hall : ∀ p ∈ level.operators, ∀ used : List Token, used.map (·.kind) = p.1 →
      level.operatorAt (used ++ rest) = some (p.2, used.length) := by
    cases level <;>
      simp only [operators, List.forall_mem_cons, List.map_eq_cons_iff, List.map_eq_nil_iff,
        List.not_mem_nil, false_implies, implies_true, and_true]
    all_goals and_intros
    all_goals first
      | rintro _ ⟨t, _, rfl, ht, rfl⟩
        simp [operatorAt, orAt, andAt, comparisonAt, additiveAt, multiplicativeAt, ht]
      | rintro _ ⟨t, _, rfl, ht, u, _, rfl, hu, rfl⟩
        simp [operatorAt, comparisonAt, headKind, ht, hu]
  exact hall _ h used hused

/-- What is found is written by the tokens before the rest. -/
theorem exists_of_operatorAt {level : Level} {tokens : List Token} {op : Operator} {width : Nat}
    (h : level.operatorAt tokens = some (op, width)) :
    ∃ used rest, tokens = used ++ rest ∧ width = used.length
      ∧ (used.map (·.kind), op) ∈ level.operators := by
  have hone : ∀ (t : Token) (rest : List Token), width = 1 →
      ([t.kind], op) ∈ level.operators → ∃ used rest', t :: rest = used ++ rest'
        ∧ width = used.length ∧ (used.map (·.kind), op) ∈ level.operators :=
    fun t rest hwidth hop => ⟨[t], rest, rfl, hwidth, hop⟩
  cases tokens with
  | nil => cases level <;> cases h
  | cons t rest =>
      cases level with
      | ternary | unary | member | primary => cases h
      | disjunction | conjunction =>
          simp only [operatorAt, orAt, andAt] at h
          split at h
          · next hk =>
              simp only [Bool.or_eq_true, Token.isSymbol_iff, Token.isWord_iff] at hk
              cases h
              refine hone t rest rfl ?_
              rcases hk with hk | hk <;> simp [operators, hk]
          · cases h
      | additive | multiplicative =>
          simp only [operatorAt, additiveAt, multiplicativeAt] at h
          split at h <;> first
            | next hk =>
                cases h
                exact hone t rest rfl (by simp [operators, hk])
            | cases h
      | comparison =>
          simp only [operatorAt, comparisonAt] at h
          split at h
          -- A word is an operator by itself, but for `not`, which needs an `in` after it.
          case h_7 name hk =>
            by_cases hnot : name = "not" ∧ headKind rest = .word "in"
            · obtain ⟨rfl, hin⟩ := hnot
              obtain ⟨rfl, rfl⟩ : .notIn = op ∧ 2 = width := by simpa [hin] using h
              cases rest with
              | nil => cases hin
              | cons u more =>
                  have hu : u.kind = .word "in" := hin
                  exact ⟨[t, u], more, rfl, rfl, by simp [operators, hk, hu]⟩
            · simp only [hnot, if_false] at h
              repeat' split at h
              all_goals first
                | next hname =>
                    subst hname
                    cases h
                    exact hone t rest rfl (by simp [operators, hk])
                | cases h
          all_goals first
            | next hk =>
                cases h
                exact hone t rest rfl (by simp [operators, hk])
            | cases h

/-- After an operand comes no tighter operator but the one that is written. -/
theorem ends_operator {level : Level} {os : List TokenKind} {op : Operator}
    (h : (os, op) ∈ level.operators) {used : List Token} (hused : used.map (·.kind) = os)
    (rest : List Token) : level.next.Ends (used ++ rest) := by
  have hall : ∀ p ∈ level.operators, ∀ used : List Token, used.map (·.kind) = p.1 →
      level.next.Ends (used ++ rest) := by
    cases level <;>
      simp only [operators, List.forall_mem_cons, List.map_eq_cons_iff, List.map_eq_nil_iff,
        List.not_mem_nil, false_implies, implies_true, and_true]
    all_goals and_intros
    all_goals first
      | rintro _ ⟨t, _, rfl, ht, rfl⟩ l hl
        cases l <;> simp [rank, next] at hl <;>
          simp [continues, operatorAt, andAt, comparisonAt, additiveAt, multiplicativeAt, ht,
            headKind]
      | rintro _ ⟨t, _, rfl, ht, u, _, rfl, hu, rfl⟩ l hl
        cases l <;> simp [rank, next] at hl <;>
          simp [continues, operatorAt, additiveAt, multiplicativeAt, headKind, ht]
  exact hall _ h used hused

/-- The token ends every expression before it. -/
def closes : TokenKind → Bool
  | .stop | .symbol .closeParen | .symbol .closeBracket | .symbol .comma | .symbol .colon => true
  | _ => false

theorem ends_of_closes {t : Token} (h : closes t.kind = true) (rest : List Token) (level : Level) :
    level.Ends (t :: rest) := by
  obtain ⟨kind, position⟩ := t
  intro l _
  cases kind with
  | word _ | number _ | string _ => cases h
  | stop => cases l <;> rfl
  | symbol s => cases s <;> first | (cases l <;> rfl) | cases h

/-- A token that starts an expression does not end another one. -/
theorem closes_eq_false_of_starts {level : Level} {k : TokenKind} (h : level.starts k = true) :
    closes k = false := by
  unfold Level.starts at h
  split at h <;> first | rfl | cases h

/-- A question mark ends what is tighter than a ternary. -/
theorem ends_question {t : Token} (ht : t.kind = .symbol .question) (rest : List Token) :
    Level.disjunction.Ends (t :: rest) := by
  obtain ⟨_, position⟩ := t
  subst ht
  intro l hl
  cases l with
  | ternary => cases hl
  | _ => rfl

/-- A dot ends what is tighter than a member. -/
theorem ends_dot {t : Token} (ht : t.kind = .symbol .dot) (rest : List Token) :
    Level.primary.Ends (t :: rest) := by
  intro l hl
  obtain rfl : l = .primary := by
    cases l <;> simp [rank] at hl ⊢
  simp [continues, headKind, ht]

end Level

end LabelRules
