import LabelRules.Proofs.Parsing.Grammar

set_option autoImplicit false

/-! # What the parsers read

A parser returns the tokens that are left together with a bound on their number. `read` forgets the
bound. Each parser has one equation for what it reads (`read_chain`, `read_primary`, …), in which
the parsers that it uses are read one after the other.
-/

namespace LabelRules

section Except

variable {ε α β : Type}

@[simp] theorem ok_bind (a : α) (f : α → Except ε β) : (Except.ok a >>= f) = f a := rfl

@[simp] theorem error_bind (e : ε) (f : α → Except ε β) :
    ((Except.error e : Except ε α) >>= f) = .error e := rfl

/-- The first of two steps that together succeed has succeeded. -/
theorem bind_eq_ok_iff {x : Except ε α} {f : α → Except ε β} {b : β} :
    (x >>= f) = .ok b ↔ ∃ a, x = .ok a ∧ f a = .ok b := by
  cases x <;> simp

theorem exists_of_isOk {x : Except ε α} (h : x.isOk = true) : ∃ a, x = .ok a := by
  cases x with
  | error e => cases h
  | ok a => exact ⟨a, rfl⟩

end Except

namespace Parser

variable {α : Type}

/-- A result without the bound on the tokens that are left. -/
def unbounded {p : List Token → Prop} (r : Except ParseError (α × Subtype p)) :
    Except ParseError (α × List Token) :=
  r.map fun (a, rest) => (a, rest.1)

@[simp] theorem unbounded_ok {p : List Token → Prop} (a : α) (rest : Subtype p) :
    unbounded (.ok (a, rest)) = .ok (a, rest.1) := rfl

@[simp] theorem unbounded_error {p : List Token → Prop} (e : ParseError) :
    unbounded (.error e : Except ParseError (α × Subtype p)) = .error e := rfl

/-- What a parser reads, and the tokens that are left. -/
def read (parser : Parser α) (tokens : List Token) : Except ParseError (α × List Token) :=
  unbounded (parser tokens)

/-- A parser takes a token. -/
theorem length_lt_of_read {parser : Parser α} {tokens rest : List Token} {a : α}
    (h : read parser tokens = .ok (a, rest)) : rest.length < tokens.length := by
  unfold read at h
  cases hparser : parser tokens with
  | error e =>
      rw [hparser] at h
      cases h
  | ok result =>
      rw [hparser] at h
      cases h
      exact result.2.2

theorem read_symbol_cons (s : Symbol) (expected : Expected) (t : Token) (rest : List Token) :
    read (symbol s expected) (t :: rest)
      = if t.isSymbol s then .ok ((), rest) else .error (unexpected expected (t :: rest)) := by
  simp only [read, symbol]
  split <;> rfl

/-! ## Chains of operands -/

section Chain

variable (operand : Parser Expr) {operatorAt : OperatorAt}

/-- What going on with a chain reads. -/
def readChain (operatorAt : OperatorAt) (left : Expr) (tokens : List Token) :
    Except ParseError (Expr × List Token) :=
  unbounded (chainFrom operand operatorAt left tokens)

theorem readChain_of_none {tokens : List Token} (h : operatorAt tokens = none) (left : Expr) :
    readChain operand operatorAt left tokens = .ok (left, tokens) := by
  unfold readChain
  rw [chainFrom]
  split
  · rfl
  · next hsome => simp [h] at hsome

theorem readChain_of_some {tokens : List Token} {op : Operator} {width : Nat}
    (h : operatorAt tokens = some (op, width)) (left : Expr) :
    readChain operand operatorAt left tokens
      = (do
          let (right, rest) ← read operand (tokens.drop width)
          let tree ← bounded (.binary op left right) rest
          readChain operand operatorAt tree rest) := by
  unfold readChain read
  rw [chainFrom]
  split
  · next hnone => simp [h] at hnone
  · next op' width' hsome =>
    obtain ⟨rfl, rfl⟩ : op = op' ∧ width = width' := by simpa [h] using hsome
    cases operand (tokens.drop width) with
    | error e => rfl
    | ok result =>
        obtain ⟨right, rest, hrest⟩ := result
        simp only [unbounded_ok, ok_bind]
        cases bounded (.binary op left right) rest with
        | error e => rfl
        | ok tree =>
            simp only [ok_bind]
            cases chainFrom operand operatorAt tree rest <;> rfl

theorem read_chain (tokens : List Token) :
    read (chain operand operatorAt) tokens
      = (do
          let (first, rest) ← read operand tokens
          readChain operand operatorAt first rest) := by
  simp only [read, readChain, chain]
  cases operand tokens with
  | error e => rfl
  | ok result =>
      obtain ⟨first, rest, hrest⟩ := result
      simp only [unbounded_ok, ok_bind]
      cases chainFrom operand operatorAt first rest <;> rfl

end Chain

/-! ## Lists -/

section Items

variable (item : Parser Expr) (close : Symbol) (expected : Expected)

/-- What is read of items when there is at least one. -/
def readItems (tokens : List Token) : Except ParseError (List Expr × List Token) :=
  unbounded (itemsFrom item close expected tokens)

theorem readItems_eq (tokens : List Token) :
    readItems item close expected tokens
      = (do
          let (e, rest) ← read item tokens
          match rest with
          | [] => .error (unexpected expected [])
          | t :: more =>
            if t.isSymbol .comma then do
              let (es, left) ← readItems item close expected more
              return (e :: es, left)
            else if t.isSymbol close then return ([e], more)
            else .error (unexpected expected (t :: more))) := by
  unfold readItems read
  rw [itemsFrom]
  cases item tokens with
  | error e => rfl
  | ok result =>
      obtain ⟨e, rest, hrest⟩ := result
      simp only [unbounded_ok, ok_bind]
      cases rest with
      | nil => rfl
      | cons t more =>
          simp only
          split
          · cases itemsFrom item close expected more <;> rfl
          · split <;> rfl

theorem read_items_cons (t : Token) (rest : List Token) :
    read (items item close expected) (t :: rest)
      = if t.isSymbol close then .ok ([], rest)
        else readItems item close expected (t :: rest) := by
  simp only [read, items, readItems]
  split <;> rfl

end Items

/-! ## The levels -/

section Levels

variable (inner : Nested)

/-- What is read after a word that can name a variable or a function. -/
def readNamed (name : String) (tokens : List Token) : Except ParseError (Expr × List Token) :=
  match tokens with
  | [] => .ok (.field [name], [])
  | t :: more =>
    if t.isSymbol .openParen then do
      let (es, left) ← read (items inner.ternary .closeParen .closeParen) more
      let e ← bounded (.call name es) left
      return (e, left)
    else .ok (.field [name], t :: more)

theorem read_primary_cons (t : Token) (rest : List Token) :
    read (primary inner) (t :: rest)
      = match t.kind with
        | .number x => .ok (.literal (.number x), rest)
        | .string s => .ok (.literal (.string s), rest)
        | .symbol .openParen => do
          let (e, more) ← read inner.ternary rest
          let ((), left) ← read (symbol .closeParen .closeParen) more
          return (e, left)
        | .symbol .openBracket => do
          let (es, left) ← read (items inner.ternary .closeBracket .closeBracket) rest
          let e ← bounded (.array es) left
          return (e, left)
        | .word name =>
          if name = "true" then .ok (.literal (.bool true), rest)
          else if name = "false" then .ok (.literal (.bool false), rest)
          else if name = "nil" then .ok (.literal .nil, rest)
          else if name ∈ reserved then .error (unexpected .expression (t :: rest))
          else readNamed inner name rest
        | _ => .error (unexpected .expression (t :: rest)) := by
  obtain ⟨kind, position⟩ := t
  simp only [read, primary]
  cases kind with
  | number x => rfl
  | string s => rfl
  | stop => rfl
  | symbol s =>
      cases s
      case openParen =>
        simp only
        cases inner.ternary rest with
        | error e => rfl
        | ok result =>
            obtain ⟨e, more, hmore⟩ := result
            simp only [unbounded_ok, ok_bind]
            cases symbol .closeParen .closeParen more <;> rfl
      case openBracket =>
        simp only
        cases items inner.ternary .closeBracket .closeBracket rest with
        | error e => rfl
        | ok result =>
            obtain ⟨es, left, hleft⟩ := result
            simp only [unbounded_ok, ok_bind]
            cases bounded (.array es) left <;> rfl
      all_goals rfl
  | word name =>
      simp only [readNamed]
      split
      · rfl
      split
      · rfl
      split
      · rfl
      split
      · rfl
      cases rest with
      | nil => rfl
      | cons u more =>
          simp only
          split
          · simp only [read]
            cases items inner.ternary .closeParen .closeParen more with
            | error e => rfl
            | ok result =>
                obtain ⟨es, left, hleft⟩ := result
                simp only [unbounded_ok, ok_bind]
                cases bounded (.call name es) left <;> rfl
          · rfl

theorem read_primary_word {t : Token} {name : String} (ht : t.kind = .word name)
    (hname : name ∉ reserved) (rest : List Token) :
    read (primary inner) (t :: rest) = readNamed inner name rest := by
  have hne : name ≠ "true" ∧ name ≠ "false" ∧ name ≠ "nil" := by
    refine ⟨?_, ?_, ?_⟩ <;>
      · rintro rfl
        exact hname (by decide)
  rw [read_primary_cons]
  simp only [ht, if_neg hne.1, if_neg hne.2.1, if_neg hne.2.2, if_neg hname]

/-- What is read of the fields after an expression. -/
def readFields (start : Nat) (e : Expr) (tokens : List Token) :
    Except ParseError (Expr × List Token) :=
  unbounded (fieldsFrom start e tokens)

theorem readFields_cons (start : Nat) (e : Expr) (t : Token) (rest : List Token) :
    readFields start e (t :: rest)
      = if t.isSymbol .dot then
          match rest with
          | [] => .error (unexpected .fieldName [])
          | u :: more =>
            match u.kind, e with
            | .word name, .field path => readFields start (.field (path ++ [name])) more
            | .word name, _ => .error (.fieldOfNonVariable name start)
            | _, _ => .error (unexpected .fieldName (u :: more))
        else .ok (e, t :: rest) := by
  unfold readFields
  cases rest with
  | nil =>
      rw [fieldsFrom]
      split <;> rfl
  | cons u more =>
      obtain ⟨kind, position⟩ := u
      rw [fieldsFrom]
      split
      · cases kind with
        | word name =>
            cases e with
            | field path =>
                simp only
                cases fieldsFrom start (.field (path ++ [name])) more <;> rfl
            | _ => rfl
        | _ => rfl
      · rfl

theorem read_member (tokens : List Token) :
    read (member inner) tokens
      = (do
          let (e, rest) ← read (primary inner) tokens
          readFields (headPosition tokens) e rest) := by
  simp only [read, member, readFields]
  cases primary inner tokens with
  | error e => rfl
  | ok result =>
      obtain ⟨e, rest, hrest⟩ := result
      simp only [unbounded_ok, ok_bind]
      cases fieldsFrom (headPosition tokens) e rest <;> rfl

theorem read_unary_cons (t : Token) (rest : List Token) :
    read (unary inner) (t :: rest)
      = if t.isSymbol .bang || t.isWord "not" then do
          let (e, left) ← read inner.unary rest
          let e ← bounded (.unary .not e) left
          return (e, left)
        else if t.isSymbol .minus then do
          let (e, left) ← read inner.unary rest
          let e ← negated e left
          return (e, left)
        else read (member inner) (t :: rest) := by
  simp only [read, unary]
  split
  · cases inner.unary rest with
    | error e => rfl
    | ok result =>
        obtain ⟨e, left, hleft⟩ := result
        simp only [unbounded_ok, ok_bind]
        cases bounded (.unary .not e) left <;> rfl
  split
  · cases inner.unary rest with
    | error e => rfl
    | ok result =>
        obtain ⟨e, left, hleft⟩ := result
        simp only [unbounded_ok, ok_bind]
        cases negated e left <;> rfl
  · rfl

/-- What is read after a condition. -/
def readBranches (condition : Expr) (tokens : List Token) :
    Except ParseError (Expr × List Token) :=
  match tokens with
  | [] => .ok (condition, [])
  | t :: rest =>
    if t.isSymbol .question then do
      let (whenTrue, afterTrue) ← read inner.ternary rest
      let ((), afterColon) ← read (symbol .colon .ternaryColon) afterTrue
      let (whenFalse, left) ← read inner.ternary afterColon
      let e ← bounded (.ternary condition whenTrue whenFalse) left
      return (e, left)
    else .ok (condition, t :: rest)

theorem read_ternary (tokens : List Token) :
    read (ternary inner) tokens
      = (do
          let (condition, rest) ← read (disjunction inner) tokens
          readBranches inner condition rest) := by
  simp only [read, ternary, readBranches]
  cases disjunction inner tokens with
  | error e => rfl
  | ok result =>
      obtain ⟨condition, rest, hrest⟩ := result
      simp only [unbounded_ok, ok_bind]
      cases rest with
      | nil => rfl
      | cons t rest =>
          simp only
          split
          · cases inner.ternary rest with
            | error e => rfl
            | ok result =>
                obtain ⟨whenTrue, afterTrue, htrue⟩ := result
                simp only [unbounded_ok, ok_bind]
                cases symbol .colon .ternaryColon afterTrue with
                | error e => rfl
                | ok result =>
                    obtain ⟨_, afterColon, hcolon⟩ := result
                    simp only [unbounded_ok, ok_bind]
                    cases inner.ternary afterColon with
                    | error e => rfl
                    | ok result =>
                        obtain ⟨whenFalse, left, hfalse⟩ := result
                        simp only [unbounded_ok, ok_bind]
                        cases bounded (.ternary condition whenTrue whenFalse) left <;> rfl
          · rfl

end Levels

/-- A changed sign is checked like every other tree; a number is never too deep. -/
theorem negated_eq (e : Expr) (rest : List Token) : negated e rest = bounded e.negation rest := by
  have hnumber : ∀ x : Float, bounded (.literal (.number x)) rest = .ok (.literal (.number x)) := by
    intro x
    rw [bounded, if_neg]
    show ¬ nestingLimit < 1
    decide
  cases e with
  | literal v =>
      cases v with
      | number x => exact (hnumber (-x)).symm
      | _ => rfl
  | _ => rfl

theorem expression_eq (tokens : List Token) :
    expression tokens
      = (do
          let (e, rest) ← read (nested nestingLimit).ternary tokens
          match headKind rest with
          | .stop => .ok e
          | _ => .error (unexpected .endOfExpression rest)) := by
  simp only [expression, read]
  cases (nested nestingLimit).ternary tokens with
  | error e => rfl
  | ok result => rfl

end Parser

/-! ## The parser of a level -/

namespace Level

open LabelRules.Parser

/-- The parser of a level. -/
def parser (inner : Nested) : Level → Parser Expr
  | .ternary => Parser.ternary inner
  | .disjunction => Parser.disjunction inner
  | .conjunction => Parser.conjunction inner
  | .comparison => Parser.comparison inner
  | .additive => Parser.additive inner
  | .multiplicative => Parser.multiplicative inner
  | .unary => Parser.unary inner
  | .member => Parser.member inner
  | .primary => Parser.primary inner

theorem read_of_isChain {level : Level} (h : level.isChain = true) (inner : Nested)
    (tokens : List Token) :
    read (level.parser inner) tokens
      = (do
          let (first, rest) ← read (level.next.parser inner) tokens
          readChain (level.next.parser inner) level.operatorAt first rest) := by
  cases level with
  | ternary | unary | member | primary => cases h
  | disjunction | conjunction | comparison | additive | multiplicative => exact read_chain _ tokens

end Level

end LabelRules
