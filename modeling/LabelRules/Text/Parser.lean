import LabelRules.Expr.Basic
import LabelRules.Text.Lexer

set_option autoImplicit false

/-! # From tokens to an expression

The grammar, from the loosest level to the tightest:

* `ternary`: an `or` level, or `c ? a : b`, which nests on both sides;
* `or` (`||`, `or`), `and` (`&&`, `and`), `comparison` (`== != < <= > >=`, `matches`, `contains`,
  `startsWith`, `endsWith`, `in`, `not in`), `additive` (`+ -`), `multiplicative` (`* / %`): each a
  chain of operands that associates to the left;
* `unary`: `!` or `not`, or `-`, before a `unary`; a minus before a number literal is part of it;
* `member`: a `primary` and, after a variable, its fields;
* `primary`: a literal, a variable, a call, a parenthesised expression, an array.

A parser takes the tokens and returns a result with the tokens that are left, fewer than it was
given. An expression inside another one (in parentheses, brackets, arguments, after a unary
operator, in a ternary) is read by the parsers of the level below (`Nested`); `nested` builds them
for a number of levels, and with none left nothing can be read. Every composite tree is checked
against the same limit, so what `parse` returns is never deeper than `nestingLimit`.
-/

namespace LabelRules

namespace Parser

/-! ## Parsers -/

/-- The tokens left by a parser that has taken at least one. -/
abbrev Rest (tokens : List Token) : Type :=
  { rest : List Token // rest.length < tokens.length }

/-- The tokens left by a parser that may have taken none. -/
abbrev Remainder (tokens : List Token) : Type :=
  { rest : List Token // rest.length ≤ tokens.length }

end Parser

/-- A reader of tokens that takes at least one token or fails. -/
abbrev Parser (α : Type) : Type :=
  (tokens : List Token) → Except ParseError (α × Parser.Rest tokens)

namespace Parser

/-- The kind of the first token; no token stands for the end. -/
def headKind : List Token → TokenKind
  | [] => .stop
  | t :: _ => t.kind

/-- The position of the first token. -/
def headPosition : List Token → Nat
  | [] => 0
  | t :: _ => t.position

/-- The first token is not what the grammar asks for. -/
def unexpected (expected : Expected) (tokens : List Token) : ParseError :=
  match headKind tokens with
  | .stop => .unexpectedEnd expected
  | kind => .unexpectedToken kind expected (headPosition tokens)

/-- Takes one symbol. -/
def symbol (s : Symbol) (expected : Expected) : Parser Unit
  | [] => .error (unexpected expected [])
  | t :: rest =>
    if t.isSymbol s then .ok ((), ⟨rest, Nat.lt_succ_self _⟩)
    else .error (unexpected expected (t :: rest))

/-- Refuses a tree that is too deep. The position is that of the first token after it. -/
def bounded (e : Expr) (rest : List Token) : Except ParseError Expr :=
  if nestingLimit < e.depth then .error (.tooDeep (headPosition rest)) else .ok e

theorem depth_le_of_bounded {e e' : Expr} {rest : List Token} (h : bounded e rest = .ok e') :
    e' = e ∧ e.depth ≤ nestingLimit := by
  unfold bounded at h
  split at h
  · simp at h
  · simp only [Except.ok.injEq] at h
    exact ⟨h.symm, by omega⟩

/-! ## Chains of operands -/

/-- The operator at the head of the tokens, and how many tokens write it. -/
abbrev OperatorAt : Type := List Token → Option (Operator × Nat)

/-- Goes on with a chain: while an operator follows, takes it and its right operand. -/
def chainFrom (operand : Parser Expr) (operatorAt : OperatorAt) (left : Expr)
    (tokens : List Token) : Except ParseError (Expr × Remainder tokens) :=
  match operatorAt tokens with
  | none => .ok (left, ⟨tokens, Nat.le_refl _⟩)
  | some (op, width) =>
    match operand (tokens.drop width) with
    | .error e => .error e
    | .ok (right, ⟨rest, hrest⟩) =>
      match bounded (.binary op left right) rest with
      | .error e => .error e
      | .ok tree =>
        have hlt : rest.length < tokens.length := by
          simp only [List.length_drop] at hrest
          omega
        match chainFrom operand operatorAt tree rest with
        | .error e => .error e
        | .ok (e, ⟨left, hleft⟩) => .ok (e, ⟨left, by omega⟩)
termination_by tokens.length

/-- Operands with operators between them, grouped from the left. -/
def chain (operand : Parser Expr) (operatorAt : OperatorAt) : Parser Expr := fun tokens =>
  match operand tokens with
  | .error e => .error e
  | .ok (first, ⟨rest, hrest⟩) =>
    match chainFrom operand operatorAt first rest with
    | .error e => .error e
    | .ok (e, ⟨left, hleft⟩) => .ok (e, ⟨left, by omega⟩)

def orAt : OperatorAt
  | t :: _ => if t.isSymbol .orOr || t.isWord "or" then some (.or, 1) else none
  | [] => none

def andAt : OperatorAt
  | t :: _ => if t.isSymbol .andAnd || t.isWord "and" then some (.and, 1) else none
  | [] => none

def comparisonAt : OperatorAt
  | [] => none
  | t :: rest =>
    match t.kind with
    | .symbol .eqEq => some (.eq, 1)
    | .symbol .notEq => some (.ne, 1)
    | .symbol .less => some (.lt, 1)
    | .symbol .lessEq => some (.le, 1)
    | .symbol .greater => some (.gt, 1)
    | .symbol .greaterEq => some (.ge, 1)
    | .word name =>
      if name = "matches" then some (.matches, 1)
      else if name = "contains" then some (.contains, 1)
      else if name = "startsWith" then some (.startsWith, 1)
      else if name = "endsWith" then some (.endsWith, 1)
      else if name = "in" then some (.isIn, 1)
      else if name = "not" ∧ headKind rest = .word "in" then some (.notIn, 2)
      else none
    | _ => none

def additiveAt : OperatorAt
  | [] => none
  | t :: _ =>
    match t.kind with
    | .symbol .plus => some (.add, 1)
    | .symbol .minus => some (.sub, 1)
    | _ => none

def multiplicativeAt : OperatorAt
  | [] => none
  | t :: _ =>
    match t.kind with
    | .symbol .star => some (.mul, 1)
    | .symbol .slash => some (.div, 1)
    | .symbol .percent => some (.mod, 1)
    | _ => none

/-! ## Lists -/

/-- Items up to a closing symbol; there is at least one, and no comma after the last. -/
def itemsFrom (item : Parser Expr) (close : Symbol) (expected : Expected)
    (tokens : List Token) : Except ParseError (List Expr × Rest tokens) :=
  match item tokens with
  | .error e => .error e
  | .ok (e, ⟨rest, hrest⟩) =>
    match rest, hrest with
    | [], _ => .error (unexpected expected [])
    | t :: more, hrest =>
      if t.isSymbol .comma then
        have hlt : more.length < tokens.length := by
          simp only [List.length_cons] at hrest
          omega
        match itemsFrom item close expected more with
        | .error e => .error e
        | .ok (es, ⟨left, hleft⟩) => .ok (e :: es, ⟨left, by omega⟩)
      else if t.isSymbol close then
        .ok ([e], ⟨more, by simp only [List.length_cons] at hrest; omega⟩)
      else .error (unexpected expected (t :: more))
termination_by tokens.length

/-- Items up to a closing symbol, perhaps none. -/
def items (item : Parser Expr) (close : Symbol) (expected : Expected) : Parser (List Expr)
  | [] => itemsFrom item close expected []
  | t :: rest =>
    if t.isSymbol close then .ok ([], ⟨rest, Nat.lt_succ_self _⟩)
    else itemsFrom item close expected (t :: rest)

/-! ## The levels -/

/-- The parsers of the expressions that stand inside another expression. -/
structure Nested where
  ternary : Parser Expr
  unary : Parser Expr

/-- A literal, a variable, a call, a parenthesised expression or an array. -/
def primary (inner : Nested) : Parser Expr
  | [] => .error (unexpected .expression [])
  | t :: rest =>
    match t.kind with
    | .number x => .ok (.literal (.number x), ⟨rest, Nat.lt_succ_self _⟩)
    | .string s => .ok (.literal (.string s), ⟨rest, Nat.lt_succ_self _⟩)
    | .symbol .openParen =>
      match inner.ternary rest with
      | .error e => .error e
      | .ok (e, ⟨more, hmore⟩) =>
        match symbol .closeParen .closeParen more with
        | .error e => .error e
        | .ok ((), ⟨left, hleft⟩) => .ok (e, ⟨left, by simp only [List.length_cons]; omega⟩)
    | .symbol .openBracket =>
      match items inner.ternary .closeBracket .closeBracket rest with
      | .error e => .error e
      | .ok (es, ⟨left, hleft⟩) =>
        match bounded (.array es) left with
        | .error e => .error e
        | .ok e => .ok (e, ⟨left, by simp only [List.length_cons]; omega⟩)
    | .word name =>
      if name = "true" then .ok (.literal (.bool true), ⟨rest, Nat.lt_succ_self _⟩)
      else if name = "false" then .ok (.literal (.bool false), ⟨rest, Nat.lt_succ_self _⟩)
      else if name = "nil" then .ok (.literal .nil, ⟨rest, Nat.lt_succ_self _⟩)
      else if name ∈ reserved then .error (unexpected .expression (t :: rest))
      else
        match rest with
        | [] => .ok (.field [name], ⟨[], Nat.lt_succ_self _⟩)
        | u :: more =>
          if u.isSymbol .openParen then
            match items inner.ternary .closeParen .closeParen more with
            | .error e => .error e
            | .ok (es, ⟨left, hleft⟩) =>
              match bounded (.call name es) left with
              | .error e => .error e
              | .ok e => .ok (e, ⟨left, by simp only [List.length_cons]; omega⟩)
          else .ok (.field [name], ⟨u :: more, Nat.lt_succ_self _⟩)
    | _ => .error (unexpected .expression (t :: rest))

/-- The fields after an expression that starts at the position `start`; only a variable has
fields. -/
def fieldsFrom (start : Nat) (e : Expr) :
    (tokens : List Token) → Except ParseError (Expr × Remainder tokens)
  | [] => .ok (e, ⟨[], Nat.le_refl _⟩)
  | [t] =>
    if t.isSymbol .dot then .error (unexpected .fieldName [])
    else .ok (e, ⟨[t], Nat.le_refl _⟩)
  | t :: u :: rest =>
    if t.isSymbol .dot then
      match u.kind with
      | .word name =>
        match e with
        | .field path =>
          match fieldsFrom start (.field (path ++ [name])) rest with
          | .error e => .error e
          | .ok (e, ⟨left, hleft⟩) => .ok (e, ⟨left, by simp only [List.length_cons]; omega⟩)
        | _ => .error (.fieldOfNonVariable name start)
      | _ => .error (unexpected .fieldName (u :: rest))
    else .ok (e, ⟨t :: u :: rest, Nat.le_refl _⟩)

/-- A primary expression and the fields after it. -/
def member (inner : Nested) : Parser Expr := fun tokens =>
  match primary inner tokens with
  | .error e => .error e
  | .ok (e, ⟨rest, hrest⟩) =>
    match fieldsFrom (headPosition tokens) e rest with
    | .error e => .error e
    | .ok (e, ⟨left, hleft⟩) => .ok (e, ⟨left, by omega⟩)

/-- The change of sign of an expression; that of a number literal is the literal of the opposite
number. -/
def negated (e : Expr) (rest : List Token) : Except ParseError Expr :=
  match e with
  | .literal (.number x) => .ok (.literal (.number (-x)))
  | e => bounded (.unary .negate e) rest

/-- Unary operators before a member. -/
def unary (inner : Nested) : Parser Expr
  | [] => member inner []
  | t :: rest =>
    if t.isSymbol .bang || t.isWord "not" then
      match inner.unary rest with
      | .error e => .error e
      | .ok (e, ⟨left, hleft⟩) =>
        match bounded (.unary .not e) left with
        | .error e => .error e
        | .ok e => .ok (e, ⟨left, by simp only [List.length_cons]; omega⟩)
    else if t.isSymbol .minus then
      match inner.unary rest with
      | .error e => .error e
      | .ok (e, ⟨left, hleft⟩) =>
        match negated e left with
        | .error e => .error e
        | .ok e => .ok (e, ⟨left, by simp only [List.length_cons]; omega⟩)
    else member inner (t :: rest)

def multiplicative (inner : Nested) : Parser Expr := chain (unary inner) multiplicativeAt

def additive (inner : Nested) : Parser Expr := chain (multiplicative inner) additiveAt

def comparison (inner : Nested) : Parser Expr := chain (additive inner) comparisonAt

def conjunction (inner : Nested) : Parser Expr := chain (comparison inner) andAt

def disjunction (inner : Nested) : Parser Expr := chain (conjunction inner) orAt

/-- A condition, and after a question mark the two branches. -/
def ternary (inner : Nested) : Parser Expr := fun tokens =>
  match disjunction inner tokens with
  | .error e => .error e
  | .ok (condition, ⟨[], h⟩) => .ok (condition, ⟨[], h⟩)
  | .ok (condition, ⟨t :: rest, h⟩) =>
    if t.isSymbol .question then
      match inner.ternary rest with
      | .error e => .error e
      | .ok (whenTrue, ⟨afterTrue, htrue⟩) =>
        match symbol .colon .ternaryColon afterTrue with
        | .error e => .error e
        | .ok ((), ⟨afterColon, hcolon⟩) =>
          match inner.ternary afterColon with
          | .error e => .error e
          | .ok (whenFalse, ⟨left, hfalse⟩) =>
            match bounded (.ternary condition whenTrue whenFalse) left with
            | .error e => .error e
            | .ok e => .ok (e, ⟨left, by simp only [List.length_cons] at h; omega⟩)
    else .ok (condition, ⟨t :: rest, h⟩)

/-- The parsers of expressions inside others, with a number of levels left. -/
def nested : Nat → Nested
  | 0 =>
    { ternary := fun tokens => .error (.tooDeep (headPosition tokens))
      unary := fun tokens => .error (.tooDeep (headPosition tokens)) }
  | levels + 1 =>
    { ternary := ternary (nested levels)
      unary := unary (nested levels) }

/-- The expression of a list of tokens that ends in a stop token. -/
def expression (tokens : List Token) : Except ParseError Expr :=
  match (nested nestingLimit).ternary tokens with
  | .error e => .error e
  | .ok (e, ⟨rest, _⟩) =>
    match headKind rest with
    | .stop => .ok e
    | _ => .error (unexpected .endOfExpression rest)

end Parser

/-- The expression that a rule text writes. -/
def parse (text : String) : Except ParseError Expr :=
  if text.toList.all isBlank then .error .emptyExpression
  else
    match tokenize text with
    | .error e => .error e
    | .ok tokens => Parser.expression tokens

end LabelRules
