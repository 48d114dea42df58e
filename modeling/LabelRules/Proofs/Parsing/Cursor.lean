import LabelRules.Proofs.Parsing.Grammar

set_option autoImplicit false

/-! # Reading with a cursor

The parsers of `LabelRules.Parser` hand on the tokens that are left, in a type that says that there
are fewer of them, and count down the levels of nesting in an argument. The same language can be
read with one cursor that all parsers move: the index of the next token, and the number of nested
expressions that are open. Then no type says that the index stays within the tokens, that a parser
takes a token, that the depth comes back to what it was, or that a loop ends. Here an index out of
range is a fault of its own. The parsers call each other on a stack, a turn of a loop being a call
too, and what does not fit on the stack has no outcome; an endless loop has none on any stack.

Every move of the cursor, every expression that is read and every turn of a loop is noted
(`Event`), also of a reading that fails later on, and `Event.Orderly` says what is to hold of it.
-/

namespace LabelRules

/-- Where a reading stands: the index of the next token, and how many nested expressions are
open. -/
structure Cursor where
  index : Nat
  depth : Nat
  deriving DecidableEq, Repr, Inhabited

namespace Cursor

/-! ## Actions -/

/-- What is noted of a reading. -/
inductive Event where
  /-- The cursor has come here. -/
  | moved (c : Cursor)
  /-- An expression has been read: the cursor before it and after it. -/
  | finished (start stop : Cursor)
  /-- A turn of a loop over operators, fields or items: where it has started, and how far it has
  come. It is noted when the turn has taken an operator, a dot or an item, and again when it is
  over. -/
  | turned (start stop : Cursor)
  deriving DecidableEq, Repr, Inhabited

/-- The cursor of a reading and what has been noted of it, the latest event first. -/
structure Record where
  cursor : Cursor
  events : List Event
  deriving DecidableEq, Repr, Inhabited

/-- Why a reading ends without a result. -/
inductive Fault where
  /-- The tokens are no expression. -/
  | refused (e : ParseError)
  /-- There is no token with the index. -/
  | outOfRange (index : Nat)
  deriving DecidableEq, Inhabited

/-- What is done with a cursor. An action that does not come to its end has no outcome. -/
abbrev Action (α : Type) : Type := ExceptT Fault (StateT Record Option) α

/-- Does an action: its result or its fault, and the record afterwards. -/
def exec {α : Type} (x : Action α) (r : Record) : Option (Except Fault α × Record) := x.run.run r

/-- The record with the cursor at the first token. -/
def start : Record := ⟨⟨0, 0⟩, [.moved ⟨0, 0⟩]⟩

def unfinished {α : Type} : Action α := ExceptT.mk fun _ => none

def here : Action Cursor := return (← get).cursor

def note (event : Event) : Action Unit :=
  modify fun r => { r with events := event :: r.events }

/-- The only action that changes the cursor. -/
def moveTo (c : Cursor) : Action Unit :=
  modify fun r => { cursor := c, events := .moved c :: r.events }

section Tokens

variable (tokens : List Token)

def tokenAt (index : Nat) : Action Token :=
  match tokens[index]? with
  | some t => return t
  | none => throw (.outOfRange index)

/-- The next token. -/
def peek : Action Token := do
  tokenAt tokens (← here).index

/-- The token after the next one, or the last one if that is the next. -/
def peekSecond : Action Token := do
  tokenAt tokens (min ((← here).index + 1) (tokens.length - 1))

/-- Goes past the next token, except past a stop token. -/
def advance : Action Unit := do
  let t ← peek tokens
  let c ← here
  if t.kind ≠ .stop then moveTo { c with index := c.index + 1 }

def advanceBy : Nat → Action Unit
  | 0 => return ()
  | width + 1 => do
    advance tokens
    advanceBy width

def refuse {α : Type} (expected : Expected) : Action α := do
  throw (.refused (Parser.unexpected expected [← peek tokens]))

def tooDeep {α : Type} : Action α := do
  throw (.refused (.tooDeep (← peek tokens).position))

/-- Takes one symbol. -/
def expect (s : Symbol) (expected : Expected) : Action Unit := do
  if (← peek tokens).isSymbol s then advance tokens else refuse tokens expected

/-- Refuses a tree that is too deep. -/
def checked (e : Expr) : Action Expr :=
  if nestingLimit < e.depth then tooDeep tokens else return e

/-- Opens a nested expression. -/
def enter : Action Unit := do
  let c ← here
  moveTo { c with depth := c.depth + 1 }
  if nestingLimit < c.depth + 1 then tooDeep tokens

/-- Closes a nested expression. -/
def leave : Action Unit := do
  let c ← here
  moveTo { c with depth := c.depth - 1 }

/-- Takes an operator of the level if one is next. -/
def operator (level : Level) : Action (Option Operator) := do
  match level.operatorAt [← peek tokens, ← peekSecond tokens] with
  | none => return none
  | some (op, width) => do
    advanceBy tokens width
    return some op

/-! ## The parsers -/

/-- The parsers that parsers call. -/
structure Calls where
  nested : Level → Action Expr
  level : Level → Action Expr
  chainFrom : Level → Expr → Action Expr
  fieldsFrom : Nat → Expr → Action Expr
  itemsFrom : Symbol → Expected → Action (List Expr)

variable (c : Calls)

/-- An expression inside another one. What fails in between leaves it open. -/
def nested (l : Level) : Action Expr := do
  let start ← here
  enter tokens
  let e ← c.level l
  leave
  note (.finished start (← here))
  return e

/-- Goes on with a chain of a level after a left operand. -/
def chainFrom (l : Level) (left : Expr) : Action Expr := do
  let start ← here
  match ← operator tokens l with
  | none => return left
  | some op => do
    note (.turned start (← here))
    let right ← c.level l.next
    let tree ← checked tokens (.binary op left right)
    note (.turned start (← here))
    c.chainFrom l tree

/-- Goes on with the fields after an expression that starts at the position `start`. -/
def fieldsFrom (start : Nat) (e : Expr) : Action Expr := do
  if (← peek tokens).isSymbol .dot then
    let turn ← here
    advance tokens
    note (.turned turn (← here))
    match (← peek tokens).kind with
    | .word name => do
      advance tokens
      match e with
      | .field path => do
        note (.turned turn (← here))
        c.fieldsFrom start (.field (path ++ [name]))
      | _ => throw (.refused (.fieldOfNonVariable name start))
    | _ => refuse tokens .fieldName
  else return e

/-- Items up to a closing symbol; there is at least one. -/
def itemsFrom (close : Symbol) (expected : Expected) : Action (List Expr) := do
  let start ← here
  let e ← c.nested .ternary
  note (.turned start (← here))
  if (← peek tokens).isSymbol .comma then
    advance tokens
    note (.turned start (← here))
    return e :: (← c.itemsFrom close expected)
  else
    expect tokens close expected
    note (.turned start (← here))
    return [e]

/-- Items up to a closing symbol, perhaps none. -/
def items (close : Symbol) (expected : Expected) : Action (List Expr) := do
  if (← peek tokens).isSymbol close then
    advance tokens
    return []
  else c.itemsFrom close expected

def ternary : Action Expr := do
  let condition ← c.level .disjunction
  if (← peek tokens).isSymbol .question then
    advance tokens
    let whenTrue ← c.nested .ternary
    expect tokens .colon .ternaryColon
    let whenFalse ← c.nested .ternary
    checked tokens (.ternary condition whenTrue whenFalse)
  else return condition

def chain (l : Level) : Action Expr := do
  let first ← c.level l.next
  c.chainFrom l first

def unary : Action Expr := do
  let t ← peek tokens
  if t.isSymbol .bang || t.isWord "not" then
    advance tokens
    let e ← c.nested .unary
    checked tokens (.unary .not e)
  else if t.isSymbol .minus then
    advance tokens
    match ← c.nested .unary with
    | .literal (.number x) => return .literal (.number (-x))
    | e => checked tokens (.unary .negate e)
  else c.level .member

def member : Action Expr := do
  let t ← peek tokens
  let e ← c.level .primary
  c.fieldsFrom t.position e

/-- A variable or a call, after a word that can name one. -/
def named (name : String) : Action Expr := do
  if (← peek tokens).isSymbol .openParen then
    advance tokens
    let es ← items tokens c .closeParen .closeParen
    checked tokens (.call name es)
  else return .field [name]

def literal (v : Value) : Action Expr := do
  advance tokens
  return .literal v

def primary : Action Expr := do
  match (← peek tokens).kind with
  | .number x => literal tokens (.number x)
  | .string s => literal tokens (.string s)
  | .symbol .openParen => do
    advance tokens
    let e ← c.nested .ternary
    expect tokens .closeParen .closeParen
    return e
  | .symbol .openBracket => do
    advance tokens
    let es ← items tokens c .closeBracket .closeBracket
    checked tokens (.array es)
  | .word name =>
    if name = "true" then literal tokens (.bool true)
    else if name = "false" then literal tokens (.bool false)
    else if name = "nil" then literal tokens .nil
    else if name ∈ reserved then refuse tokens .expression
    else do
      advance tokens
      named tokens c name
  | _ => refuse tokens .expression

/-- What a level reads. -/
def body : Level → Action Expr
  | .ternary => ternary tokens c
  | .unary => unary tokens c
  | .member => member tokens c
  | .primary => primary tokens c
  | l => chain c l

/-- An expression of a level. -/
def level (l : Level) : Action Expr := do
  let start ← here
  let e ← body tokens c l
  note (.finished start (← here))
  return e

end Tokens

/-- The parsers with a stack for so many calls. -/
def calls (tokens : List Token) : Nat → Calls
  | 0 =>
    { nested := fun _ => unfinished
      level := fun _ => unfinished
      chainFrom := fun _ _ => unfinished
      fieldsFrom := fun _ _ => unfinished
      itemsFrom := fun _ _ => unfinished }
  | size + 1 =>
    { nested := nested tokens (calls tokens size)
      level := level tokens (calls tokens size)
      chainFrom := chainFrom tokens (calls tokens size)
      fieldsFrom := fieldsFrom tokens (calls tokens size)
      itemsFrom := itemsFrom tokens (calls tokens size) }

/-- The expression of all the tokens before a stop token. -/
def expression (tokens : List Token) (c : Calls) : Action Expr := do
  let e ← c.nested .ternary
  if (← peek tokens).kind = .stop then return e else refuse tokens .endOfExpression

/-! ## Order -/

variable (tokens : List Token)

/-- What is to hold of what is noted: the cursor stands at a token, with at most one expression open
more than the limit allows; an expression takes tokens, and closes what it has opened; a turn takes
tokens. -/
def Event.Orderly : Event → Prop
  | .moved c => c.index < tokens.length ∧ c.depth ≤ nestingLimit + 1
  | .finished start stop => start.index < stop.index ∧ stop.depth = start.depth
  | .turned start stop => start.index < stop.index

/-- Everything that has been noted is in order, and so is the cursor. -/
structure Record.Orderly (r : Record) : Prop where
  cursor : (Event.moved r.cursor).Orderly tokens
  events : ∀ event ∈ r.events, event.Orderly tokens

end Cursor

end LabelRules
