import LabelRules.Proofs.Parsing.Cursor
import LabelRules.Proofs.Parsing.Reading

set_option autoImplicit false

/-! # The steps of a cursor

What single actions do from a record in order that stands at given tokens (`Record.Ahead`), on a
list that ends in a stop token: the tokens that they look at are there, and what they leave is in
order again. `Follows` says that an action does what a parser does once the stack is large enough,
and `Settles` has a rule for each step, with the parser on one side and the action on the other.
-/

namespace LabelRules

/-- A symbol is no stop token. -/
theorem Token.ne_stop_of_isSymbol {t : Token} {s : Symbol} (h : t.isSymbol s = true) :
    t.kind ≠ .stop := by
  simp [Token.isSymbol_iff.1 h]

namespace Cursor

open LabelRules.Parser (read unexpected headPosition bounded)

variable {α β : Type} {tokens ts rest : List Token} {t : Token} {r : Record} {depth : Nat}

/-! ## Actions one after the other -/

@[simp] theorem exec_pure (a : α) (r : Record) : exec (pure a) r = some (.ok a, r) := rfl

theorem exec_bind (x : Action α) (f : α → Action β) (r : Record) :
    exec (x >>= f) r =
      match exec x r with
      | none => none
      | some (.ok a, r') => exec (f a) r'
      | some (.error fault, r') => some (.error fault, r') := by
  simp only [exec, ExceptT.run_bind, StateT.run_bind]
  cases x.run.run r with
  | none => rfl
  | some result =>
      obtain ⟨a | fault, r'⟩ := result <;> rfl

@[simp] theorem exec_here_bind (f : Cursor → Action β) (r : Record) :
    exec (here >>= f) r = exec (f r.cursor) r := by
  -- A bare `rfl` would make this a step of definitional unfolding, which is slow under a binder.
  rw [exec_bind]
  rfl

/-- A record with one more event. -/
def Record.add (r : Record) (event : Event) : Record := { r with events := event :: r.events }

@[simp] theorem exec_note_bind (event : Event) (f : Unit → Action β) (r : Record) :
    exec (note event >>= f) r = exec (f ()) (r.add event) := by
  rw [exec_bind]
  rfl

/-- A record with the cursor at another place. -/
def Record.move (r : Record) (c : Cursor) : Record := ⟨c, .moved c :: r.events⟩

@[simp] theorem exec_moveTo (c : Cursor) (r : Record) :
    exec (moveTo c) r = some (.ok (), r.move c) := rfl

@[simp] theorem exec_moveTo_bind (c : Cursor) (f : Unit → Action β) (r : Record) :
    exec (moveTo c >>= f) r = exec (f ()) (r.move c) := by
  rw [exec_bind]
  rfl

namespace Record.Orderly

theorem add (h : r.Orderly tokens) {event : Event} (hevent : event.Orderly tokens) :
    (r.add event).Orderly tokens where
  cursor := h.cursor
  events := by
    intro event' hmem
    rcases List.mem_cons.1 hmem with rfl | hmem
    · exact hevent
    · exact h.events _ hmem

theorem move (h : r.Orderly tokens) {c : Cursor} (hc : (Event.moved c).Orderly tokens) :
    (r.move c).Orderly tokens where
  cursor := hc
  events := (h.add hc).events

end Record.Orderly

/-! ## The tokens ahead of a cursor -/

/-- A list of tokens that ends in a stop token, as the tokens of every text do
(`tokenize_lexical`). -/
def Closed (tokens : List Token) : Prop :=
  ∃ (front : List Token) (position : Nat), tokens = front ++ [⟨.stop, position⟩]

/-- A token that is no stop token is not the last one. -/
theorem Closed.exists_cons (hclosed : Closed tokens) {index : Nat}
    (hdrop : tokens.drop index = t :: rest) (hkind : t.kind ≠ .stop) :
    ∃ u more, rest = u :: more := by
  obtain ⟨front, position, rfl⟩ := hclosed
  refine List.exists_cons_of_ne_nil ?_
  rintro rfl
  have hlast := congrArg List.getLast? hdrop
  rw [List.getLast?_drop] at hlast
  split at hlast
  · cases hlast
  · rw [List.getLast?_concat, List.getLast?_singleton, Option.some.injEq] at hlast
    subst hlast
    exact hkind rfl

/-- The record is in order, and these tokens are left from its cursor on. -/
structure Record.Ahead (r : Record) (tokens ts : List Token) : Prop where
  orderly : r.Orderly tokens
  drop_eq : tokens.drop r.cursor.index = ts

namespace Record.Ahead

theorem length_eq (h : r.Ahead tokens ts) : ts.length = tokens.length - r.cursor.index := by
  rw [← h.drop_eq, List.length_drop]

/-- The cursor stands at a token. -/
theorem exists_cons (h : r.Ahead tokens ts) : ∃ t rest, ts = t :: rest := by
  have hindex : r.cursor.index < tokens.length := h.orderly.cursor.1
  have hlength := h.length_eq
  refine List.exists_cons_of_length_pos ?_
  omega

theorem getElem?_eq (h : r.Ahead tokens (t :: rest)) : tokens[r.cursor.index]? = some t := by
  rw [← List.head?_drop, h.drop_eq, List.head?_cons]

theorem drop_succ_eq (h : r.Ahead tokens (t :: rest)) :
    tokens.drop (r.cursor.index + 1) = rest := by
  rw [← List.tail_drop, h.drop_eq, List.tail_cons]

/-- Where fewer tokens are left, the index is greater. -/
theorem index_lt {r' : Record} (h : r.Ahead tokens ts) (h' : r'.Ahead tokens rest)
    (hlength : rest.length < ts.length) : r.cursor.index < r'.cursor.index := by
  rw [h.length_eq, h'.length_eq] at hlength
  omega

/-- A turn that has come to a greater index may be noted. -/
theorem turned (h : r.Ahead tokens ts) {start stop : Cursor} (hindex : start.index < stop.index) :
    (r.add (.turned start stop)).Ahead tokens ts :=
  ⟨h.orderly.add hindex, h.drop_eq⟩

/-- An expression that has taken tokens and closed what it has opened may be noted. -/
theorem finished (h : r.Ahead tokens ts) {start stop : Cursor} (hindex : start.index < stop.index)
    (hdepth : stop.depth = start.depth) : (r.add (.finished start stop)).Ahead tokens ts :=
  ⟨h.orderly.add ⟨hindex, hdepth⟩, h.drop_eq⟩

/-- Opening and closing expressions leaves the tokens alone. -/
theorem atDepth (h : r.Ahead tokens ts) (hdepth : depth ≤ nestingLimit + 1) :
    (r.move ⟨r.cursor.index, depth⟩).Ahead tokens ts :=
  ⟨h.orderly.move ⟨h.orderly.cursor.1, hdepth⟩, h.drop_eq⟩

end Record.Ahead

/-- The record at the first token is in order, with all the tokens ahead. -/
theorem ahead_start (hclosed : Closed tokens) : start.Ahead tokens tokens := by
  have hlength : 0 < tokens.length := by
    obtain ⟨front, position, rfl⟩ := hclosed
    simp
  have hmoved : (Event.moved ⟨0, 0⟩).Orderly tokens := ⟨hlength, Nat.zero_le _⟩
  refine ⟨⟨hmoved, fun event hmem => ?_⟩, List.drop_zero⟩
  obtain rfl := List.mem_singleton.1 hmem
  exact hmoved

/-! ## Looking at tokens and taking them -/

theorem exec_peek (h : r.Ahead tokens (t :: rest)) : exec (peek tokens) r = some (.ok t, r) := by
  show exec (tokenAt tokens r.cursor.index) r = _
  rw [tokenAt, h.getElem?_eq]
  rfl

theorem exec_peek_bind (h : r.Ahead tokens (t :: rest)) (f : Token → Action β) :
    exec (peek tokens >>= f) r = exec (f t) r := by
  rw [exec_bind, exec_peek h]

/-- At the last token the second one is that token itself. -/
theorem exec_peekSecond_bind (h : r.Ahead tokens (t :: rest)) (f : Token → Action β) :
    exec (peekSecond tokens >>= f) r = exec (f (rest.headD t)) r := by
  have hlength := h.length_eq
  have hsecond : tokens[min (r.cursor.index + 1) (tokens.length - 1)]? = some (rest.headD t) := by
    cases rest with
    | nil =>
        have hmin : min (r.cursor.index + 1) (tokens.length - 1) = r.cursor.index := by
          simp only [List.length_cons, List.length_nil] at hlength
          omega
        rw [hmin, h.getElem?_eq, List.headD_nil]
    | cons u more =>
        have hmin : min (r.cursor.index + 1) (tokens.length - 1) = r.cursor.index + 1 := by
          simp only [List.length_cons] at hlength
          omega
        rw [hmin, ← List.head?_drop, h.drop_succ_eq, List.head?_cons, List.headD_cons]
  have hexec : exec (peekSecond tokens) r = some (.ok (rest.headD t), r) := by
    show exec (tokenAt tokens (min (r.cursor.index + 1) (tokens.length - 1))) r = _
    rw [tokenAt, hsecond]
    rfl
  rw [exec_bind, hexec]

theorem exec_refuse (h : r.Ahead tokens (t :: rest)) (expected : Expected) :
    exec (refuse tokens expected : Action α) r
      = some (.error (.refused (unexpected expected (t :: rest))), r) := by
  rw [refuse, exec_peek_bind h]
  rfl

/-- Another token stands after one that is no stop token. -/
theorem exec_advance (hclosed : Closed tokens) (h : r.Ahead tokens (t :: rest))
    (hkind : t.kind ≠ .stop) :
    exec (advance tokens) r = some (.ok (), r.move ⟨r.cursor.index + 1, r.cursor.depth⟩)
      ∧ (r.move ⟨r.cursor.index + 1, r.cursor.depth⟩).Ahead tokens rest := by
  have hindex : r.cursor.index + 1 < tokens.length := by
    obtain ⟨u, more, rfl⟩ := hclosed.exists_cons h.drop_eq hkind
    have hlength := h.length_eq
    simp only [List.length_cons] at hlength
    omega
  refine ⟨?_, h.orderly.move ⟨hindex, h.orderly.cursor.2⟩, h.drop_succ_eq⟩
  rw [advance, exec_peek_bind h, exec_here_bind, if_pos hkind, exec_moveTo]

theorem exec_advanceBy (hclosed : Closed tokens) {used : List Token}
    (h : r.Ahead tokens (used ++ rest)) (hkinds : ∀ t ∈ used, t.kind ≠ .stop) :
    ∃ r', exec (advanceBy tokens used.length) r = some (.ok (), r') ∧ r'.Ahead tokens rest
      ∧ r'.cursor.depth = r.cursor.depth := by
  induction used generalizing r with
  | nil => exact ⟨r, rfl, h, rfl⟩
  | cons t used ih =>
      obtain ⟨hexec, hused⟩ := exec_advance hclosed h (hkinds t List.mem_cons_self)
      obtain ⟨r', hexec', hrest, hdepth⟩ :=
        ih hused fun t ht => hkinds t (List.mem_cons_of_mem _ ht)
      refine ⟨r', ?_, hrest, hdepth⟩
      rw [List.length_cons, advanceBy, exec_bind, hexec]
      exact hexec'

/-! ## Opening and closing expressions -/

/-- Below the limit one more expression is open. -/
theorem exec_enter_bind (hdepth : r.cursor.depth < nestingLimit) (f : Unit → Action β) :
    exec (enter tokens >>= f) r = exec (f ()) (r.move ⟨r.cursor.index, r.cursor.depth + 1⟩) := by
  have hlimit : ¬ nestingLimit < r.cursor.depth + 1 := by omega
  have hexec : exec (enter tokens) r
      = some (.ok (), r.move ⟨r.cursor.index, r.cursor.depth + 1⟩) := by
    rw [enter, exec_here_bind, exec_moveTo_bind, if_neg hlimit, exec_pure]
  rw [exec_bind, hexec]

theorem exec_leave_bind (f : Unit → Action β) (r : Record) :
    exec (leave >>= f) r = exec (f ()) (r.move ⟨r.cursor.index, r.cursor.depth - 1⟩) := by
  rw [exec_bind, leave, exec_here_bind, exec_moveTo]

/-! ## Operators -/

section Operators

variable {level : Level}

/-- The first two tokens decide on the operator. -/
theorem operatorAt_pair (hclosed : Closed tokens) (h : r.Ahead tokens (t :: rest))
    (level : Level) : level.operatorAt [t, rest.headD t] = level.operatorAt (t :: rest) := by
  cases rest with
  | cons u more => cases level <;> rfl
  | nil =>
      have hkind : t.kind = .stop := by
        refine Decidable.of_not_not fun hkind => ?_
        obtain ⟨u, more, hnil⟩ := hclosed.exists_cons h.drop_eq hkind
        cases hnil
      obtain ⟨kind, position⟩ := t
      obtain rfl : kind = .stop := hkind
      cases level <;> rfl

theorem exec_operator_of_none (hclosed : Closed tokens) (h : r.Ahead tokens ts)
    (hop : level.operatorAt ts = none) : exec (operator tokens level) r = some (.ok none, r) := by
  obtain ⟨t, rest, rfl⟩ := h.exists_cons
  rw [operator, exec_peek_bind h, exec_peekSecond_bind h, operatorAt_pair hclosed h, hop, exec_pure]

/-- The tokens that write the operator are taken. -/
theorem exec_operator_of_some (hclosed : Closed tokens) (h : r.Ahead tokens ts) {op : Operator}
    {width : Nat} (hop : level.operatorAt ts = some (op, width)) :
    ∃ r', exec (operator tokens level) r = some (.ok (some op), r')
      ∧ r'.Ahead tokens (ts.drop width) ∧ r'.cursor.depth = r.cursor.depth
      ∧ r.cursor.index < r'.cursor.index := by
  obtain ⟨used, left, rfl, rfl, hused⟩ := Level.exists_of_operatorAt hop
  have hkinds : ∀ t ∈ used, t.kind ≠ .stop := by
    intro t ht hstop
    exact Level.stop_notMem_operators hused (hstop ▸ List.mem_map_of_mem ht)
  have hpos : 0 < used.length := by
    refine List.length_pos_iff.2 ?_
    rintro rfl
    exact Level.nil_notMem_operators level op hused
  obtain ⟨r', hexec, hleft, hdepth⟩ := exec_advanceBy hclosed h hkinds
  have hindex := h.index_lt hleft (by rw [List.length_append]; omega)
  refine ⟨r', ?_, List.drop_left.symm ▸ hleft, hdepth, hindex⟩
  obtain ⟨t, rest, htokens⟩ := h.exists_cons
  rw [htokens] at h hop
  rw [operator, exec_peek_bind h, exec_peekSecond_bind h, operatorAt_pair hclosed h, hop]
  simp only
  rw [exec_bind, hexec]
  rfl

end Operators

/-! ## What an action follows -/

/-- An action has done what a parser does: its result, with the cursor at the tokens that are left
and at the given depth, or its error. -/
inductive Meets (tokens : List Token) (depth : Nat) :
    Except ParseError (α × List Token) → Option (Except Fault α × Record) → Prop where
  | ok {a : α} {rest : List Token} {r : Record} (hrest : r.Ahead tokens rest)
      (hdepth : r.cursor.depth = depth) : Meets tokens depth (.ok (a, rest)) (some (.ok a, r))
  | error {e : ParseError} {r : Record} (hr : r.Orderly tokens) :
      Meets tokens depth (.error e) (some (.error (.refused e), r))

/-- With enough stack an action does what a parser does, and more of it changes nothing. -/
def Settles (tokens : List Token) (depth : Nat) (result : Except ParseError (α × List Token))
    (outcomes : Nat → Option (Except Fault α × Record)) : Prop :=
  ∃ outcome size, Meets tokens depth result outcome ∧ ∀ n, size ≤ n → outcomes n = outcome

/-- From every record in order at the depth, the action settles on what the parser does with the
tokens that are ahead. -/
def Follows (tokens : List Token) (depth : Nat) (x : Nat → Action α)
    (parser : List Token → Except ParseError (α × List Token)) : Prop :=
  ∀ (r : Record) (ts : List Token), r.Ahead tokens ts → r.cursor.depth = depth →
    Settles tokens depth (parser ts) fun n => exec (x n) r

namespace Settles

variable {depth' : Nat} {result : Except ParseError (α × List Token)}

theorem ok {a : α} (hrest : r.Ahead tokens rest) (hdepth : r.cursor.depth = depth) :
    Settles tokens depth (.ok (a, rest)) fun _ => exec (pure a) r :=
  ⟨_, 0, .ok hrest hdepth, fun _ _ => rfl⟩

theorem error (hr : r.Orderly tokens) (e : ParseError) :
    Settles tokens depth (.error e : Except _ (α × List Token))
      fun _ => exec (throw (.refused e)) r :=
  ⟨_, 0, .error hr, fun _ _ => rfl⟩

/-- A call takes one place on the stack. -/
theorem later {outcomes : Nat → Option (Except Fault α × Record)}
    (h : Settles tokens depth result fun n => outcomes (n + 1)) :
    Settles tokens depth result outcomes := by
  obtain ⟨outcome, size, hmeets, hsize⟩ := h
  refine ⟨outcome, size + 1, hmeets, fun n hn => ?_⟩
  obtain ⟨n, rfl⟩ := Nat.exists_eq_add_of_lt hn
  exact hsize _ (by omega)

/-- The second of two steps starts where the first one has ended, and the stack has to be large
enough for both. -/
theorem bind {x : Nat → Action α} {f : α × List Token → Except ParseError (β × List Token)}
    {g : Nat → α → Action β} (h : Settles tokens depth' result fun n => exec (x n) r)
    (hnext : ∀ a rest r', result = .ok (a, rest) → r'.Ahead tokens rest →
      r'.cursor.depth = depth' → Settles tokens depth (f (a, rest)) fun n => exec (g n a) r') :
    Settles tokens depth (result >>= f) fun n => exec (x n >>= g n) r := by
  obtain ⟨outcome, size, hmeets, hsize⟩ := h
  cases hmeets with
  | @ok a rest r' hrest hdepth =>
      obtain ⟨outcome', size', hmeets', hsize'⟩ := hnext a rest r' rfl hrest hdepth
      refine ⟨outcome', max size size', hmeets', fun n hn => ?_⟩
      have hfirst : exec (x n) r = some (.ok a, r') := hsize n (by omega)
      have hsecond : exec (g n a) r' = outcome' := hsize' n (by omega)
      show exec (x n >>= g n) r = outcome'
      rw [exec_bind, hfirst]
      exact hsecond
  | @error e r' hr =>
      refine ⟨some (.error (.refused e), r'), size, .error hr, fun n hn => ?_⟩
      have hfirst : exec (x n) r = some (.error (.refused e), r') := hsize n hn
      show exec (x n >>= g n) r = _
      rw [exec_bind, hfirst]

/-- What comes after the action leaves its result and the tokens alone. -/
theorem bind_ok {x : Nat → Action α} {g : Nat → α → Action α}
    (h : Settles tokens depth' result fun n => exec (x n) r)
    (hnext : ∀ a rest r', result = .ok (a, rest) → r'.Ahead tokens rest →
      r'.cursor.depth = depth' → Settles tokens depth (.ok (a, rest)) fun n => exec (g n a) r') :
    Settles tokens depth result fun n => exec (x n >>= g n) r := by
  rw [← bind_pure result]
  exact h.bind hnext

/-- What comes after an error is not done. -/
theorem error_bind {e : ParseError} {x : Nat → Action α} {g : Nat → α → Action β}
    (h : Settles tokens depth (.error e) fun n => exec (x n) r) :
    Settles tokens depth (.error e : Except _ (β × List Token)) fun n => exec (x n >>= g n) r :=
  h.bind (f := fun _ => .error e) fun _ _ _ hok => nomatch hok

theorem advance {f : Nat → Unit → Action α} (hclosed : Closed tokens)
    (h : r.Ahead tokens (t :: rest)) (hdepth : r.cursor.depth = depth') (hkind : t.kind ≠ .stop)
    (hnext : ∀ r', r'.Ahead tokens rest → r'.cursor.depth = depth' →
      Settles tokens depth result fun n => exec (f n ()) r') :
    Settles tokens depth result fun n => exec (Cursor.advance tokens >>= f n) r := by
  obtain ⟨hexec, hrest⟩ := exec_advance hclosed h hkind
  simp only [exec_bind, hexec]
  exact hnext _ hrest hdepth

theorem refuse (h : r.Ahead tokens (t :: rest)) (expected : Expected) :
    Settles tokens depth (.error (unexpected expected (t :: rest)) : Except _ (α × List Token))
      fun _ => exec (Cursor.refuse tokens expected) r := by
  simp only [Cursor.refuse, exec_peek_bind h]
  exact .error h.orderly _

theorem tooDeep (h : r.Ahead tokens ts) :
    Settles tokens depth (.error (.tooDeep (headPosition ts)) : Except _ (α × List Token))
      fun _ => exec (Cursor.tooDeep tokens) r := by
  obtain ⟨t, rest, rfl⟩ := h.exists_cons
  simp only [Cursor.tooDeep, exec_peek_bind h]
  exact .error h.orderly _

/-- A tree is refused by both, or both go on with it. -/
theorem checked_bind {f : Expr → Except ParseError (β × List Token)} {g : Nat → Expr → Action β}
    {e : Expr} (h : r.Ahead tokens rest)
    (hnext : Settles tokens depth (f e) fun n => exec (g n e) r) :
    Settles tokens depth (bounded e rest >>= f)
      fun n => exec (Cursor.checked tokens e >>= g n) r := by
  by_cases hdeep : nestingLimit < e.depth
  · simp only [bounded, Cursor.checked, if_pos hdeep]
    exact .error_bind (.tooDeep h)
  · simp only [bounded, Cursor.checked, if_neg hdeep, pure_bind]
    exact hnext

theorem checked {e : Expr} (h : r.Ahead tokens rest) (hdepth : r.cursor.depth = depth) :
    Settles tokens depth (bounded e rest >>= fun e => .ok (e, rest))
      fun _ => exec (Cursor.checked tokens e) r := by
  rw [← bind_pure (Cursor.checked tokens e)]
  exact .checked_bind h (.ok h hdepth)

end Settles

theorem follows_expect (hclosed : Closed tokens) (s : Symbol) (expected : Expected) :
    Follows tokens depth (fun _ => expect tokens s expected)
      (read (Parser.symbol s expected)) := by
  intro r ts h hdepth
  obtain ⟨t, rest, rfl⟩ := h.exists_cons
  simp only [expect, exec_peek_bind h, Parser.read_symbol_cons]
  split
  · next hs =>
    rw [← bind_pure (advance tokens)]
    exact .advance hclosed h hdepth (Token.ne_stop_of_isSymbol hs)
      fun r' h' hdepth' => .ok h' hdepth'
  · exact .refuse h expected

end Cursor

end LabelRules
