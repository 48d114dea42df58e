import LabelRules.Proofs.Parsing.CursorSteps

set_option autoImplicit false

/-! # A cursor keeps order

Reading with a cursor (`Cursor.expression`) comes to an end on every list of tokens that ends in a
stop token, and has the result or the error of `Parser.expression`; no token is looked up out of
range, and everything that is noted on the way is in order (`Cursor.expression_orderly`). There is
one lemma for each loop and each level, which says that it follows the parser of the same name in
`LabelRules.Parser`; that a turn or an expression takes tokens is read off the tokens that are left
there. A loop ends because fewer tokens are left after each turn, so its lemma is an induction on
their number. The induction on the levels of nesting is `follows_nested_levels`.
-/

namespace LabelRules

namespace Cursor

open LabelRules.Parser (read readChain readItems readFields readNamed readBranches unexpected
  headPosition)

variable {tokens ts : List Token} {r : Record} {depth : Nat}

/-- The calls for an expression inside another one follow a parser. -/
def NestedFollows (tokens : List Token) (depth : Nat) (l : Level) (parser : Parser Expr) : Prop :=
  Follows tokens depth (fun n => (calls tokens n).nested l) (read parser)

/-- The calls for a level follow its parser. -/
def LevelFollows (tokens : List Token) (depth : Nat) (inner : Parser.Nested) (l : Level) : Prop :=
  Follows tokens depth (fun n => (calls tokens n).level l) (read (l.parser inner))

/-! ## Loops -/

/-- A turn takes its operator before its operand is read, so that it has taken tokens whatever comes
of the operand. -/
theorem chainFrom_settles (hclosed : Closed tokens) {inner : Parser.Nested} {l : Level}
    (hnext : LevelFollows tokens depth inner l.next) (left : Expr)
    (h : r.Ahead tokens ts) (hdepth : r.cursor.depth = depth) :
    Settles tokens depth (readChain (l.next.parser inner) l.operatorAt left ts)
      fun n => exec ((calls tokens n).chainFrom l left) r := by
  induction hlength : ts.length using Nat.strongRecOn generalizing ts r left with
  | ind length ih =>
    refine .later ?_
    simp only [calls, chainFrom, exec_here_bind]
    cases hop : l.operatorAt ts with
    | none =>
        simp only [Parser.readChain_of_none _ hop, exec_bind, exec_operator_of_none hclosed h hop]
        exact .ok h hdepth
    | some found =>
        obtain ⟨op, width⟩ := found
        obtain ⟨r', hexec, hoperand, hdepth', hindex⟩ := exec_operator_of_some hclosed h hop
        rw [Parser.readChain_of_some _ hop]
        simp only [exec_bind (operator tokens l), hexec, exec_here_bind, exec_note_bind]
        refine (hnext _ _ (hoperand.turned hindex) (hdepth'.trans hdepth)).bind
          fun right rest r'' hread hrest hdepth'' => ?_
        -- The operand itself takes tokens, so the chain goes on with fewer of them.
        have hshorter : rest.length < ts.length := by
          have hlt := Parser.length_lt_of_read hread
          rw [List.length_drop] at hlt
          omega
        refine .checked_bind hrest ?_
        simp only [exec_here_bind, exec_note_bind]
        exact ih _ (hlength ▸ hshorter) _ (hrest.turned (h.index_lt hrest hshorter)) hdepth'' rfl

/-- A turn takes a dot and a name. -/
theorem fieldsFrom_settles (hclosed : Closed tokens) (start : Nat) (e : Expr)
    (h : r.Ahead tokens ts) (hdepth : r.cursor.depth = depth) :
    Settles tokens depth (readFields start e ts)
      fun n => exec ((calls tokens n).fieldsFrom start e) r := by
  induction hlength : ts.length using Nat.strongRecOn generalizing ts r e with
  | ind length ih =>
    obtain ⟨t, rest, rfl⟩ := h.exists_cons
    refine .later ?_
    simp only [calls, fieldsFrom, exec_peek_bind h, Parser.readFields_cons]
    split
    · next hdot =>
      simp only [exec_here_bind]
      refine .advance hclosed h hdepth (Token.ne_stop_of_isSymbol hdot) fun r' h' hdepth' => ?_
      obtain ⟨⟨kind, position⟩, more, rfl⟩ := h'.exists_cons
      have hname := h'.turned (h.index_lt h' (Nat.lt_succ_self _))
      simp only [exec_here_bind, exec_note_bind, exec_peek_bind hname]
      cases kind with
      | word name =>
          refine .advance hclosed hname hdepth' (by simp) fun r'' h'' hdepth'' => ?_
          cases e with
          | field path =>
              have hshorter : more.length < (t :: ⟨.word name, position⟩ :: more).length := by
                simp only [List.length_cons]
                omega
              simp only [exec_here_bind, exec_note_bind]
              exact ih _ (hlength ▸ hshorter) _ (h''.turned (h.index_lt h'' hshorter)) hdepth'' rfl
          | _ => exact .error h''.orderly _
      | _ => exact .refuse hname .fieldName
    · exact .ok h hdepth

section Items

variable {item : Parser Expr} {close : Symbol}

/-- A turn is over when a comma or the closing symbol is taken. -/
theorem itemsFrom_settles (hclosed : Closed tokens)
    (hitem : NestedFollows tokens depth .ternary item) (expected : Expected)
    (h : r.Ahead tokens ts) (hdepth : r.cursor.depth = depth) :
    Settles tokens depth (readItems item close expected ts)
      fun n => exec ((calls tokens n).itemsFrom close expected) r := by
  induction hlength : ts.length using Nat.strongRecOn generalizing ts r with
  | ind length ih =>
    refine .later ?_
    rw [Parser.readItems_eq]
    simp only [calls, itemsFrom, exec_here_bind]
    refine (hitem _ _ h hdepth).bind fun e rest r' hread h' hdepth' => ?_
    have hshorter := Parser.length_lt_of_read hread
    obtain ⟨t, more, rfl⟩ := h'.exists_cons
    have hafter := h'.turned (h.index_lt h' hshorter)
    rw [List.length_cons] at hshorter
    simp only [exec_here_bind, exec_note_bind, exec_peek_bind hafter]
    split
    · next hcomma =>
      refine .advance hclosed hafter hdepth' (Token.ne_stop_of_isSymbol hcomma)
        fun r'' h'' hdepth'' => ?_
      simp only [exec_here_bind, exec_note_bind]
      have hmore := ih more.length (by omega) (h''.turned (h.index_lt h'' (by omega))) hdepth'' rfl
      exact hmore.bind fun es left _ _ hleft hdepth => .ok hleft hdepth
    · -- The parser tests for the closing symbol itself, where the action expects a symbol.
      have hread' : (if t.isSymbol close then pure ([e], more)
            else .error (unexpected expected (t :: more)))
          = (do
              let (_, left) ← read (Parser.symbol close expected) (t :: more)
              return ([e], left)) := by
        rw [Parser.read_symbol_cons]
        split <;> rfl
      rw [hread']
      refine (follows_expect hclosed close expected _ _ hafter hdepth').bind
        fun _ left r'' hread hleft hdepth'' => ?_
      have hlt := Parser.length_lt_of_read hread
      rw [List.length_cons] at hlt
      simp only [exec_here_bind, exec_note_bind]
      exact .ok (hleft.turned (h.index_lt hleft (by omega))) hdepth''

theorem follows_items (hclosed : Closed tokens)
    (hitem : NestedFollows tokens depth .ternary item) (expected : Expected) :
    Follows tokens depth (fun n => items tokens (calls tokens n) close expected)
      (read (Parser.items item close expected)) := by
  intro r ts h hdepth
  obtain ⟨t, rest, rfl⟩ := h.exists_cons
  simp only [items, exec_peek_bind h, Parser.read_items_cons]
  split
  · next hs =>
    exact .advance hclosed h hdepth (Token.ne_stop_of_isSymbol hs)
      fun r' h' hdepth' => .ok h' hdepth'
  · exact itemsFrom_settles hclosed hitem expected h hdepth

end Items

/-! ## The levels -/

section Levels

variable {inner : Parser.Nested}

theorem follows_ternary (hclosed : Closed tokens)
    (hternary : NestedFollows tokens depth .ternary inner.ternary)
    (hdisjunction : LevelFollows tokens depth inner .disjunction) :
    Follows tokens depth (fun n => ternary tokens (calls tokens n))
      (read (Parser.ternary inner)) := by
  intro r ts h hdepth
  simp only [ternary, Parser.read_ternary]
  refine (hdisjunction r ts h hdepth).bind fun condition rest r' _ h' hdepth' => ?_
  obtain ⟨t, more, rfl⟩ := h'.exists_cons
  simp only [exec_peek_bind h', readBranches]
  split
  · next hquestion =>
    refine .advance hclosed h' hdepth' (Token.ne_stop_of_isSymbol hquestion) fun _ h hdepth => ?_
    refine (hternary _ _ h hdepth).bind fun whenTrue _ _ _ h hdepth => ?_
    refine (follows_expect hclosed .colon .ternaryColon _ _ h hdepth).bind
      fun _ _ _ _ h hdepth => ?_
    refine (hternary _ _ h hdepth).bind fun whenFalse _ _ _ h hdepth => ?_
    exact .checked h hdepth
  · exact .ok h' hdepth'

theorem follows_chain (hclosed : Closed tokens) {l : Level} (hchain : l.isChain = true)
    (hnext : LevelFollows tokens depth inner l.next) :
    Follows tokens depth (fun n => chain (calls tokens n) l) (read (l.parser inner)) := by
  intro r ts h hdepth
  rw [Level.read_of_isChain hchain]
  exact (hnext r ts h hdepth).bind fun first _ _ _ h hdepth =>
    chainFrom_settles hclosed hnext first h hdepth

theorem follows_unary (hclosed : Closed tokens)
    (hunary : NestedFollows tokens depth .unary inner.unary)
    (hmember : LevelFollows tokens depth inner .member) :
    Follows tokens depth (fun n => unary tokens (calls tokens n)) (read (Parser.unary inner)) := by
  intro r ts h hdepth
  obtain ⟨t, rest, rfl⟩ := h.exists_cons
  simp only [unary, exec_peek_bind h, Parser.read_unary_cons]
  split
  · next hnot =>
    have hkind : t.kind ≠ .stop := by
      rcases Bool.or_eq_true_iff.1 hnot with hbang | hword
      · exact Token.ne_stop_of_isSymbol hbang
      · simp [Token.isWord_iff.1 hword]
    refine .advance hclosed h hdepth hkind fun r' h' hdepth' => ?_
    exact (hunary _ _ h' hdepth').bind fun e _ _ _ h hdepth => .checked h hdepth
  split
  · next hminus =>
    refine .advance hclosed h hdepth (Token.ne_stop_of_isSymbol hminus) fun r' h' hdepth' => ?_
    refine (hunary _ _ h' hdepth').bind fun e _ _ _ h hdepth => ?_
    cases e with
    | literal v =>
        cases v with
        | number x => exact .ok h hdepth
        | _ => exact .checked h hdepth
    | _ => exact .checked h hdepth
  · exact hmember r _ h hdepth

theorem follows_member (hclosed : Closed tokens)
    (hprimary : LevelFollows tokens depth inner .primary) :
    Follows tokens depth (fun n => member tokens (calls tokens n))
      (read (Parser.member inner)) := by
  intro r ts h hdepth
  obtain ⟨t, rest, rfl⟩ := h.exists_cons
  simp only [member, exec_peek_bind h, Parser.read_member]
  exact (hprimary r _ h hdepth).bind fun e _ _ _ h hdepth =>
    fieldsFrom_settles hclosed t.position e h hdepth

theorem literal_settles (hclosed : Closed tokens) {t : Token} {rest : List Token}
    (h : r.Ahead tokens (t :: rest)) (hdepth : r.cursor.depth = depth) (hkind : t.kind ≠ .stop)
    (v : Value) :
    Settles tokens depth (.ok (Expr.literal v, rest)) fun _ => exec (literal tokens v) r :=
  .advance hclosed h hdepth hkind fun _ h' hdepth' => .ok h' hdepth'

theorem follows_named (hclosed : Closed tokens)
    (hternary : NestedFollows tokens depth .ternary inner.ternary) (name : String) :
    Follows tokens depth (fun n => named tokens (calls tokens n) name) (readNamed inner name) := by
  intro r ts h hdepth
  obtain ⟨t, rest, rfl⟩ := h.exists_cons
  simp only [named, exec_peek_bind h, readNamed]
  split
  · next hopen =>
    refine .advance hclosed h hdepth (Token.ne_stop_of_isSymbol hopen) fun _ h hdepth => ?_
    exact (follows_items hclosed hternary .closeParen _ _ h hdepth).bind
      fun es _ _ _ h hdepth => .checked h hdepth
  · exact .ok h hdepth

theorem follows_primary (hclosed : Closed tokens)
    (hternary : NestedFollows tokens depth .ternary inner.ternary) :
    Follows tokens depth (fun n => primary tokens (calls tokens n))
      (read (Parser.primary inner)) := by
  intro r ts h hdepth
  obtain ⟨⟨kind, position⟩, rest, rfl⟩ := h.exists_cons
  simp only [primary, exec_peek_bind h, Parser.read_primary_cons]
  cases kind with
  | number x => exact literal_settles hclosed h hdepth (by simp) (.number x)
  | string s => exact literal_settles hclosed h hdepth (by simp) (.string s)
  | stop => exact .refuse h .expression
  | symbol s =>
      cases s
      case openParen =>
        refine .advance hclosed h hdepth (by simp) fun r' h' hdepth' => ?_
        refine (hternary _ _ h' hdepth').bind fun e _ _ _ h hdepth => ?_
        exact (follows_expect hclosed .closeParen .closeParen _ _ h hdepth).bind
          fun _ _ _ _ h hdepth => .ok h hdepth
      case openBracket =>
        refine .advance hclosed h hdepth (by simp) fun r' h' hdepth' => ?_
        exact (follows_items hclosed hternary .closeBracket _ _ h' hdepth').bind
          fun es _ _ _ h hdepth => .checked h hdepth
      all_goals exact .refuse h .expression
  | word name =>
      simp only
      split
      · exact literal_settles hclosed h hdepth (by simp) (.bool true)
      split
      · exact literal_settles hclosed h hdepth (by simp) (.bool false)
      split
      · exact literal_settles hclosed h hdepth (by simp) .nil
      split
      · exact .refuse h .expression
      exact .advance hclosed h hdepth (by simp) fun r' h' hdepth' =>
        follows_named hclosed hternary name _ _ h' hdepth'

/-- What has been read took tokens, so it may be noted. -/
theorem follows_level {l : Level}
    (h : Follows tokens depth (fun n => body tokens (calls tokens n) l) (read (l.parser inner))) :
    LevelFollows tokens depth inner l := by
  intro r ts hr hdepth
  refine .later ?_
  simp only [calls, level, exec_here_bind]
  refine (h r ts hr hdepth).bind_ok fun e rest r' hread hrest hdepth' => ?_
  have hindex := hr.index_lt hrest (Parser.length_lt_of_read hread)
  simp only [exec_here_bind, exec_note_bind]
  exact .ok (hrest.finished hindex (hdepth'.trans hdepth.symm)) hdepth'

/-- Every level follows its parser if the expressions inside others do. -/
theorem follows_levels (hclosed : Closed tokens)
    (hternary : NestedFollows tokens depth .ternary inner.ternary)
    (hunary : NestedFollows tokens depth .unary inner.unary) (l : Level) :
    LevelFollows tokens depth inner l := by
  have hprimary := follows_level (l := .primary) (follows_primary hclosed hternary)
  have hmember := follows_level (l := .member) (follows_member hclosed hprimary)
  have hunary := follows_level (l := .unary) (follows_unary hclosed hunary hmember)
  have hmultiplicative := follows_level (l := .multiplicative) (follows_chain hclosed rfl hunary)
  have hadditive := follows_level (l := .additive) (follows_chain hclosed rfl hmultiplicative)
  have hcomparison := follows_level (l := .comparison) (follows_chain hclosed rfl hadditive)
  have hconjunction := follows_level (l := .conjunction) (follows_chain hclosed rfl hcomparison)
  have hdisjunction := follows_level (l := .disjunction) (follows_chain hclosed rfl hconjunction)
  have hternary := follows_level (l := .ternary) (follows_ternary hclosed hternary hdisjunction)
  cases l <;> assumption

end Levels

/-! ## Expressions inside others -/

/-- At the limit no expression is opened. The failed attempt leaves one more open than the limit
allows. -/
theorem follows_nested_of_eq (hdepth : depth = nestingLimit) (l : Level) :
    Follows tokens depth (fun n => (calls tokens n).nested l : Nat → Action Expr)
      fun ts => .error (.tooDeep (headPosition ts)) := by
  intro r ts h hr
  have hlimit : nestingLimit < r.cursor.depth + 1 := by omega
  refine .later ?_
  simp only [calls, nested, exec_here_bind]
  refine .error_bind ?_
  simp only [enter, exec_here_bind, exec_moveTo_bind, if_pos hlimit]
  exact .tooDeep (h.atDepth (by omega))

/-- Below the limit an expression is opened, read one level deeper, and closed. -/
theorem follows_nested_of_lt {inner : Parser.Nested} {l : Level} (hdepth : depth < nestingLimit)
    (h : LevelFollows tokens (depth + 1) inner l) :
    NestedFollows tokens depth l (l.parser inner) := by
  intro r ts hr hr'
  refine .later ?_
  simp only [calls, nested, exec_here_bind, exec_enter_bind (hr'.symm ▸ hdepth)]
  refine (h _ _ (hr.atDepth (by omega)) (congrArg (· + 1) hr')).bind_ok
    fun e rest r' hread hrest hdepth' => ?_
  have hrestored : r'.cursor.depth - 1 = depth := by omega
  have hleft : (r'.move ⟨r'.cursor.index, r'.cursor.depth - 1⟩).Ahead tokens rest :=
    hrest.atDepth (by omega)
  have hindex := hr.index_lt hleft (Parser.length_lt_of_read hread)
  simp only [exec_leave_bind, exec_here_bind, exec_note_bind]
  exact .ok (hleft.finished hindex (hrestored.trans hr'.symm)) hrestored

/-- At every depth the expressions inside others are followed, with as many levels as the limit
leaves. The induction is on these levels: what is one level deeper has one less. -/
theorem follows_nested_levels (hclosed : Closed tokens) (levels : Nat)
    (hdepth : depth + levels = nestingLimit) :
    NestedFollows tokens depth .ternary (Parser.nested levels).ternary
      ∧ NestedFollows tokens depth .unary (Parser.nested levels).unary := by
  induction levels generalizing depth with
  | zero => exact ⟨follows_nested_of_eq hdepth .ternary, follows_nested_of_eq hdepth .unary⟩
  | succ levels ih =>
      have hdeeper : depth + 1 + levels = nestingLimit := by omega
      obtain ⟨hternary, hunary⟩ := ih hdeeper
      have hlevel := follows_levels hclosed hternary hunary
      exact ⟨follows_nested_of_lt (by omega) (hlevel .ternary),
        follows_nested_of_lt (by omega) (hlevel .unary)⟩

/-- **A cursor keeps order.** On tokens that end in a stop token, reading with a cursor comes to an
end on every stack that is large enough, with the result or the error of the parser and never at an
index out of range. Whatever comes of it, the cursor has stood at a token all the time, and at most
one expression more than the limit allows has been open; every expression that has been read has
taken tokens and has left the depth as it was; and every turn of a loop that comes to its end has
taken tokens. -/
theorem expression_orderly (front : List Token) (position : Nat) :
    let tokens := front ++ [⟨.stop, position⟩]
    ∃ r size, (∀ n, size ≤ n → exec (expression tokens (calls tokens n)) start
        = some ((Parser.expression tokens).mapError .refused, r)) ∧ r.Orderly tokens := by
  intro tokens
  have hclosed : Closed tokens := ⟨front, position, rfl⟩
  clear_value tokens
  obtain ⟨outcome, size, hmeets, hsize⟩ :=
    (follows_nested_levels hclosed nestingLimit (Nat.zero_add _)).1 start tokens
      (ahead_start hclosed) rfl
  rw [Parser.expression_eq]
  generalize read (Parser.nested nestingLimit).ternary tokens = result at hmeets
  cases hmeets with
  | @error e r hr =>
      refine ⟨r, size, fun n hn => ?_, hr⟩
      have hnested : exec ((calls tokens n).nested .ternary) start
          = some (.error (.refused e), r) := hsize n hn
      rw [expression, exec_bind, hnested]
      rfl
  | @ok e rest r hrest hdepth =>
      refine ⟨r, size, fun n hn => ?_, hrest.orderly⟩
      have hnested : exec ((calls tokens n).nested .ternary) start = some (.ok e, r) := hsize n hn
      obtain ⟨⟨kind, stop⟩, more, rfl⟩ := hrest.exists_cons
      rw [expression, exec_bind, hnested]
      simp only [exec_peek_bind hrest, ok_bind]
      cases kind with
      | stop => rfl
      | _ => exact exec_refuse hrest .endOfExpression

/-- Without a stop token the cursor leaves the tokens. -/
example :
    let tokens : List Token := [⟨.symbol .minus, 0⟩]
    (exec (expression tokens (calls tokens 12)) start).map Prod.fst
      = some (.error (.outOfRange 1)) := rfl

end Cursor

end LabelRules
