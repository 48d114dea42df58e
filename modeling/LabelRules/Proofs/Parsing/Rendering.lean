import LabelRules.Expr.Walk
import LabelRules.Proofs.Parsing.Grammar
import LabelRules.Proofs.Parsing.Lexing

set_option autoImplicit false

/-! # Writing an expression

`Expr.tokens` are the tokens that write an expression, with parentheses only where an operand would
otherwise be read at a tighter level than it has (`fit`). They write it (`Expr.derives_tokens`) if
it is writable (`Expr.isWritable`): no literal is an array or not a number, no minus stands right
before a number literal, paths are not empty and made of identifiers, and no path and no function
starts with a keyword. Every level of the tree takes at most two levels of nesting, one for the node
and one for parentheses around it. If the names of functions are identifiers too, each of these
tokens is one that a text can have (`Expr.allLexical_tokens`).
-/

namespace LabelRules

/-! ## Tokens -/

/-- The level of the chains of an operator. -/
def Operator.level : Operator → Level
  | .or => .disjunction
  | .and => .conjunction
  | .add | .sub => .additive
  | .mul | .div | .mod => .multiplicative
  | _ => .comparison

/-- The tokens of an operator. -/
def Operator.tokens : Operator → List TokenKind
  | .eq => [.symbol .eqEq] | .ne => [.symbol .notEq]
  | .gt => [.symbol .greater] | .ge => [.symbol .greaterEq]
  | .lt => [.symbol .less] | .le => [.symbol .lessEq]
  | .add => [.symbol .plus] | .sub => [.symbol .minus]
  | .mul => [.symbol .star] | .div => [.symbol .slash] | .mod => [.symbol .percent]
  | .and => [.symbol .andAnd] | .or => [.symbol .orOr]
  | .contains => [.word "contains"] | .startsWith => [.word "startsWith"]
  | .endsWith => [.word "endsWith"] | .matches => [.word "matches"]
  | .isIn => [.word "in"] | .notIn => [.word "not", .word "in"]

theorem Operator.tokens_mem_operators (op : Operator) : (op.tokens, op) ∈ op.level.operators := by
  cases op <;> decide

/-- The tokens of a literal; a negative number is a minus and the opposite number. An array is never
a literal. -/
def Value.tokens : Value → List TokenKind
  | .nil => [.word "nil"]
  | .bool true => [.word "true"]
  | .bool false => [.word "false"]
  | .number x => if isSigned x then [.symbol .minus, .number (-x)] else [.number x]
  | .string s => [.string s]
  | .array _ => []

/-- The tokens of an expression of the level `l` where one of a level is asked for. -/
def fit (level l : Level) (ts : List TokenKind) : List TokenKind :=
  if level.rank ≤ l.rank then ts else .symbol .openParen :: (ts ++ [.symbol .closeParen])

namespace Expr

/-- The tightest level at which an expression stands without parentheses. -/
def level : Expr → Level
  | .literal (.number x) => if isSigned x then .unary else .primary
  | .literal _ => .primary
  | .field _ => .member
  | .binary op _ _ => op.level
  | .unary _ _ => .unary
  | .call _ _ => .primary
  | .ternary _ _ _ => .ternary
  | .array _ => .primary

/-- The tokens of a path. -/
def pathTokens : List String → List TokenKind
  | [] => []
  | name :: names => .word name :: accessors names

mutual

/-- The tokens that write an expression. -/
def tokens : Expr → List TokenKind
  | .literal v => v.tokens
  | .field path => pathTokens path
  | .binary op l r =>
    fit op.level l.level (tokens l) ++ (op.tokens ++ fit op.level.next r.level (tokens r))
  | .unary .not e => .symbol .bang :: fit .unary e.level (tokens e)
  | .unary .negate e => .symbol .minus :: fit .unary e.level (tokens e)
  | .call name args =>
    .word name :: .symbol .openParen :: (itemTokens args ++ [.symbol .closeParen])
  | .ternary c t f =>
    fit .disjunction c.level (tokens c)
      ++ .symbol .question :: (tokens t ++ .symbol .colon :: tokens f)
  | .array items => .symbol .openBracket :: (itemTokens items ++ [.symbol .closeBracket])

/-- The tokens of some expressions, set apart by commas. -/
def itemTokens : List Expr → List TokenKind
  | [] => []
  | [e] => tokens e
  | e :: e' :: es => tokens e ++ .symbol .comma :: itemTokens (e' :: es)

end

/-! ## Writable expressions -/

/-- What is asked of a node: a literal is a number or another scalar, a minus does not stand before
a number literal, a path is made of identifiers and, like the name of a function, is no keyword. -/
def isWritableNode : Expr → Bool
  | .literal (.number x) => !x.isNaN
  | .literal (.array _) => false
  | .field [] => false
  | .field (name :: names) => (name :: names).all isIdentifier && !reserved.contains name
  | .unary .negate (.literal (.number _)) => false
  | .call name _ => !reserved.contains name
  | _ => true

def isWritable (e : Expr) : Bool := e.postorder.all isWritableNode

/-- The name of a function is an identifier. -/
def callsIdentifier : Expr → Bool
  | .call name _ => isIdentifier name
  | _ => true

/-- The names of all functions that are called are identifiers. -/
def callsIdentifiers (e : Expr) : Bool := e.postorder.all callsIdentifier

/-- An expression that can be written and read back. -/
def IsReadable (e : Expr) : Prop := e.isWritable = true ∧ e.callsIdentifiers = true

def AreReadable (es : List Expr) : Prop :=
  (postorderAll es).all isWritableNode = true ∧ (postorderAll es).all callsIdentifier = true

/-- What is asked of a node by both. -/
def isReadableNode (e : Expr) : Bool := isWritableNode e && callsIdentifier e

theorem all_isReadableNode {es : List Expr} :
    es.all isReadableNode = true
      ↔ es.all isWritableNode = true ∧ es.all callsIdentifier = true := by
  simp only [isReadableNode, List.all_eq_true, Bool.and_eq_true, forall_and]

theorem isReadable_iff {e : Expr} : e.IsReadable ↔ e.postorder.all isReadableNode = true :=
  all_isReadableNode.symm

theorem areReadable_iff {es : List Expr} :
    AreReadable es ↔ (postorderAll es).all isReadableNode = true :=
  all_isReadableNode.symm

/-- A node is asked what it is asked itself, and the nodes below it as well. -/
theorem isReadable_iff_below {e : Expr} {below : List Expr} (h : e.postorder = below ++ [e]) :
    e.IsReadable ↔ below.all isReadableNode = true ∧ isReadableNode e = true := by
  rw [isReadable_iff, h, List.all_append, Bool.and_eq_true, List.all_cons, List.all_nil,
    Bool.and_true]

theorem isReadable_binary {op : Operator} {l r : Expr} :
    (binary op l r).IsReadable ↔ l.IsReadable ∧ r.IsReadable := by
  rw [isReadable_iff_below rfl, List.all_append, Bool.and_eq_true, isReadable_iff, isReadable_iff]
  exact and_iff_left rfl

theorem isReadable_ternary {c t f : Expr} :
    (ternary c t f).IsReadable ↔ c.IsReadable ∧ t.IsReadable ∧ f.IsReadable := by
  rw [isReadable_iff_below rfl, List.all_append, List.all_append, Bool.and_eq_true,
    Bool.and_eq_true, and_assoc (b := t.postorder.all isReadableNode = true), isReadable_iff,
    isReadable_iff, isReadable_iff]
  exact and_iff_left rfl

theorem isReadable_not {e : Expr} : (unary .not e).IsReadable ↔ e.IsReadable := by
  rw [isReadable_iff_below rfl, isReadable_iff]
  exact and_iff_left rfl

theorem isReadable_negate {e : Expr} :
    (unary .negate e).IsReadable ↔ e.IsReadable ∧ isWritableNode (unary .negate e) = true := by
  have hnode : isReadableNode (unary .negate e) = isWritableNode (unary .negate e) :=
    Bool.and_true _
  rw [isReadable_iff_below rfl, isReadable_iff, hnode]

theorem isReadable_call {name : String} {args : List Expr} :
    (call name args).IsReadable
      ↔ AreReadable args ∧ name ∉ reserved ∧ isIdentifier name = true := by
  have hnode : isReadableNode (call name args) = (!reserved.contains name && isIdentifier name) :=
    rfl
  rw [isReadable_iff_below rfl, areReadable_iff, hnode]
  simp

theorem isReadable_array {items : List Expr} : (array items).IsReadable ↔ AreReadable items := by
  rw [isReadable_iff_below rfl, areReadable_iff]
  exact and_iff_left rfl

theorem isReadable_field {name : String} {names : List String} :
    (field (name :: names)).IsReadable
      ↔ (isIdentifier name = true ∧ names.all isIdentifier = true) ∧ name ∉ reserved := by
  have hnode : isReadableNode (field (name :: names))
      = ((isIdentifier name && names.all isIdentifier && !reserved.contains name) && true) := rfl
  have hbelow : (field (name :: names)).postorder = [] ++ [field (name :: names)] := rfl
  rw [isReadable_iff_below hbelow, hnode]
  simp

theorem areReadable_cons {e : Expr} {es : List Expr} :
    AreReadable (e :: es) ↔ e.IsReadable ∧ AreReadable es := by
  have hnodes : postorderAll (e :: es) = e.postorder ++ postorderAll es := rfl
  rw [isReadable_iff, areReadable_iff, areReadable_iff, hnodes, List.all_append, Bool.and_eq_true]

/-! ## The tokens write the expression -/

theorem derives_fit {n : Nat} {e : Expr} {ts : List TokenKind}
    (h : Derives n ts (.expr e.level e)) (level : Level) :
    Derives (n + 1) (fit level e.level ts) (.expr level e) := by
  unfold fit
  by_cases hrank : level.rank ≤ e.level.rank
  · rw [if_pos hrank]
    exact (h.of_rank_le hrank).mono (Nat.le_succ n)
  · rw [if_neg hrank]
    exact h.loosest.parens.of_rank_le (by cases level <;> decide)

theorem derives_literal {v : Value} (h : (literal v).isWritable = true) :
    Derives 1 v.tokens (.expr (literal v).level (literal v)) := by
  cases v with
  | nil | string s => exact .literal rfl
  | bool b => cases b <;> exact .literal rfl
  | array items => cases h
  | number x =>
      by_cases hsigned : isSigned x = true
      · have hopposite : Derives 0 [.number (-x)] (.expr .unary (.literal (.number (-x)))) :=
          (Derives.literal rfl).of_rank_le (by decide)
        have hnegated := hopposite.negate
        rw [negation, Number.neg_neg] at hnegated
        simpa only [Value.tokens, level, if_pos hsigned] using hnegated
      · have hnumber : Derives 1 [.number x] (.expr .primary (.literal (.number x))) := .literal rfl
        simpa only [Value.tokens, level, if_neg hsigned] using hnumber

theorem derives_field {path : List String} (h : (field path).isWritable = true) :
    Derives 1 (pathTokens path) (.expr .member (.field path)) := by
  cases path with
  | nil => cases h
  | cons name names =>
      have hname : name ∉ reserved := by
        simp [isWritable, postorder, isWritableNode] at h
        exact h.2
      exact .fields (.word hname) names

/-- A minus before a writable expression is a node of its own. -/
theorem negation_of_isWritable {e : Expr} (h : (unary .negate e).isWritable = true) :
    e.negation = .unary .negate e := by
  cases e with
  | literal v =>
      cases v with
      | number x =>
          simp [isWritable, postorder, isWritableNode] at h
      | _ => rfl
  | _ => rfl

mutual

/-- **The tokens of an expression write it**, with at most two levels of nesting for each level of
the tree. -/
theorem derives_tokens (e : Expr) (h : e.isWritable = true) :
    Derives (2 * e.depth - 1) e.tokens (.expr e.level e) := by
  cases e with
  | literal v => exact derives_literal h
  | field path => exact derives_field h
  | binary op l r =>
      obtain ⟨hl, hr⟩ : l.isWritable = true ∧ r.isWritable = true := by
        simpa [isWritable, postorder, isWritableNode] using h
      have hleft := derives_fit (derives_tokens l hl) op.level
      have hright := derives_fit (derives_tokens r hr) op.level.next
      have hpos := And.intro l.depth_pos r.depth_pos
      rw [depth, tokens]
      exact .binary (hleft.mono (by omega)) op.tokens_mem_operators (hright.mono (by omega))
  | unary op e =>
      have he : e.isWritable = true := by
        simp only [isWritable, postorder, List.all_append, Bool.and_eq_true] at h
        exact h.1
      have hoperand := derives_fit (derives_tokens e he) .unary
      have hpos := e.depth_pos
      rw [depth]
      cases op with
      | not =>
          have hnot := Derives.not (.inl rfl : TokenKind.symbol .bang = _ ∨ _) hoperand
          rw [tokens]
          exact hnot.mono (by omega)
      | negate =>
          have hnegate := hoperand.negate
          rw [negation_of_isWritable h] at hnegate
          rw [tokens]
          exact hnegate.mono (by omega)
  | call name args =>
      obtain ⟨hargs, hname⟩ : (postorderAll args).all isWritableNode = true ∧ name ∉ reserved := by
        simpa [isWritable, postorder, isWritableNode] using h
      rw [depth, tokens]
      exact ((derives_itemTokens args hargs).call hname).mono (by omega)
  | ternary c t f =>
      obtain ⟨hc, ht, hf⟩ : c.isWritable = true ∧ t.isWritable = true ∧ f.isWritable = true := by
        simpa [isWritable, postorder, isWritableNode] using h
      have hcondition := derives_fit (derives_tokens c hc) .disjunction
      have htrue := (derives_tokens t ht).loosest
      have hfalse := (derives_tokens f hf).loosest
      have hpos := And.intro c.depth_pos (And.intro t.depth_pos f.depth_pos)
      have hlevels : 2 * (ternary c t f).depth - 1
          = 2 * max (max c.depth t.depth) f.depth + 1 := by
        rw [depth]
        omega
      rw [hlevels, tokens]
      exact .ternary (hcondition.mono (by omega)) (htrue.mono (by omega)) (hfalse.mono (by omega))
  | array items =>
      have hitems : (postorderAll items).all isWritableNode = true := by
        simpa [isWritable, postorder, isWritableNode] using h
      rw [depth, tokens]
      exact (derives_itemTokens items hitems).array.mono (by omega)

theorem derives_itemTokens (es : List Expr) (h : (postorderAll es).all isWritableNode = true) :
    Derives (2 * maxDepth es) (itemTokens es) (.items es) := by
  cases es with
  | nil => exact .none
  | cons e es =>
      obtain ⟨he, hes⟩ : e.isWritable = true ∧ (postorderAll es).all isWritableNode = true := by
        simpa [isWritable, postorderAll] using h
      have hfirst := (derives_tokens e he).loosest
      have hothers := derives_itemTokens es hes
      have hpos := e.depth_pos
      have hmax : 2 * maxDepth (e :: es) = 2 * max e.depth (maxDepth es) - 1 + 1 := by
        rw [maxDepth]
        omega
      rw [hmax]
      cases es with
      | nil =>
          rw [itemTokens]
          exact .last (hfirst.mono (by omega))
      | cons e' es =>
          rw [itemTokens]
          exact .more (hfirst.mono (by omega)) (hothers.mono (by omega))

end

/-! ## Its tokens can be written -/

/-- All tokens of a list can be written. -/
def AllLexical (ts : List TokenKind) : Prop := ∀ k ∈ ts, k.IsLexical

theorem allLexical_append {ts us : List TokenKind} :
    AllLexical (ts ++ us) ↔ AllLexical ts ∧ AllLexical us := List.forall_mem_append

theorem allLexical_cons {k : TokenKind} {ts : List TokenKind} :
    AllLexical (k :: ts) ↔ k.IsLexical ∧ AllLexical ts := List.forall_mem_cons

theorem allLexical_nil : AllLexical [] := fun _ h => absurd h List.not_mem_nil

theorem allLexical_symbol (s : Symbol) : AllLexical [.symbol s] :=
  allLexical_cons.2 ⟨trivial, allLexical_nil⟩

theorem allLexical_fit {ts : List TokenKind} (h : AllLexical ts) (level l : Level) :
    AllLexical (fit level l ts) := by
  unfold fit
  split
  · exact h
  · exact allLexical_cons.2 ⟨trivial, allLexical_append.2 ⟨h, allLexical_symbol _⟩⟩

/-- Keywords have the form of identifiers. -/
theorem isIdentifier_of_mem_reserved {name : String} (h : name ∈ reserved) :
    isIdentifier name = true := by
  have hall : reserved.all isIdentifier = true := by decide +kernel
  exact List.all_eq_true.1 hall name h

theorem allLexical_keyword {name : String} (h : name ∈ reserved) : AllLexical [.word name] :=
  allLexical_cons.2 ⟨isIdentifier_of_mem_reserved h, allLexical_nil⟩

theorem allLexical_operator (op : Operator) : AllLexical op.tokens := by
  cases op with
  | contains | startsWith | endsWith | «matches» | isIn => exact allLexical_keyword (by decide)
  | notIn =>
      exact allLexical_append.2 ⟨allLexical_keyword (by decide), allLexical_keyword (by decide)⟩
  | _ => exact allLexical_symbol _

theorem allLexical_literal {v : Value} (h : (literal v).isWritable = true) :
    AllLexical v.tokens := by
  cases v with
  | nil => exact allLexical_keyword (by decide)
  | bool b => cases b <;> exact allLexical_keyword (by decide)
  | string s => exact allLexical_cons.2 ⟨trivial, allLexical_nil⟩
  | array items => cases h
  | number x =>
      have hnumber : x.isNaN = false := by
        simpa [isWritable, postorder, isWritableNode] using h
      rw [Value.tokens]
      by_cases hsigned : isSigned x = true
      · rw [if_pos hsigned]
        have hopposite : (-x).isNaN = false := (Number.isNaN_neg x).trans hnumber
        exact allLexical_cons.2 ⟨trivial, allLexical_cons.2 ⟨hopposite, allLexical_nil⟩⟩
      · rw [if_neg hsigned]
        exact allLexical_cons.2 ⟨hnumber, allLexical_nil⟩

theorem allLexical_accessors {names : List String} (h : names.all isIdentifier = true) :
    AllLexical (accessors names) := by
  intro k hk
  obtain ⟨name, hname, hk⟩ := List.mem_flatMap.1 hk
  rcases List.mem_pair.1 hk with rfl | rfl
  · trivial
  · exact List.all_eq_true.1 h name hname

theorem allLexical_field {path : List String} (h : (field path).IsReadable) :
    AllLexical (pathTokens path) := by
  cases path with
  | nil => cases h.1
  | cons name names =>
      obtain ⟨⟨hname, hnames⟩, -⟩ := isReadable_field.1 h
      exact allLexical_cons.2 ⟨hname, allLexical_accessors hnames⟩

mutual

/-- Every token of an expression can be written, if the names of its functions are identifiers. -/
theorem allLexical_tokens (e : Expr) (h : e.IsReadable) : AllLexical e.tokens := by
  cases e with
  | literal v => exact allLexical_literal h.1
  | field path => exact allLexical_field h
  | binary op l r =>
      obtain ⟨hl, hr⟩ := isReadable_binary.1 h
      have hleft := allLexical_fit (allLexical_tokens l hl) op.level l.level
      have hright := allLexical_fit (allLexical_tokens r hr) op.level.next r.level
      rw [tokens]
      exact allLexical_append.2 ⟨hleft, allLexical_append.2 ⟨allLexical_operator op, hright⟩⟩
  | unary op e =>
      cases op with
      | not =>
          have hoperand := allLexical_tokens e (isReadable_not.1 h)
          rw [tokens]
          exact allLexical_cons.2 ⟨trivial, allLexical_fit hoperand .unary e.level⟩
      | negate =>
          have hoperand := allLexical_tokens e (isReadable_negate.1 h).1
          rw [tokens]
          exact allLexical_cons.2 ⟨trivial, allLexical_fit hoperand .unary e.level⟩
  | call name args =>
      obtain ⟨hargs, -, hname⟩ := isReadable_call.1 h
      have hitems := allLexical_itemTokens args hargs
      rw [tokens]
      exact allLexical_cons.2 ⟨hname, allLexical_cons.2 ⟨trivial,
        allLexical_append.2 ⟨hitems, allLexical_symbol _⟩⟩⟩
  | ternary c t f =>
      obtain ⟨hc, ht, hf⟩ := isReadable_ternary.1 h
      have hcondition := allLexical_fit (allLexical_tokens c hc) .disjunction c.level
      have hbranches := And.intro (allLexical_tokens t ht) (allLexical_tokens f hf)
      rw [tokens]
      exact allLexical_append.2 ⟨hcondition, allLexical_cons.2 ⟨trivial,
        allLexical_append.2 ⟨hbranches.1, allLexical_cons.2 ⟨trivial, hbranches.2⟩⟩⟩⟩
  | array items =>
      have hitems := allLexical_itemTokens items (isReadable_array.1 h)
      rw [tokens]
      exact allLexical_cons.2 ⟨trivial, allLexical_append.2 ⟨hitems, allLexical_symbol _⟩⟩

theorem allLexical_itemTokens (es : List Expr) (h : AreReadable es) :
    AllLexical (itemTokens es) := by
  cases es with
  | nil => exact allLexical_nil
  | cons e es =>
      obtain ⟨he, hes⟩ := areReadable_cons.1 h
      have hfirst := allLexical_tokens e he
      have hothers := allLexical_itemTokens es hes
      cases es with
      | nil =>
          rw [itemTokens]
          exact hfirst
      | cons e' es =>
          rw [itemTokens]
          exact allLexical_append.2 ⟨hfirst, allLexical_cons.2 ⟨trivial, hothers⟩⟩

end

end Expr

end LabelRules
