import LabelRules.Document.Lexer

set_option autoImplicit false

/-! # Events

The structure of a document as a list of events: sequences and mappings start and end, and between
them stand scalars and aliases. The parser keeps a stack of what is to come (`Goal`), so that the
events before a fault are known. Of a text, only the first document is read; that nothing may follow
it is checked after it (`parse`). Every step brings the parser nearer to its end
(`Step.next_bound`).
-/

namespace LabelRules.Document

/-- A part of the structure of a document. Sequences, mappings and scalars may have an anchor. -/
inductive Event where
  | scalar (anchor : Option String) (text : String) (isPlain : Bool)
  | alias (name : String)
  | sequenceStart (anchor : Option String)
  | sequenceEnd
  | mappingStart (anchor : Option String)
  | mappingEnd
  deriving DecidableEq, Repr, Inhabited

/-- A node that is not there is an empty plain scalar. -/
def Event.absent : Event := .scalar none "" true

/-- What the parser expects. -/
inductive Goal where
  /-- Anything in brackets or a scalar; a block only where blocks may be; and, as the value or the
  key of a mapping, a sequence whose dashes are not indented. -/
  | node (blocks unindented : Bool)
  /-- The root of a document that was started by a marker; it may be absent. -/
  | root
  | entries
  | unindentedEntries
  | keys
  | value
  | flowEntries (first : Bool)
  | flowKeys (first : Bool)
  | flowValue
  /-- The value of a key that has no colon. -/
  | absentValue
  /-- A mapping of one key inside a flow sequence. -/
  | pairKey
  | pairValue
  | pairEnd
  deriving DecidableEq, Repr, Inhabited

/-- A step of the parser: events, new goals, and the tokens that are left. -/
structure Step where
  events : List Event := []
  goals : List Goal := []
  rest : List Token

namespace Step

/-! ## Nodes -/

/-- The anchor and the tag before a node, in any order. -/
structure Properties where
  anchor : Option String := none
  tagged : Bool := false

/-- Is the handle of a tag declared? -/
def declared (handles : List String) : Option String → Bool
  | none => true
  | some h => handles.contains h

/-- Reads the properties of a node. -/
def properties (handles : List String) : List Token → Except Fault (Properties × List Token)
  | .anchor name :: .tag h :: rest =>
    if declared handles h then .ok (⟨some name, true⟩, rest) else .error .tag
  | .anchor name :: rest => .ok (⟨some name, false⟩, rest)
  | .tag h :: .anchor name :: rest =>
    if declared handles h then .ok (⟨some name, true⟩, rest) else .error .tag
  | .tag h :: rest => if declared handles h then .ok (⟨none, true⟩, rest) else .error .tag
  | rest => .ok ({}, rest)

/-- A node, after its properties. -/
def content (blocks unindented : Bool) (p : Properties) (tokens : List Token) :
    Except Fault Step :=
  let absent : Except Fault Step :=
    if p.anchor.isSome || p.tagged then
      .ok { events := [.scalar p.anchor "" true], rest := tokens }
    else .error .unexpectedToken
  match tokens with
  | .blockEntry :: _ =>
    if unindented then
      .ok { events := [.sequenceStart p.anchor], goals := [.unindentedEntries], rest := tokens }
    else absent
  | .scalar text isPlain :: rest => .ok { events := [.scalar p.anchor text isPlain], rest }
  | .flowSequenceStart :: rest =>
    .ok { events := [.sequenceStart p.anchor], goals := [.flowEntries true], rest }
  | .flowMappingStart :: rest =>
    .ok { events := [.mappingStart p.anchor], goals := [.flowKeys true], rest }
  | .blockSequenceStart :: rest =>
    if blocks then .ok { events := [.sequenceStart p.anchor], goals := [.entries], rest }
    else absent
  | .blockMappingStart :: rest =>
    if blocks then .ok { events := [.mappingStart p.anchor], goals := [.keys], rest }
    else absent
  | [] => .error .unexpectedToken
  | _ => absent

/-- A node. -/
def node (handles : List String) (blocks unindented : Bool) (tokens : List Token) :
    Except Fault Step :=
  match tokens with
  | .alias name :: rest => .ok { events := [.alias name], rest }
  | _ =>
    match properties handles tokens with
    | .error e => .error e
    | .ok (p, rest) => content blocks unindented p rest

/-! ## Goals -/

/-- The next step towards a goal. -/
def next (handles : List String) (goal : Goal) (tokens : List Token) : Except Fault Step :=
  match goal, tokens with
  | _, [] => .error .unexpectedToken
  | .node blocks unindented, ts => node handles blocks unindented ts
  | .root, t :: rest =>
    match t with
    | .version _ _ | .handle _ | .documentStart | .documentEnd | .streamEnd =>
      .ok { events := [.absent], rest := t :: rest }
    | _ => node handles true false (t :: rest)
  | .entries, .blockEntry :: rest =>
    match rest with
    | .blockEntry :: _ | .blockEnd :: _ => .ok { events := [.absent], goals := [.entries], rest }
    | _ => .ok { goals := [.node true false, .entries], rest }
  | .entries, .blockEnd :: rest => .ok { events := [.sequenceEnd], rest }
  | .unindentedEntries, .blockEntry :: rest =>
    match rest with
    | .blockEntry :: _ | .key :: _ | .value :: _ | .blockEnd :: _ =>
      .ok { events := [.absent], goals := [.unindentedEntries], rest }
    | _ => .ok { goals := [.node true false, .unindentedEntries], rest }
  | .unindentedEntries, ts => .ok { events := [.sequenceEnd], rest := ts }
  | .keys, .key :: rest =>
    match rest with
    | .key :: _ | .value :: _ | .blockEnd :: _ =>
      .ok { events := [.absent], goals := [.value], rest }
    | _ => .ok { goals := [.node true true, .value], rest }
  | .keys, .blockEnd :: rest => .ok { events := [.mappingEnd], rest }
  | .value, .value :: rest =>
    match rest with
    | .key :: _ | .value :: _ | .blockEnd :: _ =>
      .ok { events := [.absent], goals := [.keys], rest }
    | _ => .ok { goals := [.node true true, .keys], rest }
  | .value, ts => .ok { events := [.absent], goals := [.keys], rest := ts }
  | .flowEntries _, .flowSequenceEnd :: rest => .ok { events := [.sequenceEnd], rest }
  | .flowEntries false, .flowEntry :: rest => .ok { goals := [.flowEntries true], rest }
  | .flowEntries true, .key :: rest =>
    .ok { events := [.mappingStart none], goals := [.pairKey, .flowEntries false], rest }
  | .flowEntries true, ts => .ok { goals := [.node false false, .flowEntries false], rest := ts }
  | .pairKey, t :: rest =>
    match t with
    | .value | .flowEntry | .flowSequenceEnd =>
      .ok { events := [.absent], goals := [.pairValue], rest }
    | _ => .ok { goals := [.node false false, .pairValue], rest := t :: rest }
  | .pairValue, .value :: rest =>
    match rest with
    | .flowEntry :: _ | .flowSequenceEnd :: _ =>
      .ok { events := [.absent], goals := [.pairEnd], rest }
    | _ => .ok { goals := [.node false false, .pairEnd], rest }
  | .pairValue, ts => .ok { events := [.absent], goals := [.pairEnd], rest := ts }
  | .pairEnd, ts => .ok { events := [.mappingEnd], rest := ts }
  | .flowKeys _, .flowMappingEnd :: rest => .ok { events := [.mappingEnd], rest }
  | .flowKeys false, .flowEntry :: rest => .ok { goals := [.flowKeys true], rest }
  | .flowKeys true, .key :: rest =>
    match rest with
    | .value :: _ | .flowEntry :: _ | .flowMappingEnd :: _ =>
      .ok { events := [.absent], goals := [.flowValue], rest }
    | _ => .ok { goals := [.node false false, .flowValue], rest }
  | .flowKeys true, ts => .ok { goals := [.node false false, .absentValue], rest := ts }
  | .absentValue, ts => .ok { events := [.absent], goals := [.flowKeys false], rest := ts }
  | .flowValue, .value :: rest =>
    match rest with
    | .flowEntry :: _ | .flowMappingEnd :: _ =>
      .ok { events := [.absent], goals := [.flowKeys false], rest }
    | _ => .ok { goals := [.node false false, .flowKeys false], rest }
  | .flowValue, ts => .ok { events := [.absent], goals := [.flowKeys false], rest := ts }
  | _, _ => .error .unexpectedToken

end Step

/-! ## Progress -/

/-- How many steps a goal can take before it needs a token. -/
def Goal.weight : Goal → Nat
  | .pairKey | .flowKeys true => 5
  | .flowEntries true => 4
  | .root => 3
  | .node _ _ | .value | .flowValue | .absentValue | .pairValue => 2
  | .entries | .unindentedEntries | .keys | .flowEntries false | .flowKeys false | .pairEnd => 1

/-- How many steps a list of goals can take before they need a token. -/
def Goal.weightAll : List Goal → Nat
  | [] => 0
  | goal :: goals => goal.weight + weightAll goals

theorem Goal.weightAll_append (goals more : List Goal) :
    weightAll (goals ++ more) = weightAll goals + weightAll more := by
  induction goals with
  | nil => simp [weightAll]
  | cons goal goals ih => simp [weightAll, ih, Nat.add_assoc]

/-- How many steps a list of goals can take with so many tokens. -/
def Goal.bound (goals : List Goal) (tokens : List Token) : Nat :=
  weightAll goals + 5 * tokens.length

theorem Step.properties_length {handles : List String} {ts rest : List Token} {p : Properties}
    (h : properties handles ts = .ok (p, rest)) : rest.length ≤ ts.length := by
  unfold properties at h
  grind

theorem Step.content_bound {blocks unindented : Bool} {p : Properties} {ts : List Token}
    {s : Step} (h : content blocks unindented p ts = .ok s) :
    Goal.bound s.goals s.rest < 2 + 5 * ts.length := by
  unfold content at h
  grind [Goal.bound, Goal.weightAll, Goal.weight]

theorem Step.node_bound {handles : List String} {blocks unindented : Bool} {ts : List Token}
    {s : Step} (h : node handles blocks unindented ts = .ok s) :
    Goal.bound s.goals s.rest < 2 + 5 * ts.length := by
  unfold node at h
  split at h
  · simp at h
    subst h
    simp [Goal.bound, Goal.weightAll]
    omega
  · split at h
    · simp at h
    · next hp =>
      have := properties_length hp
      have := content_bound h
      omega

/-- A step brings its goal nearer. -/
theorem Step.next_bound {handles : List String} {goal : Goal} {ts : List Token} {s : Step}
    (h : next handles goal ts = .ok s) :
    Goal.bound s.goals s.rest < goal.weight + 5 * ts.length := by
  unfold next at h
  split at h
  all_goals grind [Goal.bound, Goal.weightAll, Goal.weight, → node_bound]

/-! ## Documents -/

/-- The events towards some goals, and the tokens that are left or the fault that was met. -/
def eventsTowards (handles : List String) (goals : List Goal) (tokens : List Token) :
    List Event × Except Fault (List Token) :=
  match goals with
  | [] => ([], .ok tokens)
  | goal :: more =>
    match _ : Step.next handles goal tokens with
    | .error e => ([], .error e)
    | .ok s =>
      let (events, result) := eventsTowards handles (s.goals ++ more) s.rest
      (s.events ++ events, result)
termination_by Goal.bound goals tokens
decreasing_by
  have := Step.next_bound ‹_›
  simp only [Goal.bound, Goal.weightAll_append, Goal.weightAll] at *
  omega

/-- The handles that need no declaration. -/
def knownHandles : List String := ["!", "!!"]

/-- Reads the directives before a document: at most one version, which must be known, and each
handle at most once. The handles that are declared are kept. -/
def directives (versioned : Bool) (handles : List String) :
    List Token → Except Fault (List String × List Token)
  | .version major minor :: rest =>
    if versioned || major ≠ 1 || (minor ≠ 1 && minor ≠ 2) then .error .directive
    else directives true handles rest
  | .handle name :: rest =>
    if handles.contains name then .error .directive
    else directives versioned (name :: handles) rest
  | .documentStart :: rest => .ok (handles, rest)
  | _ => .error .unexpectedToken

/-- The events of the first document of a text, and what is wrong after them. -/
structure Parsed where
  events : List Event
  fault : Option Fault
  deriving Inhabited

/-- The events of a document from its first token on. -/
def documentEvents (handles : List String) (start : Goal) (tokens : List Token) : Parsed :=
  match eventsTowards handles [start] tokens with
  | (events, .error e) => ⟨events, some e⟩
  | (events, .ok rest) =>
    match rest.dropWhile (· == .documentEnd) with
    | [.streamEnd] => ⟨events, none⟩
    | _ => ⟨events, some .moreThanOneDocument⟩

/-- The first document of some tokens. A text without a document has an absent one. -/
def firstDocument (tokens : List Token) : Parsed :=
  match tokens with
  | [.streamEnd] => ⟨[.absent], none⟩
  | .version _ _ :: _ | .handle _ :: _ | .documentStart :: _ =>
    match directives false [] tokens with
    | .error e => ⟨[], some e⟩
    | .ok (handles, rest) => documentEvents (handles ++ knownHandles) .root rest
  | _ => documentEvents knownHandles (.node true false) tokens

/-- The first document of a text. A fault of the tokens counts before one of the structure. -/
def parse (text : String) : Parsed :=
  let (tokens, fault) := tokenize text
  let parsed := firstDocument tokens
  { parsed with fault := fault <|> parsed.fault }

end LabelRules.Document
