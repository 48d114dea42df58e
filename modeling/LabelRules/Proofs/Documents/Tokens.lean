import LabelRules.Proofs.Documents.Keys

set_option autoImplicit false

/-! # Tokens of written documents

The tokens of a mapping of keys to lists of texts, as it is written (`tokenize_write`). They are
read line by line: the lexer comes to the start of each line with the tokens of the lines before it
(`Lexer.ComesTo`).
-/

namespace LabelRules.Document

namespace Lexer

/-! ## Items -/

section Item

variable {p : Place} {tokens : List Token} {pending : Option SimpleKey} (more : List Char)

/-- A space is passed over. -/
theorem leads_space {blocks : List Nat} {key : Option SimpleKey} (keyAllowed : Bool) :
    (before p (' ' :: more) tokens blocks key keyAllowed).Leads
      (before (p.advance 1) more tokens blocks key keyAllowed) := by
  refine .of_next_eq (next_space ..) rfl ?_
  simp [before, placeFrom_cons (c := ' ') (by decide)]

theorem tokenAt_dash {s : Lexer} {q : Place} {rest : List Placed}
    (hrest : s.rest = ⟨'-', p⟩ :: ⟨' ', q⟩ :: rest) :
    s.tokenAt ⟨'-', p⟩ (⟨' ', q⟩ :: rest) = s.blockEntry (⟨' ', q⟩ :: rest) := by
  have hmarker : isMarker '-' (⟨'-', p⟩ :: ⟨' ', q⟩ :: rest) = false := by
    cases rest <;> simp [isMarker]
  unfold tokenAt
  rw [hrest, hmarker, isMarker_eq_false (.inr (by decide))]
  simp [spacingAhead, isSpacing, isBlank]

/-- The dash of an item. -/
theorem leads_dash (hp : p.column = 0) (hpending : expire p pending = .ok none) :
    (before p ('-' :: ' ' :: more) tokens [0] pending true).Leads
      (before (p.advance 1) (' ' :: more) (tokens ++ [.blockEntry]) [0] none true) := by
  have hdash : ∀ c ∈ ['-'], staysInLine c = true :=
    List.forall_mem_singleton.2 (by decide)
  have hrest : (before p ('-' :: ' ' :: more) tokens [0] none true).rest
      = ⟨'-', p⟩ :: ⟨' ', p.next⟩ :: (placeFrom p.next.next more).1 := by
    rw [rest_before_cons _ _ _ _ _ _ (by decide), placeFrom_cons (by decide)]
  have hentry : (before p ('-' :: ' ' :: more) tokens [0] none true).blockEntry
      (placeFrom (p.advance 1) (' ' :: more)).1
        = .ok { (before p ('-' :: ' ' :: more) tokens [0] none true).emit .blockEntry with
            keyAllowed := true, rest := (placeFrom (p.advance 1) (' ' :: more)).1 } := by
    simp only [blockEntry, place_before, hp]
    rfl
  have hnext : (before p ('-' :: ' ' :: more) tokens [0] pending true).next
      = .ok (before (p.advance 1) (' ' :: more) (tokens ++ [.blockEntry]) [0] none true, true) := by
    have hspace : (placeFrom p.next (' ' :: more)).1
        = ⟨' ', p.next⟩ :: (placeFrom p.next.next more).1 := by
      rw [placeFrom_cons (by decide)]
    rw [next_token _ _ (by decide) (by decide) atMargin_zero hpending, hspace, tokenAt_dash hrest,
      ← hspace, Place.next_eq_advance, hentry]
    have hemit := emit_before p (' ' :: more) tokens [0] none true hdash .blockEntry true
    exact congrArg (fun s => Except.ok (s, true)) hemit
  exact leads_token hdash (by simp) hnext rfl

theorem tokenAt_quote {s : Lexer} {rest : List Placed} (hrest : s.rest = ⟨'"', p⟩ :: rest) :
    s.tokenAt ⟨'"', p⟩ rest = s.keyLike (quoted (doubleQuoted [] .none 0 rest)) := by
  unfold tokenAt
  rw [hrest, isMarker_eq_false (.inr (by decide)), isMarker_eq_false (.inr (by decide))]
  simp

/-- A text in quotes may be a key, but need not be one away from the margin. -/
theorem next_quote (tokens : List Token) (text : String) (hp : p.column ≠ 0) :
    (before p ((quote text).toList ++ more) tokens [0] none true).next
      = .ok (before (p.advance (quote text).toList.length) more (tokens ++ [.scalar text false]) [0]
          (some ⟨tokens.length, false, p⟩) false, true) := by
  have hline : ∀ c ∈ (quote text).toList, staysInLine c = true :=
    fun c hc => (written_of_mem_quote hc).2
  have hrequired : (indentOf [0] == (p.column : Int)) = false := by
    simp [indentOf]
    omega
  have hcs : (quote text).toList ++ more = '"' :: (quoteBody text.toList ++ '"' :: more) := by
    simp [toList_quote]
  have hemit := emit_before p more tokens [0] (some ⟨tokens.length, false, p⟩) true hline
    (.scalar text false) false
  rw [hcs] at hemit
  rw [hcs, next_token _ _ (by decide) (by decide) atMargin_zero rfl,
    tokenAt_quote (rest_before_cons _ _ _ _ _ _ (by decide)), Place.next_eq_advance,
    doubleQuoted_quote]
  simp only [keyLike, saveKey_before, hrequired, quoted, Except.map, bind, Except.bind]
  exact congrArg (fun s => Except.ok (s, true)) hemit

/-- The text of an item could be a key in its line, but no colon follows. -/
theorem leads_quote (tokens : List Token) (text : String) (hp : p.column ≠ 0) :
    ∃ key, Lapses key (p.advance (quote text).toList.length)
      ∧ (before p ((quote text).toList ++ more) tokens [0] none true).Leads
        (before (p.advance (quote text).toList.length) more (tokens ++ [.scalar text false]) [0] key
          false) := by
  have hplace : p.line ≤ (p.advance (quote text).toList.length).line := by
    simp only [Place.advance_line, Nat.le_refl]
  have hne : (quote text).toList ≠ [] := by simp [toList_quote]
  obtain ⟨key, hexpire, hlapses⟩ := exists_lapses (k := ⟨tokens.length, false, p⟩) rfl hplace
  exact ⟨key, hlapses, leads_token (fun c hc => (written_of_mem_quote hc).2) hne
    (next_quote more tokens text hp) hexpire⟩

end Item

/-! ## The empty list -/

section EmptyList

variable {p : Place} {tokens : List Token} (more : List Char)

/-- The lexer between the brackets of a list. -/
def inBrackets (p : Place) (cs : List Char) (tokens : List Token) : Lexer :=
  { before p cs tokens [0] none true with outer := [none] }

theorem leads_openBracket :
    (before p ('[' :: more) tokens [0] none false).Leads
      (inBrackets (p.advance 1) more (tokens ++ [.flowSequenceStart])) := by
  have hline : staysInLine '[' = true := by decide
  have hat : (before p ('[' :: more) tokens [0] none false).tokenAt ⟨'[', p⟩
      (placeFrom p.next more).1
        = .ok (inBrackets (p.advance 1) more (tokens ++ [.flowSequenceStart])) := by
    unfold tokenAt
    rw [rest_before_cons _ _ _ _ _ _ hline, isMarker_eq_false (.inr (by decide)),
      isMarker_eq_false (.inr (by decide))]
    simp [openBracket, saveKey, before, emit, inBrackets, placeFrom_cons hline]
    rfl
  refine .of_next (t := inBrackets (p.advance 1) more (tokens ++ [.flowSequenceStart])) ?_ ?_ ?_
  · rw [next_token _ _ (by decide) hline atMargin_zero rfl, hat]
    rfl
  · simp only [expireKeys, inBrackets, before]
    rfl
  · simp [inBrackets, before, placeFrom_cons hline]

theorem leads_closeBracket :
    (inBrackets p (']' :: more) tokens).Leads
      (before (p.advance 1) more (tokens ++ [.flowSequenceEnd]) [0] none false) := by
  have hline : staysInLine ']' = true := by decide
  have hrest : (inBrackets p (']' :: more) tokens).rest = ⟨']', p⟩ :: (placeFrom p.next more).1 :=
    rest_before_cons p more tokens [0] none true hline
  have hskip : skipSpacing true false true (inBrackets p (']' :: more) tokens).rest
      = (true, (inBrackets p (']' :: more) tokens).rest) := by
    have hbreak : isBreak ']' = false := by decide
    have hmark : ']' ≠ byteOrderMark := by decide
    rw [hrest, skipSpacing]
    simp [hbreak, hmark]
  have hexpire : (inBrackets p (']' :: more) tokens).expireKeys
      = .ok (inBrackets p (']' :: more) tokens) := rfl
  have hat : (inBrackets p (']' :: more) tokens).tokenAt ⟨']', p⟩ (placeFrom p.next more).1
      = .ok (before (p.advance 1) more (tokens ++ [.flowSequenceEnd]) [0] none false) := by
    unfold tokenAt
    rw [hrest, isMarker_eq_false (.inr (by decide)), isMarker_eq_false (.inr (by decide))]
    simp [closeBracket, dropKey, before, emit, inBrackets, placeFrom_cons hline]
  have hnext : (inBrackets p (']' :: more) tokens).next
      = .ok (before (p.advance 1) more (tokens ++ [.flowSequenceEnd]) [0] none false, true) := by
    rw [next_of_skip (s := inBrackets p (']' :: more) tokens) hskip hexpire rfl hrest, hat]
    rfl
  refine .of_next hnext (expireKeys_before _ _ rfl) ?_
  rw [hrest]
  simp [before]

end EmptyList

/-! ## Lines -/

/-- The lexer comes to the start of a line, with nothing that must be a key. -/
def ComesTo (s : Lexer) (more : List Char) (tokens : List Token) (blocks : List Nat) : Prop :=
  ∃ p pending, p.column = 0 ∧ expire p pending = .ok none
    ∧ s.Leads (before p more tokens blocks pending true)

/-- The tokens of an item. -/
def itemTokens (text : String) : List Token := [.blockEntry, .scalar text false]

/-- The tokens of a list of texts. -/
def listTokens (texts : List String) : List Token :=
  if texts.isEmpty then [.flowSequenceStart, .flowSequenceEnd] else texts.flatMap itemTokens

/-- The tokens of an entry. -/
def entryTokens (key : String) (texts : List String) : List Token :=
  [.key, .scalar key true, .value] ++ listTokens texts

/-- The tokens of some entries. -/
def mappingTokens (entries : List (String × List String)) : List Token :=
  entries.flatMap fun entry => entryTokens entry.1 entry.2

/-- The characters of an item. -/
def itemCharacters (text : String) : List Char := '-' :: ' ' :: ((quote text).toList ++ ['\n'])

section Lines

variable {s : Lexer} {tokens : List Token} {more : List Char}

/-- A line ends after what is no key, and the next one starts. -/
theorem ComesTo.of_newline {p : Place} {blocks : List Nat} {key : Option SimpleKey} {allowed : Bool}
    (hlapses : Lapses key p)
    (h : s.Leads (before p ('\n' :: more) tokens blocks key allowed)) :
    s.ComesTo more tokens blocks := by
  have hexpire : expire (p.nextLine 1) key = .ok none :=
    expire_of_lapses hlapses (Nat.lt_succ_self _)
  have hline : (before p ('\n' :: more) tokens blocks key allowed).Leads
      (before (p.nextLine 1) more tokens blocks key true) := by
    refine .of_next_eq (next_newline ..) rfl ?_
    simp [before, placeFrom_newline]
  exact ⟨p.nextLine 1, key, rfl, hexpire, h.trans hline⟩

/-- An item takes one line. -/
theorem ComesTo.item {text : String}
    (h : s.ComesTo (itemCharacters text ++ more) tokens [0]) :
    s.ComesTo more (tokens ++ itemTokens text) [0] := by
  obtain ⟨p, pending, hp, hpending, hlead⟩ := h
  have hcs : itemCharacters text ++ more = '-' :: ' ' :: ((quote text).toList ++ '\n' :: more) := by
    simp [itemCharacters]
  rw [hcs] at hlead
  -- The dash, the space after it, the text, and the end of the line.
  have hdash := hlead.trans (leads_dash _ hp hpending)
  have hspace := hdash.trans (leads_space _ true)
  obtain ⟨key, hlapses, hquote⟩ := leads_quote (p := (p.advance 1).advance 1) ('\n' :: more)
    (tokens ++ [.blockEntry]) text (by simp)
  rw [List.append_assoc] at hquote
  exact .of_newline hlapses (hspace.trans hquote)

theorem ComesTo.items {texts : List String}
    (h : s.ComesTo (texts.flatMap itemCharacters ++ more) tokens [0]) :
    s.ComesTo more (tokens ++ texts.flatMap itemTokens) [0] := by
  induction texts generalizing tokens with
  | nil => simpa using h
  | cons text texts ih =>
      rw [List.flatMap_cons, List.append_assoc] at h
      rw [List.flatMap_cons, ← List.append_assoc]
      exact ih h.item

theorem toList_writeEntry (key : String) (texts : List String) :
    (writeEntry key texts).toList = key.toList ++ ':' ::
      (if texts.isEmpty then [' ', '[', ']', '\n'] else '\n' :: texts.flatMap itemCharacters) := by
  have hitem : ∀ text, ("- " ++ quote text ++ "\n").toList = itemCharacters text := by
    intro text
    simp [itemCharacters]
  unfold writeEntry
  split
  · simp
  · simp only [String.toList_append, String.toList_join, List.flatMap_map, hitem]
    simp

/-- An entry takes the line of its key, and the lines of its items. -/
theorem ComesTo.entry {key : String} (hkey : IsKey key) {texts : List String} {blocks : List Nat}
    (hblocks : AtMargin blocks)
    (h : s.ComesTo ((writeEntry key texts).toList ++ more) tokens blocks) :
    s.ComesTo more (tokens ++ opening blocks ++ entryTokens key texts) [0] := by
  obtain ⟨p, pending, hp, hpending, hlead⟩ := h
  rw [toList_writeEntry, List.append_assoc, List.cons_append] at hlead
  cases hempty : texts.isEmpty with
  | true =>
      rw [hempty, if_pos rfl] at hlead
      have hmore : ∀ q, spacingAhead (placeFrom q ([' ', '[', ']', '\n'] ++ more)).1 = true := by
        intro q
        rw [List.cons_append, placeFrom_cons (by decide)]
        rfl
      have hvalue := hlead.trans (leads_key hkey hp hpending hblocks hmore)
      have hspace := hvalue.trans (leads_space _ false)
      have hopen := hspace.trans (leads_openBracket _)
      have hclose := hopen.trans (leads_closeBracket _)
      have hline := ComesTo.of_newline (lapses_none _) hclose
      simpa [entryTokens, listTokens, hempty] using hline
  | false =>
      rw [hempty, if_neg (by simp)] at hlead
      have hmore : ∀ q,
          spacingAhead (placeFrom q ('\n' :: texts.flatMap itemCharacters ++ more)).1 = true := by
        intro q
        rw [List.cons_append, placeFrom_newline]
        rfl
      have hvalue := hlead.trans (leads_key hkey hp hpending hblocks hmore)
      have hline := ComesTo.of_newline (lapses_none _) hvalue
      simpa [entryTokens, listTokens, hempty] using hline.items

theorem ComesTo.entries {entries : List (String × List String)}
    (hkeys : ∀ entry ∈ entries, IsKey entry.1)
    (h : s.ComesTo ((write entries).toList ++ more) tokens [0]) :
    s.ComesTo more (tokens ++ mappingTokens entries) [0] := by
  induction entries generalizing tokens with
  | nil => simpa [write, mappingTokens] using h
  | cons entry entries ih =>
      have hwrite : (write (entry :: entries)).toList
          = (writeEntry entry.1 entry.2).toList ++ (write entries).toList := by
        simp [write]
      rw [hwrite, List.append_assoc] at h
      -- Only the first entry of all opens the mapping.
      have hentry := h.entry (hkeys entry List.mem_cons_self) atMargin_zero
      have hrest := ih (fun e he => hkeys e (List.mem_cons_of_mem _ he)) hentry
      simpa [mappingTokens, opening, List.append_assoc] using hrest

/-- At the end of the text the mapping ends. -/
theorem ComesTo.all_eq (h : s.ComesTo [] tokens [0]) (settled : Nat) {fuel : Nat}
    (hfuel : s.rest.length < fuel) :
    s.all settled fuel = (tokens ++ [.blockEnd, .streamEnd], none) := by
  obtain ⟨p, pending, hp, hpending, hlead⟩ := h
  have hkeys : (before p [] tokens [0] pending true).expireKeys
      = .ok (before p [] tokens [0] none true) := expireKeys_before _ _ hpending
  have hclose : (before p [] tokens [0] none true).closeBlocks p.column
      = before p [] tokens [0] none true := closeBlocks_eq_self atMargin_zero _
  have hfinish : (before p [] tokens [0] none true).finish
      = .ok (before p [] (tokens ++ [.blockEnd, .streamEnd]) [] none false) := by
    simp only [finish, endBlocks, closeBlocks, before, inFlow]
    simp [dropKey, emit, bind, Except.bind, pure, Except.pure]
  have hnext : (before p [] tokens [0] pending true).next
      = .ok (before p [] (tokens ++ [.blockEnd, .streamEnd]) [] none false, false) :=
    next_of_end (s := before p [] tokens [0] pending true) rfl hkeys hclose rfl hfinish
  exact hlead.all_eq hnext hfuel

end Lines

end Lexer

/-- What is written may stand in a document. -/
theorem isAllowed_of_mem_writeEntry {key : String} (hkey : Lexer.IsKey key) {texts : List String}
    {c : Char} (h : c ∈ (writeEntry key texts).toList) : isAllowed c = true := by
  have hitem : ∀ text, ∀ d ∈ Lexer.itemCharacters text, isAllowed d = true := by
    intro text d hd
    rw [Lexer.itemCharacters, List.mem_cons, List.mem_cons, List.mem_append,
      List.mem_singleton] at hd
    obtain rfl | rfl | hd | rfl := hd
    · decide
    · decide
    · exact (written_of_mem_quote hd).1
    · decide
  rw [Lexer.toList_writeEntry, List.mem_append, List.mem_cons] at h
  obtain h | rfl | h := h
  · exact (Lexer.written_of_isKeyCharacter (List.all_eq_true.1 hkey.characters c h)).1
  · decide
  · split at h
    · have hall : [' ', '[', ']', '\n'].all isAllowed = true := by decide
      exact List.all_eq_true.1 hall c h
    · obtain rfl | h := List.mem_cons.1 h
      · decide
      · obtain ⟨text, -, hd⟩ := List.mem_flatMap.1 h
        exact hitem text c hd

/-- **The tokens of a written document.** -/
theorem tokenize_write {key : String} {texts : List String}
    {entries : List (String × List String)}
    (hkeys : ∀ entry ∈ (key, texts) :: entries, Lexer.IsKey entry.1) :
    tokenize (write ((key, texts) :: entries))
      = (.blockMappingStart :: (Lexer.mappingTokens ((key, texts) :: entries)
          ++ [.blockEnd, .streamEnd]), none) := by
  have hwrite : (write ((key, texts) :: entries)).toList
      = (writeEntry key texts).toList ++ (write entries).toList := by
    simp [write]
  -- No character is refused before the lexer starts.
  have hallowed : (write ((key, texts) :: entries)).toList.all isAllowed = true := by
    rw [List.all_eq_true]
    intro c hc
    have : c ∈ ((key, texts) :: entries).flatMap fun entry =>
        (writeEntry entry.1 entry.2).toList := by
      simpa [write, String.toList_join] using hc
    obtain ⟨entry, hentry, hmem⟩ := List.mem_flatMap.1 this
    exact isAllowed_of_mem_writeEntry (hkeys entry hentry) hmem
  have hstart : (Lexer.ofText (write ((key, texts) :: entries))).ComesTo
      ((writeEntry key texts).toList ++ (write entries).toList) [] [] := by
    refine ⟨.start, none, rfl, rfl, ?_⟩
    rw [← hwrite]
    exact Lexer.Leads.refl _
  have hfirst := hstart.entry (hkeys _ List.mem_cons_self) (.inl rfl)
  rw [← List.append_nil (write entries).toList] at hfirst
  have hentries := hfirst.entries fun e he => hkeys e (List.mem_cons_of_mem _ he)
  rw [tokenize, if_pos hallowed]
  have hall := hentries.all_eq 0 (Nat.lt_succ_self _)
  simpa [Lexer.mappingTokens, Lexer.opening] using hall

end LabelRules.Document
