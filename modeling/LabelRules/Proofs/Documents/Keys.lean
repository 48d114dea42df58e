import LabelRules.Proofs.Documents.Leads

set_option autoImplicit false

/-! # Keys of written documents

A key is written as it is, and its colon follows in its line. It is read as a text that may be a
key, and the colon makes it one; the colon of the first key also opens the mapping
(`Lexer.leads_key`).
-/

namespace LabelRules.Document

namespace Lexer

/-! ## Keys of mappings -/

/-- A letter of a key. -/
def isKeyLetter (c : Char) : Bool := 'a' ≤ c && c ≤ 'z'

/-- A letter or a dash. -/
def isKeyCharacter (c : Char) : Bool := isKeyLetter c || c == '-'

/-- A key that is written as it is: a letter, and letters and dashes after it, in one line with the
colon. -/
structure IsKey (key : String) : Prop where
  first : key.toList.head?.any isKeyLetter = true
  characters : key.toList.all isKeyCharacter = true
  short : key.toList.length ≤ keyLimit

theorem range_of_isKeyLetter {c : Char} (h : isKeyLetter c = true) :
    97 ≤ c.toNat ∧ c.toNat ≤ 122 := by
  simp only [isKeyLetter, Bool.and_eq_true, decide_eq_true_eq] at h
  exact h

/-- A character of a key may stand in a document, and starts a token, but not the value. -/
theorem written_of_isKeyCharacter {c : Char} (h : isKeyCharacter c = true) :
    isAllowed c = true ∧ staysInLine c = true ∧ startsToken c = true ∧ c ≠ ':' := by
  have hcode : ∀ n < 123, 97 ≤ n ∨ n = 45 → isAllowed (Char.ofNat n) = true
      ∧ staysInLine (Char.ofNat n) = true ∧ startsToken (Char.ofNat n) = true
      ∧ Char.ofNat n ≠ ':' := by decide
  have hc : 97 ≤ c.toNat ∧ c.toNat ≤ 122 ∨ c.toNat = 45 := by
    obtain h | h := Bool.or_eq_true_iff.1 h
    · exact .inl (range_of_isKeyLetter h)
    · rw [beq_iff_eq.1 h]
      exact .inr rfl
  have := hcode c.toNat (by omega) (by omega)
  rwa [Char.ofNat_toNat] at this

theorem ne_of_isKeyLetter {c : Char} (h : isKeyLetter c = true) : c ≠ '-' ∧ c ≠ '.' ∧ c ≠ '%' := by
  refine ⟨?_, ?_, ?_⟩ <;>
  · rintro rfl
    exact absurd h (by decide)

/-- A key starts with a letter. -/
theorem IsKey.exists_cons {key : String} (h : IsKey key) :
    ∃ c cs, key.toList = c :: cs ∧ isKeyLetter c = true := by
  have hfirst := h.first
  cases hcs : key.toList with
  | nil => simp [hcs] at hfirst
  | cons c cs => exact ⟨c, cs, rfl, by simpa [hcs] using hfirst⟩

theorem IsKey.staysInLine {key : String} (h : IsKey key) :
    ∀ c ∈ key.toList, staysInLine c = true := by
  intro c hc
  exact (written_of_isKeyCharacter (List.all_eq_true.1 h.characters c hc)).2.1

section Plain

variable {p : Place} {indent : Int} {text : List Char}

/-- A letter goes on with a plain text, and so does a dash away from the start of a line. -/
theorem plain_keyCharacter {c : Char} (h : isKeyCharacter c = true)
    (hmarker : p.column ≠ 0 ∨ isKeyLetter c = true) (rest : List Placed) :
    plain false indent text .none (⟨c, p⟩ :: rest) = plain false indent (c :: text) .none rest := by
  obtain ⟨-, -, hstarts, hcolon⟩ := written_of_isKeyCharacter h
  simp only [startsToken, Bool.and_eq_true, Bool.not_eq_true'] at hstarts
  have hmark : isAnyMarker (⟨c, p⟩ :: rest) = false := by
    obtain hcolumn | hletter := hmarker
    · exact isAnyMarker_of_column hcolumn c rest
    · obtain ⟨hdash, hpoint, -⟩ := ne_of_isKeyLetter hletter
      rw [isAnyMarker, isMarker_eq_false (.inr hdash), isMarker_eq_false (.inr hpoint)]
      rfl
  rw [plain]
  simp [hstarts, hmark, hcolon, Gap.none, Gap.isNone, Gap.text]

/-- A colon before white space ends a plain text. -/
theorem plain_colon {rest : List Placed} (h : spacingAhead rest = true) :
    plain false indent text .none (⟨':', p⟩ :: rest)
      = .ok ⟨String.ofList text.reverse, false, ⟨':', p⟩ :: rest⟩ := by
  have hmark : isAnyMarker (⟨':', p⟩ :: rest) = false := by
    have hdash : ':' ≠ '-' := by decide
    have hpoint : ':' ≠ '.' := by decide
    rw [isAnyMarker, isMarker_eq_false (.inr hdash), isMarker_eq_false (.inr hpoint)]
    rfl
  have hspacing : isSpacing ':' = false := by decide
  rw [plain]
  simp [hspacing, hmark, colonFault, h, Gap.none, Gap.isNone, Gap.isMultiline]

/-- The rest of a key is read up to its colon. -/
theorem plain_keyCharacters {cs : List Char}
    (h : ∀ c ∈ cs, isKeyCharacter c = true) (hp : p.column ≠ 0) {more : List Char}
    (hmore : spacingAhead (placeFrom (p.advance (cs.length + 1)) more).1 = true) :
    plain false indent text .none (placeFrom p (cs ++ ':' :: more)).1
      = .ok ⟨String.ofList (text.reverse ++ cs), false,
          (placeFrom (p.advance cs.length) (':' :: more)).1⟩ := by
  induction cs generalizing p text with
  | nil =>
      rw [List.nil_append, placeFrom_cons (by decide), plain_colon (by simpa using hmore)]
      simp [placeFrom_cons (c := ':') (by decide)]
  | cons c cs ih =>
      have hc := h c List.mem_cons_self
      have hcs : ∀ c ∈ cs, isKeyCharacter c = true :=
        fun c hc => h c (List.mem_cons_of_mem _ hc)
      rw [List.cons_append, placeFrom_cons (written_of_isKeyCharacter hc).2.1,
        plain_keyCharacter hc (.inl hp), ih hcs (by simp) (by simpa [Nat.add_comm, Nat.add_left_comm] using hmore)]
      simp [Nat.add_comm 1]

end Plain

section Key

variable {p : Place} {tokens : List Token} {blocks : List Nat} {pending : Option SimpleKey}

theorem startsPlain_keyLetter {c : Char} (h : isKeyLetter c = true) (inFlow : Bool)
    (rest : List Placed) : startsPlain inFlow c rest = true := by
  have hcode : ∀ n < 123, 97 ≤ n →
      "-?:,[]\x7b\x7d#&*!|>\x27\"%@\x60\t".toList.contains (Char.ofNat n) = false := by
    decide
  have hrange := range_of_isKeyLetter h
  have := hcode c.toNat (by omega) (by omega)
  rw [Char.ofNat_toNat] at this
  simp only [startsPlain, this]
  rfl

/-- A letter starts a plain text. -/
theorem tokenAt_keyLetter {s : Lexer} {c : Char} (h : isKeyLetter c = true) {rest : List Placed}
    (hrest : s.rest = ⟨c, p⟩ :: rest) : s.tokenAt ⟨c, p⟩ rest = s.plainScalar := by
  obtain ⟨hdash, hpoint, hpercent⟩ := ne_of_isKeyLetter h
  unfold tokenAt
  rw [hrest, if_neg (by simp [hpercent]), isMarker_eq_false (.inr hdash),
    isMarker_eq_false (.inr hpoint)]
  simp only [Bool.false_eq_true, if_false]
  split
  case h_11 =>
      have hne : ∀ d : Char, isKeyLetter d = false → (c == d) = false := by
        intro d hd
        refine beq_eq_false_iff_ne.2 ?_
        rintro rfl
        exact absurd (h.symm.trans hd) (by decide)
      rw [hne '-' (by decide), hne '?' (by decide), hne ':' (by decide), hne '|' (by decide),
        hne '>' (by decide), startsPlain_keyLetter h]
      rfl
  all_goals exact absurd h (by decide)

/-- A key is read as a plain text up to its colon. -/
theorem plain_key {key : String} (hkey : IsKey key) (hp : p.column = 0) {more : List Char}
    (hmore : ∀ q, spacingAhead (placeFrom q more).1 = true) (indent : Int) :
    plain false indent [] .none (placeFrom p (key.toList ++ ':' :: more)).1
      = .ok ⟨key, false, (placeFrom (p.advance key.toList.length) (':' :: more)).1⟩ := by
  obtain ⟨c, cs, hcs, hfirst⟩ := hkey.exists_cons
  have hall := hkey.characters
  rw [hcs, List.all_cons, Bool.and_eq_true, List.all_eq_true] at hall
  obtain ⟨hc, hcharacters⟩ := hall
  obtain ⟨-, hline, -, -⟩ := written_of_isKeyCharacter hc
  have htext : String.ofList (c :: cs) = key := by rw [← hcs, String.ofList_toList]
  rw [hcs, List.cons_append, placeFrom_cons hline, plain_keyCharacter hc (.inr hfirst),
    plain_keyCharacters hcharacters (by simp [hp]) (hmore _)]
  simp [htext, Nat.add_comm 1]

/-- A key before its colon is a text that may be a key, and must be one if there are keys before
it. -/
theorem next_key {key : String} (hkey : IsKey key) (hp : p.column = 0)
    (hblocks : AtMargin blocks) (hexpire : expire p pending = .ok none)
    {more : List Char} (hmore : ∀ q, spacingAhead (placeFrom q more).1 = true) :
    (before p (key.toList ++ ':' :: more) tokens blocks pending true).next
      = .ok (before (p.advance key.toList.length) (':' :: more) (tokens ++ [.scalar key true])
          blocks (some ⟨tokens.length, !blocks.isEmpty, p⟩) false, true) := by
  have hplain := plain_key hkey hp hmore (indentOf blocks + 1)
  have hemit := emit_before p (':' :: more) tokens blocks
    (some ⟨tokens.length, !blocks.isEmpty, p⟩) true hkey.staysInLine (.scalar key true) false
  -- In a mapping at the margin, a text at the margin can only be a key.
  have hrequired : (indentOf blocks == (p.column : Int)) = !blocks.isEmpty := by
    rw [hp]
    obtain rfl | rfl := hblocks <;> rfl
  -- The first letter decides that a plain text starts; what was remembered before has lapsed.
  have hstart : (before p (key.toList ++ ':' :: more) tokens blocks pending true).next
      = (before p (key.toList ++ ':' :: more) tokens blocks none true).plainScalar.map
          (·, true) := by
    obtain ⟨c, cs, hcs, hfirst⟩ := hkey.exists_cons
    have hc : isKeyCharacter c = true := by simp [isKeyCharacter, hfirst]
    obtain ⟨-, hline, hstarts, -⟩ := written_of_isKeyCharacter hc
    rw [hcs, List.cons_append, next_token _ _ hstarts hline hblocks hexpire,
      tokenAt_keyLetter hfirst (rest_before_cons _ _ _ _ _ _ hline)]
  have hindent : (before p (key.toList ++ ':' :: more) tokens blocks
      (some ⟨tokens.length, !blocks.isEmpty, p⟩) true).indent = indentOf blocks := by
    cases blocks <;> rfl
  have hrest : (before p (key.toList ++ ':' :: more) tokens blocks
      (some ⟨tokens.length, !blocks.isEmpty, p⟩) true).rest
        = (placeFrom p (key.toList ++ ':' :: more)).1 := rfl
  rw [hstart, plainScalar, saveKey_before, hrequired]
  simp only [bind, Except.bind, hindent, hrest]
  rw [show inFlow _ = false from rfl, hplain]
  exact congrArg (fun s => Except.ok (s, true)) hemit

/-! ## Colons -/

theorem tokenAt_colon {s : Lexer} {rest : List Placed} (hrest : s.rest = ⟨':', p⟩ :: rest)
    (h : spacingAhead rest = true) : s.tokenAt ⟨':', p⟩ rest = s.value rest := by
  unfold tokenAt
  rw [hrest, isMarker_eq_false (.inr (by decide)), isMarker_eq_false (.inr (by decide)), h]
  simp

/-- The tokens that the first key of a mapping puts before itself. -/
def opening (blocks : List Nat) : List Token := if blocks.isEmpty then [.blockMappingStart] else []

theorem insertIdx_length {α : Type} (front back : List α) (a : α) :
    (front ++ back).insertIdx front.length a = front ++ a :: back := by
  induction front with
  | nil => rfl
  | cons b front ih => simp [ih]

/-- The colon turns the text before it into a key, and opens the mapping if there is none. -/
theorem value_before {k : SimpleKey} (htoken : k.token = tokens.length)
    (hcolumn : k.place.column = 0) (hblocks : AtMargin blocks) (t : Token) (cs : List Char)
    (rest : List Placed) :
    (before p cs (tokens ++ [t]) blocks (some k) false).value rest
      = .ok { (before p cs (tokens ++ opening blocks ++ [.key, t]) [0] none false).emit .value with
          keyAllowed := false, rest := rest } := by
  obtain rfl | rfl := hblocks <;>
    simp [value, before, openBlock, opening, emit, htoken, hcolumn, inFlow, indent,
      insertIdx_length]

theorem next_colon {k : SimpleKey} (htoken : k.token = tokens.length)
    (hcolumn : k.place.column = 0) (hblocks : AtMargin blocks)
    (hexpire : expire p (some k) = .ok (some k)) (t : Token) {more : List Char}
    (hmore : ∀ q, spacingAhead (placeFrom q more).1 = true) :
    (before p (':' :: more) (tokens ++ [t]) blocks (some k) false).next
      = .ok (before (p.advance 1) more (tokens ++ opening blocks ++ [.key, t, .value]) [0] none
          false, true) := by
  rw [next_token more false (by decide) (by decide) hblocks hexpire,
    tokenAt_colon (rest_before_cons _ _ _ _ _ _ (by decide)) (hmore _),
    value_before htoken hcolumn hblocks]
  have hcolon : ∀ c ∈ [':'], staysInLine c = true :=
    List.forall_mem_singleton.2 (by decide)
  have hemit := emit_before p more (tokens ++ opening blocks ++ [.key, t]) [0] none false hcolon
    .value false
  rw [List.append_assoc _ [.key, t]] at hemit
  exact congrArg (fun s => Except.ok (s, true)) hemit

/-- **A key and its colon.** -/
theorem leads_key {key : String} (hkey : IsKey key) (hp : p.column = 0)
    (hpending : expire p pending = .ok none) (hblocks : AtMargin blocks)
    {more : List Char} (hmore : ∀ q, spacingAhead (placeFrom q more).1 = true) :
    (before p (key.toList ++ ':' :: more) tokens blocks pending true).Leads
      (before (p.advance (key.toList.length + 1)) more
        (tokens ++ opening blocks ++ [.key, .scalar key true, .value]) [0] none false) := by
  have hne : key.toList ≠ [] := by
    obtain ⟨c, cs, hcs, -⟩ := hkey.exists_cons
    simp [hcs]
  -- The colon is in the line of the key and near enough, so the key has not lapsed.
  have hnear : expire (p.advance key.toList.length) (some ⟨tokens.length, !blocks.isEmpty, p⟩)
      = .ok (some ⟨tokens.length, !blocks.isEmpty, p⟩) :=
    expire_of_near (k := ⟨tokens.length, !blocks.isEmpty, p⟩) hkey.short
  have hcolon : ∀ c ∈ [':'], staysInLine c = true :=
    List.forall_mem_singleton.2 (by decide)
  refine (leads_token hkey.staysInLine hne (next_key hkey hp hblocks hpending hmore) hnear).trans ?_
  have hnext := next_colon (p := p.advance key.toList.length) rfl hp hblocks hnear
    (.scalar key true) hmore
  have hlead := leads_token hcolon (by simp) hnext rfl
  rwa [Place.advance_advance] at hlead

end Key

end Lexer

end LabelRules.Document
