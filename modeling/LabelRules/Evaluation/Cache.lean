import LabelRules.Pattern.Basic

set_option autoImplicit false

/-! # The cache of compiled patterns

A cache remembers the compiled forms of the patterns that have been asked for, each under its own
text and once. `Cache.fetch` answers from the cache or compiles the text and remembers it; a text
that is no pattern is not remembered. What it answers does not depend on the cache
(`fst_fetch`).
-/

namespace LabelRules

namespace Cache

/-- A pattern under its text. -/
structure Entry where
  text : String
  pattern : Pattern
  compiled : Pattern.compile text = .ok pattern

end Cache

/-- Compiled patterns under their texts; no text occurs twice. -/
structure Cache where
  entries : List Cache.Entry
  nodup : (entries.map (·.text)).Nodup

namespace Cache

/-- The cache without patterns. -/
def empty : Cache := ⟨[], List.nodup_nil⟩

instance : Inhabited Cache := ⟨empty⟩

/-- The texts of the patterns in the cache, the latest first. -/
def texts (c : Cache) : List String := c.entries.map (·.text)

def size (c : Cache) : Nat := c.entries.length

def isEmpty (c : Cache) : Bool := c.entries.isEmpty

/-- The pattern with a text. -/
def get? (c : Cache) (text : String) : Option Pattern :=
  (c.entries.find? fun e => e.text = text).map (·.pattern)

theorem get?_eq_none_iff {c : Cache} {text : String} : c.get? text = none ↔ text ∉ c.texts := by
  simp [get?, texts]

theorem compile_of_get? {c : Cache} {text : String} {p : Pattern} (h : c.get? text = some p) :
    Pattern.compile text = .ok p := by
  obtain ⟨e, he, rfl⟩ := Option.map_eq_some_iff.1 h
  have ht : e.text = text := by simpa using List.find?_some he
  exact ht ▸ e.compiled

/-- Remembers a pattern whose text is not in the cache. -/
def insert (c : Cache) (e : Entry) (h : e.text ∉ c.texts) : Cache where
  entries := e :: c.entries
  nodup := by
    simp only [List.map_cons, List.nodup_cons]
    exact ⟨h, c.nodup⟩

/-- The pattern with a text, from the cache or compiled, and the cache afterwards. -/
def fetch (c : Cache) (text : String) : Except Pattern.Error Pattern × Cache :=
  match hget : c.get? text with
  | some p => (.ok p, c)
  | none =>
    match hcompile : Pattern.compile text with
    | .error e => (.error e, c)
    | .ok p => (.ok p, c.insert ⟨text, p, hcompile⟩ (get?_eq_none_iff.1 hget))

/-- What is fetched is the compiled form of the text, whatever is in the cache. -/
theorem fst_fetch (c : Cache) (text : String) : (c.fetch text).1 = Pattern.compile text := by
  unfold fetch
  split
  · next p h => exact (compile_of_get? h).symm
  · split <;> next h => exact h.symm

end Cache

end LabelRules
