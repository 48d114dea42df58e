import LabelRules.Typing.Scope

set_option autoImplicit false

/-! # What the schemas declare

What is found in the scope of a schema stands in the schema (`Schema.mem_of_fieldType?` and its
companions). The scope knows fields by their paths joined with dots; a path is found only if it is
the pair of a variable and a field (`eq_pair_of_intercalate`), and no variable is found under such a
path (`Schema.dot_notMem_of_variableType?`).
-/

namespace LabelRules

/-! ## Paths joined with dots -/

/-- A list with one `x` can be cut at an `x` in one way only. -/
theorem append_cons_inj {α : Type} {x : α} {a b c d : List α} (hc : x ∉ c) (hd : x ∉ d)
    (h : a ++ x :: b = c ++ x :: d) : a = c ∧ b = d := by
  induction a generalizing c with
  | nil =>
      cases c with
      | nil => simpa using h
      | cons y c =>
          obtain ⟨rfl, -⟩ := List.cons.inj h
          simp at hc
  | cons z a ih =>
      cases c with
      | nil =>
          obtain ⟨-, rfl⟩ := List.cons.inj h
          simp at hd
      | cons y c =>
          obtain ⟨rfl, htail⟩ := List.cons.inj h
          obtain ⟨rfl, rfl⟩ := ih (List.not_mem_of_not_mem_cons hc) htail
          exact ⟨rfl, rfl⟩

/-- A path of two or more segments has a dot. -/
theorem dot_mem_intercalate {path : List String} (h : 2 ≤ path.length) :
    '.' ∈ (".".intercalate path).toList := by
  match path, h with
  | a :: b :: rest, _ =>
      rw [String.intercalate_cons_cons]
      simp

/-- What is joined to two names without dots is these two names. -/
theorem eq_pair_of_intercalate {path : List String} {x f : String} (hx : '.' ∉ x.toList)
    (hf : '.' ∉ f.toList) (hlength : path.length ≠ 1)
    (h : ".".intercalate path = x ++ "." ++ f) : path = [x, f] := by
  match path, hlength with
  | [], _ =>
      have hlist := congrArg String.toList h
      simp at hlist
  | a :: b :: rest, _ =>
      rw [String.intercalate_cons_cons] at h
      have hlist : a.toList ++ '.' :: (".".intercalate (b :: rest)).toList
          = x.toList ++ '.' :: f.toList := by
        simpa using congrArg String.toList h
      obtain ⟨hax, hbf⟩ := append_cons_inj hx hf hlist
      -- After the dot there is no other, so one segment is left.
      cases rest with
      | nil =>
          rw [String.intercalate_singleton] at hbf
          rw [String.toList_inj.1 hax, String.toList_inj.1 hbf]
      | cons c rest =>
          rw [← hbf] at hf
          exact absurd (dot_mem_intercalate (by simp)) hf

/-! ## Declarations -/

theorem mem_of_lookup {α : Type} {k : String} {v : α} {l : List (String × α)}
    (h : l.lookup k = some v) : (k, v) ∈ l := by
  obtain ⟨l₁, l₂, rfl, -⟩ := List.lookup_eq_some_iff.1 h
  simp

namespace Schema

variable {kind : Kind} {t : Ty}

theorem mem_of_variableType? {name : String}
    (h : (Schema.of kind).scope.variableType? name = some t) :
    name ∈ (Schema.of kind).variableNames := by
  obtain ⟨name', hmem, heq⟩ := List.mem_map.1 (mem_of_lookup h)
  cases heq
  exact hmem

theorem mem_of_fieldType? {path : String}
    (h : (Schema.of kind).scope.fieldType? path = some t) : (path, t) ∈ (Schema.of kind).fields :=
  mem_of_lookup h

theorem mem_of_signature? {name : String} {signature : Signature}
    (h : (Schema.of kind).scope.signature? name = some signature) :
    (name, signature) ∈ (Schema.of kind).functions :=
  mem_of_lookup h

/-- No variable has a dot in its name. -/
theorem dot_notMem_of_mem_variableNames {name : String}
    (h : name ∈ (Schema.of kind).variableNames) : '.' ∉ name.toList := by
  cases kind with
  | exporter =>
      obtain rfl : name = "Exporter" := by simpa [Schema.of] using h
      decide
  | interface =>
      have hname : name = "Exporter" ∨ name = "Interface" := by simpa [Schema.of] using h
      rcases hname with rfl | rfl
      · decide
      · decide

end Schema

end LabelRules
