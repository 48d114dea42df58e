import LabelRules.Proofs.Checking
import Mathlib.Data.List.Forall2
import Mathlib.Data.List.Pairwise
import Mathlib.Data.List.Perm.Basic

set_option autoImplicit false

/-! # The items of an array

The checker compares the items of an array with one of them, the first whose type is not `any`
(`infer_array_iff`). This settles what items it accepts, but not that they fit each other: the type
of that item may have `any` inside it, as that of an empty array has. All items fit each other
exactly if they are compatible with the first item whose type is definite, and exactly if the
checker accepts them in every order (`arrayItems_compatible_iff`).
-/

namespace LabelRules

namespace Ty

/-- Is there no `any` inside the type? -/
def isDefinite : Ty → Bool
  | .any => false
  | .array item => item.isDefinite
  | .number | .string | .bool | .object => true

/-- Is the type not `any` itself? -/
def isKnown (t : Ty) : Bool := t != .any

theorem isKnown_eq_false_iff {t : Ty} : t.isKnown = false ↔ t = .any := by
  simp [isKnown]

theorem compatible_symm {a b : Ty} (h : a.compatible b = true) : b.compatible a = true := by
  rw [compatible_comm]
  exact h

/-- Two types that are compatible with a definite one are compatible with each other. -/
theorem compatible_of_isDefinite {t a b : Ty} (ht : t.isDefinite = true)
    (ha : t.compatible a = true) (hb : t.compatible b = true) : a.compatible b = true := by
  induction t generalizing a b with
  | any => cases ht
  | array item ih =>
      cases a with
      | any => rfl
      | array a =>
          cases b with
          | any => rfl
          | array b =>
              have hitems : a.compatible b = true := ih ht ha hb
              exact hitems
          | number | string | bool | object => cases hb
      | number | string | bool | object => cases ha
  | number | string | bool | object => cases a <;> cases b <;> simp_all [compatible]

/-- Types that are not definite are arrays in arrays, with `any` innermost. -/
theorem compatible_of_not_isDefinite {a b : Ty} (ha : a.isDefinite = false)
    (hb : b.isDefinite = false) : a.compatible b = true := by
  induction a generalizing b with
  | any => rfl
  | array item ih =>
      cases b with
      | any => rfl
      | array other => exact ih ha hb
      | number | string | bool | object => cases hb
  | number | string | bool | object => cases ha

end Ty

/-! ## Types that match one of them -/

/-- Each of the types but the first one with a property is compatible with that one. -/
def MatchFirst (p : Ty → Bool) (types : List Ty) : Prop :=
  ∀ before first after, types = before ++ first :: after → (∀ t ∈ before, p t = false) →
    p first = true → ∀ t ∈ before ++ after, first.compatible t = true

/-- All the types are compatible with each other. -/
def AllCompatible (types : List Ty) : Prop := types.Pairwise fun a b => a.compatible b = true

section MatchFirst

variable {p : Ty → Bool} {types : List Ty}

/-- The first type with a property is the only one of which the types before it lack it. -/
theorem split_unique {before before' after after' : List Ty} {first first' : Ty}
    (h : before ++ first :: after = before' ++ first' :: after')
    (hbefore : ∀ t ∈ before, p t = false) (hfirst : p first = true)
    (hbefore' : ∀ t ∈ before', p t = false) (hfirst' : p first' = true) :
    before = before' ∧ first = first' ∧ after = after' := by
  have htake : ∀ (run rest : List Ty) (t : Ty), (∀ u ∈ run, p u = false) → p t = true →
      (run ++ t :: rest).takeWhile (fun u => !p u) = run := by
    intro run rest t hrun ht
    rw [List.takeWhile_append_of_pos fun u hu => by simp [hrun u hu]]
    simp [ht]
  obtain rfl : before = before' := by
    rw [← htake before after first hbefore hfirst, h, htake before' after' first' hbefore' hfirst']
  obtain ⟨hhead, htail⟩ := List.cons.inj (List.append_cancel_left h)
  exact ⟨rfl, hhead, htail⟩

theorem matchFirst_split {before after : List Ty} {first : Ty}
    (hbefore : ∀ t ∈ before, p t = false) (hfirst : p first = true) :
    MatchFirst p (before ++ first :: after)
      ↔ ∀ t ∈ before ++ after, first.compatible t = true := by
  constructor
  · intro h
    exact h before first after rfl hbefore hfirst
  · intro h before' first' after' heq hbefore' hfirst'
    obtain ⟨rfl, rfl, rfl⟩ := split_unique heq hbefore hfirst hbefore' hfirst'
    exact h

theorem matchFirst_of_none (h : ∀ t ∈ types, p t = false) : MatchFirst p types := by
  rintro before first after rfl - hfirst
  rw [h first (by simp)] at hfirst
  cases hfirst

/-- There is a first type with a property, or none. -/
theorem exists_first (p : Ty → Bool) (types : List Ty) :
    (∀ t ∈ types, p t = false) ∨ ∃ before first after, types = before ++ first :: after
      ∧ (∀ t ∈ before, p t = false) ∧ p first = true := by
  cases h : types.find? p with
  | none => exact .inl fun t ht => by simpa using List.find?_eq_none.1 h t ht
  | some first =>
      obtain ⟨hfirst, before, after, heq, hbefore⟩ := List.find?_eq_some_iff_append.1 h
      exact .inr ⟨before, first, after, heq, fun t ht => by simpa using hbefore t ht, hfirst⟩

theorem matchFirst_cons_of_pos {t : Ty} (h : p t = true) :
    MatchFirst p (t :: types) ↔ ∀ u ∈ types, t.compatible u = true := by
  have hbefore : ∀ u ∈ ([] : List Ty), p u = false := by simp
  exact matchFirst_split hbefore h

/-- A type `any` before the others is compatible with all of them. -/
theorem matchFirst_cons_any : MatchFirst Ty.isKnown (.any :: types) ↔ MatchFirst Ty.isKnown types := by
  rcases exists_first Ty.isKnown types with hnone | ⟨before, first, after, rfl, hbefore, hfirst⟩
  · refine iff_of_true (matchFirst_of_none ?_) (matchFirst_of_none hnone)
    exact List.forall_mem_cons.2 ⟨rfl, hnone⟩
  · rw [← List.cons_append, matchFirst_split (List.forall_mem_cons.2 ⟨rfl, hbefore⟩) hfirst,
      matchFirst_split hbefore hfirst, List.cons_append, List.forall_mem_cons]
    exact and_iff_right (Ty.compatible_any first)

/-- Types are compatible with each other exactly if they are compatible with the first one that is
definite. -/
theorem allCompatible_iff : AllCompatible types ↔ MatchFirst Ty.isDefinite types := by
  constructor
  · rintro h before first after rfl - -
    obtain ⟨-, hrest, hacross⟩ := List.pairwise_append.1 h
    intro t ht
    rcases List.mem_append.1 ht with ht | ht
    · exact Ty.compatible_symm (hacross t ht first List.mem_cons_self)
    · exact (List.pairwise_cons.1 hrest).1 t ht
  · intro h
    rcases exists_first Ty.isDefinite types with hnone | ⟨before, first, after, rfl, hbefore, hfirst⟩
    · exact List.pairwise_of_forall_mem_list fun a ha b hb =>
        Ty.compatible_of_not_isDefinite (hnone a ha) (hnone b hb)
    · have hall := (matchFirst_split hbefore hfirst).1 h
      have hleft : ∀ t ∈ before, first.compatible t = true :=
        fun t ht => hall t (List.mem_append_left _ ht)
      have hright : ∀ t ∈ after, first.compatible t = true :=
        fun t ht => hall t (List.mem_append_right _ ht)
      -- Any two of the others are compatible through the definite one.
      refine List.pairwise_append.2 ⟨?_, List.pairwise_cons.2 ⟨hright, ?_⟩, ?_⟩
      · exact List.pairwise_of_forall_mem_list fun a ha b hb =>
          Ty.compatible_of_not_isDefinite (hbefore a ha) (hbefore b hb)
      · exact List.pairwise_of_forall_mem_list fun a ha b hb =>
          Ty.compatible_of_isDefinite hfirst (hright a ha) (hright b hb)
      · intro a ha b hb
        rcases List.mem_cons.1 hb with rfl | hb
        · exact Ty.compatible_symm (hleft a ha)
        · exact Ty.compatible_of_isDefinite hfirst (hleft a ha) (hright b hb)

/-- The first of the types that is known; `any` if there is none. -/
def firstKnown : List Ty → Ty
  | [] => .any
  | t :: ts => if t = .any then firstKnown ts else t

@[simp] theorem firstKnown_cons_any : firstKnown (.any :: types) = firstKnown types := rfl

theorem firstKnown_singleton {t : Ty} : firstKnown [t] = t := by
  by_cases h : t = .any
  · rw [h]
    rfl
  · simp [firstKnown, h]

/-- The first two types are as good as the first of the two that is known. -/
theorem firstKnown_cons_cons {t u : Ty} :
    firstKnown (t :: u :: types) = firstKnown ((if t = .any then u else t) :: types) := by
  by_cases h : t = .any
  · rw [h, firstKnown_cons_any, if_pos rfl]
  · simp [firstKnown, h]

theorem matchFirst_singleton {t : Ty} : MatchFirst p [t] := by
  cases h : p t with
  | true => exact (matchFirst_cons_of_pos h).2 (by simp)
  | false => exact matchFirst_of_none (by simpa using h)

theorem matchFirst_cons_cons {t u : Ty} :
    MatchFirst Ty.isKnown (t :: u :: types) ↔ t.compatible u = true
      ∧ MatchFirst Ty.isKnown ((if t = .any then u else t) :: types) := by
  by_cases h : t = .any
  · rw [h, matchFirst_cons_any, if_pos rfl]
    exact (and_iff_right rfl).symm
  · have hknown : t.isKnown = true := by simpa [Ty.isKnown] using h
    rw [if_neg h, matchFirst_cons_of_pos hknown, matchFirst_cons_of_pos hknown,
      List.forall_mem_cons]

/-- The first known type is the first definite one if it is definite itself. -/
theorem allCompatible_of_firstKnown (h : MatchFirst Ty.isKnown types)
    (hdefinite : (firstKnown types).isDefinite = true) : AllCompatible types := by
  induction types with
  | nil => exact .nil
  | cons t ts ih =>
      by_cases ht : t = .any
      · rw [ht, matchFirst_cons_any] at h
        rw [ht, firstKnown_cons_any] at hdefinite
        rw [ht]
        exact List.pairwise_cons.2 ⟨fun _ _ => rfl, ih h hdefinite⟩
      · have hknown : t.isKnown = true := by simpa [Ty.isKnown] using ht
        simp only [firstKnown, if_neg ht] at hdefinite
        refine allCompatible_iff.2 ((matchFirst_cons_of_pos hdefinite).2 ?_)
        exact (matchFirst_cons_of_pos hknown).1 h

/-- The order of the types does not matter. -/
theorem AllCompatible.perm {types' : List Ty} (h : AllCompatible types) (hperm : types.Perm types') :
    AllCompatible types' :=
  (hperm.pairwise_iff Ty.compatible_symm).1 h

/-- Types that are compatible with each other match the first one with any property. -/
theorem AllCompatible.matchFirst (h : AllCompatible types) : MatchFirst p types := by
  rintro before first after rfl - -
  intro t ht
  have hfront : AllCompatible (first :: (before ++ after)) := h.perm List.perm_middle
  exact (List.pairwise_cons.1 hfront).1 t ht

end MatchFirst

/-! ## What the checker accepts -/

/-- The types of expressions. -/
def HaveTypes (s : Scope) : List Expr → List Ty → Prop :=
  List.Forall₂ fun e t => infer s e = .ok t

section Infer

variable {s : Scope} {items : List Expr} {types : List Ty}

theorem HaveTypes.unique {types' : List Ty} (h : HaveTypes s items types)
    (h' : HaveTypes s items types') : types = types' := by
  induction h generalizing types' with
  | nil =>
      cases h'
      rfl
  | cons he _ ih =>
      cases h' with
      | cons he' hes => rw [Except.ok.inj (he.symm.trans he'), ih hes]

/-- The first item is compared with the type of those before it, and the others with that type, or
with the type of the first item if there was none yet. -/
theorem inferItems_cons_eq_ok_iff {before t : Ty} {e : Expr} {es : List Expr} :
    inferItems s before (e :: es) = .ok t ↔ ∃ item, infer s e = .ok item
      ∧ before.compatible item = true
      ∧ inferItems s (if before = .any then item else before) es = .ok t := by
  rw [inferItems]
  cases infer s e with
  | error error => simp
  | ok item =>
      cases hcompatible : before.compatible item with
      | false => simp [hcompatible]
      | true => simp [hcompatible]

/-- The items of an array are compared with the first one whose type is known. -/
theorem inferItems_eq_ok_iff {before t : Ty} :
    inferItems s before items = .ok t ↔ ∃ types, HaveTypes s items types
      ∧ MatchFirst Ty.isKnown (before :: types) ∧ firstKnown (before :: types) = t := by
  induction items generalizing before with
  | nil =>
      constructor
      · intro h
        cases h
        exact ⟨[], .nil, matchFirst_singleton, firstKnown_singleton⟩
      · rintro ⟨types, htypes, -, rfl⟩
        cases htypes
        rw [firstKnown_singleton]
        rfl
  | cons e es ih =>
      rw [inferItems_cons_eq_ok_iff]
      constructor
      · rintro ⟨item, he, hcompatible, hes⟩
        obtain ⟨types, htypes, hmatch, hfirst⟩ := ih.1 hes
        refine ⟨item :: types, .cons he htypes, matchFirst_cons_cons.2 ⟨hcompatible, hmatch⟩, ?_⟩
        rw [firstKnown_cons_cons, hfirst]
      · rintro ⟨types, htypes, hmatch, hfirst⟩
        cases htypes with
        | @cons _ item _ types he htypes =>
            obtain ⟨hcompatible, hrest⟩ := matchFirst_cons_cons.1 hmatch
            rw [firstKnown_cons_cons] at hfirst
            exact ⟨item, he, hcompatible, ih.2 ⟨types, htypes, hrest, hfirst⟩⟩

/-- An array is accepted exactly if its items match the first one whose type is known, and this is
the type of its items. -/
theorem infer_array_eq_ok_iff {t : Ty} :
    infer s (.array items) = .ok t ↔ ∃ types, HaveTypes s items types
      ∧ MatchFirst Ty.isKnown types ∧ .array (firstKnown types) = t := by
  have hitems : infer s (.array items) = .ok t
      ↔ ∃ item, inferItems s .any items = .ok item ∧ .array item = t := by
    rw [infer]
    cases inferItems s .any items <;> simp
  rw [hitems]
  simp only [inferItems_eq_ok_iff, matchFirst_cons_any, firstKnown_cons_any]
  constructor
  · rintro ⟨item, ⟨types, htypes, hmatch, rfl⟩, rfl⟩
    exact ⟨types, htypes, hmatch, rfl⟩
  · rintro ⟨types, htypes, hmatch, rfl⟩
    exact ⟨_, ⟨types, htypes, hmatch, rfl⟩, rfl⟩

/-- Expressions in another order have their types in that order. -/
theorem HaveTypes.perm {order : List Expr} (h : HaveTypes s items types)
    (hperm : order.Perm items) : ∃ types', HaveTypes s order types' ∧ types'.Perm types :=
  List.perm_comp_forall₂ hperm h

/-- Types in another order are those of the expressions in that order. -/
theorem HaveTypes.perm_types {types' : List Ty} (h : HaveTypes s items types)
    (hperm : types.Perm types') : ∃ order, order.Perm items ∧ HaveTypes s order types' := by
  have hcomp : Relation.Comp (List.Forall₂ fun e t => infer s e = .ok t) List.Perm items types' :=
    ⟨types, h, hperm⟩
  rw [List.forall₂_comp_perm_eq_perm_comp_forall₂] at hcomp
  obtain ⟨order, horder, htypes⟩ := hcomp
  exact ⟨order, horder.symm, htypes⟩

/-- Items fit each other exactly if they are accepted in every order. -/
theorem HaveTypes.allCompatible_iff_orders (h : HaveTypes s items types) :
    AllCompatible types
      ↔ ∀ order : List Expr, order.Perm items → ∃ t, infer s (.array order) = .ok t := by
  constructor
  · intro hall order horder
    obtain ⟨types', htypes', hperm⟩ := h.perm horder
    have hmatch : MatchFirst Ty.isKnown types' := (hall.perm hperm.symm).matchFirst
    exact ⟨_, infer_array_eq_ok_iff.2 ⟨types', htypes', hmatch, rfl⟩⟩
  · intro horders
    refine List.pairwise_iff_forall_sublist.2 fun {a b} hsublist => ?_
    -- An order in which the two types come first.
    obtain ⟨others, hothers⟩ := hsublist.exists_perm_append
    obtain ⟨order, horder, htypes⟩ := h.perm_types hothers
    obtain ⟨t, ht⟩ := horders order horder
    obtain ⟨types', htypes', hmatch, -⟩ := infer_array_eq_ok_iff.1 ht
    obtain rfl := htypes.unique htypes'
    cases hknown : a.isKnown with
    | true => exact (matchFirst_cons_of_pos hknown).1 hmatch b (by simp)
    | false =>
        rw [Ty.isKnown_eq_false_iff.1 hknown]
        rfl

/-- **When the items of an array fit each other.** The checker accepts an array exactly if its items
have types that match the first one that is known. The types are all compatible with each other
exactly if they match the first one that is definite, so certainly if the type that the array is
given is definite; and this is so exactly if the checker accepts the items in every order. -/
theorem arrayItems_compatible_iff (s : Scope) (items : List Expr) :
    ((∃ t, infer s (.array items) = .ok t)
        ↔ ∃ types, HaveTypes s items types ∧ MatchFirst Ty.isKnown types)
      ∧ ∀ types, HaveTypes s items types →
        (AllCompatible types ↔ MatchFirst Ty.isDefinite types)
          ∧ (∀ t, infer s (.array items) = .ok t → t.isDefinite = true → AllCompatible types)
          ∧ (AllCompatible types
            ↔ ∀ order : List Expr, order.Perm items → ∃ t, infer s (.array order) = .ok t) := by
  refine ⟨?_, fun types htypes => ⟨allCompatible_iff, ?_, htypes.allCompatible_iff_orders⟩⟩
  · simp only [infer_array_eq_ok_iff]
    constructor
    · rintro ⟨t, types, htypes, hmatch, -⟩
      exact ⟨types, htypes, hmatch⟩
    · rintro ⟨types, htypes, hmatch⟩
      exact ⟨_, types, htypes, hmatch, rfl⟩
  · intro t ht hdefinite
    obtain ⟨types', htypes', hmatch, rfl⟩ := infer_array_eq_ok_iff.1 ht
    obtain rfl := htypes.unique htypes'
    exact allCompatible_of_firstKnown hmatch hdefinite

end Infer

/-- An array with `nil`, with an array of strings and with an empty array. -/
theorem arrayItems_compatible_iff_nil : ∃ items : List Expr,
    items = [.literal .nil, .array [.literal (.string "a")], .array []]
    ∧ HaveTypes .empty items [.any, .array .string, .array .any]
    ∧ infer .empty (.array items) = .ok (.array (.array .string))
    ∧ AllCompatible [.any, .array .string, .array .any]
    ∧ ∀ order : List Expr, order.Perm items → ∃ t, infer .empty (.array order) = .ok t := by
  have htypes : HaveTypes .empty
      [.literal .nil, .array [.literal (.string "a")], .array []]
      [.any, .array .string, .array .any] :=
    .cons rfl (.cons rfl (.cons rfl .nil))
  obtain ⟨-, hlaws⟩ := arrayItems_compatible_iff .empty
    [.literal .nil, .array [.literal (.string "a")], .array []]
  obtain ⟨-, hdefinite, horders⟩ := hlaws _ htypes
  have hall := hdefinite (.array (.array .string)) rfl rfl
  exact ⟨_, rfl, htypes, rfl, hall, horders.1 hall⟩

/-- **Not every accepted array is of one type.** After an empty array, the items of the other arrays
are not compared: an array of numbers and an array of strings stand in one array. With the array of
numbers in front the same items are refused. -/
theorem mixedArray_accepted : ∃ empty numbers strings : Expr,
    empty = .array [] ∧ numbers = .array [.literal (.number 1)]
    ∧ strings = .array [.literal (.string "a")]
    ∧ HaveTypes .empty [empty, numbers, strings] [.array .any, .array .number, .array .string]
    ∧ infer .empty (.array [empty, numbers, strings]) = .ok (.array (.array .any))
    ∧ ¬ AllCompatible [.array .any, .array .number, .array .string]
    ∧ infer .empty (.array [numbers, empty, strings])
      = .error (.type (.mixedArray (.array .number) (.array .string))) := by
  refine ⟨_, _, _, rfl, rfl, rfl, .cons rfl (.cons rfl (.cons rfl .nil)), rfl, ?_, rfl⟩
  intro hall
  have hmixed : (Ty.array .number).compatible (.array .string) = true :=
    (List.pairwise_cons.1 (List.pairwise_cons.1 hall).2).1 _ List.mem_cons_self
  cases hmixed

end LabelRules
