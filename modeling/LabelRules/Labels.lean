set_option autoImplicit false

/-! # Labels of an interface

An interface is labelled with a connectivity, a provider and a boundary. Each label is set once:
the first value that is not the default stays, and a later one is not stored
(`setConnectivity_of_ne`, `setProvider_of_ne`, `setBoundary_of_ne`).
-/

namespace LabelRules

/-- Whether an interface faces the outside or the inside of the network. -/
inductive Boundary where
  | undefined
  | external
  | internal
  deriving DecidableEq, Repr, Inhabited

def Boundary.name : Boundary → String
  | .undefined => "undefined"
  | .external => "external"
  | .internal => "internal"

def Boundary.ofName? : String → Option Boundary
  | "undefined" => some .undefined
  | "external" => some .external
  | "internal" => some .internal
  | _ => none

theorem Boundary.ofName?_name (b : Boundary) : Boundary.ofName? b.name = some b := by
  cases b <;> rfl

/-- The labels of an interface; an empty text and `undefined` mean that the label is not set. -/
structure Labels where
  connectivity : String := ""
  provider : String := ""
  boundary : Boundary := .undefined
  deriving DecidableEq, Repr, Inhabited

namespace Labels

/-- No label is set. -/
def empty : Labels := {}

/-- Sets the connectivity unless it is set, and says whether the value was stored. -/
def setConnectivity (labels : Labels) (value : String) : Bool × Labels :=
  if labels.connectivity = "" then (true, { labels with connectivity := value })
  else (false, labels)

/-- Sets the provider unless it is set, and says whether the value was stored. -/
def setProvider (labels : Labels) (value : String) : Bool × Labels :=
  if labels.provider = "" then (true, { labels with provider := value })
  else (false, labels)

/-- Sets the boundary unless it is set, and says whether the value was stored. -/
def setBoundary (labels : Labels) (value : Boundary) : Bool × Labels :=
  if labels.boundary = .undefined then (true, { labels with boundary := value })
  else (false, labels)

def isEmpty (labels : Labels) : Bool :=
  labels.connectivity == "" && labels.provider == "" && labels.boundary == .undefined

/-- Every label is set. -/
def isComplete (labels : Labels) : Bool :=
  labels.connectivity != "" && labels.provider != "" && labels.boundary != .undefined

theorem setConnectivity_of_ne {labels : Labels} (h : labels.connectivity ≠ "") (value : String) :
    labels.setConnectivity value = (false, labels) := by
  simp [setConnectivity, h]

theorem setProvider_of_ne {labels : Labels} (h : labels.provider ≠ "") (value : String) :
    labels.setProvider value = (false, labels) := by
  simp [setProvider, h]

theorem setBoundary_of_ne {labels : Labels} (h : labels.boundary ≠ .undefined)
    (value : Boundary) : labels.setBoundary value = (false, labels) := by
  simp [setBoundary, h]

theorem isEmpty_iff {labels : Labels} : labels.isEmpty = true ↔ labels = empty := by
  obtain ⟨c, p, b⟩ := labels
  simp [isEmpty, empty, and_assoc]

end Labels

end LabelRules
