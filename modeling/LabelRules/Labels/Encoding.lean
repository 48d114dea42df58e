import LabelRules.Labels
import LabelRules.Tree

set_option autoImplicit false

/-! # Labels as data trees

Labels are written as a map with the entries `connectivity`, `provider` and `boundary`
(`Labels.toTree`). A map is read as labels if it has these three; other entries are passed over
(`ofTree?_toTree`).
-/

namespace LabelRules.Labels

/-- Labels as a map. -/
def toTree (labels : Labels) : Tree :=
  .map [("connectivity", .text labels.connectivity), ("provider", .text labels.provider),
    ("boundary", .text labels.boundary.name)]

/-- Reads labels from a map. -/
def ofTree? : Tree → Option Labels
  | .map entries => do
    let connectivity ← (Tree.lookup "connectivity" entries).bind Tree.asText?
    let provider ← (Tree.lookup "provider" entries).bind Tree.asText?
    let boundary ← (Tree.lookup "boundary" entries).bind Tree.asName? |>.bind Boundary.ofName?
    return ⟨connectivity, provider, boundary⟩
  | _ => none

theorem ofTree?_toTree (labels : Labels) : ofTree? labels.toTree = some labels := by
  obtain ⟨c, p, b⟩ := labels
  simp [toTree, ofTree?, Tree.lookup, Tree.asText?, Tree.asName?, Boundary.ofName?_name]

end LabelRules.Labels
