import LabelRules.Value

set_option autoImplicit false

/-! # What is labelled

An exporter is a device that emits flow records; an interface is one of its ports. Rules see them
as the variables `Exporter` and `Interface`, each with a few named fields (`Exporter.field?`,
`Interface.field?`).
-/

namespace LabelRules

/-- A device that emits flow records. -/
structure Exporter where
  ip : String := ""
  name : String := ""
  deriving DecidableEq, Repr, Inhabited

/-- One interface of an exporter; its speed is in megabits per second. -/
structure Interface where
  name : String := ""
  description : String := ""
  speed : UInt32 := 0
  deriving DecidableEq, Repr, Inhabited

/-- The value of the field `Exporter.name`. -/
def Exporter.field? (exporter : Exporter) (name : String) : Option Value :=
  if name = "IP" then some (.string exporter.ip)
  else if name = "Name" then some (.string exporter.name)
  else none

/-- The value of the field `Interface.name`; the speed is a number without rounding. -/
def Interface.field? (interface : Interface) (name : String) : Option Value :=
  if name = "Name" then some (.string interface.name)
  else if name = "Description" then some (.string interface.description)
  else if name = "Speed" then some (.number interface.speed.toFloat)
  else none

/-- What a rule is about: an exporter, or an interface of an exporter. -/
inductive Kind where
  | exporter
  | interface
  deriving DecidableEq, Repr, Inhabited

def Kind.name : Kind → String
  | .exporter => "exporter"
  | .interface => "interface"

end LabelRules
