/-
# Layouts of the log
-/
import Gls.Casing

namespace Gls

/-- How the log is laid out. -/
inductive LogFormat where
  /-- Flat lines. -/
  | text
  /-- Lines indented by depth. -/
  | tree
  /-- One JSON object a line. -/
  | json
deriving DecidableEq

/-- The layout with a name.  The case of letters does not matter, and what is no name means flat
lines. -/
def LogFormat.ofName (name : String) : LogFormat :=
  let name := Casing.lowerCase name
  if name = "tree" then .tree
  else if name = "json" then .json
  else .text

end Gls
