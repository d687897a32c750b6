/-
# Fragments

What a node of the tree turns into: a transformation, which is a list of outputs for a range of
source text, or a complaint about a construct that has no counterpart.  Outputs are lines,
complaints, and transformations again.
-/
import Gls.Command
import Gls.Text.Span

namespace Gls

/-- A construct that could not be mapped, and why. -/
structure Complaint where
  range : Span
  reason : String
deriving DecidableEq

/-- A part of a transformation. -/
inductive Output where
  | command (command : Command)
  /-- A line that is taken over as it stands: a value where a statement is expected. -/
  | literal (text : String)
  | transformation (range : Span) (output : List Output)
  | complaint (complaint : Complaint)

/-- What a range of source text turns into. -/
structure Transformation where
  range : Span
  output : List Output

/-- What a node turns into. -/
inductive Fragment where
  | transformation (transformation : Transformation)
  | complaint (complaint : Complaint)

namespace Transformation

/-- A transformation that is one command. -/
def command (range : Span) (c : Command) : Transformation := ⟨range, [.command c]⟩

/-- A transformation that is one literal line. -/
def literal (range : Span) (text : String) : Transformation := ⟨range, [.literal text]⟩

end Transformation

namespace Fragment

/-- The fragment is a complaint. -/
def isComplaint : Fragment → Bool
  | .complaint _ => true
  | .transformation _ => false

/-- The fragment as a part of a transformation. -/
def toOutput : Fragment → Output
  | .transformation t => .transformation t.range t.output
  | .complaint c => .complaint c

end Fragment

end Gls
