/-
# Commands, fragments and programs as JSON
-/
import Gls.Json.Basic
import Gls.Program

namespace Gls

/-- Writes a span. -/
def Span.toJson (s : Span) : Json :=
  .ofMembers [("start", .ofNat s.start.toNat), ("end", .ofNat s.stop.toNat)]

mutual

/-- Writes an argument. -/
def Argument.toJson : Argument → Json
  | .text t => .ofMembers [("Text", .ofString t)]
  | .command name args =>
    .ofMembers [("Command",
      .ofMembers [("name", .ofString name), ("args", .arr (Argument.allJson args))])]

/-- Writes arguments. -/
def Argument.allJson : List Argument → List Json
  | [] => []
  | a :: as => a.toJson :: Argument.allJson as

end

/-- Writes a command. -/
def Command.toJson (c : Command) : Json :=
  .ofMembers [("name", .ofString c.name), ("args", .arr (Argument.allJson c.args))]

/-- Writes a line. -/
def Line.toJson : Line → Json
  | .command c => .ofMembers [("Command", c.toJson)]
  | .literal text => .ofMembers [("Literal", .ofString text)]

/-- Writes a complaint. -/
def Complaint.toJson (c : Complaint) : Json :=
  .ofMembers [("range", c.range.toJson), ("reason", .ofString c.reason)]

mutual

/-- Writes an output. -/
def Output.toJson : Output → Json
  | .command c => .ofMembers [("Command", c.toJson)]
  | .literal text => .ofMembers [("Literal", .ofString text)]
  | .transformation range output =>
    .ofMembers [("Transformation",
      .ofMembers [("range", range.toJson), ("output", .arr (Output.allJson output))])]
  | .complaint c => .ofMembers [("Complaint", c.toJson)]

/-- Writes outputs. -/
def Output.allJson : List Output → List Json
  | [] => []
  | o :: os => o.toJson :: Output.allJson os

end

/-- Writes a fragment. -/
def Fragment.toJson (f : Fragment) : Json := f.toOutput.toJson

/-- Writes a program. -/
def Program.toJson (p : Program) : Json :=
  .ofMembers [("lines", .ofList Line.toJson p.lines),
    ("complaints", .ofList Complaint.toJson p.complaints)]

end Gls
