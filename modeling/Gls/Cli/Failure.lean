/-
# Why a run fails
-/
import Gls.Catalog
import Gls.Cli.Path
import Gls.Traversal.Basic

namespace Gls

/-- What stopped a run, and at which path. -/
inductive Failure where
  | configUnreadable (path : Path)
  | configInvalid (path : Path)
  | catalogUnreadable (path : Path)
  | catalogInvalid (path : Path) (error : CatalogError)
  | inputNotFound (path : Path)
  | directoryUnreadable (path : Path)
  | documentUnreadable (path : Path)
  | documentInvalid (path : Path)
  | documentNotTransformed (path : Path) (error : TransformError)
  | directoryNotCreated (path : Path)
  | outputNotWritten (path : Path)

/-- What lies behind a failure. -/
inductive Cause where
  /-- The system refused. -/
  | system
  /-- A text is not the JSON it should be. -/
  | json
  /-- A catalog could not be read. -/
  | catalog
  /-- A message of the library. -/
  | reason (message : String)

/-- How a cause is told. -/
def Cause.message : Cause → String
  | .system => "the system refused the operation"
  | .json => "the text is not of the expected form"
  | .catalog => "the command catalog cannot be read"
  | .reason message => message

namespace Failure

/-- What a failure says first. -/
def message : Failure → String
  | configUnreadable path => "failed to read config " ++ path.text
  | configInvalid path => "invalid config " ++ path.text
  | catalogUnreadable path => "failed to read command catalog " ++ path.text
  | catalogInvalid path _ => "invalid command catalog " ++ path.text
  | inputNotFound path => "input not found: " ++ path.text
  | directoryUnreadable path => "failed to walk " ++ path.text
  | documentUnreadable path => "failed to read " ++ path.text
  | documentInvalid path => "invalid document " ++ path.text
  | documentNotTransformed path _ => "failed to transform " ++ path.text
  | directoryNotCreated path => "failed to create " ++ path.text
  | outputNotWritten path => "failed to write " ++ path.text

/-- The causes of a failure, the nearest first. -/
def causes : Failure → List Cause
  | configUnreadable _ | catalogUnreadable _ | directoryUnreadable _ | documentUnreadable _
  | directoryNotCreated _ | outputNotWritten _ => [.system]
  | configInvalid _ | documentInvalid _ => [.json]
  | catalogInvalid _ .malformed => [.catalog, .json]
  | catalogInvalid _ e => [.reason e.message]
  | inputNotFound _ => []
  | documentNotTransformed _ (.indent e) =>
    [.reason (TransformError.indent e).message, .reason e.message]
  | documentNotTransformed _ e => [.reason e.message]

/-- The causes as lines, numbered if there are several. -/
def causeLines (f : Failure) : List String :=
  match f.causes with
  | [c] => ["    " ++ c.message]
  | cs => cs.zipIdx.map fun (c, n) => "    " ++ toString n ++ ": " ++ c.message

/-- The whole account of a failure. -/
def report (f : Failure) : String :=
  let lines := if f.causes.isEmpty then [] else "" :: "Caused by:" :: f.causeLines
  "\n".intercalate (("Error: " ++ f.message) :: lines) ++ "\n"

end Failure

end Gls
