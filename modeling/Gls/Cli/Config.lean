/-
# Configuration

A run is configured by a file and by its arguments; what the arguments say wins.  The file is the
one that the arguments name, or else the one beside the first input, or else the one in the working
directory.
-/
import Gls.Cli.Arguments
import Gls.Cli.Failure
import Gls.Cli.Files
import Gls.Options

namespace Gls

/-- What a configuration file says. -/
structure ConfigFile where
  baseDirectory : Option String := none
  outputNamespace : Option String := none
  skipComments : Option Bool := none
  indentUnit : Option String := none
  /-- A catalog to use in place of the built-in one, as seen from the configuration file. -/
  commandCatalog : Option String := none
  failOnComplaints : Option Bool := none
deriving DecidableEq

namespace ConfigFile

/-- The name of a configuration file. -/
def defaultName : String := "tsgls.json"

/-- Reads a configuration.  Everything may be left out, and nothing else may be there. -/
def ofJson? (v : Json) : Option ConfigFile := do
  let r ← Json.Record.ofJson? ["baseDirectory", "outputNamespace", "skipComments", "indentUnit",
    "commandCatalog", "failOnComplaints"] true v
  return {
    baseDirectory := ← r.optional? "baseDirectory" Json.asString?
    outputNamespace := ← r.optional? "outputNamespace" Json.asString?
    skipComments := ← r.optional? "skipComments" Json.asBool?
    indentUnit := ← r.optional? "indentUnit" Json.asString?
    commandCatalog := ← r.optional? "commandCatalog" Json.asString?
    failOnComplaints := ← r.optional? "failOnComplaints" Json.asBool? }

/-- Reads the text of a configuration file. -/
def read? (text : String) : Option ConfigFile := (Json.parse? text).bind ofJson?

end ConfigFile

/-- What a run goes by. -/
structure Settings where
  options : Options := {}
  catalog : Catalog := .builtin
  failOnComplaints : Bool := false

namespace Settings

/-- The options of a file and of arguments. -/
def optionsOf (file : ConfigFile) (args : Arguments) : Options :=
  let d : Options := {}
  { baseDirectory := file.baseDirectory.getD d.baseDirectory
    outputNamespace := file.outputNamespace.getD d.outputNamespace
    skipComments := !args.includeComments && file.skipComments.getD d.skipComments
    indentUnit :=
      match args.indent with
      | some width => String.ofList (List.replicate width ' ')
      | none => file.indentUnit.getD d.indentUnit }

variable {m : Type → Type} [Monad m] [MonadFiles m]

/-- The configuration file beside an input: in it, or in the directory it is in. -/
def beside (input : Path) : m (Option Path) := do
  if ← MonadFiles.isDirectory input then return some (input.join ConfigFile.defaultName)
  else return input.parent?.map (·.join ConfigFile.defaultName)

/-- The first of several paths at which there is a file. -/
def firstFile : List Path → m (Option Path)
  | [] => return none
  | p :: ps => do
    if ← MonadFiles.isFile p then return some p
    else firstFile ps

/-- The configuration file of a run in a working directory.  One that is named need not be
there. -/
def findConfig (args : Arguments) (cwd : Path) : m (Option Path) := do
  match args.config with
  | some path => return some (cwd.join path)
  | none =>
    let besideInput ← match args.inputs with
      | [] => pure none
      | input :: _ => beside (cwd.join input)
    firstFile (besideInput.toList ++ [cwd.join ConfigFile.defaultName])

/-- Reads the catalog at a path. -/
def loadCatalog (path : Path) : ExceptT Failure m Catalog := do
  let some text ← MonadFiles.readText path | throw (.catalogUnreadable path)
  match Catalog.read text with
  | .ok catalog => return catalog
  | .error e => throw (.catalogInvalid path e)

/-- Reads the configuration at a path. -/
def loadConfig (path : Path) : ExceptT Failure m ConfigFile := do
  let some text ← MonadFiles.readText path | throw (.configUnreadable path)
  let some file := ConfigFile.read? text | throw (.configInvalid path)
  return file

/-- The settings of a run in a working directory. -/
def resolve (args : Arguments) (cwd : Path) : ExceptT Failure m Settings := do
  let (file, directory) ← match ← findConfig args cwd with
    | some path => pure (← loadConfig path, path.parent?.getD cwd)
    | none => pure ({}, cwd)
  let catalog ← match file.commandCatalog with
    | some path => loadCatalog (directory.join path)
    | none => pure .builtin
  return {
    options := optionsOf file args
    catalog := catalog
    failOnComplaints := args.failOnComplaints || file.failOnComplaints.getD false }

end Settings

end Gls
