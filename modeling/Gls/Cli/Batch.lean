/-
# Batches of documents

Documents are collected from files and directories, transformed one by one in the order of their
paths, and their outputs are written to one file each.
-/
import Gls.Cli.Config
import Gls.Transform

namespace Gls

/-- A document that has been transformed. -/
structure DocumentResult where
  /-- Where the document was read. -/
  path : Path
  /-- The name of the source file, as the document records it. -/
  fileName : String
  sourceText : String := ""
  output : TransformOutput := {}

namespace DocumentResult

/-- How the names of document files end. -/
def documentSuffix : String := ".tsgls.json"

/-- The name that reports use: the recorded one, or the path if there is none. -/
def displayName (r : DocumentResult) : String :=
  if r.fileName.isEmpty then r.path.text else r.fileName

/-- The output as text, which ends with a line break unless it is empty. -/
def rendered (r : DocumentResult) : String :=
  let text := "\n".intercalate r.output.lines
  if text.isEmpty then text else text ++ "\n"

/-- A file name without the ending of document files. -/
def dropDocumentSuffix (name : List Char) : List Char :=
  let suffix := documentSuffix.toList
  if suffix.isSuffixOf name then name.take (name.length - suffix.length) else name

/-- The name that the output file is named after. -/
def outputName (r : DocumentResult) : String :=
  if r.fileName.isEmpty then
    String.ofList (dropDocumentSuffix (r.path.fileName?.getD "").toList)
  else r.fileName

/-- Where the output goes under a directory. -/
def outputFile (r : DocumentResult) (options : Options) (outDir : Path) : Path :=
  outDir.join (options.outputPath r.outputName ++ ".gls")

end DocumentResult

namespace Batch

variable {m : Type → Type} [Monad m] [MonadFiles m]

/-- A path whose last name ends as the names of document files do. -/
def isDocument (p : Path) : Bool :=
  match p.fileName? with
  | some name => DocumentResult.documentSuffix.toList.isSuffixOf name.toList
  | none => false

/-- The document files that an input stands for: itself, or all below it. -/
def expand (input : Path) : ExceptT Failure m (List Path) := do
  if ← MonadFiles.isDirectory input then
    let some files ← MonadFiles.filesBelow input | throw (.directoryUnreadable input)
    return files.filter isDocument
  else if ← MonadFiles.isFile input then return [input]
  else throw (.inputNotFound input)

/-- The document files that inputs stand for, in order and each once. -/
def collect (inputs : List String) (cwd : Path) : ExceptT Failure m (List Path) := do
  let files ← inputs.mapM fun input => expand (cwd.join input)
  return Path.sorted files.flatten

/-- Reads and transforms a document. -/
def transformFile (settings : Settings) (path : Path) : ExceptT Failure m DocumentResult := do
  let some text ← MonadFiles.readText path | throw (.documentUnreadable path)
  let some d := Document.read? text | throw (.documentInvalid path)
  match d.transform settings.catalog settings.options with
  | .error e => throw (.documentNotTransformed path e)
  | .ok output => return ⟨path, d.fileName, d.arena.sourceText, output⟩

/-- Reads and transforms documents, in order. -/
def transformAll (settings : Settings) (paths : List Path) :
    ExceptT Failure m (List DocumentResult) :=
  paths.mapM (transformFile settings)

/-- Writes the output of a document under a directory, and tells where. -/
def writeOutput (options : Options) (outDir : Path) (r : DocumentResult) :
    ExceptT Failure m Path := do
  let path := r.outputFile options outDir
  if let some parent := path.parent? then
    if !(← MonadFiles.createDirectories parent) then throw (.directoryNotCreated parent)
  if !(← MonadFiles.writeText path r.rendered) then throw (.outputNotWritten path)
  return path

/-- Writes the outputs of documents, in order. -/
def writeOutputs (options : Options) (outDir : Path) (results : List DocumentResult) :
    ExceptT Failure m (List Path) :=
  results.mapM (writeOutput options outDir)

end Batch

end Gls
