/-
# A whole run

From the words of a command line to what is printed and the code the program exits with.  Without
an output directory the transformed documents go to standard output and the report to standard
error; with one, the paths of the written files and the report both go to standard output.
-/
import Gls.Cli.Report

namespace Gls

/-- What a run prints, and its exit code. -/
structure RunResult where
  code : UInt32 := 0
  stdout : String := ""
  stderr : String := ""
deriving DecidableEq

/-- Which streams show colors. -/
structure Colors where
  stdout : Bool := false
  stderr : Bool := false

namespace Cli

/-- The name and version of the program. -/
def versionText : String := "tsgls 0.1.0\n"

/-- How the program is used. -/
def helpText : String := "\n".intercalate
  ["Transform type-checked syntax trees into GLS",
   "",
   "Usage: tsgls [OPTIONS] <INPUTS>...",
   "",
   "Options:",
   "  -o, --out-dir <OUT_DIR>   Write one file per document under this directory",
   "      --config <CONFIG>     Path to a configuration file",
   "      --include-comments    Emit source comments as comment lines",
   "      --indent <INDENT>     Indent output with this many spaces per level",
   "      --fail-on-complaints  Fail when a construct could not be transformed",
   "      --format <FORMAT>     Complaint report format: text or json",
   "  -h, --help                Print help",
   "  -V, --version             Print version"] ++ "\n"

/-- What is printed when there are no documents. -/
def noDocumentsText : String := "No " ++ DocumentResult.documentSuffix ++ " documents found.\n"

variable {m : Type → Type} [Monad m] [MonadFiles m]

/-- What is left of a run that breaks off in the middle of its report: what it had printed before,
and a code of its own. -/
def brokenOff (stdout : String) : RunResult :=
  { code := 101, stdout, stderr := "attempt to add with overflow\n" }

/-- Writes or prints transformed documents and reports their complaints. -/
def deliver (args : Arguments) (settings : Settings) (cwd : Path) (colors : Colors)
    (results : List DocumentResult) : ExceptT Failure m RunResult := do
  let failed := settings.failOnComplaints && results.any (!·.output.complaints.isEmpty)
  let code : UInt32 := if failed then 1 else 0
  match args.outDir with
  | some outDir =>
    let written ← Batch.writeOutputs settings.options (cwd.join outDir) results
    let paths := String.join (written.map (·.text ++ "\n"))
    match ComplaintReport.render? colors.stdout args.format results with
    | some report => return { code, stdout := paths ++ report }
    | none => return brokenOff paths
  | none =>
    let stdout := String.join (results.map DocumentResult.rendered)
    match ComplaintReport.render? colors.stderr args.format results with
    | some report => return { code, stdout, stderr := report }
    | none => return brokenOff stdout

/-- Does what arguments ask for. -/
def execute (args : Arguments) (cwd : Path) (colors : Colors) : ExceptT Failure m RunResult := do
  let settings ← Settings.resolve args cwd
  let paths ← Batch.collect args.inputs cwd
  if paths.isEmpty then return { stderr := noDocumentsText }
  deliver args settings cwd colors (← Batch.transformAll settings paths)

/-- What arguments come to that lead to no run. -/
def halted : Halt → RunResult
  | .help => { stdout := helpText }
  | .version => { stdout := versionText }
  | .refused e => { code := 2, stderr := "error: " ++ e.message ++ "\n" }

/-- Runs a command line in a working directory. -/
def run (words : List String) (cwd : Path) (colors : Colors) : m RunResult := do
  match Arguments.ofWords words with
  | .error h => return halted h
  | .ok args =>
    match ← (execute args cwd colors).run with
    | .ok outcome => return outcome
    | .error f => return { code := 1, stderr := f.report }

end Cli

end Gls
