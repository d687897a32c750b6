/-
# The program
-/
import Gls.Cli.Run

namespace Gls.Main

/-- All files below a directory, whose path is written as given. -/
partial def filesBelow (path : Path) : IO (List Path) := do
  let mut found := #[]
  for entry in ← ((← IO.currentDir) / path.text).readDir do
    let child := path.join entry.fileName
    if ← entry.path.isDir then found := found ++ (← filesBelow child)
    else found := found.push child
  return found.toList

/-- Whether an operation was carried out. -/
def attempt (act : IO Unit) : IO Bool := do
  try
    act
    return true
  catch _ => return false

/-- The result of an operation that may be refused. -/
def attempt? {α : Type} (act : IO α) : IO (Option α) := do
  try return some (← act)
  catch _ => return none

instance : MonadFiles IO where
  isDirectory p := do ((← IO.currentDir) / p.text).isDir
  isFile p := do
    let kind ← attempt? do return (← ((← IO.currentDir) / p.text).metadata).type
    return kind == some .file
  readText p := attempt? (IO.FS.readFile p.text)
  filesBelow p := attempt? (filesBelow p)
  createDirectories p := attempt (IO.FS.createDirAll p.text)
  writeText p text := attempt (IO.FS.writeFile p.text text)

end Gls.Main

/-- Runs the command line, prints what there is to print, and exits with the code of the run. -/
def main (args : List String) : IO UInt32 := do
  let stdout ← IO.getStdout
  let stderr ← IO.getStderr
  let cwd : Gls.Path := ⟨(← IO.currentDir).toString⟩
  let outcome ← Gls.Cli.run args cwd ⟨← stdout.isTty, ← stderr.isTty⟩
  stdout.putStr outcome.stdout
  stderr.putStr outcome.stderr
  return outcome.code
