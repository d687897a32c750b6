/-
# Files and directories

What a run needs of a file system, as a class of monads, and a file system that is a value: a tree
of directories and of files that hold text.  Operations that a system may refuse say whether they
were carried out.
-/
import Gls.Cli.Path
import Gls.OrderedMap

namespace Gls

/-- Access to files. -/
class MonadFiles (m : Type → Type) where
  /-- There is a directory at the path. -/
  isDirectory : Path → m Bool
  /-- There is a file at the path. -/
  isFile : Path → m Bool
  /-- The text of the file at the path. -/
  readText : Path → m (Option String)
  /-- The paths of all files below a directory, in any order. -/
  filesBelow : Path → m (Option (List Path))
  /-- Makes a directory, and those above it. -/
  createDirectories : Path → m Bool
  /-- Writes a file, in a directory that is there. -/
  writeText : Path → String → m Bool

instance {ε : Type} {m : Type → Type} [Monad m] [MonadFiles m] : MonadFiles (ExceptT ε m) where
  isDirectory p := ExceptT.lift (MonadFiles.isDirectory p)
  isFile p := ExceptT.lift (MonadFiles.isFile p)
  readText p := ExceptT.lift (MonadFiles.readText p)
  filesBelow p := ExceptT.lift (MonadFiles.filesBelow p)
  createDirectories p := ExceptT.lift (MonadFiles.createDirectories p)
  writeText p text := ExceptT.lift (MonadFiles.writeText p text)

/-- The names that lead from the root to an entry. -/
abbrev Place := List String

/-- Directories, and files with their text. -/
structure FileTree where
  /-- The directories below the root, which is always there. -/
  directories : List Place := []
  files : OrderedMap Place String := .empty

namespace FileTree

/-! ### Places -/

/-- There is a directory at a place. -/
def hasDirectory (t : FileTree) (place : Place) : Bool :=
  place.isEmpty || t.directories.contains place

/-- There is a file at a place. -/
def hasFile (t : FileTree) (place : Place) : Bool := t.files.contains place

/-- A name that an entry can have: at most 255 bytes, and none of them zero. -/
def isStorable (name : String) : Bool :=
  name.utf8ByteSize ≤ 255 && !name.toList.contains (Char.ofNat 0)

/-- Follows steps.  Every step starts at a directory; the last may lead to nothing. -/
def walk? (t : FileTree) (here : Place) : List Path.Component → Option Place
  | [] => some here
  | c :: cs =>
    if t.hasDirectory here then
      match c with
      | .root => walk? t [] cs
      | .here => walk? t here cs
      | .up => walk? t here.dropLast cs
      | .name n => if isStorable n then walk? t (here ++ [n]) cs else none
    else none

/-- The place that a path leads to. -/
def place? (t : FileTree) (p : Path) : Option Place := do
  let place ← t.walk? [] p.components
  if p.text.isEmpty || (p.endsIdle && !t.hasDirectory place) then none else some place

/-- The names that lead from one place to another below it. -/
def below? : Place → Place → Option Place
  | [], rest => some rest
  | a :: as, b :: bs => if a = b then below? as bs else none
  | _ :: _, [] => none

/-! ### Operations -/

/-- There is a directory at a path. -/
def isDirectory (t : FileTree) (p : Path) : Bool := (t.place? p).any t.hasDirectory

/-- There is a file at a path. -/
def isFile (t : FileTree) (p : Path) : Bool := (t.place? p).any t.hasFile

/-- The text of the file at a path. -/
def read? (t : FileTree) (p : Path) : Option String := (t.place? p).bind t.files.get?

/-- The paths of all files below a directory. -/
def filesBelow? (t : FileTree) (p : Path) : Option (List Path) := do
  let place ← t.place? p
  if t.hasDirectory place then
    return (t.files.keys.filterMap (below? place)).map fun names => names.foldl Path.join p
  else none

/-- Adds a directory. -/
def addDirectory (t : FileTree) (place : Place) : FileTree :=
  if t.hasDirectory place then t else { t with directories := t.directories ++ [place] }

/-- Follows steps and makes the directories they lead to. -/
def makeSteps? (t : FileTree) (here : Place) : List Path.Component → Option FileTree
  | [] => some t
  | .root :: cs => makeSteps? t [] cs
  | .here :: cs => makeSteps? t here cs
  | .up :: cs => makeSteps? t here.dropLast cs
  | .name n :: cs =>
    if isStorable n && !t.hasFile (here ++ [n]) then
      makeSteps? (t.addDirectory (here ++ [n])) (here ++ [n]) cs
    else none

/-- Makes the directory at a path, and those above it. -/
def createDirectories? (t : FileTree) (p : Path) : Option FileTree := t.makeSteps? [] p.components

/-- Writes the file at a path. -/
def write? (t : FileTree) (p : Path) (text : String) : Option FileTree := do
  let place ← t.place? p
  if t.hasDirectory place then none
  else return { t with files := t.files.insert place text }

/-! ### Other files, the same paths -/

theorem walk?_with_files (t : FileTree) (files : OrderedMap Place String) (here : Place)
    (cs : List Path.Component) : walk? { t with files } here cs = walk? t here cs := by
  induction cs generalizing here with
  | nil => rfl
  | cons c cs ih =>
    cases c <;> simp only [walk?, ih] <;> rfl

/-- Files do not change where paths lead. -/
theorem place?_with_files (t : FileTree) (files : OrderedMap Place String) (p : Path) :
    place? { t with files } p = place? t p := by
  rw [place?, place?, walk?_with_files]
  rfl

/-! ### Access to a tree -/

/-- Changes the tree, or leaves it as it is and says so. -/
def update (change : FileTree → Option FileTree) : StateM FileTree Bool := do
  match change (← get) with
  | some t => set t; return true
  | none => return false

instance : MonadFiles (StateM FileTree) where
  isDirectory p := return (← get).isDirectory p
  isFile p := return (← get).isFile p
  readText p := return (← get).read? p
  filesBelow p := return (← get).filesBelow? p
  createDirectories p := update (·.createDirectories? p)
  writeText p text := update (·.write? p text)

end FileTree

end Gls
