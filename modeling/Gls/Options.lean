/-
# Options

What can be chosen for a transformation, and where its output goes: the output path of a source
file is made of the segments of its name, without the base directory, the extension, and segments
that lead nowhere or up.
-/
import Gls.Indent
import Gls.Json.Decode
import Gls.Text.Split

namespace Gls

/-- The options of a transformation. -/
structure Options where
  /-- A leading directory that is left out of output paths. -/
  baseDirectory : String := ""
  /-- What output paths begin with. -/
  outputNamespace : String := ""
  /-- Comments are left out. -/
  skipComments : Bool := true
  /-- The text of one level of indentation. -/
  indentUnit : String := Indent.defaultUnit
deriving DecidableEq

namespace Options

/-! ### Output paths -/

/-- Backslashes divide segments too. -/
def forwardSlashes (cs : List Char) : List Char := cs.map fun c => if c = '\\' then '/' else c

/-- Drops slashes at the end. -/
def dropSlashesRight (cs : List Char) : List Char :=
  (cs.reverse.dropWhile (· == '/')).reverse

/-- Drops slashes at both ends. -/
def dropSlashes (cs : List Char) : List Char := dropSlashesRight (cs.dropWhile (· == '/'))

/-- The path without a base directory, which must match up to a slash. -/
def dropBase (base path : List Char) : List Char :=
  if !base.isEmpty && base.isPrefixOf path && (path.drop base.length).head? == some '/' then
    path.drop base.length
  else path

/-- A segment that names something below. -/
def isNormal (segment : List Char) : Bool :=
  !(segment.isEmpty || segment == ['.'] || segment == ['.', '.'])

/-- The segments of a file name that count, after the base directory. -/
def segments (o : Options) (fileName : String) : List (List Char) :=
  let base := dropSlashesRight (forwardSlashes o.baseDirectory.toList)
  (Text.splitAt '/' (dropBase base (forwardSlashes fileName.toList))).filter isNormal

/-- The place of the last occurrence of a character. -/
def lastIndex? (c : Char) : List Char → Option Nat
  | [] => none
  | x :: xs =>
    match lastIndex? c xs with
    | some i => some (i + 1)
    | none => if x = c then some 0 else none

/-- A path without its extension, which begins at the last dot.  A dot before the last segment or at
its start begins none. -/
def dropExtension (path : List Char) : List Char :=
  match lastIndex? '.' path with
  | none => path
  | some dot =>
    let start := ((lastIndex? '/' path).map (· + 1)).getD 0
    if start < dot then path.take dot else path

/-- A path without the mark of a declaration file. -/
def dropDeclarationMark (path : List Char) : List Char :=
  match path.reverse with
  | 'd' :: '.' :: rest => rest.reverse
  | _ => path

/-- The output path of a source file, without extension. -/
def outputPath (o : Options) (fileName : String) : String :=
  let path := dropDeclarationMark (dropExtension (Text.joinAt '/' (o.segments fileName)))
  let space := dropSlashes o.outputNamespace.toList
  String.ofList (if space.isEmpty then path else space ++ '/' :: path)

/-! ### As JSON -/

/-- Reads options; what is not given has its default. -/
def ofJson? (v : Json) : Option Options := do
  let r ← Json.Record.ofJson?
    ["baseDirectory", "outputNamespace", "skipComments", "indentUnit"] false v
  let d : Options := {}
  return {
    baseDirectory := ← r.withDefault? "baseDirectory" Json.asString? d.baseDirectory
    outputNamespace := ← r.withDefault? "outputNamespace" Json.asString? d.outputNamespace
    skipComments := ← r.withDefault? "skipComments" Json.asBool? d.skipComments
    indentUnit := ← r.withDefault? "indentUnit" Json.asString? d.indentUnit }

/-- Writes options. -/
def toJson (o : Options) : Json :=
  .ofMembers [("baseDirectory", .ofString o.baseDirectory),
    ("outputNamespace", .ofString o.outputNamespace), ("skipComments", .bool o.skipComments),
    ("indentUnit", .ofString o.indentUnit)]

end Options

end Gls
