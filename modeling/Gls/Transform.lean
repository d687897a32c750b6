/-
# Transforming documents

A document is transformed in three steps: its tree, and its comments where they are wanted, are
turned into fragments; the fragments are put together to a program; the lines of the program are
indented.
-/
import Gls.Document
import Gls.Options
import Gls.Text.Comment
import Gls.Traversal.Route

namespace Gls

/-! ### Comments -/

/-- What a comment turns into. -/
def CommentRange.transformation (r : CommentRange) (source : String) : Transformation :=
  let body := r.bodyLines source
  if r.isBlock then
    ⟨r.span, .command ⟨CommandName.commentBlockStart, []⟩
      :: body.map (fun line => .command ⟨CommandName.commentBlock, [.text line]⟩)
      ++ [.command ⟨CommandName.commentBlockEnd, []⟩]⟩
  else .command r.span ⟨CommandName.commentLine, [.text (body.headD "")]⟩

/-- What the comments of a source text turn into, in order. -/
def commentFragments (source : String) : List Fragment :=
  (CommentRange.scan source).map fun r => .transformation (r.transformation source)

/-! ### From a tree to fragments -/

/-- A source of fragments. -/
inductive Transformer where
  /-- The whole tree, from its root. -/
  | sourceFile
  /-- The comments of the source text. -/
  | comments
deriving DecidableEq

namespace Transformer

/-- The name of a source of fragments. -/
def name : Transformer → String
  | .sourceFile => "source file"
  | .comments => "comments"

/-- The fragments. -/
def fragments (ctx : Context) (root : NodeId) : Transformer → Visit (List Fragment)
  | .sourceFile => Visit.node ctx root
  | .comments => return commentFragments ctx.arena.sourceText

/-- The sources that options ask for. -/
def ofOptions (o : Options) : List Transformer :=
  if o.skipComments then [.sourceFile] else [.sourceFile, .comments]

/-- The fragments of several sources, in order. -/
def allFragments (ctx : Context) (root : NodeId) : List Transformer → Visit (List Fragment)
  | [] => return []
  | t :: ts => do
    let fs ← t.fragments ctx root
    return fs ++ (← allFragments ctx root ts)

end Transformer

/-! ### From a tree to text -/

/-- Indented lines, and the constructs that could not be mapped. -/
structure TransformOutput where
  lines : List String := []
  complaints : List Complaint := []

/-- The program of a tree. -/
def programOf (arena : Arena) (types : TypeTable) (root : NodeId) (options : Options) :
    Except TransformError Program :=
  let ctx := Context.ofRoot arena types root
  let fragments := Transformer.allFragments ctx root (Transformer.ofOptions options)
  (fragments.run {}).1.map Program.ofFragments

/-- Transforms a tree. -/
def transformTree (arena : Arena) (types : TypeTable) (root : NodeId) (catalog : Catalog)
    (options : Options) : Except TransformError TransformOutput := do
  let program ← programOf arena types root options
  match Indent.lines catalog options.indentUnit program.lines with
  | .ok lines => return ⟨lines, program.complaints⟩
  | .error e => throw (.indent e)

/-- Transforms a document. -/
def Document.transform (d : Document) (catalog : Catalog) (options : Options) :
    Except TransformError TransformOutput :=
  transformTree d.arena d.types d.root catalog options

/-- Why the text of a document cannot be transformed. -/
inductive PipelineError where
  /-- The text is no document. -/
  | document
  | transform (error : TransformError)

/-- The message of an error. -/
def PipelineError.message : PipelineError → String
  | .document => "invalid document"
  | .transform e => "transform failed: " ++ e.message

/-- Transforms the text of a document with the built-in commands. -/
def transformText (text : String) (options : Options) : Except PipelineError TransformOutput :=
  match Document.read? text with
  | none => .error .document
  | some d =>
    match d.transform Catalog.builtin options with
    | .ok output => .ok output
    | .error e => .error (.transform e)

end Gls
