/-
# Documents

A document is a source file that has been parsed and type-checked: its tree, the root of the tree,
and the findings of the type checker.  Documents are exchanged as JSON.  Producers may leave out
the parents of nodes; reading a document restores them.
-/
import Gls.Json.Parser
import Gls.Json.Printer
import Gls.Types.Codec

namespace Gls

/-- A parsed and type-checked source file. -/
structure Document where
  fileName : String
  arena : Arena
  root : NodeId
  types : TypeTable := {}

namespace Document

/-- Makes every node of the document the parent of its children. -/
def linkParents (d : Document) : Document := { d with arena := d.arena.linkParents }

/-- The document as a JSON value. -/
def toJson (d : Document) : Json :=
  .ofMembers [("fileName", .ofString d.fileName), ("arena", d.arena.toJson),
    ("root", d.root.toJson), ("types", d.types.toJson)]

/-- The document that a JSON value stands for, with the parents it records. -/
def ofJson? (v : Json) : Option Document := do
  let r ← Json.Record.ofJson? ["fileName", "arena", "root", "types"] false v
  return {
    fileName := ← r.required? "fileName" Json.asString?
    arena := ← r.required? "arena" Arena.ofJson?
    root := ← r.required? "root" NodeId.ofJson?
    types := ← r.withDefault? "types" TypeTable.ofJson? {} }

/-- Writes a document as text. -/
def write (d : Document) : String := d.toJson.pretty

/-- Reads a document from text and restores the parents. -/
def read? (text : String) : Option Document :=
  ((Json.parse? text).bind ofJson?).map linkParents

end Document

end Gls
