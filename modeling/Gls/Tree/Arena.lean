/-
# Syntax trees in an arena

All nodes of a source file stand in one array, and refer to each other by their places in it.  A
payload may name a place that holds no node; looking it up then gives nothing.

Each node may record a parent.  Adding a node makes it the parent of the children it names, and
`linkParents` does the same for all nodes in order, so that the last node to name a child is its
parent.
-/
import Gls.Tree.Node

namespace Gls

/-- The nodes of a source file and its text. -/
structure Arena where
  sourceText : String := ""
  nodes : Array Node := #[]

namespace Arena

/-! ### Building -/

/-- Makes `parent` the parent of each of the given nodes that exist. -/
def adopt (nodes : Array Node) (parent : NodeId) (children : List NodeId) : Array Node :=
  children.foldl (fun ns c => ns.modify c.toNat fun n => { n with parent := some parent }) nodes

/-- The place the next node will have. -/
def nextId (a : Arena) : NodeId := .ofNat a.nodes.size

/-- Adds a node, which becomes the parent of its children. -/
def add (a : Arena) (kind : Kind) (span : Span) (payload : Payload) : Arena :=
  { a with
    nodes := (adopt a.nodes a.nextId payload.children).push
      { kind, pos := span.start, stop := span.stop, payload } }

/-- Replaces the modifiers of a node, if it exists. -/
def setModifiers (a : Arena) (n : NodeId) (modifiers : Modifiers) : Arena :=
  { a with nodes := a.nodes.modify n.toNat fun node => { node with modifiers } }

/-- Makes every node the parent of its children, in order. -/
def linkParents (a : Arena) : Arena :=
  { a with
    nodes := a.nodes.toList.zipIdx.foldl
      (fun ns e => adopt ns (.ofNat e.2) e.1.children) a.nodes }

/-! ### Reading -/

/-- The node at a place. -/
def get? (a : Arena) (n : NodeId) : Option Node := a.nodes[n.toNat]?

/-- The kind of a node. -/
def kind? (a : Arena) (n : NodeId) : Option Kind := (a.get? n).map Node.kind

/-- The source range of a node. -/
def span (a : Arena) (n : NodeId) : Span := ((a.get? n).map Node.span).getD {}

/-- The parent of a node. -/
def parent? (a : Arena) (n : NodeId) : Option NodeId := (a.get? n).bind Node.parent

/-- The modifiers of a node. -/
def modifiers (a : Arena) (n : NodeId) : Modifiers := ((a.get? n).map Node.modifiers).getD {}

/-- The children of a node. -/
def children (a : Arena) (n : NodeId) : List NodeId := ((a.get? n).map Node.children).getD []

/-- The payload of a node. -/
def payload? (a : Arena) (n : NodeId) : Option Payload := (a.get? n).map Node.payload

/-- The source text of a node.  Where its range spans no text, the text of an identifier or
literal, or the fixed text of its kind. -/
def text (a : Arena) (n : NodeId) : String :=
  match a.get? n with
  | none => ""
  | some node =>
    let spanned := node.span.slice a.sourceText
    if spanned.isEmpty then node.ownText else spanned

/-! ### Payloads of a given form -/

/-- What a node holds, if its payload has the form. -/
def holds? {α : Type} (a : Arena) (form : Payload.Form α) (n : NodeId) : Option α :=
  (a.payload? n).bind form.read

/-- The text of an identifier. -/
def identifier? (a : Arena) (n : NodeId) : Option String := a.holds? .identifier n

/-- The text of a literal. -/
def literal? (a : Arena) (n : NodeId) : Option String := a.holds? .literal n

/-- The elements of a list. -/
def list? (a : Arena) (n : NodeId) : Option (List NodeId) := a.holds? .list n

/-- The inner node of a wrapper that has one. -/
def wrapped? (a : Arena) (n : NodeId) : Option NodeId := a.holds? .wrapped n

/-- A class. -/
def class? (a : Arena) (n : NodeId) : Option Payload.Class := a.holds? .class_ n

/-- An interface. -/
def interface? (a : Arena) (n : NodeId) : Option Payload.Interface := a.holds? .interface n

/-- A heritage clause. -/
def heritage? (a : Arena) (n : NodeId) : Option Payload.Heritage := a.holds? .heritage n

/-- A name with type arguments. -/
def exprWithTypeArgs? (a : Arena) (n : NodeId) : Option Payload.ExprWithTypeArgs :=
  a.holds? .exprWithTypeArgs n

/-- A declaration of a value. -/
def valueDecl? (a : Arena) (n : NodeId) : Option Payload.ValueDecl := a.holds? .valueDecl n

/-- A function. -/
def function? (a : Arena) (n : NodeId) : Option Payload.Function := a.holds? .function n

/-- A call. -/
def call? (a : Arena) (n : NodeId) : Option Payload.Call := a.holds? .call n

/-- An access. -/
def access? (a : Arena) (n : NodeId) : Option Payload.Access := a.holds? .access n

/-- A binary operation. -/
def binary? (a : Arena) (n : NodeId) : Option Payload.Binary := a.holds? .binary n

/-- A unary operation. -/
def unary? (a : Arena) (n : NodeId) : Option Payload.Unary := a.holds? .unary n

/-- An if statement. -/
def conditional? (a : Arena) (n : NodeId) : Option Payload.Conditional := a.holds? .conditional n

/-- A for statement. -/
def loop? (a : Arena) (n : NodeId) : Option Payload.Loop := a.holds? .loop n

/-- A reference to a type. -/
def typeRef? (a : Arena) (n : NodeId) : Option Payload.TypeRef := a.holds? .typeRef n

/-- An index signature. -/
def indexSignature? (a : Arena) (n : NodeId) : Option Payload.IndexSignature :=
  a.holds? .indexSignature n

/-! ### Walking -/

/-- The nearest node of a kind among the first `fuel` nodes above `n`. -/
def ancestorWithin? (a : Arena) (kind : Kind) : Nat → NodeId → Option NodeId
  | 0, _ => none
  | fuel + 1, n =>
    match a.parent? n with
    | none => none
    | some p => if a.kind? p = some kind then some p else ancestorWithin? a kind fuel p

/-- The nearest ancestor of a kind.  Parent links without a cycle pass no more nodes than there are
in the arena. -/
def ancestor? (a : Arena) (n : NodeId) (kind : Kind) : Option NodeId :=
  ancestorWithin? a kind (a.nodes.size + 1) n

/-- On every way down from `n`, of at most `fuel` nodes, the first node that satisfies `stop`; in
the order in which the tree lists them. -/
def frontierWithin (a : Arena) (stop : Node → Bool) : Nat → NodeId → List NodeId
  | 0, _ => []
  | fuel + 1, n =>
    match a.get? n with
    | none => []
    | some node =>
      if stop node then [n] else node.children.flatMap (frontierWithin a stop fuel)

/-- On every way down from `n`, the first node that satisfies `stop`.  Child links without a cycle
pass no more nodes than there are in the arena. -/
def frontier (a : Arena) (stop : Node → Bool) (n : NodeId) : List NodeId :=
  frontierWithin a stop (a.nodes.size + 1) n

end Arena

end Gls
