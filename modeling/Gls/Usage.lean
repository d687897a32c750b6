/-
# Where variables are read and written

An index of the identifiers of a tree, by name.  The place an identifier has in its parent decides
whether it reads a variable, writes one, or is the name of something that is no variable.
-/
import Gls.OrderedMap
import Gls.Tree.Arena

namespace Gls

/-- What an identifier does. -/
inductive IdentifierUse where
  | read
  | write
  /-- The name of a class, a member or an accessed property. -/
  | name
deriving DecidableEq

namespace IdentifierUse

/-- What an identifier does in its parent. -/
def inParent (parent : Node) (n : NodeId) : IdentifierUse :=
  match parent.payload with
  | .valueDecl d =>
    if d.name = n then
      if parent.kind == .variableDeclaration || parent.kind == .parameter then .write else .name
    else .read
  | .class_ d => if d.name = some n then .name else .read
  | .interface d => if d.name = n then .name else .read
  | .function d => if d.name = some n then .name else .read
  | .access d =>
    if parent.kind == .propertyAccessExpression && d.nameOrArgument == n then .name else .read
  | .binary d => if d.left = n && d.operator.isAssignmentOperator then .write else .read
  | .unary d =>
    if d.operator == .plusPlusToken || d.operator == .minusMinusToken then .write else .read
  | _ => .read

/-- What an identifier does.  One without a parent is read. -/
def of (arena : Arena) (n : NodeId) : IdentifierUse :=
  match (arena.parent? n).bind arena.get? with
  | some parent => inParent parent n
  | none => .read

end IdentifierUse

/-- An identifier and its range. -/
structure Occurrence where
  node : NodeId
  span : Span

/-- The places where a name is read and where it is written, in the order of the tree. -/
structure Usage where
  reads : List Occurrence := []
  writes : List Occurrence := []

/-- The usage of every variable name of a tree. -/
structure UsageIndex where
  usages : OrderedMap String Usage := .empty

namespace UsageIndex

/-- The usage of a name. -/
def usage? (index : UsageIndex) (name : String) : Option Usage := index.usages.get? name

/-- Records an identifier under its name. -/
def record (index : UsageIndex) (name : String) (use : IdentifierUse) (o : Occurrence) :
    UsageIndex :=
  let u := (index.usage? name).getD {}
  match use with
  | .name => index
  | .read => ⟨index.usages.insert name { u with reads := u.reads ++ [o] }⟩
  | .write => ⟨index.usages.insert name { u with writes := u.writes ++ [o] }⟩

/-- The node is an identifier. -/
def isIdentifier (n : Node) : Bool := n.payload matches .identifier _

/-- The identifiers below a node, in the order of the tree. -/
def identifiers (arena : Arena) (root : NodeId) : List NodeId := arena.frontier isIdentifier root

/-- The index of the tree below a node. -/
def build (arena : Arena) (root : NodeId) : UsageIndex :=
  (identifiers arena root).foldl
    (fun index n =>
      match arena.identifier? n with
      | some name => index.record name (IdentifierUse.of arena n) ⟨n, arena.span n⟩
      | none => index)
    {}

/-- The name is written somewhere within the range. -/
def writesWithin (index : UsageIndex) (name : String) (range : Span) : Bool :=
  match index.usage? name with
  | some u => u.writes.any fun o => range.contains o.span
  | none => false

/-- The name is read somewhere within the range. -/
def readsWithin (index : UsageIndex) (name : String) (range : Span) : Bool :=
  match index.usage? name with
  | some u => u.reads.any fun o => range.contains o.span
  | none => false

end UsageIndex

end Gls
