/-
# Where nodes go

The kind of a node decides how it is visited: by a handler, through its children, or not at all.
Visiting ties the handlers together: a handler visits the parts of its node one level deeper.
-/
import Gls.Traversal.Declaration
import Gls.Traversal.Expression
import Gls.Traversal.Statement

namespace Gls

/-- A handler of nodes. -/
inductive Handler where
  | literalValue
  | stringLiteral
  | binary
  | unary
  | call
  | class_
  | interface
  | methodSignature
  | method
  | constructor
  | property
  | variableDeclaration
  | returnStatement
  | ifStatement
  | forStatement
  | unsupported
deriving DecidableEq

/-- How a node is visited. -/
inductive Route where
  /-- By a handler. -/
  | handle (handler : Handler)
  /-- Through its children; the node itself comes to nothing. -/
  | passThrough
  /-- Not at all. -/
  | skip
  /-- Through its children; a node without children is complained about. -/
  | unmapped
deriving DecidableEq

namespace Route

/-- The route of a literal. -/
def ofLiteral : Kind → Route
  | .numericLiteral => .handle .literalValue
  | .stringLiteral | .noSubstitutionTemplateLiteral => .handle .stringLiteral
  | _ => .unmapped

/-- The route of a keyword. -/
def ofKeyword : Kind → Route
  | .falseKeyword | .nullKeyword | .thisKeyword | .trueKeyword => .handle .literalValue
  | .superKeyword => .unmapped
  | _ => .skip

/-- The route of a member. -/
def ofMember : Kind → Route
  | .propertySignature => .handle .unsupported
  | .propertyDeclaration => .handle .property
  | .methodSignature => .handle .methodSignature
  | .methodDeclaration => .handle .method
  | .constructor => .handle .constructor
  | _ => .skip

/-- The route of an expression. -/
def ofExpression : Kind → Route
  | .propertyAccessExpression | .elementAccessExpression => .handle .literalValue
  | .callExpression => .handle .call
  | .parenthesizedExpression => .passThrough
  | .prefixUnaryExpression | .postfixUnaryExpression => .handle .unary
  | .binaryExpression => .handle .binary
  | .classExpression => .handle .class_
  | _ => .handle .unsupported

/-- The route of a statement. -/
def ofStatement : Kind → Route
  | .emptyStatement => .skip
  | .ifStatement => .handle .ifStatement
  | .forStatement => .handle .forStatement
  | .returnStatement => .handle .returnStatement
  | .debuggerStatement => .unmapped
  | _ => .passThrough

/-- The route of a declaration. -/
def ofDeclaration : Kind → Route
  | .variableDeclaration => .handle .variableDeclaration
  | .variableDeclarationList => .passThrough
  | .classDeclaration => .handle .class_
  | .interfaceDeclaration => .handle .interface
  | .heritageClause => .skip
  | _ => .handle .unsupported

/-- The route of a kind. -/
def ofKind (k : Kind) : Route :=
  match k.family with
  | .unknown => .unmapped
  | .literal => ofLiteral k
  | .identifier => .handle .literalValue
  | .keyword => ofKeyword k
  | .member => ofMember k
  | .expression => ofExpression k
  | .statement => ofStatement k
  | .declaration => ofDeclaration k
  | .structural => .passThrough
  | .trivia | .punctuation | .operator | .modifier | .typeKeyword | .typeNode => .skip

end Route

namespace Visit

/-- Calls a handler. -/
def handle (ctx : Context) (visit : Visitor) (n : NodeId) : Handler → Visit (Option Fragment)
  | .literalValue => literalValue ctx n
  | .stringLiteral => stringLiteral ctx n
  | .binary => binary ctx visit n
  | .unary => unary ctx n
  | .call => call ctx visit n
  | .class_ => class_ ctx visit n
  | .interface => interface ctx visit n
  | .methodSignature => methodSignature ctx n
  | .method => method ctx visit n
  | .constructor => constructor ctx visit n
  | .property => property ctx visit n
  | .variableDeclaration => variableDeclaration ctx visit n
  | .returnStatement => returnStatement ctx visit n
  | .ifStatement => ifStatement ctx visit n
  | .forStatement => forStatement ctx visit n
  | .unsupported => return some (← unsupported ctx n)

/-- Sends a node along the route of its kind. -/
def dispatch (ctx : Context) (visit : Visitor) (n : NodeId) (kind : Kind) :
    Visit (List Fragment) := do
  note (.dispatched n (← get).depth)
  match Route.ofKind kind with
  | .handle handler => return (← handle ctx visit n handler).toList
  | .passThrough => all visit (ctx.arena.children n)
  | .skip => return []
  | .unmapped =>
    match ctx.arena.children n with
    | [] => return [← unsupported ctx n]
    | children => all visit children

/-- Enters a node: it must exist and must not have been visited. -/
def enter (ctx : Context) (n : NodeId) : Visit Node := do
  match ctx.arena.get? n with
  | none => throw (.missingNode n)
  | some node =>
    if (← get).visited.contains n then throw (.revisited node.kind node.span)
    else
      modify fun s => { s with visited := n :: s.visited }
      return node

/-- Visits a node, with so many levels left below it. -/
def nodeWithin (ctx : Context) : Nat → Visitor
  | 0, n => do
    let node ← enter ctx n
    throw (.depthExceeded node.span (← get).depth)
  | levels + 1, n => do
    let node ← enter ctx n
    deeper (dispatch ctx (nodeWithin ctx levels) n node.kind)

/-- Visits a node. -/
def node (ctx : Context) : Visitor := fun n => do
  nodeWithin ctx (maxVisitDepth - (← get).depth) n

end Visit

end Gls
