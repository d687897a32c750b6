/-
# Return types

The return type of a function is the type on which its return statements agree; failing that, its
annotation; failing that, what the type checker says about its only signature.
-/
import Gls.TypeName.Resolve

namespace Gls.TypedTree

/-- Kinds whose return statements are their own. -/
def isFunctionBoundary : Kind → Bool
  | .functionDeclaration | .methodDeclaration | .methodSignature | .constructor
  | .classDeclaration | .classExpression => true
  | _ => false

/-- The node is a return statement, or has return statements of its own. -/
def endsReturnSearch (n : Node) : Bool := n.kind == .returnStatement || isFunctionBoundary n.kind

/-- The return statements of a function in source order, without those of functions and classes
inside it. -/
def returnStatements (arena : Arena) (function : NodeId) : List NodeId :=
  match (arena.function? function).bind Payload.Function.body with
  | none => []
  | some body =>
    (arena.frontier endsReturnSearch body).filter fun n => arena.kind? n == some .returnStatement

/-- The type of the value that a statement returns; none for a bare return. -/
def returnedType? (t : TypedTree) (statement : NodeId) : Option TypeName :=
  (t.arena.wrapped? statement).bind t.typeName?

/-- The type on which return statements agree.  Without any it is `void`. -/
def commonReturnType? (t : TypedTree) : List NodeId → Option TypeName
  | [] => some (.text "void")
  | first :: rest => do
    let common ← t.returnedType? first
    if rest.all fun s => t.returnedType? s == some common then some common else none

/-- The return type of the only signature that the type checker found. -/
def signatureReturnType? (t : TypedTree) (n : NodeId) : Option TypeName := do
  match t.types.callSignatures (← t.types.typeAt? n) with
  | [signature] =>
    match (t.types.typeSymbol? signature.returnType).bind t.types.symbol? with
    | some s => some (.text s.name)
    | none => (t.types.intrinsicName? signature.returnType).map .text
  | _ => none

/-- The return type of a function. -/
def returnType? (t : TypedTree) (n : NodeId) : Option TypeName :=
  let function := t.arena.function? n
  let agreed :=
    if (function.bind Payload.Function.body).isSome then
      t.commonReturnType? (returnStatements t.arena n)
    else none
  match agreed, function.bind Payload.Function.annotation with
  | some name, _ => some name
  | none, some annotation => t.typeName? annotation
  | none, none => t.signatureReturnType? n

/-- The privacy that a member declares. -/
def privacy (t : TypedTree) (n : NodeId) : Privacy := .ofModifiers (t.arena.modifiers n)

end Gls.TypedTree
