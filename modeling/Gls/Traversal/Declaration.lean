/-
# Declarations

Classes, interfaces and their members, and variables.
-/
import Gls.Traversal.Value

namespace Gls.Visit

/-- A class with its members.  A class without a name comes to nothing. -/
def class_ (ctx : Context) (visit : Visitor) (n : NodeId) : Visit (Option Fragment) := do
  let d ← need ctx n "class data" (ctx.arena.class? n)
  match d.name with
  | none => return none
  | some name =>
    let members ← all visit d.members
    return some (block ctx n ⟨CommandName.classStart, [.text (ctx.arena.text name)]⟩ members
      ⟨CommandName.classEnd, []⟩)

/-- The names in the heritage clauses of an interface, as they are written. -/
def baseNames (ctx : Context) (clauses : List NodeId) : List Argument :=
  clauses.flatMap fun clause =>
    match ctx.arena.heritage? clause with
    | none => []
    | some heritage =>
      heritage.types.map fun ty =>
        .text (ctx.arena.text
          (((ctx.arena.exprWithTypeArgs? ty).map Payload.ExprWithTypeArgs.expression).getD ty))

/-- An interface with its members. -/
def interface (ctx : Context) (visit : Visitor) (n : NodeId) : Visit (Option Fragment) := do
  let d ← need ctx n "interface data" (ctx.arena.interface? n)
  let start : Command :=
    ⟨CommandName.interfaceStart,
      .text (ctx.arena.text d.name) :: baseNames ctx d.heritageClauses⟩
  let members ← all visit d.members
  return some (block ctx n start members ⟨CommandName.interfaceEnd, []⟩)

/-- The complaint that a method has no return type. -/
def noReturnType (ctx : Context) (n : NodeId) (name : String) : Visit (Option Fragment) := do
  return some (← complaint ctx n ("method '" ++ name ++ "' has no representable return type"))

/-- A method of an interface. -/
def methodSignature (ctx : Context) (n : NodeId) : Visit (Option Fragment) := do
  let d ← need ctx n "signature data" (ctx.arena.function? n)
  let name := (d.name.map ctx.arena.text).getD ""
  match ctx.tree.returnType? n with
  | none => noReturnType ctx n name
  | some type =>
    ofOutcome ctx n
      (fun params =>
        return some (line ctx n ⟨CommandName.interfaceMethod, .text name :: type :: params⟩))
      (← parameters ctx d.parameters)

/-- A method of a class, with its body. -/
def method (ctx : Context) (visit : Visitor) (n : NodeId) : Visit (Option Fragment) := do
  let d ← need ctx n "method data" (ctx.arena.function? n)
  let name ← need ctx n "name" (d.name.map ctx.arena.text)
  match ctx.tree.returnType? n with
  | none => noReturnType ctx n name
  | some type =>
    ofOutcome ctx n
      (fun params => do
        let start : Command :=
          ⟨CommandName.memberFunctionStart,
            .text (ctx.tree.privacy n).word :: .text name :: type :: params⟩
        let body ← optional visit d.body
        return some (block ctx n start body ⟨CommandName.memberFunctionEnd, []⟩))
      (← parameters ctx d.parameters)

/-- The name of the class that a constructor belongs to. -/
def className? (ctx : Context) (n : NodeId) : Option String := do
  let parent ← ctx.arena.parent? n
  let d ← ctx.arena.class? parent
  d.name.map ctx.arena.text

/-- A constructor, with its body. -/
def constructor (ctx : Context) (visit : Visitor) (n : NodeId) : Visit (Option Fragment) := do
  let d ← need ctx n "constructor data" (ctx.arena.function? n)
  match className? ctx n with
  | none => return some (← complaint ctx n "constructor of an anonymous class is not supported")
  | some name =>
    ofOutcome ctx n
      (fun params => do
        let start : Command :=
          ⟨CommandName.constructorStart,
            .text (ctx.tree.privacy n).word :: .text name :: params⟩
        let body ← optional visit d.body
        return some (block ctx n start body ⟨CommandName.constructorEnd, []⟩))
      (← parameters ctx d.parameters)

/-- A command with the value of an initializer, if there is one. -/
def initialized (ctx : Context) (visit : Visitor) (n : NodeId) (head : Command) :
    Option NodeId → Visit (Option Fragment)
  | none => return some (line ctx n head)
  | some initializer => do
    ofOutcome ctx n (fun v => return some (line ctx n (head.withArgs [v])))
      (← value ctx visit initializer)

/-- A property of a class. -/
def property (ctx : Context) (visit : Visitor) (n : NodeId) : Visit (Option Fragment) := do
  let d ← need ctx n "property data" (ctx.arena.valueDecl? n)
  initialized ctx visit n
    ⟨CommandName.memberVariable,
      [.text (ctx.tree.privacy n).word, .text (ctx.arena.text d.name)]⟩
    d.initializer

/-- A variable. -/
def variableDeclaration (ctx : Context) (visit : Visitor) (n : NodeId) :
    Visit (Option Fragment) := do
  let d ← need ctx n "declaration data" (ctx.arena.valueDecl? n)
  let name := ctx.arena.text d.name
  match ctx.tree.typeName? n with
  | none =>
    return some (← complaint ctx n ("variable '" ++ name ++ "' has no representable type"))
  | some type =>
    initialized ctx visit n ⟨CommandName.variableLine, [.text name, type]⟩ d.initializer

end Gls.Visit
