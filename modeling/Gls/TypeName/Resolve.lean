/-
# The type of a node

The name of a node's type is found by trying strategies in order.  A strategy settles the question,
possibly with the answer that the type has no name, or leaves it to the next one.  Strategies may
ask for the types of other nodes; declarations may refer to each other in a circle, so the depth of
such questions is bounded, and past the bound the answer is that the type has no name.
-/
import Gls.Tree.Arena
import Gls.TypeName.Raw
import Gls.Types.Table

namespace Gls

/-- A tree together with what the type checker found. -/
structure TypedTree where
  arena : Arena
  types : TypeTable

namespace TypedTree

/-- How deep questions about types may go. -/
def maxDepth : Nat := 64

/-- What a strategy says. -/
inductive Step where
  /-- The strategy applies and this is the answer. -/
  | settled (name : Option TypeName)
  /-- The strategy does not apply. -/
  | next
deriving DecidableEq

/-- Answers questions about other nodes. -/
abbrev Resolver := NodeId → Option TypeName

/-- A way to find the type of a node. -/
abbrev Strategy := TypedTree → Resolver → NodeId → Step

/-! ### Kinds whose type follows from the tree -/

/-- The type of a numeric literal: a radix mark makes an integer, and so does the absence of a
point and an exponent. -/
def numericLiteralType (text : String) : TypeName :=
  let lower := text.toList.map Char.toLower
  let radix := match lower with
    | '0' :: c :: _ => c == 'x' || c == 'o' || c == 'b'
    | _ => false
  .text (if radix || !(lower.any fun c => c == '.' || c == 'e') then "int" else "float")

/-- An array literal is a list when all its elements have the same type. -/
def arrayLiteralType (t : TypedTree) (resolve : Resolver) (n : NodeId) : Option TypeName := do
  match ← t.arena.list? n with
  | [] => none
  | first :: rest =>
    let element ← resolve first
    if rest.all fun other => resolve other == some element then
      return RawType.listOf element
    else none

/-- An element of a list or a value of a dictionary. -/
def elementAccessType (t : TypedTree) (resolve : Resolver) (n : NodeId) : Option TypeName := do
  let access ← t.arena.access? n
  let container ← (← resolve access.expression).command?
  if container.name == CommandName.listType then container.args[0]?
  else if container.name == CommandName.dictionaryType then container.args[1]?
  else none

/-- A type literal with a single index signature is a dictionary; one that is kept as text is read
from its text. -/
def typeLiteralType (t : TypedTree) (resolve : Resolver) (n : NodeId) : Option TypeName :=
  match t.arena.list? n with
  | none => RawType.parse? (t.arena.text n)
  | some [member] => do
    let signature ← t.arena.indexSignature? member
    let parameter ← t.arena.valueDecl? (← signature.parameters.head?)
    let key ← resolve (← parameter.annotation)
    let value ← resolve (← signature.annotation)
    return RawType.dictionaryOf key value
  | some _ => none

/-- A variable has its annotated type, or else the type of its initializer. -/
def variableType (t : TypedTree) (resolve : Resolver) (n : NodeId) : Option TypeName := do
  let decl ← t.arena.valueDecl? n
  match decl.annotation, decl.initializer with
  | some annotation, _ => resolve annotation
  | none, some initializer => resolve initializer
  | none, none => none

/-- The type follows from the kind of the node. -/
def knownKind : Strategy := fun t resolve n =>
  match t.arena.kind? n with
  | some .arrayLiteralExpression => .settled (arrayLiteralType t resolve n)
  | some .booleanKeyword => .settled (some (.text "boolean"))
  | some .trueKeyword => .settled (some (.text "boolean"))
  | some .falseKeyword => .settled (some (.text "boolean"))
  | some .elementAccessExpression => .settled (elementAccessType t resolve n)
  | some .newExpression =>
    .settled ((t.arena.call? n).map fun call => .text (t.arena.text call.expression))
  | some .numberKeyword => .settled (some (.text "float"))
  | some .numericLiteral => .settled (some (numericLiteralType (t.arena.text n)))
  | some .typeLiteral => .settled (typeLiteralType t resolve n)
  | some .stringKeyword => .settled (some (.text "string"))
  | some .stringLiteral => .settled (some (.text "string"))
  | some .variableDeclaration => .settled (variableType t resolve n)
  | _ => .next

/-! ### The other strategies -/

/-- Kinds that have the type of their first child. -/
def isTransparent : Kind → Bool
  | .expressionStatement | .parenthesizedExpression | .parenthesizedType | .syntaxList => true
  | _ => false

/-- The type of the only child. -/
def passThrough : Strategy := fun t resolve n =>
  match t.arena.kind? n with
  | some kind =>
    if isTransparent kind then
      match t.arena.children n with
      | child :: _ => .settled (resolve child)
      | [] => .next
    else .next
  | none => .next

/-- The name of a primitive type, and of a number literal. -/
def primitiveName? (types : TypeTable) (ty : TypeId) : Option TypeName :=
  let flags := types.flags ty
  if flags.isBooleanLike then some (.text "boolean")
  else if flags.isStringLike then some (.text "string")
  else
    match flags.isNumberLiteral, types.literalValue? ty with
    | true, some value => some (numericLiteralType value)
    | _, _ =>
      if flags.isNumberLike then some (.text "float")
      else if flags.isVoid then some (.text "void")
      else none

/-- The flags of the type that the type checker found. -/
def typeFlags : Strategy := fun t _ n =>
  match (t.types.typeAt? n).bind (primitiveName? t.types) with
  | some name => .settled (some name)
  | none => .next

/-- Kinds of declarations that a symbol takes its type from. -/
def declaresValue : Kind → Bool
  | .parameter | .propertyDeclaration | .variableDeclaration => true
  | _ => false

/-- The type of the declaration of the node's symbol. -/
def valueDeclaration : Strategy := fun t resolve n =>
  let declaration := ((t.types.symbolAt? n).bind t.types.symbol?).bind TypeSymbol.valueDeclaration
  match declaration with
  | some d =>
    if d != n && ((t.arena.kind? d).map declaresValue).getD false then .settled (resolve d)
    else .next
  | none => .next

/-- The annotation of a declaration. -/
def declaredType : Strategy := fun t resolve n =>
  if ((t.arena.kind? n).map declaresValue).getD false then
    match (t.arena.valueDecl? n).bind Payload.ValueDecl.annotation with
    | some annotation => .settled (resolve annotation)
    | none => .next
  else .next

/-- The text of a type. -/
def rawTypeText : Strategy := fun t _ n =>
  if ((t.arena.kind? n).map Kind.isTypeNode).getD false then
    .settled (RawType.parse? (t.arena.text n))
  else .next

/-- The symbol of the type that the type checker found, when it stands for a value. -/
def typeSymbolName : Strategy := fun t _ n =>
  match ((t.types.typeAt? n).bind t.types.typeSymbol?).bind t.types.symbol? with
  | some s => if s.valueDeclaration.isSome then .settled (some (.text s.name)) else .next
  | none => .next

/-- The strategies by name, in the order in which they are tried. -/
def strategies : List (String × Strategy) :=
  [("known kind", knownKind), ("pass-through", passThrough), ("type flags", typeFlags),
   ("value declaration", valueDeclaration), ("declared annotation", declaredType),
   ("raw type text", rawTypeText), ("type symbol", typeSymbolName)]

/-! ### Resolution -/

/-- The answer of the first strategy that settles the question. -/
def firstSettled (t : TypedTree) (resolve : Resolver) (n : NodeId) :
    List (String × Strategy) → Option TypeName
  | [] => none
  | s :: ss =>
    match s.2 t resolve n with
    | .settled name => name
    | .next => firstSettled t resolve n ss

/-- The type of a node, when questions may go `budget` levels deep, this one included. -/
def resolveWithin (t : TypedTree) : Nat → NodeId → Option TypeName
  | 0, _ => none
  | budget + 1, n =>
    match t.arena.get? n with
    | none => none
    | some _ => firstSettled t (resolveWithin t budget) n strategies

/-- The type of a node that is asked for at a given depth. -/
def resolve (t : TypedTree) (n : NodeId) (depth : Nat) : Option TypeName :=
  resolveWithin t (maxDepth + 1 - depth) n

/-- The name of a node's type, if it has one. -/
def typeName? (t : TypedTree) (n : NodeId) : Option TypeName := t.resolve n 0

/-- What one strategy says about a node, asked at a given depth. -/
def ask (t : TypedTree) (s : Strategy) (n : NodeId) (depth : Nat) : Step :=
  s t (fun m => t.resolve m depth) n

end TypedTree

end Gls
