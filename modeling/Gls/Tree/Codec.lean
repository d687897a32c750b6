/-
# Syntax trees as JSON

How kinds, nodes and arenas are written in documents, and read from them.
-/
import Gls.Json.Decode
import Gls.Tree.Arena

namespace Gls

open Json (asList? asNullable? asString? asUInt32?)

/-! ### Names of nodes and kinds -/

/-- Writes the place of a node. -/
def NodeId.toJson (n : NodeId) : Json := .ofNat n.toNat

/-- Reads the place of a node. -/
def NodeId.ofJson? (v : Json) : Option NodeId := (asUInt32? v).map (⟨·⟩)

/-- Writes a kind. -/
def Kind.toJson (k : Kind) : Json := .ofString k.name

/-- Reads a kind. -/
def Kind.ofJson? (v : Json) : Option Kind := (Json.bareVariant? v).bind Kind.ofName?

/-- Writes modifiers. -/
def Modifiers.toJson (m : Modifiers) : Json := .ofString m.write

/-- Reads modifiers. -/
def Modifiers.ofJson? (v : Json) : Option Modifiers := (asString? v).bind Modifiers.read?

/-- Writes a list of nodes. -/
def NodeId.listJson (ns : List NodeId) : Json := .ofList toJson ns

/-- Reads a list of nodes. -/
def NodeId.list? (v : Json) : Option (List NodeId) := asList? ofJson? v

/-- Writes a node that may be absent. -/
def NodeId.optionJson (n : Option NodeId) : Json := .ofOption toJson n

/-! ### Payloads -/

namespace Payload

/-- Writes a class. -/
def Class.toJson (d : Class) : Json :=
  .ofMembers [("name", NodeId.optionJson d.name),
    ("heritage_clauses", NodeId.listJson d.heritageClauses),
    ("members", NodeId.listJson d.members)]

/-- Reads a class. -/
def Class.ofJson? (v : Json) : Option Class := do
  let r ← Json.Record.ofJson? ["name", "heritage_clauses", "members"] false v
  return {
    name := ← r.nullable? "name" NodeId.ofJson?
    heritageClauses := ← r.required? "heritage_clauses" NodeId.list?
    members := ← r.required? "members" NodeId.list? }

/-- Writes an interface. -/
def Interface.toJson (d : Interface) : Json :=
  .ofMembers [("name", d.name.toJson), ("heritage_clauses", NodeId.listJson d.heritageClauses),
    ("members", NodeId.listJson d.members)]

/-- Reads an interface. -/
def Interface.ofJson? (v : Json) : Option Interface := do
  let r ← Json.Record.ofJson? ["name", "heritage_clauses", "members"] false v
  return {
    name := ← r.required? "name" NodeId.ofJson?
    heritageClauses := ← r.required? "heritage_clauses" NodeId.list?
    members := ← r.required? "members" NodeId.list? }

/-- Writes a heritage clause. -/
def Heritage.toJson (d : Heritage) : Json :=
  .ofMembers [("token", d.token.toJson), ("types", NodeId.listJson d.types)]

/-- Reads a heritage clause. -/
def Heritage.ofJson? (v : Json) : Option Heritage := do
  let r ← Json.Record.ofJson? ["token", "types"] false v
  return {
    token := ← r.required? "token" Kind.ofJson?
    types := ← r.required? "types" NodeId.list? }

/-- Writes a name with type arguments. -/
def ExprWithTypeArgs.toJson (d : ExprWithTypeArgs) : Json :=
  .ofMembers [("expression", d.expression.toJson),
    ("type_arguments", NodeId.listJson d.typeArguments)]

/-- Reads a name with type arguments. -/
def ExprWithTypeArgs.ofJson? (v : Json) : Option ExprWithTypeArgs := do
  let r ← Json.Record.ofJson? ["expression", "type_arguments"] false v
  return {
    expression := ← r.required? "expression" NodeId.ofJson?
    typeArguments := ← r.required? "type_arguments" NodeId.list? }

/-- Writes a declaration of a value. -/
def ValueDecl.toJson (d : ValueDecl) : Json :=
  .ofMembers [("name", d.name.toJson), ("type_annotation", NodeId.optionJson d.annotation),
    ("initializer", NodeId.optionJson d.initializer)]

/-- Reads a declaration of a value. -/
def ValueDecl.ofJson? (v : Json) : Option ValueDecl := do
  let r ← Json.Record.ofJson? ["name", "type_annotation", "initializer"] false v
  return {
    name := ← r.required? "name" NodeId.ofJson?
    annotation := ← r.nullable? "type_annotation" NodeId.ofJson?
    initializer := ← r.nullable? "initializer" NodeId.ofJson? }

/-- Writes a function. -/
def Function.toJson (d : Function) : Json :=
  .ofMembers [("name", NodeId.optionJson d.name), ("parameters", NodeId.listJson d.parameters),
    ("type_annotation", NodeId.optionJson d.annotation), ("body", NodeId.optionJson d.body)]

/-- Reads a function. -/
def Function.ofJson? (v : Json) : Option Function := do
  let r ← Json.Record.ofJson? ["name", "parameters", "type_annotation", "body"] false v
  return {
    name := ← r.nullable? "name" NodeId.ofJson?
    parameters := ← r.required? "parameters" NodeId.list?
    annotation := ← r.nullable? "type_annotation" NodeId.ofJson?
    body := ← r.nullable? "body" NodeId.ofJson? }

/-- Writes a call. -/
def Call.toJson (d : Call) : Json :=
  .ofMembers [("expression", d.expression.toJson),
    ("type_arguments", NodeId.listJson d.typeArguments),
    ("arguments", NodeId.listJson d.arguments)]

/-- Reads a call. -/
def Call.ofJson? (v : Json) : Option Call := do
  let r ← Json.Record.ofJson? ["expression", "type_arguments", "arguments"] false v
  return {
    expression := ← r.required? "expression" NodeId.ofJson?
    typeArguments := ← r.required? "type_arguments" NodeId.list?
    arguments := ← r.required? "arguments" NodeId.list? }

/-- Writes an access. -/
def Access.toJson (d : Access) : Json :=
  .ofMembers [("expression", d.expression.toJson), ("name_or_argument", d.nameOrArgument.toJson)]

/-- Reads an access. -/
def Access.ofJson? (v : Json) : Option Access := do
  let r ← Json.Record.ofJson? ["expression", "name_or_argument"] false v
  return {
    expression := ← r.required? "expression" NodeId.ofJson?
    nameOrArgument := ← r.required? "name_or_argument" NodeId.ofJson? }

/-- Writes a binary operation. -/
def Binary.toJson (d : Binary) : Json :=
  .ofMembers [("left", d.left.toJson), ("operator", d.operator.toJson),
    ("right", d.right.toJson)]

/-- Reads a binary operation. -/
def Binary.ofJson? (v : Json) : Option Binary := do
  let r ← Json.Record.ofJson? ["left", "operator", "right"] false v
  return {
    left := ← r.required? "left" NodeId.ofJson?
    operator := ← r.required? "operator" Kind.ofJson?
    right := ← r.required? "right" NodeId.ofJson? }

/-- Writes a unary operation. -/
def Unary.toJson (d : Unary) : Json :=
  .ofMembers [("operator", d.operator.toJson), ("operand", d.operand.toJson)]

/-- Reads a unary operation. -/
def Unary.ofJson? (v : Json) : Option Unary := do
  let r ← Json.Record.ofJson? ["operator", "operand"] false v
  return {
    operator := ← r.required? "operator" Kind.ofJson?
    operand := ← r.required? "operand" NodeId.ofJson? }

/-- Writes an if statement. -/
def Conditional.toJson (d : Conditional) : Json :=
  .ofMembers [("condition", d.condition.toJson), ("then_statement", d.thenStatement.toJson),
    ("else_statement", NodeId.optionJson d.elseStatement)]

/-- Reads an if statement. -/
def Conditional.ofJson? (v : Json) : Option Conditional := do
  let r ← Json.Record.ofJson? ["condition", "then_statement", "else_statement"] false v
  return {
    condition := ← r.required? "condition" NodeId.ofJson?
    thenStatement := ← r.required? "then_statement" NodeId.ofJson?
    elseStatement := ← r.nullable? "else_statement" NodeId.ofJson? }

/-- Writes a for statement. -/
def Loop.toJson (d : Loop) : Json :=
  .ofMembers [("initializer", NodeId.optionJson d.initializer),
    ("condition", NodeId.optionJson d.condition),
    ("incrementor", NodeId.optionJson d.incrementor), ("statement", d.statement.toJson)]

/-- Reads a for statement. -/
def Loop.ofJson? (v : Json) : Option Loop := do
  let r ← Json.Record.ofJson? ["initializer", "condition", "incrementor", "statement"] false v
  return {
    initializer := ← r.nullable? "initializer" NodeId.ofJson?
    condition := ← r.nullable? "condition" NodeId.ofJson?
    incrementor := ← r.nullable? "incrementor" NodeId.ofJson?
    statement := ← r.required? "statement" NodeId.ofJson? }

/-- Writes a reference to a type. -/
def TypeRef.toJson (d : TypeRef) : Json :=
  .ofMembers [("type_name", d.typeName.toJson),
    ("type_arguments", NodeId.listJson d.typeArguments)]

/-- Reads a reference to a type. -/
def TypeRef.ofJson? (v : Json) : Option TypeRef := do
  let r ← Json.Record.ofJson? ["type_name", "type_arguments"] false v
  return {
    typeName := ← r.required? "type_name" NodeId.ofJson?
    typeArguments := ← r.required? "type_arguments" NodeId.list? }

/-- Writes an index signature. -/
def IndexSignature.toJson (d : IndexSignature) : Json :=
  .ofMembers [("parameters", NodeId.listJson d.parameters),
    ("type_annotation", NodeId.optionJson d.annotation)]

/-- Reads an index signature. -/
def IndexSignature.ofJson? (v : Json) : Option IndexSignature := do
  let r ← Json.Record.ofJson? ["parameters", "type_annotation"] false v
  return {
    parameters := ← r.required? "parameters" NodeId.list?
    annotation := ← r.nullable? "type_annotation" NodeId.ofJson? }

/-- Writes the one text field of a record. -/
def textJson (field text : String) : Json := .ofMembers [(field, .ofString text)]

/-- Reads the one text field of a record. -/
def textField? (field : String) (v : Json) : Option String :=
  (Json.Record.ofJson? [field] false v).bind fun r => r.required? field asString?

/-- Writes a payload. -/
def toJson : Payload → Json
  | .none => .ofString "None"
  | .identifier text => .ofVariant "Identifier" (textJson "escaped_text" text)
  | .literal text => .ofVariant "Literal" (textJson "text" text)
  | .list elements => .ofVariant "List" (NodeId.listJson elements)
  | .wrapped inner => .ofVariant "Wrapped" (NodeId.optionJson inner)
  | .class_ d => .ofVariant "Class" d.toJson
  | .interface d => .ofVariant "Interface" d.toJson
  | .heritage d => .ofVariant "Heritage" d.toJson
  | .exprWithTypeArgs d => .ofVariant "ExprWithTypeArgs" d.toJson
  | .valueDecl d => .ofVariant "ValueDecl" d.toJson
  | .function d => .ofVariant "Function" d.toJson
  | .call d => .ofVariant "Call" d.toJson
  | .access d => .ofVariant "Access" d.toJson
  | .binary d => .ofVariant "Binary" d.toJson
  | .unary d => .ofVariant "Unary" d.toJson
  | .conditional d => .ofVariant "If" d.toJson
  | .loop d => .ofVariant "Loop" d.toJson
  | .typeRef d => .ofVariant "TypeRef" d.toJson
  | .indexSignature d => .ofVariant "IndexSignature" d.toJson

/-- Reads the payload of a named form. -/
def ofVariant? (name : String) (v : Json) : Option Payload :=
  match name with
  | "None" => if v matches .null then some .none else Option.none
  | "Identifier" => (textField? "escaped_text" v).map .identifier
  | "Literal" => (textField? "text" v).map .literal
  | "List" => (NodeId.list? v).map .list
  | "Wrapped" => (asNullable? NodeId.ofJson? v).map .wrapped
  | "Class" => (Class.ofJson? v).map .class_
  | "Interface" => (Interface.ofJson? v).map .interface
  | "Heritage" => (Heritage.ofJson? v).map .heritage
  | "ExprWithTypeArgs" => (ExprWithTypeArgs.ofJson? v).map .exprWithTypeArgs
  | "ValueDecl" => (ValueDecl.ofJson? v).map .valueDecl
  | "Function" => (Function.ofJson? v).map .function
  | "Call" => (Call.ofJson? v).map .call
  | "Access" => (Access.ofJson? v).map .access
  | "Binary" => (Binary.ofJson? v).map .binary
  | "Unary" => (Unary.ofJson? v).map .unary
  | "If" => (Conditional.ofJson? v).map .conditional
  | "Loop" => (Loop.ofJson? v).map .loop
  | "TypeRef" => (TypeRef.ofJson? v).map .typeRef
  | "IndexSignature" => (IndexSignature.ofJson? v).map .indexSignature
  | _ => Option.none

/-- Reads a payload. -/
def ofJson? (v : Json) : Option Payload :=
  match Json.variant? v with
  | some (name, some payload) => ofVariant? name payload
  | some (name, Option.none) => if name == "None" then some .none else Option.none
  | Option.none => Option.none

end Payload

/-! ### Nodes and arenas -/

/-- Writes a node.  No parent and no modifiers are left out. -/
def Node.toJson (n : Node) : Json :=
  .ofMembers (
    [("kind", n.kind.toJson), ("pos", .ofNat n.pos.toNat), ("end", .ofNat n.stop.toNat)]
    ++ (match n.parent with
        | some p => [("parent", p.toJson)]
        | none => [])
    ++ (if n.modifiers.isEmpty then [] else [("modifiers", n.modifiers.toJson)])
    ++ [("data", n.payload.toJson)])

/-- Reads a node. -/
def Node.ofJson? (v : Json) : Option Node := do
  let r ← Json.Record.ofJson? ["kind", "pos", "end", "parent", "modifiers", "data"] false v
  return {
    kind := ← r.required? "kind" Kind.ofJson?
    pos := ← r.required? "pos" asUInt32?
    stop := ← r.required? "end" asUInt32?
    parent := ← r.optional? "parent" NodeId.ofJson?
    modifiers := ← r.withDefault? "modifiers" Modifiers.ofJson? {}
    payload := ← r.withDefault? "data" Payload.ofJson? .none }

/-- Writes an arena. -/
def Arena.toJson (a : Arena) : Json :=
  .ofMembers [("source_text", .ofString a.sourceText),
    ("nodes", .ofList Node.toJson a.nodes.toList)]

/-- Reads an arena. -/
def Arena.ofJson? (v : Json) : Option Arena := do
  let r ← Json.Record.ofJson? ["source_text", "nodes"] false v
  return {
    sourceText := ← r.required? "source_text" asString?
    nodes := (← r.required? "nodes" (asList? Node.ofJson?)).toArray }

end Gls
