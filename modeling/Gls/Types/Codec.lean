/-
# Types and symbols as JSON

How the findings of the type checker are written in documents, and read from them.
-/
import Gls.Tree.Codec
import Gls.Types.Table

namespace Gls

open Json (asList? asMap? asString? asUInt32? keyUInt32?)

/-- Writes the place of a type. -/
def TypeId.toJson (t : TypeId) : Json := .ofNat t.index.toNat

/-- Reads the place of a type. -/
def TypeId.ofJson? (v : Json) : Option TypeId := (asUInt32? v).map (⟨·⟩)

/-- Writes the place of a symbol. -/
def SymbolId.toJson (s : SymbolId) : Json := .ofNat s.index.toNat

/-- Reads the place of a symbol. -/
def SymbolId.ofJson? (v : Json) : Option SymbolId := (asUInt32? v).map (⟨·⟩)

/-- Writes flags. -/
def TypeFlags.toJson (f : TypeFlags) : Json := .ofString f.write

/-- Reads flags. -/
def TypeFlags.ofJson? (v : Json) : Option TypeFlags := (asString? v).bind TypeFlags.read?

/-- Writes a symbol. -/
def TypeSymbol.toJson (s : TypeSymbol) : Json :=
  .ofMembers [("name", .ofString s.name),
    ("value_declaration", NodeId.optionJson s.valueDeclaration)]

/-- Reads a symbol. -/
def TypeSymbol.ofJson? (v : Json) : Option TypeSymbol := do
  let r ← Json.Record.ofJson? ["name", "value_declaration"] false v
  return {
    name := ← r.required? "name" asString?
    valueDeclaration := ← r.optional? "value_declaration" NodeId.ofJson? }

/-- Writes a signature. -/
def Signature.toJson (s : Signature) : Json := .ofMembers [("return_type", s.returnType.toJson)]

/-- Reads a signature. -/
def Signature.ofJson? (v : Json) : Option Signature := do
  let r ← Json.Record.ofJson? ["return_type"] false v
  return { returnType := ← r.required? "return_type" TypeId.ofJson? }

/-- Writes a type. -/
def TypeData.toJson (d : TypeData) : Json :=
  .ofMembers [("flags", d.flags.toJson), ("symbol", .ofOption SymbolId.toJson d.symbol),
    ("intrinsic_name", .ofOption .ofString d.intrinsicName),
    ("literal_value", .ofOption .ofString d.literalValue),
    ("call_signatures", .ofList Signature.toJson d.callSignatures)]

/-- Reads a type. -/
def TypeData.ofJson? (v : Json) : Option TypeData := do
  let r ← Json.Record.ofJson?
    ["flags", "symbol", "intrinsic_name", "literal_value", "call_signatures"] false v
  return {
    flags := ← r.required? "flags" TypeFlags.ofJson?
    symbol := ← r.optional? "symbol" SymbolId.ofJson?
    intrinsicName := ← r.optional? "intrinsic_name" asString?
    literalValue := ← r.optional? "literal_value" asString?
    callSignatures := ← r.withDefault? "call_signatures" (asList? Signature.ofJson?) [] }

/-- Writes a map from nodes. -/
def nodeMapJson {α : Type} (value : α → Json) (m : OrderedMap NodeId α) : Json :=
  .ofMembers (m.entries.map fun e => (toString e.1.toNat, value e.2))

/-- Reads a map from nodes. -/
def nodeMap? {α : Type} (value : Json → Option α) (v : Json) : Option (OrderedMap NodeId α) :=
  asMap? (fun raw => (keyUInt32? raw).map (⟨·⟩)) value v

namespace TypeTable

/-- Writes a table. -/
def toJson (t : TypeTable) : Json :=
  .ofMembers [("types", .ofList TypeData.toJson t.types.toList),
    ("symbols", .ofList TypeSymbol.toJson t.symbols.toList),
    ("node_types", nodeMapJson TypeId.toJson t.nodeTypes),
    ("node_symbols", nodeMapJson SymbolId.toJson t.nodeSymbols)]

/-- Reads a table. -/
def ofJson? (v : Json) : Option TypeTable := do
  let r ← Json.Record.ofJson? ["types", "symbols", "node_types", "node_symbols"] false v
  return {
    types := (← r.withDefault? "types" (asList? TypeData.ofJson?) []).toArray
    symbols := (← r.withDefault? "symbols" (asList? TypeSymbol.ofJson?) []).toArray
    nodeTypes := ← r.withDefault? "node_types" (nodeMap? TypeId.ofJson?) .empty
    nodeSymbols := ← r.withDefault? "node_symbols" (nodeMap? SymbolId.ofJson?) .empty }

end TypeTable

end Gls
