/-
# Types and symbols of a source file

A type checker has already looked at the source file.  What it found is recorded in tables: the
types and symbols it made, and which of them belongs to which node.
-/
import Gls.OrderedMap
import Gls.Tree.Node

namespace Gls

/-- The place of a type in its table. -/
structure TypeId where
  index : UInt32
deriving DecidableEq

/-- The place of a symbol in its table. -/
structure SymbolId where
  index : UInt32
deriving DecidableEq

/-- What sort of type a type is. -/
structure TypeFlags where
  bits : BitVec 32 := 0
deriving DecidableEq

namespace TypeFlags

/-- The flags by name. -/
def names : FlagNames 32 where
  single :=
    [("ANY", 0x1#32), ("UNKNOWN", 0x2#32), ("STRING", 0x4#32), ("NUMBER", 0x8#32),
     ("BOOLEAN", 0x10#32), ("ENUM", 0x20#32), ("BIGINT", 0x40#32), ("STRING_LITERAL", 0x80#32),
     ("NUMBER_LITERAL", 0x100#32), ("BOOLEAN_LITERAL", 0x200#32), ("ENUM_LITERAL", 0x400#32),
     ("VOID", 0x800#32), ("UNDEFINED", 0x1000#32), ("NULL", 0x2000#32), ("NEVER", 0x4000#32),
     ("TYPE_PARAMETER", 0x8000#32), ("OBJECT", 0x10000#32), ("UNION", 0x20000#32),
     ("INTERSECTION", 0x40000#32)]
  several :=
    [("STRING_LIKE", 0x84#32), ("NUMBER_LIKE", 0x108#32), ("BOOLEAN_LIKE", 0x210#32)]

/-- A number literal. -/
def numberLiteral : TypeFlags := ⟨0x100#32⟩

/-- An object. -/
def object : TypeFlags := ⟨0x10000#32⟩

/-- A string or a string literal. -/
def isStringLike (f : TypeFlags) : Bool := f.bits &&& 0x84#32 != 0

/-- A number or a number literal. -/
def isNumberLike (f : TypeFlags) : Bool := f.bits &&& 0x108#32 != 0

/-- A boolean or a boolean literal. -/
def isBooleanLike (f : TypeFlags) : Bool := f.bits &&& 0x210#32 != 0

/-- A number literal. -/
def isNumberLiteral (f : TypeFlags) : Bool := f.bits &&& 0x100#32 != 0

/-- The type of functions that return nothing. -/
def isVoid (f : TypeFlags) : Bool := f.bits &&& 0x800#32 != 0

/-- Reads flags. -/
def read? (text : String) : Option TypeFlags := (names.read? text).map (⟨·⟩)

/-- Writes flags. -/
def write (f : TypeFlags) : String := names.write f.bits

end TypeFlags

/-- A name with what it is bound to. -/
structure TypeSymbol where
  name : String
  /-- The declaration that introduces the value of the symbol. -/
  valueDeclaration : Option NodeId := none

/-- A way to call a type. -/
structure Signature where
  returnType : TypeId

/-- What is known about a type. -/
structure TypeData where
  flags : TypeFlags := {}
  symbol : Option SymbolId := none
  /-- The name of a primitive type. -/
  intrinsicName : Option String := none
  /-- The text of a literal type. -/
  literalValue : Option String := none
  callSignatures : List Signature := []

/-- What the type checker found. -/
structure TypeTable where
  types : Array TypeData := #[]
  symbols : Array TypeSymbol := #[]
  nodeTypes : OrderedMap NodeId TypeId := .empty
  nodeSymbols : OrderedMap NodeId SymbolId := .empty

namespace TypeTable

/-! ### Recording -/

/-- Adds a type. -/
def addType (t : TypeTable) (data : TypeData) : TypeTable × TypeId :=
  ({ t with types := t.types.push data }, ⟨UInt32.ofNat t.types.size⟩)

/-- Adds a primitive type. -/
def addIntrinsic (t : TypeTable) (flags : TypeFlags) (name : String) : TypeTable × TypeId :=
  t.addType { flags, intrinsicName := some name }

/-- Adds the type of a number literal. -/
def addNumberLiteral (t : TypeTable) (value : String) : TypeTable × TypeId :=
  t.addType { flags := .numberLiteral, literalValue := some value }

/-- Adds the type of the instances of a class or interface. -/
def addObject (t : TypeTable) (symbol : SymbolId) : TypeTable × TypeId :=
  t.addType { flags := .object, symbol := some symbol }

/-- Adds the type of a function. -/
def addFunction (t : TypeTable) (signatures : List Signature) : TypeTable × TypeId :=
  t.addType { flags := .object, callSignatures := signatures }

/-- Adds a symbol. -/
def addSymbol (t : TypeTable) (name : String) (declaration : Option NodeId) :
    TypeTable × SymbolId :=
  ({ t with symbols := t.symbols.push ⟨name, declaration⟩ }, ⟨UInt32.ofNat t.symbols.size⟩)

/-- Records the type of a node. -/
def setNodeType (t : TypeTable) (n : NodeId) (ty : TypeId) : TypeTable :=
  { t with nodeTypes := t.nodeTypes.insert n ty }

/-- Records the symbol of a node. -/
def setNodeSymbol (t : TypeTable) (n : NodeId) (s : SymbolId) : TypeTable :=
  { t with nodeSymbols := t.nodeSymbols.insert n s }

/-! ### Asking -/

/-- The type of a node. -/
def typeAt? (t : TypeTable) (n : NodeId) : Option TypeId := t.nodeTypes.get? n

/-- The symbol of a node. -/
def symbolAt? (t : TypeTable) (n : NodeId) : Option SymbolId := t.nodeSymbols.get? n

/-- What is known about a type. -/
def data? (t : TypeTable) (ty : TypeId) : Option TypeData := t.types[ty.index.toNat]?

/-- The flags of a type. -/
def flags (t : TypeTable) (ty : TypeId) : TypeFlags := ((t.data? ty).map TypeData.flags).getD {}

/-- The symbol of a type. -/
def typeSymbol? (t : TypeTable) (ty : TypeId) : Option SymbolId :=
  (t.data? ty).bind TypeData.symbol

/-- A symbol. -/
def symbol? (t : TypeTable) (s : SymbolId) : Option TypeSymbol := t.symbols[s.index.toNat]?

/-- The ways to call a type. -/
def callSignatures (t : TypeTable) (ty : TypeId) : List Signature :=
  ((t.data? ty).map TypeData.callSignatures).getD []

/-- The name of a primitive type. -/
def intrinsicName? (t : TypeTable) (ty : TypeId) : Option String :=
  (t.data? ty).bind TypeData.intrinsicName

/-- The text of a literal type. -/
def literalValue? (t : TypeTable) (ty : TypeId) : Option String :=
  (t.data? ty).bind TypeData.literalValue

end TypeTable

end Gls
