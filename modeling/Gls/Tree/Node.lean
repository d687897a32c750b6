/-
# Nodes of a syntax tree

A node has a kind, a range of source text, a parent, modifiers, and a payload that depends on what
the node is.  The children of a node are the nodes its payload names, in source order; they are not
stored apart from it.
-/
import Gls.Text.Span
import Gls.Tree.Flags
import Gls.Tree.Kind

namespace Gls

/-- The place of a node in its arena. -/
structure NodeId where
  index : UInt32
deriving DecidableEq

/-- The place as a natural number. -/
def NodeId.toNat (n : NodeId) : Nat := n.index.toNat

/-- The node at a place. -/
def NodeId.ofNat (n : Nat) : NodeId := ⟨UInt32.ofNat n⟩

theorem NodeId.ofNat_toNat (n : NodeId) : NodeId.ofNat n.toNat = n := by
  simp [NodeId.ofNat, NodeId.toNat]

theorem NodeId.toNat_ofNat {i : Nat} (h : i < UInt32.size) : (NodeId.ofNat i).toNat = i :=
  UInt32.toNat_ofNat_of_lt' h

namespace Payload

/-- A class. -/
structure Class where
  name : Option NodeId
  heritageClauses : List NodeId
  members : List NodeId

/-- An interface. -/
structure Interface where
  name : NodeId
  heritageClauses : List NodeId
  members : List NodeId

/-- A heritage clause: what follows `extends` or `implements`. -/
structure Heritage where
  token : Kind
  types : List NodeId

/-- A name with type arguments in a heritage clause. -/
structure ExprWithTypeArgs where
  expression : NodeId
  typeArguments : List NodeId

/-- A property, a property signature, a parameter or a variable. -/
structure ValueDecl where
  name : NodeId
  annotation : Option NodeId
  initializer : Option NodeId

/-- A method, a method signature, a constructor or a function. -/
structure Function where
  name : Option NodeId
  parameters : List NodeId
  annotation : Option NodeId
  body : Option NodeId

/-- A call, or the creation of an object. -/
structure Call where
  expression : NodeId
  typeArguments : List NodeId
  arguments : List NodeId

/-- The access to a member by name, or to an element by index. -/
structure Access where
  expression : NodeId
  nameOrArgument : NodeId

/-- A binary operation. -/
structure Binary where
  left : NodeId
  operator : Kind
  right : NodeId

/-- A unary operation. -/
structure Unary where
  operator : Kind
  operand : NodeId

/-- An if statement. -/
structure Conditional where
  condition : NodeId
  thenStatement : NodeId
  elseStatement : Option NodeId

/-- A for statement. -/
structure Loop where
  initializer : Option NodeId
  condition : Option NodeId
  incrementor : Option NodeId
  statement : NodeId

/-- A reference to a type by name. -/
structure TypeRef where
  typeName : NodeId
  typeArguments : List NodeId

/-- An index signature inside a type literal. -/
structure IndexSignature where
  parameters : List NodeId
  annotation : Option NodeId

end Payload

/-- What a node holds besides its header. -/
inductive Payload where
  /-- Nothing: tokens and keywords. -/
  | none
  | identifier (text : String)
  /-- A literal as it is written, quotes included. -/
  | literal (text : String)
  /-- Elements in order: files, blocks, lists of declarations, array and type literals. -/
  | list (elements : List NodeId)
  /-- At most one inner node: statements made of an expression, parentheses, return statements. -/
  | wrapped (inner : Option NodeId)
  | class_ (data : Payload.Class)
  | interface (data : Payload.Interface)
  | heritage (data : Payload.Heritage)
  | exprWithTypeArgs (data : Payload.ExprWithTypeArgs)
  | valueDecl (data : Payload.ValueDecl)
  | function (data : Payload.Function)
  | call (data : Payload.Call)
  | access (data : Payload.Access)
  | binary (data : Payload.Binary)
  | unary (data : Payload.Unary)
  | conditional (data : Payload.Conditional)
  | loop (data : Payload.Loop)
  | typeRef (data : Payload.TypeRef)
  | indexSignature (data : Payload.IndexSignature)

/-- The nodes a payload names, in source order. -/
def Payload.children : Payload → List NodeId
  | .none | .identifier _ | .literal _ => []
  | .list elements => elements
  | .wrapped inner => inner.toList
  | .class_ d => d.name.toList ++ d.heritageClauses ++ d.members
  | .interface d => d.name :: d.heritageClauses ++ d.members
  | .heritage d => d.types
  | .exprWithTypeArgs d => d.expression :: d.typeArguments
  | .valueDecl d => d.name :: d.annotation.toList ++ d.initializer.toList
  | .function d => d.name.toList ++ d.parameters ++ d.annotation.toList ++ d.body.toList
  | .call d => d.expression :: d.typeArguments ++ d.arguments
  | .access d => [d.expression, d.nameOrArgument]
  | .binary d => [d.left, d.right]
  | .unary d => [d.operand]
  | .conditional d => d.condition :: d.thenStatement :: d.elseStatement.toList
  | .loop d =>
    d.initializer.toList ++ d.condition.toList ++ d.incrementor.toList ++ [d.statement]
  | .typeRef d => d.typeName :: d.typeArguments
  | .indexSignature d => d.parameters ++ d.annotation.toList

/-! ### Payloads of a given form -/

/-- A form that payloads may have: how a payload of it is made, and what such a payload holds. -/
structure Payload.Form (α : Type) where
  make : α → Payload
  read : Payload → Option α
  read_make : ∀ x, read (make x) = some x := by
    exact fun _ => rfl
  make_of_read : ∀ p x, read p = some x → make x = p := by
    rintro (_ | _) _ ⟨⟩; rfl

namespace Payload.Form

def identifier : Form String where
  make := .identifier
  read
    | .identifier text => some text
    | _ => .none

def literal : Form String where
  make := .literal
  read
    | .literal text => some text
    | _ => .none

def list : Form (List NodeId) where
  make := .list
  read
    | .list elements => some elements
    | _ => .none

/-- Only a wrapper that has an inner node is of this form. -/
def wrapped : Form NodeId where
  make m := .wrapped (some m)
  read
    | .wrapped inner => inner
    | _ => .none

def class_ : Form Class where
  make := .class_
  read
    | .class_ d => some d
    | _ => .none

def interface : Form Interface where
  make := .interface
  read
    | .interface d => some d
    | _ => .none

def heritage : Form Heritage where
  make := .heritage
  read
    | .heritage d => some d
    | _ => .none

def exprWithTypeArgs : Form ExprWithTypeArgs where
  make := .exprWithTypeArgs
  read
    | .exprWithTypeArgs d => some d
    | _ => .none

def valueDecl : Form ValueDecl where
  make := .valueDecl
  read
    | .valueDecl d => some d
    | _ => .none

def function : Form Function where
  make := .function
  read
    | .function d => some d
    | _ => .none

def call : Form Call where
  make := .call
  read
    | .call d => some d
    | _ => .none

def access : Form Access where
  make := .access
  read
    | .access d => some d
    | _ => .none

def binary : Form Binary where
  make := .binary
  read
    | .binary d => some d
    | _ => .none

def unary : Form Unary where
  make := .unary
  read
    | .unary d => some d
    | _ => .none

def conditional : Form Conditional where
  make := .conditional
  read
    | .conditional d => some d
    | _ => .none

def loop : Form Loop where
  make := .loop
  read
    | .loop d => some d
    | _ => .none

def typeRef : Form TypeRef where
  make := .typeRef
  read
    | .typeRef d => some d
    | _ => .none

def indexSignature : Form IndexSignature where
  make := .indexSignature
  read
    | .indexSignature d => some d
    | _ => .none

end Payload.Form

/-- A node. -/
structure Node where
  kind : Kind
  pos : UInt32
  stop : UInt32
  parent : Option NodeId := none
  modifiers : Modifiers := {}
  payload : Payload := .none

/-- The source range of a node. -/
def Node.span (n : Node) : Span := ⟨n.pos, n.stop⟩

/-- The children of a node. -/
def Node.children (n : Node) : List NodeId := n.payload.children

/-- The text that a node falls back on when its range spans none. -/
def Node.ownText (n : Node) : String :=
  match n.payload with
  | .identifier text => text
  | .literal text => text
  | _ => n.kind.tokenText?.getD ""

end Gls
