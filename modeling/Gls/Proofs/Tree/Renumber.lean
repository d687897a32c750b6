/-
# Renumbering an arena

Nodes refer to each other by their places, but which place a node has should not matter.  This file
moves the nodes of an arena to other places, and rewrites every reference to them.  Whatever is read
from the new arena at the new place of a node is what was read from the old arena at its old place,
with the references in it rewritten.
-/
import Gls.Tree.Arena
import Mathlib.Data.List.Basic
import Mathlib.Logic.Equiv.Basic

namespace Gls

/-! ### Rewriting references -/

namespace Payload

variable (f : NodeId → NodeId)

def Class.renumber (d : Class) : Class :=
  ⟨d.name.map f, d.heritageClauses.map f, d.members.map f⟩

def Interface.renumber (d : Interface) : Interface :=
  ⟨f d.name, d.heritageClauses.map f, d.members.map f⟩

def Heritage.renumber (d : Heritage) : Heritage := ⟨d.token, d.types.map f⟩

def ExprWithTypeArgs.renumber (d : ExprWithTypeArgs) : ExprWithTypeArgs :=
  ⟨f d.expression, d.typeArguments.map f⟩

def ValueDecl.renumber (d : ValueDecl) : ValueDecl :=
  ⟨f d.name, d.annotation.map f, d.initializer.map f⟩

def Function.renumber (d : Function) : Function :=
  ⟨d.name.map f, d.parameters.map f, d.annotation.map f, d.body.map f⟩

def Call.renumber (d : Call) : Call :=
  ⟨f d.expression, d.typeArguments.map f, d.arguments.map f⟩

def Access.renumber (d : Access) : Access := ⟨f d.expression, f d.nameOrArgument⟩

def Binary.renumber (d : Binary) : Binary := ⟨f d.left, d.operator, f d.right⟩

def Unary.renumber (d : Unary) : Unary := ⟨d.operator, f d.operand⟩

def Conditional.renumber (d : Conditional) : Conditional :=
  ⟨f d.condition, f d.thenStatement, d.elseStatement.map f⟩

def Loop.renumber (d : Loop) : Loop :=
  ⟨d.initializer.map f, d.condition.map f, d.incrementor.map f, f d.statement⟩

def TypeRef.renumber (d : TypeRef) : TypeRef := ⟨f d.typeName, d.typeArguments.map f⟩

def IndexSignature.renumber (d : IndexSignature) : IndexSignature :=
  ⟨d.parameters.map f, d.annotation.map f⟩

/-- The payload with every node it names rewritten. -/
def renumber : Payload → Payload
  | .none => .none
  | .identifier text => .identifier text
  | .literal text => .literal text
  | .list elements => .list (elements.map f)
  | .wrapped inner => .wrapped (inner.map f)
  | .class_ d => .class_ (d.renumber f)
  | .interface d => .interface (d.renumber f)
  | .heritage d => .heritage (d.renumber f)
  | .exprWithTypeArgs d => .exprWithTypeArgs (d.renumber f)
  | .valueDecl d => .valueDecl (d.renumber f)
  | .function d => .function (d.renumber f)
  | .call d => .call (d.renumber f)
  | .access d => .access (d.renumber f)
  | .binary d => .binary (d.renumber f)
  | .unary d => .unary (d.renumber f)
  | .conditional d => .conditional (d.renumber f)
  | .loop d => .loop (d.renumber f)
  | .typeRef d => .typeRef (d.renumber f)
  | .indexSignature d => .indexSignature (d.renumber f)

lemma children_renumber (q : Payload) : (q.renumber f).children = q.children.map f := by
  cases q <;> simp [renumber, children, Class.renumber, Interface.renumber, Heritage.renumber,
    ExprWithTypeArgs.renumber, ValueDecl.renumber, Function.renumber, Call.renumber,
    Access.renumber, Binary.renumber, Unary.renumber, Conditional.renumber, Loop.renumber,
    TypeRef.renumber, IndexSignature.renumber, Option.toList_map]

end Payload

namespace Node

variable (f : NodeId → NodeId) (node : Node)

/-- The node with its parent and every node its payload names rewritten. -/
def renumber : Node :=
  { node with parent := node.parent.map f, payload := node.payload.renumber f }

@[simp] lemma children_renumber : (node.renumber f).children = node.children.map f :=
  node.payload.children_renumber f

lemma ownText_renumber : (node.renumber f).ownText = node.ownText := by
  unfold ownText renumber
  cases node.payload <;> rfl

end Node

/-! ### Moving nodes -/

/-- A permutation of the places of an arena.  Places that hold no node stay what they are. -/
structure Renumbering (a : Arena) where
  perm : Equiv.Perm NodeId
  outside : ∀ n, a.get? n = none → perm n = n

/-- The new place of a node. -/
instance (a : Arena) : CoeFun (Renumbering a) fun _ => NodeId → NodeId := ⟨fun p => p.perm⟩

namespace Renumbering

variable {a : Arena} (p : Renumbering a)

lemma inj {n m : NodeId} : p n = p m ↔ n = m := p.perm.injective.eq_iff

/-- A node that is in the arena moves to a place in the arena. -/
lemma isSome_get? {n : NodeId} (h : (a.get? n).isSome) : (a.get? (p n)).isSome := by
  by_contra hp
  have hfixed : p n = n := p.inj.1 (p.outside (p n) (by simpa using hp))
  rw [hfixed] at hp
  exact hp h

/-- Two nodes of an arena change places. -/
def swap {n m : NodeId} (hn : (a.get? n).isSome) (hm : (a.get? m).isSome) : Renumbering a where
  perm := Equiv.swap n m
  outside k hk := by
    refine Equiv.swap_apply_of_ne_of_ne ?_ ?_
    · rintro rfl
      simp [hk] at hn
    · rintro rfl
      simp [hk] at hm

end Renumbering

namespace Arena

variable {a : Arena} (p : Renumbering a)

/-- The arena with every node moved to its new place, and every reference rewritten. -/
def renumber (a : Arena) (p : Renumbering a) : Arena :=
  { a with
    nodes := a.nodes.mapIdx fun i node => ((a.get? (p.perm.symm (.ofNat i))).getD node).renumber p }

@[simp] lemma size_renumber : (a.renumber p).nodes.size = a.nodes.size := Array.size_mapIdx

/-- What stands at the new place of a node is the node. -/
lemma get?_renumber (n : NodeId) :
    (a.renumber p).get? (p n) = (a.get? n).map (Node.renumber p) := by
  have hplace : (a.renumber p).get? (p n)
      = (a.get? (p n)).map fun node => ((a.get? n).getD node).renumber p := by
    simp [renumber, get?, NodeId.ofNat_toNat]
  rw [hplace]
  cases hn : a.get? n with
  | none => rw [p.outside n hn, hn]; rfl
  | some node =>
    obtain ⟨other, hother⟩ := Option.isSome_iff_exists.1 (p.isSome_get? (n := n) (by simp [hn]))
    rw [hother]
    rfl

/-! ### Reading at the new place -/

section Reading

variable (n : NodeId)

@[simp] lemma kind?_renumber : (a.renumber p).kind? (p n) = a.kind? n := by
  rw [kind?, get?_renumber, Option.map_map]
  rfl

@[simp] lemma span_renumber : (a.renumber p).span (p n) = a.span n := by
  rw [span, get?_renumber, Option.map_map]
  rfl

@[simp] lemma modifiers_renumber : (a.renumber p).modifiers (p n) = a.modifiers n := by
  rw [modifiers, get?_renumber, Option.map_map]
  rfl

@[simp] lemma parent?_renumber : (a.renumber p).parent? (p n) = (a.parent? n).map p := by
  rw [parent?, get?_renumber, parent?]
  cases a.get? n <;> rfl

@[simp] lemma children_renumber : (a.renumber p).children (p n) = (a.children n).map p := by
  rw [children, get?_renumber, children]
  cases a.get? n with
  | none => rfl
  | some node => exact node.children_renumber p

@[simp] lemma payload?_renumber :
    (a.renumber p).payload? (p n) = (a.payload? n).map (Payload.renumber p) := by
  rw [payload?, get?_renumber, payload?, Option.map_map, Option.map_map]
  rfl

@[simp] lemma text_renumber : (a.renumber p).text (p n) = a.text n := by
  rw [text, get?_renumber, text]
  cases a.get? n with
  | none => rfl
  | some node =>
    simp only [Option.map_some, Node.ownText_renumber]
    rfl

/-! The payload of a given form. -/

/-- What a node holds is renumbered in the way in which payloads of the form are. -/
lemma holds?_renumber {α : Type} {form : Payload.Form α} {f : α → α}
    (hform : ∀ q : Payload, form.read (q.renumber p) = (form.read q).map f) :
    (a.renumber p).holds? form (p n) = (a.holds? form n).map f := by
  rw [holds?, payload?_renumber, Option.bind_map, holds?, Option.map_bind]
  exact congrArg _ (funext hform)

@[simp] lemma identifier?_renumber : (a.renumber p).identifier? (p n) = a.identifier? n :=
  (holds?_renumber p n (by rintro (_ | _) <;> rfl)).trans Option.map_id_apply

@[simp] lemma list?_renumber :
    (a.renumber p).list? (p n) = (a.list? n).map (List.map p) :=
  holds?_renumber p n (by rintro (_ | _) <;> rfl)

@[simp] lemma wrapped?_renumber : (a.renumber p).wrapped? (p n) = (a.wrapped? n).map p :=
  holds?_renumber p n (by rintro (_ | _) <;> rfl)

@[simp] lemma class?_renumber :
    (a.renumber p).class? (p n) = (a.class? n).map (Payload.Class.renumber p) :=
  holds?_renumber p n (by rintro (_ | _) <;> rfl)

@[simp] lemma interface?_renumber :
    (a.renumber p).interface? (p n) = (a.interface? n).map (Payload.Interface.renumber p) :=
  holds?_renumber p n (by rintro (_ | _) <;> rfl)

@[simp] lemma heritage?_renumber :
    (a.renumber p).heritage? (p n) = (a.heritage? n).map (Payload.Heritage.renumber p) :=
  holds?_renumber p n (by rintro (_ | _) <;> rfl)

@[simp] lemma exprWithTypeArgs?_renumber : (a.renumber p).exprWithTypeArgs? (p n)
    = (a.exprWithTypeArgs? n).map (Payload.ExprWithTypeArgs.renumber p) :=
  holds?_renumber p n (by rintro (_ | _) <;> rfl)

@[simp] lemma valueDecl?_renumber :
    (a.renumber p).valueDecl? (p n) = (a.valueDecl? n).map (Payload.ValueDecl.renumber p) :=
  holds?_renumber p n (by rintro (_ | _) <;> rfl)

@[simp] lemma function?_renumber :
    (a.renumber p).function? (p n) = (a.function? n).map (Payload.Function.renumber p) :=
  holds?_renumber p n (by rintro (_ | _) <;> rfl)

@[simp] lemma call?_renumber :
    (a.renumber p).call? (p n) = (a.call? n).map (Payload.Call.renumber p) :=
  holds?_renumber p n (by rintro (_ | _) <;> rfl)

@[simp] lemma access?_renumber :
    (a.renumber p).access? (p n) = (a.access? n).map (Payload.Access.renumber p) :=
  holds?_renumber p n (by rintro (_ | _) <;> rfl)

@[simp] lemma binary?_renumber :
    (a.renumber p).binary? (p n) = (a.binary? n).map (Payload.Binary.renumber p) :=
  holds?_renumber p n (by rintro (_ | _) <;> rfl)

@[simp] lemma unary?_renumber :
    (a.renumber p).unary? (p n) = (a.unary? n).map (Payload.Unary.renumber p) :=
  holds?_renumber p n (by rintro (_ | _) <;> rfl)

@[simp] lemma conditional?_renumber : (a.renumber p).conditional? (p n)
    = (a.conditional? n).map (Payload.Conditional.renumber p) :=
  holds?_renumber p n (by rintro (_ | _) <;> rfl)

@[simp] lemma loop?_renumber :
    (a.renumber p).loop? (p n) = (a.loop? n).map (Payload.Loop.renumber p) :=
  holds?_renumber p n (by rintro (_ | _) <;> rfl)

@[simp] lemma indexSignature?_renumber : (a.renumber p).indexSignature? (p n)
    = (a.indexSignature? n).map (Payload.IndexSignature.renumber p) :=
  holds?_renumber p n (by rintro (_ | _) <;> rfl)

end Reading

/-! ### Walking -/

/-- A walk that stops at nodes for what they are, and not for whom they name, finds the same
nodes. -/
lemma frontier_renumber {stop : Node → Bool}
    (hstop : ∀ node, stop (node.renumber p) = stop node) (n : NodeId) :
    (a.renumber p).frontier stop (p n) = (a.frontier stop n).map p := by
  have hwithin : ∀ fuel n, (a.renumber p).frontierWithin stop fuel (p n)
      = (a.frontierWithin stop fuel n).map p := by
    intro fuel
    induction fuel with
    | zero => exact fun n => rfl
    | succ fuel ih =>
      intro n
      rw [frontierWithin, get?_renumber, frontierWithin]
      cases a.get? n with
      | none => rfl
      | some node =>
        simp only [Option.map_some, hstop]
        split
        · rfl
        · rw [Node.children_renumber, List.flatMap_map, List.map_flatMap]
          exact List.flatMap_congr fun c _ => ih c
  rw [frontier, size_renumber, hwithin, frontier]

end Arena

end Gls
