/-
# Syntax trees are read as they were written

Kinds, modifiers, payloads, nodes and arenas make the round trip through JSON values.  Every payload
is a variant whose content is a record, a list or one node; the record lemmas all have the same
shape, so one `simp` with the round trips of the fields settles each of them.
-/
import Gls.Proofs.Json.Decode
import Gls.Proofs.Tree.Flags
import Gls.Tree.Codec

namespace Gls

open Json (RoundTrips clean_ofMembers clean_ofVariant)

/-! ### Names of nodes and kinds -/

lemma NodeId.roundTrips : RoundTrips toJson ofJson? := RoundTrips.uint32.wrap fun _ => rfl

lemma NodeId.list_roundTrips : RoundTrips listJson list? := roundTrips.list

lemma NodeId.option_roundTrips : RoundTrips optionJson (Json.asNullable? ofJson?) :=
  roundTrips.nullable fun _ => Json.noConfusion

lemma Kind.mem_all (k : Kind) : k ∈ all := by
  cases k <;> decide +kernel

lemma Kind.ofName?_name (k : Kind) : ofName? k.name = some k := by
  have hall : ∀ k ∈ all, ofName? k.name = some k := by decide +kernel
  exact hall k k.mem_all

lemma Kind.roundTrips : RoundTrips toJson ofJson? where
  clean k := Json.clean_ofString k.name
  read k := by simp [ofJson?, toJson, Json.bareVariant?, ofName?_name]

lemma Modifiers.roundTrips : RoundTrips toJson ofJson? where
  clean m := Json.clean_ofString m.write
  read m := by
    simp [ofJson?, toJson, RoundTrips.string.read, read?, write, readable_names.read?_write]

section Parts

variable (n : NodeId) (ns : List NodeId) (o : Option NodeId) (k : Kind)

@[simp] lemma NodeId.clean_toJson : n.toJson.Clean := NodeId.roundTrips.clean n

@[simp] lemma NodeId.ofJson?_toJson : NodeId.ofJson? n.toJson = some n := NodeId.roundTrips.read n

@[simp] lemma NodeId.clean_listJson : (NodeId.listJson ns).Clean := NodeId.list_roundTrips.clean ns

@[simp] lemma NodeId.list?_listJson : NodeId.list? (NodeId.listJson ns) = some ns :=
  NodeId.list_roundTrips.read ns

@[simp] lemma NodeId.clean_optionJson : (NodeId.optionJson o).Clean :=
  NodeId.option_roundTrips.clean o

@[simp] lemma NodeId.asNullable?_optionJson :
    Json.asNullable? NodeId.ofJson? (NodeId.optionJson o) = some o :=
  NodeId.option_roundTrips.read o

@[simp] lemma NodeId.asNullable?_toJson :
    Json.asNullable? NodeId.ofJson? n.toJson = some (some n) :=
  NodeId.option_roundTrips.read (some n)

@[simp] lemma Kind.clean_toJson : k.toJson.Clean := Kind.roundTrips.clean k

@[simp] lemma Kind.ofJson?_toJson : Kind.ofJson? k.toJson = some k := Kind.roundTrips.read k

end Parts

/-! ### Payloads -/

namespace Payload

lemma Class.roundTrips : RoundTrips toJson ofJson? where
  clean d := clean_ofMembers (by simp)
  read d := by simp [ofJson?, toJson]

lemma Interface.roundTrips : RoundTrips toJson ofJson? where
  clean d := clean_ofMembers (by simp)
  read d := by simp [ofJson?, toJson]

lemma Heritage.roundTrips : RoundTrips toJson ofJson? where
  clean d := clean_ofMembers (by simp)
  read d := by simp [ofJson?, toJson]

lemma ExprWithTypeArgs.roundTrips : RoundTrips toJson ofJson? where
  clean d := clean_ofMembers (by simp)
  read d := by simp [ofJson?, toJson]

lemma ValueDecl.roundTrips : RoundTrips toJson ofJson? where
  clean d := clean_ofMembers (by simp)
  read d := by simp [ofJson?, toJson]

lemma Function.roundTrips : RoundTrips toJson ofJson? where
  clean d := clean_ofMembers (by simp)
  read d := by simp [ofJson?, toJson]

lemma Call.roundTrips : RoundTrips toJson ofJson? where
  clean d := clean_ofMembers (by simp)
  read d := by simp [ofJson?, toJson]

lemma Access.roundTrips : RoundTrips toJson ofJson? where
  clean d := clean_ofMembers (by simp)
  read d := by simp [ofJson?, toJson]

lemma Binary.roundTrips : RoundTrips toJson ofJson? where
  clean d := clean_ofMembers (by simp)
  read d := by simp [ofJson?, toJson]

lemma Unary.roundTrips : RoundTrips toJson ofJson? where
  clean d := clean_ofMembers (by simp)
  read d := by simp [ofJson?, toJson]

lemma Conditional.roundTrips : RoundTrips toJson ofJson? where
  clean d := clean_ofMembers (by simp)
  read d := by simp [ofJson?, toJson]

lemma Loop.roundTrips : RoundTrips toJson ofJson? where
  clean d := clean_ofMembers (by simp)
  read d := by simp [ofJson?, toJson]

lemma TypeRef.roundTrips : RoundTrips toJson ofJson? where
  clean d := clean_ofMembers (by simp)
  read d := by simp [ofJson?, toJson]

lemma IndexSignature.roundTrips : RoundTrips toJson ofJson? where
  clean d := clean_ofMembers (by simp)
  read d := by simp [ofJson?, toJson]

lemma text_roundTrips (field : String) : RoundTrips (textJson field) (textField? field) where
  clean text := clean_ofMembers (by simp [Json.clean_ofString])
  read text := by simp [textField?, textJson, RoundTrips.string.read]

lemma roundTrips : RoundTrips toJson ofJson? where
  clean p := by
    cases p with
    | none => exact Json.clean_ofString "None"
    | identifier text => exact clean_ofVariant _ ((text_roundTrips _).clean text)
    | literal text => exact clean_ofVariant _ ((text_roundTrips _).clean text)
    | list elements => exact clean_ofVariant _ (NodeId.clean_listJson elements)
    | wrapped inner => exact clean_ofVariant _ (NodeId.clean_optionJson inner)
    | class_ d => exact clean_ofVariant _ (Class.roundTrips.clean d)
    | interface d => exact clean_ofVariant _ (Interface.roundTrips.clean d)
    | heritage d => exact clean_ofVariant _ (Heritage.roundTrips.clean d)
    | exprWithTypeArgs d => exact clean_ofVariant _ (ExprWithTypeArgs.roundTrips.clean d)
    | valueDecl d => exact clean_ofVariant _ (ValueDecl.roundTrips.clean d)
    | function d => exact clean_ofVariant _ (Function.roundTrips.clean d)
    | call d => exact clean_ofVariant _ (Call.roundTrips.clean d)
    | access d => exact clean_ofVariant _ (Access.roundTrips.clean d)
    | binary d => exact clean_ofVariant _ (Binary.roundTrips.clean d)
    | unary d => exact clean_ofVariant _ (Unary.roundTrips.clean d)
    | conditional d => exact clean_ofVariant _ (Conditional.roundTrips.clean d)
    | loop d => exact clean_ofVariant _ (Loop.roundTrips.clean d)
    | typeRef d => exact clean_ofVariant _ (TypeRef.roundTrips.clean d)
    | indexSignature d => exact clean_ofVariant _ (IndexSignature.roundTrips.clean d)
  read p := by
    cases p <;> simp [ofJson?, toJson, ofVariant?, (text_roundTrips _).read,
      Class.roundTrips.read, Interface.roundTrips.read, Heritage.roundTrips.read,
      ExprWithTypeArgs.roundTrips.read, ValueDecl.roundTrips.read, Function.roundTrips.read,
      Call.roundTrips.read, Access.roundTrips.read, Binary.roundTrips.read, Unary.roundTrips.read,
      Conditional.roundTrips.read, Loop.roundTrips.read, TypeRef.roundTrips.read,
      IndexSignature.roundTrips.read]

end Payload

/-! ### Nodes and arenas -/

lemma Node.clean_toJson (n : Node) : n.toJson.Clean := by
  refine clean_ofMembers fun m hm => ?_
  simp only [List.mem_append, List.mem_cons, List.not_mem_nil, or_false] at hm
  rcases hm with (((rfl | rfl | rfl) | hm) | hm) | rfl
  · exact n.kind.clean_toJson
  · exact .nat _
  · exact .nat _
  · cases hp : n.parent with
    | none =>
      rw [hp] at hm
      cases hm
    | some p =>
      rw [hp] at hm
      cases List.mem_singleton.1 hm
      exact p.clean_toJson
  · split_ifs at hm
    · cases hm
    · cases List.mem_singleton.1 hm
      exact Modifiers.roundTrips.clean n.modifiers
  · exact Payload.roundTrips.clean n.payload

lemma Node.ofJson?_toJson (n : Node) : ofJson? n.toJson = some n := by
  obtain ⟨kind, pos, stop, parent, modifiers, payload⟩ := n
  have hpos : ∀ x : UInt32, Json.asUInt32? (.ofNat x.toNat) = some x := RoundTrips.uint32.read
  -- Modifiers are left out where there are none, and are then read as the default.
  have hmodifiers : modifiers.isEmpty = true → modifiers = {} := by
    intro h
    cases modifiers
    simpa [Modifiers.isEmpty] using h
  cases parent <;> cases hm : modifiers.isEmpty <;>
    simp_all [ofJson?, toJson, Modifiers.roundTrips.read, Payload.roundTrips.read]

lemma Node.roundTrips : RoundTrips toJson ofJson? := ⟨clean_toJson, ofJson?_toJson⟩

lemma Arena.roundTrips : RoundTrips toJson ofJson? where
  clean a := clean_ofMembers (by
    simp [Json.clean_ofString, Node.roundTrips.list.clean])
  read a := by
    simp [ofJson?, toJson, RoundTrips.string.read, Node.roundTrips.list.read]

end Gls
