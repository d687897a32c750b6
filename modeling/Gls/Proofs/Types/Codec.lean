/-
# Types and symbols are read as they were written

The tables of the type checker make the round trip through JSON values.  Maps from nodes are written
with the places of the nodes, in digits, as names.
-/
import Gls.Proofs.Tree.Codec
import Gls.Types.Codec

namespace Gls

open Json (RoundTrips clean_ofMembers)

lemma TypeId.roundTrips : RoundTrips toJson ofJson? := RoundTrips.uint32.wrap fun _ => rfl

lemma SymbolId.roundTrips : RoundTrips toJson ofJson? := RoundTrips.uint32.wrap fun _ => rfl

lemma SymbolId.option_roundTrips : RoundTrips (Json.ofOption toJson) (Json.asNullable? ofJson?) :=
  roundTrips.nullable fun _ => Json.noConfusion

lemma Json.RoundTrips.optionalString : RoundTrips (Json.ofOption Json.ofString)
    (Json.asNullable? Json.asString?) :=
  RoundTrips.string.nullable fun _ => Json.noConfusion

lemma TypeFlags.roundTrips : RoundTrips toJson ofJson? where
  clean f := Json.clean_ofString f.write
  read f := by
    simp [ofJson?, toJson, RoundTrips.string.read, read?, write, readable_names.read?_write]

lemma TypeSymbol.roundTrips : RoundTrips toJson ofJson? where
  clean s := clean_ofMembers (by simp [Json.clean_ofString])
  read s := by simp [ofJson?, toJson, RoundTrips.string.read]

lemma Signature.roundTrips : RoundTrips toJson ofJson? where
  clean s := clean_ofMembers (by simp [TypeId.roundTrips.clean])
  read s := by simp [ofJson?, toJson, TypeId.roundTrips.read]

lemma TypeData.roundTrips : RoundTrips toJson ofJson? where
  clean d := clean_ofMembers (by
    simp [TypeFlags.roundTrips.clean, SymbolId.option_roundTrips.clean,
      RoundTrips.optionalString.clean, Signature.roundTrips.list.clean])
  read d := by
    simp [ofJson?, toJson, TypeFlags.roundTrips.read, SymbolId.option_roundTrips.read,
      RoundTrips.optionalString.read, Signature.roundTrips.list.read]

/-! ### Maps from nodes -/

lemma keyUInt32?_toString (n : NodeId) :
    (Json.keyUInt32? (Json.escape (toString n.toNat))).map NodeId.mk = some n := by
  have hlt : n.toNat < UInt32.size := n.index.toNat_lt
  have hindex : UInt32.ofNat n.toNat = n.index := UInt32.ofNat_toNat
  rw [Json.keyUInt32?, Json.toList_escape_toString, Json.isWhole_toDigits,
    Json.digitsValue_toDigits, Bool.true_and, if_pos (decide_eq_true hlt), hindex]
  rfl

lemma nodeMap_roundTrips {α : Type} {write : α → Json} {read : Json → Option α}
    (h : RoundTrips write read) : RoundTrips (nodeMapJson write) (nodeMap? read) := by
  have hmap := h.map (fun n : NodeId => toString n.toNat)
    (fun raw => (Json.keyUInt32? raw).map NodeId.mk) keyUInt32?_toString
  exact ⟨hmap.clean, hmap.read⟩

lemma TypeTable.roundTrips : RoundTrips toJson ofJson? where
  clean t := clean_ofMembers (by
    simp [TypeData.roundTrips.list.clean, TypeSymbol.roundTrips.list.clean,
      (nodeMap_roundTrips TypeId.roundTrips).clean,
      (nodeMap_roundTrips SymbolId.roundTrips).clean])
  read t := by
    simp [ofJson?, toJson, TypeData.roundTrips.list.read, TypeSymbol.roundTrips.list.read,
      (nodeMap_roundTrips TypeId.roundTrips).read, (nodeMap_roundTrips SymbolId.roundTrips).read]

end Gls
