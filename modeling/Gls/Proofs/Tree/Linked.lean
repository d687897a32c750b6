/-
# Linked parents

Linking gives a node the last of the nodes that name it as its parent, whatever parent it had
before.  A node that nobody names is passed over, and keeps the parent it had.  So the parents
depend on the payloads, and on the parents that were recorded for nodes that nobody names.

Where child links form no circle, a circle of parents can only come from such a record.  If there is
none, every search for an ancestor ends.  A document may record one, for its root or for any other
node that nobody names, and then a search for an ancestor may go on for ever.
-/
import Gls.Proofs.Tree.Ancestors
import Gls.Proofs.Tree.Parents
import Mathlib.Order.Bounds.Basic

namespace Gls

namespace Arena

/-- The node at a place names `n` as a child. -/
def NamedAt (a : Arena) (n : NodeId) (i : Nat) : Prop :=
  ∃ node, a.nodes[i]? = some node ∧ n ∈ node.children

/-- No node names `n` as a child. -/
def Unnamed (a : Arena) (n : NodeId) : Prop := ∀ i, ¬ a.NamedAt n i

/-- The nodes of both arenas have the same payloads. -/
def SamePayloads (a b : Arena) : Prop :=
  ∀ i : Nat, (b.nodes[i]?).map Node.payload = (a.nodes[i]?).map Node.payload

variable {a b : Arena} {n p : NodeId} {i : Nat}

/-! ### The last node to name a child -/

/-- Of lists in the order of their places, the place found is the last. -/
lemma le_of_namedBy {j i i' : Nat} {cs : List NodeId} {es : List (List NodeId × Nat)}
    (hes : es.Pairwise fun e e' => e.2 < e'.2) (h : namedBy j es = some i) (hcs : (cs, i') ∈ es)
    (hj : j ∈ cs.map NodeId.toNat) : i' ≤ i := by
  induction es with
  | nil => cases hcs
  | cons e es ih =>
    obtain ⟨he, hes⟩ := List.pairwise_cons.1 hes
    rw [namedBy, Option.or_eq_some_iff] at h
    rcases h with h | ⟨hnone, h⟩
    · rcases List.mem_cons.1 hcs with rfl | hcs
      · obtain ⟨ds, hds, -⟩ := exists_of_namedBy h
        exact (he _ hds).le
      · exact ih hes h hcs
    · split_ifs at h
      cases h
      rcases List.mem_cons.1 hcs with rfl | hcs
      · exact le_rfl
      · have := isSome_namedBy hcs hj
        rw [hnone] at this
        cases this

lemma namedAt_iff : a.NamedAt n i ↔
    ∃ cs, (cs, i) ∈ a.childLists.zipIdx ∧ n.toNat ∈ cs.map NodeId.toNat := by
  simp only [List.mem_zipIdx_iff_getElem?, childLists, List.getElem?_map, Array.getElem?_toList,
    Option.map_eq_some_iff, NamedAt, List.mem_map_of_injective toNat_injective]
  grind

lemma namer?_eq_none_iff : a.namer? n.toNat = none ↔ a.Unnamed n := by
  constructor
  · intro h i hi
    obtain ⟨cs, hcs, hn⟩ := namedAt_iff.1 hi
    have := isSome_namedBy hcs hn
    rw [← namer?, h] at this
    cases this
  · intro h
    by_contra hne
    obtain ⟨i, hi⟩ := Option.ne_none_iff_exists'.1 hne
    exact h i (namedAt_iff.2 (exists_of_namedBy hi))

/-- The last node to name `n` is found. -/
lemma namer?_eq_some_iff : a.namer? n.toNat = some i ↔ IsGreatest {i | a.NamedAt n i} i := by
  have hplaces : a.childLists.zipIdx.Pairwise fun e e' => e.2 < e'.2 := by
    rw [← List.pairwise_map, List.zipIdx_map_snd]
    exact List.pairwise_lt_range'
  have hgreatest : ∀ {i}, a.namer? n.toNat = some i → IsGreatest {i | a.NamedAt n i} i := by
    intro i h
    refine ⟨namedAt_iff.2 (exists_of_namedBy h), fun i' hi' => ?_⟩
    obtain ⟨cs, hcs, hn⟩ := namedAt_iff.1 hi'
    exact le_of_namedBy hplaces h hcs hn
  refine ⟨hgreatest, fun h => ?_⟩
  cases hn : a.namer? n.toNat with
  | none => exact absurd h.1 (namer?_eq_none_iff.1 hn i)
  | some i' => rw [(hgreatest hn).unique h]

lemma namedAt_of_child (h : a.Child p n) : a.NamedAt n p.toNat := by
  rw [Child, children, get?] at h
  cases hp : a.nodes[p.toNat]? with
  | none => simp [hp] at h
  | some node => exact ⟨node, hp, by simpa [hp] using h⟩

/-- As long as every node has a number of its own, the one that names `n` is its parent. -/
lemma child_of_namedAt (hsize : a.nodes.size ≤ UInt32.size) (h : a.NamedAt n i) :
    a.Child (.ofNat i) n := by
  obtain ⟨node, hnode, hn⟩ := h
  obtain ⟨hi, -⟩ := Array.getElem?_eq_some_iff.1 hnode
  rw [Child, children, get?, NodeId.toNat_ofNat (hi.trans_le hsize), hnode]
  exact hn

/-- When no node is named twice, one node names `n`. -/
lemma eq_of_namedAt {j : Nat} (hnodup : a.childLists.flatten.Nodup) (hi : a.NamedAt n i)
    (hj : a.NamedAt n j) : i = j := by
  obtain ⟨node, hnode, hn⟩ := hi
  obtain ⟨other, hother, hn'⟩ := hj
  exact eq_of_mem_childLists hnodup (by simp [childLists, hnode]) (by simp [childLists, hother])
    hn hn'

/-! ### Parents after linking -/

lemma parent?_linkParents (a : Arena) (n : NodeId) : a.linkParents.parent? n =
    (a.get? n).bind fun node => ((a.namer? n.toNat).map .ofNat).or node.parent := by
  rw [parent?, get?, getElem?_linkParents, get?]
  cases a.nodes[n.toNat]? with
  | none => rfl
  | some node => cases a.namer? n.toNat <;> rfl

/-- A node that nobody names is passed over. -/
lemma parent?_linkParents_of_unnamed (h : a.Unnamed n) : a.linkParents.parent? n = a.parent? n := by
  rw [parent?_linkParents, namer?_eq_none_iff.2 h, parent?]
  rfl

lemma parent?_linkParents_of_namer? (h : a.namer? n.toNat = some i) :
    a.linkParents.parent? n = (a.get? n).map fun _ => .ofNat i := by
  rw [parent?_linkParents, h]
  cases a.get? n <;> rfl

lemma samePayloads_linkParents (a : Arena) : SamePayloads a a.linkParents := by
  intro i
  rw [getElem?_linkParents, Option.map_map]
  cases a.namer? i <;> rfl

/-- What linking gives to the nodes that are named depends on the payloads. -/
lemma namer?_of_samePayloads (h : SamePayloads a b) (j : Nat) : b.namer? j = a.namer? j := by
  have hlists : b.childLists = a.childLists := by
    refine List.ext_getElem? fun i => ?_
    have hchildren : Node.children = Payload.children ∘ Node.payload := rfl
    simp only [childLists, List.getElem?_map, Array.getElem?_toList]
    rw [hchildren, ← Option.map_map, h i, Option.map_map]
  rw [namer?, hlists, namer?]

lemma parent?_linkParents_of_samePayloads (h : SamePayloads a b)
    (hun : a.Unnamed n → b.parent? n = a.parent? n) :
    b.linkParents.parent? n = a.linkParents.parent? n := by
  have hnamer := namer?_of_samePayloads h n.toNat
  cases hn : a.namer? n.toNat with
  | none =>
    rw [parent?_linkParents_of_unnamed (namer?_eq_none_iff.1 hn),
      parent?_linkParents_of_unnamed (namer?_eq_none_iff.1 (hnamer.trans hn)),
      hun (namer?_eq_none_iff.1 hn)]
  | some i =>
    rw [parent?_linkParents_of_namer? hn, parent?_linkParents_of_namer? (hnamer.trans hn)]
    have := congrArg (Option.map fun _ => NodeId.ofNat i) (h n.toNat)
    simpa [get?, Function.comp_def] using this

/-! ### Circles -/

lemma child_linkParents (a : Arena) : a.linkParents.Child = a.Child := by
  funext p c
  simp only [Child, children, get?, getElem?_linkParents]
  cases a.nodes[p.toNat]? <;> simp

lemma acyclic_linkParents : a.linkParents.Acyclic ↔ a.Acyclic := by
  rw [Acyclic, Acyclic, child_linkParents]

/-- The parent of a node that is named names it. -/
lemma child_of_parent?_linkParents (hsize : a.nodes.size ≤ UInt32.size) (hn : ¬ a.Unnamed n)
    (h : a.linkParents.parent? n = some p) : a.Child p n := by
  obtain ⟨i, hi⟩ := Option.ne_none_iff_exists'.1 (mt namer?_eq_none_iff.1 hn)
  rw [parent?_linkParents_of_namer? hi] at h
  obtain ⟨-, -, rfl⟩ := Option.map_eq_some_iff.1 h
  exact child_of_namedAt hsize (namer?_eq_some_iff.1 hi).1

/-- Where nothing is recorded for nodes that nobody names, all parents follow the child links. -/
lemma parentsFollow_linkParents (hsize : a.nodes.size ≤ UInt32.size)
    (hun : ∀ n, a.Unnamed n → a.parent? n = none) : a.linkParents.ParentsFollow := by
  intro n p hp
  rw [child_linkParents]
  refine child_of_parent?_linkParents hsize (fun hn => ?_) hp
  rw [parent?_linkParents_of_unnamed hn, hun n hn] at hp
  cases hp

end Arena

/-- After linking, the parent of a node that is named is the last node to name it, and a node that
nobody names has the parent that it had.  So the parents depend on the payloads and on the parents
of nodes that nobody names; and where child links form no circle, every circle of parents goes
through such a node.  Without any parent for such a node there is no circle, and every search for an
ancestor ends. -/
theorem parents_linked (a : Arena) :
    (∀ n i, (a.get? n).isSome → IsGreatest {i | a.NamedAt n i} i →
      a.linkParents.parent? n = some (.ofNat i)) ∧
    (∀ n, a.Unnamed n → a.linkParents.parent? n = a.parent? n) ∧
    (∀ b, Arena.SamePayloads a b → (∀ n, a.Unnamed n → b.parent? n = a.parent? n) →
      ∀ n, b.linkParents.parent? n = a.linkParents.parent? n) ∧
    (a.Acyclic → a.nodes.size ≤ UInt32.size →
      (∀ n, ¬ Relation.TransGen
        (fun m p => ¬ a.Unnamed m ∧ a.linkParents.parent? m = some p) n n) ∧
      ((∀ n, a.Unnamed n → a.parent? n = none) → a.linkParents.ParentsAcyclic ∧
        ∀ n kind r, a.linkParents.Climbs kind (a.linkParents.parent? n) r ↔
          r = a.linkParents.ancestor? n kind)) := by
  refine ⟨fun n i hn hi => ?_, fun n => Arena.parent?_linkParents_of_unnamed,
    fun b hb hun n => Arena.parent?_linkParents_of_samePayloads hb (hun n),
    fun hacyclic hsize => ⟨fun n hn => ?_, fun hun => ?_⟩⟩
  · obtain ⟨node, hnode⟩ := Option.isSome_iff_exists.1 hn
    rw [Arena.parent?_linkParents_of_namer? (Arena.namer?_eq_some_iff.2 hi), hnode, Option.map_some]
  · have hup : Relation.TransGen (Function.swap a.Child) n n :=
      Relation.TransGen.mono
        (fun m p h => Arena.child_of_parent?_linkParents hsize h.1 h.2) n n hn
    exact hacyclic n (Relation.transGen_swap.1 hup)
  · have hfollow := Arena.parentsFollow_linkParents hsize hun
    have hlinked := Arena.acyclic_linkParents.2 hacyclic
    exact ⟨hfollow.acyclic hlinked, fun n kind r => hfollow.climbs_iff hlinked⟩

/-- A name that is shared by two statements, with itself as its parent to begin with. -/
def sharedNameArena : Arena where
  sourceText := "x; x;"
  nodes := #[
    { kind := .identifier, pos := 0, stop := 1, parent := some ⟨0⟩, payload := .identifier "x" },
    { kind := .expressionStatement, pos := 0, stop := 2, payload := .wrapped (some ⟨0⟩) },
    { kind := .expressionStatement, pos := 3, stop := 5, payload := .wrapped (some ⟨0⟩) },
    { kind := .sourceFile, pos := 0, stop := 5, payload := .list [⟨1⟩, ⟨2⟩] }]

theorem shared_name_has_later_parent :
    IsGreatest {i | sharedNameArena.NamedAt ⟨0⟩ i} 2 ∧ sharedNameArena.Unnamed ⟨3⟩ ∧
    sharedNameArena.Acyclic ∧ sharedNameArena.nodes.size ≤ UInt32.size ∧
    sharedNameArena.linkParents.parent? ⟨0⟩ = some ⟨2⟩ ∧
    sharedNameArena.linkParents.parent? ⟨3⟩ = none ∧
    sharedNameArena.linkParents.linkParents.parent? ⟨0⟩ = some ⟨2⟩ ∧
    sharedNameArena.linkParents.ParentsAcyclic ∧
    sharedNameArena.linkParents.Climbs .sourceFile (some ⟨2⟩) (some ⟨3⟩) := by
  have hgreatest : IsGreatest {i | sharedNameArena.NamedAt ⟨0⟩ i} 2 :=
    Arena.namer?_eq_some_iff.1 (by decide)
  have hroot : sharedNameArena.Unnamed ⟨3⟩ := Arena.namer?_eq_none_iff.1 (by decide)
  have hacyclic : sharedNameArena.Acyclic := .of_rank NodeId.toNat (by decide)
  have hsize : sharedNameArena.nodes.size ≤ UInt32.size := by decide
  have hun : ∀ n, sharedNameArena.Unnamed n → sharedNameArena.parent? n = none := by
    intro n hn
    have hall : ∀ i < 4, sharedNameArena.parent? (.ofNat i) = none ∨
        (sharedNameArena.namer? i).isSome := by decide
    rcases Nat.lt_or_ge n.toNat 4 with hlt | hge
    · have := hall n.toNat hlt
      rw [NodeId.ofNat_toNat, Arena.namer?_eq_none_iff.2 hn] at this
      simpa using this
    · rw [Arena.parent?, Arena.get?, Array.getElem?_eq_none hge, Option.bind_none]
  obtain ⟨hnamed, hunnamed, hsame, hcircles⟩ := parents_linked sharedNameArena
  obtain ⟨hparents, hclimbs⟩ := (hcircles hacyclic hsize).2 hun
  have hname := hnamed ⟨0⟩ 2 rfl hgreatest
  have hstatement : sharedNameArena.linkParents.parent? ⟨2⟩ = some ⟨3⟩ :=
    hnamed ⟨2⟩ 3 rfl (Arena.namer?_eq_some_iff.1 (by decide))
  have hclimb := (hclimbs ⟨2⟩ .sourceFile (some ⟨3⟩)).2 (by decide)
  rw [hstatement] at hclimb
  exact ⟨hgreatest, hroot, hacyclic, hsize, hname, (hunnamed ⟨3⟩ hroot).trans rfl,
    (hsame _ (Arena.samePayloads_linkParents _) hunnamed ⟨0⟩).trans hname, hparents,
    .up (by decide) (hstatement ▸ hclimb)⟩

/-- The tree of a statement, whose root records the name inside it as its parent. -/
def staleRootArena : Arena where
  sourceText := "x;"
  nodes := #[
    { kind := .identifier, pos := 0, stop := 1, payload := .identifier "x" },
    { kind := .expressionStatement, pos := 0, stop := 2, payload := .wrapped (some ⟨0⟩) },
    { kind := .sourceFile, pos := 0, stop := 2, parent := some ⟨0⟩, payload := .list [⟨1⟩] }]

/-- Linking leaves the parent of the root as it is, and the search for a class around the name goes
round and round. -/
theorem stale_parent_kept :
    staleRootArena.Acyclic ∧ staleRootArena.Unnamed ⟨2⟩ ∧
    staleRootArena.linkParents.parent? ⟨2⟩ = some ⟨0⟩ ∧
    (∃ b, Arena.SamePayloads staleRootArena b ∧ b.linkParents.parent? ⟨2⟩ = none) ∧
    ¬ staleRootArena.linkParents.ParentsAcyclic ∧
    ∀ r, ¬ staleRootArena.linkParents.Climbs .classDeclaration
      (staleRootArena.linkParents.parent? ⟨0⟩) r := by
  have hkept : staleRootArena.linkParents.parent? ⟨2⟩ = some ⟨0⟩ := by decide
  have hstatement : staleRootArena.linkParents.parent? ⟨1⟩ = some ⟨2⟩ := by decide
  have hname : staleRootArena.linkParents.parent? ⟨0⟩ = some ⟨1⟩ := by decide
  refine ⟨.of_rank NodeId.toNat (by decide), Arena.namer?_eq_none_iff.1 (by decide), hkept,
    ⟨{ staleRootArena with
        nodes := staleRootArena.nodes.modify 2 fun n => { n with parent := none } },
      fun i => ?_, by decide⟩, fun h => ?_, fun r h => ?_⟩
  · simp only [Array.getElem?_modify]
    split_ifs
    · rw [Option.map_map]
      rfl
    · rfl
  · exact h ⟨0⟩ (.head hname (.head hstatement (.single hkept)))
  · rw [hname] at h
    exact Arena.not_climbs (S := [⟨0⟩, ⟨1⟩, ⟨2⟩]) (by decide) (by decide) (by decide) h

end Gls
