/-
# Trees built bottom up

While a tree is built, a new node becomes the parent of the nodes that it names, each of which is
there already.  Linking all parents afterwards comes to the same, in whatever order the nodes were
added and however they are shared: in both the last node to name a child counts.

So parents come after their children, and every climb from parent to parent ends.  When no node is
shared, a climb comes to all nodes above where it began, one after the other, and ends at the
nearest of the kind.
-/
import Gls.Proofs.Tree.Linked

namespace Gls

namespace Arena

/-- No node is a child of two nodes. -/
def Unshared (a : Arena) : Prop := ∀ p q c, a.Child p c → a.Child q c → p = q

variable {a : Arena} {n p : NodeId} {i : Nat}

lemma unshared_of_nodup (hnodup : a.childLists.flatten.Nodup) : a.Unshared := fun _ _ _ hp hq =>
  toNat_injective (eq_of_namedAt hnodup (namedAt_of_child hp) (namedAt_of_child hq))

namespace Built

variable (h : a.Built)
include h

/-- A node is named only by nodes that come after it. -/
lemma lt_of_namedAt (hn : a.NamedAt n i) : n.toNat < i := by
  obtain ⟨cs, hcs, hmem⟩ := namedAt_iff.1 hn
  obtain ⟨c, hc, hcn⟩ := List.mem_map.1 hmem
  exact hcn ▸ h.settled.later cs i hcs c hc

lemma acyclic : a.Acyclic :=
  .of_rank NodeId.toNat fun _ _ _ hc => h.lt_of_namedAt (namedAt_of_child hc)

/-- A parent is the last node to name its child. -/
lemma isGreatest_of_parent? (hp : a.parent? n = some p) :
    ∃ i, p = .ofNat i ∧ IsGreatest {i | a.NamedAt n i} i := by
  obtain ⟨node, hnode, hparent⟩ := Option.bind_eq_some_iff.1 hp
  rw [h.settled.linked n.toNat node hnode] at hparent
  obtain ⟨i, hi, rfl⟩ := Option.map_eq_some_iff.1 hparent
  exact ⟨i, rfl, namer?_eq_some_iff.1 hi⟩

variable (hsize : a.nodes.size ≤ UInt32.size)
include hsize

lemma parentsFollow : a.ParentsFollow := by
  intro n p hp
  obtain ⟨i, rfl, hi⟩ := h.isGreatest_of_parent? hp
  exact child_of_namedAt hsize hi.1

/-- When no node is shared, the parent of a node is the node that names it. -/
lemma child_iff (hunshared : a.Unshared) : a.Child p n ↔ a.parent? n = some p := by
  refine ⟨fun hp => ?_, h.parentsFollow hsize n p⟩
  have hnamed := namedAt_of_child hp
  have hlt : n.toNat < a.nodes.size := (h.lt_of_namedAt hnamed).trans (toNat_lt_of_child hp)
  have hnode : a.get? n = some a.nodes[n.toNat] := Array.getElem?_eq_getElem hlt
  obtain ⟨i, hi⟩ := Option.ne_none_iff_exists'.1 fun hnone =>
    namer?_eq_none_iff.1 hnone p.toNat hnamed
  have hparent : a.parent? n = some (.ofNat i) := by
    rw [parent?, hnode, Option.bind_some, h.settled.linked n.toNat _ hnode, hi, Option.map_some]
  rw [hparent, hunshared _ _ n hp (h.parentsFollow hsize n _ hparent)]

end Built

end Arena

/-- In a tree that was built bottom up, linking parents changes nothing, and the parent of a node is
the last one that names it, which comes after it.  As long as every node has a number of its own,
the numbers of parents are greater than those of their children, and every climb ends with what the
search for an ancestor gives; if no node is shared, that is the nearest node of the kind above, or
nothing if there is none. -/
theorem built_parents_linked {a : Arena} (h : a.Built) :
    a.linkParents = a ∧
    (∀ n p, a.parent? n = some p →
      ∃ i, p = .ofNat i ∧ IsGreatest {i | a.NamedAt n i} i ∧ n.toNat < i) ∧
    (a.nodes.size ≤ UInt32.size →
      (∀ n p, a.parent? n = some p → a.Child p n ∧ n.toNat < p.toNat) ∧
      (∀ n kind r, a.Climbs kind (a.parent? n) r ↔ r = a.ancestor? n kind) ∧
      (a.Unshared → ∀ n kind,
        (∀ m, a.ancestor? n kind = some m ↔ a.NearestAbove kind n m) ∧
        (a.ancestor? n kind = none ↔ ∀ m, a.Above m n → a.kind? m ≠ some kind))) := by
  refine ⟨h.linkParents_eq, fun n p hp => ?_, fun hsize => ⟨fun n p hp => ?_, fun n kind r => ?_,
    fun hunshared n kind => ?_⟩⟩
  · obtain ⟨i, hi, hgreatest⟩ := h.isGreatest_of_parent? hp
    exact ⟨i, hi, hgreatest, h.lt_of_namedAt hgreatest.1⟩
  · have hc := h.parentsFollow hsize n p hp
    exact ⟨hc, h.lt_of_namedAt (Arena.namedAt_of_child hc)⟩
  · exact (h.parentsFollow hsize).climbs_iff h.acyclic
  · exact Arena.ancestor?_iff (fun n p => h.child_iff hsize hunshared) h.acyclic n kind

/-- A class inside a method of a class, built bottom up. -/
def nestedClassArena : Arena :=
  let inner := (({ sourceText := "class A { m() { class B { x } } }" } : Arena).add .identifier
    ⟨26, 27⟩ (.identifier "x")).add .propertyDeclaration ⟨26, 27⟩ (.valueDecl ⟨⟨0⟩, none, none⟩)
  let method := ((inner.add .classDeclaration ⟨16, 29⟩ (.class_ ⟨none, [], [⟨1⟩]⟩)).add .block
    ⟨14, 31⟩ (.list [⟨2⟩])).add .methodDeclaration ⟨10, 31⟩ (.function ⟨none, [], none, some ⟨3⟩⟩)
  (method.setModifiers ⟨4⟩ ⟨1#16⟩).add .classDeclaration ⟨0, 33⟩ (.class_ ⟨none, [], [⟨4⟩]⟩)

theorem nearest_class_found :
    nestedClassArena.Built ∧ nestedClassArena.nodes.size ≤ UInt32.size ∧
    nestedClassArena.Unshared ∧ nestedClassArena.linkParents = nestedClassArena ∧
    nestedClassArena.parent? ⟨2⟩ = some ⟨3⟩ ∧ nestedClassArena.Child ⟨3⟩ ⟨2⟩ ∧
    (∃ i, (⟨3⟩ : NodeId) = .ofNat i ∧ IsGreatest {i | nestedClassArena.NamedAt ⟨2⟩ i} i ∧ 2 < i) ∧
    nestedClassArena.Climbs .classDeclaration (nestedClassArena.parent? ⟨0⟩) (some ⟨2⟩) ∧
    nestedClassArena.NearestAbove .classDeclaration ⟨0⟩ ⟨2⟩ ∧
    nestedClassArena.NearestAbove .classDeclaration ⟨2⟩ ⟨5⟩ ∧
    (∀ m, nestedClassArena.Above m ⟨5⟩ → nestedClassArena.kind? m ≠ some .classDeclaration) := by
  have hbuilt : nestedClassArena.Built :=
    .add _ _ (.setModifiers _ _ (.add _ _ (.add _ _ (.add _ _ (.add _ _ (.add _ _ (.empty _)
      (by decide)) (by decide)) (by decide)) (by decide)) (by decide))) (by decide)
  have hsize : nestedClassArena.nodes.size ≤ UInt32.size := by decide
  have hunshared : nestedClassArena.Unshared := Arena.unshared_of_nodup (by decide)
  obtain ⟨hlink, hparents, hsized⟩ := built_parents_linked hbuilt
  obtain ⟨hchild, hclimbs, hnearest⟩ := hsized hsize
  have hblock : nestedClassArena.parent? ⟨2⟩ = some ⟨3⟩ := by decide
  exact ⟨hbuilt, hsize, hunshared, hlink, hblock, (hchild ⟨2⟩ ⟨3⟩ hblock).1,
    hparents ⟨2⟩ ⟨3⟩ hblock,
    (hclimbs ⟨0⟩ .classDeclaration (some ⟨2⟩)).2 (by decide),
    ((hnearest hunshared ⟨0⟩ .classDeclaration).1 ⟨2⟩).1 (by decide),
    ((hnearest hunshared ⟨2⟩ .classDeclaration).1 ⟨5⟩).1 (by decide),
    (hnearest hunshared ⟨5⟩ .classDeclaration).2.1 (by decide)⟩

end Gls
