/-
# Parents

Linking parents goes through all nodes in order and makes each the parent of its children, so the
last node that names a child is its parent in the end.  This says what linking does to every node.
Linking twice is linking once; and in an arena that was built by adding nodes after the nodes they
name, the parents are those that linking would find.
-/
import Gls.Tree.Arena
import Mathlib.Data.List.Nodup
import Mathlib.Tactic.Common

namespace Gls

namespace Arena

/-! ### The last node to name a child -/

/-- Among lists of children, each with the place of its node, the place of the last one that names
the node at `j`. -/
def namedBy (j : Nat) : List (List NodeId × Nat) → Option Nat
  | [] => none
  | e :: es => (namedBy j es).or (if j ∈ e.1.map NodeId.toNat then some e.2 else none)

/-- The children of all nodes, in order. -/
def childLists (a : Arena) : List (List NodeId) := a.nodes.toList.map Node.children

/-- The place of the last node that names the node at `j`. -/
def namer? (a : Arena) (j : Nat) : Option Nat := namedBy j a.childLists.zipIdx

lemma namedBy_append (j : Nat) (es fs : List (List NodeId × Nat)) :
    namedBy j (es ++ fs) = (namedBy j fs).or (namedBy j es) := by
  induction es with
  | nil => simp [namedBy]
  | cons e es ih => rw [List.cons_append, namedBy, ih, namedBy, Option.or_assoc]

lemma exists_of_namedBy {j i : Nat} {es : List (List NodeId × Nat)} (h : namedBy j es = some i) :
    ∃ cs, (cs, i) ∈ es ∧ j ∈ cs.map NodeId.toNat := by
  induction es with
  | nil => cases h
  | cons e es ih =>
    rw [namedBy, Option.or_eq_some_iff] at h
    rcases h with h | ⟨-, h⟩
    · obtain ⟨cs, hcs, hj⟩ := ih h
      exact ⟨cs, List.mem_cons_of_mem e hcs, hj⟩
    · split_ifs at h with hj
      cases h
      exact ⟨e.1, List.mem_cons_self, hj⟩

lemma isSome_namedBy {j i : Nat} {cs : List NodeId} {es : List (List NodeId × Nat)}
    (h : (cs, i) ∈ es) (hj : j ∈ cs.map NodeId.toNat) : (namedBy j es).isSome := by
  induction es with
  | nil => cases h
  | cons e es ih =>
    rw [namedBy, Option.isSome_or, Bool.or_eq_true]
    rcases List.mem_cons.1 h with rfl | h
    · exact .inr (by simp [hj])
    · exact .inl (ih h)

/-- Two lists of children that name the same node are the same list, when no node is named twice. -/
lemma eq_of_mem_childLists {a : Arena} (hnodup : a.childLists.flatten.Nodup) {i j : Nat}
    {cs ds : List NodeId} {c : NodeId} (hi : a.childLists[i]? = some cs)
    (hj : a.childLists[j]? = some ds) (hc : c ∈ cs) (hd : c ∈ ds) : i = j := by
  obtain ⟨-, hdisjoint⟩ := List.nodup_flatten.1 hnodup
  rw [List.pairwise_iff_getElem] at hdisjoint
  obtain ⟨hil, rfl⟩ := List.getElem?_eq_some_iff.1 hi
  obtain ⟨hjl, rfl⟩ := List.getElem?_eq_some_iff.1 hj
  rcases Nat.lt_trichotomy i j with hij | hij | hij
  · exact absurd hd (hdisjoint i j hil hjl hij hc)
  · exact hij
  · exact absurd hc (hdisjoint j i hjl hil hij hd)

/-! ### What adopting keeps -/

variable {β : Type}

/-- What the change of one node keeps, is kept everywhere. -/
lemma map_modify {f : Node → β} {g : Node → Node} (hg : ∀ n, f (g n) = f n) (nodes : Array Node)
    (i : Nat) : (nodes.modify i g).toList.map f = nodes.toList.map f := by
  refine List.ext_getElem? fun j => ?_
  simp only [List.getElem?_map, Array.getElem?_toList, Array.getElem?_modify]
  split_ifs
  · rw [Option.map_map]
    exact congrArg (nodes[j]?.map ·) (funext hg)
  · rfl

/-- Adopting keeps all that does not depend on parents. -/
lemma map_adopt {f : Node → β} (hf : ∀ n parent, f { n with parent } = f n) (nodes : Array Node)
    (parent : NodeId) (children : List NodeId) :
    (adopt nodes parent children).toList.map f = nodes.toList.map f := by
  unfold adopt
  induction children generalizing nodes with
  | nil => rfl
  | cons c cs ih =>
    rw [List.foldl_cons, ih]
    exact map_modify (fun n => hf n _) nodes _

/-! ### Linking -/

/-- The node with a new parent, if there is one. -/
def withParent (parent : Option Nat) (n : Node) : Node :=
  match parent with
  | some i => { n with parent := some (.ofNat i) }
  | none => n

@[simp] lemma withParent_none : withParent none = id := rfl

@[simp] lemma children_withParent (parent : Option Nat) (n : Node) :
    (withParent parent n).children = n.children := by
  cases parent <;> rfl

/-- The later parent counts. -/
lemma withParent_withParent (parent parent' : Option Nat) (n : Node) :
    withParent parent (withParent parent' n) = withParent (parent.or parent') n := by
  cases parent <;> cases parent' <;> rfl

/-- Adopting changes the parent of the children, and nothing else. -/
lemma getElem?_adopt (nodes : Array Node) (i : Nat) (cs : List NodeId) (j : Nat) :
    (adopt nodes (.ofNat i) cs)[j]? =
      nodes[j]?.map (withParent (if j ∈ cs.map NodeId.toNat then some i else none)) := by
  unfold adopt
  induction cs generalizing nodes with
  | nil => simp
  | cons c cs ih =>
    -- All children get the same parent, so a child that is named twice may be adopted twice.
    have hone : (nodes.modify c.toNat fun n => { n with parent := some (.ofNat i) })[j]?
        = nodes[j]?.map (withParent (if c.toNat = j then some i else none)) := by
      rw [Array.getElem?_modify]
      split_ifs
      · rfl
      · simp
    have hor : (if j ∈ cs.map NodeId.toNat then some i else none).or
        (if c.toNat = j then some i else none)
        = if j ∈ (c :: cs).map NodeId.toNat then some i else none := by
      have hmem : j ∈ (c :: cs).map NodeId.toNat ↔ c.toNat = j ∨ j ∈ cs.map NodeId.toNat := by
        rw [List.map_cons, List.mem_cons, eq_comm]
      simp only [hmem]
      by_cases hc : c.toNat = j <;> by_cases hcs : j ∈ cs.map NodeId.toNat <;> simp only [hc, hcs] <;>
        rfl
    rw [List.foldl_cons, ih, hone, Option.map_map, ← hor]
    congr 1
    funext n
    exact withParent_withParent _ _ n

/-- What linking does to every node. -/
lemma getElem?_foldl_adopt (es : List (Node × Nat)) (nodes : Array Node) (j : Nat) :
    (es.foldl (fun ns e => adopt ns (.ofNat e.2) e.1.children) nodes)[j]? =
      nodes[j]?.map (withParent (namedBy j (es.map (Prod.map Node.children id)))) := by
  induction es generalizing nodes with
  | nil => simp [namedBy]
  | cons e es ih =>
    rw [List.foldl_cons, ih, getElem?_adopt, Option.map_map, List.map_cons, namedBy]
    congr 1
    funext n
    exact withParent_withParent _ _ n

lemma getElem?_linkParents (a : Arena) (j : Nat) :
    a.linkParents.nodes[j]? = a.nodes[j]?.map (withParent (a.namer? j)) := by
  rw [linkParents, getElem?_foldl_adopt, namer?, childLists, List.zipIdx_map]

/-- Linking changes no children. -/
lemma childLists_linkParents (a : Arena) : a.linkParents.childLists = a.childLists := by
  refine List.ext_getElem? fun j => ?_
  simp only [childLists, List.getElem?_map, Array.getElem?_toList, getElem?_linkParents]
  cases a.nodes[j]? <;> simp

/-- Linking twice is linking once. -/
lemma linkParents_linkParents (a : Arena) : a.linkParents.linkParents = a.linkParents := by
  have hnamer : ∀ j, a.linkParents.namer? j = a.namer? j := by
    intro j
    rw [namer?, childLists_linkParents, namer?]
  have hnodes : a.linkParents.linkParents.nodes = a.linkParents.nodes := by
    refine Array.ext_getElem? fun j => ?_
    rw [getElem?_linkParents, hnamer, getElem?_linkParents, Option.map_map]
    congr 1
    funext n
    rw [Function.comp_apply, withParent_withParent, Option.or_self]
  exact congrArg (Arena.mk a.sourceText) hnodes

/-! ### Arenas that are built bottom up -/

/-- An arena made by adding nodes, each after the nodes that it names; in between, modifiers may be
set and source text may be appended. -/
inductive Built : Arena → Prop
  | empty (text : String) : Built { sourceText := text }
  | text {a : Arena} (text : String) : Built a → Built { a with sourceText := text }
  | add {a : Arena} (kind : Kind) (span : Span) {payload : Payload} : Built a →
      (∀ c ∈ payload.children, c.toNat < a.nodes.size) → Built (a.add kind span payload)
  | setModifiers {a : Arena} (n : NodeId) (modifiers : Modifiers) : Built a →
      Built (a.setModifiers n modifiers)

/-- Nodes come after their children, and the parent of a node is the last one to name it, if there is
one. -/
structure Settled (a : Arena) : Prop where
  later : ∀ cs i, (cs, i) ∈ a.childLists.zipIdx → ∀ c ∈ cs, c.toNat < i
  linked : ∀ j n, a.nodes[j]? = some n → n.parent = (a.namer? j).map .ofNat

lemma childLists_add (a : Arena) (kind : Kind) (span : Span) (payload : Payload) :
    (a.add kind span payload).childLists = a.childLists ++ [payload.children] := by
  have hadopt : (adopt a.nodes a.nextId payload.children).toList.map Node.children
      = a.nodes.toList.map Node.children := map_adopt (fun _ _ => rfl) _ _ _
  simp [childLists, add, hadopt, Node.children]

lemma length_childLists (a : Arena) : a.childLists.length = a.nodes.size := by
  simp [childLists]

lemma namer?_add (a : Arena) (kind : Kind) (span : Span) (payload : Payload) (j : Nat) :
    (a.add kind span payload).namer? j =
      if j ∈ payload.children.map NodeId.toNat then some a.nodes.size else a.namer? j := by
  rw [namer?, childLists_add, List.zipIdx_append, namedBy_append, length_childLists]
  simp only [List.zipIdx_singleton, namedBy, Option.none_or, Nat.zero_add]
  split_ifs <;> rfl

/-- Nobody names a node that is not there yet. -/
lemma Settled.namer?_size {a : Arena} (h : a.Settled) : a.namer? a.nodes.size = none := by
  by_contra hne
  obtain ⟨i, hi⟩ := Option.ne_none_iff_exists'.1 hne
  obtain ⟨cs, hcs, hsize⟩ := exists_of_namedBy hi
  obtain ⟨c, hc, hcn⟩ := List.mem_map.1 hsize
  have hlater := h.later cs i hcs c hc
  have hlt := (List.mem_zipIdx hcs).2.1
  rw [length_childLists] at hlt
  omega

lemma Settled.add {a : Arena} (h : a.Settled) (kind : Kind) (span : Span) {payload : Payload}
    (hpayload : ∀ c ∈ payload.children, c.toNat < a.nodes.size) :
    (a.add kind span payload).Settled where
  later cs i hmem c hc := by
    rw [childLists_add, List.zipIdx_append, List.mem_append, length_childLists] at hmem
    rcases hmem with hmem | hmem
    · exact h.later cs i hmem c hc
    · simp only [List.zipIdx_singleton, List.mem_singleton, Prod.mk.injEq, Nat.zero_add] at hmem
      obtain ⟨rfl, rfl⟩ := hmem
      exact hpayload c hc
  linked j n hn := by
    have hsize : (adopt a.nodes a.nextId payload.children).size = a.nodes.size := by
      have := congrArg List.length (childLists_add a kind span payload)
      simpa [childLists, Arena.add] using this
    rw [namer?_add]
    simp only [Arena.add, Array.getElem?_push, hsize] at hn
    split_ifs at hn with hj
    · -- The new node is named neither by itself nor by the nodes before it.
      have hchild : j ∉ payload.children.map NodeId.toNat := by
        intro hchild
        obtain ⟨c, hc, hcn⟩ := List.mem_map.1 hchild
        have := hpayload c hc
        omega
      obtain rfl := Option.some.inj hn
      rw [if_neg hchild, hj, h.namer?_size]
      rfl
    · -- A node from before is named by the new one, or has kept its parent.
      rw [nextId, getElem?_adopt] at hn
      obtain ⟨n', hn', rfl⟩ := Option.map_eq_some_iff.1 hn
      split_ifs with hchild
      · rfl
      · exact h.linked j n' hn'

lemma Settled.setModifiers {a : Arena} (h : a.Settled) (n : NodeId) (modifiers : Modifiers) :
    (a.setModifiers n modifiers).Settled := by
  have hget : ∀ j, (a.setModifiers n modifiers).nodes[j]?
      = a.nodes[j]?.map fun node => if n.toNat = j then { node with modifiers } else node := by
    intro j
    rw [Arena.setModifiers, Array.getElem?_modify]
    split_ifs <;> simp
  have hchildren : (a.setModifiers n modifiers).childLists = a.childLists := by
    refine List.ext_getElem? fun j => ?_
    simp only [childLists, List.getElem?_map, Array.getElem?_toList, hget, Option.map_map]
    congr 1
    funext node
    simp only [Function.comp_apply]
    split_ifs <;> rfl
  refine ⟨?_, fun j node hnode => ?_⟩
  · rw [hchildren]
    exact h.later
  · rw [namer?, hchildren]
    rw [hget] at hnode
    obtain ⟨node', hnode', rfl⟩ := Option.map_eq_some_iff.1 hnode
    have hparent := h.linked j node' hnode'
    split_ifs <;> exact hparent

lemma Built.settled {a : Arena} (h : a.Built) : a.Settled := by
  induction h with
  | empty text => exact ⟨by simp [childLists], by simp⟩
  | text text _ ih => exact ⟨ih.later, ih.linked⟩
  | add kind span _ hpayload ih => exact ih.add kind span hpayload
  | setModifiers n modifiers _ ih => exact ih.setModifiers n modifiers

/-- In an arena that was built bottom up the parents are linked already. -/
lemma Built.linkParents_eq {a : Arena} (h : a.Built) : a.linkParents = a := by
  have hnodes : a.linkParents.nodes = a.nodes := by
    refine Array.ext_getElem? fun j => ?_
    rw [getElem?_linkParents]
    -- Linking leaves a node alone that nobody names, and gives any other the parent it has.
    cases hn : a.nodes[j]? with
    | none => rfl
    | some n =>
      have hparent := h.settled.linked j n hn
      cases hnamer : a.namer? j with
      | none => rfl
      | some i =>
        rw [hnamer, Option.map_some] at hparent
        exact congrArg some (by rw [withParent, ← hparent])
  exact congrArg (Arena.mk a.sourceText) hnodes

end Arena

end Gls
