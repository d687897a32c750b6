/-
# The shape of a tree in an arena

Nodes refer to each other by their places, so an arena may hold any graph.  This file says when
child links form no circle, and when those below a root form a tree, and collects what follows: in a
tree no node lies below itself, and the subtrees of two children of one node have nothing in common;
and where there is no circle, a way down is no longer than the arena.
-/
import Gls.Tree.Arena
import Mathlib.Data.List.Chain
import Mathlib.Data.List.Nodup
import Mathlib.Data.List.Perm.Subperm
import Mathlib.Logic.Relation

namespace Gls

namespace Arena

/-- The node `p` names `c` as a child. -/
def Child (a : Arena) (p c : NodeId) : Prop := c ∈ a.children p

/-- The node `m` is `n` or lies below it. -/
def Reaches (a : Arena) (n m : NodeId) : Prop := Relation.ReflTransGen a.Child n m

/-- No way down leads from a node back to it. -/
def Acyclic (a : Arena) : Prop := ∀ n, ¬ Relation.TransGen a.Child n n

/-- The child links below the root form a tree: no node is named twice, and the root not at all. -/
structure IsTree (a : Arena) (root : NodeId) : Prop where
  nodup : ∀ p, a.Reaches root p → (a.children p).Nodup
  unique : ∀ p q c, a.Reaches root p → a.Reaches root q → a.Child p c → a.Child q c → p = q
  top : ∀ p, a.Reaches root p → ¬ a.Child p root

/-- The subtrees of two nodes have nothing in common. -/
def Apart (a : Arena) (x y : NodeId) : Prop := ∀ m, a.Reaches x m → ¬ a.Reaches y m

variable {a : Arena} {root p c d x y : NodeId}

namespace Reaches

lemma refl (n : NodeId) : a.Reaches n n := Relation.ReflTransGen.refl

lemma trans {n m k : NodeId} (h : a.Reaches n m) (h' : a.Reaches m k) : a.Reaches n k :=
  Relation.ReflTransGen.trans h h'

lemma of_child (h : a.Child p c) : a.Reaches p c := Relation.ReflTransGen.single h

lemma child {n : NodeId} (h : a.Reaches n p) (hc : a.Child p c) : a.Reaches n c :=
  Relation.ReflTransGen.tail h hc

/-- What is reached lies in every set that holds the start and is closed under children. -/
lemma mem_of_closed {n m : NodeId} {S : List NodeId} (h : a.Reaches n m) (hn : n ∈ S)
    (hS : ∀ p ∈ S, ∀ c ∈ a.children p, c ∈ S) : m ∈ S := by
  induction h with
  | refl => exact hn
  | tail _ hc ih => exact hS _ ih _ hc

end Reaches

lemma toNat_lt_of_child (h : a.Child p c) : p.toNat < a.nodes.size := by
  by_contra hp
  have hn : a.get? p = none := Array.getElem?_eq_none (Nat.le_of_not_lt hp)
  simp [Child, children, hn] at h

namespace Acyclic

/-- Links that lead to smaller numbers form no circle. -/
lemma of_rank (rank : NodeId → Nat)
    (h : ∀ i < a.nodes.size, ∀ c ∈ a.children (.ofNat i), rank c < rank (.ofNat i)) :
    a.Acyclic := by
  have hchild : ∀ p c, a.Child p c → rank c < rank p := by
    intro p c hc
    have hp := h p.toNat (toNat_lt_of_child hc) c
    rw [NodeId.ofNat_toNat] at hp
    exact hp hc
  have hlt : ∀ {p c}, Relation.TransGen a.Child p c → rank c < rank p := by
    intro p c hpc
    induction hpc with
    | single hc => exact hchild _ _ hc
    | tail _ hc ih => exact (hchild _ _ hc).trans ih
  exact fun n hn => (hlt hn).false

variable (h : a.Acyclic)
include h

/-- No node lies below one of its children. -/
lemma not_reaches (hc : a.Child p c) : ¬ a.Reaches c p := fun hr => h p (.head' hc hr)

/-- Of two nodes that lie below each other, each is the other. -/
lemma eq_of_reaches (hxy : a.Reaches x y) (hyx : a.Reaches y x) : x = y := by
  rcases Relation.ReflTransGen.cases_head hxy with rfl | ⟨c, hc, hcy⟩
  · rfl
  · exact absurd (hcy.trans hyx) (h.not_reaches hc)

end Acyclic

namespace Apart

lemma mono {x' y' : NodeId} (h : a.Apart x y) (hx : a.Reaches x x') (hy : a.Reaches y y') :
    a.Apart x' y' := fun m hm hm' => h m (hx.trans hm) (hy.trans hm')

end Apart

namespace IsTree

/-- It is enough to look at a list that holds the root and is closed under children. -/
lemma of_closed {S : List NodeId} (hroot : root ∈ S) (hS : ∀ p ∈ S, ∀ c ∈ a.children p, c ∈ S)
    (hnodup : (S.flatMap a.children).Nodup) (htop : root ∉ S.flatMap a.children) :
    a.IsTree root where
  nodup p hp := (List.nodup_flatMap.1 hnodup).1 p (hp.mem_of_closed hroot hS)
  unique p q c hp hq hpc hqc := by
    by_contra hpq
    have : Std.Symm (Function.onFun List.Disjoint a.children) :=
      ⟨fun _ _ h c hq hp => h hp hq⟩
    exact (List.nodup_flatMap.1 hnodup).2.forall (hp.mem_of_closed hroot hS)
      (hq.mem_of_closed hroot hS) hpq hpc hqc
  top p hp hc := htop (List.mem_flatMap.2 ⟨p, hp.mem_of_closed hroot hS, hc⟩)

variable (ht : a.IsTree root)
include ht

/-- No node lies below one of its children. -/
lemma not_reaches (hp : a.Reaches root p) (hc : a.Child p c) : ¬ a.Reaches c p := by
  -- A circle through a node, followed upwards, ends at the root, which is nobody's child.
  induction hp generalizing c with
  | refl =>
    intro h
    rcases Relation.ReflTransGen.cases_tail h with rfl | ⟨q, hq, hqc⟩
    · exact ht.top _ (.refl _) hc
    · exact ht.top _ ((Reaches.of_child hc).trans hq) hqc
  | @tail q p hq hqp ih =>
    intro h
    have hp : a.Reaches root p := Reaches.child hq hqp
    rcases Relation.ReflTransGen.cases_tail h with rfl | ⟨q', hq', hqp'⟩
    · have : q = p := ht.unique _ _ _ hq hp hqp hc
      exact ih hqp (this ▸ .refl _)
    · have : q' = q :=
        ht.unique _ _ _ (hp.trans ((Reaches.of_child hc).trans hq')) hq hqp' hqp
      exact ih hqp ((Reaches.of_child hc).trans (this ▸ hq'))

/-- Of two nodes above a third, one is above the other. -/
lemma comparable (hx : a.Reaches root x) (hy : a.Reaches root y) {m : NodeId}
    (hxm : a.Reaches x m) (hym : a.Reaches y m) : a.Reaches x y ∨ a.Reaches y x := by
  -- The two ways to `m` are followed upwards together until one of them ends.
  induction hxm with
  | refl => exact .inr hym
  | @tail q m hxq hqm ih =>
    rcases Relation.ReflTransGen.cases_tail hym with rfl | ⟨q', hyq', hqm'⟩
    · exact .inl (Reaches.child hxq hqm)
    · have : q' = q := ht.unique _ _ _ (hy.trans hyq') (hx.trans hxq) hqm' hqm
      exact ih (this ▸ hyq')

/-- No child of a node lies below another. -/
lemma not_reaches_sibling (hp : a.Reaches root p) (hc : a.Child p c) (hd : a.Child p d)
    (hcd : c ≠ d) : ¬ a.Reaches c d := by
  intro h
  rcases Relation.ReflTransGen.cases_tail h with rfl | ⟨q, hq, hqd⟩
  · exact hcd rfl
  · have : q = p := ht.unique _ _ _ ((hp.child hc).trans hq) hp hqd hd
    exact ht.not_reaches hp hc (this ▸ hq)

/-- The subtrees of two children have nothing in common. -/
lemma apart (hp : a.Reaches root p) (hc : a.Child p c) (hd : a.Child p d) (hcd : c ≠ d) :
    a.Apart c d := by
  intro m hcm hdm
  rcases ht.comparable (hp.child hc) (hp.child hd) hcm hdm with h | h
  · exact ht.not_reaches_sibling hp hc hd hcd h
  · exact ht.not_reaches_sibling hp hd hc hcd.symm h

/-- The subtrees of all children of a node are apart from each other. -/
lemma pairwise_apart (hp : a.Reaches root p) : (a.children p).Pairwise a.Apart := by
  refine List.Pairwise.imp_of_mem ?_ (ht.nodup p hp)
  intro c d hc hd hcd
  exact ht.apart hp hc hd hcd

end IsTree

/-! ### Ways down -/

/-- No way down from `n` has more than `levels` nodes. -/
def Within (a : Arena) (levels : Nat) (n : NodeId) : Prop :=
  ∀ path, List.IsChain a.Child (n :: path) → path.length < levels

namespace Within

variable {levels : Nat} {n m : NodeId}

lemma child (h : a.Within (levels + 1) p) (hc : a.Child p c) : a.Within levels c := by
  intro path hpath
  have := h (c :: path) (List.isChain_cons_cons.2 ⟨hc, hpath⟩)
  simpa using this

lemma mono {levels' : Nat} (h : a.Within levels n) (hl : levels ≤ levels') :
    a.Within levels' n := fun path hpath => lt_of_lt_of_le (h path hpath) hl

lemma reaches (h : a.Within levels n) (hm : a.Reaches n m) : a.Within levels m := by
  induction hm with
  | refl => exact h
  | tail _ hc ih =>
    cases levels with
    | zero => exact absurd (ih [] (List.isChain_singleton _)) (Nat.not_lt_zero _)
    | succ levels => exact (ih.child hc).mono (Nat.le_succ levels)

end Within

lemma toNat_injective : Function.Injective NodeId.toNat := by
  rintro ⟨x⟩ ⟨y⟩ h
  exact congrArg NodeId.mk (UInt32.toNat_inj.1 h)

/-- What follows on a way down lies below a child of where it begins. -/
lemma exists_child_of_isChain {n : NodeId} {path : List NodeId}
    (h : List.IsChain a.Child (n :: path)) {m : NodeId} (hm : m ∈ path) :
    ∃ c, a.Child n c ∧ a.Reaches c m := by
  induction path generalizing n with
  | nil => cases hm
  | cons c path ih =>
    obtain ⟨hc, hpath⟩ := List.isChain_cons_cons.1 h
    refine ⟨c, hc, ?_⟩
    rcases List.mem_cons.1 hm with rfl | hm
    · exact .refl _
    · obtain ⟨c', hc', hcm⟩ := ih hpath hm
      exact (Reaches.of_child hc').trans hcm

/-- No node comes twice on a way down, when no node below the start lies below its own child. -/
lemma nodup_of_isChain {n : NodeId}
    (hn : ∀ p c, a.Reaches n p → a.Child p c → ¬ a.Reaches c p) {path : List NodeId}
    (h : List.IsChain a.Child (n :: path)) : (n :: path).Nodup := by
  induction path generalizing n with
  | nil => exact List.nodup_singleton n
  | cons c path ih =>
    obtain ⟨hc, hpath⟩ := List.isChain_cons_cons.1 h
    refine List.nodup_cons.2 ⟨fun hm => ?_,
      ih (fun p d hp => hn p d ((Reaches.of_child hc).trans hp)) hpath⟩
    obtain ⟨c', hc', hcn⟩ := exists_child_of_isChain h hm
    exact hn n c' (.refl n) hc' hcn

/-- All nodes on a way down but the last are in the arena. -/
lemma toNat_lt_of_mem_dropLast {n : NodeId} {path : List NodeId}
    (h : List.IsChain a.Child (n :: path)) {m : NodeId} (hm : m ∈ (n :: path).dropLast) :
    m.toNat < a.nodes.size := by
  induction path generalizing n with
  | nil => cases hm
  | cons c path ih =>
    obtain ⟨hc, hpath⟩ := List.isChain_cons_cons.1 h
    rcases List.mem_cons.1 (List.dropLast_cons_cons ▸ hm) with rfl | hm
    · exact toNat_lt_of_child hc
    · exact ih hpath hm

/-- A way down without a circle has at most one node more than the arena. -/
lemma within_size_of_not_reaches {n : NodeId}
    (hn : ∀ p c, a.Reaches n p → a.Child p c → ¬ a.Reaches c p) :
    a.Within (a.nodes.size + 1) n := by
  intro path hpath
  -- The last node may be missing from the arena, so the places of all others are counted.
  have hnodup : ((n :: path).dropLast.map NodeId.toNat).Nodup :=
    ((nodup_of_isChain hn hpath).sublist (List.dropLast_sublist _)).map toNat_injective
  have hsub : (n :: path).dropLast.map NodeId.toNat ⊆ List.range a.nodes.size := by
    intro i hi
    obtain ⟨m, hm, rfl⟩ := List.mem_map.1 hi
    exact List.mem_range.2 (toNat_lt_of_mem_dropLast hpath hm)
  have hlen := (List.subperm_of_subset hnodup hsub).length_le
  simp only [List.length_map, List.length_dropLast, List.length_cons, List.length_range] at hlen
  omega

lemma IsTree.within_size (ht : a.IsTree root) : a.Within (a.nodes.size + 1) root :=
  within_size_of_not_reaches fun _ _ hp hc => ht.not_reaches hp hc

lemma Acyclic.within_size (h : a.Acyclic) (n : NodeId) : a.Within (a.nodes.size + 1) n :=
  within_size_of_not_reaches fun _ _ _ hc => h.not_reaches hc

/-! ### Children by the form of the payload -/

variable {n : NodeId}

lemma children_of_payload? {p : Payload} (h : a.payload? n = some p) :
    a.children n = p.children := by
  obtain ⟨node, hn, rfl⟩ := Option.map_eq_some_iff.1 h
  simp [children, hn, Node.children]

lemma holds?_eq_some_iff {α : Type} {form : Payload.Form α} {x : α} :
    a.holds? form n = some x ↔ a.payload? n = some (form.make x) := by
  rw [holds?, Option.bind_eq_some_iff]
  constructor
  · rintro ⟨p, hp, hx⟩
    rw [hp, form.make_of_read p x hx]
  · exact fun hp => ⟨_, hp, form.read_make x⟩

lemma children_of_holds? {α : Type} {form : Payload.Form α} {x : α}
    (h : a.holds? form n = some x) : a.children n = (form.make x).children :=
  children_of_payload? (holds?_eq_some_iff.1 h)

lemma children_of_list? {l : List NodeId} (h : a.list? n = some l) : a.children n = l :=
  children_of_holds? h

lemma children_of_wrapped? {m : NodeId} (h : a.wrapped? n = some m) : a.children n = [m] :=
  children_of_holds? h

lemma children_of_valueDecl? {d : Payload.ValueDecl} (h : a.valueDecl? n = some d) :
    a.children n = (Payload.valueDecl d).children :=
  children_of_holds? h

lemma children_of_binary? {d : Payload.Binary} (h : a.binary? n = some d) :
    a.children n = (Payload.binary d).children :=
  children_of_holds? h

lemma children_of_unary? {d : Payload.Unary} (h : a.unary? n = some d) :
    a.children n = (Payload.unary d).children :=
  children_of_holds? h

lemma children_of_loop? {d : Payload.Loop} (h : a.loop? n = some d) :
    a.children n = (Payload.loop d).children :=
  children_of_holds? h

lemma children_of_class? {d : Payload.Class} (h : a.class? n = some d) :
    a.children n = (Payload.class_ d).children :=
  children_of_holds? h

lemma children_of_interface? {d : Payload.Interface} (h : a.interface? n = some d) :
    a.children n = (Payload.interface d).children :=
  children_of_holds? h

lemma children_of_function? {d : Payload.Function} (h : a.function? n = some d) :
    a.children n = (Payload.function d).children :=
  children_of_holds? h

lemma children_of_call? {d : Payload.Call} (h : a.call? n = some d) :
    a.children n = (Payload.call d).children :=
  children_of_holds? h

lemma children_of_conditional? {d : Payload.Conditional} (h : a.conditional? n = some d) :
    a.children n = (Payload.conditional d).children :=
  children_of_holds? h

end Arena

end Gls
