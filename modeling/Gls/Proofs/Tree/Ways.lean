/-
# Ways down

A way leads down from a node: it gives the place of each next node among the children of the one
before.  Nodes may be shared, so several ways may lead to one node, and a child that is named twice
is reached by two of them.  Ways are ordered like words in a dictionary.  A way then comes before
those that go on from it, and before those that turn to a later child where it turns to an earlier
one; that is the order in which pre-order comes to their ends.

A walk that stops at the first node of some sort on every way down comes to one node for every way
that ends at such a node and passes none before, in the order of the ways.
-/
import Gls.Proofs.Tree.Preorder
import Mathlib.Data.List.Flatten

namespace Gls

namespace Arena

/-- A way down: the place of each next node among the children of the one before. -/
abbrev Way := List Nat

/-- The node that a way leads to. -/
def follow? (a : Arena) : NodeId → Way → Option NodeId
  | n, [] => some n
  | n, i :: way => (a.children n)[i]?.bind fun c => a.follow? c way

/-- The way leads to a node to stop at, and to none before. -/
structure StopsAt (a : Arena) (stop : Node → Bool) (n : NodeId) (way : Way) (m : NodeId) :
    Prop where
  leads : a.follow? n way = some m
  stops : (a.get? m).any stop = true
  passes : ∀ w k, w <+: way → w ≠ way → a.follow? n w = some k → (a.get? k).any stop = false

variable {a : Arena} {stop : Node → Bool} {n m : NodeId} {fuel i : Nat} {way : Way}

/-! ### Ways step by step -/

lemma stopsAt_nil : a.StopsAt stop n [] m ↔ m = n ∧ (a.get? n).any stop = true := by
  constructor
  · rintro ⟨hleads, hstops, -⟩
    obtain rfl : n = m := Option.some.inj hleads
    exact ⟨rfl, hstops⟩
  · rintro ⟨rfl, hstops⟩
    exact ⟨rfl, hstops, fun w k hw hne => absurd (List.prefix_nil.1 hw) hne⟩

lemma stopsAt_cons : a.StopsAt stop n (i :: way) m ↔
    (a.get? n).any stop = false ∧ ∃ c, (a.children n)[i]? = some c ∧ a.StopsAt stop c way m := by
  constructor
  · rintro ⟨hleads, hstops, hpasses⟩
    obtain ⟨c, hc, hleads⟩ := Option.bind_eq_some_iff.1 hleads
    refine ⟨hpasses [] n List.nil_prefix (List.cons_ne_nil i way).symm rfl, c, hc, hleads, hstops,
      fun w k hw hne hk => ?_⟩
    refine hpasses (i :: w) k (List.cons_prefix_cons.2 ⟨rfl, hw⟩)
      (fun h => hne (List.cons.inj h).2) ?_
    rw [follow?, hc, Option.bind_some, hk]
  · rintro ⟨hn, c, hc, hleads, hstops, hpasses⟩
    refine ⟨by rw [follow?, hc, Option.bind_some, hleads], hstops, fun w k hw hne hk => ?_⟩
    rcases List.prefix_cons_iff.1 hw with rfl | ⟨w, rfl, hw'⟩
    · obtain rfl : n = k := Option.some.inj hk
      exact hn
    · rw [follow?, hc, Option.bind_some] at hk
      exact hpasses w k hw' (fun h => hne (congrArg (i :: ·) h)) hk

/-! ### The ways of a walk -/

/-- The ways of at most `fuel` nodes that end where the walk stops first. -/
def waysWithin (a : Arena) (stop : Node → Bool) : Nat → NodeId → List Way
  | 0, _ => []
  | fuel + 1, n =>
    if (a.get? n).any stop then [[]]
    else (a.children n).zipIdx.flatMap fun e => (a.waysWithin stop fuel e.1).map (e.2 :: ·)

/-- Each way ends at the node to which the walk comes. -/
lemma forall₂_waysWithin (a : Arena) (stop : Node → Bool) (fuel : Nat) (n : NodeId) :
    List.Forall₂ (a.StopsAt stop n) (a.waysWithin stop fuel n) (a.frontierWithin stop fuel n) := by
  induction fuel generalizing n with
  | zero => exact .nil
  | succ fuel ih =>
    rw [waysWithin, frontierWithin_succ]
    split_ifs with hstop
    · exact .cons (stopsAt_nil.2 ⟨rfl, hstop⟩) .nil
    · have hchildren : (a.children n).flatMap (a.frontierWithin stop fuel)
          = (a.children n).zipIdx.flatMap fun e => a.frontierWithin stop fuel e.1 := by
        conv_lhs => rw [← List.zipIdx_map_fst 0 (a.children n), List.flatMap_map]
      rw [hchildren]
      refine List.rel_flatMap (R := fun e e' => e = e' ∧ e ∈ (a.children n).zipIdx)
        (List.forall₂_same.2 fun e he => ⟨rfl, he⟩) ?_
      rintro e _ ⟨rfl, he⟩
      rw [List.forall₂_map_left_iff]
      refine (ih e.1).imp fun way m hway => ?_
      exact stopsAt_cons.2 ⟨Bool.eq_false_iff.2 hstop, e.1, List.mem_zipIdx_iff_getElem?.1 he, hway⟩

/-- The ways are listed in their order. -/
lemma pairwise_waysWithin (a : Arena) (stop : Node → Bool) (fuel : Nat) (n : NodeId) :
    (a.waysWithin stop fuel n).Pairwise (· < ·) := by
  induction fuel generalizing n with
  | zero => exact .nil
  | succ fuel ih =>
    rw [waysWithin]
    split_ifs
    · exact List.pairwise_singleton _ _
    · have hplaces : (a.children n).zipIdx.Pairwise fun e e' => e.2 < e'.2 := by
        rw [← List.pairwise_map, List.zipIdx_map_snd]
        exact List.pairwise_lt_range'
      rw [List.pairwise_flatMap]
      refine ⟨fun e _ => ?_, hplaces.imp fun {e e'} hlt => ?_⟩
      · rw [List.pairwise_map]
        exact (ih e.1).imp fun h => List.cons_lt_cons_iff.2 (.inr ⟨rfl, h⟩)
      · intro x hx y hy
        obtain ⟨w, -, rfl⟩ := List.mem_map.1 hx
        obtain ⟨w', -, rfl⟩ := List.mem_map.1 hy
        exact List.cons_lt_cons_iff.2 (.inl hlt)

/-- No way is left out. -/
lemma mem_waysWithin (hw : a.Within fuel n) (h : a.StopsAt stop n way m) :
    way ∈ a.waysWithin stop fuel n := by
  induction fuel generalizing n way with
  | zero => exact absurd (hw [] (List.isChain_singleton n)) (Nat.not_lt_zero _)
  | succ fuel ih =>
    rw [waysWithin]
    cases way with
    | nil =>
      rw [if_pos (stopsAt_nil.1 h).2]
      exact List.mem_singleton_self _
    | cons i way =>
      obtain ⟨hn, c, hc, hway⟩ := stopsAt_cons.1 h
      rw [if_neg (Bool.eq_false_iff.1 hn), List.mem_flatMap]
      refine ⟨(c, i), List.mem_zipIdx_iff_getElem?.2 hc, List.mem_map_of_mem ?_⟩
      exact ih (hw.child (List.mem_of_getElem? hc)) hway

/-- The walk comes to one node for each way that ends where it stops first, in the order of the
ways. -/
lemma exists_ways_of_frontier (stop : Node → Bool) (hw : a.Within (a.nodes.size + 1) n) :
    ∃ ways : List Way, ways.Pairwise (· < ·) ∧
      List.Forall₂ (a.StopsAt stop n) ways (a.frontier stop n) ∧
      ∀ way m, a.StopsAt stop n way m → way ∈ ways :=
  ⟨_, a.pairwise_waysWithin stop _ n, a.forall₂_waysWithin stop _ n,
    fun _ _ => mem_waysWithin hw⟩

/-- The walk comes to its nodes in pre-order. -/
lemma frontierWithin_sublist (a : Arena) (stop : Node → Bool) (fuel : Nat) (n : NodeId) :
    (a.frontierWithin stop fuel n).Sublist (a.preorderWithin fuel n) := by
  induction fuel generalizing n with
  | zero => exact .slnil
  | succ fuel ih =>
    rw [frontierWithin_succ, preorderWithin]
    split_ifs
    · exact List.singleton_sublist.2 List.mem_cons_self
    · exact (List.Sublist.flatMap_right _ fun c _ => ih c).cons n

end Arena

end Gls
