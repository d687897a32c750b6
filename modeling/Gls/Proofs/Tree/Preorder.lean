/-
# Pre-order and searches with a stack

The nodes below a node are listed in pre-order, each one before what is below it and the subtrees of
its children one after the other.  In a tree the list has every node once.

A search takes nodes from a stack, and puts back the children of those that it passes, the first of
them on top.  It comes to the same nodes in the same order as the recursive walk, and it ends
because no way down is longer than the arena.
-/
import Gls.Proofs.Tree.Shape

namespace Gls

namespace Arena

variable {a : Arena} {root n m : NodeId} {fuel : Nat}

/-- The nodes on the ways down from `n` of at most `fuel` nodes, in pre-order. -/
def preorderWithin (a : Arena) : Nat → NodeId → List NodeId
  | 0, _ => []
  | fuel + 1, n => n :: (a.children n).flatMap (preorderWithin a fuel)

/-- `n` and all that is below it, in pre-order. -/
def preorder (a : Arena) (n : NodeId) : List NodeId := preorderWithin a (a.nodes.size + 1) n

/-! ### Nodes in pre-order -/

lemma reaches_iff_child : a.Reaches n m ↔ m = n ∨ ∃ c ∈ a.children n, a.Reaches c m := by
  rw [Reaches, Relation.ReflTransGen.cases_head_iff, eq_comm]
  rfl

lemma mem_preorderWithin (hw : a.Within fuel n) :
    m ∈ a.preorderWithin fuel n ↔ a.Reaches n m := by
  induction fuel generalizing n with
  | zero => exact absurd (hw [] (List.isChain_singleton n)) (Nat.not_lt_zero _)
  | succ fuel ih =>
    rw [preorderWithin, List.mem_cons, List.mem_flatMap, reaches_iff_child]
    exact or_congr_right (exists_congr fun c => and_congr_right fun hc => ih (hw.child hc))

namespace IsTree

variable (ht : a.IsTree root)
include ht

lemma mem_preorder : m ∈ a.preorder root ↔ a.Reaches root m := mem_preorderWithin ht.within_size

lemma nodup_preorderWithin (hn : a.Reaches root n) (hw : a.Within fuel n) :
    (a.preorderWithin fuel n).Nodup := by
  induction fuel generalizing n with
  | zero => exact List.nodup_nil
  | succ fuel ih =>
    rw [preorderWithin, List.nodup_cons, List.mem_flatMap, List.nodup_flatMap]
    refine ⟨?_, fun c hc => ih (hn.child hc) (hw.child hc), ?_⟩
    · rintro ⟨c, hc, hm⟩
      exact ht.not_reaches hn hc ((mem_preorderWithin (hw.child hc)).1 hm)
    · refine (ht.pairwise_apart hn).imp_of_mem fun hc hd hapart m hmc hmd => ?_
      exact hapart m ((mem_preorderWithin (hw.child hc)).1 hmc)
        ((mem_preorderWithin (hw.child hd)).1 hmd)

/-- In a tree the list has no node twice. -/
lemma nodup_preorder : (a.preorder root).Nodup :=
  ht.nodup_preorderWithin (.refl root) ht.within_size

end IsTree

/-! ### Walks that stop at leaves -/

variable {stop : Node → Bool}

lemma frontierWithin_succ (a : Arena) (stop : Node → Bool) (fuel : Nat) (n : NodeId) :
    a.frontierWithin stop (fuel + 1) n = if (a.get? n).any stop then [n]
      else (a.children n).flatMap (a.frontierWithin stop fuel) := by
  rw [frontierWithin, children]
  cases a.get? n <;> rfl

/-- Where all nodes to stop at are leaves, the walk comes to all of them in pre-order. -/
lemma frontierWithin_eq_filter (hstop : ∀ node, stop node = true → node.children = [])
    (fuel : Nat) (n : NodeId) :
    a.frontierWithin stop fuel n = (a.preorderWithin fuel n).filter fun m => (a.get? m).any stop := by
  induction fuel generalizing n with
  | zero => rfl
  | succ fuel ih =>
    rw [frontierWithin_succ, preorderWithin, List.filter_cons, List.filter_flatMap]
    split_ifs with hn
    · obtain ⟨node, hnode, hs⟩ := (Option.any_eq_true _ _).1 hn
      have hchildren : a.children n = [] := by simp [children, hnode, hstop node hs]
      rw [hchildren, List.flatMap_nil]
    · exact List.flatMap_congr fun c _ => ih c

/-! ### Searches with a stack -/

/-- The state of a search: the nodes that are still to be looked at, the next one first, and what
was gathered. -/
structure Search (σ : Type) where
  stack : List NodeId
  gathered : σ

namespace Search

variable {σ : Type} {take : σ → NodeId → σ} {stack ns : List NodeId} {gathered : σ}

/-- One step of a search.  A node to stop at is taken.  The children of any other one are put on the
stack, the last of them first. -/
def next? (a : Arena) (stop : Node → Bool) (take : σ → NodeId → σ) :
    Search σ → Option (Search σ)
  | ⟨[], _⟩ => none
  | ⟨n :: stack, gathered⟩ =>
    if (a.get? n).any stop then some ⟨stack, take gathered n⟩
    else some ⟨(a.children n).reverse.foldl (fun stack c => c :: stack) stack, gathered⟩

/-- Steps lead from one state of a search to another. -/
def Steps (a : Arena) (stop : Node → Bool) (take : σ → NodeId → σ) : Search σ → Search σ → Prop :=
  Relation.ReflTransGen fun s s' => s.next? a stop take = some s'

lemma next?_of_stop (hs : (a.get? n).any stop = true) :
    next? a stop take ⟨n :: stack, gathered⟩ = some ⟨stack, take gathered n⟩ := by
  rw [next?, if_pos hs]

lemma next?_of_pass (hs : (a.get? n).any stop = false) :
    next? a stop take ⟨n :: stack, gathered⟩ = some ⟨a.children n ++ stack, gathered⟩ := by
  rw [next?, if_neg (Bool.eq_false_iff.1 hs)]
  simp

/-- Nodes on the stack are searched one after the other. -/
lemma steps_append {f : NodeId → List NodeId}
    (h : ∀ n ∈ ns, ∀ stack gathered,
      Steps a stop take ⟨n :: stack, gathered⟩ ⟨stack, (f n).foldl take gathered⟩) :
    Steps a stop take ⟨ns ++ stack, gathered⟩ ⟨stack, (ns.flatMap f).foldl take gathered⟩ := by
  induction ns generalizing gathered with
  | nil => exact .refl
  | cons n ns ih =>
    obtain ⟨hn, hns⟩ := List.forall_mem_cons.1 h
    rw [List.flatMap_cons, List.foldl_append]
    exact (hn (ns ++ stack) gathered).trans (ih hns)

/-- A search takes from a node what the walk from there comes to. -/
lemma steps_frontierWithin (hw : a.Within fuel n) (stack : List NodeId) (gathered : σ) :
    Steps a stop take ⟨n :: stack, gathered⟩
      ⟨stack, (a.frontierWithin stop fuel n).foldl take gathered⟩ := by
  induction fuel generalizing n stack gathered with
  | zero => exact absurd (hw [] (List.isChain_singleton n)) (Nat.not_lt_zero _)
  | succ fuel ih =>
    rw [frontierWithin_succ]
    cases hs : (a.get? n).any stop with
    | true => exact .single (next?_of_stop hs)
    | false => exact .head (next?_of_pass hs) (steps_append fun c hc => ih (hw.child hc))

/-- The search below a node ends, with the nodes that the walk comes to. -/
lemma steps_frontier (hw : a.Within (a.nodes.size + 1) n) (gathered : σ) :
    Steps a stop take ⟨[n], gathered⟩ ⟨[], (a.frontier stop n).foldl take gathered⟩ :=
  steps_frontierWithin hw [] gathered

end Search

end Arena

end Gls
