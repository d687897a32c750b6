/-
# Histories of calls

A traversal is used again and again: for single nodes, for several nodes, and for nodes in value
position.  Calls may fail, and the next call begins in the state that the last one has reached.  So
what a traversal guarantees has to survive every failure.

The step lemma says what one call does to the state, whether or not it fails.  The run lemma says
the same of a whole history.
-/
import Gls.Proofs.Visit.Footprint

namespace Gls

/-! ### Calls -/

/-- A way to use a traversal. -/
inductive Call where
  | node (n : NodeId)
  | nodes (ns : List NodeId)
  /-- A node in value position. -/
  | value (n : NodeId)
  /-- Nodes in value position. -/
  | values (ns : List NodeId)

/-- What a call comes to. -/
inductive Answer where
  | fragments (fragments : List Fragment)
  | value (outcome : Outcome Argument)
  | values (outcome : Outcome (List Argument))

namespace Call

/-- What a call does. -/
def visit (ctx : Context) : Call → Visit Answer
  | .node n => do return .fragments (← Visit.node ctx n)
  | .nodes ns => do return .fragments (← Visit.all (Visit.node ctx) ns)
  | .value n => do return .value (← Visit.value ctx (Visit.node ctx) n)
  | .values ns => do return .values (← Visit.values ctx (Visit.node ctx) ns)

/-- The node that a call visits first, if it visits any. -/
def first? : Call → Option NodeId
  | .node n | .value n => some n
  | .nodes ns | .values ns => ns.head?

/-- The state that a call reaches, whether or not it fails. -/
def next (ctx : Context) (c : Call) (s : Traversal) : Traversal := ((c.visit ctx).outcome s).2

end Call

/-- The state after a history of calls. -/
def stateAfter (ctx : Context) : List Call → Traversal → Traversal
  | [], s => s
  | c :: cs, s => stateAfter ctx cs (c.next ctx s)

/-! ### What a history does to the state -/

/-- What calls may do to the state: they come back to its depth, and add to the visited nodes and to
the journal what visits may leave behind. -/
structure Bookkept (a : Arena) (s t : Traversal) : Prop where
  depth : t.depth = s.depth
  growth : ∃ g : Growth, t.visited = g.entered ++ s.visited ∧ t.journal = g.noted ++ s.journal ∧
    g.Sound a s

namespace Bookkept

variable {a : Arena} {s t u : Traversal}

lemma of_grow {g : Growth} (hg : g.Sound a s) : Bookkept a s (s.grow g) :=
  ⟨rfl, g, rfl, rfl, hg⟩

lemma exists_grow (h : Bookkept a s t) : ∃ g : Growth, t = s.grow g ∧ g.Sound a s := by
  obtain ⟨hdepth, g, hvisited, hjournal, hg⟩ := h
  refine ⟨g, ?_, hg⟩
  cases t
  simp_all [Traversal.grow]

lemma refl (a : Arena) (s : Traversal) : Bookkept a s s := of_grow (.nothing a s)

lemma trans (h : Bookkept a s t) (h' : Bookkept a t u) : Bookkept a s u := by
  obtain ⟨g, rfl, hg⟩ := h.exists_grow
  obtain ⟨g', rfl, hg'⟩ := h'.exists_grow
  rw [Traversal.grow_grow]
  exact of_grow (hg.append hg')

end Bookkept

namespace Call

variable {ctx : Context}

/-- What visits of nodes have, calls have too. -/
lemma inherits {P : ∀ ⦃α : Type⦄, Visit α → Prop} (hP : Visit.Inherited P)
    (hnode : ∀ n, P (Visit.node ctx n)) (c : Call) : P (c.visit ctx) := by
  cases c with
  | node n => exact hP.map (hnode n) _
  | nodes ns => exact hP.map (hP.all fun m _ => hnode m) _
  | value n => exact hP.map (hP.value (hnode n)) _
  | values ns => exact hP.map (hP.values fun m _ => hnode m) _

/-- Whatever a call visits, it is as confined as the visits of nodes are. -/
lemma confined (ctx : Context) (c : Call) (d : Nat) :
    Visit.Confined ctx.arena Set.univ d (c.visit ctx) :=
  c.inherits (Visit.inherited_confined _ _ d) fun n =>
    (Visit.confined_node ctx d n).mono fun _ _ => trivial

/-- The step lemma: what one call does to the state. -/
lemma bookkept (c : Call) (s : Traversal) : Bookkept ctx.arena s (c.next ctx s) := by
  obtain ⟨r, g, hs, -, -, hg⟩ := c.confined ctx s.depth s s rfl rfl fun _ _ => .rfl
  rw [next, hs]
  exact .of_grow hg

/-- A call that begins with a visited node stops there. -/
lemma outcome_of_visited {c : Call} {n : NodeId} {node : Node} {s : Traversal}
    (hc : c.first? = some n) (hnode : ctx.arena.get? n = some node) (hn : n ∈ s.visited) :
    (c.visit ctx).outcome s = (.error (.revisited node.kind node.span), s) := by
  have hvisit : (Visit.node ctx n).outcome s = (.error (.revisited node.kind node.span), s) := by
    rw [Visit.node, Visit.outcome_bind_of_ok (Visit.outcome_get s)]
    exact Visit.outcome_nodeWithin_of_error (Visit.outcome_enter_of_visited hnode hn)
  have hfails {α β : Type} {x : Visit α} (f : α → Visit β)
      (hx : x.outcome s = (.error (.revisited node.kind node.span), s)) :
      (x >>= f).outcome s = (.error (.revisited node.kind node.span), s) :=
    Visit.outcome_bind_eq_error.2 (.inl hx)
  cases c with
  | node m =>
    obtain rfl := Option.some.inj hc
    exact hfails _ hvisit
  | value m =>
    obtain rfl := Option.some.inj hc
    exact hfails _ (hfails _ hvisit)
  | nodes ns =>
    obtain ⟨ms, rfl⟩ := List.head?_eq_some_iff.1 hc
    exact hfails _ (hfails _ hvisit)
  | values ns =>
    obtain ⟨ms, rfl⟩ := List.head?_eq_some_iff.1 hc
    exact hfails _ (hfails _ (hfails _ hvisit))

end Call

/-- The run lemma: what a history does to the state. -/
lemma bookkept_stateAfter (ctx : Context) (cs : List Call) (s : Traversal) :
    Bookkept ctx.arena s (stateAfter ctx cs s) := by
  induction cs generalizing s with
  | nil => exact .refl _ s
  | cons c cs ih => exact (c.bookkept s).trans (ih (c.next ctx s))

/-- After every history of calls, whether or not they failed, and after every call that may come
next: the depth is what it was; the visited nodes are those of before and others, which are in the
arena; nodes are dispatched at allowed depths, only when they had not been visited, and no node
twice in the whole history.  A call that begins with a visited node fails for that reason, and does
nothing to the state. -/
theorem history_keeps_books (ctx : Context) (s : Traversal) (cs : List Call) :
    Bookkept ctx.arena s (stateAfter ctx cs s) ∧
    (∀ c : Call, Bookkept ctx.arena (stateAfter ctx cs s) (c.next ctx (stateAfter ctx cs s))) ∧
    ∀ (c : Call) (n : NodeId) (node : Node), c.first? = some n → ctx.arena.get? n = some node →
      n ∈ (stateAfter ctx cs s).visited →
        (c.visit ctx).outcome (stateAfter ctx cs s)
          = (.error (.revisited node.kind node.span), stateAfter ctx cs s) :=
  ⟨bookkept_stateAfter ctx cs s, fun c => c.bookkept _,
    fun _ _ _ hc hnode hn => Call.outcome_of_visited hc hnode hn⟩

/-- After a call that failed and one that did not, a node that the failed call entered counts as
visited. -/
theorem broken_history_keeps_books :
    stateAfter brokenContext [.node ⟨2⟩, .value ⟨1⟩] {}
      = ⟨[⟨1⟩, ⟨0⟩, ⟨2⟩], 0, [.dispatched ⟨1⟩ 1, .dispatched ⟨0⟩ 2, .dispatched ⟨2⟩ 1]⟩ ∧
    ((Call.nodes [⟨0⟩, ⟨1⟩]).visit brokenContext).outcome
        (stateAfter brokenContext [.node ⟨2⟩, .value ⟨1⟩] {})
      = (.error (.revisited .identifier ⟨0, 1⟩),
          stateAfter brokenContext [.node ⟨2⟩, .value ⟨1⟩] {}) := by
  have hstate : stateAfter brokenContext [.node ⟨2⟩, .value ⟨1⟩] {}
      = ⟨[⟨1⟩, ⟨0⟩, ⟨2⟩], 0, [.dispatched ⟨1⟩ 1, .dispatched ⟨0⟩ 2, .dispatched ⟨2⟩ 1]⟩ := rfl
  obtain ⟨-, -, hvisited⟩ := history_keeps_books brokenContext {} [.node ⟨2⟩, .value ⟨1⟩]
  have hnode : brokenContext.arena.get? ⟨0⟩ = some
      { kind := .identifier, pos := 0, stop := 1, payload := .identifier "a" } := rfl
  have hmem : ⟨0⟩ ∈ (stateAfter brokenContext [.node ⟨2⟩, .value ⟨1⟩] {}).visited := by
    rw [hstate]
    decide
  exact ⟨hstate, hvisited (.nodes [⟨0⟩, ⟨1⟩]) _ _ rfl hnode hmem⟩

end Gls
