/-
# What a visit leaves behind

A visit may fail halfway, and the state it has reached by then stays: nodes have been entered and
events have been noted.  This file says what that can be.  However it ends, a visit comes back to
the depth at which it began.  It enters only nodes that are in the arena and had not been visited,
each of them once, and it dispatches only nodes that it enters.

The state also tells a visit where it may not go.  `Confined a S d x` says that this concerns only
the nodes of `S`.  From two states of depth `d` that agree on them, `x` ends in the same way and
leaves the same behind, and it enters no other nodes.  The visit of a node is confined to its
subtree.  So visits of nodes whose subtrees have nothing in common may change places.
-/
import Gls.Proofs.Visit.Inherited
import Gls.Proofs.Visit.WellFormed

namespace Gls

variable {α β : Type}

/-! ### Growth -/

/-- The node that an event says was dispatched. -/
def Event.dispatched? : Event → Option NodeId
  | .dispatched n _ => some n
  | .complained _ => none

/-- The nodes that some events say were dispatched. -/
def dispatchedIn (es : List Event) : List NodeId := es.filterMap Event.dispatched?

/-- What a visit leaves behind: the nodes it entered and the events it noted, last first. -/
@[ext] structure Growth where
  entered : List NodeId := []
  noted : List Event := []

/-- A node was entered and dispatched. -/
def Growth.dispatch (n : NodeId) (depth : Nat) : Growth := ⟨[n], [.dispatched n depth]⟩

/-- What two visits leave behind, one after the other. -/
def Growth.append (g h : Growth) : Growth := ⟨h.entered ++ g.entered, h.noted ++ g.noted⟩

/-- The state with what a visit leaves behind. -/
def Traversal.grow (s : Traversal) (g : Growth) : Traversal :=
  { s with visited := g.entered ++ s.visited, journal := g.noted ++ s.journal }

/-- The state in which the parts of a node are visited, when the node itself is visited from `s`. -/
def Traversal.into (s : Traversal) (n : NodeId) : Traversal :=
  { s.grow (.dispatch n (s.depth + 1)) with depth := s.depth + 1 }

namespace Traversal

variable (s : Traversal) (g h : Growth)

@[simp] lemma visited_grow : (s.grow g).visited = g.entered ++ s.visited := rfl

@[simp] lemma grow_grow : (s.grow g).grow h = s.grow (g.append h) := by
  simp [grow, Growth.append]

/-- The state tells what was left behind. -/
lemma grow_inj {s : Traversal} {g h : Growth} (heq : s.grow g = s.grow h) : g = h := by
  obtain ⟨hentered, hnoted⟩ : g.entered = h.entered ∧ g.noted = h.noted := by
    simpa [grow] using heq
  exact Growth.ext hentered hnoted

end Traversal

/-- What a visit may leave behind, when it begins in a given state. -/
structure Growth.Sound (a : Arena) (s : Traversal) (g : Growth) : Prop where
  /-- Nodes that are entered are in the arena. -/
  present : ∀ n ∈ g.entered, (a.get? n).isSome
  /-- Nodes that are entered had not been visited. -/
  fresh : ∀ n ∈ g.entered, n ∉ s.visited
  /-- No node is entered twice. -/
  nodup : g.entered.Nodup
  /-- No node is dispatched twice. -/
  once : (dispatchedIn g.noted).Nodup
  /-- Nodes that are dispatched are entered. -/
  entered : ∀ n ∈ dispatchedIn g.noted, n ∈ g.entered
  /-- Nodes are dispatched deeper than the visit begins, and not too deep. -/
  depth : ∀ n d, .dispatched n d ∈ g.noted → s.depth < d ∧ d ≤ maxVisitDepth

namespace Growth.Sound

variable {a : Arena} {s s' : Traversal} {g h : Growth}

lemma nothing (a : Arena) (s : Traversal) : Sound a s {} where
  present n hn := by cases hn
  fresh n hn := by cases hn
  nodup := List.nodup_nil
  once := List.nodup_nil
  entered n hn := by cases hn
  depth n d hd := by cases hd

lemma complained (a : Arena) (s : Traversal) (c : Complaint) :
    Sound a s { noted := [.complained c] } where
  present n hn := by cases hn
  fresh n hn := by cases hn
  nodup := List.nodup_nil
  once := List.nodup_nil
  entered n hn := by cases hn
  depth n d hd := by simp at hd

/-- A node that is entered may stay without being dispatched. -/
lemma only_entered {n : NodeId} (hin : (a.get? n).isSome) (hn : n ∉ s.visited) :
    Sound a s { entered := [n] } where
  present m hm := List.mem_singleton.1 hm ▸ hin
  fresh m hm := List.mem_singleton.1 hm ▸ hn
  nodup := List.nodup_singleton n
  once := List.nodup_nil
  entered m hm := by cases hm
  depth m d hd := by cases hd

/-- A node is entered and dispatched one level deeper. -/
lemma dispatched {n : NodeId} (hin : (a.get? n).isSome) (hn : n ∉ s.visited)
    (hd : s.depth < maxVisitDepth) : Sound a s (.dispatch n (s.depth + 1)) where
  present m hm := List.mem_singleton.1 hm ▸ hin
  fresh m hm := List.mem_singleton.1 hm ▸ hn
  nodup := List.nodup_singleton n
  once := List.nodup_singleton n
  entered m hm := hm
  depth m d hm := by
    obtain ⟨-, rfl⟩ : m = n ∧ d = s.depth + 1 := by simpa [dispatch] using hm
    exact ⟨Nat.lt_succ_self _, hd⟩

/-- What is left behind from a deeper state may be left behind from a state less deep. -/
lemma shallower (hg : Sound a s' g) (hv : s'.visited = s.visited) (hd : s.depth ≤ s'.depth) :
    Sound a s g where
  present := hg.present
  fresh n hn := hv ▸ hg.fresh n hn
  nodup := hg.nodup
  once := hg.once
  entered := hg.entered
  depth n d hn := ⟨Nat.lt_of_le_of_lt hd (hg.depth n d hn).1, (hg.depth n d hn).2⟩

/-- What the second of two visits enters is fresh for the first one too. -/
lemma append (hg : Sound a s g) (hh : Sound a (s.grow g) h) : Sound a s (g.append h) := by
  have hfresh : ∀ n ∈ h.entered, n ∉ g.entered ∧ n ∉ s.visited := by
    intro n hn
    simpa [not_or] using hh.fresh n hn
  have hentered : ∀ n ∈ dispatchedIn h.noted ++ dispatchedIn g.noted,
      n ∈ h.entered ++ g.entered := by
    intro n hn
    exact List.mem_append.2 ((List.mem_append.1 hn).imp (hh.entered n) (hg.entered n))
  have hnoted : dispatchedIn (g.append h).noted
      = dispatchedIn h.noted ++ dispatchedIn g.noted := List.filterMap_append
  refine ⟨fun n hn => ?_, fun n hn => ?_, ?_, ?_, ?_, fun n d hn => ?_⟩
  · exact (List.mem_append.1 hn).elim (hh.present n) (hg.present n)
  · exact (List.mem_append.1 hn).elim (fun hn => (hfresh n hn).2) (hg.fresh n)
  · exact hh.nodup.append hg.nodup fun n hn hn' => (hfresh n hn).1 hn'
  · rw [hnoted]
    exact hh.once.append hg.once fun n hn hn' =>
      (hfresh n (hh.entered n hn)).1 (hg.entered n hn')
  · rw [hnoted]
    exact hentered
  · exact (List.mem_append.1 hn).elim (hh.depth n d) (hg.depth n d)

/-- No node is dispatched twice, so none is dispatched at two depths. -/
lemma depth_unique (hg : Sound a s g) {n : NodeId} {d d' : Nat} (hd : .dispatched n d ∈ g.noted)
    (hd' : .dispatched n d' ∈ g.noted) : d = d' := by
  obtain ⟨es, es', hsplit⟩ := List.append_of_mem hd
  have honce : (dispatchedIn es ++ n :: dispatchedIn es').Nodup := by
    simpa [hsplit, dispatchedIn, Event.dispatched?] using hg.once
  have hn : n ∉ dispatchedIn es ++ dispatchedIn es' :=
    (List.nodup_cons.1 (List.nodup_middle.1 honce)).1
  have hmem : ∀ fs, .dispatched n d' ∈ fs → n ∈ dispatchedIn fs :=
    fun fs hfs => List.mem_filterMap.2 ⟨_, hfs, rfl⟩
  rw [hsplit] at hd'
  rcases List.mem_append.1 hd' with hd' | hd'
  · exact absurd (List.mem_append_left _ (hmem es hd')) hn
  · rcases List.mem_cons.1 hd' with hd' | hd'
    · exact (Event.dispatched.inj hd').2.symm
    · exact absurd (List.mem_append_right _ (hmem es' hd')) hn

end Growth.Sound

namespace Visit

/-! ### Confined visits -/

/-- Two states say the same about the nodes of `S`. -/
def Agree (S : Set NodeId) (s t : Traversal) : Prop := ∀ n ∈ S, n ∈ s.visited ↔ n ∈ t.visited

namespace Agree

variable {S T : Set NodeId} {s t : Traversal}

lemma mono (h : Agree T s t) (hS : S ⊆ T) : Agree S s t := fun n hn => h n (hS hn)

lemma grow (h : Agree S s t) (g : Growth) : Agree S (s.grow g) (t.grow g) := by
  intro n hn
  simp only [Traversal.visited_grow, List.mem_append, h n hn]

/-- What is entered elsewhere does not matter. -/
lemma of_grow {g : Growth} (hg : ∀ n ∈ g.entered, n ∉ S) : Agree S s (s.grow g) := by
  intro n hn
  rw [Traversal.visited_grow, List.mem_append]
  exact ⟨.inr, fun h => h.resolve_left fun hn' => hg n hn' hn⟩

end Agree

/-- From both states the visit ends in the same way and leaves the same behind; and it enters only
nodes of `S`. -/
def EndsAlike (a : Arena) (S : Set NodeId) (x : Visit α) (s t : Traversal) : Prop :=
  ∃ r g, x.outcome s = (r, s.grow g) ∧ x.outcome t = (r, t.grow g) ∧
    (∀ n ∈ g.entered, n ∈ S) ∧ g.Sound a s

/-- The visit ends alike from all states of depth `d` that agree on `S`. -/
def Confined (a : Arena) (S : Set NodeId) (d : Nat) (x : Visit α) : Prop :=
  ∀ s t : Traversal, s.depth = d → t.depth = d → Agree S s t → EndsAlike a S x s t

namespace Confined

variable {a : Arena} {S T : Set NodeId} {d : Nat} {x : Visit α} {f : α → Visit β}

lemma mono (h : Confined a S d x) (hS : S ⊆ T) : Confined a T d x := by
  intro s t hs ht hst
  obtain ⟨r, g, hxs, hxt, hg, hsound⟩ := h s t hs ht (hst.mono hS)
  exact ⟨r, g, hxs, hxt, fun n hn => hS (hg n hn), hsound⟩

lemma pure (r : α) : Confined a S d (Pure.pure r : Visit α) := by
  intro s t _ _ _
  exact ⟨.ok r, {}, outcome_pure r s, outcome_pure r t, by simp, .nothing a s⟩

lemma throw (e : TransformError) : Confined a S d (throw e : Visit α) := by
  intro s t _ _ _
  exact ⟨.error e, {}, outcome_throw e s, outcome_throw e t, by simp, .nothing a s⟩

lemma complain (range : Span) (reason : String) :
    Confined a S d (Visit.complain range reason) := by
  intro s t _ _ _
  exact ⟨_, { noted := [.complained ⟨range, reason⟩] }, outcome_complain range reason s,
    outcome_complain range reason t, by simp, .complained a s _⟩

/-- What follows begins in states that agree again, and at the same depth. -/
lemma bind (hx : Confined a S d x) (hf : ∀ r, Confined a S d (f r)) :
    Confined a S d (x >>= f) := by
  intro s t hs ht hst
  obtain ⟨r, g, hxs, hxt, hg, hsound⟩ := hx s t hs ht hst
  cases r with
  | error e =>
    exact ⟨.error e, g, outcome_bind_eq_error.2 (.inl hxs), outcome_bind_eq_error.2 (.inl hxt), hg,
      hsound⟩
  | ok v =>
    obtain ⟨r', g', hfs, hft, hg', hsound'⟩ := hf v (s.grow g) (t.grow g) hs ht (hst.grow g)
    rw [Traversal.grow_grow] at hfs hft
    refine ⟨r', g.append g', (outcome_bind_of_ok hxs).trans hfs,
      (outcome_bind_of_ok hxt).trans hft, fun n hn => ?_, hsound.append hsound'⟩
    exact (List.mem_append.1 hn).elim (hg' n) (hg n)

/-- What a confined visit leaves behind. -/
lemma exists_growth {s t : Traversal} (hx : Confined a S s.depth x)
    {r : Except TransformError α} (h : x.outcome s = (r, t)) :
    ∃ g, t = s.grow g ∧ g.Sound a s := by
  obtain ⟨r', g, hs, -, -, hsound⟩ := hx s s rfl rfl fun _ _ => .rfl
  rw [h] at hs
  exact ⟨g, (Prod.mk.inj hs).2, hsound⟩

end Confined

/-- What visits of parts are confined to, the visit of their node is confined to. -/
lemma inherited_confined (a : Arena) (S : Set NodeId) (d : Nat) :
    Inherited fun _ x => Confined a S d x where
  pure := .pure
  missing _ _ _ := .throw _
  complain := .complain
  bind := .bind

/-! ### Visiting nodes -/

variable {ctx : Context} {n : NodeId}

/-- The nodes at and below a node. -/
def subtree (a : Arena) (n : NodeId) : Set NodeId := { m | a.Reaches n m }

lemma outcome_enter_of_visited {node : Node} (h : ctx.arena.get? n = some node) {s : Traversal}
    (hs : n ∈ s.visited) :
    (enter ctx n).outcome s = (.error (.revisited node.kind node.span), s) := by
  unfold enter
  rw [h]
  dsimp only
  rw [outcome_bind_of_ok (outcome_get s), if_pos (by simpa using hs), outcome_throw]

/-- A visit ends where it fails to enter its node. -/
lemma outcome_nodeWithin_of_error {levels : Nat} {s t : Traversal} {e : TransformError}
    (h : (enter ctx n).outcome s = (.error e, t)) :
    (nodeWithin ctx levels n).outcome s = (.error e, t) := by
  cases levels with
  | zero => exact outcome_bind_eq_error.2 (.inl h)
  | succ levels => exact outcome_bind_eq_error.2 (.inl h)

/-- At the last level a node is entered, but not dispatched. -/
lemma outcome_nodeWithin_zero {node : Node} (h : ctx.arena.get? n = some node) {s : Traversal}
    (hs : n ∉ s.visited) : (nodeWithin ctx 0 n).outcome s
      = (.error (.depthExceeded node.span s.depth), s.grow { entered := [n] }) := by
  rw [nodeWithin, outcome_bind_of_ok (outcome_enter h hs), outcome_bind_of_ok (outcome_get _)]
  rfl

/-- A node that is entered is taken along its route, one level deeper. -/
lemma outcome_nodeWithin_succ {levels : Nat} {node : Node} (h : ctx.arena.get? n = some node)
    {s : Traversal} (hs : n ∉ s.visited) {r : Except TransformError (List Fragment)} {g : Growth}
    (hr : (along ctx (nodeWithin ctx levels) n (Route.ofKind node.kind)).outcome (s.into n)
      = (r, (s.into n).grow g)) :
    (nodeWithin ctx (levels + 1) n).outcome s
      = (r, s.grow ((Growth.dispatch n (s.depth + 1)).append g)) := by
  rw [nodeWithin, outcome_bind_of_ok (outcome_enter h hs), ← Traversal.grow_grow]
  refine outcome_deeper.2 ⟨(s.into n).grow g, ?_, rfl⟩
  rw [dispatch_eq, outcome_bind_of_ok (outcome_get _), outcome_bind_of_ok (outcome_note _ _)]
  exact hr

/-- Missing nodes and visited nodes need no further thought: states that agree on the subtree agree
on its top. -/
lemma confined_of_fresh {levels d : Nat} (h : ∀ node, ctx.arena.get? n = some node →
    ∀ s t : Traversal, s.depth = d → t.depth = d → Agree (subtree ctx.arena n) s t →
      n ∉ s.visited → n ∉ t.visited →
        EndsAlike ctx.arena (subtree ctx.arena n) (nodeWithin ctx levels n) s t) :
    Confined ctx.arena (subtree ctx.arena n) d (nodeWithin ctx levels n) := by
  intro s t hs ht hst
  have hn : n ∈ s.visited ↔ n ∈ t.visited := hst n (.refl n)
  cases hnode : ctx.arena.get? n with
  | none =>
    exact ⟨_, {}, outcome_nodeWithin_of_error (outcome_enter_of_missing hnode s),
      outcome_nodeWithin_of_error (outcome_enter_of_missing hnode t), by simp, .nothing _ s⟩
  | some node =>
    by_cases hv : n ∈ s.visited
    · exact ⟨_, {}, outcome_nodeWithin_of_error (outcome_enter_of_visited hnode hv),
        outcome_nodeWithin_of_error (outcome_enter_of_visited hnode (hn.1 hv)), by simp,
        .nothing _ s⟩
    · exact h node hnode s t hs ht hst hv fun hv' => hv (hn.2 hv')

/-- The visit of a node is confined to its subtree.  By induction on the levels that are left; the
depth says how many there are. -/
lemma confined_nodeWithin {levels d : Nat} (hl : levels = maxVisitDepth - d) (n : NodeId) :
    Confined ctx.arena (subtree ctx.arena n) d (nodeWithin ctx levels n) := by
  induction levels generalizing d n with
  | zero =>
    refine confined_of_fresh fun node hnode s t hs ht _ hvs hvt => ?_
    refine ⟨_, _, outcome_nodeWithin_zero hnode hvs, ?_, ?_, .only_entered (by simp [hnode]) hvs⟩
    · rw [outcome_nodeWithin_zero hnode hvt, hs, ht]
    · intro m hm
      exact List.mem_singleton.1 hm ▸ .refl n
  | succ levels ih =>
    refine confined_of_fresh fun node hnode s t hs ht hst hvs hvt => ?_
    -- The parts of the node are visited one level deeper, with one level less.
    have hparts : Confined ctx.arena (subtree ctx.arena n) (d + 1)
        (along ctx (nodeWithin ctx levels) n (Route.ofKind node.kind)) := by
      refine (inherited_confined _ _ _).along fun m hm => ?_
      have hm : subtree ctx.arena m ⊆ subtree ctx.arena n :=
        fun k hk => (reaches_of_mem_routeParts hm).trans hk
      exact (ih (by omega) m).mono hm
    obtain ⟨r, g, hxs, hxt, hg, hsound⟩ := hparts (s.into n) (t.into n)
      (congrArg (· + 1) hs) (congrArg (· + 1) ht) (hst.grow (.dispatch n (d + 1)))
    refine ⟨r, (Growth.dispatch n (d + 1)).append g, ?_, ?_, fun m hm => ?_, ?_⟩
    · rw [outcome_nodeWithin_succ hnode hvs hxs, hs]
    · rw [outcome_nodeWithin_succ hnode hvt hxt, ht]
    · rcases List.mem_append.1 hm with hm | hm
      · exact hg m hm
      · exact List.mem_singleton.1 hm ▸ .refl n
    · subst hs
      exact (Growth.Sound.dispatched (by simp [hnode]) hvs (by omega)).append
        (hsound.shallower rfl (Nat.le_succ _))

/-- The levels of a visit are those that its depth leaves. -/
lemma confined_node (ctx : Context) (d : Nat) (n : NodeId) :
    Confined ctx.arena (subtree ctx.arena n) d (node ctx n) := by
  intro s t hs ht hst
  obtain ⟨r, g, hxs, hxt, hg, hsound⟩ := confined_nodeWithin rfl n s t hs ht hst
  refine ⟨r, g, ?_, ?_, hg, hsound⟩
  · rw [node, outcome_bind_of_ok (outcome_get s), hs]
    exact hxs
  · rw [node, outcome_bind_of_ok (outcome_get t), ht]
    exact hxt

end Visit

/-! ### Visits that change places -/

/-- Visits of nodes whose subtrees have nothing in common may change places, also when they fail:
each of them ends as before, and they leave the same nodes visited and the same depth. -/
theorem visits_change_places {ctx : Context} {a b : NodeId} (hab : ctx.arena.Apart a b)
    (s : Traversal) :
    let first := (Visit.node ctx a).outcome s
    let second := (Visit.node ctx b).outcome first.2
    let first' := (Visit.node ctx b).outcome s
    let second' := (Visit.node ctx a).outcome first'.2
    second'.1 = first.1 ∧ first'.1 = second.1 ∧
      (∀ n, n ∈ second'.2.visited ↔ n ∈ second.2.visited) ∧
      second'.2.depth = second.2.depth := by
  obtain ⟨ra, g, hs, -, hg, -⟩ :=
    Visit.confined_node ctx s.depth a s s rfl rfl fun _ _ => .rfl
  -- What the visit of `a` enters lies outside the subtree of `b`.
  obtain ⟨rb, h, hsb, hgb, hh, -⟩ := Visit.confined_node ctx s.depth b s (s.grow g) rfl rfl
    (.of_grow fun n hn hb => hab n (hg n hn) hb)
  obtain ⟨ra', g', hsa, hha, -, -⟩ := Visit.confined_node ctx s.depth a s (s.grow h) rfl
    rfl (.of_grow fun n hn ha => hab n ha (hh n hn))
  obtain ⟨rfl, hgrow⟩ : ra = ra' ∧ s.grow g = s.grow g' := by simpa [hs] using hsa
  obtain rfl := Traversal.grow_inj hgrow
  simp only [hs, hsb, hgb, hha, Traversal.grow_grow, true_and]
  refine ⟨fun n => ?_, rfl⟩
  simp only [Traversal.visited_grow, Growth.append, List.mem_append]
  exact or_congr_left or_comm

/-- A sum whose second operand is missing, and an identifier next to it. -/
def brokenContext : Context where
  tree := {
    arena := {
      sourceText := "a+ b"
      nodes := #[
        { kind := .identifier, pos := 0, stop := 1, payload := .identifier "a" },
        { kind := .identifier, pos := 3, stop := 4, payload := .identifier "b" },
        { kind := .binaryExpression, pos := 0, stop := 2,
          payload := .binary ⟨⟨0⟩, .plusToken, ⟨9⟩⟩ }] }
    types := {} }
  usage := {}

theorem failed_visit_changes_places :
    brokenContext.arena.Apart ⟨2⟩ ⟨1⟩ ∧
    (Visit.node brokenContext ⟨2⟩).outcome {} = (.error (.missingNode ⟨9⟩),
      ⟨[⟨0⟩, ⟨2⟩], 0, [.dispatched ⟨0⟩ 2, .dispatched ⟨2⟩ 1]⟩) ∧
    ((Visit.node brokenContext ⟨2⟩).outcome ((Visit.node brokenContext ⟨1⟩).outcome {}).2).1
      = .error (.missingNode ⟨9⟩) := by
  have hap : brokenContext.arena.Apart ⟨2⟩ ⟨1⟩ := by
    intro m hm hm'
    have hsum : m ∈ [⟨2⟩, ⟨0⟩, (⟨9⟩ : NodeId)] := hm.mem_of_closed (by decide) (by decide)
    have hone : m ∈ [(⟨1⟩ : NodeId)] := hm'.mem_of_closed (by decide) (by decide)
    rw [List.mem_singleton.1 hone] at hsum
    exact absurd hsum (by decide)
  have hsum : (Visit.node brokenContext ⟨2⟩).outcome {} = (.error (.missingNode ⟨9⟩),
      ⟨[⟨0⟩, ⟨2⟩], 0, [.dispatched ⟨0⟩ 2, .dispatched ⟨2⟩ 1]⟩) := rfl
  have hplaces := visits_change_places hap {}
  exact ⟨hap, hsum, hplaces.1.trans (congrArg Prod.fst hsum)⟩

end Gls
