/-
# Nodes that are refused for their depth

A node is entered first, and then there must be a level left for it to be dispatched.  Where there
is none the visit is refused, the whole call fails, and the node stays entered.  So of what a call
enters all is dispatched, but for the last node of a call that was refused for its depth.

`refusedIn` lists these nodes for a history of calls.  The main statement is that the visited nodes
are those that were dispatched and those that were refused; and no node is both, even when calls
follow.  So a node that is visited has been dispatched just in case no call was refused.
-/
import Gls.Proofs.Visit.History

namespace Gls

variable {α β : Type}

/-! ### What is entered and what is dispatched -/

/-- The source range of the node for which a visit was refused, when it was for the depth. -/
def refusedSpan? : Except TransformError α → Option Span
  | .error (.depthExceeded span _) => some span
  | .error (.missingNode _) | .error (.missingChild _ _ _) | .error (.revisited _ _)
  | .error (.indent _) => none
  | .ok _ => none

lemma refusedSpan?_error (e : TransformError) :
    refusedSpan? (.error e : Except TransformError α)
      = refusedSpan? (.error e : Except TransformError β) := by
  cases e <;> rfl

/-- Of the nodes that were entered all were dispatched; but for the last one, when the visit was
refused at a node of a given range. -/
def Growth.Tallies (a : Arena) (g : Growth) : Option Span → Prop
  | none => g.entered = dispatchedIn g.noted
  | some span => ∃ n node, a.get? n = some node ∧ node.span = span ∧
      g.entered = n :: dispatchedIn g.noted

namespace Growth.Tallies

variable {a : Arena} {g h : Growth} {span? : Option Span}

lemma append (hg : g.Tallies a none) (hh : h.Tallies a span?) : (g.append h).Tallies a span? := by
  have hg : g.entered = dispatchedIn g.noted := hg
  have hnoted : dispatchedIn (g.append h).noted
      = dispatchedIn h.noted ++ dispatchedIn g.noted := List.filterMap_append
  cases span? with
  | none =>
    have hh : h.entered = dispatchedIn h.noted := hh
    show h.entered ++ g.entered = _
    rw [hh, hg, hnoted]
  | some span =>
    obtain ⟨n, node, hnode, hspan, hentered⟩ := hh
    refine ⟨n, node, hnode, hspan, ?_⟩
    show h.entered ++ g.entered = _
    rw [hentered, hg, hnoted, List.cons_append]

lemma dispatch (a : Arena) (n : NodeId) (d : Nat) : (Growth.dispatch n d).Tallies a none := rfl

end Growth.Tallies

namespace Visit

/-- However the visit ends, what it leaves behind tallies with that. -/
def Tallied (a : Arena) (x : Visit α) : Prop :=
  ∀ s, ∃ r g, x.outcome s = (r, s.grow g) ∧ g.Tallies a (refusedSpan? r)

lemma inherited_tallied (a : Arena) : Inherited fun _ x => Tallied a x where
  pure r s := ⟨.ok r, {}, outcome_pure r s, rfl⟩
  missing ctx n what s := by
    refine ⟨.error (missing ctx n what), {}, outcome_throw _ s, ?_⟩
    unfold missing
    split <;> rfl
  complain range reason s :=
    ⟨_, { noted := [.complained ⟨range, reason⟩] }, outcome_complain range reason s, rfl⟩
  bind {α β x f} hx hf s := by
    obtain ⟨r, g, hxs, hg⟩ := hx s
    cases r with
    | error e =>
      exact ⟨.error e, g, outcome_bind_eq_error.2 (.inl hxs), refusedSpan?_error (β := β) e ▸ hg⟩
    | ok v =>
      obtain ⟨r', h, hfs, hh⟩ := hf v (s.grow g)
      rw [Traversal.grow_grow] at hfs
      exact ⟨r', g.append h, (outcome_bind_of_ok hxs).trans hfs, .append hg hh⟩

variable {ctx : Context}

/-- A visit of a node is refused, or dispatches it and inherits the rest from its parts. -/
lemma tallied_nodeWithin (levels : Nat) (n : NodeId) :
    Tallied ctx.arena (nodeWithin ctx levels n) := by
  induction levels generalizing n with
  | zero =>
    intro s
    cases hnode : ctx.arena.get? n with
    | none => exact ⟨_, {}, outcome_nodeWithin_of_error (outcome_enter_of_missing hnode s), rfl⟩
    | some node =>
      by_cases hv : n ∈ s.visited
      · exact ⟨_, {}, outcome_nodeWithin_of_error (outcome_enter_of_visited hnode hv), rfl⟩
      · exact ⟨_, _, outcome_nodeWithin_zero hnode hv, n, node, hnode, rfl, rfl⟩
  | succ levels ih =>
    intro s
    cases hnode : ctx.arena.get? n with
    | none => exact ⟨_, {}, outcome_nodeWithin_of_error (outcome_enter_of_missing hnode s), rfl⟩
    | some node =>
      by_cases hv : n ∈ s.visited
      · exact ⟨_, {}, outcome_nodeWithin_of_error (outcome_enter_of_visited hnode hv), rfl⟩
      · have halong : Tallied ctx.arena
            (along ctx (nodeWithin ctx levels) n (Route.ofKind node.kind)) :=
          (inherited_tallied _).along fun m _ => ih m
        obtain ⟨r, g, hr, hg⟩ := halong (s.into n)
        exact ⟨r, _, outcome_nodeWithin_succ hnode hv hr, .append (.dispatch _ n _) hg⟩

lemma tallied_node (ctx : Context) (n : NodeId) : Tallied ctx.arena (node ctx n) := fun s => by
  rw [node, outcome_bind_of_ok (outcome_get s)]
  exact tallied_nodeWithin _ n s

end Visit

/-! ### Refused calls -/

/-- The node at which a call is refused for its depth: the last one it enters. -/
def Call.refused? (ctx : Context) (c : Call) (s : Traversal) : Option NodeId :=
  (refusedSpan? ((c.visit ctx).outcome s).1).bind fun _ => (c.next ctx s).visited.head?

/-- The nodes at which the calls of a history are refused for their depth. -/
def refusedIn (ctx : Context) : List Call → Traversal → List NodeId
  | [], _ => []
  | c :: cs, s => (c.refused? ctx s).toList ++ refusedIn ctx cs (c.next ctx s)

/-- What one call enters is what it dispatches and the node at which it is refused. -/
lemma Call.entered_eq (ctx : Context) (c : Call) (s : Traversal) : ∃ g, c.next ctx s = s.grow g ∧
    g.Sound ctx.arena s ∧ g.entered = (c.refused? ctx s).toList ++ dispatchedIn g.noted := by
  have hkept : Bookkept ctx.arena s (c.next ctx s) := c.bookkept s
  obtain ⟨g, hnext, hsound⟩ := hkept.exists_grow
  refine ⟨g, hnext, hsound, ?_⟩
  obtain ⟨r, g', hout, hg'⟩ :=
    c.inherits (Visit.inherited_tallied ctx.arena) (Visit.tallied_node ctx) s
  obtain rfl : g = g' := Traversal.grow_inj (hnext.symm.trans (congrArg Prod.snd hout))
  rw [refused?, hnext, hout]
  cases hspan : refusedSpan? r with
  | none =>
    rw [hspan] at hg'
    exact hg'
  | some span =>
    rw [hspan] at hg'
    obtain ⟨n, node, -, -, hentered⟩ := hg'
    simp [hentered]

/-- What a history enters is what it dispatches and the nodes at which its calls are refused. -/
lemma entered_stateAfter (ctx : Context) (cs : List Call) (s : Traversal) :
    ∃ g, stateAfter ctx cs s = s.grow g ∧ g.Sound ctx.arena s ∧
      g.entered.Perm (refusedIn ctx cs s ++ dispatchedIn g.noted) := by
  induction cs generalizing s with
  | nil => exact ⟨{}, rfl, .nothing _ s, .nil⟩
  | cons c cs ih =>
    obtain ⟨g, hnext, hg, hentered⟩ := c.entered_eq ctx s
    obtain ⟨h, hafter, hh, hperm⟩ := ih (c.next ctx s)
    rw [hnext] at hafter hh
    refine ⟨g.append h, ?_, hg.append hh, ?_⟩
    · rw [stateAfter, hnext, hafter, Traversal.grow_grow]
    · have hnoted : dispatchedIn (g.append h).noted
          = dispatchedIn h.noted ++ dispatchedIn g.noted := List.filterMap_append
      have hcount := List.perm_iff_count.1 hperm
      refine List.perm_iff_count.2 fun n => ?_
      show (h.entered ++ g.entered).count n = _
      rw [refusedIn, hnoted, hentered]
      simp only [List.count_append] at hcount ⊢
      have := hcount n
      omega

variable {ctx : Context}

lemma refusedIn_append (cs ds : List Call) (s : Traversal) :
    refusedIn ctx (cs ++ ds) s = refusedIn ctx cs s ++ refusedIn ctx ds (stateAfter ctx cs s) := by
  induction cs generalizing s with
  | nil => rfl
  | cons c cs ih => rw [List.cons_append, refusedIn, ih, refusedIn, stateAfter, List.append_assoc]

/-- A call that fails for the depth is refused at a node of the range that the error tells. -/
lemma Call.refused?_of_error {c : Call} {s : Traversal} {span : Span} {depth : Nat}
    (h : ((c.visit ctx).outcome s).1 = .error (.depthExceeded span depth)) :
    ∃ n node, c.refused? ctx s = some n ∧ ctx.arena.get? n = some node ∧ node.span = span := by
  obtain ⟨r, g, hout, hg⟩ :=
    c.inherits (Visit.inherited_tallied ctx.arena) (Visit.tallied_node ctx) s
  rw [hout] at h
  obtain rfl : r = .error (.depthExceeded span depth) := h
  obtain ⟨n, node, hnode, hspan, hentered⟩ := hg
  refine ⟨n, node, ?_, hnode, hspan⟩
  rw [refused?, next, hout]
  simp [refusedSpan?, hentered]

section Fresh

variable (ctx : Context) (cs : List Call)

/-- In a traversal that begins with a history, the visited nodes are those that were dispatched and
those that were refused, each of them once. -/
lemma visited_perm : (stateAfter ctx cs {}).visited.Perm
      (refusedIn ctx cs {} ++ dispatchedIn (stateAfter ctx cs {}).journal) ∧
    (refusedIn ctx cs {} ++ dispatchedIn (stateAfter ctx cs {}).journal).Nodup := by
  obtain ⟨g, hafter, hg, hperm⟩ := entered_stateAfter ctx cs {}
  have hvisited : (stateAfter ctx cs {}).visited = g.entered := by
    rw [hafter, Traversal.visited_grow, List.append_nil]
  have hjournal : (stateAfter ctx cs {}).journal = g.noted := by
    rw [hafter]
    exact List.append_nil _
  rw [hvisited, hjournal]
  exact ⟨hperm, hperm.nodup_iff.1 hg.nodup⟩

lemma mem_visited_iff (n : NodeId) : n ∈ (stateAfter ctx cs {}).visited ↔
    n ∈ dispatchedIn (stateAfter ctx cs {}).journal ∨ n ∈ refusedIn ctx cs {} := by
  rw [(visited_perm ctx cs).1.mem_iff, List.mem_append, or_comm]

/-- A node that is refused is never dispatched, whatever calls follow. -/
lemma not_dispatched_of_refused {n : NodeId} (hn : n ∈ refusedIn ctx cs {}) (later : List Call) :
    n ∉ dispatchedIn (stateAfter ctx (cs ++ later) {}).journal := by
  have hmem : n ∈ refusedIn ctx (cs ++ later) {} := by
    rw [refusedIn_append]
    exact List.mem_append_left _ hn
  exact fun hd => List.disjoint_of_nodup_append (visited_perm ctx (cs ++ later)).2 hmem hd

end Fresh

/-- After every history of calls, a node is visited when it has been dispatched, and also when a
call was refused at it for its depth.  Such a node is recorded though it was not dispatched, and no
call that follows dispatches it; it is the node of which the error tells the range.  So visited
nodes are dispatched nodes in just those histories in which no call is refused for the depth. -/
theorem visited_iff_dispatched_or_refused (ctx : Context) (cs : List Call) :
    (∀ n, n ∈ (stateAfter ctx cs {}).visited ↔
      n ∈ dispatchedIn (stateAfter ctx cs {}).journal ∨ n ∈ refusedIn ctx cs {}) ∧
    (∀ n ∈ refusedIn ctx cs {}, ∀ later,
      n ∉ dispatchedIn (stateAfter ctx (cs ++ later) {}).journal) ∧
    (∀ (c : Call) (span : Span) (depth : Nat),
      ((c.visit ctx).outcome (stateAfter ctx cs {})).1 = .error (.depthExceeded span depth) →
        ∃ n node, c.refused? ctx (stateAfter ctx cs {}) = some n ∧
          ctx.arena.get? n = some node ∧ node.span = span) ∧
    ((∀ n, n ∈ (stateAfter ctx cs {}).visited ↔
      n ∈ dispatchedIn (stateAfter ctx cs {}).journal) ↔ refusedIn ctx cs {} = []) := by
  refine ⟨mem_visited_iff ctx cs, fun n hn => not_dispatched_of_refused ctx cs hn,
    fun c span depth h => Call.refused?_of_error h, fun h => ?_, fun h n => ?_⟩
  · refine List.eq_nil_iff_forall_not_mem.2 fun n hn => ?_
    have hd : n ∈ dispatchedIn (stateAfter ctx cs {}).journal :=
      (h n).1 ((mem_visited_iff ctx cs n).2 (.inr hn))
    refine not_dispatched_of_refused ctx cs hn [] ?_
    rwa [List.append_nil]
  · rw [mem_visited_iff, h]
    simp

/-! ### A tree that is one level too deep -/

/-- The name `x`. -/
def innermostName : Node := { kind := .identifier, pos := 0, stop := 1, payload := .identifier "x" }

/-- A parenthesis around the node at a place. -/
def parenthesis (i : Nat) : Node :=
  { kind := .parenthesizedExpression, pos := 0, stop := 1, payload := .wrapped (some (.ofNat i)) }

/-- A name in so many parentheses.  The name has the first place, and the outermost parenthesis has
the last. -/
def parenthesized (levels : Nat) : Arena where
  sourceText := "x"
  nodes := #[innermostName] ++ Array.ofFn fun i : Fin levels => parenthesis i

section Parenthesized

variable {levels : Nat}

lemma get?_parenthesized_zero : (parenthesized levels).get? ⟨0⟩ = some innermostName :=
  Array.getElem?_append_left Nat.zero_lt_one

lemma get?_parenthesized_succ {i : Nat} (hi : i < levels) (hsize : i + 1 < UInt32.size) :
    (parenthesized levels).get? (.ofNat (i + 1)) = some (parenthesis i) := by
  rw [Arena.get?, NodeId.toNat_ofNat hsize, parenthesized,
    Array.getElem?_append_right (Nat.le_add_left 1 i), Array.getElem?_ofFn]
  exact dif_pos hi

/-- The visit of a name in as many parentheses as there are levels comes down to the name, and is
refused there. -/
lemma outcome_parenthesized (ctx : Context) (h : ctx.arena = parenthesized levels)
    (hsize : levels < UInt32.size) {i : Nat} (hi : i ≤ levels) (s : Traversal)
    (hs : ∀ j ≤ i, .ofNat j ∉ s.visited) :
    ∃ g, (Visit.nodeWithin ctx i (.ofNat i)).outcome s
        = (.error (.depthExceeded ⟨0, 1⟩ (s.depth + i)), s.grow g) ∧
      g.entered.head? = some ⟨0⟩ := by
  induction i generalizing s with
  | zero =>
    have hnode : ctx.arena.get? (.ofNat 0) = some innermostName := by
      rw [h]
      exact get?_parenthesized_zero
    exact ⟨_, Visit.outcome_nodeWithin_zero hnode (hs 0 le_rfl), rfl⟩
  | succ i ih =>
    have hnode : ctx.arena.get? (.ofNat (i + 1)) = some (parenthesis i) := by
      rw [h]
      exact get?_parenthesized_succ hi (by omega)
    have hfresh : ∀ j ≤ i, .ofNat j ∉ (s.into (.ofNat (i + 1))).visited := by
      intro j hj hmem
      rcases List.mem_cons.1 hmem with heq | hmem
      · have := congrArg NodeId.toNat heq
        rw [NodeId.toNat_ofNat (by omega), NodeId.toNat_ofNat (by omega)] at this
        omega
      · exact hs j (by omega) hmem
    -- The only child is visited with one level less, and what it enters comes after the node.
    obtain ⟨g, hg, hhead⟩ := ih (by omega) _ hfresh
    have halong : (Visit.along ctx (Visit.nodeWithin ctx i) (.ofNat (i + 1))
          (Route.ofKind (parenthesis i).kind)).outcome (s.into (.ofNat (i + 1)))
        = (.error (.depthExceeded ⟨0, 1⟩ (s.depth + 1 + i)),
            (s.into (.ofNat (i + 1))).grow g) := by
      have hchildren : ctx.arena.children (.ofNat (i + 1)) = [.ofNat i] := by
        rw [Arena.children, hnode]
        rfl
      show (Visit.all _ (ctx.arena.children _)).outcome _ = _
      rw [hchildren, Visit.all_singleton]
      exact hg
    refine ⟨(Growth.dispatch (.ofNat (i + 1)) (s.depth + 1)).append g, ?_, ?_⟩
    · rw [Visit.outcome_nodeWithin_succ hnode (hs _ le_rfl) halong, Nat.add_right_comm,
        Nat.add_assoc]
    · show (g.entered ++ [_]).head? = _
      rw [List.head?_append, hhead]
      rfl

end Parenthesized

/-- A name in five hundred parentheses. -/
def tooDeep : Context := .ofRoot (parenthesized maxVisitDepth) {} (.ofNat maxVisitDepth)

/-- The visit of a name in five hundred parentheses fails, and the name stays visited. -/
lemma outcome_tooDeep : ∃ g,
    ((Call.node (.ofNat maxVisitDepth)).visit tooDeep).outcome {}
      = (.error (.depthExceeded ⟨0, 1⟩ maxVisitDepth), Traversal.grow {} g) ∧
    g.entered.head? = some ⟨0⟩ := by
  obtain ⟨g, hg, hhead⟩ := outcome_parenthesized tooDeep rfl (by decide) le_rfl {}
    fun _ _ => List.not_mem_nil
  refine ⟨g, Visit.outcome_bind_eq_error.2 (.inl ?_), hhead⟩
  rw [Visit.node, Visit.outcome_bind_of_ok (Visit.outcome_get _)]
  rw [Nat.zero_add] at hg
  exact hg

/-- The name is refused. -/
lemma refusedIn_tooDeep : refusedIn tooDeep [.node (.ofNat maxVisitDepth)] {} = [⟨0⟩] := by
  obtain ⟨g, hg, hhead⟩ := outcome_tooDeep
  rw [refusedIn, Call.refused?, Call.next, hg]
  simp [refusedSpan?, hhead, refusedIn]

/-- After that visit failed, the name counts as visited.  It is in the range that the error tells,
and a later call for it alone does not dispatch it. -/
theorem refused_name_not_dispatched :
    ⟨0⟩ ∈ (stateAfter tooDeep [.node (.ofNat maxVisitDepth)] {}).visited ∧
    ⟨0⟩ ∉ dispatchedIn
      (stateAfter tooDeep [.node (.ofNat maxVisitDepth), .node ⟨0⟩] {}).journal ∧
    ∃ n node, (Call.node (.ofNat maxVisitDepth)).refused? tooDeep {} = some n ∧
      tooDeep.arena.get? n = some node ∧ node.span = ⟨0, 1⟩ := by
  have hrefused : ⟨0⟩ ∈ refusedIn tooDeep [.node (.ofNat maxVisitDepth)] {} := by
    rw [refusedIn_tooDeep]
    exact List.mem_singleton_self _
  obtain ⟨g, hg, -⟩ := outcome_tooDeep
  have hfails : ((Call.visit tooDeep (.node (.ofNat maxVisitDepth))).outcome
      (stateAfter tooDeep [] {})).1 = .error (.depthExceeded ⟨0, 1⟩ maxVisitDepth) :=
    congrArg Prod.fst hg
  obtain ⟨hvisited, hlater, -, -⟩ :=
    visited_iff_dispatched_or_refused tooDeep [.node (.ofNat maxVisitDepth)]
  obtain ⟨-, -, hspan, -⟩ := visited_iff_dispatched_or_refused tooDeep []
  exact ⟨(hvisited _).2 (.inr hrefused), hlater _ hrefused [.node ⟨0⟩], hspan _ _ _ hfails⟩

/-- The name in five hundred parentheses was refused and not dispatched.  Still it is recorded, so a
call for the name alone is refused as well. -/
theorem refused_name_recorded :
    ((Call.node (.ofNat maxVisitDepth)).visit tooDeep).outcome {}
      = (.error (.depthExceeded ⟨0, 1⟩ maxVisitDepth),
          stateAfter tooDeep [.node (.ofNat maxVisitDepth)] {}) ∧
    ⟨0⟩ ∉ dispatchedIn (stateAfter tooDeep [.node (.ofNat maxVisitDepth)] {}).journal ∧
    ⟨0⟩ ∈ (stateAfter tooDeep [.node (.ofNat maxVisitDepth)] {}).visited ∧
    ((Call.node ⟨0⟩).visit tooDeep).outcome (stateAfter tooDeep [.node (.ofNat maxVisitDepth)] {})
      = (.error (.revisited .identifier ⟨0, 1⟩),
          stateAfter tooDeep [.node (.ofNat maxVisitDepth)] {}) := by
  have hrefused : ⟨0⟩ ∈ refusedIn tooDeep [.node (.ofNat maxVisitDepth)] {} := by
    rw [refusedIn_tooDeep]
    exact List.mem_singleton_self _
  have hvisited := (mem_visited_iff tooDeep _ _).2 (.inr hrefused)
  obtain ⟨g, hg, -⟩ := outcome_tooDeep
  have hnode : tooDeep.arena.get? ⟨0⟩ = some innermostName := get?_parenthesized_zero
  refine ⟨?_, ?_, hvisited, Call.outcome_of_visited rfl hnode hvisited⟩
  · rw [stateAfter, stateAfter, Call.next, hg]
  · exact not_dispatched_of_refused tooDeep _ hrefused []

end Gls
