/-
# Well-formed trees are transformed

A tree is well formed when its child links lead to nodes and form a tree, every node of a kind with
a handler carries the payload that the handler reads, and no way down has more nodes than visits may
nest.  Such a tree is transformed without an error, whatever the type checker found and whatever is
asked for.  The only thing that can still be missing is the root itself.
-/
import Gls.Proofs.Layout.Fragments
import Gls.Proofs.Visit.Progress

namespace Gls

/-! ### What handlers read -/

/-- A node of this kind with this payload has what its handler reads. -/
def Kind.Carries (k : Kind) (p : Payload) : Prop :=
  match k with
  | .classDeclaration | .classExpression => ∃ d, p = .class_ d
  | .interfaceDeclaration => ∃ d, p = .interface d
  | .propertyDeclaration | .variableDeclaration => ∃ d, p = .valueDecl d
  | .methodDeclaration => ∃ d, p = .function d ∧ d.name.isSome
  | .constructor | .methodSignature => ∃ d, p = .function d
  | .ifStatement => ∃ d, p = .conditional d
  | .forStatement => ∃ d, p = .loop d
  | .binaryExpression => ∃ d, p = .binary d
  | .prefixUnaryExpression | .postfixUnaryExpression => ∃ d, p = .unary d
  | .callExpression => ∃ d, p = .call d
  | _ => True

/-- The payload is one that the handler reads. -/
def Handler.Reads (h : Handler) (p : Payload) : Prop :=
  match h with
  | .class_ => ∃ d, p = .class_ d
  | .interface => ∃ d, p = .interface d
  | .property | .variableDeclaration => ∃ d, p = .valueDecl d
  | .method => ∃ d, p = .function d ∧ d.name.isSome
  | .constructor | .methodSignature => ∃ d, p = .function d
  | .ifStatement => ∃ d, p = .conditional d
  | .forStatement => ∃ d, p = .loop d
  | .binary => ∃ d, p = .binary d
  | .unary => ∃ d, p = .unary d
  | .call => ∃ d, p = .call d
  | .literalValue | .stringLiteral | .returnStatement | .unsupported => True

/-- A kind is sent to a handler that reads what nodes of the kind carry. -/
lemma Kind.Carries.reads {k : Kind} {p : Payload} (hp : k.Carries p) {h : Handler}
    (hr : Route.ofKind k = .handle h) : h.Reads p := by
  cases k <;> cases hr <;> exact hp

/-- A tree that can be transformed.  Nothing is said about nodes that the root does not reach. -/
structure WellFormed (a : Arena) (root : NodeId) : Prop where
  /-- Children are in the arena. -/
  present : ∀ p c, a.Reaches root p → a.Child p c → (a.get? c).isSome
  /-- The child links form a tree. -/
  tree : a.IsTree root
  /-- Nodes carry what their handlers read. -/
  carries : ∀ n node, a.Reaches root n → a.get? n = some node → node.kind.Carries node.payload
  /-- Ways down are as short as visits may nest. -/
  shallow : a.Within maxVisitDepth root

namespace Visit

variable {ctx : Context} {visit : Visitor} {n root : NodeId}

lemma conditional?_of_wellFormed {a : Arena} (hw : WellFormed a root) {m : NodeId}
    (hm : a.Reaches root m) (hk : a.kind? m = some .ifStatement) :
    ∃ d, a.conditional? m = some d := by
  obtain ⟨node, hnode, hkind⟩ := Option.map_eq_some_iff.1 hk
  have hc := hw.carries m node hm hnode
  rw [hkind] at hc
  obtain ⟨d, hd⟩ := hc
  exact ⟨d, Arena.holds?_eq_some_iff.2 (by rw [Arena.payload?, hnode, Option.map_some, hd]; rfl)⟩

lemma Ready.handle (h : Ready ctx visit n) (hw : WellFormed ctx.arena root)
    (hn : ctx.arena.Reaches root n) {p : Payload} (hp : ctx.arena.payload? n = some p)
    {handler : Handler} (hr : handler.Reads p) :
    Covers ctx.arena (Visit.handle ctx visit n handler) (ctx.arena.children n) := by
  cases handler with
  | literalValue => exact (Covers.pure _).mono (by simp)
  | stringLiteral => exact (Covers.pure _).mono (by simp)
  | binary =>
    obtain ⟨d, rfl⟩ := hr
    exact h.binary hp
  | unary =>
    obtain ⟨d, rfl⟩ := hr
    exact (unary hp).mono (by simp)
  | call =>
    obtain ⟨d, rfl⟩ := hr
    exact h.call hp
  | class_ =>
    obtain ⟨d, rfl⟩ := hr
    exact h.class_ hp
  | interface =>
    obtain ⟨d, rfl⟩ := hr
    exact h.interface hp
  | methodSignature =>
    obtain ⟨d, rfl⟩ := hr
    exact (methodSignature hp).mono (by simp)
  | method =>
    obtain ⟨d, rfl, hname⟩ := hr
    exact h.method hp hname
  | constructor =>
    obtain ⟨d, rfl⟩ := hr
    exact h.constructor hp
  | property =>
    obtain ⟨d, rfl⟩ := hr
    exact h.property hp
  | variableDeclaration =>
    obtain ⟨d, rfl⟩ := hr
    exact h.variableDeclaration hp
  | returnStatement => exact h.returnStatement
  | ifStatement =>
    obtain ⟨d, rfl⟩ := hr
    exact h.ifStatement hw.tree hn (fun m => conditional?_of_wellFormed hw)
      ⟨d, Arena.holds?_eq_some_iff.2 hp⟩
  | forStatement =>
    obtain ⟨d, rfl⟩ := hr
    exact h.forStatement hp
  | unsupported => exact (covers_complaint _ _).mono (by simp)

/-! ### The traversal -/

lemma Covers.deeper {α : Type} {a : Arena} {x : Visit α} {ms : List NodeId} (hx : Covers a x ms) :
    Covers a (Visit.deeper x) ms := by
  intro s hs
  obtain ⟨r, t, hr, ht⟩ := hx { s with depth := s.depth + 1 } hs
  exact ⟨r, { t with depth := t.depth - 1 }, outcome_deeper.2 ⟨t, hr, rfl⟩, ht⟩

lemma Ready.dispatch (h : Ready ctx visit n) (hw : WellFormed ctx.arena root)
    (hn : ctx.arena.Reaches root n) {node : Node} (hnode : ctx.arena.get? n = some node) :
    Covers ctx.arena (Visit.dispatch ctx visit n node.kind) (ctx.arena.children n) := by
  unfold Visit.dispatch
  -- The journal entry that comes first visits nothing, so only the route of the kind counts.
  refine Covers.get.after fun s => (Covers.note _).after fun _ => ?_
  split
  · rename_i handler hr
    have hp : ctx.arena.payload? n = some node.payload := by simp [Arena.payload?, hnode]
    exact (h.handle hw hn hp ((hw.carries n node hn hnode).reads hr)).map _
  · exact h.all (List.Sublist.refl _)
  · exact (Covers.pure _).mono (by simp)
  · split
    · have hc : Covers ctx.arena (unsupported ctx n) [] :=
        (Covers.complain _ _).bind_rest fun _ => .pure _
      exact (hc.map _).mono (by simp)
    · exact h.all (List.Sublist.refl _)

/-- A node that is there and has not been visited is entered. -/
lemma outcome_enter {node : Node} (hnode : ctx.arena.get? n = some node) {s : Traversal}
    (hs : n ∉ s.visited) :
    (enter ctx n).outcome s = (.ok node, { s with visited := n :: s.visited }) := by
  unfold enter
  rw [hnode]
  dsimp only
  rw [outcome_bind_of_ok (outcome_get s), if_neg (by simpa using hs)]
  rfl

lemma outcome_enter_of_missing (h : ctx.arena.get? n = none) (s : Traversal) :
    (enter ctx n).outcome s = (.error (.missingNode n), s) := by
  unfold enter
  rw [h]
  rfl

/-- The levels that are left bound the ways down, so they never run out before the tree does. -/
lemma covers_nodeWithin (hw : WellFormed ctx.arena root) {levels : Nat}
    (hn : ctx.arena.Reaches root n) (hin : (ctx.arena.get? n).isSome)
    (hl : ctx.arena.Within levels n) : Covers ctx.arena (nodeWithin ctx levels n) [n] := by
  induction levels generalizing n with
  | zero => exact absurd (hl [] (List.isChain_singleton n)) (Nat.not_lt_zero _)
  | succ levels ih =>
    obtain ⟨node, hnode⟩ := Option.isSome_iff_exists.1 hin
    -- Handlers visit nodes further down, not only children, and always with one level less.
    have hready : Ready ctx (nodeWithin ctx levels) n := by
      refine ⟨hw.tree.pairwise_apart hn, fun c hc m hm => ?_⟩
      have hroot : ctx.arena.Reaches root m := (hn.child hc).trans hm
      have hm' : (ctx.arena.get? m).isSome := by
        rcases Relation.ReflTransGen.cases_tail hm with rfl | ⟨p, hp, hpm⟩
        · exact hw.present n _ hn hc
        · exact hw.present p m ((hn.child hc).trans hp) hpm
      exact ih hroot hm' ((hl.child hc).reaches hm)
    intro s hs
    have hfresh : n ∉ s.visited := hs n (by simp) n (.refl n)
    -- Entering the node does not spoil its children: the node does not lie below them.
    obtain ⟨r, t, hr, ht⟩ := (hready.dispatch hw hn hnode).deeper
      { s with visited := n :: s.visited } (by
        intro c hc k hck hk
        rcases List.mem_cons.1 hk with rfl | hk
        · exact hw.tree.not_reaches hn hc hck
        · exact hs n (by simp) k ((Arena.Reaches.of_child hc).trans hck) hk)
    refine ⟨r, t, (outcome_bind_of_ok (outcome_enter hnode hfresh)).trans hr, fun k hk => ?_⟩
    rcases ht k hk with hk | ⟨c, hc, hck⟩
    · rcases List.mem_cons.1 hk with rfl | hk
      · exact .inr ⟨k, by simp, .refl k⟩
      · exact .inl hk
    · exact .inr ⟨n, by simp, (Arena.Reaches.of_child hc).trans hck⟩

end Visit

/-! ### Whole transformations -/

section Tree

variable {arena : Arena} {types : TypeTable} {root : NodeId} {options : Options}

/-- The fragments of a tree are those of its root and of its comments. -/
lemma fragmentsOf_of_node {fs : List Fragment} {t : Traversal}
    (h : (Visit.node (Context.ofRoot arena types root) root).outcome {} = (.ok fs, t)) :
    ∃ fs', fragmentsOf arena types root options = .ok fs' := by
  unfold fragmentsOf Transformer.ofOptions
  split
  · refine ⟨fs ++ [], ?_⟩
    rw [Transformer.allFragments, Transformer.fragments, Visit.outcome_bind_of_ok h]
    rfl
  · refine ⟨fs ++ (commentFragments arena.sourceText ++ []), ?_⟩
    rw [Transformer.allFragments, Transformer.fragments, Visit.outcome_bind_of_ok h]
    rfl

lemma fragmentsOf_of_missing (h : arena.get? root = none) :
    fragmentsOf arena types root options = .error (.missingNode root) := by
  have hnode : (Visit.node (Context.ofRoot arena types root) root).outcome {}
      = (.error (.missingNode root), {}) := by
    have hroot : (Context.ofRoot arena types root).arena.get? root = none := h
    rw [Visit.node, Visit.outcome_bind_of_ok (Visit.outcome_get _)]
    exact Visit.outcome_bind_eq_error.2 (.inl (Visit.outcome_enter_of_missing hroot {}))
  -- The root is visited first, with or without comments after it.
  have hall : ∀ ts, ((Transformer.allFragments (Context.ofRoot arena types root) root
      (.sourceFile :: ts)).outcome {}).1 = .error (.missingNode root) := by
    intro ts
    rw [Transformer.allFragments, Transformer.fragments, Visit.outcome_bind_eq_error.2 (.inl hnode)]
  unfold fragmentsOf Transformer.ofOptions
  split <;> exact hall _

end Tree

/-- A well-formed tree is transformed with the built-in commands, whatever its types and the
options; the one error left is that there is no root. -/
theorem transformTree_of_wellFormed {arena : Arena} {root : NodeId} (hw : WellFormed arena root)
    (types : TypeTable) (options : Options) :
    ((arena.get? root).isSome →
      ∃ out, transformTree arena types root Catalog.builtin options = .ok out) ∧
    (arena.get? root = none →
      transformTree arena types root Catalog.builtin options = .error (.missingNode root)) := by
  constructor
  · intro hroot
    let ctx := Context.ofRoot arena types root
    have hctx : WellFormed ctx.arena root := hw
    -- Nothing has been visited yet, and as many levels are left as visits may nest.
    obtain ⟨fs, t, hr, -⟩ :=
      Visit.covers_nodeWithin hctx (.refl root) hroot hctx.shallow {} (by simp [Visit.Fresh])
    have hnode : (Visit.node ctx root).outcome {} = (.ok fs, t) := hr
    obtain ⟨fs', hfs⟩ : ∃ fs', fragmentsOf arena types root options = .ok fs' :=
      fragmentsOf_of_node hnode
    obtain ⟨lines, hl⟩ := transformTree_of_fragments hfs
    exact ⟨_, hl⟩
  · intro hroot
    exact transformTree_of_error (fragmentsOf_of_missing hroot)

/-- An empty arena is well formed below any root, which is not there. -/
lemma wellFormed_empty (root : NodeId) : WellFormed {} root where
  present p c _ hc := by cases hc
  tree := {
    nodup := fun p _ => List.nodup_nil
    unique := fun p q c _ _ hc => by cases hc
    top := fun p _ hc => by cases hc }
  carries n node _ hn := by simp [Arena.get?] at hn
  shallow := by
    intro path hpath
    cases path with
    | nil => decide
    | cons c path => cases (List.isChain_cons_cons.1 hpath).1

theorem wellFormed_without_root :
    ¬ ∀ (arena : Arena) (types : TypeTable) (root : NodeId) (options : Options),
      WellFormed arena root →
        ∃ out, transformTree arena types root Catalog.builtin options = .ok out := by
  intro h
  obtain ⟨out, hout⟩ := h {} {} ⟨0⟩ {} (wellFormed_empty ⟨0⟩)
  rw [transformTree_of_error (fragmentsOf_of_missing rfl)] at hout
  cases hout

theorem conditional_transforms :
    WellFormed conditionalContext.arena ⟨2⟩ ∧
    ∃ out, transformTree conditionalContext.arena {} ⟨2⟩ Catalog.builtin {} = .ok out := by
  have hroot : ⟨2⟩ ∈ [⟨0⟩, ⟨1⟩, (⟨2⟩ : NodeId)] := by decide
  have hclosed : ∀ p ∈ [⟨0⟩, ⟨1⟩, (⟨2⟩ : NodeId)], ∀ c ∈ conditionalContext.arena.children p,
      c ∈ [⟨0⟩, ⟨1⟩, (⟨2⟩ : NodeId)] := by decide
  have htree : conditionalContext.arena.IsTree ⟨2⟩ :=
    .of_closed hroot hclosed (by decide) (by decide)
  have hpresent : ∀ p ∈ [⟨0⟩, ⟨1⟩, (⟨2⟩ : NodeId)], ∀ c ∈ conditionalContext.arena.children p,
      (conditionalContext.arena.get? c).isSome := by decide
  have hw : WellFormed conditionalContext.arena ⟨2⟩ := by
    refine ⟨fun p c hp => hpresent p (hp.mem_of_closed hroot hclosed) c, htree,
      fun n node hn hnode => ?_, htree.within_size.mono (by decide)⟩
    have hmem := hn.mem_of_closed hroot hclosed
    simp only [List.mem_cons, List.not_mem_nil, or_false] at hmem
    rcases hmem with rfl | rfl | rfl <;> cases hnode
    · trivial
    · trivial
    · exact ⟨_, rfl⟩
  exact ⟨hw, (transformTree_of_wellFormed hw {} {}).1 (by decide)⟩

end Gls
