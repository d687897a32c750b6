/-
# The places of nodes do not matter

A document may be stored with its nodes in any order.  This file shows that a transformation cannot
tell: when nodes are moved to other places, and every reference to them is rewritten, the output is
the same, to the letter, and so are the complaints and the error.

The argument compares two runs.  `Mirrors f x y` says that the visit `y` does in the renumbered
state what `x` does, and ends with the same result.  The visits of a node at its old and at its new
place mirror each other, since they carry out the same plan.
-/
import Gls.Proofs.Visit.Parts
import Gls.Proofs.Visit.Renumber

namespace Gls

variable {α β : Type}

/-! ### Visits that mirror each other -/

/-- The event with the node it tells of rewritten. -/
def Event.renumber (f : NodeId → NodeId) : Event → Event
  | .dispatched n depth => .dispatched (f n) depth
  | .complained c => .complained c

/-- The state with every node it names rewritten. -/
def Traversal.renumber (f : NodeId → NodeId) (s : Traversal) : Traversal :=
  ⟨s.visited.map f, s.depth, s.journal.map (Event.renumber f)⟩

namespace Visit

/-- From the renumbered state, `y` ends as `x` does, and in the renumbered state. -/
def Mirrors (f : NodeId → NodeId) (x y : Visit α) : Prop :=
  ∀ s : Traversal, y.outcome (s.renumber f) = ((x.outcome s).1, (x.outcome s).2.renumber f)

namespace Mirrors

variable {f : NodeId → NodeId} {x y : Visit α} {g h : α → Visit β}

lemma pure (r : α) : Mirrors f (Pure.pure r : Visit α) (Pure.pure r) := fun _ => rfl

lemma throw (e : TransformError) : Mirrors f (throw e : Visit α) (throw e) := fun _ => rfl

lemma note (e : Event) : Mirrors f (Visit.note e) (Visit.note (e.renumber f)) := fun _ => rfl

lemma complain (range : Span) (reason : String) :
    Mirrors f (Visit.complain range reason) (Visit.complain range reason) := fun _ => rfl

lemma bind (hx : Mirrors f x y) (hg : ∀ r, Mirrors f (g r) (h r)) :
    Mirrors f (x >>= g) (y >>= h) := by
  intro s
  rw [outcome_bind, outcome_bind, hx s]
  rcases x.outcome s with ⟨_ | r, u⟩
  · rfl
  · exact hg r u

lemma map (hx : Mirrors f x y) (g : α → β) :
    Mirrors f (do return g (← x)) (do return g (← y)) :=
  hx.bind fun r => pure (g r)

/-- What is done with the state may depend on all of it. -/
lemma get_bind {g h : Traversal → Visit β} (hg : ∀ s, Mirrors f (g s) (h (s.renumber f))) :
    Mirrors f (get >>= g) (get >>= h) := by
  intro s
  rw [outcome_bind_of_ok (outcome_get _), outcome_bind_of_ok (outcome_get _)]
  exact hg s s

lemma deeper (hx : Mirrors f x y) : Mirrors f (Visit.deeper x) (Visit.deeper y) := by
  intro s
  have hs := hx { s with depth := s.depth + 1 }
  rcases hxs : x.outcome { s with depth := s.depth + 1 } with ⟨r, u⟩
  rw [hxs] at hs
  rw [outcome_deeper.2 ⟨u, hxs, rfl⟩]
  exact outcome_deeper.2 ⟨u.renumber f, hs, rfl⟩

end Mirrors

section Parts

variable {t : TypedTree} (p : Renumbering t.arena) {u u' : UsageIndex} (n : NodeId)

lemma mirrors_complaint (reason : String) :
    Mirrors p (complaint ⟨t, u⟩ n reason) (complaint ⟨t.renumber p, u'⟩ (p n) reason) := by
  rw [complaint, arena_mk, complaint, arena_mk, TypedTree.arena_renumber, Arena.span_renumber]
  exact (Mirrors.complain _ _).map _

lemma mirrors_missing (what : String) : Mirrors p (throw (missing ⟨t, u⟩ n what) : Visit α)
    (throw (missing ⟨t.renumber p, u'⟩ (p n) what)) := by
  rw [missing_renumber p (u := u)]
  exact .throw _

lemma mirrors_parameters (ps : List NodeId) :
    Mirrors p (parameters ⟨t, u⟩ ps) (parameters ⟨t.renumber p, u'⟩ (ps.map p)) := by
  induction ps with
  | nil => exact .pure _
  | cons q ps ih =>
    have hname : (((t.arena.renumber p).valueDecl? (p q)).map fun d =>
        (t.arena.renumber p).text d.name) = (t.arena.valueDecl? q).map fun d =>
          t.arena.text d.name := by
      simp [Payload.ValueDecl.renumber, Function.comp_def]
    simp only [List.map_cons, parameters, arena_mk, TypedTree.arena_renumber, hname,
      TypedTree.typeName?_renumber, Arena.span_renumber]
    cases t.typeName? q with
    | none =>
      refine (Mirrors.complain _ _).bind fun c => ih.bind fun o => ?_
      cases o <;> exact .pure _
    | some type =>
      refine ih.bind fun o => ?_
      cases o <;> exact .pure _

lemma mirrors_ofOutcome {f f' : α → Visit (Option Fragment)} (hf : ∀ r, Mirrors p (f r) (f' r))
    (o : Outcome α) :
    Mirrors p (ofOutcome ⟨t, u⟩ n f o) (ofOutcome ⟨t.renumber p, u'⟩ (p n) f' o) := by
  cases o with
  | value r => exact hf r
  | complaints cs =>
    rw [ofOutcome, ofOutcome, surface_renumber p (u := u)]
    exact .pure _

variable {visit visit' : Visitor} (hv : ∀ m, Mirrors p (visit m) (visit' (p m)))
include hv

lemma mirrors_all (ns : List NodeId) : Mirrors p (all visit ns) (all visit' (ns.map p)) := by
  induction ns with
  | nil => exact .pure _
  | cons m ns ih => exact (hv m).bind fun fs => ih.map _

lemma mirrors_value (m : NodeId) :
    Mirrors p (value ⟨t, u⟩ visit m) (value ⟨t.renumber p, u'⟩ visit' (p m)) := by
  refine (hv m).bind fun fs => ?_
  simp only [arena_mk, TypedTree.arena_renumber, Arena.text_renumber, Arena.span_renumber,
    kindWords_renumber p (u := u)]
  split
  · exact .pure _
  · exact .pure _
  · exact .pure _
  · exact (Mirrors.complain _ _).map _
  · exact .pure _

lemma mirrors_values (ns : List NodeId) :
    Mirrors p (values ⟨t, u⟩ visit ns) (values ⟨t.renumber p, u'⟩ visit' (ns.map p)) := by
  induction ns with
  | nil => exact .pure _
  | cons m ns ih => exact (mirrors_value p hv m).bind fun v => ih.map _

lemma mirrors_gather (inputs : Inputs) :
    Mirrors p (gather ⟨t, u⟩ visit inputs)
      (gather ⟨t.renumber p, u'⟩ visit' (inputs.renumber p)) := by
  cases inputs with
  | values ns => exact mirrors_values p hv ns
  | parameters ps => exact mirrors_parameters p ps

lemma mirrors_branch (start : String) (l : NodeId) :
    Mirrors p (branch ⟨t, u⟩ visit start l) (branch ⟨t.renumber p, u'⟩ visit' start (p l)) := by
  rw [branch, branch, arena_mk, arena_mk, TypedTree.arena_renumber, Arena.conditional?_renumber]
  cases t.arena.conditional? l with
  | none => exact mirrors_missing p l "if data"
  | some d =>
    refine (mirrors_value p hv d.condition).bind fun o => (hv d.thenStatement).bind fun fs => ?_
    cases o <;> exact .pure _

lemma mirrors_branches (start : String) (ls : List NodeId) :
    Mirrors p (branches ⟨t, u⟩ visit start ls)
      (branches ⟨t.renumber p, u'⟩ visit' start (ls.map p)) := by
  induction ls generalizing start with
  | nil => exact .pure _
  | cons l ls ih => exact (mirrors_branch p hv start l).bind fun b => (ih _).map _

lemma mirrors_elseBranch (o : Option NodeId) :
    Mirrors p (elseBranch visit o) (elseBranch visit' (o.map p)) := by
  cases o with
  | none => exact .pure _
  | some m => exact (hv m).map _

lemma mirrors_ifStatement :
    Mirrors p (ifStatement ⟨t, u⟩ visit n) (ifStatement ⟨t.renumber p, u'⟩ visit' (p n)) := by
  simp only [ifStatement, arena_mk, TypedTree.arena_renumber, chain_renumber, IfChain.renumber]
  refine (mirrors_branches p hv _ _).bind fun b => (mirrors_elseBranch p hv _).bind fun out => ?_
  simp only [Arena.span_renumber, surface_renumber p (u := u)]
  split <;> exact .pure _

/-- By the form of the plan. -/
lemma mirrors_carryOut (plan : Plan) :
    Mirrors p (carryOut ⟨t, u⟩ visit n plan)
      (carryOut ⟨t.renumber p, u'⟩ visit' (p n) (plan.renumber p)) := by
  cases plan with
  | lack what => exact mirrors_missing p n what
  | nothing => exact .pure _
  | complain reason => exact (mirrors_complaint p n reason).map _
  | verbatim text =>
    rw [Plan.renumber, carryOut, carryOut, verbatim_renumber p (u := u)]
    exact .pure _
  | line inputs command =>
    refine (mirrors_gather p hv inputs).bind fun o => mirrors_ofOutcome p n (fun args => ?_) o
    rw [line_renumber p (u := u)]
    exact .pure _
  | block inputs start body stop =>
    refine (mirrors_gather p hv inputs).bind fun o => mirrors_ofOutcome p n (fun args => ?_) o
    simp only [block_renumber p (u := u)]
    exact (mirrors_all p hv body).map _
  | conditional => exact mirrors_ifStatement p n hv

variable (hu : ∀ name range, u'.writesWithin name range = u.writesWithin name range)
include hu

lemma mirrors_along (route : Route) :
    Mirrors p (along ⟨t, u⟩ visit n route) (along ⟨t.renumber p, u'⟩ visit' (p n) route) := by
  cases route with
  | handle handler =>
    rw [along, along, Plan.of_renumber p n hu]
    exact (mirrors_carryOut p n hv _).map _
  | passThrough =>
    rw [along, along, arena_mk, arena_mk, TypedTree.arena_renumber, Arena.children_renumber]
    exact mirrors_all p hv _
  | skip => exact .pure _
  | unmapped =>
    simp only [along, arena_mk, TypedTree.arena_renumber, Arena.children_renumber]
    cases t.arena.children n with
    | nil =>
      simp only [unsupported, kindWords_renumber p (u := u)]
      exact (mirrors_complaint p n _).map _
    | cons c cs => exact mirrors_all p hv (c :: cs)

end Parts

/-! ### Visiting nodes -/

section Nodes

variable {t : TypedTree} (p : Renumbering t.arena) {u u' : UsageIndex}

/-- A node has been visited when it has been at its old place. -/
lemma contains_renumber {a : Arena} (p : Renumbering a) (s : Traversal) (n : NodeId) :
    (s.renumber p).visited.contains (p n) = s.visited.contains n := by
  rw [Bool.eq_iff_iff, List.contains_iff_mem, List.contains_iff_mem]
  exact List.mem_map_of_injective p.perm.injective

/-- The nodes that are entered are the same but for their references. -/
lemma outcome_enter_renumber (n : NodeId) (s : Traversal) :
    (enter ⟨t.renumber p, u'⟩ (p n)).outcome (s.renumber p)
      = (((enter ⟨t, u⟩ n).outcome s).1.map (Node.renumber p),
          ((enter ⟨t, u⟩ n).outcome s).2.renumber p) := by
  simp only [enter, arena_mk, TypedTree.arena_renumber, Arena.get?_renumber]
  cases hn : t.arena.get? n with
  | none =>
    rw [p.outside n hn]
    rfl
  | some node =>
    simp only [Option.map_some]
    rw [outcome_bind_of_ok (outcome_get _), outcome_bind_of_ok (outcome_get _), contains_renumber]
    split <;> rfl

lemma mirrors_enter_bind {g h : Node → Visit β} (n : NodeId)
    (hg : ∀ node, Mirrors p (g node) (h (node.renumber p))) :
    Mirrors p (enter ⟨t, u⟩ n >>= g) (enter ⟨t.renumber p, u'⟩ (p n) >>= h) := by
  intro s
  rw [outcome_bind, outcome_bind, outcome_enter_renumber p (u := u)]
  rcases (enter ⟨t, u⟩ n).outcome s with ⟨_ | node, v⟩
  · rfl
  · exact hg node v

variable (hu : ∀ name range, u'.writesWithin name range = u.writesWithin name range)
include hu

/-- By induction on the levels that are left. -/
lemma mirrors_nodeWithin (levels : Nat) (n : NodeId) :
    Mirrors p (nodeWithin ⟨t, u⟩ levels n) (nodeWithin ⟨t.renumber p, u'⟩ levels (p n)) := by
  induction levels generalizing n with
  | zero =>
    exact mirrors_enter_bind p n fun node => Mirrors.get_bind fun s => .throw _
  | succ levels ih =>
    refine mirrors_enter_bind p n fun node => Mirrors.deeper ?_
    rw [dispatch_eq, dispatch_eq]
    exact Mirrors.get_bind fun s => (Mirrors.note _).bind fun _ => mirrors_along p n ih hu _

lemma mirrors_node (n : NodeId) :
    Mirrors p (node ⟨t, u⟩ n) (node ⟨t.renumber p, u'⟩ (p n)) :=
  Mirrors.get_bind fun s => mirrors_nodeWithin p hu (maxVisitDepth - s.depth) n

lemma mirrors_allFragments (root : NodeId) (ts : List Transformer) :
    Mirrors p (Transformer.allFragments ⟨t, u⟩ root ts)
      (Transformer.allFragments ⟨t.renumber p, u'⟩ (p root) ts) := by
  induction ts with
  | nil => exact .pure _
  | cons transformer ts ih =>
    refine Mirrors.bind ?_ fun fs => ih.map _
    cases transformer with
    | sourceFile => exact mirrors_node p hu root
    | comments => exact .pure _

end Nodes

end Visit

/-! ### Whole transformations -/

/-- The document with every node moved to its new place, and every reference rewritten. -/
def Document.renumber (d : Document) (p : Renumbering d.arena) : Document :=
  { d with arena := d.arena.renumber p, root := p d.root, types := d.types.renumber p.perm }

lemma programOf_renumber {arena : Arena} (p : Renumbering arena) (types : TypeTable)
    (root : NodeId) (options : Options) :
    programOf (arena.renumber p) (types.renumber p.perm) (p root) options
      = programOf arena types root options := by
  let t : TypedTree := ⟨arena, types⟩
  have hmirrors := Visit.mirrors_allFragments (t := t) p (UsageIndex.writesWithin_renumber p root)
    root (Transformer.ofOptions options) {}
  exact congrArg (fun r => r.1.map Program.ofFragments) hmirrors

/-- Moving the nodes of a document to other places changes nothing: there are the same lines and the
same complaints, or the same error. -/
theorem transform_renumber (d : Document) (p : Renumbering d.arena) (catalog : Catalog)
    (options : Options) :
    (d.renumber p).transform catalog options = d.transform catalog options := by
  unfold Document.transform transformTree
  rw [Document.renumber, programOf_renumber]

/-- Two variables without a type, one of them initialized with the other. -/
def untypedDocument : Document where
  fileName := "x.ts"
  arena := {
    sourceText := "let y, x = y"
    nodes := #[
      { kind := .identifier, pos := 4, stop := 5, parent := some ⟨1⟩, payload := .identifier "y" },
      { kind := .variableDeclaration, pos := 4, stop := 5,
        payload := .valueDecl ⟨⟨0⟩, none, none⟩ },
      { kind := .identifier, pos := 7, stop := 8, parent := some ⟨4⟩, payload := .identifier "x" },
      { kind := .identifier, pos := 11, stop := 12, parent := some ⟨4⟩,
        payload := .identifier "y" },
      { kind := .variableDeclaration, pos := 7, stop := 12,
        payload := .valueDecl ⟨⟨2⟩, none, some ⟨3⟩⟩ }] }
  root := ⟨4⟩
  types := {
    symbols := #[{ name := "y", valueDeclaration := some ⟨1⟩ }]
    nodeSymbols := OrderedMap.empty.insert ⟨3⟩ ⟨0⟩ }

/-- The second variable changes places with the first identifier. -/
def untypedSwap : Renumbering untypedDocument.arena :=
  .swap (n := ⟨0⟩) (m := ⟨4⟩) (by decide) (by decide)

theorem swapped_untyped_transforms :
    (untypedDocument.renumber untypedSwap).root = ⟨0⟩ ∧
    (untypedDocument.renumber untypedSwap).arena.kind? ⟨0⟩ = some .variableDeclaration ∧
    (untypedDocument.renumber untypedSwap).transform Catalog.builtin {}
      = .ok ⟨[], [⟨⟨7, 12⟩, "variable 'x' has no representable type"⟩]⟩ := by
  refine ⟨by decide, by decide, ?_⟩
  rw [transform_renumber]
  rfl

end Gls
