/-
# Chains of else-ifs

An if statement is visited together with the else-ifs that hang on it: not one inside the other, as
the tree has them, but in a loop over the links of the chain.  So all conditions and branches of a
chain are visited at the depth at which the first of them is, and the limit on depth is no limit on
the length of chains.

What the loop does is said in two steps.  The conditions and branches are visited one after the
other, each from the state that the one before has reached; this is a relation between the states
before and after, with what the links come to.  And what the if statement comes to is a function of
what the links come to: one block with a start command for each link, or the complaints alone.  The
main statement puts the two together, and says where a chain that is not visited to its end has
failed.
-/
import Gls.Proofs.Visit.Footprint
import Gls.Proofs.Visit.Silence

namespace Gls

/-- The complaints in the place of a value. -/
def Outcome.raised {α : Type} : Outcome α → List Complaint
  | .value _ => []
  | .complaints cs => cs

namespace Visit

/-! ### Chains in the tree -/

variable {a : Arena} {n m : NodeId} {ns ns' : List NodeId} {e e' : Option NodeId}

/-- If statements, each of them the else branch of the one before, and the else branch of the last,
which is no if statement. -/
inductive IsIfChain (a : Arena) : List NodeId → Option NodeId → Prop where
  | last {n : NodeId} {d : Payload.Conditional} (hd : a.conditional? n = some d)
      (helse : ∀ m, d.elseStatement = some m → a.kind? m ≠ some .ifStatement) :
      IsIfChain a [n] d.elseStatement
  | link {n m : NodeId} {ns : List NodeId} {e : Option NodeId} {d : Payload.Conditional}
      (hd : a.conditional? n = some d) (helse : d.elseStatement = some m)
      (hkind : a.kind? m = some .ifStatement) (h : IsIfChain a (m :: ns) e) :
      IsIfChain a (n :: m :: ns) e

/-- Where a chain begins decides how it goes on. -/
lemma IsIfChain.unique (h : IsIfChain a (n :: ns) e) (h' : IsIfChain a (n :: ns') e') :
    ns = ns' := by
  generalize hl : n :: ns = l at h
  induction h generalizing n ns ns' with
  | @last n d hd helse =>
    cases hl
    cases h' with
    | last => rfl
    | link hd' helse' hkind _ =>
      rw [hd] at hd'
      cases hd'
      exact absurd hkind (helse _ helse')
  | @link n m ms e d hd helse hkind h ih =>
    cases hl
    cases h' with
    | last hd' helse' =>
      rw [hd] at hd'
      cases hd'
      exact absurd hkind (helse' _ helse)
    | link hd' helse' _ h' =>
      rw [hd] at hd'
      cases hd'
      rw [helse] at helse'
      cases helse'
      rw [ih h' rfl]

/-- A chain begins at each of its links. -/
lemma IsIfChain.of_mem (h : IsIfChain a ns e) (hn : n ∈ ns) :
    ∃ us vs, ns = us ++ n :: vs ∧ IsIfChain a (n :: vs) e := by
  induction h with
  | last hd helse =>
    obtain rfl := List.mem_singleton.1 hn
    exact ⟨[], [], rfl, .last hd helse⟩
  | @link l m ms e d hd helse hkind h ih =>
    rcases List.mem_cons.1 hn with rfl | hn
    · exact ⟨[], _, rfl, .link hd helse hkind h⟩
    · obtain ⟨us, vs, hsplit, hsuffix⟩ := ih hn
      exact ⟨l :: us, vs, by rw [hsplit, List.cons_append], hsuffix⟩

/-- A chain does not come back to a link. -/
lemma IsIfChain.nodup (h : IsIfChain a ns e) : ns.Nodup := by
  induction h with
  | last => exact List.nodup_singleton _
  | @link n m ms e d hd helse hkind h ih =>
    refine List.nodup_cons.2 ⟨fun hn => ?_, ih⟩
    obtain ⟨us, vs, hsplit, hsuffix⟩ := h.of_mem hn
    have hrest : m :: ms = vs := (IsIfChain.link hd helse hkind h).unique hsuffix
    have hlen := congrArg List.length hsplit
    simp only [← hrest, List.length_append, List.length_cons] at hlen
    omega

lemma IsIfChain.exists_conditional (h : IsIfChain a ns e) (hn : n ∈ ns) :
    ∃ d, a.conditional? n = some d := by
  obtain ⟨us, vs, -, hchain⟩ := h.of_mem hn
  cases hchain with
  | last hd => exact ⟨_, hd⟩
  | link hd => exact ⟨_, hd⟩

/-- A chain has no more links than the arena has nodes. -/
lemma IsIfChain.length_le (h : IsIfChain a ns e) : ns.length ≤ a.nodes.size := by
  have hnodup : (ns.map NodeId.toNat).Nodup := h.nodup.map Arena.toNat_injective
  have hsub : ns.map NodeId.toNat ⊆ List.range a.nodes.size := by
    intro i hi
    obtain ⟨l, hl, rfl⟩ := List.mem_map.1 hi
    obtain ⟨d, hd⟩ := h.exists_conditional hl
    have hchild : a.Child l d.condition := by
      rw [Arena.Child, Arena.children_of_conditional? hd]
      exact List.mem_cons_self
    exact List.mem_range.2 (Arena.toNat_lt_of_child hchild)
  simpa using (List.subperm_of_subset hnodup hsub).length_le

lemma IsIfChain.chainWithin_eq (h : IsIfChain a (n :: ns) e) {fuel : Nat}
    (hfuel : ns.length < fuel) : chainWithin a fuel n = ⟨n :: ns, e⟩ := by
  obtain ⟨fuel, rfl⟩ := Nat.exists_eq_add_one_of_ne_zero (Nat.ne_zero_of_lt hfuel)
  generalize hl : n :: ns = l at h
  induction h generalizing n ns fuel with
  | @last l d hd helse =>
    cases hl
    rw [chainWithin, hd, Option.bind_some]
    cases hnext : d.elseStatement with
    | none => rfl
    | some next => exact if_neg (helse next hnext)
  | @link l m ms e d hd helse hkind h ih =>
    cases hl
    simp only [List.length_cons, Nat.add_lt_add_iff_right] at hfuel
    obtain ⟨fuel, rfl⟩ := Nat.exists_eq_add_one_of_ne_zero (Nat.ne_zero_of_lt hfuel)
    have hrest : chainWithin a (fuel + 1) m = ⟨m :: ms, e⟩ := ih fuel hfuel rfl
    rw [chainWithin, hd, Option.bind_some, helse]
    dsimp only
    rw [if_pos hkind, hrest]

/-- The chain that is visited is the chain in the tree. -/
lemma IsIfChain.chain_eq (h : IsIfChain a (n :: ns) e) : chain a n = ⟨n :: ns, e⟩ := by
  refine h.chainWithin_eq ?_
  have hlen := h.length_le
  simp only [List.length_cons] at hlen
  omega

/-! ### Visiting the links -/

variable {ctx : Context} {visit : Visitor} {start : String} {s t u : Traversal}

/-- What a link of a chain comes to: its condition, and the fragments of its branch. -/
structure LinkResult where
  condition : Outcome Argument
  body : List Fragment

/-- The links are visited in order, each first its condition and then its branch, and each from the
state that the visits before it have reached. -/
inductive LinksRun (ctx : Context) (visit : Visitor) :
    List NodeId → Traversal → List LinkResult → Traversal → Prop where
  | nil {s : Traversal} : LinksRun ctx visit [] s [] s
  | cons {n : NodeId} {ns : List NodeId} {d : Payload.Conditional} {s t u v : Traversal}
      {r : LinkResult} {rs : List LinkResult} (hd : ctx.arena.conditional? n = some d)
      (hcondition : (value ctx visit d.condition).outcome s = (.ok r.condition, t))
      (hbody : (visit d.thenStatement).outcome t = (.ok r.body, u))
      (h : LinksRun ctx visit ns u rs v) : LinksRun ctx visit (n :: ns) s (r :: rs) v

/-- The lines and complaints that a link adds to its chain. -/
def LinkResult.toBranches (start : String) (r : LinkResult) : Branches :=
  match r.condition with
  | .value c => ⟨.command ⟨start, [c]⟩ :: r.body.map Fragment.toOutput, []⟩
  | .complaints cs => ⟨r.body.map Fragment.toOutput, cs⟩

/-- The lines and complaints of the links, of which the first begins with the given command. -/
def branchesOf : String → List LinkResult → Branches
  | _, [] => {}
  | start, r :: rs => (r.toBranches start).append (branchesOf CommandName.elseIfStart rs)

lemma outcome_branch_eq_ok {d : Payload.Conditional} (hd : ctx.arena.conditional? n = some d)
    {b : Branches} : (branch ctx visit start n).outcome s = (.ok b, u) ↔
      ∃ (r : LinkResult) (t : Traversal),
        (value ctx visit d.condition).outcome s = (.ok r.condition, t) ∧
        (visit d.thenStatement).outcome t = (.ok r.body, u) ∧ b = r.toBranches start := by
  rw [branch, hd, need_some]
  simp only [outcome_bind_eq_ok]
  constructor
  · rintro ⟨condition, t, hcondition, body, u', hbody, h⟩
    refine ⟨⟨condition, body⟩, t, hcondition, ?_⟩
    cases condition <;> cases h <;> exact ⟨hbody, rfl⟩
  · rintro ⟨⟨condition, body⟩, t, hcondition, hbody, rfl⟩
    refine ⟨condition, t, hcondition, body, u, hbody, ?_⟩
    cases condition <;> rfl

lemma outcome_branches_eq_ok (hns : ∀ m ∈ ns, ∃ d, ctx.arena.conditional? m = some d)
    {b : Branches} : (branches ctx visit start ns).outcome s = (.ok b, u) ↔
      ∃ rs, LinksRun ctx visit ns s rs u ∧ b = branchesOf start rs := by
  induction ns generalizing start s b with
  | nil =>
    constructor
    · intro h
      cases h
      exact ⟨[], .nil, rfl⟩
    · rintro ⟨rs, hrun, rfl⟩
      cases hrun
      rfl
  | cons n ns ih =>
    obtain ⟨⟨d, hd⟩, hns⟩ := List.forall_mem_cons.1 hns
    rw [branches, outcome_bind_eq_ok]
    constructor
    · rintro ⟨b₁, t, hbranch, h⟩
      obtain ⟨b₂, u', hrest, h⟩ := outcome_bind_eq_ok.1 h
      cases h
      obtain ⟨r, t', hcondition, hbody, rfl⟩ := (outcome_branch_eq_ok hd).1 hbranch
      obtain ⟨rs, hrun, rfl⟩ := (ih hns).1 hrest
      exact ⟨r :: rs, .cons hd hcondition hbody hrun, rfl⟩
    · rintro ⟨rs, hrun, rfl⟩
      cases hrun with
      | @cons _ _ d' _ t t' _ r rs hd' hcondition hbody hrun =>
        obtain rfl := Option.some.inj (hd.symm.trans hd')
        refine ⟨_, t', (outcome_branch_eq_ok hd).2 ⟨r, t, hcondition, hbody, rfl⟩, ?_⟩
        exact outcome_bind_eq_ok.2 ⟨_, u, (ih hns).2 ⟨rs, hrun, rfl⟩, rfl⟩

/-- What an else branch adds to its chain. -/
def elseOutputs (e : Option NodeId) (fs : List Fragment) : List Output :=
  (e.map fun _ => .command ⟨CommandName.elseStart, []⟩).toList ++ fs.map Fragment.toOutput

lemma outcome_elseBranch_eq_ok {os : List Output} :
    (elseBranch visit e).outcome s = (.ok os, u) ↔
      ∃ fs, (optional visit e).outcome s = (.ok fs, u) ∧ os = elseOutputs e fs := by
  cases e with
  | none =>
    constructor
    · intro h
      cases h
      exact ⟨[], rfl, rfl⟩
    · rintro ⟨fs, h, rfl⟩
      cases h
      rfl
  | some m =>
    rw [elseBranch, outcome_bind_eq_ok]
    constructor
    · rintro ⟨fs, t, hm, h⟩
      cases h
      exact ⟨fs, hm, rfl⟩
    · rintro ⟨fs, hm, rfl⟩
      exact ⟨fs, u, hm, rfl⟩

/-- What an if statement comes to, when its links and its else branch have come to something. -/
def chainFragment (ctx : Context) (n : NodeId) (rs : List LinkResult) (e : Option NodeId)
    (fs : List Fragment) : Fragment :=
  let b := branchesOf CommandName.ifStart rs
  let output := b.output ++ elseOutputs e fs
  if b.complaints.isEmpty then
    .transformation ⟨ctx.arena.span n, output ++ [.command ⟨CommandName.ifEnd, []⟩]⟩
  else surface ctx n (b.complaints ++ (Program.ofOutputs output).complaints)

/-- An if statement is visited by visiting the links of its chain and then the else branch. -/
lemma outcome_ifStatement_eq_ok (h : IsIfChain ctx.arena (n :: ns) e) {r : Option Fragment} :
    (ifStatement ctx visit n).outcome s = (.ok r, u) ↔
      ∃ rs fs t, LinksRun ctx visit (n :: ns) s rs t ∧ (optional visit e).outcome t = (.ok fs, u) ∧
        r = some (chainFragment ctx n rs e fs) := by
  have hlinks : ∀ m ∈ n :: ns, ∃ d, ctx.arena.conditional? m = some d :=
    fun m hm => h.exists_conditional hm
  rw [ifStatement, h.chain_eq]
  dsimp only
  rw [outcome_bind_eq_ok]
  constructor
  · rintro ⟨b, t, hbranches, hrest⟩
    obtain ⟨os, u', helse, hresult⟩ := outcome_bind_eq_ok.1 hrest
    obtain ⟨rs, hrun, rfl⟩ := (outcome_branches_eq_ok hlinks).1 hbranches
    obtain ⟨fs, hfs, rfl⟩ := outcome_elseBranch_eq_ok.1 helse
    unfold chainFragment
    dsimp only at hresult ⊢
    split at hresult
    · cases hresult
      exact ⟨rs, fs, t, hrun, hfs, by simp [*]⟩
    · cases hresult
      exact ⟨rs, fs, t, hrun, hfs, by simp [*]⟩
  · rintro ⟨rs, fs, t, hrun, hfs, rfl⟩
    refine ⟨_, t, (outcome_branches_eq_ok hlinks).2 ⟨rs, hrun, rfl⟩, ?_⟩
    refine outcome_bind_eq_ok.2 ⟨_, u, outcome_elseBranch_eq_ok.2 ⟨fs, hfs, rfl⟩, ?_⟩
    unfold chainFragment
    dsimp only
    split <;> rfl

/-! ### Lines and complaints -/

/-- The lines of a link. -/
def LinkResult.lines (start : String) (r : LinkResult) : List Line :=
  match r.condition with
  | .value c => .command ⟨start, [c]⟩ :: (Program.ofFragments r.body).lines
  | .complaints _ => (Program.ofFragments r.body).lines

/-- The complaints in the branch of a link. -/
def LinkResult.complaints (r : LinkResult) : List Complaint :=
  (Program.ofFragments r.body).complaints

/-- The lines of a chain, from its first start command to its end command. -/
def chainLines (r : LinkResult) (rs : List LinkResult) (e : Option NodeId) (fs : List Fragment) :
    List Line :=
  r.lines CommandName.ifStart ++ rs.flatMap (LinkResult.lines CommandName.elseIfStart) ++
    (e.map fun _ => .command ⟨CommandName.elseStart, []⟩).toList ++
    (Program.ofFragments fs).lines ++ [.command ⟨CommandName.ifEnd, []⟩]

variable {r : LinkResult} {rs : List LinkResult} {fs : List Fragment}

lemma lines_toBranches :
    (Program.ofOutputs (r.toBranches start).output).lines = r.lines start := by
  unfold LinkResult.toBranches LinkResult.lines
  split
  · rw [Program.lines_ofOutputs_command]
    rfl
  · rfl

lemma lines_branchesOf_elseIf :
    (Program.ofOutputs (branchesOf CommandName.elseIfStart rs).output).lines
      = rs.flatMap (LinkResult.lines CommandName.elseIfStart) := by
  induction rs with
  | nil => rfl
  | cons r rs ih => rw [branchesOf, Branches.lines_append, lines_toBranches, ih, List.flatMap_cons]

lemma complaints_toBranches (start : String) (r : LinkResult) :
    (r.toBranches start).complaints = r.condition.raised ∧
    (Program.ofOutputs (r.toBranches start).output).complaints = r.complaints := by
  unfold LinkResult.toBranches
  split
  · rename_i hc
    rw [hc]
    exact ⟨rfl, rfl⟩
  · rename_i hc
    rw [hc]
    exact ⟨rfl, rfl⟩

lemma complaints_branchesOf (start : String) (rs : List LinkResult) :
    (branchesOf start rs).complaints = rs.flatMap (fun r => r.condition.raised) ∧
      (Program.ofOutputs (branchesOf start rs).output).complaints
        = rs.flatMap LinkResult.complaints := by
  induction rs generalizing start with
  | nil => exact ⟨rfl, rfl⟩
  | cons r rs ih =>
    obtain ⟨hraised, hcomplaints⟩ := complaints_toBranches start r
    obtain ⟨hraiseds, hcomplaintss⟩ := ih CommandName.elseIfStart
    constructor
    · rw [branchesOf, Branches.append, hraised, hraiseds, List.flatMap_cons]
    · rw [branchesOf, Branches.append, Program.ofOutputs_append, Program.complaints_append,
        hcomplaints, hcomplaintss, List.flatMap_cons]

lemma program_elseOutputs (e : Option NodeId) (fs : List Fragment) :
    (Program.ofOutputs (elseOutputs e fs)).lines
        = (e.map fun _ => .command ⟨CommandName.elseStart, []⟩).toList
          ++ (Program.ofFragments fs).lines ∧
      (Program.ofOutputs (elseOutputs e fs)).complaints = (Program.ofFragments fs).complaints := by
  cases e with
  | none => exact ⟨rfl, rfl⟩
  | some m => exact ⟨rfl, rfl⟩

/-- When no condition complains, the chain is one block. -/
lemma program_chainFragment_of_values (h : ∀ l ∈ r :: rs, l.condition.raised = []) :
    (Program.ofFragments [chainFragment ctx n (r :: rs) e fs]).lines = chainLines r rs e fs ∧
      (Program.ofFragments [chainFragment ctx n (r :: rs) e fs]).complaints
        = (r :: rs).flatMap LinkResult.complaints ++ (Program.ofFragments fs).complaints := by
  obtain ⟨hraised, hcomplaints⟩ :=
    complaints_branchesOf CommandName.ifStart (r :: rs)
  obtain ⟨helseLines, helseComplaints⟩ := program_elseOutputs e fs
  have hnone : (branchesOf CommandName.ifStart (r :: rs)).complaints.isEmpty = true := by
    rw [hraised, List.isEmpty_iff, List.flatMap_eq_nil_iff]
    exact h
  rw [chainFragment, if_pos hnone, Program.lines_ofFragments_transformation,
    Program.complaints_ofFragments_transformation, Program.ofOutputs_append,
    Program.ofOutputs_append]
  simp only [Program.lines_append, Program.complaints_append, helseLines, helseComplaints,
    hcomplaints]
  constructor
  · rw [branchesOf, Branches.lines_append, lines_toBranches, lines_branchesOf_elseIf, chainLines]
    simp [Program.ofOutputs, Program.ofOutput]
  · simp [Program.ofOutputs, Program.ofOutput]

/-- When a condition complains, there are only complaints. -/
lemma program_chainFragment_of_complaints (h : ∃ l ∈ rs, l.condition.raised ≠ []) :
    (Program.ofFragments [chainFragment ctx n rs e fs]).lines = [] ∧
      (Program.ofFragments [chainFragment ctx n rs e fs]).complaints
        = rs.flatMap (fun l => l.condition.raised) ++ rs.flatMap LinkResult.complaints
          ++ (Program.ofFragments fs).complaints := by
  obtain ⟨hraised, hcomplaints⟩ := complaints_branchesOf CommandName.ifStart rs
  obtain ⟨helseLines, helseComplaints⟩ := program_elseOutputs e fs
  have hsome : ¬ (branchesOf CommandName.ifStart rs).complaints.isEmpty = true := by
    rw [hraised, List.isEmpty_iff, List.flatMap_eq_nil_iff]
    obtain ⟨l, hl, hne⟩ := h
    exact fun hall => hne (hall l hl)
  rw [chainFragment, if_neg hsome, lines_surface, complaints_surface, Program.ofOutputs_append,
    Program.complaints_append, hraised, hcomplaints, helseComplaints, List.append_assoc]
  exact ⟨rfl, rfl⟩

/-! ### Depth -/

/-- On the way from `s` to `t` the nodes are dispatched, all of them one level below the depth of
the two states. -/
def Dispatches (a : Arena) (ps : List NodeId) (s t : Traversal) : Prop :=
  ∃ g, t = s.grow g ∧ g.Sound a s ∧ ∀ p ∈ ps, .dispatched p (s.depth + 1) ∈ g.noted

namespace Dispatches

variable {ps qs : List NodeId}

lemma nil : Dispatches a [] s s := ⟨{}, rfl, .nothing a s, by simp⟩

lemma append (h : Dispatches a ps s t) (h' : Dispatches a qs t u) :
    Dispatches a (ps ++ qs) s u := by
  obtain ⟨g, rfl, hsound, hps⟩ := h
  obtain ⟨g', rfl, hsound', hqs⟩ := h'
  refine ⟨g.append g', by simp, hsound.append hsound', fun p hp => ?_⟩
  rcases List.mem_append.1 hp with hp | hp
  · exact List.mem_append_right _ (hps p hp)
  · exact List.mem_append_left _ (hqs p hp)

lemma depth_eq (h : Dispatches a ps s t) : t.depth = s.depth := by
  obtain ⟨g, rfl, -, -⟩ := h
  rfl

/-- No node is dispatched twice, so the nodes are dispatched at no other depth. -/
lemma exists_noted (h : Dispatches a ps s t) : ∃ noted, t.journal = noted ++ s.journal ∧
    ∀ p ∈ ps, ∀ d, .dispatched p d ∈ noted ↔ d = s.depth + 1 := by
  obtain ⟨g, rfl, hsound, hps⟩ := h
  refine ⟨g.noted, rfl, fun p hp d => ⟨fun hd => ?_, fun hd => hd ▸ hps p hp⟩⟩
  exact hsound.depth_unique hd (hps p hp)

end Dispatches

lemma dispatches_node {p : NodeId} {fs : List Fragment}
    (h : (node ctx p).outcome s = (.ok fs, t)) : Dispatches ctx.arena [p] s t := by
  obtain ⟨g, hgrow, hsound⟩ := (confined_node ctx s.depth p).exists_growth h
  refine ⟨g, hgrow, hsound, ?_⟩
  -- A visit that succeeds has entered its node and has a level left; what it leaves behind begins
  -- with the dispatch.
  rw [node, outcome_bind_of_ok (outcome_get s)] at h
  cases hnode : ctx.arena.get? p with
  | none =>
    rw [outcome_nodeWithin_of_error (outcome_enter_of_missing hnode s)] at h
    cases h
  | some entered =>
    by_cases hv : p ∈ s.visited
    · rw [outcome_nodeWithin_of_error (outcome_enter_of_visited hnode hv)] at h
      cases h
    obtain ⟨levels, hlevels⟩ : ∃ levels, levels = maxVisitDepth - s.depth := ⟨_, rfl⟩
    rw [← hlevels] at h
    cases levels with
    | zero =>
      rw [outcome_nodeWithin_zero hnode hv] at h
      cases h
    | succ levels =>
      have hlevel : levels = maxVisitDepth - (s.into p).depth := by
        simp only [Traversal.into]
        omega
      have hparts : Confined ctx.arena Set.univ (s.into p).depth
          (along ctx (nodeWithin ctx levels) p (Route.ofKind entered.kind)) :=
        (inherited_confined _ _ _).along fun m _ =>
          (confined_nodeWithin hlevel m).mono fun _ _ => trivial
      obtain ⟨o, g', hs, -, -, -⟩ := hparts (s.into p) (s.into p) rfl rfl fun _ _ => .rfl
      rw [outcome_nodeWithin_succ hnode hv hs, hgrow] at h
      obtain rfl := Traversal.grow_inj (Prod.mk.inj h).2
      simp [Growth.append, Growth.dispatch]

/-- A node in value position is visited before anything else is done; the rest is what is done for a
visit that comes to the same. -/
lemma value_eq (m : NodeId) :
    value ctx visit m = visit m >>= fun fs => value ctx (fun _ => pure fs) m := by
  rfl

lemma dispatches_value {p : NodeId} {o : Outcome Argument}
    (h : (value ctx (node ctx) p).outcome s = (.ok o, t)) : Dispatches ctx.arena [p] s t := by
  rw [value_eq] at h
  obtain ⟨fs, u, hvisit, hrest⟩ := outcome_bind_eq_ok.1 h
  have hconfined : Confined ctx.arena Set.univ u.depth (value ctx (fun _ => pure fs) p) :=
    (inherited_confined _ _ _).value (.pure fs)
  obtain ⟨g, rfl, hsound⟩ := hconfined.exists_growth hrest
  exact (dispatches_node hvisit).append ⟨g, rfl, hsound, by simp⟩

lemma LinksRun.dispatches {rs : List LinkResult} (h : LinksRun ctx (node ctx) ns s rs t) :
    Dispatches ctx.arena (ns.flatMap (linkParts ctx.arena)) s t := by
  induction h with
  | nil => exact .nil
  | cons hd hcondition hbody _ ih =>
    have hparts := ((dispatches_value hcondition).append (dispatches_node hbody)).append ih
    rw [List.flatMap_cons, linkParts, hd]
    exact hparts

lemma dispatches_optional {fs : List Fragment}
    (h : (optional (node ctx) e).outcome s = (.ok fs, t)) : Dispatches ctx.arena e.toList s t := by
  cases e with
  | none =>
    cases h
    exact .nil
  | some m => exact dispatches_node h

/-! ### Where a chain fails -/

/-- The visit of one of the nodes fails with the error, from a state of the given depth. -/
def FailsAt (ctx : Context) (ps : List NodeId) (depth : Nat) (err : TransformError) : Prop :=
  ∃ p ∈ ps, ∃ t : Traversal, t.depth = depth ∧ ((node ctx p).outcome t).1 = .error err

lemma FailsAt.mono {ps qs : List NodeId} {depth : Nat} {err : TransformError}
    (h : FailsAt ctx ps depth err) (hsub : ps ⊆ qs) : FailsAt ctx qs depth err := by
  obtain ⟨p, hp, hfails⟩ := h
  exact ⟨p, hsub hp, hfails⟩

variable {err : TransformError}

lemma failsAt_node {p : NodeId} {ps : List NodeId} (hp : p ∈ ps)
    (h : (node ctx p).outcome s = (.error err, t)) : FailsAt ctx ps s.depth err :=
  ⟨p, hp, s, rfl, congrArg Prod.fst h⟩

/-- Nothing fails once a node in value position has been visited. -/
lemma error_of_value {p : NodeId} (h : (value ctx visit p).outcome s = (.error err, t)) :
    (visit p).outcome s = (.error err, t) := by
  rcases outcome_bind_eq_error.1 h with h | ⟨fs, u, -, hrest⟩
  · exact h
  · dsimp only at hrest
    split at hrest <;> cases hrest

lemma failsAt_of_branch {d : Payload.Conditional} (hd : ctx.arena.conditional? n = some d)
    (h : (branch ctx (node ctx) start n).outcome s = (.error err, t)) :
    FailsAt ctx (linkParts ctx.arena n) s.depth err := by
  rw [linkParts, hd]
  rw [branch, hd, need_some] at h
  rcases outcome_bind_eq_error.1 h with hcondition | ⟨o, u, hcondition, h⟩
  · exact failsAt_node (by simp) (error_of_value hcondition)
  · rcases outcome_bind_eq_error.1 h with hbody | ⟨fs, v, -, h⟩
    · rw [← (dispatches_value hcondition).depth_eq]
      exact failsAt_node (by simp) hbody
    · cases o <;> cases h

lemma failsAt_of_branches (hns : ∀ m ∈ ns, ∃ d, ctx.arena.conditional? m = some d)
    (h : (branches ctx (node ctx) start ns).outcome s = (.error err, t)) :
    FailsAt ctx (ns.flatMap (linkParts ctx.arena)) s.depth err := by
  induction ns generalizing start s with
  | nil => cases h
  | cons n ns ih =>
    obtain ⟨⟨d, hd⟩, hns⟩ := List.forall_mem_cons.1 hns
    rw [List.flatMap_cons]
    rcases outcome_bind_eq_error.1 h with hbranch | ⟨b, u, hbranch, h⟩
    · exact (failsAt_of_branch hd hbranch).mono (List.subset_append_left _ _)
    · obtain ⟨r, v, hcondition, hbody, -⟩ := (outcome_branch_eq_ok hd).1 hbranch
      have hdepth := ((dispatches_value hcondition).append (dispatches_node hbody)).depth_eq
      rcases outcome_bind_eq_error.1 h with hrest | ⟨b', w, -, h⟩
      · rw [← hdepth]
        exact (ih hns hrest).mono (List.subset_append_right _ _)
      · cases h

lemma failsAt_of_ifStatement (hc : IsIfChain ctx.arena (n :: ns) e)
    (h : (ifStatement ctx (node ctx) n).outcome s = (.error err, t)) :
    FailsAt ctx (chainParts ctx.arena ⟨n :: ns, e⟩) s.depth err := by
  have hlinks : ∀ m ∈ n :: ns, ∃ d, ctx.arena.conditional? m = some d :=
    fun m hm => hc.exists_conditional hm
  rw [ifStatement, hc.chain_eq] at h
  rcases outcome_bind_eq_error.1 h with hbranches | ⟨b, u, hbranches, h⟩
  · exact (failsAt_of_branches hlinks hbranches).mono (List.subset_append_left _ _)
  · obtain ⟨rs, hrun, -⟩ := (outcome_branches_eq_ok hlinks).1 hbranches
    rcases outcome_bind_eq_error.1 h with helse | ⟨os, v, -, h⟩
    · rw [← hrun.dispatches.depth_eq]
      cases e with
      | none => cases helse
      | some m =>
        rcases outcome_bind_eq_error.1 helse with helse | ⟨fs, w, -, h⟩
        · exact failsAt_node (by simp [chainParts]) helse
        · cases h
    · dsimp only at h
      split at h <;> cases h

/-- The outcome of every condition of a chain that is visited is a value or complaints, of which
there is at least one. -/
lemma LinksRun.founded (h : LinksRun ctx (node ctx) ns s rs t) :
    ∀ l ∈ rs, Founded l.condition := by
  induction h with
  | nil => simp
  | cons hd hcondition hbody _ ih =>
    exact List.forall_mem_cons.2 ⟨(ensures_value (ensures_node ctx) _).ok hcondition, ih⟩

end Visit

open Visit

/-- A chain is visited as if it had no depth, whatever the number of its links.  The visit succeeds
exactly if the conditions and branches of the links and then the else branch can be visited one after
the other.  If all conditions are values, the lines are one block, with a start command for each link
and for the else branch and one end command, and the complaints are those of the branches.  If some
condition complains, there are no lines, and the complaints about the conditions come before those
of the branches.  All conditions and branches are dispatched at the same depth, however long the
chain is; and if the visit fails, one of them fails in the same way at that depth. -/
theorem else_if_chain {ctx : Context} {n : NodeId} {ns : List NodeId} {e : Option NodeId}
    (hc : IsIfChain ctx.arena (n :: ns) e) (s : Traversal) :
    (∀ result u, (ifStatement ctx (node ctx) n).outcome s = (.ok result, u) →
      ∃ r rs fs t, LinksRun ctx (node ctx) (n :: ns) s (r :: rs) t ∧
        (optional (node ctx) e).outcome t = (.ok fs, u) ∧
        let program := Program.ofFragments result.toList
        let complaints := (r :: rs).flatMap LinkResult.complaints
          ++ (Program.ofFragments fs).complaints
        ((∀ l ∈ r :: rs, ∃ c, l.condition = .value c) →
          program.lines = chainLines r rs e fs ∧ program.complaints = complaints) ∧
        ((∃ l ∈ r :: rs, ∃ cs, l.condition = .complaints cs) →
          program.lines = [] ∧
            program.complaints
              = (r :: rs).flatMap (fun l => l.condition.raised) ++ complaints) ∧
        u.depth = s.depth ∧ ∃ noted, u.journal = noted ++ s.journal ∧
          ∀ p ∈ chainParts ctx.arena ⟨n :: ns, e⟩, ∀ d,
            .dispatched p d ∈ noted ↔ d = s.depth + 1) ∧
    (∀ rs fs t u, LinksRun ctx (node ctx) (n :: ns) s rs t →
      (optional (node ctx) e).outcome t = (.ok fs, u) →
      ∃ result, (ifStatement ctx (node ctx) n).outcome s = (.ok result, u)) ∧
    ∀ err u, (ifStatement ctx (node ctx) n).outcome s = (.error err, u) →
      ∃ p ∈ chainParts ctx.arena ⟨n :: ns, e⟩, ∃ t : Traversal, t.depth = s.depth ∧
        ((node ctx p).outcome t).1 = .error err := by
  refine ⟨fun result u h => ?_, fun rs fs t u hrun hfs => ?_, fun err u h => ?_⟩
  · obtain ⟨rs, fs, t, hrun, hfs, rfl⟩ := (outcome_ifStatement_eq_ok hc).1 h
    obtain ⟨r, rs, rfl⟩ : ∃ r rs', rs = r :: rs' := by
      cases hrun
      exact ⟨_, _, rfl⟩
    have hdispatches := hrun.dispatches.append (dispatches_optional hfs)
    refine ⟨r, rs, fs, t, hrun, hfs, fun hvalues => ?_, fun hcomplains => ?_,
      hdispatches.depth_eq, hdispatches.exists_noted⟩
    · refine program_chainFragment_of_values fun l hl => ?_
      obtain ⟨c, hcondition⟩ := hvalues l hl
      rw [hcondition]
      rfl
    · rw [← List.append_assoc]
      refine program_chainFragment_of_complaints ?_
      obtain ⟨l, hl, cs, hcondition⟩ := hcomplains
      refine ⟨l, hl, ?_⟩
      rw [hcondition]
      exact hrun.founded l hl cs hcondition
  · exact ⟨_, (outcome_ifStatement_eq_ok hc).2 ⟨rs, fs, t, hrun, hfs, rfl⟩⟩
  · exact failsAt_of_ifStatement hc h

/-- A chain of two links with an else branch. -/
def elseIfContext : Context where
  tree := {
    arena := {
      sourceText := "if (a) x; else if (b) y; else z;"
      nodes := #[
        { kind := .identifier, pos := 4, stop := 5, payload := .identifier "a" },
        { kind := .identifier, pos := 7, stop := 8, payload := .identifier "x" },
        { kind := .expressionStatement, pos := 7, stop := 9, payload := .wrapped (some ⟨1⟩) },
        { kind := .identifier, pos := 19, stop := 20, payload := .identifier "b" },
        { kind := .identifier, pos := 22, stop := 23, payload := .identifier "y" },
        { kind := .expressionStatement, pos := 22, stop := 24, payload := .wrapped (some ⟨4⟩) },
        { kind := .identifier, pos := 30, stop := 31, payload := .identifier "z" },
        { kind := .expressionStatement, pos := 30, stop := 32, payload := .wrapped (some ⟨6⟩) },
        { kind := .ifStatement, pos := 15, stop := 32,
          payload := .conditional ⟨⟨3⟩, ⟨5⟩, some ⟨7⟩⟩ },
        { kind := .ifStatement, pos := 0, stop := 32,
          payload := .conditional ⟨⟨0⟩, ⟨2⟩, some ⟨8⟩⟩ }] }
    types := {} }
  usage := {}

theorem two_links_and_else :
    IsIfChain elseIfContext.arena [⟨9⟩, ⟨8⟩] (some ⟨7⟩) ∧
    ∃ result u, (ifStatement elseIfContext (node elseIfContext) ⟨9⟩).outcome {} = (.ok result, u) ∧
      (Program.ofFragments result.toList).lines =
        [.command ⟨CommandName.ifStart, [.text "a"]⟩, .literal "x",
          .command ⟨CommandName.elseIfStart, [.text "b"]⟩, .literal "y",
          .command ⟨CommandName.elseStart, []⟩, .literal "z", .command ⟨CommandName.ifEnd, []⟩] ∧
      ∀ p ∈ [(⟨0⟩ : NodeId), ⟨2⟩, ⟨3⟩, ⟨5⟩, ⟨7⟩], ∀ d,
        .dispatched p d ∈ u.journal ↔ d = 1 := by
  have hlast : IsIfChain elseIfContext.arena [⟨8⟩] (some ⟨7⟩) :=
    .last (d := ⟨⟨3⟩, ⟨5⟩, some ⟨7⟩⟩) rfl fun m hm => by cases hm; decide
  have hchain : IsIfChain elseIfContext.arena [⟨9⟩, ⟨8⟩] (some ⟨7⟩) :=
    .link (d := ⟨⟨0⟩, ⟨2⟩, some ⟨8⟩⟩) rfl rfl rfl hlast
  obtain ⟨result, u, hrun, hlines⟩ : ∃ result u,
      (ifStatement elseIfContext (node elseIfContext) ⟨9⟩).outcome {} = (.ok result, u) ∧
      (Program.ofFragments result.toList).lines =
        [.command ⟨CommandName.ifStart, [.text "a"]⟩, .literal "x",
          .command ⟨CommandName.elseIfStart, [.text "b"]⟩, .literal "y",
          .command ⟨CommandName.elseStart, []⟩, .literal "z", .command ⟨CommandName.ifEnd, []⟩] :=
    ⟨_, _, rfl, rfl⟩
  obtain ⟨r, rs, fs, t, -, -, -, -, -, noted, hnoted, hdepth⟩ :=
    (else_if_chain hchain {}).1 result u hrun
  have hjournal : u.journal = noted := by simpa using hnoted
  exact ⟨hchain, result, u, hrun, hlines, hjournal ▸ hdepth⟩

end Gls
