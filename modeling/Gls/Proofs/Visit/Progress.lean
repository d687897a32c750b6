/-
# Visits that succeed

A visit may fail because a node is not there, was visited before, lies too deep or lacks what its
kind has.  This file shows that none of this happens in a well-formed tree.

The argument is about footprints.  `Covers a x ms` says that the visit `x` succeeds from every state
in which nothing at or below the nodes `ms` has been visited, and that it visits nothing else.
Footprints of visits that come one after the other add up when they are apart; in a tree, the parts
that a handler visits lie below different children of its node, so they are apart.
-/
import Gls.Proofs.Visit.Loops
import Gls.Proofs.Visit.Rules

namespace Gls

variable {α β : Type}

namespace Visit

/-! ### Footprints -/

/-- Nothing at or below the node has been visited. -/
def Fresh (a : Arena) (m : NodeId) (s : Traversal) : Prop := ∀ k, a.Reaches m k → k ∉ s.visited

/-- The visit succeeds when nothing at or below the nodes has been visited, and visits nothing
else. -/
def Covers (a : Arena) (x : Visit α) (ms : List NodeId) : Prop :=
  ∀ s, (∀ m ∈ ms, Fresh a m s) → ∃ r t, x.outcome s = (.ok r, t) ∧
    ∀ k ∈ t.visited, k ∈ s.visited ∨ ∃ m ∈ ms, a.Reaches m k

namespace Covers

variable {a : Arena} {x : Visit α} {f : α → Visit β} {ms ns : List NodeId}

lemma pure (r : α) : Covers a (Pure.pure r : Visit α) [] := by
  intro s _
  exact ⟨r, s, outcome_pure r s, fun k hk => .inl hk⟩

lemma complain (range : Span) (reason : String) : Covers a (Visit.complain range reason) [] := by
  intro s _
  exact ⟨_, _, outcome_complain range reason s, fun k hk => .inl hk⟩

lemma get : Covers a (MonadState.get : Visit Traversal) [] := by
  intro s _
  exact ⟨s, s, outcome_get s, fun k hk => .inl hk⟩

lemma note (e : Event) : Covers a (Visit.note e) [] := by
  intro s _
  exact ⟨_, _, outcome_note e s, fun k hk => .inl hk⟩

/-- A footprint may be given by nodes further up. -/
lemma above (hx : Covers a x ms) (h : ∀ m ∈ ms, ∃ n ∈ ns, a.Reaches n m) : Covers a x ns := by
  intro s hs
  have hfresh : ∀ m ∈ ms, Fresh a m s := by
    intro m hm k hk
    obtain ⟨n, hn, hnm⟩ := h m hm
    exact hs n hn k (hnm.trans hk)
  obtain ⟨r, t, hr, ht⟩ := hx s hfresh
  refine ⟨r, t, hr, fun k hk => ?_⟩
  rcases ht k hk with hk | ⟨m, hm, hmk⟩
  · exact .inl hk
  · obtain ⟨n, hn, hnm⟩ := h m hm
    exact .inr ⟨n, hn, hnm.trans hmk⟩

lemma mono (hx : Covers a x ms) (h : ms ⊆ ns) : Covers a x ns :=
  hx.above fun m hm => ⟨m, h hm, .refl m⟩

/-- Visits whose footprints are apart may come one after the other. -/
lemma bind (hx : Covers a x ms) (hf : ∀ r, Covers a (f r) ns)
    (h : ∀ m ∈ ms, ∀ n ∈ ns, a.Apart m n) : Covers a (x >>= f) (ms ++ ns) := by
  intro s hs
  obtain ⟨r, t, hr, ht⟩ := hx s fun m hm => hs m (List.mem_append_left ns hm)
  have hfresh : ∀ n ∈ ns, Fresh a n t := by
    intro n hn k hnk hk
    rcases ht k hk with hk | ⟨m, hm, hmk⟩
    · exact hs n (List.mem_append_right ms hn) k hnk hk
    · exact h m hm n hn k hmk hnk
  -- Nothing below `ns` was visited on the way to `t`, so the second visit starts fresh as well.
  obtain ⟨r', u, hr', hu⟩ := hf r t hfresh
  refine ⟨r', u, (outcome_bind_of_ok hr).trans hr', fun k hk => ?_⟩
  rcases hu k hk with hk | ⟨n, hn, hnk⟩
  · rcases ht k hk with hk | ⟨m, hm, hmk⟩
    · exact .inl hk
    · exact .inr ⟨m, List.mem_append_left ns hm, hmk⟩
  · exact .inr ⟨n, List.mem_append_right ms hn, hnk⟩

/-- What comes first visits nothing. -/
lemma after (hx : Covers a x []) (hf : ∀ r, Covers a (f r) ns) : Covers a (x >>= f) ns :=
  hx.bind hf (by simp)

/-- What follows visits nothing. -/
lemma bind_rest (hx : Covers a x ms) (hf : ∀ r, Covers a (f r) []) : Covers a (x >>= f) ms := by
  simpa using hx.bind hf (by simp)

lemma map (hx : Covers a x ms) (g : α → β) : Covers a (do return g (← x)) ms :=
  hx.bind_rest fun r => pure (g r)

end Covers

variable {ctx : Context} {visit : Visitor} {n : NodeId}

lemma covers_complaint (a : Arena) (reason : String) :
    Covers a (do return some (← complaint ctx n reason)) [] :=
  (Covers.complain _ _).bind_rest fun _ => .pure _

/-! ### Visiting several nodes and values -/

section Several

variable {a : Arena} {ns : List NodeId}

lemma covers_all (hv : ∀ m ∈ ns, Covers a (visit m) [m]) (ha : ns.Pairwise a.Apart) :
    Covers a (all visit ns) ns := by
  induction ns with
  | nil => exact .pure _
  | cons m ns ih =>
    obtain ⟨hm, ha⟩ := List.pairwise_cons.1 ha
    refine Covers.bind (hv m List.mem_cons_self) (fun fs => ?_) (by simpa using hm)
    exact (ih (fun k hk => hv k (List.mem_cons_of_mem m hk)) ha).map _

lemma covers_optional {o : Option NodeId} (hv : ∀ m ∈ o, Covers a (visit m) [m]) :
    Covers a (optional visit o) o.toList := by
  cases o with
  | none => exact .pure _
  | some m => exact hv m rfl

lemma covers_value {m : NodeId} (hv : Covers a (visit m) [m]) :
    Covers a (value ctx visit m) [m] := by
  refine hv.bind_rest fun fs => ?_
  dsimp only
  split
  · exact .pure _
  · exact .pure _
  · exact .pure _
  · exact (Covers.complain _ _).bind_rest fun _ => .pure _
  · exact .pure _

lemma covers_values (hv : ∀ m ∈ ns, Covers a (visit m) [m]) (ha : ns.Pairwise a.Apart) :
    Covers a (values ctx visit ns) ns := by
  induction ns with
  | nil => exact .pure _
  | cons m ns ih =>
    obtain ⟨hm, ha⟩ := List.pairwise_cons.1 ha
    refine Covers.bind (covers_value (hv m List.mem_cons_self)) (fun v => ?_) (by simpa using hm)
    exact (ih (fun k hk => hv k (List.mem_cons_of_mem m hk)) ha).map _

lemma covers_parameters (ps : List NodeId) : Covers a (parameters ctx ps) [] := by
  induction ps with
  | nil => exact .pure _
  | cons p ps ih =>
    rw [parameters]
    split
    · exact ih.bind_rest fun o => by cases o <;> exact .pure _
    · exact (Covers.complain _ _).bind_rest fun _ => ih.bind_rest fun o => by
        cases o <;> exact .pure _

/-- The visit that a value goes on to is the only one after its outcome. -/
lemma covers_ofOutcome {f : α → Visit (Option Fragment)} {ms : List NodeId}
    (hf : ∀ r, Covers a (f r) ms) (o : Outcome α) : Covers a (ofOutcome ctx n f o) ms := by
  cases o with
  | value r => exact hf r
  | complaints cs => exact (Covers.pure _).mono (by simp)

end Several

/-! ### Handlers -/

/-- A node whose parts can be visited: the subtrees of its children are apart, and whatever lies in
them can be visited. -/
structure Ready (ctx : Context) (visit : Visitor) (n : NodeId) : Prop where
  apart : (ctx.arena.children n).Pairwise ctx.arena.Apart
  covers : ∀ c ∈ ctx.arena.children n, ∀ m, ctx.arena.Reaches c m →
    Covers ctx.arena (visit m) [m]

namespace Ready

variable (h : Ready ctx visit n)
include h

lemma child {m : NodeId} (hm : m ∈ ctx.arena.children n) : Covers ctx.arena (visit m) [m] :=
  h.covers m hm m (.refl m)

lemma all {ms : List NodeId} (hs : ms.Sublist (ctx.arena.children n)) :
    Covers ctx.arena (Visit.all visit ms) (ctx.arena.children n) :=
  (covers_all (fun _ hm => h.child (hs.subset hm)) (h.apart.sublist hs)).mono hs.subset

lemma optional {o : Option NodeId} (hs : o.toList.Sublist (ctx.arena.children n)) :
    Covers ctx.arena (Visit.optional visit o) (ctx.arena.children n) :=
  (covers_optional fun _ hm => h.child (hs.subset (Option.mem_toList.2 hm))).mono hs.subset

lemma value {m : NodeId} (hm : m ∈ ctx.arena.children n) :
    Covers ctx.arena (Visit.value ctx visit m) (ctx.arena.children n) :=
  (covers_value (h.child hm)).mono (by simpa using hm)

lemma values {ms : List NodeId} (hs : ms.Sublist (ctx.arena.children n)) :
    Covers ctx.arena (Visit.values ctx visit ms) (ctx.arena.children n) :=
  (covers_values (fun _ hm => h.child (hs.subset hm)) (h.apart.sublist hs)).mono hs.subset

/-! #### Expressions -/

lemma binary {d : Payload.Binary} (hd : ctx.arena.payload? n = some (.binary d)) :
    Covers ctx.arena (Visit.binary ctx visit n) (ctx.arena.children n) := by
  have hget : ctx.arena.binary? n = some d := Arena.holds?_eq_some_iff.2 hd
  have hs : [d.left, d.right].Sublist (ctx.arena.children n) := by
    rw [Arena.children_of_payload? hd]
    exact List.Sublist.refl _
  rw [Visit.binary, hget, need_some]
  split
  · exact (covers_complaint _ _).mono (by simp)
  · exact (h.values hs).bind_rest fun o => covers_ofOutcome (fun _ => .pure _) o

omit h in
lemma unary {d : Payload.Unary} (hd : ctx.arena.payload? n = some (.unary d)) :
    Covers ctx.arena (Visit.unary ctx n) [] := by
  have hget : ctx.arena.unary? n = some d := Arena.holds?_eq_some_iff.2 hd
  rw [Visit.unary, hget, need_some]
  split
  · exact .pure _
  · exact .pure _

/-- Only one of the two ways to write a call visits its arguments: a call that is not one of a
string method is given up before anything is visited. -/
lemma call {d : Payload.Call} (hd : ctx.arena.payload? n = some (.call d)) :
    Covers ctx.arena (Visit.call ctx visit n) (ctx.arena.children n) := by
  have hget : ctx.arena.call? n = some d := Arena.holds?_eq_some_iff.2 hd
  have hs : d.arguments.Sublist (ctx.arena.children n) := by
    rw [Arena.children_of_payload? hd]
    exact List.sublist_append_right _ _
  have hgeneric : Covers ctx.arena (genericCall ctx visit n) (ctx.arena.children n) := by
    rw [genericCall, hget, need_some]
    exact (h.values hs).bind_rest fun o => covers_ofOutcome (fun _ => .pure _) o
  unfold Visit.call stringMember
  cases hcall : stringCall? ctx n with
  | none => exact hgeneric
  | some r =>
    have hr : r.1 = d := by
      simp only [stringCall?, hget, Option.bind_eq_bind, Option.bind_some,
        Option.bind_eq_some_iff] at hcall
      obtain ⟨access, -, command, -, hcall⟩ := hcall
      split_ifs at hcall
      exact (congrArg Prod.fst (Option.some.inj hcall)).symm
    dsimp only
    rw [hr, bind_assoc]
    -- Whatever the values come to, there is a fragment, and the call is not visited again.
    exact (h.values hs).bind_rest fun o => by cases o <;> exact .pure _

/-! #### Declarations -/

lemma class_ {d : Payload.Class} (hd : ctx.arena.payload? n = some (.class_ d)) :
    Covers ctx.arena (Visit.class_ ctx visit n) (ctx.arena.children n) := by
  have hget : ctx.arena.class? n = some d := Arena.holds?_eq_some_iff.2 hd
  have hs : d.members.Sublist (ctx.arena.children n) := by
    rw [Arena.children_of_payload? hd]
    exact List.sublist_append_right _ _
  rw [Visit.class_, hget, need_some]
  split
  · exact (Covers.pure _).mono (by simp)
  · exact (h.all hs).bind_rest fun _ => .pure _

lemma interface {d : Payload.Interface} (hd : ctx.arena.payload? n = some (.interface d)) :
    Covers ctx.arena (Visit.interface ctx visit n) (ctx.arena.children n) := by
  have hget : ctx.arena.interface? n = some d := Arena.holds?_eq_some_iff.2 hd
  have hs : d.members.Sublist (ctx.arena.children n) := by
    rw [Arena.children_of_payload? hd]
    exact List.sublist_append_right _ _
  rw [Visit.interface, hget, need_some]
  exact (h.all hs).bind_rest fun _ => .pure _

omit h in
lemma methodSignature {d : Payload.Function} (hd : ctx.arena.payload? n = some (.function d)) :
    Covers ctx.arena (Visit.methodSignature ctx n) [] := by
  have hget : ctx.arena.function? n = some d := Arena.holds?_eq_some_iff.2 hd
  rw [Visit.methodSignature, hget, need_some]
  dsimp only
  split
  · exact covers_complaint _ _
  · exact (covers_parameters _).bind_rest fun o => covers_ofOutcome (fun _ => .pure _) o

/-- The body of a function is visited after its parameters are named. -/
lemma function {d : Payload.Function} (hd : ctx.arena.payload? n = some (.function d))
    (g : List Argument → List Fragment → Fragment) :
    Covers ctx.arena (do
      ofOutcome ctx n (fun params => do return some (g params (← Visit.optional visit d.body)))
        (← parameters ctx d.parameters)) (ctx.arena.children n) := by
  have hs : d.body.toList.Sublist (ctx.arena.children n) := by
    rw [Arena.children_of_payload? hd]
    exact List.sublist_append_right _ _
  exact (covers_parameters d.parameters).after fun o =>
    covers_ofOutcome (fun params => (h.optional hs).map _) o

lemma method {d : Payload.Function} (hd : ctx.arena.payload? n = some (.function d))
    (hname : d.name.isSome) :
    Covers ctx.arena (Visit.method ctx visit n) (ctx.arena.children n) := by
  have hget : ctx.arena.function? n = some d := Arena.holds?_eq_some_iff.2 hd
  obtain ⟨name, hname⟩ := Option.isSome_iff_exists.1 hname
  rw [Visit.method, hget, need_some, hname, Option.map_some, need_some]
  split
  · exact (covers_complaint _ _).mono (by simp)
  · exact h.function hd _

lemma constructor {d : Payload.Function} (hd : ctx.arena.payload? n = some (.function d)) :
    Covers ctx.arena (Visit.constructor ctx visit n) (ctx.arena.children n) := by
  have hget : ctx.arena.function? n = some d := Arena.holds?_eq_some_iff.2 hd
  rw [Visit.constructor, hget, need_some]
  split
  · exact (covers_complaint _ _).mono (by simp)
  · exact h.function hd _

lemma initialized {d : Payload.ValueDecl} (hd : ctx.arena.payload? n = some (.valueDecl d))
    (head : Command) :
    Covers ctx.arena (Visit.initialized ctx visit n head d.initializer)
      (ctx.arena.children n) := by
  cases hi : d.initializer with
  | none => exact (Covers.pure _).mono (by simp)
  | some m =>
    have hm : m ∈ ctx.arena.children n := by
      rw [Arena.children_of_payload? hd]
      simp [Payload.children, hi]
    exact (h.value hm).bind_rest fun o => covers_ofOutcome (fun _ => .pure _) o

lemma property {d : Payload.ValueDecl} (hd : ctx.arena.payload? n = some (.valueDecl d)) :
    Covers ctx.arena (Visit.property ctx visit n) (ctx.arena.children n) := by
  have hget : ctx.arena.valueDecl? n = some d := Arena.holds?_eq_some_iff.2 hd
  rw [Visit.property, hget, need_some]
  exact h.initialized hd _

lemma variableDeclaration {d : Payload.ValueDecl}
    (hd : ctx.arena.payload? n = some (.valueDecl d)) :
    Covers ctx.arena (Visit.variableDeclaration ctx visit n) (ctx.arena.children n) := by
  have hget : ctx.arena.valueDecl? n = some d := Arena.holds?_eq_some_iff.2 hd
  rw [Visit.variableDeclaration, hget, need_some]
  dsimp only
  split
  · exact (covers_complaint _ _).mono (by simp)
  · exact h.initialized hd _

/-! #### Statements -/

lemma returnStatement :
    Covers ctx.arena (Visit.returnStatement ctx visit n) (ctx.arena.children n) := by
  unfold Visit.returnStatement
  cases hw : ctx.arena.wrapped? n with
  | none => exact (Covers.pure _).mono (by simp)
  | some m =>
    have hm : m ∈ ctx.arena.children n := by simp [Arena.children_of_wrapped? hw]
    exact (h.value hm).bind_rest fun o => covers_ofOutcome (fun _ => .pure _) o

/-- The start, the stop and the body of a loop lie below different children. -/
lemma loop_parts {d : Payload.Loop} (hd : ctx.arena.payload? n = some (.loop d))
    {loop : CountingLoop} {name : String} (hl : Counts ctx.arena d loop name) :
    [loop.start, loop.stop, d.statement].Pairwise ctx.arena.Apart ∧
      ∀ m ∈ [loop.start, loop.stop, d.statement],
        ∃ c ∈ ctx.arena.children n, ctx.arena.Reaches c m := by
  obtain ⟨i, hi, hstart⟩ := hl.reaches_start
  obtain ⟨c, hcond, hstop⟩ := hl.reaches_stop
  -- The increment is a child too, but nothing in it is visited.
  have hs : [i, c, d.statement].Sublist (ctx.arena.children n) := by
    rw [Arena.children_of_payload? hd]
    simp [Payload.children, hi, hcond]
  have hap := h.apart.sublist hs
  simp only [List.pairwise_cons, List.mem_cons, List.not_mem_nil, or_false, forall_eq_or_imp,
    forall_eq] at hap
  obtain ⟨⟨hic, his⟩, hcs, -⟩ := hap
  have hrefl := Arena.Reaches.refl (a := ctx.arena) d.statement
  constructor
  · simp only [List.pairwise_cons, List.mem_cons, List.not_mem_nil, or_false, forall_eq_or_imp,
      forall_eq, List.Pairwise.nil, and_true, IsEmpty.forall_iff, implies_true]
    exact ⟨⟨hic.mono hstart hstop, his.mono hstart hrefl⟩, hcs.mono hstop hrefl⟩
  · simp only [List.mem_cons, List.not_mem_nil, or_false, forall_eq_or_imp, forall_eq]
    exact ⟨⟨i, hs.subset (by simp), hstart⟩, ⟨c, hs.subset (by simp), hstop⟩,
      ⟨d.statement, hs.subset (by simp), hrefl⟩⟩

lemma forStatement {d : Payload.Loop} (hd : ctx.arena.payload? n = some (.loop d)) :
    Covers ctx.arena (Visit.forStatement ctx visit n) (ctx.arena.children n) := by
  have hget : ctx.arena.loop? n = some d := Arena.holds?_eq_some_iff.2 hd
  rw [Visit.forStatement, hget, need_some]
  cases hloop : countingLoop? ctx.arena d with
  | none => exact (covers_complaint _ _).mono (by simp)
  | some loop =>
    dsimp only
    split
    · exact (covers_complaint _ _).mono (by simp)
    · obtain ⟨name, hcounts⟩ := exists_counts hloop
      obtain ⟨hap, hbelow⟩ := h.loop_parts hd hcounts
      have hv : ∀ m ∈ [loop.start, loop.stop, d.statement], Covers ctx.arena (visit m) [m] := by
        intro m hm
        obtain ⟨c, hc, hcm⟩ := hbelow m hm
        exact h.covers c hc m hcm
      rw [show [loop.start, loop.stop, d.statement] = [loop.start, loop.stop] ++ [d.statement]
        from rfl, List.pairwise_append] at hap
      obtain ⟨hbounds, -, hbody⟩ := hap
      refine Covers.above (Covers.bind (covers_values (fun m hm => hv m ?_) hbounds)
        (fun o => covers_ofOutcome (fun _ => (hv d.statement (by simp)).map _) o) hbody) hbelow
      exact List.mem_append_left [d.statement] hm

end Ready

/-! ### Chains of if statements -/

/-- What a link of a chain visits. -/
def linkParts (a : Arena) (l : NodeId) : List NodeId :=
  match a.conditional? l with
  | some d => [d.condition, d.thenStatement]
  | none => []

/-- What a chain visits, in order. -/
def chainParts (a : Arena) (c : IfChain) : List NodeId :=
  c.links.flatMap (linkParts a) ++ c.otherwise.toList

section Chains

variable {a : Arena}

/-- A chain is one link; or a link with an else branch that is no if statement; or a link before
the chain that begins at its else branch. -/
lemma chainWithin_succ (a : Arena) (fuel : Nat) (m : NodeId) :
    chainWithin a (fuel + 1) m = ⟨[m], none⟩ ∨
    ∃ d next, a.conditional? m = some d ∧ d.elseStatement = some next ∧
      (chainWithin a (fuel + 1) m = ⟨[m], some next⟩ ∨
        a.kind? next = some .ifStatement ∧
          chainWithin a (fuel + 1) m =
            ⟨m :: (chainWithin a fuel next).links, (chainWithin a fuel next).otherwise⟩) := by
  rw [chainWithin]
  cases hnext : (a.conditional? m).bind Payload.Conditional.elseStatement with
  | none => exact .inl rfl
  | some next =>
    obtain ⟨d, hd, he⟩ := Option.bind_eq_some_iff.1 hnext
    refine .inr ⟨d, next, hd, he, ?_⟩
    dsimp only
    split
    · rename_i hk
      exact .inr ⟨hk, rfl⟩
    · exact .inl rfl

/-- The children of a link are what it visits and its else branch. -/
lemma children_of_link {l : NodeId} {d : Payload.Conditional} (hd : a.conditional? l = some d) :
    a.children l = linkParts a l ++ d.elseStatement.toList := by
  rw [Arena.children_of_conditional? hd, linkParts, hd]
  rfl

lemma sublist_linkParts (a : Arena) (l : NodeId) : (linkParts a l).Sublist (a.children l) := by
  cases hd : a.conditional? l with
  | none => simp [linkParts, hd]
  | some d =>
    rw [children_of_link hd]
    exact List.sublist_append_left _ _

lemma child_of_elseStatement {l next : NodeId} {d : Payload.Conditional}
    (hd : a.conditional? l = some d) (he : d.elseStatement = some next) : a.Child l next := by
  rw [Arena.Child, children_of_link hd, he]
  simp

/-- What a chain visits: the parts of its first link, and then nothing, the else branch, or what
the chain at the else branch visits. -/
lemma chainParts_succ (a : Arena) (fuel : Nat) (l : NodeId) :
    chainParts a (chainWithin a (fuel + 1) l) = linkParts a l ∨
    ∃ d next rest, a.conditional? l = some d ∧ d.elseStatement = some next ∧
      (rest = [next] ∨ rest = chainParts a (chainWithin a fuel next)) ∧
      chainParts a (chainWithin a (fuel + 1) l) = linkParts a l ++ rest := by
  rcases chainWithin_succ a fuel l with hc | ⟨d, next, hd, he, hc | ⟨-, hc⟩⟩
  · exact .inl (by simp [hc, chainParts])
  · exact .inr ⟨d, next, [next], hd, he, .inl rfl, by simp [hc, chainParts]⟩
  · exact .inr ⟨d, next, _, hd, he, .inr rfl, by simp [hc, chainParts]⟩

/-- Whatever a chain visits lies below a child of the node where it begins. -/
lemma exists_child_of_mem_chainParts {fuel : Nat} {l m : NodeId}
    (h : m ∈ chainParts a (chainWithin a fuel l)) : ∃ c, a.Child l c ∧ a.Reaches c m := by
  induction fuel generalizing l with
  | zero => simp [chainParts, chainWithin] at h
  | succ fuel ih =>
    rcases chainParts_succ a fuel l with hp | ⟨d, next, rest, hd, he, hrest, hp⟩
    · exact ⟨m, (sublist_linkParts a l).subset (hp ▸ h), .refl m⟩
    · rcases List.mem_append.1 (hp ▸ h) with h | h
      · exact ⟨m, (sublist_linkParts a l).subset h, .refl m⟩
      · refine ⟨next, child_of_elseStatement hd he, ?_⟩
        rcases hrest with rfl | rfl
        · exact List.mem_singleton.1 h ▸ .refl m
        · obtain ⟨c, hnc, hcm⟩ := ih h
          exact (Arena.Reaches.of_child hnc).trans hcm

/-- The parts that a chain visits are apart from each other. -/
lemma pairwise_chainParts {root : NodeId} (ht : a.IsTree root) {fuel : Nat} {l : NodeId}
    (hl : a.Reaches root l) : (chainParts a (chainWithin a fuel l)).Pairwise a.Apart := by
  induction fuel generalizing l with
  | zero => simp [chainParts, chainWithin]
  | succ fuel ih =>
    have hlink : (linkParts a l).Pairwise a.Apart :=
      (ht.pairwise_apart hl).sublist (sublist_linkParts a l)
    rcases chainParts_succ a fuel l with hp | ⟨d, next, rest, hd, he, hrest, hp⟩
    · rw [hp]
      exact hlink
    · have hnext := hl.child (child_of_elseStatement hd he)
      have hbelow : ∀ m ∈ rest, a.Reaches next m := by
        intro m hm
        rcases hrest with rfl | rfl
        · exact List.mem_singleton.1 hm ▸ .refl m
        · obtain ⟨c, hnc, hcm⟩ := exists_child_of_mem_chainParts hm
          exact (Arena.Reaches.of_child hnc).trans hcm
      -- What comes after the first link lies below its else branch, a sibling of its parts.
      rw [hp, List.pairwise_append]
      refine ⟨hlink, ?_, ?_⟩
      · rcases hrest with rfl | rfl
        · exact List.pairwise_singleton _ _
        · exact ih hnext
      · intro x hx y hy
        have hxn : a.Apart x next := by
          have hap := ht.pairwise_apart hl
          rw [children_of_link hd, he, List.pairwise_append] at hap
          exact hap.2.2 x hx next (by simp)
        exact hxn.mono (.refl x) (hbelow y hy)

/-- Every link of a chain is an if statement, when the first one is and all nodes of that kind
are. -/
lemma exists_conditional_of_mem_links {root : NodeId} (hk : ∀ m, a.Reaches root m →
      a.kind? m = some .ifStatement → ∃ d, a.conditional? m = some d)
    {fuel : Nat} {l : NodeId} (hl : a.Reaches root l) (hd : ∃ d, a.conditional? l = some d) :
    ∀ m ∈ (chainWithin a fuel l).links, ∃ d, a.conditional? m = some d := by
  induction fuel generalizing l with
  | zero => simp [chainWithin]
  | succ fuel ih =>
    rcases chainWithin_succ a fuel l with hc | ⟨d, next, hd', he, hc | ⟨hkind, hc⟩⟩
    · simpa [hc] using hd
    · simpa [hc] using hd
    · have hnext := hl.child (child_of_elseStatement hd' he)
      rw [hc, List.forall_mem_cons]
      exact ⟨hd, ih hnext (hk next hnext hkind)⟩

lemma covers_branch {start : String} {l : NodeId} {d : Payload.Conditional}
    (hd : ctx.arena.conditional? l = some d)
    (hv : ∀ m ∈ linkParts ctx.arena l, Covers ctx.arena (visit m) [m])
    (ha : (linkParts ctx.arena l).Pairwise ctx.arena.Apart) :
    Covers ctx.arena (branch ctx visit start l) (linkParts ctx.arena l) := by
  have hparts : linkParts ctx.arena l = [d.condition] ++ [d.thenStatement] := by
    simp [linkParts, hd]
  rw [hparts] at hv ha ⊢
  rw [branch, hd, need_some]
  refine Covers.bind (covers_value (hv _ (by simp))) (fun o => ?_) (List.pairwise_append.1 ha).2.2
  exact (hv _ (by simp)).bind_rest fun fs => by cases o <;> exact .pure _

lemma covers_branches {start : String} {ls : List NodeId}
    (hd : ∀ l ∈ ls, ∃ d, ctx.arena.conditional? l = some d)
    (hv : ∀ m ∈ ls.flatMap (linkParts ctx.arena), Covers ctx.arena (visit m) [m])
    (ha : (ls.flatMap (linkParts ctx.arena)).Pairwise ctx.arena.Apart) :
    Covers ctx.arena (branches ctx visit start ls) (ls.flatMap (linkParts ctx.arena)) := by
  induction ls generalizing start with
  | nil => exact .pure _
  | cons l ls ih =>
    obtain ⟨⟨d, hl⟩, hd⟩ := List.forall_mem_cons.1 hd
    rw [List.flatMap_cons] at hv ha ⊢
    obtain ⟨hal, hals, hapart⟩ := List.pairwise_append.1 ha
    refine (covers_branch hl (fun m hm => hv m (List.mem_append_left _ hm)) hal).bind
      (fun b => ?_) hapart
    exact (ih hd (fun m hm => hv m (List.mem_append_right _ hm)) hals).map _

lemma covers_elseBranch {o : Option NodeId} (hv : ∀ m ∈ o, Covers a (visit m) [m]) :
    Covers a (elseBranch visit o) o.toList := by
  cases o with
  | none => exact .pure _
  | some m => exact (hv m rfl).map _

end Chains

lemma Ready.ifStatement (h : Ready ctx visit n) {root : NodeId} (ht : ctx.arena.IsTree root)
    (hn : ctx.arena.Reaches root n)
    (hk : ∀ m, ctx.arena.Reaches root m → ctx.arena.kind? m = some .ifStatement →
      ∃ d, ctx.arena.conditional? m = some d)
    (hd : ∃ d, ctx.arena.conditional? n = some d) :
    Covers ctx.arena (Visit.ifStatement ctx visit n) (ctx.arena.children n) := by
  have hap : (chainParts ctx.arena (chain ctx.arena n)).Pairwise ctx.arena.Apart :=
    pairwise_chainParts ht hn
  have hbelow : ∀ m ∈ chainParts ctx.arena (chain ctx.arena n),
      ∃ c ∈ ctx.arena.children n, ctx.arena.Reaches c m :=
    fun m hm => exists_child_of_mem_chainParts hm
  have hv : ∀ m ∈ chainParts ctx.arena (chain ctx.arena n), Covers ctx.arena (visit m) [m] := by
    intro m hm
    obtain ⟨c, hc, hcm⟩ := hbelow m hm
    exact h.covers c hc m hcm
  obtain ⟨hlinks, -, hboth⟩ := List.pairwise_append.1 hap
  -- The parts of a chain lie at any depth below the node, so the footprint is widened at the end.
  refine Covers.above (Covers.bind (covers_branches (exists_conditional_of_mem_links hk hn hd)
    (fun m hm => hv m (List.mem_append_left _ hm)) hlinks) (fun b => ?_) hboth) hbelow
  refine (covers_elseBranch fun m hm => hv m ?_).bind_rest fun out => ?_
  · exact List.mem_append_right _ (Option.mem_toList.2 hm)
  · dsimp only
    split <;> exact .pure _

end Visit

end Gls
