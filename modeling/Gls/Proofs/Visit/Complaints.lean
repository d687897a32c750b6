/-
# No complaint is lost

A complaint travels in one of three ways: as a fragment of its own, inside a transformation, or in
the place of a value.  Where it takes the place of a value, the lines of the node are thrown away,
and an if statement even throws away the lines of its branches; the complaints must come through
all the same, each of them once.

`Raises x P` says that, whenever the visit `x` succeeds, its result and the complaints raised on
the way are related by `P`.  The journal of the traversal tells what was raised, so nothing can be
raised without being counted.  The main statement is that the complaints in the fragments of a node
are the complaints raised while it was visited.
-/
import Gls.Proofs.Layout.Fragments
import Gls.Proofs.Visit.Plan
import Mathlib.Algebra.Order.Group.Multiset

namespace Gls

/-! ### What was raised -/

/-- The complaint that an event tells of. -/
def Event.complaint? : Event → Option Complaint
  | .complained c => some c
  | .dispatched _ _ => none

/-- The complaints that some events tell of. -/
def raisedIn (es : List Event) : Multiset Complaint := ↑(es.filterMap Event.complaint?)

lemma raisedIn_append (es ds : List Event) : raisedIn (es ++ ds) = raisedIn es + raisedIn ds := by
  simp [raisedIn]

variable {α β : Type}

/-- The complaints that take the place of a value. -/
def Outcome.found : Outcome α → Multiset Complaint
  | .value _ => 0
  | .complaints cs => ↑cs

namespace Visit

/-- Whenever the visit succeeds, it has only added to the journal, and its result goes with the
complaints that it has raised. -/
def Raises (x : Visit α) (P : α → Multiset Complaint → Prop) : Prop :=
  ∀ ⦃s t : Traversal⦄ ⦃a : α⦄, x.outcome s = (.ok a, t) →
    ∃ es, t.journal = es ++ s.journal ∧ P a (raisedIn es)

namespace Raises

variable {P : α → Multiset Complaint → Prop} {Q : β → Multiset Complaint → Prop}
variable {x : Visit α} {f : α → Visit β}

lemma pure {a : α} (h : P a 0) : Raises (Pure.pure a : Visit α) P := by
  intro s t b hb
  obtain ⟨rfl, rfl⟩ : a = b ∧ s = t := by simpa using hb
  exact ⟨[], rfl, h⟩

lemma throw (e : TransformError) : Raises (throw e : Visit α) P := by
  intro s t a ha
  simp at ha

/-- What two visits raise adds up. -/
lemma bind (hx : Raises x P) (hf : ∀ a cs, P a cs → Raises (f a) fun b ds => Q b (cs + ds)) :
    Raises (x >>= f) Q := by
  intro s u b hb
  obtain ⟨a, t, ha, hb⟩ := outcome_bind_eq_ok.1 hb
  obtain ⟨es, hes, hP⟩ := hx ha
  obtain ⟨ds, hds, hQ⟩ := hf a _ hP hb
  refine ⟨ds ++ es, by rw [hds, hes, List.append_assoc], ?_⟩
  rw [raisedIn_append, add_comm]
  exact hQ

/-- What comes first raises nothing. -/
lemma after (hx : Raises x fun _ cs => cs = 0) (hf : ∀ a, Raises (f a) Q) :
    Raises (x >>= f) Q := by
  refine hx.bind fun a cs hcs => ?_
  simpa only [hcs, zero_add] using hf a

lemma get : Raises (MonadState.get : Visit Traversal) fun _ cs => cs = 0 := by
  intro s t a ha
  obtain ⟨rfl, rfl⟩ : s = a ∧ s = t := by simpa using ha
  exact ⟨[], rfl, rfl⟩

lemma modify (g : Traversal → Traversal) (hg : ∀ s, (g s).journal = s.journal) :
    Raises (MonadState.modifyGet fun s => (PUnit.unit, g s) : Visit PUnit) fun _ cs => cs = 0 := by
  intro s t a ha
  have ht : g s = t := congrArg Prod.snd ha
  exact ⟨[], by rw [← ht, hg, List.nil_append], rfl⟩

lemma note (e : Event) : Raises (Visit.note e) fun _ cs => cs = raisedIn [e] := by
  intro s t a ha
  obtain rfl : { s with journal := e :: s.journal } = t := by simpa using ha
  exact ⟨[e], rfl, rfl⟩

lemma complain (range : Span) (reason : String) :
    Raises (Visit.complain range reason) fun c cs => cs = {c} :=
  (note _).bind fun _ _ hcs => .pure (by rw [hcs, add_zero]; rfl)

lemma need (ctx : Context) (n : NodeId) (what : String) (o : Option α) :
    Raises (Visit.need ctx n what o) fun _ cs => cs = 0 := by
  cases o with
  | some a => exact pure rfl
  | none => exact throw _

lemma deeper (hx : Raises x P) : Raises (Visit.deeper x) P := by
  intro s t a ha
  obtain ⟨u, hu, rfl⟩ := outcome_deeper.1 ha
  obtain ⟨es, hes, hP⟩ := hx hu
  exact ⟨es, hes, hP⟩

end Raises

/-! ### Complaints of results -/

/-- The complaints in fragments. -/
def complaintsOf (fs : List Fragment) : Multiset Complaint := ↑(Program.ofFragments fs).complaints

/-- The complaints in outputs. -/
def complaintsIn (os : List Output) : Multiset Complaint := ↑(Program.ofOutputs os).complaints

lemma complaintsOf_append (fs gs : List Fragment) :
    complaintsOf (fs ++ gs) = complaintsOf fs + complaintsOf gs := by
  simp [complaintsOf, Program.ofFragments_append]

lemma complaintsIn_append (os ps : List Output) :
    complaintsIn (os ++ ps) = complaintsIn os + complaintsIn ps := by
  simp [complaintsIn, Program.ofOutputs_append]

lemma complaintsIn_command (c : Command) (os : List Output) :
    complaintsIn (.command c :: os) = complaintsIn os := by
  simp [complaintsIn, Program.ofOutputs, Program.ofOutput]

lemma complaintsIn_map_complaint (cs : List Complaint) :
    complaintsIn (cs.map .complaint) = ↑cs := by
  rw [complaintsIn, Program.complaints_complaints]

/-- A transformation has the complaints of its outputs. -/
lemma complaintsOf_transformation (range : Span) (os : List Output) :
    complaintsOf [.transformation ⟨range, os⟩] = complaintsIn os := by
  rw [complaintsOf, complaintsIn, Program.complaints_ofFragments_transformation]

/-! ### Visiting several nodes and values -/

variable {ctx : Context} {visit : Visitor} {n : NodeId}

lemma raises_complaint (reason : String) :
    Raises (complaint ctx n reason) fun f cs => cs = complaintsOf [f] :=
  (Raises.complain _ _).bind fun c cs hcs => .pure (by rw [hcs, add_zero]; rfl)

lemma raises_parameters (ps : List NodeId) :
    Raises (parameters ctx ps) fun o cs => cs = o.found := by
  induction ps with
  | nil => exact .pure rfl
  | cons p ps ih =>
    rw [parameters]
    split
    · refine ih.bind fun o cs hcs => ?_
      cases o with
      | value args => exact .pure (by rw [hcs]; rfl)
      | complaints ds => exact .pure (by rw [hcs, add_zero])
    · refine (Raises.complain _ _).bind fun c _ hc => ih.bind fun o cs hcs => ?_
      subst hc hcs
      cases o with
      | value args => exact .pure rfl
      | complaints ds => exact .pure (by rw [add_zero]; rfl)

/-- Complaints in the place of a value are surfaced; a value goes on to the fragment. -/
lemma raises_ofOutcome {f : α → Visit (Option Fragment)}
    (hf : ∀ a, Raises (f a) fun r cs => cs = complaintsOf r.toList) (o : Outcome α) :
    Raises (ofOutcome ctx n f o) fun r cs => o.found + cs = complaintsOf r.toList := by
  cases o with
  | value a =>
    simp only [Outcome.found, zero_add]
    exact hf a
  | complaints cs =>
    refine .pure ?_
    rw [add_zero, Option.toList, surface, complaintsOf_transformation, complaintsIn_map_complaint]
    rfl

section Handlers

variable (hv : ∀ m, Raises (visit m) fun fs cs => cs = complaintsOf fs)
include hv

lemma raises_all (ns : List NodeId) :
    Raises (all visit ns) fun fs cs => cs = complaintsOf fs := by
  induction ns with
  | nil => exact .pure rfl
  | cons m ns ih =>
    refine (hv m).bind fun fs cs hcs => ih.bind fun gs ds hds => .pure ?_
    rw [hcs, hds, add_zero, complaintsOf_append]

/-- A node in value position raises what takes the place of its value: the complaints in its
fragments or, when it has several lines, the one that says so. -/
lemma raises_value (m : NodeId) : Raises (value ctx visit m) fun o cs => cs = o.found := by
  refine (hv m).bind fun fs cs hcs => ?_
  dsimp only
  split
  · rename_i h _
    exact .pure (by rw [hcs, complaintsOf, h]; rfl)
  · rename_i h _
    exact .pure (by rw [hcs, complaintsOf, h]; rfl)
  · rename_i h _
    exact .pure (by rw [hcs, complaintsOf, h]; rfl)
  · rename_i h _ _ _
    refine (Raises.complain _ _).bind fun c ds hds => .pure ?_
    rw [hcs, complaintsOf, h, hds]
    rfl
  · exact .pure (by rw [hcs, add_zero]; rfl)

lemma raises_values (ns : List NodeId) :
    Raises (values ctx visit ns) fun o cs => cs = o.found := by
  induction ns with
  | nil => exact .pure rfl
  | cons m ns ih =>
    refine (raises_value hv m).bind fun v cs hcs => ih.bind fun vs ds hds => .pure ?_
    subst hcs hds
    cases v <;> cases vs <;> simp [consOutcome, Outcome.found]

lemma raises_gather (inputs : Inputs) :
    Raises (gather ctx visit inputs) fun o cs => cs = o.found := by
  cases inputs with
  | values ns => exact raises_values hv ns
  | parameters ps => exact raises_parameters ps

/-! ### If statements -/

/-- The complaints about the condition of a link stand apart from those in its branch. -/
lemma raises_branch (start : String) (m : NodeId) :
    Raises (branch ctx visit start m) fun b cs =>
      cs = ↑b.complaints + complaintsIn b.output := by
  refine Raises.after (Raises.need _ _ _ _) fun d => ?_
  refine (raises_value hv _).bind fun o cs hcs => (hv _).bind fun fs ds hds => ?_
  subst hcs hds
  cases o with
  | value c => exact .pure (by rw [complaintsIn_command, add_zero]; rfl)
  | complaints cs => exact .pure (by rw [add_zero]; rfl)

lemma raises_branches (start : String) (ns : List NodeId) :
    Raises (branches ctx visit start ns) fun b cs =>
      cs = ↑b.complaints + complaintsIn b.output := by
  induction ns generalizing start with
  | nil => exact .pure rfl
  | cons m ns ih =>
    refine (raises_branch hv start m).bind fun a cs hcs => (ih _).bind fun b ds hds => .pure ?_
    rw [hcs, hds, add_zero, Branches.append, complaintsIn_append, ← Multiset.coe_add,
      add_add_add_comm]

lemma raises_elseBranch (o : Option NodeId) :
    Raises (elseBranch visit o) fun out cs => cs = complaintsIn out := by
  cases o with
  | none => exact .pure rfl
  | some m =>
    refine (hv m).bind fun fs cs hcs => .pure ?_
    rw [hcs, add_zero, complaintsIn_command]
    rfl

/-- When a condition complains, the complaints of the branches are taken out of the lines that are
thrown away. -/
lemma raises_ifStatement :
    Raises (ifStatement ctx visit n) fun r cs => cs = complaintsOf r.toList := by
  refine (raises_branches hv _ _).bind fun b cs hcs => ?_
  refine (raises_elseBranch hv _).bind fun out ds hds => ?_
  subst hcs hds
  dsimp only
  split
  · rename_i he
    refine .pure ?_
    rw [add_zero, Option.toList, complaintsOf_transformation, complaintsIn_append,
      complaintsIn_append, List.isEmpty_iff.1 he]
    simp [complaintsIn, Program.ofOutputs, Program.ofOutput]
  · refine .pure ?_
    rw [add_zero, Option.toList, surface, complaintsOf_transformation,
      complaintsIn_map_complaint, ← Multiset.coe_add, add_assoc, ← complaintsIn_append]
    rfl

/-! ### All nodes -/

/-- By the form of the plan. -/
lemma raises_carryOut (p : Plan) :
    Raises (carryOut ctx visit n p) fun r cs => cs = complaintsOf r.toList := by
  cases p with
  | lack what => exact .throw _
  | nothing => exact .pure rfl
  | complain reason =>
    exact (raises_complaint reason).bind fun f cs hcs => .pure (by rw [hcs, add_zero]; rfl)
  | verbatim text => exact .pure rfl
  | line inputs command =>
    refine (raises_gather hv inputs).bind fun o cs hcs => ?_
    rw [hcs]
    exact raises_ofOutcome (fun args => .pure rfl) o
  | block inputs start body stop =>
    refine (raises_gather hv inputs).bind fun o cs hcs => ?_
    rw [hcs]
    refine raises_ofOutcome (fun args => ?_) o
    refine (raises_all hv body).bind fun fs ds hds => .pure ?_
    rw [hds, add_zero, Option.toList, block, complaintsOf_transformation, List.cons_append,
      complaintsIn_command, complaintsIn_append]
    simp [complaintsIn, complaintsOf, Program.ofFragments, Program.ofOutputs, Program.ofOutput]
  | conditional => exact raises_ifStatement hv

lemma raises_dispatch (kind : Kind) :
    Raises (dispatch ctx visit n kind) fun fs cs => cs = complaintsOf fs := by
  refine Raises.get.after fun s => Raises.after (Raises.note _) fun _ => ?_
  split
  · rename_i h _
    have hh : Raises (handle ctx visit n h) fun r cs => cs = complaintsOf r.toList := by
      rw [handle_eq]
      exact raises_carryOut hv _
    exact hh.bind fun r cs hcs => .pure (by rw [hcs, add_zero])
  · exact raises_all hv _
  · exact .pure rfl
  · split
    · exact (raises_complaint _).bind fun f cs hcs => .pure (by rw [hcs, add_zero])
    · exact raises_all hv _

end Handlers

lemma raises_enter (ctx : Context) (n : NodeId) : Raises (enter ctx n) fun _ cs => cs = 0 := by
  unfold enter
  split
  · exact .throw _
  · refine Raises.get.after fun s => ?_
    split
    · exact .throw _
    · refine Raises.after (Raises.modify _ ?_) fun _ => .pure rfl
      exact fun _ => rfl

/-- By induction on the levels left below the node. -/
lemma raises_nodeWithin (ctx : Context) (levels : Nat) (n : NodeId) :
    Raises (nodeWithin ctx levels n) fun fs cs => cs = complaintsOf fs := by
  induction levels generalizing n with
  | zero => exact (raises_enter ctx n).after fun node => Raises.get.after fun s => .throw _
  | succ levels ih =>
    exact (raises_enter ctx n).after fun node => (raises_dispatch ih node.kind).deeper

lemma raises_node (ctx : Context) (n : NodeId) :
    Raises (node ctx n) fun fs cs => cs = complaintsOf fs :=
  Raises.get.after fun _ => raises_nodeWithin ctx _ n

end Visit

/-- When a node comes to fragments, the complaints in them are those that were raised while it was
visited, each as often as it was raised. -/
theorem complaints_eq_raised (ctx : Context) (n : NodeId) (s t : Traversal) (fs : List Fragment)
    (h : (Visit.node ctx n).run s = (.ok fs, t)) :
    ∃ es, t.journal = es ++ s.journal ∧
      ((Program.ofFragments fs).complaints : Multiset Complaint) = raisedIn es := by
  obtain ⟨es, hes, hraised⟩ := Visit.raises_node ctx n h
  exact ⟨es, hes, hraised.symm⟩

/-- An if statement whose condition complains, and whose branch has a call and a loop that
complains: `if (a | b) { f(); for (;;) {} }`. -/
def doubtfulContext : Context where
  tree := {
    arena := {
      sourceText := "if (a | b) \x7b f(); for (;;) \x7b\x7d \x7d"
      nodes := #[
        { kind := .identifier, pos := 4, stop := 5, payload := .identifier "a" },
        { kind := .identifier, pos := 8, stop := 9, payload := .identifier "b" },
        { kind := .binaryExpression, pos := 4, stop := 9,
          payload := .binary ⟨⟨0⟩, .barToken, ⟨1⟩⟩ },
        { kind := .identifier, pos := 13, stop := 14, payload := .identifier "f" },
        { kind := .callExpression, pos := 13, stop := 16, payload := .call ⟨⟨3⟩, [], []⟩ },
        { kind := .block, pos := 27, stop := 29, payload := .list [] },
        { kind := .forStatement, pos := 18, stop := 29, payload := .loop ⟨none, none, none, ⟨5⟩⟩ },
        { kind := .block, pos := 11, stop := 31, payload := .list [⟨4⟩, ⟨6⟩] },
        { kind := .ifStatement, pos := 0, stop := 31,
          payload := .conditional ⟨⟨2⟩, ⟨7⟩, none⟩ }] }
    types := {} }
  usage := {}

/-- The line of the call is thrown away; the complaint of the loop beside it is not. -/
theorem doubtful_complaints_eq_raised :
    ((Visit.node doubtfulContext ⟨8⟩).run {}).1 = .ok [.transformation ⟨⟨0, 31⟩,
        [.complaint ⟨⟨4, 9⟩, "operator '|' is not supported"⟩,
         .complaint ⟨⟨18, 29⟩, "only counting for loops are supported"⟩]⟩] ∧
    ∃ es, ((Visit.node doubtfulContext ⟨8⟩).run {}).2.journal = es ++ [] ∧
      (([⟨⟨4, 9⟩, "operator '|' is not supported"⟩,
        ⟨⟨18, 29⟩, "only counting for loops are supported"⟩] : List Complaint) :
        Multiset Complaint) = raisedIn es := by
  have h : ((Visit.node doubtfulContext ⟨8⟩).run {}).1 = .ok [.transformation ⟨⟨0, 31⟩,
      [.complaint ⟨⟨4, 9⟩, "operator '|' is not supported"⟩,
       .complaint ⟨⟨18, 29⟩, "only counting for loops are supported"⟩]⟩] := rfl
  exact ⟨h, complaints_eq_raised doubtfulContext ⟨8⟩ {} _ _ (Prod.ext h rfl)⟩

end Gls
