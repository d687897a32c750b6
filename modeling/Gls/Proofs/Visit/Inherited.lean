/-
# Properties that visits inherit

A node is visited by small steps, put one after the other: results, complaints, errors about what is
missing, and the visits of its parts.  So a property of such steps that carries over to compound
visits belongs to the visit of a node as soon as it belongs to the visits of its parts.  This file
follows the way from the parts to the node once, whatever the property is.
-/
import Gls.Proofs.Visit.Parts

namespace Gls.Visit

/-- A property that results, complaints and errors about what is missing have, and that carries over
to compound visits. -/
structure Inherited (P : ∀ ⦃α : Type⦄, Visit α → Prop) : Prop where
  pure : ∀ {α : Type} (r : α), P (Pure.pure r : Visit α)
  missing : ∀ {α : Type} (ctx : Context) (n : NodeId) (what : String),
    P (throw (missing ctx n what) : Visit α)
  complain : ∀ (range : Span) (reason : String), P (Visit.complain range reason)
  bind : ∀ {α β : Type} {x : Visit α} {f : α → Visit β}, P x → (∀ r, P (f r)) → P (x >>= f)

namespace Inherited

variable {P : ∀ ⦃α : Type⦄, Visit α → Prop} (hP : Inherited P)
variable {α β : Type} {ctx : Context} {visit : Visitor} {n : NodeId}
include hP

lemma map {x : Visit α} (hx : P x) (g : α → β) : P (do return g (← x)) :=
  hP.bind hx fun r => hP.pure (g r)

lemma complaint (reason : String) : P (complaint ctx n reason) := hP.map (hP.complain _ _) _

lemma parameters (ps : List NodeId) : P (parameters ctx ps) := by
  induction ps with
  | nil => exact hP.pure _
  | cons p ps ih =>
    rw [Visit.parameters]
    split
    · exact hP.bind ih fun o => by cases o <;> exact hP.pure _
    · exact hP.bind (hP.complain _ _) fun _ => hP.bind ih fun o => by cases o <;> exact hP.pure _

lemma ofOutcome {f : α → Visit (Option Fragment)} (hf : ∀ r, P (f r)) (o : Outcome α) :
    P (ofOutcome ctx n f o) := by
  cases o with
  | value r => exact hf r
  | complaints cs => exact hP.pure _

lemma all {ms : List NodeId} (hv : ∀ m ∈ ms, P (visit m)) : P (all visit ms) := by
  induction ms with
  | nil => exact hP.pure _
  | cons m ms ih =>
    obtain ⟨hm, hms⟩ := List.forall_mem_cons.1 hv
    exact hP.bind hm fun fs => hP.map (ih hms) _

lemma value {m : NodeId} (hv : P (visit m)) : P (value ctx visit m) := by
  refine hP.bind hv fun fs => ?_
  dsimp only
  split
  · exact hP.pure _
  · exact hP.pure _
  · exact hP.pure _
  · exact hP.map (hP.complain _ _) _
  · exact hP.pure _

lemma values {ms : List NodeId} (hv : ∀ m ∈ ms, P (visit m)) : P (values ctx visit ms) := by
  induction ms with
  | nil => exact hP.pure _
  | cons m ms ih =>
    obtain ⟨hm, hms⟩ := List.forall_mem_cons.1 hv
    exact hP.bind (hP.value hm) fun v => hP.map (ih hms) _

lemma gather {inputs : Inputs} (hv : ∀ m ∈ inputs.parts, P (visit m)) :
    P (gather ctx visit inputs) := by
  cases inputs with
  | values ns => exact hP.values hv
  | parameters ps => exact hP.parameters ps

lemma branch {start : String} {l : NodeId} (hv : ∀ m ∈ linkParts ctx.arena l, P (visit m)) :
    P (branch ctx visit start l) := by
  unfold Visit.branch
  unfold linkParts at hv
  cases hd : ctx.arena.conditional? l with
  | none => exact hP.missing ctx l "if data"
  | some d =>
    rw [hd] at hv
    rw [need_some]
    refine hP.bind (hP.value (hv d.condition (by simp))) fun o => ?_
    refine hP.bind (hv d.thenStatement (by simp)) fun fs => ?_
    cases o <;> exact hP.pure _

lemma branches {start : String} {ls : List NodeId}
    (hv : ∀ m ∈ ls.flatMap (linkParts ctx.arena), P (visit m)) :
    P (branches ctx visit start ls) := by
  induction ls generalizing start with
  | nil => exact hP.pure _
  | cons l ls ih =>
    rw [List.flatMap_cons, List.forall_mem_append] at hv
    exact hP.bind (hP.branch hv.1) fun b => hP.map (ih hv.2) _

lemma elseBranch {o : Option NodeId} (hv : ∀ m ∈ o.toList, P (visit m)) :
    P (elseBranch visit o) := by
  cases o with
  | none => exact hP.pure _
  | some m => exact hP.map (hv m (by simp)) _

lemma ifStatement (hv : ∀ m ∈ chainParts ctx.arena (chain ctx.arena n), P (visit m)) :
    P (ifStatement ctx visit n) := by
  rw [chainParts, List.forall_mem_append] at hv
  refine hP.bind (hP.branches hv.1) fun b => hP.bind (hP.elseBranch hv.2) fun out => ?_
  dsimp only
  split <;> exact hP.pure _

/-- By the form of the plan. -/
lemma carryOut {p : Plan} (hv : ∀ m ∈ p.parts ctx.arena n, P (visit m)) :
    P (carryOut ctx visit n p) := by
  cases p with
  | lack what => exact hP.missing ctx n what
  | nothing => exact hP.pure _
  | complain reason => exact hP.map (hP.complaint reason) _
  | verbatim text => exact hP.pure _
  | line inputs command =>
    exact hP.bind (hP.gather hv) fun o => hP.ofOutcome (fun args => hP.pure _) o
  | block inputs start body stop =>
    rw [Plan.parts, List.forall_mem_append] at hv
    refine hP.bind (hP.gather hv.1) fun o => hP.ofOutcome (fun args => ?_) o
    exact hP.map (hP.all hv.2) _
  | conditional => exact hP.ifStatement hv

/-- A node inherits the property from its parts, whatever its route is. -/
lemma along {route : Route} (hv : ∀ m ∈ routeParts ctx n route, P (visit m)) :
    P (along ctx visit n route) := by
  cases route with
  | handle handler => exact hP.map (hP.carryOut hv) _
  | passThrough => exact hP.all hv
  | skip => exact hP.pure _
  | unmapped =>
    rw [Visit.along]
    split
    · exact hP.map (hP.complaint _) _
    · exact hP.all hv

end Inherited

end Gls.Visit
