/-
# What comes to nothing

Some constructs leave no trace in a program, neither a line nor a complaint: nodes that are skipped,
classes without a name, and nodes that are visited through their children when all the children are
of this sort.  The main statement is that these are all.  So whatever else a tree holds shows in its
program.

The reason is that every plan but one comes to something: a complaint, a line, or complaints in the
place of a value, of which there is at least one.
-/
import Gls.Proofs.Layout.Fragments
import Gls.Proofs.Tree.Codec
import Gls.Proofs.Visit.Plan

namespace Gls

/-- A node that may vanish from the output. -/
inductive Silent (a : Arena) : NodeId → Prop where
  /-- Its kind is skipped. -/
  | skip {n : NodeId} {k : Kind} (hk : a.kind? n = some k) (hr : Route.ofKind k = .skip) :
      Silent a n
  /-- It is a class without a name. -/
  | anonymous {n : NodeId} {d : Payload.Class}
      (hk : a.kind? n = some .classDeclaration ∨ a.kind? n = some .classExpression)
      (hd : a.class? n = some d) (hn : d.name = none) : Silent a n
  /-- Its kind is passed through, and no child comes to anything. -/
  | through {n : NodeId} {k : Kind} (hk : a.kind? n = some k) (hr : Route.ofKind k = .passThrough)
      (hc : ∀ m ∈ a.children n, Silent a m) : Silent a n
  /-- There is no mapping for its kind, but it has children, and no child comes to anything. -/
  | unmapped {n : NodeId} {k : Kind} (hk : a.kind? n = some k) (hr : Route.ofKind k = .unmapped)
      (hne : a.children n ≠ []) (hc : ∀ m ∈ a.children n, Silent a m) : Silent a n

/-- The program of the fragments has neither a line nor a complaint. -/
def Blank (fs : List Fragment) : Prop :=
  (Program.ofFragments fs).lines = [] ∧ (Program.ofFragments fs).complaints = []

lemma blank_nil : Blank [] := ⟨rfl, rfl⟩

lemma blank_append {fs gs : List Fragment} : Blank (fs ++ gs) ↔ Blank fs ∧ Blank gs := by
  simp only [Blank, Program.ofFragments_append, Program.lines_append, Program.complaints_append,
    List.append_eq_nil_iff]
  exact and_and_and_comm

namespace Visit

variable {ctx : Context} {visit : Visitor} {n : NodeId}

/-! ### Fragments that show -/

lemma not_blank_of_lines {fs : List Fragment} {l : Line} {ls : List Line}
    (h : (Program.ofFragments fs).lines = l :: ls) : ¬ Blank fs := by
  rintro ⟨hl, -⟩
  rw [h] at hl
  cases hl

lemma not_blank_complaint (c : Complaint) : ¬ Blank [.complaint c] := by
  rintro ⟨-, hc⟩
  simp [Program.ofFragments, Program.ofOutputs, Program.ofOutput, Fragment.toOutput] at hc

lemma not_blank_line (c : Command) : ¬ Blank [line ctx n c] :=
  not_blank_of_lines rfl

lemma not_blank_verbatim (text : String) : ¬ Blank [verbatim ctx n text] :=
  not_blank_of_lines rfl

lemma not_blank_block (start stop : Command) (body : List Fragment) :
    ¬ Blank [block ctx n start body stop] :=
  not_blank_of_lines (lines_block start stop body)

/-- Complaints that are surfaced show, when there are any. -/
lemma not_blank_surface {cs : List Complaint} (h : cs ≠ []) : ¬ Blank [surface ctx n cs] := by
  obtain ⟨c, cs, rfl⟩ := List.exists_cons_of_ne_nil h
  rintro ⟨-, hc⟩
  simp [surface, Program.ofFragments, Program.ofOutputs, Program.ofOutput,
    Fragment.toOutput] at hc

/-! ### Plans that show -/

/-- There are complaints where a value is missing. -/
def Founded {α : Type} (o : Outcome α) : Prop := ∀ cs, o = .complaints cs → cs ≠ []

lemma ensures_parameters_founded (ps : List NodeId) : Ensures (parameters ctx ps) Founded := by
  induction ps with
  | nil => exact .pure (by simp [Founded])
  | cons p ps ih =>
    rw [parameters]
    split
    · refine ih.bind fun o ho => ?_
      cases o with
      | value args => exact .pure (by simp [Founded])
      | complaints cs => exact .pure (by simpa [Founded] using ho)
    · refine (Ensures.complain _ _).bind fun _ _ => ih.bind fun o _ => ?_
      cases o with
      | value args => exact .pure (by simp [Founded])
      | complaints cs => exact .pure (by simp [Founded])

section Handlers

variable (hv : ∀ m, Ensures (visit m) Tidy)
include hv

lemma ensures_values_founded (ns : List NodeId) : Ensures (values ctx visit ns) Founded := by
  induction ns with
  | nil => exact .pure (by simp [Founded])
  | cons m ns ih =>
    refine (ensures_value hv m).bind fun v hfv => ih.bind fun vs hfs => .pure ?_
    cases v <;> cases vs <;> simp_all [consOutcome, Founded]

lemma ensures_gather_founded (inputs : Inputs) : Ensures (gather ctx visit inputs) Founded := by
  cases inputs with
  | values ns => exact ensures_values_founded hv ns
  | parameters ps => exact ensures_parameters_founded ps

omit hv in
/-- A visit after an outcome shows when it shows for every value. -/
lemma ensures_ofOutcome_shows {α : Type} {f : α → Visit (Option Fragment)}
    (hf : ∀ a, Ensures (f a) fun r => ¬ Blank r.toList) {o : Outcome α} (ho : Founded o) :
    Ensures (ofOutcome ctx n f o) fun r => ¬ Blank r.toList := by
  cases o with
  | value a => exact hf a
  | complaints cs => exact .pure (not_blank_surface (ho cs rfl))

lemma ensures_ifStatement_shows :
    Ensures (ifStatement ctx visit n) fun r => ¬ Blank r.toList := by
  obtain ⟨m, ns, hl⟩ := exists_links_chain ctx.arena n
  unfold ifStatement
  dsimp only
  rw [hl]
  refine (ensures_branches_if hv m ns).bind fun b _ => ?_
  refine (ensures_elseBranch hv _).bind fun out _ => ?_
  split
  · -- The end command is there whatever the branches come to.
    refine .pure fun hb => ?_
    have hlines := hb.1
    rw [Option.toList, Program.lines_ofFragments_transformation, Program.ofOutputs_append,
      Program.lines_append, List.append_eq_nil_iff] at hlines
    simp [Program.ofOutputs, Program.ofOutput] at hlines
  · rename_i he
    refine .pure (not_blank_surface fun h => he ?_)
    rw [(List.append_eq_nil_iff.1 h).1]
    rfl

/-- The only plan that comes to nothing is to do nothing. -/
lemma ensures_carryOut_blank_iff (p : Plan) :
    Ensures (carryOut ctx visit n p) fun r => Blank r.toList ↔ p = .nothing := by
  cases p with
  | lack what => exact .throw (Ensures.missing_ne_indent ctx n what)
  | nothing => exact .pure (iff_of_true blank_nil rfl)
  | complain reason =>
    refine (Ensures.complaint ctx n reason).bind fun _ ⟨c, hc⟩ => .pure ?_
    exact iff_of_false (hc ▸ not_blank_complaint c) (by simp)
  | verbatim text => exact .pure (iff_of_false (not_blank_verbatim text) (by simp))
  | line inputs command =>
    refine (ensures_gather_founded hv inputs).bind fun o ho => ?_
    refine (ensures_ofOutcome_shows (fun args => ?_) ho).mono fun r hr => iff_of_false hr (by simp)
    exact .pure (not_blank_line _)
  | block inputs start body stop =>
    refine (ensures_gather_founded hv inputs).bind fun o ho => ?_
    refine (ensures_ofOutcome_shows (fun args => ?_) ho).mono fun r hr => iff_of_false hr (by simp)
    exact (ensures_all hv body).bind fun fs _ => .pure (not_blank_block _ _ _)
  | conditional =>
    exact (ensures_ifStatement_shows hv).mono fun r hr => iff_of_false hr (by simp)

end Handlers

namespace Plan

lemma need_ne_nothing {α : Type} {what : String} {o : Option α} {f : α → Plan}
    (h : ∀ a, f a ≠ .nothing) : need what o f ≠ .nothing := by
  cases o with
  | none => simp [need]
  | some a => exact h a

lemma withReturnType_ne_nothing {name : String} {f : TypeName → Plan} (h : ∀ t, f t ≠ .nothing) :
    withReturnType ctx n name f ≠ .nothing := by
  unfold withReturnType
  split
  · simp
  · exact h _

lemma ofClass_eq_nothing_iff :
    ofClass ctx n = .nothing ↔ ∃ d, ctx.arena.class? n = some d ∧ d.name = none := by
  unfold ofClass
  cases ctx.arena.class? n with
  | none => simp [need]
  | some d => cases hname : d.name <;> simp [need, hname]

/-- Only a class without a name is given up. -/
lemma of_eq_nothing_iff (h : Handler) :
    of ctx n h = .nothing ↔
      h = .class_ ∧ ∃ d, ctx.arena.class? n = some d ∧ d.name = none := by
  by_cases hc : h = .class_
  · subst hc
    simpa [of] using ofClass_eq_nothing_iff
  refine iff_of_false ?_ fun hd => hc hd.1
  cases h with
  | literalValue => simp [of]
  | stringLiteral => simp [of]
  | binary => exact need_ne_nothing fun d => by split <;> simp
  | unary => exact need_ne_nothing fun d => by split <;> simp
  | call =>
    rw [of, ofCall]
    split
    · simp
    · exact need_ne_nothing fun call => by simp
  | class_ => exact absurd rfl hc
  | interface => exact need_ne_nothing fun d => by simp
  | methodSignature => exact need_ne_nothing fun d => withReturnType_ne_nothing fun t => by simp
  | method =>
    exact need_ne_nothing fun d => need_ne_nothing fun name =>
      withReturnType_ne_nothing fun t => by simp
  | constructor => exact need_ne_nothing fun d => by split <;> simp
  | property => exact need_ne_nothing fun d => by simp
  | variableDeclaration => exact need_ne_nothing fun d => by split <;> simp
  | returnStatement => simp [of, ofReturn]
  | ifStatement => simp [of]
  | forStatement =>
    refine need_ne_nothing fun d => ?_
    split
    · simp
    · dsimp only
      split <;> simp
  | unsupported => simp [of]

end Plan

/-! ### All nodes -/

lemma ofKind_eq_class_iff (k : Kind) :
    Route.ofKind k = .handle .class_ ↔ k = .classDeclaration ∨ k = .classExpression := by
  have hall : ∀ k ∈ Kind.all, Route.ofKind k = .handle .class_ ↔
      k = .classDeclaration ∨ k = .classExpression := by decide +kernel
  exact hall k (Kind.mem_all k)

/-- What it takes for a node on a given route to be silent. -/
def SilentOn (a : Arena) (n : NodeId) : Route → Prop
  | .handle h => h = .class_ ∧ ∃ d, a.class? n = some d ∧ d.name = none
  | .passThrough => ∀ m ∈ a.children n, Silent a m
  | .skip => True
  | .unmapped => a.children n ≠ [] ∧ ∀ m ∈ a.children n, Silent a m

lemma silent_iff_silentOn {a : Arena} {k : Kind} (hk : a.kind? n = some k) :
    Silent a n ↔ SilentOn a n (Route.ofKind k) := by
  constructor
  · intro hs
    cases hs with
    | skip hk' hr =>
      obtain rfl := Option.some.inj (hk.symm.trans hk')
      rw [hr]
      trivial
    | anonymous hk' hd hn =>
      have hr : Route.ofKind k = .handle .class_ := by
        rw [ofKind_eq_class_iff]
        simpa [hk] using hk'
      rw [hr]
      exact ⟨rfl, _, hd, hn⟩
    | through hk' hr hc =>
      obtain rfl := Option.some.inj (hk.symm.trans hk')
      rw [hr]
      exact hc
    | unmapped hk' hr hne hc =>
      obtain rfl := Option.some.inj (hk.symm.trans hk')
      rw [hr]
      exact ⟨hne, hc⟩
  · intro hs
    cases hr : Route.ofKind k with
    | handle h =>
      rw [hr] at hs
      obtain ⟨rfl, d, hd, hn⟩ := hs
      have hkind := (ofKind_eq_class_iff k).1 hr
      exact .anonymous (by simpa [hk] using hkind) hd hn
    | passThrough =>
      rw [hr] at hs
      exact .through hk hr hs
    | skip => exact .skip hk hr
    | unmapped =>
      rw [hr] at hs
      exact .unmapped hk hr hs.1 hs.2

section Dispatch

variable (ht : ∀ m, Ensures (visit m) Tidy)
variable (hv : ∀ m, Ensures (visit m) fun fs => Blank fs ↔ Silent ctx.arena m)

include hv in
lemma ensures_all_blank_iff (ns : List NodeId) :
    Ensures (all visit ns) fun fs => Blank fs ↔ ∀ m ∈ ns, Silent ctx.arena m := by
  induction ns with
  | nil => exact .pure (by simp [blank_nil])
  | cons m ns ih =>
    refine (hv m).bind fun fs hf => ih.bind fun gs hg => .pure ?_
    rw [blank_append, hf, hg, List.forall_mem_cons]

include ht hv in
lemma ensures_dispatch_blank_iff {kind : Kind} (hk : ctx.arena.kind? n = some kind) :
    Ensures (dispatch ctx visit n kind) fun fs => Blank fs ↔ Silent ctx.arena n := by
  simp only [silent_iff_silentOn hk]
  refine Ensures.get.bind fun s _ => (Ensures.note _).bind fun _ _ => ?_
  cases Route.ofKind kind with
  | handle h =>
    dsimp only
    rw [handle_eq]
    refine (ensures_carryOut_blank_iff ht _).bind fun r hr => .pure ?_
    exact hr.trans (Plan.of_eq_nothing_iff h)
  | passThrough => exact ensures_all_blank_iff hv _
  | skip => exact .pure (iff_of_true blank_nil trivial)
  | unmapped =>
    dsimp only
    split
    · rename_i hc
      refine (Ensures.complaint ctx n _).bind fun _ ⟨c, hcomplaint⟩ => .pure ?_
      exact iff_of_false (hcomplaint ▸ not_blank_complaint c) fun hs => hs.1 hc
    · rename_i hne
      refine (ensures_all_blank_iff hv _).mono fun fs hf => hf.trans ?_
      exact ⟨fun hs => ⟨hne, hs⟩, fun hs => hs.2⟩

end Dispatch

lemma ensures_node_blank_iff (ctx : Context) (n : NodeId) :
    Ensures (node ctx n) fun fs => Blank fs ↔ Silent ctx.arena n := by
  refine ensures_node_of_dispatch (fun m fs => Blank fs ↔ Silent ctx.arena m)
    (fun levels m node hm ih => ?_) n
  have hk : ctx.arena.kind? m = some node.kind := by simp [Arena.kind?, hm]
  exact ensures_dispatch_blank_iff (ensures_nodeWithin ctx levels) ih hk

end Visit

/-- The program of a node has neither a line nor a complaint exactly when the node is silent. -/
theorem blank_iff_silent (ctx : Context) (s : Traversal) (n : NodeId) (fs : List Fragment)
    (h : ((Visit.node ctx n).run s).1 = .ok fs) :
    ((Program.ofFragments fs).lines = [] ∧ (Program.ofFragments fs).complaints = []) ↔
      Silent ctx.arena n :=
  (Visit.ensures_node_blank_iff ctx n).of_run h

/-- A class without a name, in parentheses, and an empty statement: `(class { x; });;`. -/
def anonymousContext : Context where
  tree := {
    arena := {
      sourceText := "(class \x7b x; \x7d);;"
      nodes := #[
        { kind := .identifier, pos := 9, stop := 10, payload := .identifier "x" },
        { kind := .propertyDeclaration, pos := 9, stop := 11,
          payload := .valueDecl ⟨⟨0⟩, none, none⟩ },
        { kind := .classExpression, pos := 1, stop := 13, payload := .class_ ⟨none, [], [⟨1⟩]⟩ },
        { kind := .parenthesizedExpression, pos := 0, stop := 14, payload := .wrapped (some ⟨2⟩) },
        { kind := .expressionStatement, pos := 0, stop := 15, payload := .wrapped (some ⟨3⟩) },
        { kind := .emptyStatement, pos := 15, stop := 16 },
        { kind := .sourceFile, pos := 0, stop := 16, payload := .list [⟨4⟩, ⟨5⟩] }] }
    types := {} }
  usage := {}

/-- The whole file comes to nothing, and its property does not. -/
theorem anonymous_blank_iff_silent :
    ((Visit.node anonymousContext ⟨6⟩).run {}).1 = .ok [] ∧ Silent anonymousContext.arena ⟨6⟩ ∧
    ((Visit.node anonymousContext ⟨1⟩).run {}).1 = .ok [.transformation ⟨⟨9, 11⟩,
      [.command ⟨CommandName.memberVariable, [.text "public", .text "x"]⟩]⟩] ∧
    ¬ Silent anonymousContext.arena ⟨1⟩ := by
  have hfile : ((Visit.node anonymousContext ⟨6⟩).run {}).1 = .ok [] := rfl
  have hproperty : ((Visit.node anonymousContext ⟨1⟩).run {}).1 = .ok [.transformation ⟨⟨9, 11⟩,
      [.command ⟨CommandName.memberVariable, [.text "public", .text "x"]⟩]⟩] := rfl
  refine ⟨hfile, ?_, hproperty, ?_⟩
  · exact (blank_iff_silent _ _ _ _ hfile).1 ⟨rfl, rfl⟩
  · rw [← blank_iff_silent _ _ _ _ hproperty]
    rintro ⟨hlines, -⟩
    cases hlines

end Gls
