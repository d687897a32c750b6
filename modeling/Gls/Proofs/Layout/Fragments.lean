/-
# The lines of fragments

What a node turns into is made of blocks.  The start and end commands of a block are written by
different handlers, some of which leave out the start when a condition complains; so the statement
is proved handler by handler, for any way to visit nodes whose own fragments are made of blocks,
and then for all nodes by induction on the levels left below them.

The main result: when the nodes of a tree, or the tree and the comments of its source, come to
fragments, the lines of these fragments belong to the grammar of blocks.  So they can be indented,
the depth after them is zero, and a transformation never fails for its indentation.
-/
import Gls.Proofs.Layout.Blocks
import Gls.Proofs.Visit.Rules

namespace Gls

/-! ### Lines of the fragments that handlers make -/

/-- The lines of the fragments are made of blocks. -/
def Tidy (fs : List Fragment) : Prop := Derives .program (Program.ofFragments fs).lines

namespace Tidy

lemma nil : Tidy [] := Derives.nil

lemma append {fs gs : List Fragment} (hf : Tidy fs) (hg : Tidy gs) : Tidy (fs ++ gs) := by
  rw [Tidy, Program.ofFragments_append]
  exact Derives.append hf hg

lemma complaint (c : Complaint) : Tidy [.complaint c] := Derives.nil

end Tidy

namespace Program

lemma lines_complaints (cs : List Complaint) : (ofOutputs (cs.map .complaint)).lines = [] := by
  induction cs with
  | nil => rfl
  | cons c cs ih => simpa [ofOutputs, ofOutput] using ih

lemma complaints_complaints (cs : List Complaint) :
    (ofOutputs (cs.map .complaint)).complaints = cs := by
  induction cs with
  | nil => rfl
  | cons c cs ih => simpa [ofOutputs, ofOutput] using ih

/-- The lines of outputs that begin with a command. -/
lemma lines_ofOutputs_command (c : Command) (os : List Output) :
    (ofOutputs (.command c :: os)).lines = .command c :: (ofOutputs os).lines := by
  simp [ofOutputs, ofOutput]

lemma lines_ofFragments_transformation (range : Span) (os : List Output) :
    (ofFragments [.transformation ⟨range, os⟩]).lines = (ofOutputs os).lines := by
  simp [ofFragments, ofOutputs, ofOutput, Fragment.toOutput]

lemma complaints_ofFragments_transformation (range : Span) (os : List Output) :
    (ofFragments [.transformation ⟨range, os⟩]).complaints = (ofOutputs os).complaints := by
  simp [ofFragments, ofOutputs, ofOutput, Fragment.toOutput]

end Program

namespace Visit

variable {ctx : Context} {visit : Visitor} {n : NodeId}

lemma lines_surface (cs : List Complaint) :
    (Program.ofFragments [surface ctx n cs]).lines = [] := by
  rw [surface, Program.lines_ofFragments_transformation, Program.lines_complaints]

lemma complaints_surface (cs : List Complaint) :
    (Program.ofFragments [surface ctx n cs]).complaints = cs := by
  rw [surface, Program.complaints_ofFragments_transformation, Program.complaints_complaints]

lemma tidy_surface (cs : List Complaint) : Tidy [surface ctx n cs] := by
  rw [Tidy, lines_surface]
  exact .nil

lemma tidy_line {c : Command} (h : Catalog.builtin.indentation? c.name = some []) :
    Tidy [line ctx n c] := .of_item (.flat h)

lemma tidy_verbatim (text : String) : Tidy [verbatim ctx n text] := .of_item (.literal text)

lemma lines_block (start stop : Command) (body : List Fragment) :
    (Program.ofFragments [block ctx n start body stop]).lines
      = .command start :: (Program.ofFragments body).lines ++ [.command stop] := by
  rw [block, Program.lines_ofFragments_transformation, List.cons_append,
    Program.lines_ofOutputs_command, Program.ofOutputs_append]
  rfl

lemma tidy_block {start stop : Command} {body : List Fragment}
    (h : (start.name, stop.name) ∈ blockNames) (hb : Tidy body) :
    Tidy [block ctx n start body stop] := by
  rw [Tidy, lines_block]
  exact .of_item (.block h hb)

/-! ### Visiting several nodes and values -/

section Handlers

variable (hv : ∀ m, Ensures (visit m) Tidy)
include hv

lemma ensures_all (ns : List NodeId) : Ensures (all visit ns) Tidy := by
  induction ns with
  | nil => exact .pure .nil
  | cons m ns ih => exact (hv m).bind fun fs hf => ih.bind fun gs hg => .pure (hf.append hg)

lemma ensures_optional (o : Option NodeId) : Ensures (optional visit o) Tidy := by
  cases o with
  | none => exact .pure .nil
  | some m => exact hv m

/-- Where complaints take the place of a value there is at least one. -/
lemma ensures_value (m : NodeId) :
    Ensures (value ctx visit m) fun o => ∀ cs, o = .complaints cs → cs ≠ [] := by
  refine (hv m).bind fun fs _ => ?_
  dsimp only
  split
  · exact .pure (by simp)
  · exact .pure (by simp)
  · exact .pure (by simp)
  · exact (Ensures.complain _ _).bind fun c _ => .pure (by simp)
  -- Complaints among the fragments are passed on only where there are some.
  · rename_i hne _ _ _
    refine .pure ?_
    rintro cs ⟨⟩
    exact hne

lemma ensures_values (ns : List NodeId) : Ensures (values ctx visit ns) fun _ => True := by
  induction ns with
  | nil => exact .pure trivial
  | cons m ns ih => exact (ensures_value hv m).bind fun _ _ => ih.bind fun _ _ => .pure trivial

end Handlers

lemma ensures_parameters (ps : List NodeId) : Ensures (parameters ctx ps) fun _ => True := by
  induction ps with
  | nil => exact .pure trivial
  | cons p ps ih =>
    rw [parameters]
    split
    · exact ih.bind fun o _ => by cases o <;> exact .pure trivial
    · exact (Ensures.complain _ _).bind fun _ _ => ih.bind fun o _ => by
        cases o <;> exact .pure trivial

/-- Complaints in the place of a value are surfaced; a value goes on to the fragment. -/
lemma ensures_ofOutcome {α : Type} {f : α → Visit (Option Fragment)}
    (hf : ∀ a, Ensures (f a) fun r => Tidy r.toList) (o : Outcome α) :
    Ensures (ofOutcome ctx n f o) fun r => Tidy r.toList := by
  cases o with
  | value a => exact hf a
  | complaints cs => exact .pure (tidy_surface cs)

lemma ensures_complaint (reason : String) :
    Ensures (do return some (← complaint ctx n reason)) fun r => Tidy r.toList :=
  (Ensures.complaint ctx n reason).bind fun _ ⟨c, hc⟩ => .pure (hc ▸ Tidy.complaint c)

/-! ### Expressions -/

/-- The commands that stand on a line by themselves. -/
def flatNames : List String :=
  [CommandName.interfaceMethod, CommandName.memberVariable, CommandName.memberFunctionCall,
   CommandName.functionCall, CommandName.stringIndexOf, CommandName.stringSubstringLength,
   CommandName.stringSubstringIndex, CommandName.stringCaseLower, CommandName.stringCaseUpper,
   CommandName.stringTrim, CommandName.operation, CommandName.variableLine,
   CommandName.returnLine, CommandName.commentLine, CommandName.commentBlockStart,
   CommandName.commentBlock, CommandName.commentBlockEnd]

lemma indentation?_of_mem_flatNames {name : String} (h : name ∈ flatNames) :
    Catalog.builtin.indentation? name = some [] := by
  have hall : ∀ f ∈ flatNames, Catalog.builtin.indentation? f = some [] := by decide +kernel
  exact hall _ h

/-- A line with one of these commands is made of blocks. -/
lemma ensures_line {c : Command} (h : c.name ∈ flatNames) :
    Ensures (pure (some (line ctx n c)) : Visit (Option Fragment)) fun r => Tidy r.toList :=
  .pure (tidy_line (indentation?_of_mem_flatNames h))

lemma stringMethodCommand?_mem {method command : String}
    (h : stringMethodCommand? method = some command) : command ∈ flatNames := by
  unfold stringMethodCommand? at h
  split_ifs at h <;> cases h <;> simp [flatNames]

lemma stringCall?_mem {d : Payload.Call} {receiver : NodeId} {command : String}
    (h : stringCall? ctx n = some (d, receiver, command)) : command ∈ flatNames := by
  simp only [stringCall?, Option.bind_eq_bind, Option.bind_eq_some_iff] at h
  obtain ⟨d', -, access, -, command', hc, h⟩ := h
  split_ifs at h
  cases h
  exact stringMethodCommand?_mem hc

lemma ensures_literalValue : Ensures (literalValue ctx n) fun r => Tidy r.toList :=
  .pure (tidy_verbatim _)

lemma ensures_stringLiteral : Ensures (stringLiteral ctx n) fun r => Tidy r.toList :=
  .pure (tidy_verbatim _)

lemma ensures_unary : Ensures (unary ctx n) fun r => Tidy r.toList := by
  refine (Ensures.need _ _ _ _).bind fun d _ => ?_
  split
  · exact .pure (tidy_verbatim _)
  · exact ensures_line (by simp [flatNames])

section Handlers

variable (hv : ∀ m, Ensures (visit m) Tidy)
include hv

lemma ensures_binary : Ensures (binary ctx visit n) fun r => Tidy r.toList := by
  refine (Ensures.need _ _ _ _).bind fun d _ => ?_
  split
  · exact ensures_complaint _
  · refine (ensures_values hv _).bind fun o _ => ensures_ofOutcome (fun operands => ?_) o
    exact ensures_line (by simp [flatNames])

lemma ensures_stringMember : Ensures (stringMember ctx visit n) fun r => Tidy r.toList := by
  unfold stringMember
  split
  · exact .pure .nil
  · rename_i call receiver command hcall
    refine (ensures_values hv _).bind fun o _ => ensures_ofOutcome (fun args => ?_) o
    exact ensures_line (stringCall?_mem hcall)

lemma ensures_genericCall : Ensures (genericCall ctx visit n) fun r => Tidy r.toList := by
  refine (Ensures.need _ _ _ _).bind fun call _ => ?_
  refine (ensures_values hv _).bind fun o _ => ensures_ofOutcome (fun args => ?_) o
  refine ensures_line ?_
  unfold callHead
  split <;> simp [Command.withArgs, flatNames]

lemma ensures_call : Ensures (call ctx visit n) fun r => Tidy r.toList := by
  refine (ensures_stringMember hv).bind fun r hr => ?_
  cases r with
  | some f => exact .pure hr
  | none => exact ensures_genericCall hv

/-! ### Declarations -/

lemma ensures_class_ : Ensures (class_ ctx visit n) fun r => Tidy r.toList := by
  refine (Ensures.need _ _ _ _).bind fun d _ => ?_
  split
  · exact .pure .nil
  · refine (ensures_all hv _).bind fun members hm => ?_
    exact .pure (tidy_block (by simp [blockNames]) hm)

lemma ensures_interface : Ensures (interface ctx visit n) fun r => Tidy r.toList := by
  refine (Ensures.need _ _ _ _).bind fun d _ => ?_
  refine (ensures_all hv _).bind fun members hm => ?_
  exact .pure (tidy_block (by simp [blockNames]) hm)

omit hv in
lemma ensures_methodSignature : Ensures (methodSignature ctx n) fun r => Tidy r.toList := by
  refine (Ensures.need _ _ _ _).bind fun d _ => ?_
  dsimp only
  split
  · exact ensures_complaint _
  · refine (ensures_parameters _).bind fun o _ => ensures_ofOutcome (fun params => ?_) o
    exact ensures_line (by simp [flatNames])

/-- A block around a body that may be absent. -/
lemma ensures_bodyBlock {start stop : Command} (h : (start.name, stop.name) ∈ blockNames)
    (body : Option NodeId) :
    Ensures (do
      let fs ← optional visit body
      return some (block ctx n start fs stop)) fun r => Tidy r.toList :=
  (ensures_optional hv body).bind fun _ hf => .pure (tidy_block h hf)

lemma ensures_method : Ensures (method ctx visit n) fun r => Tidy r.toList := by
  refine (Ensures.need _ _ _ _).bind fun d _ => ?_
  refine (Ensures.need _ _ _ _).bind fun name _ => ?_
  split
  · exact ensures_complaint _
  · refine (ensures_parameters _).bind fun o _ => ensures_ofOutcome (fun params => ?_) o
    exact ensures_bodyBlock hv (by simp [blockNames]) _

lemma ensures_constructor : Ensures (constructor ctx visit n) fun r => Tidy r.toList := by
  refine (Ensures.need _ _ _ _).bind fun d _ => ?_
  split
  · exact ensures_complaint _
  · refine (ensures_parameters _).bind fun o _ => ensures_ofOutcome (fun params => ?_) o
    exact ensures_bodyBlock hv (by simp [blockNames]) _

lemma ensures_initialized {head : Command} (h : head.name ∈ flatNames) (o : Option NodeId) :
    Ensures (initialized ctx visit n head o) fun r => Tidy r.toList := by
  cases o with
  | none => exact ensures_line h
  | some m =>
    refine (ensures_value hv m).bind fun o _ => ensures_ofOutcome (fun v => ?_) o
    exact ensures_line h

lemma ensures_property : Ensures (property ctx visit n) fun r => Tidy r.toList :=
  (Ensures.need _ _ _ _).bind fun _ _ => ensures_initialized hv (by simp [flatNames]) _

lemma ensures_variableDeclaration :
    Ensures (variableDeclaration ctx visit n) fun r => Tidy r.toList := by
  refine (Ensures.need _ _ _ _).bind fun d _ => ?_
  dsimp only
  split
  · exact ensures_complaint _
  · exact ensures_initialized hv (by simp [flatNames]) _

/-! ### Statements -/

lemma ensures_returnStatement : Ensures (returnStatement ctx visit n) fun r => Tidy r.toList := by
  unfold returnStatement
  split
  · exact ensures_line (by simp [flatNames])
  · refine (ensures_value hv _).bind fun o _ => ensures_ofOutcome (fun v => ?_) o
    exact ensures_line (by simp [flatNames])

/-- A link of a chain whose condition does not complain is its start command and a program. -/
lemma ensures_branch (start : String) (m : NodeId) :
    Ensures (branch ctx visit start m) fun b => b.complaints = [] →
      ∃ c body, c.name = start ∧ Derives .program body ∧
        (Program.ofOutputs b.output).lines = .command c :: body := by
  refine (Ensures.need _ _ _ _).bind fun d _ => ?_
  refine (ensures_value hv _).bind fun o ho => (hv _).bind fun fs hf => ?_
  cases o with
  | value v =>
    refine .pure fun _ => ⟨⟨start, [v]⟩, (Program.ofFragments fs).lines, rfl, hf, ?_⟩
    rw [Program.lines_ofOutputs_command]
    rfl
  -- Without a start command there are complaints, and nothing is said of the lines.
  | complaints cs => exact .pure fun h => absurd h (ho cs rfl)

omit hv in
lemma Branches.complaints_append_eq_nil {a b : Branches} :
    (a.append b).complaints = [] ↔ a.complaints = [] ∧ b.complaints = [] := by
  simp [Branches.append]

omit hv in
lemma Branches.lines_append (a b : Branches) :
    (Program.ofOutputs (a.append b).output).lines
      = (Program.ofOutputs a.output).lines ++ (Program.ofOutputs b.output).lines := by
  simp [Branches.append, Program.ofOutputs_append]

/-- The links after the first go before what follows the first branch. -/
lemma ensures_branches_elseIf (ns : List NodeId) :
    Ensures (branches ctx visit CommandName.elseIfStart ns) fun b => b.complaints = [] →
      ∀ tail, Derives .alternatives tail →
        Derives .alternatives ((Program.ofOutputs b.output).lines ++ tail) := by
  induction ns with
  | nil => exact .pure fun _ _ ht => ht
  | cons m ns ih =>
    refine (ensures_branch hv _ m).bind fun a ha => ih.bind fun b hb => .pure ?_
    intro hab tail ht
    obtain ⟨hna, hnb⟩ := Branches.complaints_append_eq_nil.1 hab
    obtain ⟨c, body, hc, hbody, hl⟩ := ha hna
    rw [Branches.lines_append, hl, List.append_assoc]
    exact .elseIf hc hbody (hb hnb tail ht)

/-- The links of a chain, with what follows them, are one item. -/
lemma ensures_branches_if (m : NodeId) (ns : List NodeId) :
    Ensures (branches ctx visit CommandName.ifStart (m :: ns)) fun b => b.complaints = [] →
      ∀ tail, Derives .alternatives tail →
        Derives .item ((Program.ofOutputs b.output).lines ++ tail) := by
  refine (ensures_branch hv _ m).bind fun a ha =>
    (ensures_branches_elseIf hv ns).bind fun b hb => .pure ?_
  intro hab tail ht
  obtain ⟨hna, hnb⟩ := Branches.complaints_append_eq_nil.1 hab
  obtain ⟨c, body, hc, hbody, hl⟩ := ha hna
  rw [Branches.lines_append, hl, List.append_assoc]
  exact .conditional hc hbody (hb hnb tail ht)

lemma ensures_elseBranch (o : Option NodeId) :
    Ensures (elseBranch visit o) fun out =>
      Derives .alternatives
        ((Program.ofOutputs out).lines ++ [.command ⟨CommandName.ifEnd, []⟩]) := by
  cases o with
  | none => exact .pure (.stop rfl)
  | some m =>
    refine (hv m).bind fun fs hf => .pure ?_
    rw [Program.lines_ofOutputs_command]
    exact .otherwise rfl hf rfl

omit hv in
/-- A chain has at least one link. -/
lemma exists_links_chain (arena : Arena) (m : NodeId) :
    ∃ n ns, (chain arena m).links = n :: ns := by
  unfold chain chainWithin
  split
  · exact ⟨m, [], rfl⟩
  · dsimp only
    split
    · exact ⟨m, _, rfl⟩
    · exact ⟨m, [], rfl⟩

lemma ensures_ifStatement : Ensures (ifStatement ctx visit n) fun r => Tidy r.toList := by
  obtain ⟨m, ns, hl⟩ := exists_links_chain ctx.arena n
  unfold ifStatement
  dsimp only
  rw [hl]
  refine (ensures_branches_if hv m ns).bind fun b hb => ?_
  refine (ensures_elseBranch hv _).bind fun out ho => ?_
  split
  · -- No condition has complained, so every link has its start command.
    rename_i he
    refine .pure ?_
    rw [Option.toList, Tidy, Program.lines_ofFragments_transformation, Program.ofOutputs_append,
      Program.ofOutputs_append, Program.append_assoc]
    exact .of_item (hb (List.isEmpty_iff.1 he) _ ho)
  · exact .pure (tidy_surface _)

lemma ensures_forStatement : Ensures (forStatement ctx visit n) fun r => Tidy r.toList := by
  refine (Ensures.need _ _ _ _).bind fun d _ => ?_
  split
  · exact ensures_complaint _
  · dsimp only
    split
    · exact ensures_complaint _
    · refine (ensures_values hv _).bind fun o _ => ensures_ofOutcome (fun bounds => ?_) o
      exact (hv _).bind fun body hb => .pure (tidy_block (by simp [blockNames]) hb)

/-! ### All nodes -/

lemma ensures_handle (h : Handler) : Ensures (handle ctx visit n h) fun r => Tidy r.toList := by
  cases h with
  | literalValue => exact ensures_literalValue
  | stringLiteral => exact ensures_stringLiteral
  | binary => exact ensures_binary hv
  | unary => exact ensures_unary
  | call => exact ensures_call hv
  | class_ => exact ensures_class_ hv
  | interface => exact ensures_interface hv
  | methodSignature => exact ensures_methodSignature
  | method => exact ensures_method hv
  | constructor => exact ensures_constructor hv
  | property => exact ensures_property hv
  | variableDeclaration => exact ensures_variableDeclaration hv
  | returnStatement => exact ensures_returnStatement hv
  | ifStatement => exact ensures_ifStatement hv
  | forStatement => exact ensures_forStatement hv
  | unsupported => exact ensures_complaint _

lemma ensures_dispatch (kind : Kind) : Ensures (dispatch ctx visit n kind) Tidy := by
  refine Ensures.get.bind fun s _ => (Ensures.note _).bind fun _ _ => ?_
  split
  · exact (ensures_handle hv _).bind fun r hr => .pure hr
  · exact ensures_all hv _
  · exact .pure .nil
  · split
    · exact (Ensures.complaint ctx n _).bind fun _ ⟨c, hc⟩ => .pure (hc ▸ Tidy.complaint c)
    · exact ensures_all hv _

end Handlers

/-- A node that is entered is there. -/
lemma ensures_enter (ctx : Context) (n : NodeId) :
    Ensures (enter ctx n) fun node => ctx.arena.get? n = some node := by
  unfold enter
  split
  · exact .throw (by simp)
  · rename_i node hn
    refine Ensures.get.bind fun s _ => ?_
    split
    · exact .throw (by simp)
    · exact (Ensures.modify _).bind fun _ _ => .pure hn

section Induction

variable (Q : NodeId → List Fragment → Prop)
variable (step : ∀ levels n node, ctx.arena.get? n = some node →
  (∀ m, Ensures (nodeWithin ctx levels m) (Q m)) →
  Ensures (dispatch ctx (nodeWithin ctx levels) n node.kind) (Q n))
include step

/-- What dispatching keeps holds of all visits: by induction on the levels left below the node. -/
lemma ensures_nodeWithin_of_dispatch (levels : Nat) (n : NodeId) :
    Ensures (nodeWithin ctx levels n) (Q n) := by
  induction levels generalizing n with
  | zero =>
    refine (ensures_enter ctx n).bind fun node _ => Ensures.get.bind fun s _ => ?_
    exact .throw (by simp)
  | succ levels ih =>
    exact (ensures_enter ctx n).bind fun node hn => (step levels n node hn ih).deeper

lemma ensures_node_of_dispatch (n : NodeId) : Ensures (node ctx n) (Q n) :=
  Ensures.get.bind fun _ _ => ensures_nodeWithin_of_dispatch Q step _ n

end Induction

lemma ensures_nodeWithin (ctx : Context) (levels : Nat) (n : NodeId) :
    Ensures (nodeWithin ctx levels n) Tidy :=
  ensures_nodeWithin_of_dispatch (fun _ => Tidy)
    (fun _ _ node _ ih => ensures_dispatch ih node.kind) levels n

lemma ensures_node (ctx : Context) (n : NodeId) : Ensures (node ctx n) Tidy :=
  ensures_node_of_dispatch (fun _ => Tidy)
    (fun _ _ node _ ih => ensures_dispatch ih node.kind) n

end Visit

/-! ### Comments -/

namespace Tidy

lemma of_forall {fs : List Fragment} (h : ∀ f ∈ fs, Tidy [f]) : Tidy fs := by
  induction fs with
  | nil => exact nil
  | cons f fs ih =>
    exact append (h f List.mem_cons_self) (ih fun g hg => h g (List.mem_cons_of_mem f hg))

end Tidy

/-- Commands that stand on lines by themselves make a program. -/
lemma Derives.of_flat {os : List Output}
    (h : ∀ o ∈ os, ∃ c, o = .command c ∧ c.name ∈ Visit.flatNames) :
    Derives .program (Program.ofOutputs os).lines := by
  induction os with
  | nil => exact .nil
  | cons o os ih =>
    obtain ⟨c, rfl, hc⟩ := h o List.mem_cons_self
    rw [Program.lines_ofOutputs_command]
    exact .cons (.flat (Visit.indentation?_of_mem_flatNames hc))
      (ih fun p hp => h p (List.mem_cons_of_mem _ hp))

/-- Comments are made of commands that stand on lines by themselves. -/
lemma CommentRange.flat_of_mem_output {r : CommentRange} {source : String} {o : Output}
    (ho : o ∈ (r.transformation source).output) :
    ∃ c, o = .command c ∧ c.name ∈ Visit.flatNames := by
  unfold CommentRange.transformation at ho
  dsimp only at ho
  split at ho
  · -- A block comment: its start, its lines and its end.
    simp only [List.cons_append, List.mem_cons, List.mem_append, List.mem_map,
      List.not_mem_nil, or_false] at ho
    rcases ho with rfl | ⟨line, -, rfl⟩ | rfl
    · exact ⟨_, rfl, by simp [Visit.flatNames]⟩
    · exact ⟨_, rfl, by simp [Visit.flatNames]⟩
    · exact ⟨_, rfl, by simp [Visit.flatNames]⟩
  · simp only [Transformation.command, List.mem_singleton] at ho
    exact ⟨_, ho, by simp [Visit.flatNames]⟩

lemma CommentRange.tidy (r : CommentRange) (source : String) :
    Tidy [.transformation (r.transformation source)] := by
  rw [Tidy, Program.lines_ofFragments_transformation (r.transformation source).range]
  exact .of_flat fun _ ho => flat_of_mem_output ho

lemma tidy_commentFragments (source : String) : Tidy (commentFragments source) := by
  refine .of_forall fun f hf => ?_
  obtain ⟨r, -, rfl⟩ := List.mem_map.1 hf
  exact r.tidy source

/-! ### Whole transformations -/

lemma Transformer.ensures_allFragments (ctx : Context) (root : NodeId) (ts : List Transformer) :
    Visit.Ensures (allFragments ctx root ts) Tidy := by
  induction ts with
  | nil => exact .pure .nil
  | cons t ts ih =>
    have ht : Visit.Ensures (t.fragments ctx root) Tidy := by
      cases t with
      | sourceFile => exact Visit.ensures_node ctx root
      | comments => exact .pure (tidy_commentFragments _)
    exact ht.bind fun fs hf => ih.bind fun gs hg => .pure (hf.append hg)

/-- Lines that are made of blocks: the built-in commands indent them, with any unit, and leave
depth zero. -/
structure WellLaid (ls : List Line) : Prop where
  derives : Derives .program ls
  indents : ∀ unit, ∃ out, Indent.lines Catalog.builtin unit ls = .ok out
  settles : Indent.depthAfter Catalog.builtin 0 ls = 0

lemma Tidy.wellLaid {fs : List Fragment} (h : Tidy fs) :
    WellLaid (Program.ofFragments fs).lines := by
  have hl := Derives.leads h (Int.le_refl 0)
  exact ⟨h, fun unit => hl.ok unit 0, hl.depth⟩

lemma Visit.Ensures.of_run {α : Type} {x : Visit α} {Q : α → Prop} (hx : x.Ensures Q)
    {s : Traversal} {a : α} (h : (x.run s).1 = .ok a) : Q a :=
  hx.ok (Prod.ext h rfl)

section Tree

variable (arena : Arena) (types : TypeTable) (root : NodeId) (options : Options)

/-- The fragments of a tree, or why there are none. -/
def fragmentsOf : Except TransformError (List Fragment) :=
  ((Transformer.allFragments (Context.ofRoot arena types root) root
    (Transformer.ofOptions options)).outcome {}).1

variable {arena types root options}

/-- A tree that comes to fragments is transformed to the lines of these fragments, as they are
indented. -/
lemma transformTree_eq_ok {fs : List Fragment} {catalog : Catalog} {lines : List String}
    (hf : fragmentsOf arena types root options = .ok fs)
    (hl : Indent.lines catalog options.indentUnit (Program.ofFragments fs).lines = .ok lines) :
    transformTree arena types root catalog options
      = .ok ⟨lines, (Program.ofFragments fs).complaints⟩ := by
  have hp : programOf arena types root options = .ok (Program.ofFragments fs) :=
    congrArg (Except.map Program.ofFragments) hf
  rw [transformTree, hp]
  simp only [bind, Except.bind, hl]
  rfl

/-- The fragments of a tree are made of blocks. -/
lemma tidy_of_fragments {fs : List Fragment} (h : fragmentsOf arena types root options = .ok fs) :
    Tidy fs :=
  (Transformer.ensures_allFragments (Context.ofRoot arena types root) root
    (Transformer.ofOptions options)).of_run h

/-- With the built-in commands these lines can be indented. -/
lemma transformTree_of_fragments {fs : List Fragment}
    (h : fragmentsOf arena types root options = .ok fs) :
    ∃ lines, transformTree arena types root Catalog.builtin options
      = .ok ⟨lines, (Program.ofFragments fs).complaints⟩ := by
  obtain ⟨lines, hl⟩ := (tidy_of_fragments h).wellLaid.indents options.indentUnit
  exact ⟨lines, transformTree_eq_ok h hl⟩

/-- A tree that does not come to fragments is not transformed, for the same reason. -/
lemma transformTree_of_error {e : TransformError} {catalog : Catalog}
    (h : fragmentsOf arena types root options = .error e) :
    transformTree arena types root catalog options = .error e := by
  have hp : programOf arena types root options = .error e :=
    congrArg (Except.map Program.ofFragments) h
  rw [transformTree, hp]
  rfl

lemma fragmentsOf_ne_indent (i : IndentError) :
    fragmentsOf arena types root options ≠ .error (.indent i) := by
  intro h
  exact (Transformer.ensures_allFragments (Context.ofRoot arena types root) root
    (Transformer.ofOptions options)).error (Prod.ext h rfl) i rfl

lemma transformTree_ne_indent (i : IndentError) :
    transformTree arena types root Catalog.builtin options ≠ .error (.indent i) := by
  intro h
  cases hf : fragmentsOf arena types root options with
  | ok fs =>
    obtain ⟨lines, hl⟩ := transformTree_of_fragments hf
    rw [h] at hl
    cases hl
  | error e =>
    rw [transformTree_of_error hf] at h
    cases h
    exact fragmentsOf_ne_indent i hf

end Tree

/-- The nodes of a tree, and whole documents with their comments, come to lines that are made of
blocks.  So a transformation never fails for its indentation. -/
theorem lines_made_of_blocks :
    (∀ (ctx : Context) (s : Traversal) (ns : List NodeId) (fs : List Fragment),
      ((Visit.all (Visit.node ctx) ns).run s).1 = .ok fs →
        WellLaid (Program.ofFragments fs).lines) ∧
    (∀ (ctx : Context) (s : Traversal) (root : NodeId) (ts : List Transformer)
      (fs : List Fragment), ((Transformer.allFragments ctx root ts).run s).1 = .ok fs →
        WellLaid (Program.ofFragments fs).lines) ∧
    ∀ (arena : Arena) (types : TypeTable) (root : NodeId) (options : Options) (i : IndentError),
      transformTree arena types root Catalog.builtin options ≠ .error (.indent i) := by
  refine ⟨?_, ?_, ?_⟩
  · intro ctx s ns fs h
    exact ((Visit.ensures_all (Visit.ensures_node ctx) ns).of_run h).wellLaid
  · intro ctx s root ts fs h
    exact ((Transformer.ensures_allFragments ctx root ts).of_run h).wellLaid
  · intro arena types root options i
    exact transformTree_ne_indent i

/-- A context of three nodes: an if statement with a condition and an empty block. -/
def conditionalContext : Context where
  tree := {
    arena := {
      sourceText := "if (a) {}"
      nodes := #[
        { kind := .identifier, pos := 4, stop := 5, payload := .identifier "a" },
        { kind := .block, pos := 7, stop := 9, payload := .list [] },
        { kind := .ifStatement, pos := 0, stop := 9, payload := .conditional ⟨⟨0⟩, ⟨1⟩, none⟩ }] }
    types := {} }
  usage := {}

theorem conditional_made_of_blocks :
    ((Visit.all (Visit.node conditionalContext) [⟨2⟩]).run {}).1
      = .ok [.transformation ⟨⟨0, 9⟩, [.command ⟨CommandName.ifStart, [.text "a"]⟩,
          .command ⟨CommandName.ifEnd, []⟩]⟩] ∧
    WellLaid [.command ⟨CommandName.ifStart, [.text "a"]⟩, .command ⟨CommandName.ifEnd, []⟩] := by
  have h : ((Visit.all (Visit.node conditionalContext) [⟨2⟩]).run {}).1
      = .ok [.transformation ⟨⟨0, 9⟩, [.command ⟨CommandName.ifStart, [.text "a"]⟩,
          .command ⟨CommandName.ifEnd, []⟩]⟩] := rfl
  exact ⟨h, lines_made_of_blocks.1 _ _ _ _ h⟩

end Gls
