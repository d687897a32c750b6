/-
# Programs keep to the vocabulary

Every command of a program, at the top and inside arguments, is one of the catalog and has as many
arguments as its name asks for; and inside an argument there is never a command that starts, ends
or divides a block.

The first two are facts about the plans of handlers: whatever arguments are gathered, the command
made of them fits, because the number of arguments is known from the inputs.  The last is not local.
A node in value position may come to any lines; that the line of a value is no block command
follows from the lines being made of blocks, for a block has at least two of them.

A property of texts is carried through all of this.  It holds of every text in a program as soon as
it holds of texts on one line and of the texts that the tree and its tables supply.
-/
import Gls.Proofs.Layout.Fragments
import Gls.Proofs.Text.Unbroken
import Gls.Proofs.Visit.Plan
import Gls.Proofs.Vocabulary.Arity

namespace Gls

/-- `T` holds of what arguments are made of: texts on one line, and texts that the tree and its
tables supply. -/
structure TypedTree.Vouches (t : TypedTree) (T : String → Prop) : Prop where
  unbroken : ∀ {s : String}, Text.Unbroken s → T s
  supplied : ∀ {s : String}, t.Supplies s → T s

/-- A line with a sound command, or with a text of which `T` holds. -/
def Line.Sound (T : String → Prop) : Line → Prop
  | .command c => c.Sound T
  | .literal text => T text

/-- All lines of the outputs are sound. -/
def SoundOutputs (T : String → Prop) (os : List Output) : Prop :=
  ∀ l ∈ (Program.ofOutputs os).lines, l.Sound T

/-- All lines of the fragments are sound. -/
def Conforms (T : String → Prop) (fs : List Fragment) : Prop :=
  SoundOutputs T (fs.map Fragment.toOutput)

variable {T : String → Prop}

namespace SoundOutputs

lemma nil : SoundOutputs T [] := by
  intro l hl
  cases hl

lemma append {xs ys : List Output} (hx : SoundOutputs T xs) (hy : SoundOutputs T ys) :
    SoundOutputs T (xs ++ ys) := by
  rw [SoundOutputs, Program.ofOutputs_append, Program.lines_append, List.forall_mem_append]
  exact ⟨hx, hy⟩

lemma command_cons {c : Command} {os : List Output} (hc : c.Sound T) (ho : SoundOutputs T os) :
    SoundOutputs T (.command c :: os) := by
  rw [SoundOutputs, Program.lines_ofOutputs_command, List.forall_mem_cons]
  exact ⟨hc, ho⟩

/-- A transformation is as sound as what it holds. -/
lemma transformation {range : Span} {os : List Output} (h : SoundOutputs T os) :
    Conforms T [.transformation ⟨range, os⟩] := by
  have hlines := Program.lines_ofFragments_transformation range os
  rw [Program.ofFragments] at hlines
  rwa [Conforms, SoundOutputs, hlines]

end SoundOutputs

namespace Conforms

lemma nil : Conforms T [] := SoundOutputs.nil

lemma append {fs gs : List Fragment} (hf : Conforms T fs) (hg : Conforms T gs) :
    Conforms T (fs ++ gs) := by
  rw [Conforms, List.map_append]
  exact SoundOutputs.append hf hg

lemma complaint (c : Complaint) : Conforms T [.complaint c] := by
  intro l hl
  cases hl

end Conforms

namespace Visit

variable {ctx : Context} {visit : Visitor} {n : NodeId}

/-! ### Fragments of a node -/

lemma conforms_surface (cs : List Complaint) : Conforms T [surface ctx n cs] := by
  refine SoundOutputs.transformation fun l hl => ?_
  rw [Program.lines_complaints] at hl
  cases hl

lemma conforms_line {c : Command} (h : c.Sound T) : Conforms T [line ctx n c] :=
  (SoundOutputs.nil.command_cons h).transformation

lemma conforms_verbatim {text : String} (h : T text) : Conforms T [verbatim ctx n text] := by
  intro l hl
  obtain rfl := List.mem_singleton.1 hl
  exact h

lemma conforms_block {start stop : Command} {body : List Fragment} (hstart : start.Sound T)
    (hbody : Conforms T body) (hstop : stop.Sound T) :
    Conforms T [block ctx n start body stop] :=
  ((SoundOutputs.append hbody (SoundOutputs.nil.command_cons hstop)).command_cons
    hstart).transformation

/-! ### Plans that keep to the vocabulary -/

namespace Plan

/-- Whatever sound arguments are gathered, the command made of them is sound. -/
def MakesSound (T : String → Prop) (inputs : Inputs) (command : List Argument → Command) : Prop :=
  ∀ args, args.length = inputs.count → (∀ a ∈ args, a.Sound T) → (command args).Sound T

/-- What carrying out the plan writes is sound. -/
def Sound (T : String → Prop) : Plan → Prop
  | .verbatim text => T text
  | .line inputs command => MakesSound T inputs command
  | .block inputs start _ stop => MakesSound T inputs start ∧ stop.Sound T
  | _ => True

lemma sound_need {α : Type} {what : String} {o : Option α} {f : α → Plan}
    (h : ∀ a, (f a).Sound T) : (need what o f).Sound T := by
  cases o with
  | none => trivial
  | some a => exact h a

/-- A command with arguments after those it has. -/
lemma sound_withArgs {name : String} {head args : List Argument} (a : Arity)
    (ha : (name, a) ∈ arities.entries) (hlen : a.Admits (head.length + args.length))
    (hhead : ∀ x ∈ head, x.Sound T) (hargs : ∀ x ∈ args, x.Sound T) :
    (Command.withArgs ⟨name, head⟩ args).Sound T :=
  Command.sound_of_mem a ha (by rwa [List.length_append]) (List.forall_mem_append.2 ⟨hhead, hargs⟩)

/-- The command that ends a block has no arguments. -/
lemma sound_stop {name : String} (h : (name, .exactly 0) ∈ arities.entries) :
    Command.Sound T ⟨name, []⟩ :=
  Command.sound_of_mem _ h rfl (by simp)

lemma unbroken_of_operatorAlias? {k : Kind} {word : String} (h : operatorAlias? k = some word) :
    Text.Unbroken word := by
  unfold operatorAlias? at h
  split at h <;> cases h <;> decide +kernel

lemma unbroken_of_stepAlias? {k : Kind} {word : String} (h : stepAlias? k = some word) :
    Text.Unbroken word := by
  unfold stepAlias? at h
  split at h <;> cases h <;> decide +kernel

lemma unbroken_privacy (p : Privacy) : Text.Unbroken p.word := by
  cases p <;> decide +kernel

lemma mem_of_stringCall? {d : Payload.Call} {receiver : NodeId} {command : String}
    (h : stringCall? ctx n = some (d, receiver, command)) :
    (command, .atLeast 1) ∈ arities.entries := by
  simp only [stringCall?, Option.bind_eq_bind, Option.bind_eq_some_iff] at h
  obtain ⟨d', -, access, -, command', hc, h⟩ := h
  split_ifs at h
  cases h
  unfold stringMethodCommand? at hc
  split_ifs at hc <;> cases hc <;> simp [arities]

section Handlers

variable (hT : ctx.tree.Vouches T)
include hT

lemma sound_source (m : NodeId) : (Argument.text (ctx.arena.text m)).Sound T :=
  .text (hT.supplied (.source m))

lemma sound_word {word : String} (h : Text.Unbroken word) : (Argument.text word).Sound T :=
  .text (hT.unbroken h)

lemma sound_privacy : (Argument.text (ctx.tree.privacy n).word).Sound T :=
  sound_word hT (unbroken_privacy _)

/-- A name that may be absent. -/
lemma sound_name (o : Option NodeId) :
    (Argument.text ((o.map ctx.arena.text).getD "")).Sound T := by
  cases o with
  | none => exact sound_word hT (show Text.Unbroken "" by decide)
  | some m => exact sound_source hT m

lemma sound_withReturnType {name : String} {f : TypeName → Plan}
    (h : ∀ t : TypeName, t.Sound T → (f t).Sound T) : (withReturnType ctx n name f).Sound T := by
  unfold withReturnType
  split
  · trivial
  · rename_i type htype
    exact h type ((TypedTree.built_returnType? htype).mono fun _ => hT.supplied).sound

lemma sound_ofBinary : (ofBinary ctx n).Sound T := by
  refine sound_need fun d => ?_
  split
  · trivial
  · rename_i word hword
    intro args hlen hargs
    obtain ⟨left, right, rfl⟩ := List.length_eq_two.1 hlen
    refine Command.sound_of_mem (.exactly 3) (by simp [arities]) rfl ?_
    have hword := sound_word hT (unbroken_of_operatorAlias? hword)
    simp only [List.forall_mem_cons] at hargs
    simpa [operationArgs] using ⟨hargs.1, hword, hargs.2.1⟩

lemma sound_ofUnary : (ofUnary ctx n).Sound T := by
  refine sound_need fun d => ?_
  split
  · exact hT.supplied (.source n)
  · rename_i word hword
    intro args _ _
    refine Command.sound_of_mem (.exactly 3) (by simp [arities]) rfl ?_
    have hword := sound_word hT (unbroken_of_stepAlias? hword)
    simpa using ⟨sound_source hT d.operand, hword, sound_word hT (by decide)⟩

lemma sound_callHead (call : Payload.Call) (inputs : Inputs) :
    MakesSound T inputs (callHead ctx call).withArgs := by
  intro args _ hargs
  unfold callHead
  split
  · rename_i access _
    refine sound_withArgs (.atLeast 2) (by simp [arities]) (Nat.le_add_right _ _) ?_ hargs
    simpa using ⟨sound_source hT access.expression, sound_source hT access.nameOrArgument⟩
  · refine sound_withArgs (.atLeast 1) (by simp [arities]) (Nat.le_add_right _ _) ?_ hargs
    simpa using sound_source hT call.expression

lemma sound_ofCall : (ofCall ctx n).Sound T := by
  unfold ofCall
  split
  · rename_i call receiver command hcall
    intro args _ hargs
    exact Command.sound_of_mem (.atLeast 1) (mem_of_stringCall? hcall)
      (by simp [Arity.Admits]) (List.forall_mem_cons.2 ⟨sound_source hT receiver, hargs⟩)
  · exact sound_need fun call => sound_callHead hT call _

lemma sound_ofClass : (ofClass ctx n).Sound T := by
  refine sound_need fun d => ?_
  split
  · trivial
  · rename_i name _
    refine ⟨fun args _ _ => ?_, sound_stop (by simp [arities])⟩
    exact Command.sound_of_mem (.exactly 1) (by simp [arities]) rfl
      (by simpa using sound_source hT name)

lemma sound_baseNames (clauses : List NodeId) : ∀ a ∈ baseNames ctx clauses, a.Sound T := by
  intro a ha
  obtain ⟨clause, -, ha⟩ := List.mem_flatMap.1 ha
  split at ha
  · cases ha
  · obtain ⟨ty, -, rfl⟩ := List.mem_map.1 ha
    exact sound_source hT _

lemma sound_ofInterface : (ofInterface ctx n).Sound T := by
  refine sound_need fun d => ⟨fun args _ _ => ?_, sound_stop (by simp [arities])⟩
  exact Command.sound_of_mem (.atLeast 1) (by simp [arities]) (by simp [Arity.Admits])
    (List.forall_mem_cons.2 ⟨sound_source hT d.name, sound_baseNames hT _⟩)

lemma sound_ofMethodSignature : (ofMethodSignature ctx n).Sound T := by
  refine sound_need fun d => sound_withReturnType hT fun type htype => ?_
  intro args hlen hargs
  refine Command.sound_of_mem (.pairsAfter 2) (by simp [arities]) ⟨d.parameters.length, ?_⟩ ?_
  · simp only [List.length_cons, hlen, Inputs.count]
    omega
  · simpa [List.forall_mem_cons] using ⟨sound_name hT d.name, htype, hargs⟩

lemma sound_ofMethod : (ofMethod ctx n).Sound T := by
  refine sound_need fun d => ?_
  cases d.name with
  | none => trivial
  | some name =>
    refine sound_withReturnType hT fun type htype => ?_
    refine ⟨fun args hlen hargs => ?_, sound_stop (by simp [arities])⟩
    refine Command.sound_of_mem (.pairsAfter 3) (by simp [arities]) ⟨d.parameters.length, ?_⟩ ?_
    · simp only [List.length_cons, hlen, Inputs.count]
      omega
    · simpa [List.forall_mem_cons] using ⟨sound_privacy hT, sound_source hT name, htype, hargs⟩

lemma sound_ofConstructor : (ofConstructor ctx n).Sound T := by
  refine sound_need fun d => ?_
  split
  · trivial
  · rename_i name hname
    refine ⟨fun args hlen hargs => ?_, sound_stop (by simp [arities])⟩
    refine Command.sound_of_mem (.pairsAfter 2) (by simp [arities]) ⟨d.parameters.length, ?_⟩ ?_
    · simp only [List.length_cons, hlen, Inputs.count]
      omega
    · have hclass : (Argument.text name).Sound T := by
        simp only [className?, Option.bind_eq_bind, Option.bind_eq_some_iff,
          Option.map_eq_some_iff] at hname
        obtain ⟨parent, -, d', -, m, -, rfl⟩ := hname
        exact sound_source hT m
      simpa [List.forall_mem_cons] using ⟨sound_privacy hT, hclass, hargs⟩

omit hT in
/-- An initializer is one argument or none. -/
lemma count_initializer (o : Option NodeId) :
    (Inputs.values o.toList).count = 0 ∨ (Inputs.values o.toList).count = 1 := by
  cases o with
  | none => exact .inl rfl
  | some m => exact .inr rfl

lemma sound_ofProperty : (ofProperty ctx n).Sound T := by
  refine sound_need fun d args hlen hargs => ?_
  refine sound_withArgs (.optionalAfter 2) (by simp [arities]) ?_ ?_ hargs
  · rw [hlen]
    exact (count_initializer d.initializer).imp (congrArg (2 + ·)) (congrArg (2 + ·))
  · simpa using ⟨sound_privacy hT, sound_source hT d.name⟩

lemma sound_ofVariable : (ofVariable ctx n).Sound T := by
  refine sound_need fun d => ?_
  split
  · trivial
  · rename_i type htype
    intro args hlen hargs
    refine sound_withArgs (.optionalAfter 2) (by simp [arities]) ?_ ?_ hargs
    · rw [hlen]
      exact (count_initializer d.initializer).imp (congrArg (2 + ·)) (congrArg (2 + ·))
    · have htype := ((TypedTree.built_typeName? htype).mono fun _ => hT.supplied).sound
      simpa using ⟨sound_source hT d.name, htype⟩

omit hT in
lemma sound_ofReturn : (ofReturn ctx n).Sound T := by
  intro args hlen hargs
  refine Command.sound_of_mem (.optionalAfter 0) (by simp [arities]) ?_ hargs
  rw [hlen]
  exact count_initializer _

lemma sound_ofLoop : (ofLoop ctx n).Sound T := by
  refine sound_need fun d => ?_
  split
  · trivial
  · rename_i loop _
    dsimp only
    split
    · trivial
    · refine ⟨fun args hlen hargs => ?_, sound_stop (by simp [arities])⟩
      refine Command.sound_of_mem (.exactly 4) (by simp [arities]) ?_ ?_
      · exact congrArg (· + 2) hlen
      · have hint := sound_word hT (show Text.Unbroken "int" by decide)
        simpa [List.forall_mem_cons] using ⟨sound_source hT loop.counter, hint, hargs⟩

/-- The plans of all handlers keep to the vocabulary. -/
lemma sound_of (h : Handler) : (of ctx n h).Sound T := by
  cases h with
  | literalValue => exact hT.supplied (.source n)
  | stringLiteral => exact hT.unbroken (Text.unbroken_requote _)
  | binary => exact sound_ofBinary hT
  | unary => exact sound_ofUnary hT
  | call => exact sound_ofCall hT
  | class_ => exact sound_ofClass hT
  | interface => exact sound_ofInterface hT
  | methodSignature => exact sound_ofMethodSignature hT
  | method => exact sound_ofMethod hT
  | constructor => exact sound_ofConstructor hT
  | property => exact sound_ofProperty hT
  | variableDeclaration => exact sound_ofVariable hT
  | returnStatement => exact sound_ofReturn
  | ifStatement => trivial
  | forStatement => exact sound_ofLoop hT
  | unsupported => trivial

end Handlers

end Plan

/-! ### Values and parameters -/

/-- The arguments, where there are some, are sound and as many as expected. -/
def Filled (T : String → Prop) (k : Nat) (o : Outcome (List Argument)) : Prop :=
  ∀ args, o = .value args → args.length = k ∧ ∀ a ∈ args, a.Sound T

lemma ensures_parameters_filled (hT : ctx.tree.Vouches T) (ps : List NodeId) :
    Ensures (parameters ctx ps) (Filled T (2 * ps.length)) := by
  induction ps with
  | nil =>
    refine .pure ?_
    rintro args ⟨⟩
    exact ⟨rfl, by simp⟩
  | cons p ps ih =>
    rw [parameters]
    split
    · rename_i type htype
      refine ih.bind fun o ho => ?_
      cases o with
      | complaints cs => exact .pure (by simp [Filled])
      | value args =>
        refine .pure ?_
        rintro _ ⟨⟩
        obtain ⟨hlen, hargs⟩ := ho args rfl
        have htype := ((TypedTree.built_typeName? htype).mono fun _ => hT.supplied).sound
        have hname := Plan.sound_name hT ((ctx.arena.valueDecl? p).map Payload.ValueDecl.name)
        rw [Option.map_map] at hname
        refine ⟨?_, List.forall_mem_cons.2 ⟨hname, List.forall_mem_cons.2 ⟨htype, hargs⟩⟩⟩
        simp only [List.length_cons, hlen]
        omega
    · refine (Ensures.complain _ _).bind fun c _ => ih.bind fun o _ => ?_
      cases o <;> exact .pure (by simp [Filled])

section Handlers

variable (hT : ctx.tree.Vouches T) (ht : ∀ m, Ensures (visit m) Tidy)
variable (hv : ∀ m, Ensures (visit m) (Conforms T))

include hv in
lemma ensures_all_conforms (ns : List NodeId) : Ensures (all visit ns) (Conforms T) := by
  induction ns with
  | nil => exact .pure .nil
  | cons m ns ih => exact (hv m).bind fun fs hf => ih.bind fun gs hg => .pure (hf.append hg)

include hT ht hv

/-- The line of a value is sound, and it is no block command: lines are made of blocks, and a block
has more lines than one. -/
lemma ensures_value_sound (m : NodeId) :
    Ensures (value ctx visit m) fun o => ∀ a, o = .value a → a.Sound T := by
  refine ((ht m).and (hv m)).bind fun fs hf => ?_
  obtain ⟨htidy, hsound⟩ := hf
  dsimp only
  split
  · refine .pure ?_
    rintro _ ⟨⟩
    exact .text (hT.supplied (.source m))
  · rename_i c _ hlines
    refine .pure ?_
    rintro _ ⟨⟩
    have hc : c.Sound T := hsound (.command c) (hlines ▸ List.mem_singleton_self _)
    exact hc.asArgument (Command.flat_of_derives (hlines ▸ htidy))
  · rename_i text _ hlines
    refine .pure ?_
    rintro _ ⟨⟩
    exact .text (hsound (.literal text) (hlines ▸ List.mem_singleton_self _))
  · exact (Ensures.complain _ _).bind fun c _ => .pure (by simp)
  · exact .pure (by simp)

lemma ensures_values_filled (ns : List NodeId) :
    Ensures (values ctx visit ns) (Filled T ns.length) := by
  induction ns with
  | nil =>
    refine .pure ?_
    rintro args ⟨⟩
    exact ⟨rfl, by simp⟩
  | cons m ns ih =>
    refine (ensures_value_sound hT ht hv m).bind fun v hsv => ih.bind fun vs hvs => .pure ?_
    intro args hargs
    cases v <;> cases vs <;> cases hargs
    rename_i a as
    obtain ⟨hlen, hall⟩ := hvs as rfl
    exact ⟨congrArg (· + 1) hlen, List.forall_mem_cons.2 ⟨hsv a rfl, hall⟩⟩

lemma ensures_gather_filled (inputs : Inputs) :
    Ensures (gather ctx visit inputs) (Filled T inputs.count) := by
  cases inputs with
  | values ns => exact ensures_values_filled hT ht hv ns
  | parameters ps => exact ensures_parameters_filled hT ps

/-! ### If statements -/

lemma ensures_branch_sound {start : String} (hstart : (start, .exactly 1) ∈ arities.entries)
    (m : NodeId) : Ensures (branch ctx visit start m) fun b => SoundOutputs T b.output := by
  refine (Ensures.need _ _ _ _).bind fun d _ => ?_
  refine (ensures_value_sound hT ht hv _).bind fun o ho => (hv _).bind fun fs hf => ?_
  cases o with
  | value c =>
    have hc := ho c rfl
    exact .pure (.command_cons (Command.sound_of_mem _ hstart rfl (by simpa using hc)) hf)
  | complaints cs => exact .pure hf

lemma ensures_branches_sound {start : String} (hstart : (start, .exactly 1) ∈ arities.entries)
    (ns : List NodeId) :
    Ensures (branches ctx visit start ns) fun b => SoundOutputs T b.output := by
  induction ns generalizing start with
  | nil => exact .pure .nil
  | cons m ns ih =>
    have hnext : (CommandName.elseIfStart, .exactly 1) ∈ arities.entries := by simp [arities]
    refine (ensures_branch_sound hT ht hv hstart m).bind fun a ha => ?_
    exact (ih hnext).bind fun b hb => .pure (ha.append hb)

omit hT ht in
lemma ensures_elseBranch_sound (o : Option NodeId) :
    Ensures (elseBranch visit o) (SoundOutputs T) := by
  cases o with
  | none => exact .pure .nil
  | some m =>
    exact (hv m).bind fun fs hf => .pure (.command_cons (Plan.sound_stop (by simp [arities])) hf)

lemma ensures_ifStatement_conforms :
    Ensures (ifStatement ctx visit n) fun r => Conforms T r.toList := by
  have hstart : (CommandName.ifStart, .exactly 1) ∈ arities.entries := by simp [arities]
  unfold ifStatement
  dsimp only
  refine (ensures_branches_sound hT ht hv hstart _).bind fun b hb => ?_
  refine (ensures_elseBranch_sound hv _).bind fun out ho => ?_
  split
  · have hstop : SoundOutputs T [.command ⟨CommandName.ifEnd, []⟩] :=
      SoundOutputs.nil.command_cons (Plan.sound_stop (by simp [arities]))
    exact .pure ((hb.append ho).append hstop).transformation
  · exact .pure (conforms_surface _)

/-! ### All nodes -/

omit hT ht hv in
/-- A visit after an outcome conforms when it does for the arguments that are gathered. -/
lemma ensures_ofOutcome_conforms {k : Nat} {f : List Argument → Visit (Option Fragment)}
    (hf : ∀ args, args.length = k → (∀ a ∈ args, a.Sound T) →
      Ensures (f args) fun r => Conforms T r.toList)
    {o : Outcome (List Argument)} (ho : Filled T k o) :
    Ensures (ofOutcome ctx n f o) fun r => Conforms T r.toList := by
  cases o with
  | value args => exact hf args (ho args rfl).1 (ho args rfl).2
  | complaints cs => exact .pure (conforms_surface cs)

lemma ensures_carryOut_conforms {p : Plan} (hp : p.Sound T) :
    Ensures (carryOut ctx visit n p) fun r => Conforms T r.toList := by
  cases p with
  | lack what => exact .throw (Ensures.missing_ne_indent ctx n what)
  | nothing => exact .pure .nil
  | complain reason =>
    exact (Ensures.complaint ctx n reason).bind fun _ ⟨c, hc⟩ => .pure (hc ▸ Conforms.complaint c)
  | verbatim text => exact .pure (conforms_verbatim hp)
  | line inputs command =>
    refine (ensures_gather_filled hT ht hv inputs).bind fun o ho => ?_
    refine ensures_ofOutcome_conforms (fun args hlen hargs => ?_) ho
    exact .pure (conforms_line (hp args hlen hargs))
  | block inputs start body stop =>
    refine (ensures_gather_filled hT ht hv inputs).bind fun o ho => ?_
    refine ensures_ofOutcome_conforms (fun args hlen hargs => ?_) ho
    refine (ensures_all_conforms hv body).bind fun fs hf => .pure ?_
    exact conforms_block (hp.1 args hlen hargs) hf hp.2
  | conditional => exact ensures_ifStatement_conforms hT ht hv

lemma ensures_dispatch_conforms (kind : Kind) :
    Ensures (dispatch ctx visit n kind) (Conforms T) := by
  refine Ensures.get.bind fun s _ => (Ensures.note _).bind fun _ _ => ?_
  split
  · rw [handle_eq]
    exact (ensures_carryOut_conforms hT ht hv (Plan.sound_of hT _)).bind fun r hr => .pure hr
  · exact ensures_all_conforms hv _
  · exact .pure .nil
  · split
    · exact (Ensures.complaint ctx n _).bind fun _ ⟨c, hc⟩ => .pure (hc ▸ Conforms.complaint c)
    · exact ensures_all_conforms hv _

end Handlers

lemma ensures_node_conforms (hT : ctx.tree.Vouches T) (n : NodeId) :
    Ensures (node ctx n) (Conforms T) :=
  ensures_node_of_dispatch (fun _ => Conforms T)
    (fun levels _ node _ ih =>
      ensures_dispatch_conforms hT (ensures_nodeWithin ctx levels) ih node.kind) n

end Visit

/-! ### Comments and whole documents -/

lemma SoundOutputs.commands {cs : List Command} (h : ∀ c ∈ cs, c.Sound T) :
    SoundOutputs T (cs.map .command) := by
  induction cs with
  | nil => exact nil
  | cons c cs ih =>
    obtain ⟨hc, hcs⟩ := List.forall_mem_cons.1 h
    exact command_cons hc (ih hcs)

lemma Conforms.of_forall {fs : List Fragment} (h : ∀ f ∈ fs, Conforms T [f]) : Conforms T fs := by
  induction fs with
  | nil => exact nil
  | cons f fs ih =>
    obtain ⟨hf, hfs⟩ := List.forall_mem_cons.1 h
    exact append hf (ih hfs)

/-- A comment conforms when `T` holds of what it says. -/
lemma CommentRange.conforms {r : CommentRange} {source : String} (hempty : T "")
    (h : ∀ line ∈ r.bodyLines source, T line) :
    Conforms T [.transformation (r.transformation source)] := by
  suffices hout : SoundOutputs T (r.transformation source).output from hout.transformation
  unfold CommentRange.transformation
  dsimp only
  split
  · -- A block comment: its start, a command for each of its lines, and its end.
    have hline : ∀ c ∈ (r.bodyLines source).map fun line =>
        (⟨CommandName.commentBlock, [.text line]⟩ : Command), c.Sound T := by
      intro c hc
      obtain ⟨line, hl, rfl⟩ := List.mem_map.1 hc
      exact Command.sound_of_mem (.exactly 1) (by simp [arities]) rfl
        (by simpa using .text (h line hl))
    have hbody := SoundOutputs.commands hline
    have hstop : SoundOutputs T [.command ⟨CommandName.commentBlockEnd, []⟩] :=
      SoundOutputs.nil.command_cons (Visit.Plan.sound_stop (by simp [arities]))
    rw [List.map_map] at hbody
    exact .command_cons (Visit.Plan.sound_stop (by simp [arities])) (hbody.append hstop)
  · have hline : T ((r.bodyLines source).headD "") := by
      cases hb : r.bodyLines source with
      | nil => exact hempty
      | cons line _ => exact h line (by simp [hb])
    refine SoundOutputs.nil.command_cons
      (Command.sound_of_mem (.exactly 1) (by simp [arities]) rfl ?_)
    exact List.forall_mem_singleton.2 (.text hline)

/-- The fragments of a document conform when `T` holds of what its comments say, should they be
wanted. -/
lemma Transformer.ensures_allFragments_conforms {ctx : Context} (hT : ctx.tree.Vouches T)
    (root : NodeId) {ts : List Transformer}
    (hc : .comments ∈ ts → ∀ r ∈ CommentRange.scan ctx.arena.sourceText,
      ∀ line ∈ r.bodyLines ctx.arena.sourceText, T line) :
    Visit.Ensures (allFragments ctx root ts) (Conforms T) := by
  induction ts with
  | nil => exact .pure .nil
  | cons t ts ih =>
    have ht : Visit.Ensures (t.fragments ctx root) (Conforms T) := by
      cases t with
      | sourceFile => exact Visit.ensures_node_conforms hT root
      | comments =>
        refine .pure (.of_forall fun f hf => ?_)
        obtain ⟨r, hr, rfl⟩ := List.mem_map.1 hf
        exact r.conforms (hT.unbroken (by decide)) (hc List.mem_cons_self r hr)
    have ih := ih fun hmem => hc (List.mem_cons_of_mem t hmem)
    exact ht.bind fun fs hf => ih.bind fun gs hg => .pure (hf.append hg)

/-- The lines of a program are sound, for every property of texts that the tree and the comments
vouch for. -/
lemma sound_of_mem_lines {arena : Arena} {types : TypeTable} {root : NodeId} {options : Options}
    {p : Program} (h : programOf arena types root options = .ok p)
    (hT : (⟨arena, types⟩ : TypedTree).Vouches T)
    (hc : options.skipComments = false → ∀ r ∈ CommentRange.scan arena.sourceText,
      ∀ line ∈ r.bodyLines arena.sourceText, T line) :
    ∀ l ∈ p.lines, l.Sound T := by
  obtain ⟨fs, hfs, rfl⟩ := Indent.map_eq_ok h
  have hcomments : .comments ∈ Transformer.ofOptions options → options.skipComments = false := by
    unfold Transformer.ofOptions
    split <;> simp_all
  have hctx : (Context.ofRoot arena types root).tree.Vouches T := hT
  exact (Transformer.ensures_allFragments_conforms hctx root fun hmem =>
    hc (hcomments hmem)).of_run hfs

/-- The commands of a program are sound, whatever its texts are. -/
lemma sound_of_command_mem_lines {arena : Arena} {types : TypeTable} {root : NodeId}
    {options : Options} {p : Program} (h : programOf arena types root options = .ok p)
    {c : Command} (hc : .command c ∈ p.lines) : c.Sound fun _ => True :=
  sound_of_mem_lines h ⟨fun _ => trivial, fun _ => trivial⟩ (fun _ _ _ _ _ => trivial) _ hc

/-- Every command of a program is in the catalog and has the arity of its name, at the top and at
any depth inside arguments; and inside arguments no command changes the indentation. -/
theorem program_keeps_to_vocabulary (arena : Arena) (types : TypeTable) (root : NodeId)
    (options : Options) (p : Program) (h : programOf arena types root options = .ok p)
    (c : Command) (hc : .command c ∈ p.lines) :
    (Catalog.builtin.contains c.name = true ∧ c.Fits) ∧
    ∀ d ∈ c.nested, (Catalog.builtin.contains d.name = true ∧ d.Fits) ∧
      Catalog.builtin.indentation? d.name = some [] := by
  have hsound := sound_of_command_mem_lines h hc
  have hknown : ∀ d : Command, d.Fits → Catalog.builtin.contains d.name = true ∧ d.Fits := by
    rintro d ⟨a, ha, hlen⟩
    exact ⟨contains_of_arity? ha, a, ha, hlen⟩
  refine ⟨hknown c hsound.fits, fun d hd => ?_⟩
  obtain ⟨hfits, hflat⟩ := hsound.nested d hd
  exact ⟨hknown d hfits, hflat⟩

/-- An operation among the arguments of a call: `f(a + 1);`. -/
def nestedArena : Arena where
  sourceText := "f(a + 1);"
  nodes := #[
    { kind := .identifier, pos := 0, stop := 1, payload := .identifier "f" },
    { kind := .identifier, pos := 2, stop := 3, payload := .identifier "a" },
    { kind := .numericLiteral, pos := 6, stop := 7, payload := .literal "1" },
    { kind := .binaryExpression, pos := 2, stop := 7,
      payload := .binary ⟨⟨1⟩, .plusToken, ⟨2⟩⟩ },
    { kind := .callExpression, pos := 0, stop := 8, payload := .call ⟨⟨0⟩, [], [⟨3⟩]⟩ },
    { kind := .expressionStatement, pos := 0, stop := 9, payload := .wrapped (some ⟨4⟩) },
    { kind := .sourceFile, pos := 0, stop := 9, payload := .list [⟨5⟩] }]

/-- The operation, as it is written. -/
def nestedOperation : Command := ⟨CommandName.operation, [.text "a", .text "plus", .text "1"]⟩

/-- The call, as it is written. -/
def nestedCall : Command :=
  ⟨CommandName.functionCall, [.text "f", nestedOperation.toArgument]⟩

theorem nested_keeps_to_vocabulary :
    programOf nestedArena {} ⟨6⟩ {} = .ok { lines := [.command nestedCall] } ∧
    (Catalog.builtin.contains nestedCall.name = true ∧ nestedCall.Fits) ∧
    (Catalog.builtin.contains nestedOperation.name = true ∧ nestedOperation.Fits) ∧
    Catalog.builtin.indentation? nestedOperation.name = some [] := by
  have h : programOf nestedArena {} ⟨6⟩ {} = .ok { lines := [.command nestedCall] } := rfl
  obtain ⟨hcall, hnested⟩ := program_keeps_to_vocabulary _ _ _ _ _ h nestedCall List.mem_cons_self
  exact ⟨h, hcall, hnested nestedOperation List.mem_cons_self⟩

end Gls
