/-
# Constructors stand in their classes

The line that starts a constructor gives the name of its class.  The handler finds the class through
the parent of the constructor, but the block in which the line comes to stand is that of whatever
node has visited the constructor.  This file shows that the two agree in a document that was read:
every constructor is written inside a class block, and with the name that this block starts with.

Lines are read with the stack of the classes that are open.  A list of lines is `Housed` in a stack
when it leaves the stack as it was, and every constructor in it names the class on top.  Fragments
of a node are housed in every stack that suits the node; only a constructor is particular about it.
A handler visits the nodes of a block one link down, so when parents agree with child links, the
class that a constructor finds is the one that has visited it.
-/
import Gls.Proofs.Document.RoundTrip
import Gls.Proofs.Layout.Comments
import Gls.Proofs.Tree.Linked
import Gls.Proofs.Visit.Parts
import Gls.Proofs.Visit.Silence
import Gls.Proofs.Vocabulary.Arity

namespace Gls

/-! ### Open classes -/

/-- The command that starts the class of a name. -/
def classStartOf (name : String) : Command := ⟨CommandName.classStart, [.text name]⟩

/-- The starts of the classes that are open after a line, innermost first. -/
def Line.nest (opened : List Command) : Line → List Command
  | .literal _ => opened
  | .command c =>
    if c.name = CommandName.classStart then c :: opened
    else if c.name = CommandName.classEnd then opened.tail
    else opened

/-- The starts of the classes that are open after some lines, innermost first. -/
def openClasses (opened : List Command) (ls : List Line) : List Command :=
  ls.foldl Line.nest opened

/-- If the line starts a constructor, it gives the name of the innermost open class after the
privacy. -/
def Line.NamesClass (opened : List Command) : Line → Prop
  | .literal _ => True
  | .command c => c.name = CommandName.constructorStart → ∃ privacy name params,
      c.args = .text privacy :: .text name :: params ∧ opened.head? = some (classStartOf name)

/-- Every line that starts a constructor names the class that is innermost when it comes. -/
def NameClasses : List Command → List Line → Prop
  | _, [] => True
  | opened, l :: ls => l.NamesClass opened ∧ NameClasses (l.nest opened) ls

/-- The lines open and close classes in pairs, and their constructors name the innermost class. -/
structure Housed (opened : List Command) (ls : List Line) : Prop where
  level : openClasses opened ls = opened
  named : NameClasses opened ls

/-- The commands that matter to classes and constructors. -/
def houseNames : List String :=
  [CommandName.classStart, CommandName.classEnd, CommandName.constructorStart]

variable {opened : List Command}

lemma openClasses_append (xs ys : List Line) :
    openClasses opened (xs ++ ys) = openClasses (openClasses opened xs) ys :=
  List.foldl_append

lemma nameClasses_append {xs ys : List Line} :
    NameClasses opened (xs ++ ys)
      ↔ NameClasses opened xs ∧ NameClasses (openClasses opened xs) ys := by
  induction xs generalizing opened with
  | nil => simp [NameClasses, openClasses]
  | cons x xs ih =>
    rw [List.cons_append, NameClasses, ih, NameClasses, and_assoc]
    rfl

/-- A constructor names the class that is innermost after the lines before it. -/
lemma NameClasses.of_split {ls before after : List Line} {l : Line} (h : NameClasses opened ls)
    (hs : ls = before ++ l :: after) : l.NamesClass (openClasses opened before) := by
  subst hs
  exact (nameClasses_append.1 h).2.1

namespace Housed

lemma nil : Housed opened [] := ⟨rfl, trivial⟩

lemma append {xs ys : List Line} (hx : Housed opened xs) (hy : Housed opened ys) :
    Housed opened (xs ++ ys) where
  level := by rw [openClasses_append, hx.level, hy.level]
  named := nameClasses_append.2 ⟨hx.named, hx.level.symm ▸ hy.named⟩

lemma literal (text : String) : Housed opened [.literal text] := ⟨rfl, trivial, trivial⟩

/-- A command of another name neither opens nor closes a class, and is no constructor. -/
lemma command {c : Command} (h : c.name ∉ houseNames) : Housed opened [.command c] := by
  simp only [houseNames, List.mem_cons, List.not_mem_nil, or_false, not_or] at h
  obtain ⟨hstart, hend, hconstructor⟩ := h
  refine ⟨?_, fun hc => absurd hc hconstructor, trivial⟩
  simp [openClasses, Line.nest, hstart, hend]

/-- A command that opens no block. -/
lemma flat {c : Command} (h : Catalog.builtin.indentation? c.name = some []) :
    Housed opened [.command c] := by
  have hall : ∀ name ∈ houseNames, Catalog.builtin.indentation? name ≠ some [] := by decide +kernel
  exact command fun hc => hall _ hc h

lemma of_flat {cs : List Command}
    (h : ∀ c ∈ cs, Catalog.builtin.indentation? c.name = some []) :
    Housed opened (cs.map .command) := by
  induction cs with
  | nil => exact nil
  | cons c cs ih =>
    obtain ⟨hc, hcs⟩ := List.forall_mem_cons.1 h
    exact (flat hc).append (ih hcs)

/-- A class block is housed anywhere, when what it holds is housed in the class. -/
lemma classBlock {name : String} {stop : Command} {body : List Line}
    (hstop : stop.name = CommandName.classEnd) (hb : Housed (classStartOf name :: opened) body) :
    Housed opened (.command (classStartOf name) :: body ++ [.command stop]) := by
  have hopen : Line.nest opened (.command (classStartOf name)) = classStartOf name :: opened := rfl
  have hne : stop.name ≠ CommandName.classStart ∧ stop.name ≠ CommandName.constructorStart := by
    rw [hstop]
    decide
  have hclose : Line.nest (classStartOf name :: opened) (.command stop) = opened := by
    rw [Line.nest, if_neg hne.1, if_pos hstop]
    rfl
  refine ⟨?_, ?_⟩
  · rw [List.cons_append, openClasses, List.foldl_cons, hopen, ← openClasses, openClasses_append,
      hb.level]
    exact hclose
  · rw [List.cons_append, NameClasses, hopen, nameClasses_append]
    have hname : CommandName.classStart ≠ CommandName.constructorStart := by decide
    exact ⟨fun hc => absurd hc hname, hb.named, fun hc => absurd hc hne.2, trivial⟩

/-- The start of a constructor is housed in its class. -/
lemma constructorStart {privacy name : String} {params : List Argument}
    (h : opened.head? = some (classStartOf name)) :
    Housed opened [.command ⟨CommandName.constructorStart,
      .text privacy :: .text name :: params⟩] :=
  ⟨rfl, fun _ => ⟨privacy, name, params, rfl, h⟩, trivial⟩

end Housed

/-! ### Parents and child links -/

/-- The payload is that of a class. -/
def Payload.isClass : Payload → Bool
  | .class_ _ => true
  | _ => false

namespace Arena

variable {a : Arena} {p m : NodeId}

/-- Every node that is there knows the node that names it as a child. -/
def Linked (a : Arena) : Prop := ∀ p c, a.Child p c → (a.get? c).isSome → a.parent? c = some p

/-- Where no node is named twice, linking finds for every child the node that names it. -/
lemma linked_of_linkParents (h : a.linkParents = a) (hnodup : a.childLists.flatten.Nodup) :
    a.Linked := by
  intro p c hpc hc
  -- The last node to name the child is the only one.
  have hnamed := namedAt_of_child hpc
  have hnamer : a.namer? c.toNat = some p.toNat :=
    namer?_eq_some_iff.2 ⟨hnamed, fun i hi => (eq_of_namedAt hnodup hi hnamed).le⟩
  have hparent := parent?_linkParents_of_namer? hnamer
  obtain ⟨node, hnode⟩ := Option.isSome_iff_exists.1 hc
  rw [h, hnode, Option.map_some, NodeId.ofNat_toNat] at hparent
  exact hparent

lemma class?_eq_none {d : Payload} (h : a.payload? p = some d) (hd : d.isClass = false) :
    a.class? p = none := by
  rw [class?, holds?, h]
  cases d with
  | class_ c => cases hd
  | _ => rfl

lemma class?_of_holds? {α : Type} {form : Payload.Form α} {x : α} (h : a.holds? form p = some x)
    (hx : (form.make x).isClass = false) : a.class? p = none :=
  class?_eq_none (holds?_eq_some_iff.1 h) hx

lemma class?_of_interface? {d : Payload.Interface} (h : a.interface? p = some d) :
    a.class? p = none :=
  class?_of_holds? h rfl

lemma class?_of_function? {d : Payload.Function} (h : a.function? p = some d) :
    a.class? p = none :=
  class?_of_holds? h rfl

lemma class?_of_loop? {d : Payload.Loop} (h : a.loop? p = some d) : a.class? p = none :=
  class?_of_holds? h rfl

lemma class?_of_conditional? {d : Payload.Conditional} (h : a.conditional? p = some d) :
    a.class? p = none :=
  class?_of_holds? h rfl

end Arena

namespace Visit

variable {ctx : Context} {visit : Visitor} {n m q : NodeId}

/-! ### Stacks that suit a node -/

/-- If the node is a constructor of a class with a name, this class is innermost. -/
def Suits (ctx : Context) (m : NodeId) (opened : List Command) : Prop :=
  ctx.arena.kind? m = some .constructor → ∀ name, className? ctx m = some name →
    opened.head? = some (classStartOf name)

/-- The fragments of the node are housed wherever the open classes suit it. -/
def HousedAt (ctx : Context) (m : NodeId) (fs : List Fragment) : Prop :=
  ∀ opened, Suits ctx m opened → Housed opened (Program.ofFragments fs).lines

/-- The class that a child finds is the node that names it. -/
lemma exists_of_className? (hl : ctx.arena.Linked) (hc : ctx.arena.Child q m) {name : String}
    (h : className? ctx m = some name) :
    ∃ d c, ctx.arena.class? q = some d ∧ d.name = some c ∧ name = ctx.arena.text c := by
  simp only [className?, Option.bind_eq_bind, Option.bind_eq_some_iff,
    Option.map_eq_some_iff] at h
  obtain ⟨p, hp, d, hd, c, hname, rfl⟩ := h
  have hm : (ctx.arena.get? m).isSome := by
    obtain ⟨node, hnode, -⟩ := Option.bind_eq_some_iff.1 hp
    simp [hnode]
  obtain rfl := Option.some.inj (hp.symm.trans (hl q m hc hm))
  exact ⟨d, c, hd, hname, rfl⟩

lemma suits_of_child (hl : ctx.arena.Linked) (hc : ctx.arena.Child q m)
    (hq : ctx.arena.class? q = none) : Suits ctx m opened := by
  intro _ name hname
  obtain ⟨d, c, hd, -, -⟩ := exists_of_className? hl hc hname
  rw [hq] at hd
  cases hd

lemma suits_of_member (hl : ctx.arena.Linked) (hc : ctx.arena.Child q m) {d : Payload.Class}
    {c : NodeId} (hd : ctx.arena.class? q = some d) (hn : d.name = some c) :
    Suits ctx m (classStartOf (ctx.arena.text c) :: opened) := by
  intro _ name hname
  obtain ⟨d', c', hd', hn', rfl⟩ := exists_of_className? hl hc hname
  obtain rfl := Option.some.inj (hd.symm.trans hd')
  obtain rfl := Option.some.inj (hn.symm.trans hn')
  rfl

/-! ### Blocks -/

/-- A block that may be written for a node: a class with its members, a constructor in its class, or
a block that has nothing to do with classes.  It holds children of the node. -/
inductive Encloses (ctx : Context) (n : NodeId) : Command → List NodeId → Command → Prop where
  | class_ {d : Payload.Class} {name : NodeId} {body : List NodeId} {stop : Command}
      (hd : ctx.arena.class? n = some d) (hn : d.name = some name)
      (hb : ∀ m ∈ body, ctx.arena.Child n m) (hs : stop.name = CommandName.classEnd) :
      Encloses ctx n (classStartOf (ctx.arena.text name)) body stop
  | constructor {privacy name : String} {params : List Argument} {body : List NodeId}
      {stop : Command} (hk : ctx.arena.kind? n = some .constructor)
      (hname : className? ctx n = some name) (hc : ctx.arena.class? n = none)
      (hb : ∀ m ∈ body, ctx.arena.Child n m) (hs : stop.name ∉ houseNames) :
      Encloses ctx n ⟨CommandName.constructorStart, .text privacy :: .text name :: params⟩ body stop
  | other {start stop : Command} {body : List NodeId} (hstart : start.name ∉ houseNames)
      (hc : ctx.arena.class? n = none) (hb : ∀ m ∈ body, ctx.arena.Child n m)
      (hs : stop.name ∉ houseNames) : Encloses ctx n start body stop

/-- Whatever the arguments, a block that the plan writes may be written for the node. -/
def Plan.Encloses (ctx : Context) (n : NodeId) : Plan → Prop
  | .block _ start body stop => ∀ args, Visit.Encloses ctx n (start args) body stop
  | _ => True

namespace Plan

lemma encloses_need {α : Type} {what : String} {o : Option α} {g : α → Plan}
    (h : ∀ x, o = some x → (g x).Encloses ctx n) : (need what o g).Encloses ctx n := by
  cases o with
  | none => trivial
  | some x => exact h x rfl

lemma encloses_withReturnType {name : String} {f : TypeName → Plan}
    (h : ∀ type, (f type).Encloses ctx n) : (withReturnType ctx n name f).Encloses ctx n := by
  unfold withReturnType
  split
  · trivial
  · exact h _

lemma encloses_ofClass : (ofClass ctx n).Encloses ctx n := by
  refine encloses_need fun d hd => ?_
  cases hname : d.name with
  | none => trivial
  | some name =>
    intro args
    refine .class_ hd hname (fun m hm => ?_) rfl
    rw [Arena.Child, Arena.children_of_class? hd]
    exact List.mem_append_right _ hm

lemma encloses_ofInterface : (ofInterface ctx n).Encloses ctx n := by
  refine encloses_need fun d hd args => ?_
  have hstart : CommandName.interfaceStart ∉ houseNames := by decide
  refine .other hstart (Arena.class?_of_interface? hd) (fun m hm => ?_) (by decide)
  rw [Arena.Child, Arena.children_of_interface? hd]
  exact List.mem_append_right _ hm

/-- The body of a function is a child of it. -/
lemma child_of_body {d : Payload.Function} (hd : ctx.arena.function? n = some d) :
    ∀ m ∈ d.body.toList, ctx.arena.Child n m := by
  intro m hm
  rw [Arena.Child, Arena.children_of_function? hd]
  exact List.mem_append_right _ hm

lemma encloses_ofMethod : (ofMethod ctx n).Encloses ctx n := by
  refine encloses_need fun d hd => encloses_need fun name _ =>
    encloses_withReturnType fun type args => ?_
  have hstart : CommandName.memberFunctionStart ∉ houseNames := by decide
  exact .other hstart (Arena.class?_of_function? hd) (child_of_body hd) (by decide)

lemma encloses_ofConstructor (hk : ctx.arena.kind? n = some .constructor) :
    (ofConstructor ctx n).Encloses ctx n := by
  refine encloses_need fun d hd => ?_
  cases hname : className? ctx n with
  | none => trivial
  | some name =>
    intro args
    exact .constructor hk hname (Arena.class?_of_function? hd) (child_of_body hd) (by decide)

lemma encloses_ofLoop : (ofLoop ctx n).Encloses ctx n := by
  refine encloses_need fun d hd => ?_
  split
  · trivial
  · dsimp only
    split
    · trivial
    · intro args
      have hstart : CommandName.forNumbersStart ∉ houseNames := by decide
      refine .other hstart (Arena.class?_of_loop? hd) (fun m hm => ?_) (by decide)
      rw [Arena.Child, Arena.children_of_loop? hd]
      exact List.mem_append_right _ hm

/-- The plan of a handler that is called for the kind of the node. -/
lemma encloses_of {k : Kind} (hk : ctx.arena.kind? n = some k) (h : Handler)
    (hr : Route.ofKind k = .handle h) : (of ctx n h).Encloses ctx n := by
  have hall : ∀ k ∈ Kind.all, Route.ofKind k = .handle .constructor → k = .constructor := by
    decide +kernel
  cases h with
  | class_ => exact encloses_ofClass
  | interface => exact encloses_ofInterface
  | method => exact encloses_ofMethod
  | constructor =>
    obtain rfl := hall k (Kind.mem_all k) hr
    exact encloses_ofConstructor hk
  | forStatement => exact encloses_ofLoop
  | literalValue | stringLiteral | ifStatement | unsupported | returnStatement => trivial
  | methodSignature => exact encloses_need fun d _ => encloses_withReturnType fun type => trivial
  | property => exact encloses_need fun d _ => trivial
  | binary | unary | variableDeclaration => exact encloses_need fun d _ => by split <;> trivial
  | call =>
    rw [of, ofCall]
    split
    · trivial
    · exact encloses_need fun call _ => trivial

end Plan

/-! ### Visits -/

/-- The else branch at the end of a chain is named by an if statement. -/
lemma exists_of_otherwise {a : Arena} {fuel : Nat} {l : NodeId}
    (h : (chainWithin a fuel l).otherwise = some m) :
    ∃ q d, a.conditional? q = some d ∧ a.Child q m := by
  induction fuel generalizing l with
  | zero => cases h
  | succ fuel ih =>
    rcases chainWithin_succ a fuel l with hc | ⟨d, next, hd, he, hc | ⟨-, hc⟩⟩
    · rw [hc] at h
      cases h
    · rw [hc] at h
      cases h
      exact ⟨l, d, hd, child_of_elseStatement hd he⟩
    · rw [hc] at h
      exact ih h

/-- What results satisfy may depend on something that is chosen afterwards. -/
lemma Ensures.forall_imp {α ι : Type} {x : Visit α} {P : ι → Prop} {Q : ι → α → Prop}
    {R : α → Prop} (hx : Ensures x R) (h : ∀ i, P i → Ensures x (Q i)) :
    Ensures x fun a => ∀ i, P i → Q i a where
  ok hr i hi := (h i hi).ok hr
  error hr := hx.error hr

section Handlers

variable (opened)
variable (hl : ctx.arena.Linked) (ht : ∀ m, Ensures (visit m) Tidy)
variable (hv : ∀ m, Ensures (visit m) (HousedAt ctx m))

include hv in
lemma ensures_all_housed {ns : List NodeId} (hs : ∀ m ∈ ns, Suits ctx m opened) :
    Ensures (all visit ns) fun fs => Housed opened (Program.ofFragments fs).lines := by
  induction ns with
  | nil => exact .pure .nil
  | cons m ns ih =>
    obtain ⟨hm, hns⟩ := List.forall_mem_cons.1 hs
    refine (hv m).bind fun fs hf => (ih hns).bind fun gs hg => .pure ?_
    rw [Program.ofFragments_append, Program.lines_append]
    exact (hf opened hm).append hg

include hl hv in
lemma ensures_block_housed {start stop : Command} {body : List NodeId}
    (he : Encloses ctx n start body stop) (hs : Suits ctx n opened) :
    Ensures (do return some (block ctx n start (← all visit body) stop)) fun r =>
      Housed opened (Program.ofFragments r.toList).lines := by
  cases he with
  | @class_ d name _ _ hd hn hb hstop =>
    -- The members are housed in their class, and the class wherever it stands.
    refine (ensures_all_housed (classStartOf (ctx.arena.text name) :: opened) hv
      fun m hm => suits_of_member hl (hb m hm) hd hn).bind fun fs hf => .pure ?_
    rw [Option.toList, lines_block]
    exact .classBlock hstop hf
  | constructor hk hname hc hb hstop =>
    refine (ensures_all_housed opened hv fun m hm => suits_of_child hl (hb m hm) hc).bind
      fun fs hf => .pure ?_
    rw [Option.toList, lines_block, ← List.singleton_append]
    exact ((Housed.constructorStart (hs hk _ hname)).append hf).append (.command hstop)
  | other hstart hc hb hstop =>
    refine (ensures_all_housed opened hv fun m hm => suits_of_child hl (hb m hm) hc).bind
      fun fs hf => .pure ?_
    rw [Option.toList, lines_block, ← List.singleton_append]
    exact ((Housed.command hstart).append hf).append (.command hstop)

omit opened in
include ht in
lemma ensures_gather (inputs : Inputs) : Ensures (gather ctx visit inputs) fun _ => True := by
  cases inputs with
  | values ns => exact ensures_values ht ns
  | parameters ps => exact ensures_parameters ps

include hl ht hv

/-- A link of a chain: whether or not its condition complains, its lines are housed. -/
lemma ensures_branch_housed {start : String} (hstart : start ∉ houseNames) (l : NodeId) :
    Ensures (branch ctx visit start l) fun b =>
      Housed opened (Program.ofOutputs b.output).lines := by
  refine (Ensures.need _ _ _ _).bind fun d hd => ?_
  have hthen : Suits ctx d.thenStatement opened := by
    refine suits_of_child (q := l) hl ?_ (Arena.class?_of_conditional? hd)
    rw [Arena.Child, Arena.children_of_conditional? hd]
    simp [Payload.children]
  refine (ensures_value ht _).bind fun o _ => (hv d.thenStatement).bind fun fs hf => ?_
  cases o with
  | value c =>
    refine .pure ?_
    rw [Program.lines_ofOutputs_command, ← List.singleton_append]
    exact (Housed.command hstart).append (hf opened hthen)
  | complaints cs => exact .pure (hf opened hthen)

lemma ensures_branches_housed {start : String} (hstart : start ∉ houseNames) (ls : List NodeId) :
    Ensures (branches ctx visit start ls) fun b =>
      Housed opened (Program.ofOutputs b.output).lines := by
  induction ls generalizing start with
  | nil => exact .pure .nil
  | cons l ls ih =>
    have hnext : CommandName.elseIfStart ∉ houseNames := by decide
    refine (ensures_branch_housed opened hl ht hv hstart l).bind fun a ha => ?_
    refine (ih hnext).bind fun b hb => .pure ?_
    rw [Branches.lines_append]
    exact ha.append hb

omit ht in
lemma ensures_elseBranch_housed {o : Option NodeId}
    (ho : ∀ m, o = some m → ∃ q d, ctx.arena.conditional? q = some d ∧ ctx.arena.Child q m) :
    Ensures (elseBranch visit o) fun out => Housed opened (Program.ofOutputs out).lines := by
  cases o with
  | none => exact .pure .nil
  | some m =>
    obtain ⟨q, d, hd, hc⟩ := ho m rfl
    have hm : Suits ctx m opened := suits_of_child hl hc (Arena.class?_of_conditional? hd)
    have helse : CommandName.elseStart ∉ houseNames := by decide
    refine (hv m).bind fun fs hf => .pure ?_
    rw [Program.lines_ofOutputs_command, ← List.singleton_append]
    exact (Housed.command helse).append (hf opened hm)

lemma ensures_ifStatement_housed :
    Ensures (ifStatement ctx visit n) fun r =>
      Housed opened (Program.ofFragments r.toList).lines := by
  have hstart : CommandName.ifStart ∉ houseNames := by decide
  have hstop : CommandName.ifEnd ∉ houseNames := by decide
  unfold ifStatement
  dsimp only
  refine (ensures_branches_housed opened hl ht hv hstart _).bind fun b hb => ?_
  refine (ensures_elseBranch_housed opened hl hv fun m hm => exists_of_otherwise hm).bind
    fun out hout => ?_
  split
  · refine .pure ?_
    rw [Option.toList, Program.lines_ofFragments_transformation, Program.ofOutputs_append,
      Program.ofOutputs_append, Program.lines_append, Program.lines_append]
    exact (hb.append hout).append (.command hstop)
  · refine .pure ?_
    rw [Option.toList, lines_surface]
    exact .nil

/-- A line by itself opens no block, because the lines of a node are made of blocks. -/
lemma ensures_carryOut_housed {p : Plan} (hp : p.Encloses ctx n) (hs : Suits ctx n opened) :
    Ensures (carryOut ctx visit n p) fun r =>
      Tidy r.toList → Housed opened (Program.ofFragments r.toList).lines := by
  cases p with
  | lack what => exact .throw (Ensures.missing_ne_indent ctx n what)
  | nothing => exact .pure fun _ => .nil
  | complain reason =>
    exact (Ensures.complaint ctx n reason).bind fun _ ⟨c, hc⟩ => .pure fun _ => hc ▸ .nil
  | verbatim text => exact .pure fun _ => .literal text
  | line inputs command =>
    refine (ensures_gather ht inputs).bind fun o _ => ?_
    cases o with
    | value args => exact .pure fun htidy => .flat (Command.flat_of_derives htidy)
    | complaints cs => exact .pure fun _ => (lines_surface cs).symm ▸ .nil
  | block inputs start body stop =>
    refine (ensures_gather ht inputs).bind fun o _ => ?_
    cases o with
    | value args => exact (ensures_block_housed opened hl hv (hp args) hs).mono fun r hr _ => hr
    | complaints cs => exact .pure fun _ => (lines_surface cs).symm ▸ .nil
  | conditional => exact (ensures_ifStatement_housed opened hl ht hv).mono fun r hr _ => hr

omit opened in
/-- A node that is passed through holds no members of a class. -/
lemma ensures_dispatch_housed {kind : Kind} (hk : ctx.arena.kind? n = some kind)
    (hclass : Route.ofKind kind ≠ .handle .class_ → ctx.arena.class? n = none) :
    Ensures (dispatch ctx visit n kind) (HousedAt ctx n) := by
  refine (ensures_dispatch ht kind).forall_imp fun opened hs => ?_
  have hchildren (hn : ctx.arena.class? n = none) : Ensures (all visit (ctx.arena.children n))
      fun fs => Housed opened (Program.ofFragments fs).lines :=
    ensures_all_housed opened hv fun m hm => suits_of_child hl hm hn
  refine Ensures.get.bind fun s _ => (Ensures.note _).bind fun _ _ => ?_
  cases hr : Route.ofKind kind with
  | handle h =>
    have hhandle : Ensures (handle ctx visit n h) fun r => Tidy r.toList := ensures_handle ht h
    dsimp only
    rw [handle_eq] at hhandle ⊢
    have hplan := ensures_carryOut_housed opened hl ht hv (Plan.encloses_of hk h hr) hs
    exact (hhandle.and hplan).bind fun r ⟨htidy, hr⟩ => .pure (hr htidy)
  | passThrough => exact hchildren (hclass (by simp [hr]))
  | skip => exact .pure .nil
  | unmapped =>
    dsimp only
    split
    · exact (Ensures.complaint ctx n _).bind fun _ ⟨c, hc⟩ => .pure (hc ▸ .nil)
    · exact hchildren (hclass (by simp [hr]))

end Handlers

lemma ensures_node_housed (ctx : Context) (hl : ctx.arena.Linked)
    (hclass : ∀ n k, ctx.arena.kind? n = some k → Route.ofKind k ≠ .handle .class_ →
      ctx.arena.class? n = none) (n : NodeId) : Ensures (node ctx n) (HousedAt ctx n) := by
  refine ensures_node_of_dispatch (HousedAt ctx) (fun levels m node hm ih => ?_) n
  have hk : ctx.arena.kind? m = some node.kind := by simp [Arena.kind?, hm]
  exact ensures_dispatch_housed hl (ensures_nodeWithin ctx levels) ih hk (hclass m _ hk)

end Visit

/-! ### Whole programs -/

lemma Housed.comments (source : String) :
    Housed opened (Program.ofFragments (commentFragments source)).lines := by
  rw [ofFragments_commentFragments]
  refine .of_flat fun c hc => ?_
  obtain ⟨r, -, hr⟩ := List.mem_flatMap.1 hc
  exact CommentRange.indentation?_of_mem_commands hr

lemma Transformer.ensures_allFragments_housed {ctx : Context} {root : NodeId}
    (hv : Visit.Ensures (Visit.node ctx root) fun fs =>
      Housed opened (Program.ofFragments fs).lines) (ts : List Transformer) :
    Visit.Ensures (allFragments ctx root ts) fun fs =>
      Housed opened (Program.ofFragments fs).lines := by
  induction ts with
  | nil => exact .pure .nil
  | cons t ts ih =>
    have ht : Visit.Ensures (t.fragments ctx root) fun fs =>
        Housed opened (Program.ofFragments fs).lines := by
      cases t with
      | sourceFile => exact hv
      | comments => exact .pure (.comments _)
    refine ht.bind fun fs hf => ih.bind fun gs hg => .pure ?_
    rw [Program.ofFragments_append, Program.lines_append]
    exact hf.append hg

/-- In a document that was read, in which no node is named twice as a child and only classes hold
what classes hold, every constructor is written inside a class, and with the name of the innermost
class around it.  Every class that is opened is closed in the end. -/
theorem constructors_name_innermost_class (text : String) (d : Document) (options : Options)
    (program : Program) (hread : Document.read? text = some d)
    (hnodup : d.arena.childLists.flatten.Nodup)
    (hclass : ∀ node ∈ d.arena.nodes, node.payload.isClass = true →
      node.kind = .classDeclaration ∨ node.kind = .classExpression)
    (hroot : d.arena.kind? d.root = some .sourceFile)
    (hrun : programOf d.arena d.types d.root options = .ok program) :
    openClasses [] program.lines = [] ∧
    ∀ before c after, program.lines = before ++ .command c :: after →
      c.name = CommandName.constructorStart → ∃ privacy name params,
        c.args = .text privacy :: .text name :: params ∧
        (openClasses [] before).head? = some (classStartOf name) := by
  have hlinked : d.arena.Linked :=
    Arena.linked_of_linkParents (congrArg Document.arena (Document.linkParents_of_read? hread))
      hnodup
  have hunclassed : ∀ n k, d.arena.kind? n = some k → Route.ofKind k ≠ .handle .class_ →
      d.arena.class? n = none := by
    intro n k hk hr
    obtain ⟨node, hnode, rfl⟩ := Option.map_eq_some_iff.1 hk
    refine Arena.class?_eq_none (congrArg (Option.map Node.payload) hnode) ?_
    refine Bool.eq_false_iff.2 fun hc => hr ((Visit.ofKind_eq_class_iff _).2 ?_)
    exact hclass node (Array.mem_of_getElem? hnode) hc
  -- The root is no constructor, so its fragments are housed where no class is open.
  have hsuits : Visit.Suits (.ofRoot d.arena d.types d.root) d.root [] := by
    intro hk
    have hk : d.arena.kind? d.root = some .constructor := hk
    rw [hroot] at hk
    cases hk
  have hnode : Visit.Ensures (Visit.node (.ofRoot d.arena d.types d.root) d.root) fun fs =>
      Housed [] (Program.ofFragments fs).lines :=
    (Visit.ensures_node_housed (.ofRoot d.arena d.types d.root) hlinked hunclassed d.root).mono
      fun fs hf => hf [] hsuits
  obtain ⟨fs, hfs, rfl⟩ := Indent.map_eq_ok hrun
  have hhoused := (Transformer.ensures_allFragments_housed hnode
    (Transformer.ofOptions options)).of_run hfs
  exact ⟨hhoused.level, fun before c after hs => hhoused.named.of_split hs⟩

/-- A class whose constructor holds a class with a constructor:
`class A { constructor() { class B { constructor() {} } } }`. -/
def nestedClasses : Document where
  fileName := "nested.ts"
  arena := {
    sourceText := "class A \x7b constructor() \x7b class B \x7b constructor() \x7b\x7d \x7d \x7d \x7d"
    nodes := #[
      { kind := .identifier, pos := 6, stop := 7, parent := some ⟨7⟩, payload := .identifier "A" },
      { kind := .identifier, pos := 32, stop := 33, parent := some ⟨4⟩,
        payload := .identifier "B" },
      { kind := .block, pos := 50, stop := 52, parent := some ⟨3⟩, payload := .list [] },
      { kind := .constructor, pos := 36, stop := 52, parent := some ⟨4⟩,
        payload := .function ⟨none, [], none, some ⟨2⟩⟩ },
      { kind := .classDeclaration, pos := 26, stop := 54, parent := some ⟨5⟩,
        payload := .class_ ⟨some ⟨1⟩, [], [⟨3⟩]⟩ },
      { kind := .block, pos := 24, stop := 56, parent := some ⟨6⟩, payload := .list [⟨4⟩] },
      { kind := .constructor, pos := 10, stop := 56, parent := some ⟨7⟩,
        payload := .function ⟨none, [], none, some ⟨5⟩⟩ },
      { kind := .classDeclaration, pos := 0, stop := 58, parent := some ⟨8⟩,
        payload := .class_ ⟨some ⟨0⟩, [], [⟨6⟩]⟩ },
      { kind := .sourceFile, pos := 0, stop := 58, payload := .list [⟨7⟩] }] }
  root := ⟨8⟩

/-- The lines of the two classes. -/
def nestedLines : List Line :=
  [.command (classStartOf "A"),
   .command ⟨CommandName.constructorStart, [.text "public", .text "A"]⟩,
   .command (classStartOf "B"),
   .command ⟨CommandName.constructorStart, [.text "public", .text "B"]⟩,
   .command ⟨CommandName.constructorEnd, []⟩, .command ⟨CommandName.classEnd, []⟩,
   .command ⟨CommandName.constructorEnd, []⟩, .command ⟨CommandName.classEnd, []⟩]

/-- The constructor of the inner class comes after three lines, and names the inner class. -/
theorem nested_constructor_names_inner_class :
    Document.read? nestedClasses.write = some nestedClasses ∧
    programOf nestedClasses.arena {} ⟨8⟩ {} = .ok ⟨nestedLines, []⟩ ∧
    (openClasses [] (nestedLines.take 3)).head? = some (classStartOf "B") := by
  have hread : Document.read? nestedClasses.write = some nestedClasses :=
    nestedClasses.read?_write_eq
  have hrun : programOf nestedClasses.arena {} ⟨8⟩ {} = .ok ⟨nestedLines, []⟩ := rfl
  obtain ⟨privacy, name, params, hargs, hhead⟩ :=
    (constructors_name_innermost_class _ _ {} _ hread (by decide +kernel) (by decide +kernel) rfl
      hrun).2 (nestedLines.take 3) _ _ rfl rfl
  cases hargs
  exact ⟨hread, hrun, hhead⟩

end Gls
