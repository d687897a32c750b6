/-
# Plans after renumbering

When the nodes of an arena are moved, what a handler reads off the tree is the same for a node at
its old and at its new place: texts, ranges, types, and the usage of variables.  So the plan of a
node is the same plan, for the moved nodes.
-/
import Gls.Proofs.TypeName.Renumber
import Gls.Proofs.Usage.Writes
import Gls.Proofs.Visit.Plan

namespace Gls

variable {α β : Type}

/-! ### The usage of variables -/

section Usage

variable {a : Arena} (p : Renumbering a)

/-- What an identifier does in its parent depends on its place there, which moves along. -/
lemma IdentifierUse.inParent_renumber (parent : Node) (n : NodeId) :
    inParent (parent.renumber p) (p n) = inParent parent n := by
  have hopt : ∀ o : Option NodeId, o.map p = some (p n) ↔ o = some n := fun o =>
    (Option.map_injective p.perm.injective).eq_iff' rfl
  unfold inParent Node.renumber
  cases parent.payload <;> simp [Payload.renumber, Payload.ValueDecl.renumber,
    Payload.Class.renumber, Payload.Interface.renumber, Payload.Function.renumber,
    Payload.Access.renumber, Payload.Binary.renumber, Payload.Unary.renumber, hopt]

lemma IdentifierUse.of_renumber (n : NodeId) :
    IdentifierUse.of (a.renumber p) (p n) = IdentifierUse.of a n := by
  unfold IdentifierUse.of
  rw [Arena.parent?_renumber]
  cases a.parent? n with
  | none => rfl
  | some parent =>
    simp only [Option.map_some, Option.bind_some, Arena.get?_renumber]
    cases a.get? parent with
    | none => rfl
    | some node => exact inParent_renumber p node n

lemma UsageIndex.identifiers_renumber (root : NodeId) :
    identifiers (a.renumber p) (p root) = (identifiers a root).map p := by
  refine Arena.frontier_renumber p (fun node => ?_) root
  unfold isIdentifier Node.renumber
  cases node.payload <;> rfl

/-- The index lists other places, but the same ranges. -/
lemma UsageIndex.writesWithin_renumber (root : NodeId) (name : String) (range : Span) :
    (build (a.renumber p) (p root)).writesWithin name range
      = (build a root).writesWithin name range := by
  rw [writesWithin_eq, writesWithin_eq, listed_build _ _ _ (by decide),
    listed_build _ _ _ (by decide), identifiers_renumber, List.filter_map]
  simp [IdentifierUse.of_renumber, Function.comp_def]

end Usage

namespace Visit

/-! ### What handlers read -/

section Reading

variable {t : TypedTree} (p : Renumbering t.arena) {u u' : UsageIndex}

lemma arena_mk (t : TypedTree) (u : UsageIndex) : (Context.mk t u).arena = t.arena := by
  -- Not by `rfl`: as a definitional equation, it would not reach the instances of conditions.
  rw [Context.arena]

lemma kindWords_renumber (n : NodeId) :
    kindWords ⟨t.renumber p, u'⟩ (p n) = kindWords ⟨t, u⟩ n := by
  simp [kindWords, arena_mk]

lemma surface_renumber (n : NodeId) (cs : List Complaint) :
    surface ⟨t.renumber p, u'⟩ (p n) cs = surface ⟨t, u⟩ n cs := by
  simp [surface, arena_mk]

lemma line_renumber (n : NodeId) (c : Command) :
    line ⟨t.renumber p, u'⟩ (p n) c = line ⟨t, u⟩ n c := by
  simp [line, arena_mk]

lemma verbatim_renumber (n : NodeId) (text : String) :
    verbatim ⟨t.renumber p, u'⟩ (p n) text = verbatim ⟨t, u⟩ n text := by
  simp [verbatim, arena_mk]

lemma block_renumber (n : NodeId) (start : Command) (body : List Fragment) (stop : Command) :
    block ⟨t.renumber p, u'⟩ (p n) start body stop = block ⟨t, u⟩ n start body stop := by
  simp [block, arena_mk]

/-- A place without a node stays what it is, so even the error that there is no node is the same. -/
lemma missing_renumber (n : NodeId) (what : String) :
    missing ⟨t.renumber p, u'⟩ (p n) what = missing ⟨t, u⟩ n what := by
  unfold missing
  simp only [arena_mk, TypedTree.arena_renumber, Arena.get?_renumber]
  cases hn : t.arena.get? n with
  | none => rw [p.outside n hn]; rfl
  | some node => rfl

lemma baseNames_renumber (clauses : List NodeId) :
    baseNames ⟨t.renumber p, u'⟩ (clauses.map p) = baseNames ⟨t, u⟩ clauses := by
  rw [baseNames, List.flatMap_map]
  refine List.flatMap_congr fun clause _ => ?_
  simp only [arena_mk, TypedTree.arena_renumber, Arena.heritage?_renumber]
  cases t.arena.heritage? clause with
  | none => rfl
  | some heritage =>
    simp only [Option.map_some, Payload.Heritage.renumber, List.map_map]
    refine List.map_congr_left fun type _ => ?_
    simp only [Function.comp_apply, Arena.exprWithTypeArgs?_renumber]
    cases t.arena.exprWithTypeArgs? type with
    | none => simp
    | some base => simp [Payload.ExprWithTypeArgs.renumber]

lemma className?_renumber (n : NodeId) :
    className? ⟨t.renumber p, u'⟩ (p n) = className? ⟨t, u⟩ n := by
  unfold className?
  simp only [arena_mk, TypedTree.arena_renumber, Arena.parent?_renumber]
  cases t.arena.parent? n with
  | none => rfl
  | some parent =>
    simp only [Option.map_some, Option.bind_eq_bind, Option.bind_some, Arena.class?_renumber]
    cases t.arena.class? parent with
    | none => rfl
    | some d => simp [Payload.Class.renumber, Function.comp_def]

lemma memberAccess?_renumber (call : Payload.Call) :
    memberAccess? ⟨t.renumber p, u'⟩ (call.renumber p)
      = (memberAccess? ⟨t, u⟩ call).map (Payload.Access.renumber p) := by
  have hkind : (Context.mk (t.renumber p) u').arena.kind? (p call.expression)
      = (Context.mk t u).arena.kind? call.expression := Arena.kind?_renumber p _
  have haccess : (Context.mk (t.renumber p) u').arena.access? (p call.expression)
      = ((Context.mk t u).arena.access? call.expression).map (Payload.Access.renumber p) :=
    Arena.access?_renumber p _
  rw [memberAccess?, Payload.Call.renumber, hkind, haccess, memberAccess?, apply_ite (Option.map _)]
  rfl

lemma stringCall?_renumber (n : NodeId) :
    stringCall? ⟨t.renumber p, u'⟩ (p n) = (stringCall? ⟨t, u⟩ n).map fun r =>
      (r.1.renumber p, p r.2.1, r.2.2) := by
  unfold stringCall?
  simp only [arena_mk, TypedTree.arena_renumber, Arena.call?_renumber]
  cases t.arena.call? n with
  | none => rfl
  | some call =>
    simp only [Option.map_some, Option.bind_eq_bind, Option.bind_some,
      memberAccess?_renumber p (u := u)]
    cases memberAccess? ⟨t, u⟩ call with
    | none => rfl
    | some access =>
      simp only [Option.map_some, Option.bind_some, Payload.Access.renumber, Arena.text_renumber,
        TypedTree.typeName?_renumber]
      cases stringMethodCommand? (t.arena.text access.nameOrArgument) with
      | none => rfl
      | some command =>
        simp only [Option.bind_some]
        split <;> rfl

lemma callHead_renumber (call : Payload.Call) :
    callHead ⟨t.renumber p, u'⟩ (call.renumber p) = callHead ⟨t, u⟩ call := by
  unfold callHead
  rw [memberAccess?_renumber p (u := u)]
  cases memberAccess? ⟨t, u⟩ call with
  | none => simp [arena_mk, Payload.Call.renumber]
  | some access => simp [arena_mk, Payload.Access.renumber]

end Reading

section Chains

variable {a : Arena} (p : Renumbering a)

/-- The chain with every node it names rewritten. -/
def IfChain.renumber (f : NodeId → NodeId) (c : IfChain) : IfChain :=
  ⟨c.links.map f, c.otherwise.map f⟩

lemma chain_renumber (n : NodeId) : chain (a.renumber p) (p n) = (chain a n).renumber p := by
  have hwithin : ∀ fuel n, chainWithin (a.renumber p) fuel (p n)
      = (chainWithin a fuel n).renumber p := by
    intro fuel
    induction fuel with
    | zero => exact fun n => rfl
    | succ fuel ih =>
      intro n
      rw [chainWithin, Arena.conditional?_renumber, chainWithin]
      rcases a.conditional? n with _ | ⟨condition, thenStatement, _ | next⟩
      · rfl
      · rfl
      · simp only [Option.map_some, Option.bind_some, Payload.Conditional.renumber,
          Arena.kind?_renumber, ih]
        split <;> rfl
  rw [chain, Arena.size_renumber, hwithin, chain]

/-- The loop with every node it names rewritten. -/
def CountingLoop.renumber (f : NodeId → NodeId) (l : CountingLoop) : CountingLoop :=
  ⟨f l.counter, f l.start, f l.stop⟩

lemma addsOne_renumber (n : NodeId) (name : String) :
    addsOne (a.renumber p) (p n) name = addsOne a n name := by
  unfold addsOne
  rw [Arena.payload?_renumber]
  rcases a.payload? n with _ | q
  · rfl
  · cases q <;> simp [Payload.renumber, Payload.Unary.renumber, Payload.Binary.renumber]

/-- The parts of a loop are looked up one after the other, until one of them is missing. -/
lemma countingLoop?_renumber (d : Payload.Loop) :
    countingLoop? (a.renumber p) (d.renumber p) = (countingLoop? a d).map (.renumber p) := by
  obtain ⟨initializer, condition, incrementor, statement⟩ := d
  simp only [countingLoop?, Payload.Loop.renumber, Option.bind_eq_bind]
  rcases initializer with _ | initializer
  · rfl
  simp only [Option.map_some, Option.bind_some, Arena.list?_renumber]
  rcases a.list? initializer with _ | (_ | ⟨declaration, _ | _⟩)
  · rfl
  · rfl
  · simp only [Option.map_some, List.map_cons, List.map_nil, Option.bind_some,
      Arena.valueDecl?_renumber]
    rcases a.valueDecl? declaration with _ | ⟨name, annotation, start⟩
    · rfl
    simp only [Option.map_some, Option.bind_some, Payload.ValueDecl.renumber,
      Arena.identifier?_renumber]
    rcases a.identifier? name with _ | text
    · rfl
    rcases start with _ | start
    · rfl
    rcases condition with _ | condition
    · rfl
    simp only [Option.map_some, Option.bind_some, Arena.binary?_renumber]
    rcases a.binary? condition with _ | comparison
    · rfl
    rcases incrementor with _ | incrementor
    · rfl
    simp only [Option.map_some, Option.bind_some, Payload.Binary.renumber,
      Arena.identifier?_renumber, addsOne_renumber]
    split_ifs <;> rfl
  · rfl

end Chains

/-! ### Plans -/

/-- The inputs with every node they name rewritten. -/
def Inputs.renumber (f : NodeId → NodeId) : Inputs → Inputs
  | .values ns => .values (ns.map f)
  | .parameters ps => .parameters (ps.map f)

/-- The plan with every node it names rewritten. -/
def Plan.renumber (f : NodeId → NodeId) : Plan → Plan
  | .lack what => .lack what
  | .nothing => .nothing
  | .complain reason => .complain reason
  | .verbatim text => .verbatim text
  | .line inputs command => .line (inputs.renumber f) command
  | .block inputs start body stop => .block (inputs.renumber f) start (body.map f) stop
  | .conditional => .conditional

namespace Plan

/-- What is needed is there before and after. -/
lemma need_renumber {f : NodeId → NodeId} {what : String} {o : Option α} {h : α → β}
    {g : α → Plan} {g' : β → Plan} (hg : ∀ a, g' (h a) = (g a).renumber f) :
    need what (o.map h) g' = (need what o g).renumber f := by
  cases o with
  | none => rfl
  | some a => exact hg a

variable {t : TypedTree} (p : Renumbering t.arena) {u u' : UsageIndex} (n : NodeId)

lemma withReturnType_renumber {f f' : TypeName → Plan} (name : String)
    (hf : ∀ type, f' type = (f type).renumber p) :
    withReturnType ⟨t.renumber p, u'⟩ (p n) name f'
      = (withReturnType ⟨t, u⟩ n name f).renumber p := by
  unfold withReturnType
  rw [TypedTree.returnType?_renumber]
  cases t.returnType? n with
  | none => rfl
  | some type => exact hf type

lemma ofBinary_renumber :
    ofBinary ⟨t.renumber p, u'⟩ (p n) = (ofBinary ⟨t, u⟩ n).renumber p := by
  rw [ofBinary, arena_mk, TypedTree.arena_renumber, Arena.binary?_renumber]
  refine need_renumber fun d => ?_
  simp only [Payload.Binary.renumber]
  cases operatorAlias? d.operator <;> rfl

lemma ofUnary_renumber : ofUnary ⟨t.renumber p, u'⟩ (p n) = (ofUnary ⟨t, u⟩ n).renumber p := by
  rw [ofUnary, arena_mk, TypedTree.arena_renumber, Arena.unary?_renumber]
  refine need_renumber fun d => ?_
  simp only [Payload.Unary.renumber, Arena.text_renumber]
  cases stepAlias? d.operator <;> rfl

lemma ofCall_renumber : ofCall ⟨t.renumber p, u'⟩ (p n) = (ofCall ⟨t, u⟩ n).renumber p := by
  rw [ofCall, stringCall?_renumber p (u := u), ofCall]
  cases stringCall? ⟨t, u⟩ n with
  | none =>
    rw [Option.map_none, arena_mk, TypedTree.arena_renumber, Arena.call?_renumber]
    refine need_renumber fun call => ?_
    rw [callHead_renumber p (u := u)]
    rfl
  | some r =>
    simp only [Option.map_some, arena_mk, TypedTree.arena_renumber, Arena.text_renumber]
    rfl

lemma ofClass_renumber : ofClass ⟨t.renumber p, u'⟩ (p n) = (ofClass ⟨t, u⟩ n).renumber p := by
  rw [ofClass, arena_mk, TypedTree.arena_renumber, Arena.class?_renumber]
  refine need_renumber fun d => ?_
  rcases d with ⟨_ | name, heritageClauses, members⟩
  · rfl
  · simp only [Payload.Class.renumber, Option.map_some, Arena.text_renumber]
    rfl

lemma ofInterface_renumber :
    ofInterface ⟨t.renumber p, u'⟩ (p n) = (ofInterface ⟨t, u⟩ n).renumber p := by
  rw [ofInterface, arena_mk, TypedTree.arena_renumber, Arena.interface?_renumber]
  refine need_renumber fun d => ?_
  simp only [Payload.Interface.renumber, Arena.text_renumber, baseNames_renumber p (u := u)]
  rfl

lemma map_text_renumber (o : Option NodeId) :
    (o.map p).map (t.arena.renumber p).text = o.map t.arena.text := by
  simp [Function.comp_def]

lemma ofMethodSignature_renumber :
    ofMethodSignature ⟨t.renumber p, u'⟩ (p n) = (ofMethodSignature ⟨t, u⟩ n).renumber p := by
  rw [ofMethodSignature, arena_mk, TypedTree.arena_renumber, Arena.function?_renumber]
  refine need_renumber fun d => ?_
  simp only [Payload.Function.renumber, map_text_renumber]
  exact withReturnType_renumber p n _ fun type => rfl

lemma ofMethod_renumber : ofMethod ⟨t.renumber p, u'⟩ (p n) = (ofMethod ⟨t, u⟩ n).renumber p := by
  rw [ofMethod, arena_mk, TypedTree.arena_renumber, Arena.function?_renumber]
  refine need_renumber fun d => ?_
  rcases d with ⟨_ | name, parameters, annotation, body⟩
  · rfl
  · simp only [Payload.Function.renumber, Option.map_some, Arena.text_renumber,
      TypedTree.privacy_renumber, Option.toList_map]
    exact withReturnType_renumber p n _ fun type => rfl

lemma ofConstructor_renumber :
    ofConstructor ⟨t.renumber p, u'⟩ (p n) = (ofConstructor ⟨t, u⟩ n).renumber p := by
  rw [ofConstructor, arena_mk, TypedTree.arena_renumber, Arena.function?_renumber]
  refine need_renumber fun d => ?_
  simp only [Payload.Function.renumber, className?_renumber p (u := u), TypedTree.privacy_renumber,
    Option.toList_map]
  cases className? ⟨t, u⟩ n <;> rfl

lemma ofProperty_renumber :
    ofProperty ⟨t.renumber p, u'⟩ (p n) = (ofProperty ⟨t, u⟩ n).renumber p := by
  rw [ofProperty, arena_mk, TypedTree.arena_renumber, Arena.valueDecl?_renumber]
  refine need_renumber fun d => ?_
  simp only [Payload.ValueDecl.renumber, Arena.text_renumber, TypedTree.privacy_renumber,
    Option.toList_map]
  rfl

lemma ofVariable_renumber :
    ofVariable ⟨t.renumber p, u'⟩ (p n) = (ofVariable ⟨t, u⟩ n).renumber p := by
  rw [ofVariable, arena_mk, TypedTree.arena_renumber, Arena.valueDecl?_renumber]
  refine need_renumber fun d => ?_
  simp only [Payload.ValueDecl.renumber, Arena.text_renumber, TypedTree.typeName?_renumber,
    Option.toList_map]
  cases t.typeName? n <;> rfl

lemma ofReturn_renumber : ofReturn ⟨t.renumber p, u'⟩ (p n) = (ofReturn ⟨t, u⟩ n).renumber p := by
  rw [ofReturn, arena_mk, TypedTree.arena_renumber, Arena.wrapped?_renumber, Option.toList_map]
  rfl

variable (hu : ∀ name range, u'.writesWithin name range = u.writesWithin name range)
include hu

lemma ofLoop_renumber : ofLoop ⟨t.renumber p, u'⟩ (p n) = (ofLoop ⟨t, u⟩ n).renumber p := by
  rw [ofLoop, arena_mk, TypedTree.arena_renumber, Arena.loop?_renumber]
  refine need_renumber fun d => ?_
  simp only [countingLoop?_renumber, arena_mk]
  cases countingLoop? t.arena d with
  | none => rfl
  | some loop =>
    simp only [Option.map_some, CountingLoop.renumber, Payload.Loop.renumber, Arena.text_renumber,
      Arena.span_renumber, hu]
    cases u.writesWithin (t.arena.text loop.counter) (t.arena.span d.statement) <;> rfl

/-- A handler does at the new place of a node what it did at the old one. -/
lemma of_renumber (h : Handler) :
    of ⟨t.renumber p, u'⟩ (p n) h = (of ⟨t, u⟩ n h).renumber p := by
  have htext : (Context.mk (t.renumber p) u').arena.text (p n) = (Context.mk t u).arena.text n :=
    Arena.text_renumber p n
  cases h with
  | literalValue => rw [of, htext]; rfl
  | stringLiteral => rw [of, htext]; rfl
  | binary => exact ofBinary_renumber p n
  | unary => exact ofUnary_renumber p n
  | call => exact ofCall_renumber p n
  | class_ => exact ofClass_renumber p n
  | interface => exact ofInterface_renumber p n
  | methodSignature => exact ofMethodSignature_renumber p n
  | method => exact ofMethod_renumber p n
  | constructor => exact ofConstructor_renumber p n
  | property => exact ofProperty_renumber p n
  | variableDeclaration => exact ofVariable_renumber p n
  | returnStatement => exact ofReturn_renumber p n
  | ifStatement => rfl
  | forStatement => exact ofLoop_renumber p n hu
  | unsupported => rw [of, kindWords_renumber p (u := u)]; rfl

end Plan

end Visit

end Gls
