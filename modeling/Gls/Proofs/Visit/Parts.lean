/-
# The parts of a node

A node that is dispatched visits other nodes, its parts: its children when it is passed through, and
what its plan names when it is handled.  Handlers reach further than to the children of their node.
A counting loop visits the start and the stop of its counter, and an if statement visits the
branches of its whole chain.  But no part lies outside the subtree of the node.
-/
import Gls.Proofs.Visit.Plan
import Gls.Proofs.Visit.Progress

namespace Gls.Visit

/-! ### Routes -/

/-- Takes a node along a route. -/
def along (ctx : Context) (visit : Visitor) (n : NodeId) : Route → Visit (List Fragment)
  | .handle handler => do return (← carryOut ctx visit n (Plan.of ctx n handler)).toList
  | .passThrough => all visit (ctx.arena.children n)
  | .skip => return []
  | .unmapped =>
    match ctx.arena.children n with
    | [] => do return [← unsupported ctx n]
    | children => all visit children

/-- A dispatch is noted, and then the node is taken along the route of its kind. -/
lemma dispatch_eq (ctx : Context) (visit : Visitor) (n : NodeId) (kind : Kind) :
    dispatch ctx visit n kind = (do
      note (.dispatched n (← get).depth)
      along ctx visit n (Route.ofKind kind)) := by
  unfold dispatch
  refine bind_congr fun s => bind_congr fun _ => ?_
  cases Route.ofKind kind with
  | handle handler => simp only [along, handle_eq]
  | passThrough => rfl
  | skip => rfl
  | unmapped => rfl

/-! ### What plans and routes visit -/

/-- The nodes that are visited for the arguments of a command. -/
def Inputs.parts : Inputs → List NodeId
  | .values ns => ns
  | .parameters _ => []

/-- The nodes that a plan visits, in order. -/
def Plan.parts (a : Arena) (n : NodeId) : Plan → List NodeId
  | .lack _ | .nothing | .complain _ | .verbatim _ => []
  | .line inputs _ => inputs.parts
  | .block inputs _ body _ => inputs.parts ++ body
  | .conditional => chainParts a (chain a n)

/-- The nodes that a node visits along a route, in order. -/
def routeParts (ctx : Context) (n : NodeId) : Route → List NodeId
  | .handle handler => (Plan.of ctx n handler).parts ctx.arena n
  | .passThrough | .unmapped => ctx.arena.children n
  | .skip => []

/-! ### Parts lie below their node -/

/-- Everything that the plan visits lies below the node. -/
def Plan.Below (a : Arena) (n : NodeId) (p : Plan) : Prop := ∀ m ∈ p.parts a n, a.Reaches n m

namespace Plan

variable {ctx : Context} {n : NodeId}

lemma below_need {α : Type} {a : Arena} {what : String} {o : Option α} {g : α → Plan}
    (h : ∀ x, o = some x → Below a n (g x)) : Below a n (need what o g) := by
  cases o with
  | none => simp [need, Below, parts]
  | some x => exact h x rfl

lemma below_withReturnType {name : String} {f : TypeName → Plan}
    (h : ∀ type, Below ctx.arena n (f type)) : Below ctx.arena n (withReturnType ctx n name f) := by
  unfold withReturnType
  cases ctx.tree.returnType? n with
  | none => simp [Below, parts]
  | some type => exact h type

/-- A plan that visits only children. -/
lemma below_of_children {a : Arena} {p : Plan} (h : p.parts a n ⊆ a.children n) : Below a n p :=
  fun _ hm => .of_child (h hm)

lemma below_ofBinary : Below ctx.arena n (ofBinary ctx n) := by
  refine below_need fun d hd => below_of_children ?_
  rw [Arena.children_of_binary? hd]
  cases operatorAlias? d.operator <;> simp [parts, Inputs.parts, Payload.children]

lemma below_ofUnary : Below ctx.arena n (ofUnary ctx n) := by
  refine below_need fun d hd => below_of_children ?_
  cases stepAlias? d.operator <;> simp [parts, Inputs.parts]

lemma call?_of_stringCall? {call : Payload.Call} {receiver : NodeId} {command : String}
    (h : stringCall? ctx n = some (call, receiver, command)) : ctx.arena.call? n = some call := by
  simp only [stringCall?, Option.bind_eq_bind, Option.bind_eq_some_iff] at h
  obtain ⟨call', hcall, access, -, command', -, h⟩ := h
  split_ifs at h
  cases h
  exact hcall

lemma below_ofCall : Below ctx.arena n (ofCall ctx n) := by
  unfold ofCall
  cases hs : stringCall? ctx n with
  | some r =>
    obtain ⟨call, receiver, command⟩ := r
    refine below_of_children ?_
    rw [Arena.children_of_call? (call?_of_stringCall? hs)]
    simp [parts, Inputs.parts, Payload.children]
  | none =>
    refine below_need fun call hcall => below_of_children ?_
    rw [Arena.children_of_call? hcall]
    simp [parts, Inputs.parts, Payload.children]

lemma below_ofClass : Below ctx.arena n (ofClass ctx n) := by
  refine below_need fun d hd => below_of_children ?_
  rw [Arena.children_of_class? hd]
  cases d.name <;> simp [parts, Inputs.parts, Payload.children]

lemma below_ofInterface : Below ctx.arena n (ofInterface ctx n) := by
  refine below_need fun d hd => below_of_children ?_
  rw [Arena.children_of_interface? hd]
  simp [parts, Inputs.parts, Payload.children]

lemma below_ofMethodSignature : Below ctx.arena n (ofMethodSignature ctx n) := by
  refine below_need fun d hd => below_withReturnType fun type => below_of_children ?_
  simp [parts, Inputs.parts]

lemma below_ofMethod : Below ctx.arena n (ofMethod ctx n) := by
  refine below_need fun d hd => below_need fun name _ => below_withReturnType fun type =>
    below_of_children ?_
  rw [Arena.children_of_function? hd]
  exact List.subset_append_right _ _

lemma below_ofConstructor : Below ctx.arena n (ofConstructor ctx n) := by
  refine below_need fun d hd => below_of_children ?_
  rw [Arena.children_of_function? hd]
  cases className? ctx n with
  | none => exact List.nil_subset _
  | some name => exact List.subset_append_right _ _

lemma below_ofProperty : Below ctx.arena n (ofProperty ctx n) := by
  refine below_need fun d hd => below_of_children ?_
  rw [Arena.children_of_valueDecl? hd]
  simp [parts, Inputs.parts, Payload.children]

lemma below_ofVariable : Below ctx.arena n (ofVariable ctx n) := by
  refine below_need fun d hd => below_of_children ?_
  rw [Arena.children_of_valueDecl? hd]
  cases ctx.tree.typeName? n <;> simp [parts, Inputs.parts, Payload.children]

lemma below_ofReturn : Below ctx.arena n (ofReturn ctx n) := by
  refine below_of_children ?_
  cases hw : ctx.arena.wrapped? n with
  | none => simp [ofReturn, parts, Inputs.parts, hw]
  | some m => simp [ofReturn, parts, Inputs.parts, hw, Arena.children_of_wrapped? hw]

/-- The bounds of a counting loop are no children of it, but lie below its children. -/
lemma below_ofLoop : Below ctx.arena n (ofLoop ctx n) := by
  refine below_need fun d hd => ?_
  have hchildren : ctx.arena.children n = _ := Arena.children_of_loop? hd
  cases hloop : countingLoop? ctx.arena d with
  | none => simp [Below, parts]
  | some loop =>
    dsimp only
    split
    · simp [Below, parts]
    · obtain ⟨name, hcounts⟩ := exists_counts hloop
      obtain ⟨i, hi, hstart⟩ := hcounts.reaches_start
      obtain ⟨c, hc, hstop⟩ := hcounts.reaches_stop
      have hchild : ∀ m ∈ [i, c, d.statement], ctx.arena.Reaches n m := by
        intro m hm
        refine .of_child ?_
        rw [Arena.Child, hchildren]
        simp only [List.mem_cons, List.not_mem_nil, or_false] at hm
        rcases hm with rfl | rfl | rfl <;> simp [Payload.children, hi, hc]
      intro m hm
      simp only [parts, Inputs.parts, List.cons_append, List.nil_append, List.mem_cons,
        List.not_mem_nil, or_false] at hm
      rcases hm with rfl | rfl | rfl
      · exact (hchild i (by simp)).trans hstart
      · exact (hchild c (by simp)).trans hstop
      · exact hchild _ (by simp)

/-- Whatever a handler visits lies below its node. -/
lemma below_of (ctx : Context) (n : NodeId) (h : Handler) : Below ctx.arena n (of ctx n h) := by
  cases h with
  | literalValue | stringLiteral | unsupported => simp [of, Below, parts]
  | binary => exact below_ofBinary
  | unary => exact below_ofUnary
  | call => exact below_ofCall
  | class_ => exact below_ofClass
  | interface => exact below_ofInterface
  | methodSignature => exact below_ofMethodSignature
  | method => exact below_ofMethod
  | constructor => exact below_ofConstructor
  | property => exact below_ofProperty
  | variableDeclaration => exact below_ofVariable
  | returnStatement => exact below_ofReturn
  | ifStatement =>
    intro m hm
    obtain ⟨c, hc, hcm⟩ := exists_child_of_mem_chainParts hm
    exact (Arena.Reaches.of_child hc).trans hcm
  | forStatement => exact below_ofLoop

end Plan

/-- Whatever a node visits lies below it. -/
lemma reaches_of_mem_routeParts {ctx : Context} {n m : NodeId} {route : Route}
    (hm : m ∈ routeParts ctx n route) : ctx.arena.Reaches n m := by
  cases route with
  | handle handler => exact Plan.below_of ctx n handler m hm
  | passThrough | unmapped => exact .of_child hm
  | skip => cases hm

end Gls.Visit
