/-
# Plans

The sixteen handlers do few different things.  They fail for lack of something, keep silent,
complain, write a text as it stands, write a line, or write a block; and an if statement is written
along its chain.  Lines and blocks begin with arguments that are gathered from values or from
parameters, and complaints among these take the place of everything else.

A plan is what a handler sets out to do with a node, read off the tree before anything is visited.
The main statement says that calling a handler is carrying out its plan.  What holds of every visit
is proved after it once for each form of plan, and not once for each handler.
-/
import Gls.Proofs.Visit.Rules

namespace Gls

namespace Visit

/-- What the arguments of a command are gathered from. -/
inductive Inputs where
  /-- Nodes in value position. -/
  | values (ns : List NodeId)
  /-- Parameters, each with its name and its type. -/
  | parameters (ps : List NodeId)

/-- How many arguments are gathered, when nothing complains. -/
def Inputs.count : Inputs → Nat
  | .values ns => ns.length
  | .parameters ps => 2 * ps.length

/-- What a handler sets out to do with a node. -/
inductive Plan where
  /-- The node lacks something that nodes of its kind have. -/
  | lack (what : String)
  /-- The node comes to nothing. -/
  | nothing
  | complain (reason : String)
  | verbatim (text : String)
  /-- One line, made of the arguments. -/
  | line (inputs : Inputs) (command : List Argument → Command)
  /-- A block around the fragments of some nodes, begun with a command made of the arguments. -/
  | block (inputs : Inputs) (start : List Argument → Command) (body : List NodeId)
      (stop : Command)
  /-- The if statements of the chain that begins at the node. -/
  | conditional

/-- Gathers the arguments of a command. -/
def gather (ctx : Context) (visit : Visitor) : Inputs → Visit (Outcome (List Argument))
  | .values ns => values ctx visit ns
  | .parameters ps => parameters ctx ps

/-- Carries out a plan for a node. -/
def carryOut (ctx : Context) (visit : Visitor) (n : NodeId) : Plan → Visit (Option Fragment)
  | .lack what => throw (missing ctx n what)
  | .nothing => return none
  | .complain reason => do return some (← complaint ctx n reason)
  | .verbatim text => return some (Visit.verbatim ctx n text)
  | .line inputs command => do
    ofOutcome ctx n (fun args => return some (Visit.line ctx n (command args)))
      (← gather ctx visit inputs)
  | .block inputs start body stop => do
    ofOutcome ctx n
      (fun args => do return some (Visit.block ctx n (start args) (← all visit body) stop))
      (← gather ctx visit inputs)
  | .conditional => ifStatement ctx visit n

/-! ### The plan of each handler -/

namespace Plan

/-- Goes on with a part of the payload, or fails for lack of it. -/
def need {α : Type} (what : String) (o : Option α) (f : α → Plan) : Plan :=
  match o with
  | some a => f a
  | none => .lack what

variable (ctx : Context) (n : NodeId)

def ofBinary : Plan :=
  need "binary data" (ctx.arena.binary? n) fun d =>
    match operatorAlias? d.operator with
    | none => .complain ("operator '" ++ d.operator.tokenText?.getD "?" ++ "' is not supported")
    | some word => .line (.values [d.left, d.right]) fun operands =>
        ⟨CommandName.operation, operationArgs word operands⟩

def ofUnary : Plan :=
  need "unary data" (ctx.arena.unary? n) fun d =>
    match stepAlias? d.operator with
    | none => .verbatim (ctx.arena.text n)
    | some word => .line (.values []) fun _ =>
        ⟨CommandName.operation, [.text (ctx.arena.text d.operand), .text word, .text "1"]⟩

/-- A call of a string method has a command of its own. -/
def ofCall : Plan :=
  match stringCall? ctx n with
  | some (call, receiver, command) => .line (.values call.arguments) fun args =>
      ⟨command, .text (ctx.arena.text receiver) :: args⟩
  | none =>
    need "call data" (ctx.arena.call? n) fun call =>
      .line (.values call.arguments) (callHead ctx call).withArgs

def ofClass : Plan :=
  need "class data" (ctx.arena.class? n) fun d =>
    match d.name with
    | none => .nothing
    | some name => .block (.values [])
        (fun _ => ⟨CommandName.classStart, [.text (ctx.arena.text name)]⟩) d.members
        ⟨CommandName.classEnd, []⟩

def ofInterface : Plan :=
  need "interface data" (ctx.arena.interface? n) fun d =>
    .block (.values [])
      (fun _ => ⟨CommandName.interfaceStart,
        .text (ctx.arena.text d.name) :: baseNames ctx d.heritageClauses⟩)
      d.members ⟨CommandName.interfaceEnd, []⟩

/-- Goes on with the return type, or complains that there is none. -/
def withReturnType (name : String) (f : TypeName → Plan) : Plan :=
  match ctx.tree.returnType? n with
  | none => .complain ("method '" ++ name ++ "' has no representable return type")
  | some type => f type

def ofMethodSignature : Plan :=
  need "signature data" (ctx.arena.function? n) fun d =>
    let name := (d.name.map ctx.arena.text).getD ""
    withReturnType ctx n name fun type =>
      .line (.parameters d.parameters) fun params =>
        ⟨CommandName.interfaceMethod, .text name :: type :: params⟩

def ofMethod : Plan :=
  need "method data" (ctx.arena.function? n) fun d =>
    need "name" (d.name.map ctx.arena.text) fun name =>
      withReturnType ctx n name fun type =>
        .block (.parameters d.parameters)
          (fun params => ⟨CommandName.memberFunctionStart,
            .text (ctx.tree.privacy n).word :: .text name :: type :: params⟩)
          d.body.toList ⟨CommandName.memberFunctionEnd, []⟩

def ofConstructor : Plan :=
  need "constructor data" (ctx.arena.function? n) fun d =>
    match className? ctx n with
    | none => .complain "constructor of an anonymous class is not supported"
    | some name => .block (.parameters d.parameters)
        (fun params => ⟨CommandName.constructorStart,
          .text (ctx.tree.privacy n).word :: .text name :: params⟩)
        d.body.toList ⟨CommandName.constructorEnd, []⟩

def ofProperty : Plan :=
  need "property data" (ctx.arena.valueDecl? n) fun d =>
    .line (.values d.initializer.toList) (Command.withArgs ⟨CommandName.memberVariable,
      [.text (ctx.tree.privacy n).word, .text (ctx.arena.text d.name)]⟩)

def ofVariable : Plan :=
  need "declaration data" (ctx.arena.valueDecl? n) fun d =>
    match ctx.tree.typeName? n with
    | none => .complain
        ("variable '" ++ ctx.arena.text d.name ++ "' has no representable type")
    | some type => .line (.values d.initializer.toList) (Command.withArgs
        ⟨CommandName.variableLine, [.text (ctx.arena.text d.name), type]⟩)

def ofReturn : Plan :=
  .line (.values (ctx.arena.wrapped? n).toList) fun args => ⟨CommandName.returnLine, args⟩

def ofLoop : Plan :=
  need "loop data" (ctx.arena.loop? n) fun d =>
    match countingLoop? ctx.arena d with
    | none => .complain "only counting for loops are supported"
    | some loop =>
      let name := ctx.arena.text loop.counter
      if ctx.usage.writesWithin name (ctx.arena.span d.statement) then
        .complain ("loop variable '" ++ name ++ "' is modified inside the loop")
      else .block (.values [loop.start, loop.stop])
        (fun bounds => ⟨CommandName.forNumbersStart, .text name :: .text "int" :: bounds⟩)
        [d.statement] ⟨CommandName.forNumbersEnd, []⟩

/-- The plan of a handler for a node. -/
def of : Handler → Plan
  | .literalValue => .verbatim (ctx.arena.text n)
  | .stringLiteral => .verbatim (Text.Quoted.requote (ctx.arena.text n))
  | .binary => ofBinary ctx n
  | .unary => ofUnary ctx n
  | .call => ofCall ctx n
  | .class_ => ofClass ctx n
  | .interface => ofInterface ctx n
  | .methodSignature => ofMethodSignature ctx n
  | .method => ofMethod ctx n
  | .constructor => ofConstructor ctx n
  | .property => ofProperty ctx n
  | .variableDeclaration => ofVariable ctx n
  | .returnStatement => ofReturn ctx n
  | .ifStatement => .conditional
  | .forStatement => ofLoop ctx n
  | .unsupported => .complain (kindWords ctx n ++ " is not supported")

end Plan

/-! ### Handlers carry out their plans -/

variable {α β : Type} {ctx : Context} {visit : Visitor} {n : NodeId}

/-- What a node needs is looked up before the visit goes on. -/
lemma need_bind {what : String} (o : Option α) (f : α → Visit (Option Fragment)) (g : α → Plan)
    (h : ∀ a, f a = carryOut ctx visit n (g a)) :
    (need ctx n what o >>= f) = carryOut ctx visit n (Plan.need what o g) := by
  cases o with
  | some a => exact h a
  | none => rfl

lemma all_singleton (m : NodeId) : all visit [m] = visit m := by
  simp [all]

lemma all_toList (o : Option NodeId) : all visit o.toList = optional visit o := by
  cases o with
  | none => rfl
  | some m => exact all_singleton m

/-- A line with a single value. -/
lemma value_line_eq (m : NodeId) (command : List Argument → Command) :
    (value ctx visit m >>= ofOutcome ctx n fun a => return some (line ctx n (command [a])))
      = carryOut ctx visit n (.line (.values [m]) command) := by
  simp only [carryOut, gather, values, bind_assoc, pure_bind]
  exact bind_congr fun o => by cases o <;> rfl

lemma binary_eq : binary ctx visit n = carryOut ctx visit n (Plan.ofBinary ctx n) := by
  refine need_bind _ _ _ fun d => ?_
  cases operatorAlias? d.operator <;> rfl

lemma unary_eq : unary ctx n = carryOut ctx visit n (Plan.ofUnary ctx n) := by
  refine need_bind _ _ _ fun d => ?_
  cases stepAlias? d.operator <;> rfl

lemma call_eq : call ctx visit n = carryOut ctx visit n (Plan.ofCall ctx n) := by
  unfold call stringMember Plan.ofCall
  cases stringCall? ctx n with
  | none => exact need_bind _ _ _ fun call => rfl
  | some r =>
    -- Whatever the values come to, there is a fragment, so the call is not written another way.
    dsimp only
    rw [bind_assoc]
    exact bind_congr fun o => by cases o <;> rfl

lemma class_eq : class_ ctx visit n = carryOut ctx visit n (Plan.ofClass ctx n) := by
  refine need_bind _ _ _ fun d => ?_
  cases d.name <;> rfl

lemma interface_eq : interface ctx visit n = carryOut ctx visit n (Plan.ofInterface ctx n) :=
  need_bind _ _ _ fun _ => rfl

lemma methodSignature_eq :
    methodSignature ctx n = carryOut ctx visit n (Plan.ofMethodSignature ctx n) := by
  refine need_bind _ _ _ fun d => ?_
  unfold Plan.withReturnType
  cases ctx.tree.returnType? n <;> rfl

lemma method_eq : method ctx visit n = carryOut ctx visit n (Plan.ofMethod ctx n) := by
  refine need_bind _ _ _ fun d => need_bind _ _ _ fun name => ?_
  unfold Plan.withReturnType
  cases ctx.tree.returnType? n with
  | none => rfl
  | some type =>
    simp only [carryOut, all_toList]
    rfl

lemma constructor_eq :
    constructor ctx visit n = carryOut ctx visit n (Plan.ofConstructor ctx n) := by
  refine need_bind _ _ _ fun d => ?_
  cases className? ctx n with
  | none => rfl
  | some name =>
    simp only [carryOut, all_toList]
    rfl

lemma initialized_eq (head : Command) (o : Option NodeId) :
    initialized ctx visit n head o
      = carryOut ctx visit n (.line (.values o.toList) head.withArgs) := by
  cases o with
  | none =>
    have hhead : head.withArgs [] = head := by simp [Command.withArgs]
    rw [initialized, carryOut, gather, Option.toList_none, values, pure_bind, ofOutcome, hhead]
  | some m => exact value_line_eq m head.withArgs

lemma property_eq : property ctx visit n = carryOut ctx visit n (Plan.ofProperty ctx n) :=
  need_bind _ _ _ fun _ => initialized_eq _ _

lemma variableDeclaration_eq :
    variableDeclaration ctx visit n = carryOut ctx visit n (Plan.ofVariable ctx n) := by
  refine need_bind _ _ _ fun d => ?_
  cases ctx.tree.typeName? n with
  | none => rfl
  | some type => exact initialized_eq _ _

lemma returnStatement_eq :
    returnStatement ctx visit n = carryOut ctx visit n (Plan.ofReturn ctx n) := by
  unfold returnStatement Plan.ofReturn
  cases ctx.arena.wrapped? n with
  | none => rfl
  | some m => exact value_line_eq m _

lemma forStatement_eq : forStatement ctx visit n = carryOut ctx visit n (Plan.ofLoop ctx n) := by
  refine need_bind _ _ _ fun d => ?_
  cases countingLoop? ctx.arena d with
  | none => rfl
  | some loop =>
    dsimp only
    cases ctx.usage.writesWithin (ctx.arena.text loop.counter) (ctx.arena.span d.statement) with
    | true => rfl
    | false =>
      simp only [Bool.false_eq_true, if_false, carryOut, all_singleton]
      rfl

/-- Calling a handler is carrying out its plan. -/
lemma handle_eq (h : Handler) : handle ctx visit n h = carryOut ctx visit n (Plan.of ctx n h) := by
  cases h with
  | literalValue => rfl
  | stringLiteral => rfl
  | binary => exact binary_eq
  | unary => exact unary_eq
  | call => exact call_eq
  | class_ => exact class_eq
  | interface => exact interface_eq
  | methodSignature => exact methodSignature_eq
  | method => exact method_eq
  | constructor => exact constructor_eq
  | property => exact property_eq
  | variableDeclaration => exact variableDeclaration_eq
  | returnStatement => exact returnStatement_eq
  | ifStatement => rfl
  | forStatement => exact forStatement_eq
  | unsupported => rfl

end Visit

end Gls
