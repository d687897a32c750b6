/-
# Statements

Return statements, if statements with their chains of else-ifs, and loops that count.
-/
import Gls.Traversal.Value

namespace Gls.Visit

/-- A return statement. -/
def returnStatement (ctx : Context) (visit : Visitor) (n : NodeId) : Visit (Option Fragment) := do
  match ctx.arena.wrapped? n with
  | none => return some (line ctx n ⟨CommandName.returnLine, []⟩)
  | some inner =>
    ofOutcome ctx n (fun v => return some (line ctx n ⟨CommandName.returnLine, [v]⟩))
      (← value ctx visit inner)

/-! ### If statements -/

/-- A chain of if statements, each the else branch of the one before. -/
structure IfChain where
  /-- The if statements, in order. -/
  links : List NodeId
  /-- The else branch of the last one. -/
  otherwise : Option NodeId

/-- The chain that begins at an if statement, at most `fuel` links long. -/
def chainWithin (arena : Arena) : Nat → NodeId → IfChain
  | 0, _ => ⟨[], none⟩
  | fuel + 1, n =>
    match (arena.conditional? n).bind Payload.Conditional.elseStatement with
    | none => ⟨[n], none⟩
    | some next =>
      if arena.kind? next = some .ifStatement then
        let rest := chainWithin arena fuel next
        ⟨n :: rest.links, rest.otherwise⟩
      else ⟨[n], some next⟩

/-- The chain that begins at an if statement.  A chain without a cycle has no more links than the
arena has nodes. -/
def chain (arena : Arena) (n : NodeId) : IfChain := chainWithin arena (arena.nodes.size + 1) n

/-- The lines of some branches, and the complaints about their conditions. -/
structure Branches where
  output : List Output := []
  complaints : List Complaint := []

/-- Branches one after the other. -/
def Branches.append (a b : Branches) : Branches :=
  ⟨a.output ++ b.output, a.complaints ++ b.complaints⟩

/-- One link of a chain: its condition and its branch. -/
def branch (ctx : Context) (visit : Visitor) (start : String) (n : NodeId) : Visit Branches := do
  let d ← need ctx n "if data" (ctx.arena.conditional? n)
  let condition ← value ctx visit d.condition
  let body := (← visit d.thenStatement).map Fragment.toOutput
  match condition with
  | .value c => return ⟨.command ⟨start, [c]⟩ :: body, []⟩
  | .complaints cs => return ⟨body, cs⟩

/-- The links of a chain, of which the first begins with the given command. -/
def branches (ctx : Context) (visit : Visitor) : String → List NodeId → Visit Branches
  | _, [] => return {}
  | start, n :: ns => do
    let b ← branch ctx visit start n
    return b.append (← branches ctx visit CommandName.elseIfStart ns)

/-- The else branch at the end of a chain. -/
def elseBranch (visit : Visitor) : Option NodeId → Visit (List Output)
  | none => return []
  | some n => do
    return .command ⟨CommandName.elseStart, []⟩ :: (← visit n).map Fragment.toOutput

/-- An if statement.  When a condition complains there are no lines, only the complaints about the
conditions and then those of the branches. -/
def ifStatement (ctx : Context) (visit : Visitor) (n : NodeId) : Visit (Option Fragment) := do
  let c := chain ctx.arena n
  let b ← branches ctx visit CommandName.ifStart c.links
  let output := b.output ++ (← elseBranch visit c.otherwise)
  if b.complaints.isEmpty then
    return some (.transformation
      ⟨ctx.arena.span n, output ++ [.command ⟨CommandName.ifEnd, []⟩]⟩)
  else
    return some (surface ctx n (b.complaints ++ (Program.ofOutputs output).complaints))

/-! ### For statements -/

/-- The parts of a loop that counts a variable from `start` up to `stop`. -/
structure CountingLoop where
  counter : NodeId
  start : NodeId
  stop : NodeId

/-- The expression adds one to the variable. -/
def addsOne (arena : Arena) (n : NodeId) (name : String) : Bool :=
  match arena.payload? n with
  | some (.unary d) => d.operator == .plusPlusToken && arena.identifier? d.operand == some name
  | some (.binary d) =>
    d.operator == .plusEqualsToken && arena.identifier? d.left == some name
      && arena.text d.right == "1"
  | _ => false

/-- A loop that counts: it declares one variable, compares it with a bound and adds one to it. -/
def countingLoop? (arena : Arena) (d : Payload.Loop) : Option CountingLoop := do
  match ← arena.list? (← d.initializer) with
  | [declaration] =>
    let decl ← arena.valueDecl? declaration
    let name ← arena.identifier? decl.name
    let start ← decl.initializer
    let condition ← arena.binary? (← d.condition)
    if condition.operator = .lessThanToken ∧ arena.identifier? condition.left = some name
        ∧ addsOne arena (← d.incrementor) name = true then
      return ⟨decl.name, start, condition.right⟩
    else none
  | _ => none

/-- A for statement.  Only loops that count, and do not change their variable otherwise, have a
counterpart. -/
def forStatement (ctx : Context) (visit : Visitor) (n : NodeId) : Visit (Option Fragment) := do
  let d ← need ctx n "loop data" (ctx.arena.loop? n)
  match countingLoop? ctx.arena d with
  | none => return some (← complaint ctx n "only counting for loops are supported")
  | some loop =>
    let name := ctx.arena.text loop.counter
    if ctx.usage.writesWithin name (ctx.arena.span d.statement) then
      return some (← complaint ctx n
        ("loop variable '" ++ name ++ "' is modified inside the loop"))
    else
      ofOutcome ctx n
        (fun bounds => do
          let start : Command :=
            ⟨CommandName.forNumbersStart, .text name :: .text "int" :: bounds⟩
          let body ← visit d.statement
          return some (block ctx n start body ⟨CommandName.forNumbersEnd, []⟩))
        (← values ctx visit [loop.start, loop.stop])

end Gls.Visit
