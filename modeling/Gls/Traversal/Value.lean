/-
# Nodes in value position

Where a value is expected, the one line that a node comes to is the value.  A node that comes to
no line stands for its source text.  Complaints take the place of a value, and so does the
complaint that a node of several lines is no value.
-/
import Gls.Traversal.Basic

namespace Gls

/-- A value, or the complaints that take its place. -/
inductive Outcome (α : Type) where
  | value (value : α)
  | complaints (complaints : List Complaint)

namespace Visit

/-- Visits a node in value position. -/
def value (ctx : Context) (visit : Visitor) (n : NodeId) : Visit (Outcome Argument) := do
  let program := Program.ofFragments (← visit n)
  match program.complaints, program.lines with
  | [], [] => return .value (.text (ctx.arena.text n))
  | [], [.command c] => return .value c.toArgument
  | [], [.literal text] => return .value (.text text)
  | [], _ =>
    let c ← complain (ctx.arena.span n) (kindWords ctx n ++ " cannot be used as a value")
    return .complaints [c]
  | cs, _ => return .complaints cs

/-- Puts the outcome of a value before the outcome of those after it. -/
def consOutcome : Outcome Argument → Outcome (List Argument) → Outcome (List Argument)
  | .value v, .value vs => .value (v :: vs)
  | .value _, .complaints ds => .complaints ds
  | .complaints cs, .value _ => .complaints cs
  | .complaints cs, .complaints ds => .complaints (cs ++ ds)

/-- Visits nodes in value position, all of them even when some complain. -/
def values (ctx : Context) (visit : Visitor) : List NodeId → Visit (Outcome (List Argument))
  | [] => return .value []
  | n :: ns => do
    let v ← value ctx visit n
    return consOutcome v (← values ctx visit ns)

/-- The name and type of each parameter, or complaints about those without a type. -/
def parameters (ctx : Context) : List NodeId → Visit (Outcome (List Argument))
  | [] => return .value []
  | p :: ps => do
    let name := ((ctx.arena.valueDecl? p).map fun d => ctx.arena.text d.name).getD ""
    match ctx.tree.typeName? p with
    | some type =>
      match ← parameters ctx ps with
      | .value args => return .value (.text name :: type :: args)
      | .complaints cs => return .complaints cs
    | none =>
      let c ← complain (ctx.arena.span p) ("parameter '" ++ name ++ "' has no representable type")
      match ← parameters ctx ps with
      | .value _ => return .complaints [c]
      | .complaints cs => return .complaints (c :: cs)

/-- The fragment of a value, or of the complaints in its place. -/
def ofOutcome {α : Type} (ctx : Context) (n : NodeId) (f : α → Visit (Option Fragment)) :
    Outcome α → Visit (Option Fragment)
  | .value a => f a
  | .complaints cs => return some (surface ctx n cs)

end Visit

end Gls
