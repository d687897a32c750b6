/-
# Traversals

A traversal visits the nodes of a tree, each at most once and to a bounded depth.  Its state is the
set of nodes that were visited, the depth, and a journal of what happened.  A visit may fail; the
state it has reached by then stays.
-/
import Gls.Casing
import Gls.Indent
import Gls.TypeName.Returns
import Gls.Usage

namespace Gls

/-- How deep visits may nest. -/
def maxVisitDepth : Nat := 500

/-- Why a tree cannot be transformed.  A construct without counterpart is no error but a
complaint. -/
inductive TransformError where
  /-- There is no such node. -/
  | missingNode (node : NodeId)
  /-- A node lacks something that nodes of its kind have. -/
  | missingChild (kind : Kind) (span : Span) (what : String)
  /-- Visits are nested too deeply. -/
  | depthExceeded (span : Span) (depth : Nat)
  /-- A node is visited again. -/
  | revisited (kind : Kind) (span : Span)
  /-- The lines cannot be indented. -/
  | indent (error : IndentError)
deriving DecidableEq

namespace TransformError

/-- The source range an error is about. -/
def span? : TransformError → Option Span
  | .missingNode _ => none
  | .missingChild _ span _ => some span
  | .depthExceeded span _ => some span
  | .revisited _ span => some span
  | .indent _ => none

/-- The message of an error. -/
def message : TransformError → String
  | .missingNode n => "node " ++ toString n.toNat ++ " is not in the arena"
  | .missingChild kind span what => kind.name ++ " at " ++ span.render ++ " has no " ++ what
  | .depthExceeded span depth =>
    "nesting depth " ++ toString depth ++ " exceeded at " ++ span.render
  | .revisited kind span => kind.name ++ " at " ++ span.render ++ " was visited twice"
  | .indent e => "indentation failed: " ++ e.message

end TransformError

/-- What may happen in a traversal. -/
inductive Event where
  /-- A node was sent to where its kind is handled, at a depth. -/
  | dispatched (node : NodeId) (depth : Nat)
  /-- A complaint was raised. -/
  | complained (complaint : Complaint)

/-- The state of a traversal. -/
structure Traversal where
  visited : List NodeId := []
  depth : Nat := 0
  /-- What has happened, last first. -/
  journal : List Event := []

/-- A computation in a traversal, which may fail. -/
abbrev Visit := ExceptT TransformError (StateM Traversal)

/-- What a traversal may consult. -/
structure Context where
  tree : TypedTree
  usage : UsageIndex

namespace Context

/-- The context of a document's tree below a root. -/
def ofRoot (arena : Arena) (types : TypeTable) (root : NodeId) : Context :=
  ⟨⟨arena, types⟩, .build arena root⟩

/-- The nodes. -/
def arena (ctx : Context) : Arena := ctx.tree.arena

end Context

/-- Visits a node. -/
abbrev Visitor := NodeId → Visit (List Fragment)

namespace Visit

/-- Notes an event. -/
def note (e : Event) : Visit Unit :=
  modify fun s => { s with journal := e :: s.journal }

/-- Runs a computation one level deeper, and comes back up whether or not it fails. -/
def deeper {α : Type} (x : Visit α) : Visit α := fun s =>
  let r := x { s with depth := s.depth + 1 }
  (r.1, { r.2 with depth := r.2.depth - 1 })

/-- Raises a complaint. -/
def complain (range : Span) (reason : String) : Visit Complaint := do
  let c : Complaint := ⟨range, reason⟩
  note (.complained c)
  return c

/-- Raises a complaint about a node, as its fragment. -/
def complaint (ctx : Context) (n : NodeId) (reason : String) : Visit Fragment := do
  return .complaint (← complain (ctx.arena.span n) reason)

/-- The kind of a node in words. -/
def kindWords (ctx : Context) (n : NodeId) : String :=
  Casing.words ((ctx.arena.kind? n).getD .unknown).name

/-- Complains that there is no counterpart for nodes of a kind. -/
def unsupported (ctx : Context) (n : NodeId) : Visit Fragment :=
  complaint ctx n (kindWords ctx n ++ " is not supported")

/-- The error that a node lacks something. -/
def missing (ctx : Context) (n : NodeId) (what : String) : TransformError :=
  match ctx.arena.get? n with
  | some node => .missingChild node.kind node.span what
  | none => .missingNode n

/-- The part of a payload that a node must have. -/
def need {α : Type} (ctx : Context) (n : NodeId) (what : String) : Option α → Visit α
  | some a => return a
  | none => throw (missing ctx n what)

/-! ### Fragments of a node -/

/-- The complaints about the parts of a node, as its own fragment. -/
def surface (ctx : Context) (n : NodeId) (cs : List Complaint) : Fragment :=
  .transformation ⟨ctx.arena.span n, cs.map .complaint⟩

/-- One command. -/
def line (ctx : Context) (n : NodeId) (c : Command) : Fragment :=
  .transformation (.command (ctx.arena.span n) c)

/-- One literal line. -/
def verbatim (ctx : Context) (n : NodeId) (text : String) : Fragment :=
  .transformation (.literal (ctx.arena.span n) text)

/-- A start command, what stands in between, and an end command. -/
def block (ctx : Context) (n : NodeId) (start : Command) (body : List Fragment)
    (stop : Command) : Fragment :=
  .transformation
    ⟨ctx.arena.span n, .command start :: body.map Fragment.toOutput ++ [.command stop]⟩

/-! ### Visiting several nodes -/

/-- Visits nodes in order. -/
def all (visit : Visitor) : List NodeId → Visit (List Fragment)
  | [] => return []
  | n :: ns => do
    let fs ← visit n
    return fs ++ (← all visit ns)

/-- Visits a node that may be absent. -/
def optional (visit : Visitor) : Option NodeId → Visit (List Fragment)
  | some n => visit n
  | none => return []

end Visit

end Gls
