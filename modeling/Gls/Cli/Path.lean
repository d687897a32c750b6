/-
# Paths

A path is the text it is written as: paths are joined, never tidied up.  What a path means is the
list of its components, in which segments that lead nowhere are left out; paths are compared by
their components.
-/
import Gls.Text.Split

namespace Gls

/-- A path as written. -/
structure Path where
  text : String
deriving DecidableEq

namespace Path

/-! ### Components -/

/-- A step of a path. -/
inductive Component where
  /-- To the root; only at the start. -/
  | root
  /-- Nowhere; only at the start. -/
  | here
  /-- To the directory above. -/
  | up
  /-- To the entry of that name. -/
  | name (text : String)
deriving DecidableEq

/-- Where a component stands among those of other kinds. -/
def Component.rank : Component → Nat
  | .root => 0
  | .here => 1
  | .up => 2
  | .name _ => 3

/-- The name of a component, if it has one. -/
def Component.label : Component → String
  | .name text => text
  | _ => ""

instance : Ord Component where
  compare a b := (compare a.rank b.rank).then (compare a.label b.label)

/-- A segment that leads nowhere. -/
def isIdle (segment : List Char) : Bool := segment.isEmpty || segment == ['.']

/-- The step of a segment. -/
def Component.ofSegment? (segment : List Char) : Option Component :=
  if isIdle segment then none
  else if segment = ['.', '.'] then some .up
  else some (.name (String.ofList segment))

/-- What stands between slashes. -/
def segments (p : Path) : List (List Char) := Text.splitAt '/' p.text.toList

/-- How a path starts: at the root, at a dot, or with its first step. -/
inductive Start where
  | root
  | here
  | step
deriving DecidableEq

/-- The start of a path and the segments after it. -/
def body (p : Path) : Start × List (List Char) :=
  match p.segments with
  | [] :: s :: ss => (.root, s :: ss)
  | ['.'] :: ss => (.here, ss)
  | ss => (.step, ss)

/-- The component of a start. -/
def Start.components : Start → List Component
  | .root => [.root]
  | .here => [.here]
  | .step => []

/-- The steps of a path. -/
def components (p : Path) : List Component :=
  p.body.1.components ++ p.body.2.filterMap Component.ofSegment?

/-- Paths are in order when their components are, from the first that differs on. -/
def le (p q : Path) : Bool := (compare p.components q.components).isLE

/-- Two paths with the same steps. -/
def same (p q : Path) : Bool := p.components = q.components

/-- Only a directory can be meant: the path ends with a segment that leads nowhere. -/
def endsIdle (p : Path) : Bool := p.segments.getLast?.any isIdle

/-! ### Operations -/

/-- The path of `rest` as seen from `base`.  What starts at the root stays as it is. -/
def join (base : Path) (rest : String) : Path :=
  if rest.toList.head? = some '/' then ⟨rest⟩
  else if base.text.isEmpty || base.text.toList.getLast? = some '/' then ⟨base.text ++ rest⟩
  else ⟨base.text ++ "/" ++ rest⟩

/-- The text of segments after a start. -/
def Start.assemble (segments : List (List Char)) : Start → List Char
  | .root => '/' :: Text.joinAt '/' segments
  | .here => Text.joinAt '/' (['.'] :: segments)
  | .step => Text.joinAt '/' segments

/-- The path without its last step. -/
def parent? (p : Path) : Option Path :=
  let (start, segments) := p.body
  match segments.reverse.dropWhile isIdle with
  | _ :: rest => some ⟨String.ofList (start.assemble (rest.dropWhile isIdle).reverse)⟩
  | [] => if start = .here then some ⟨""⟩ else none

/-- The name that the last step leads to. -/
def fileName? (p : Path) : Option String :=
  match p.components.getLast? with
  | some (.name text) => some text
  | _ => none

end Path

/-! ### Lists of paths -/

/-- Drops what repeats the path before it. -/
def Path.dropRepeatsOf (p : Path) : List Path → List Path
  | [] => []
  | q :: qs => if p.same q then dropRepeatsOf p qs else q :: dropRepeatsOf q qs

/-- Keeps the first of neighbours with the same steps. -/
def Path.dropRepeats : List Path → List Path
  | [] => []
  | p :: ps => p :: dropRepeatsOf p ps

/-- In order, and each once; of paths with the same steps the first is kept. -/
def Path.sorted (ps : List Path) : List Path := dropRepeats (ps.mergeSort le)

end Gls
