/-
# Reports of complaints

Every complaint of every document is reported with its position, lines and columns counted from
one.  Documents are in the order in which they were transformed, and the complaints of a document
are in the order of their places in its source text.

Positions are numbers of 32 bits, and counting them must not overflow: where it does, there is no
report at all.
-/
import Gls.Cli.Batch
import Gls.Text.LineMap

namespace Gls

/-- A complaint at its position. -/
structure ComplaintReport where
  file : String
  line : UInt32
  column : UInt32
  reason : String
deriving DecidableEq

namespace ComplaintReport

/-- A number that was counted from zero, counted from one; nothing where it no longer fits into 32
bits. -/
def fromOne? (n : UInt32) : Option UInt32 :=
  if n.toNat + 1 < UInt32.size then some (n + 1) else none

/-- A complaint of a file, at its position in the text. -/
def ofComplaint? (file : String) (lines : LineMap) (c : Complaint) : Option ComplaintReport := do
  let p := lines.position c.range.start
  return ⟨file, ← fromOne? p.line, ← fromOne? p.character, c.reason⟩

/-- Complaints in the order in which they begin; those that begin together stay as they are. -/
def inOrder (cs : List Complaint) : List Complaint :=
  cs.mergeSort fun a b => a.range.start ≤ b.range.start

/-- The reports of a document.  Lines are looked for only where there is something to report. -/
def ofResult? (r : DocumentResult) : Option (List ComplaintReport) :=
  if r.output.complaints.isEmpty then some []
  else do
    let lines ← LineMap.build? r.sourceText
    (inOrder r.output.complaints).mapM (ofComplaint? r.displayName lines)

/-- The reports of documents; nothing when a position overflows. -/
def collect? (results : List DocumentResult) : Option (List ComplaintReport) :=
  (results.mapM ofResult?).map List.flatten

/-! ### As text -/

/-- A text in which the style begins again wherever the text itself ends it. -/
def resume (start : List Char) : List Char → List Char
  | '\x1b' :: '[' :: '0' :: 'm' :: cs => '\x1b' :: '[' :: '0' :: 'm' :: start ++ resume start cs
  | c :: cs => c :: resume start cs
  | [] => []

/-- A text that a terminal shows in a style, to its end. -/
def styled (style text : String) : String :=
  let start := "\x1b[" ++ style ++ "m"
  start ++ String.ofList (resume start.toList text.toList) ++ "\x1b[0m"

/-- A report on one line. -/
def format (color : Bool) (r : ComplaintReport) : String :=
  let place := r.file ++ "(" ++ toString r.line.toNat ++ "," ++ toString r.column.toNat ++ ")"
  let mark := "unsupported"
  if color then styled "1" place ++ ": " ++ styled "1;33" mark ++ ": " ++ r.reason
  else place ++ ": " ++ mark ++ ": " ++ r.reason

/-- Reports as lines. -/
def renderText (color : Bool) (rs : List ComplaintReport) : String :=
  String.join (rs.map fun r => r.format color ++ "\n")

/-! ### As JSON -/

/-- A report as a JSON value. -/
def toJson (r : ComplaintReport) : Json :=
  .ofMembers [("file", .ofString r.file), ("line", .ofNat r.line.toNat),
    ("column", .ofNat r.column.toNat), ("reason", .ofString r.reason)]

/-- Reports as a JSON array. -/
def renderJson (rs : List ComplaintReport) : String := (Json.ofList toJson rs).pretty ++ "\n"

/-- Reports in a format. -/
def renderAll (color : Bool) (format : ReportFormat) (rs : List ComplaintReport) : String :=
  match format with
  | .text => renderText color rs
  | .json => renderJson rs

/-- The report of documents in a format; nothing when a position overflows. -/
def render? (color : Bool) (format : ReportFormat) (results : List DocumentResult) :
    Option String :=
  (collect? results).map (renderAll color format)

end ComplaintReport

end Gls
