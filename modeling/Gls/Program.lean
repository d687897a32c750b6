/-
# Programs

A program is the list of lines that fragments come to, and beside it the list of their complaints.
Nested transformations are spliced in place; nothing is reordered and nothing is dropped.
-/
import Gls.Fragment

namespace Gls

/-- A line of a program. -/
inductive Line where
  | command (command : Command)
  | literal (text : String)

/-- The text of a line, without indentation. -/
def Line.render : Line → String
  | .command c => c.render
  | .literal text => text

/-- Lines, and complaints in the order in which they were met. -/
structure Program where
  lines : List Line := []
  complaints : List Complaint := []

namespace Program

/-- One program after the other. -/
def append (p q : Program) : Program := ⟨p.lines ++ q.lines, p.complaints ++ q.complaints⟩

instance : Append Program := ⟨append⟩

mutual

/-- The program of an output. -/
def ofOutput : Output → Program
  | .command c => { lines := [.command c] }
  | .literal text => { lines := [.literal text] }
  | .transformation _ output => ofOutputs output
  | .complaint c => { complaints := [c] }

/-- The program of several outputs. -/
def ofOutputs : List Output → Program
  | [] => {}
  | o :: os => ofOutput o ++ ofOutputs os

end

/-- The program of fragments. -/
def ofFragments (fs : List Fragment) : Program := ofOutputs (fs.map Fragment.toOutput)

/-! ### Programs of appended lists -/

@[simp] theorem lines_append (p q : Program) : (p ++ q).lines = p.lines ++ q.lines := rfl

@[simp] theorem complaints_append (p q : Program) :
    (p ++ q).complaints = p.complaints ++ q.complaints := rfl

theorem append_assoc (p q r : Program) : p ++ q ++ r = p ++ (q ++ r) := by
  cases p; cases q; cases r
  show Program.mk _ _ = Program.mk _ _
  simp [List.append_assoc]

theorem nil_append (p : Program) : ({} : Program) ++ p = p := rfl

theorem ofOutputs_append (xs ys : List Output) :
    ofOutputs (xs ++ ys) = ofOutputs xs ++ ofOutputs ys := by
  induction xs with
  | nil => rw [List.nil_append, ofOutputs, nil_append]
  | cons x xs ih => rw [List.cons_append, ofOutputs, ofOutputs, ih, append_assoc]

theorem ofFragments_append (xs ys : List Fragment) :
    ofFragments (xs ++ ys) = ofFragments xs ++ ofFragments ys := by
  rw [ofFragments, ofFragments, ofFragments, List.map_append, ofOutputs_append]

end Program

end Gls
