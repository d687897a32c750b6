/-
# Indentation

Every line of a program is written at the depth that the commands before it have left.  A command
closes blocks before its own line and opens blocks after it, as its catalog entry says.  Literal
lines are written as empty lines.
-/
import Gls.Catalog
import Gls.Program

namespace Gls

/-- Why lines cannot be indented. -/
inductive IndentError where
  /-- The catalog does not have the command of a line. -/
  | unknownCommand (line : Nat) (name : String)
  /-- The depth would drop below zero at a line. -/
  | unbalanced (line : Nat) (name : String)
deriving DecidableEq

/-- The message of an error. -/
def IndentError.message : IndentError → String
  | .unknownCommand line name => "line " ++ toString line ++ ": unknown command '" ++ name ++ "'"
  | .unbalanced line name =>
    "line " ++ toString line ++ ": '" ++ name ++ "' closes a block that was never opened"

namespace Indent

/-- Four spaces. -/
def defaultUnit : String := "    "

/-- The unit, as many times as the depth says. -/
def lead (unit : String) (depth : Int) : String :=
  if unit.isEmpty then "" else String.join (List.replicate depth.toNat unit)

/-- How far deltas close. -/
def closing (deltas : List Int) : Int := (deltas.filter (· < 0)).foldr (· + ·) 0

/-- How far deltas open. -/
def opening (deltas : List Int) : Int := (deltas.filter (· > 0)).foldr (· + ·) 0

/-- Indents lines, of which the first has number `index` and begins at `depth`. -/
def linesFrom (catalog : Catalog) (unit : String) (index : Nat) (depth : Int) :
    List Line → Except IndentError (List String)
  | [] => .ok []
  | .literal _ :: ls => (linesFrom catalog unit (index + 1) depth ls).map ("" :: ·)
  | .command c :: ls =>
    match catalog.indentation? c.name with
    | none => .error (.unknownCommand index c.name)
    | some deltas =>
      let here := depth + closing deltas
      if here < 0 then .error (.unbalanced index c.name)
      else
        (linesFrom catalog unit (index + 1) (here + opening deltas) ls).map
          ((lead unit here ++ c.render) :: ·)

/-- Indents the lines of a program. -/
def lines (catalog : Catalog) (unit : String) (ls : List Line) :
    Except IndentError (List String) :=
  linesFrom catalog unit 0 0 ls

end Indent

end Gls
