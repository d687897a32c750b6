/-
# Letters, digits and their case

The classes and case mappings of Unicode.  For ASCII they are those of the core library; beyond it
they are read from the tables.
-/
import Gls.Text.CaseRuns
import Gls.Text.LetterRuns

namespace Gls.Text

/-- The character is ASCII. -/
def isAscii (c : Char) : Bool := c.toNat < 128

/-- The character has the property `Uppercase`. -/
def isUpper (c : Char) : Bool :=
  if isAscii c then c.isUpper else upperRuns.any (CodeRun.has · c.toNat)

/-- The character has the property `Lowercase`. -/
def isLower (c : Char) : Bool :=
  if isAscii c then c.isLower else lowerRuns.any (CodeRun.has · c.toNat)

/-- The character is alphabetic or a number. -/
def isAlphanumeric (c : Char) : Bool :=
  if isAscii c then c.isAlphanum else alphanumericRuns.any (CodeRun.has · c.toNat)

/-! ### Case mappings -/

/-- The image of a code point under a table of runs; itself when no run has it. -/
def mapRuns (runs : List CaseRun) (n : Nat) : Nat :=
  match runs.find? fun r => r.1 ≤ n && n ≤ r.2.1 && (n - r.1) % r.2.2.1 == 0 with
  | some r => r.2.2.2 + (n - r.1)
  | none => n

/-- The images of a character: the listed ones if it is listed, else the one the runs give. -/
def mapCase (several : List (Nat × List Nat)) (runs : List CaseRun) (c : Char) : List Char :=
  match several.find? fun e => e.1 == c.toNat with
  | some e => e.2.map Char.ofNat
  | none => [Char.ofNat (mapRuns runs c.toNat)]

/-- The lower-case form of a character, which may take two. -/
def toLower (c : Char) : List Char :=
  if isAscii c then [c.toLower] else mapCase toLowerSeveral toLowerRuns c

/-- The upper-case form of a character, which may take up to three. -/
def toUpper (c : Char) : List Char :=
  if isAscii c then [c.toUpper] else mapCase toUpperSeveral toUpperRuns c

end Gls.Text
