/-
# White space

White space is the Unicode property `White_Space`.  Trimming and line splitting are built on it.
-/

namespace Gls.Text

/-- The runs of code points with the property `White_Space`. -/
def blankRuns : List (Nat × Nat) :=
  [(0x09, 0x0D), (0x20, 0x20), (0x85, 0x85), (0xA0, 0xA0), (0x1680, 0x1680), (0x2000, 0x200A),
   (0x2028, 0x2029), (0x202F, 0x202F), (0x205F, 0x205F), (0x3000, 0x3000)]

/-- The character is white space. -/
def isBlank (c : Char) : Bool := blankRuns.any fun r => r.1 ≤ c.toNat && c.toNat ≤ r.2

/-! ### Trimming -/

/-- Drops white space at the start. -/
def trimLeft (cs : List Char) : List Char := cs.dropWhile isBlank

/-- Drops white space at the end. -/
def trimRight (cs : List Char) : List Char := (cs.reverse.dropWhile isBlank).reverse

/-- Drops white space at both ends. -/
def trim (cs : List Char) : List Char := trimRight (trimLeft cs)

/-- The text holds nothing but white space. -/
def allBlank (text : String) : Bool := text.toList.all isBlank

/-! ### Lines -/

/-- Takes one trailing CR off a line that is held in reverse, and puts the line in order. -/
def finishLine : List Char → List Char
  | '\r' :: line => line.reverse
  | line => line.reverse

/-- The lines of `cs`, when `line` is, in reverse, what the first of them begins with. -/
def linesFrom : List Char → List Char → List (List Char)
  | [], [] => []
  | line, [] => [line.reverse]
  | line, '\n' :: cs => finishLine line :: linesFrom [] cs
  | line, c :: cs => linesFrom (c :: line) cs

/-- The lines of a text.  A line ends with LF, and one CR before it belongs to the line end; a
last line without an end counts when it is not empty. -/
def lines (cs : List Char) : List (List Char) := linesFrom [] cs

end Gls.Text
