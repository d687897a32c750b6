/-
# Lines and columns

A line map holds the offsets at which the lines of a text begin.  A line ends with LF, with CR, or
with CR LF, which counts once.  Looking up an offset finds the last line that begins at or before
it.
-/
import Gls.Text.Utf8

namespace Gls

/-- A line and an offset into it, both counted from zero. -/
structure Position where
  line : UInt32
  character : UInt32
deriving DecidableEq

/-- The offsets at which lines begin, in order. -/
structure LineMap where
  starts : Array UInt32

namespace LineMap

/-- The offsets just past each line end, for characters that begin at offset `pos`. -/
def endsFrom : Nat → List Char → List Nat
  | _, [] => []
  | pos, '\r' :: '\n' :: cs => (pos + 2) :: endsFrom (pos + 2) cs
  | pos, '\r' :: cs => (pos + 1) :: endsFrom (pos + 1) cs
  | pos, '\n' :: cs => (pos + 1) :: endsFrom (pos + 1) cs
  | pos, c :: cs => endsFrom (pos + c.utf8Size) cs

/-- The lines of a text, with their starts cut to 32 bits. -/
def build (text : String) : LineMap where
  starts := ((0 :: endsFrom 0 text.toList).map UInt32.ofNat).toArray

/-- The lines of a text, if their starts can be counted in 32 bits.  Each start but the first is one
more than the offset before it, cut to 32 bits, and comes out as zero where that sum overflows. -/
def build? (text : String) : Option LineMap :=
  if (endsFrom 0 text.toList).all (UInt32.ofNat · ≠ 0) then some (build text) else none

/-- How many lines there are. -/
def lineCount (m : LineMap) : Nat := m.starts.size

/-- Bisection: given that the entries before `lo` are at most `offset` and those from `hi` on are
above it, how many entries are at most `offset`. -/
def bisect (starts : Array UInt32) (offset : UInt32) (lo hi : Nat) : Nat :=
  if lo < hi then
    let mid := (lo + hi) / 2
    if starts.getD mid 0 ≤ offset then bisect starts offset (mid + 1) hi
    else bisect starts offset lo mid
  else lo
termination_by hi - lo
decreasing_by all_goals omega

/-- The line an offset falls on.  An offset past the end falls on the last line. -/
def lineOf (m : LineMap) (offset : UInt32) : Nat :=
  bisect m.starts offset 0 m.starts.size - 1

/-- The position of an offset. -/
def position (m : LineMap) (offset : UInt32) : Position :=
  let line := m.lineOf offset
  let start := m.starts.getD line 0
  ⟨UInt32.ofNat line, if start ≤ offset then offset - start else 0⟩

end LineMap

end Gls
