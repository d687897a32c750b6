/-
# Source ranges

A span is a half-open range of byte offsets into a source text.  Spans come from outside and are
not checked: one may run backwards, or past the end of the text.
-/
import Gls.Text.Utf8

namespace Gls

/-- The bytes from `start` up to, and without, `stop`. -/
structure Span where
  start : UInt32 := 0
  stop : UInt32 := 0
deriving DecidableEq, Inhabited

namespace Span

/-- The empty span at one offset. -/
def point (offset : UInt32) : Span := ⟨offset, offset⟩

/-- How many bytes are spanned; none by a span that runs backwards. -/
def len (s : Span) : UInt32 := if s.start ≤ s.stop then s.stop - s.start else 0

/-- Nothing is spanned. -/
def isEmpty (s : Span) : Bool := s.len == 0

/-- The second span begins and ends within the first. -/
def contains (s t : Span) : Bool := s.start ≤ t.start && t.stop ≤ s.stop

/-- The smallest span that reaches over both. -/
def cover (s t : Span) : Span := ⟨min s.start t.start, max s.stop t.stop⟩

/-- The spanned text; nothing when an end is no place to cut the text. -/
def slice (s : Span) (text : String) : String :=
  String.ofList ((Text.slice? text.toList s.start.toNat s.stop.toNat).getD [])

/-- A span is written as its two offsets with two dots between them. -/
def render (s : Span) : String := toString s.start.toNat ++ ".." ++ toString s.stop.toNat

end Span

end Gls
