/-
# Finding comments in bytes

The comments of a text, found in its UTF-8 bytes without decoding them.  Everything the scanner
looks for is a single byte, so it moves on byte by byte, and by two bytes where a backslash stands
in a literal, whatever the second one belongs to.
-/
import Gls.Text.Comment

namespace Gls.CommentRange.Bytes

/-- The byte of a character that opens a literal. -/
def isQuote (b : UInt8) : Bool :=
  b == '"'.toUInt8 || b == '\''.toUInt8 || b == '\x60'.toUInt8

/-- The byte of a line break. -/
def isLineBreak (b : UInt8) : Bool := b == '\n'.toUInt8 || b == '\r'.toUInt8

variable (bytes : ByteArray)

/-- Where the literal that `quote` has opened ends, when the scan has come to `pos`: past the next
quote of its kind, at a line break unless it is a template, or at the end of the text. -/
def literalEnd (quote : UInt8) (pos : Nat) : Nat :=
  if h : pos < bytes.size then
    if bytes[pos] == '\\'.toUInt8 then literalEnd quote (pos + 2)
    else if isLineBreak bytes[pos] && quote != '\x60'.toUInt8 then pos
    else if bytes[pos] == quote then pos + 1
    else literalEnd quote (pos + 1)
  else bytes.size
termination_by bytes.size - pos

/-- Where a line comment ends, when the scan has come to `pos`. -/
def lineEnd (pos : Nat) : Nat :=
  if h : pos < bytes.size then
    if isLineBreak bytes[pos] then pos else lineEnd (pos + 1)
  else pos
termination_by bytes.size - pos

/-- Where a block comment ends, when the scan has come to `pos`: past its closing delimiter, or at
the end of the text. -/
def blockEnd (pos : Nat) : Nat :=
  if h : pos + 1 < bytes.size then
    if bytes[pos] == '*'.toUInt8 && bytes[pos + 1] == '/'.toUInt8 then pos + 2
    else blockEnd (pos + 1)
  else bytes.size
termination_by bytes.size - pos

/-! ### The scan moves on -/

theorem le_literalEnd (quote : UInt8) {pos : Nat} (h : pos ≤ bytes.size) :
    pos ≤ literalEnd bytes quote pos := by
  fun_induction literalEnd bytes quote pos with
  | case1 pos hpos _ ih =>
    -- The backslash may be the last byte; then the end of the text is reached, not two bytes more.
    by_cases hnext : pos + 2 ≤ bytes.size
    · exact Nat.le_trans (Nat.le_add_right pos 2) (ih hnext)
    · rw [literalEnd, dif_neg (by omega)]
      exact h
  | case2 | case5 => omega
  | case3 => omega
  | case4 pos hpos _ _ _ ih => exact Nat.le_trans (Nat.le_add_right pos 1) (ih hpos)

theorem le_lineEnd (pos : Nat) : pos ≤ lineEnd bytes pos := by
  fun_induction lineEnd bytes pos with
  | case1 | case3 => exact Nat.le_refl _
  | case2 pos _ _ ih => exact Nat.le_trans (Nat.le_add_right pos 1) ih

theorem le_blockEnd {pos : Nat} (h : pos ≤ bytes.size) : pos ≤ blockEnd bytes pos := by
  fun_induction blockEnd bytes pos with
  | case1 pos => exact Nat.le_add_right pos 2
  | case2 pos hpos _ ih => exact Nat.le_trans (Nat.le_add_right pos 1) (ih (Nat.le_of_lt hpos))
  | case3 => exact h

theorem getElem?_lt {pos : Nat} {b : UInt8} (h : (bytes[pos]? == some b) = true) :
    pos < bytes.size := by
  rw [beq_iff_eq] at h
  exact (getElem?_eq_some_iff.1 h).1

/-- The comments from `pos` on. -/
def scanFrom (pos : Nat) : List CommentRange :=
  if h : pos < bytes.size then
    if isQuote bytes[pos] then scanFrom (literalEnd bytes bytes[pos] (pos + 1))
    else if bytes[pos] == '/'.toUInt8 && bytes[pos + 1]? == some '/'.toUInt8 then
      ⟨UInt32.ofNat pos, UInt32.ofNat (lineEnd bytes (pos + 2)), false⟩
        :: scanFrom (lineEnd bytes (pos + 2))
    else if bytes[pos] == '/'.toUInt8 && bytes[pos + 1]? == some '*'.toUInt8 then
      ⟨UInt32.ofNat pos, UInt32.ofNat (blockEnd bytes (pos + 2)), true⟩
        :: scanFrom (blockEnd bytes (pos + 2))
    else scanFrom (pos + 1)
  else []
termination_by bytes.size - pos
decreasing_by
  · have : pos + 1 ≤ _ := le_literalEnd bytes bytes[pos] h
    omega
  · have := le_lineEnd bytes (pos + 2)
    omega
  · rename_i hstar
    have := getElem?_lt bytes (Bool.and_eq_true_iff.1 hstar).2
    have : pos + 2 ≤ _ := le_blockEnd bytes this
    omega
  · omega

end Gls.CommentRange.Bytes

namespace Gls.CommentRange

/-- All comments of a text, found in its bytes. -/
def scanBytes (source : String) : List CommentRange := Bytes.scanFrom source.toUTF8 0

end Gls.CommentRange
