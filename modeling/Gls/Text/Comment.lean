/-
# Comments in source text

Comments are no nodes of a syntax tree; they are found by scanning the source text.  A line comment
runs from `//` to the end of its line, a block comment from `/*` to the first `*/` after it, or to
the end of the text.  Quoted literals are skipped, so that `"//"` opens no comment.
-/
import Gls.Text.Blank
import Gls.Text.Span

namespace Gls

/-- Where a comment stands and whether it is a block comment. -/
structure CommentRange where
  pos : UInt32
  stop : UInt32
  isBlock : Bool
deriving DecidableEq

namespace CommentRange

/-- What the scanner is reading. -/
inductive Mode where
  /-- Source text outside comments and literals. -/
  | code
  /-- A literal opened by `quote`. -/
  | quoted (quote : Char)
  /-- A line comment that began at `start`. -/
  | line (start : Nat)
  /-- A block comment that began at `start`. -/
  | block (start : Nat)

/-- A line break, which ends a line comment, and also a literal that is not a template. -/
def isLineBreak (c : Char) : Bool := c == '\n' || c == '\r'

/-- The three characters that open a literal. -/
def isQuote (c : Char) : Bool := c == '"' || c == '\'' || c == '\x60'

/-- The comment that a scan leaves open at the end of the text. -/
def pending (mode : Mode) (pos : Nat) : List CommentRange :=
  match mode with
  | .line start => [⟨UInt32.ofNat start, UInt32.ofNat pos, false⟩]
  | .block start => [⟨UInt32.ofNat start, UInt32.ofNat pos, true⟩]
  | _ => []

/-- The comments that end within the given characters, the first of which stands at `pos`. -/
def scanFrom : Mode → Nat → List Char → List CommentRange
  | mode, pos, [] => pending mode pos
  | .code, pos, '/' :: '/' :: cs => scanFrom (.line pos) (pos + 2) cs
  | .code, pos, '/' :: '*' :: cs => scanFrom (.block pos) (pos + 2) cs
  | .code, pos, c :: cs =>
    scanFrom (if isQuote c then .quoted c else .code) (pos + c.utf8Size) cs
  | .quoted q, pos, '\\' :: c :: cs => scanFrom (.quoted q) (pos + 1 + c.utf8Size) cs
  | .quoted q, pos, c :: cs =>
    if c == q || isLineBreak c && q != '\x60' then scanFrom .code (pos + c.utf8Size) cs
    else scanFrom (.quoted q) (pos + c.utf8Size) cs
  | .line start, pos, c :: cs =>
    if isLineBreak c then
      ⟨UInt32.ofNat start, UInt32.ofNat pos, false⟩ :: scanFrom .code (pos + 1) cs
    else scanFrom (.line start) (pos + c.utf8Size) cs
  | .block start, pos, '*' :: '/' :: cs =>
    ⟨UInt32.ofNat start, UInt32.ofNat (pos + 2), true⟩ :: scanFrom .code (pos + 2) cs
  | .block start, pos, c :: cs => scanFrom (.block start) (pos + c.utf8Size) cs

/-- All comments of a source text, in order. -/
def scan (source : String) : List CommentRange := scanFrom .code 0 source.toList

/-- The range as a span. -/
def span (r : CommentRange) : Span := ⟨r.pos, r.stop⟩

/-- The text of a comment, delimiters included. -/
def text (r : CommentRange) (source : String) : String := r.span.slice source

/-! ### The body of a comment -/

/-- Drops the closing delimiter from the end, if it is there. -/
def dropClosing (cs : List Char) : List Char :=
  match cs.reverse with
  | '/' :: '*' :: rest => rest.reverse
  | _ => cs

/-- Drops the opening delimiter from the start, if it is there. -/
def dropOpening : List Char → List Char
  | '/' :: '*' :: cs => cs
  | cs => cs

/-- One line of a block comment without its decoration: at most one star after the leading white
space, and the white space at both ends. -/
def undecorate (line : List Char) : List Char :=
  match Text.trimLeft line with
  | '*' :: rest => Text.trim rest
  | rest => Text.trim rest

/-- Drops the empty lines at both ends. -/
def dropEmptyEnds (ls : List (List Char)) : List (List Char) :=
  (((ls.dropWhile List.isEmpty).reverse).dropWhile List.isEmpty).reverse

/-- The lines a block comment holds between its delimiters. -/
def blockBody (text : List Char) : List (List Char) :=
  dropEmptyEnds
    ((Text.lines (dropClosing ((dropOpening text).dropWhile (· == '*')))).map undecorate)

/-- The text a line comment holds after its slashes. -/
def lineBody (text : List Char) : List Char := Text.trim (text.dropWhile (· == '/'))

/-- What a comment says, line by line, without delimiters and decoration. -/
def bodyLines (r : CommentRange) (source : String) : List String :=
  let text := (r.text source).toList
  if r.isBlock then (blockBody text).map String.ofList else [String.ofList (lineBody text)]

end CommentRange

end Gls
