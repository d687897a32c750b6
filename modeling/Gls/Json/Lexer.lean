/-
# Tokens of a JSON text

The text is read one character at a time.  Between tokens only white space may stand.  A bare word
runs as far as it can and must then be `null`, `true`, `false` or a number; a string runs to the
first quote that is not escaped.
-/
import Gls.Json.Basic

namespace Gls.Json

/-- A token. -/
inductive Token where
  /-- One of `[`, `]`, `,`, `:` and the two braces. -/
  | mark (c : Char)
  /-- A value that is one word. -/
  | word (value : Json)
  /-- A string, as written between its quotes. -/
  | text (raw : String)

/-! ### Numbers -/

/-- Digits without a leading zero. -/
def isWhole : List Char → Bool
  | [] => false
  | ['0'] => true
  | '0' :: _ => false
  | ds => ds.all Char.isDigit

/-- At least one digit, and nothing else. -/
def isDigits (ds : List Char) : Bool := !ds.isEmpty && ds.all Char.isDigit

/-- What may follow the mark of an exponent: a sign or none, and digits. -/
def isExponent : List Char → Bool
  | '+' :: ds => isDigits ds
  | '-' :: ds => isDigits ds
  | ds => isDigits ds

/-- The mark of an exponent. -/
def isExponentMark (c : Char) : Bool := c == 'e' || c == 'E'

/-- What may follow the whole part: a fraction or none, and an exponent or none. -/
def isTail (cs : List Char) : Bool :=
  let noExponent (ds : List Char) := ds.takeWhile (fun c => !isExponentMark c)
  let exponent (ds : List Char) := ds.dropWhile (fun c => !isExponentMark c)
  match cs with
  | '.' :: ds =>
    isDigits (noExponent ds) &&
      (match exponent ds with
       | [] => true
       | _ :: es => isExponent es)
  | c :: es => isExponentMark c && isExponent es
  | [] => false

/-- The value of decimal digits. -/
def digitsValue (ds : List Char) : Nat := ds.foldl (fun n c => 10 * n + (c.toNat - 48)) 0

/-- The number written without its sign. -/
def unsigned? (negative : Bool) (lexeme : String) (cs : List Char) : Option Json :=
  let whole := cs.takeWhile Char.isDigit
  let tail := cs.dropWhile Char.isDigit
  if !isWhole whole then none
  else if tail.isEmpty then
    let n := digitsValue whole
    if negative then (if n = 0 then some (real lexeme) else some (int (-(n : Int))))
    else some (int n)
  else if isTail tail then some (real lexeme)
  else none

/-- The number a word stands for.  Minus zero is not written as an integer. -/
def number? (cs : List Char) : Option Json :=
  match cs with
  | '-' :: ds => unsigned? true (String.ofList cs) ds
  | ds => unsigned? false (String.ofList cs) ds

/-- The value a bare word stands for. -/
def word? (cs : List Char) : Option Json :=
  if cs == ['n', 'u', 'l', 'l'] then some null
  else if cs == ['t', 'r', 'u', 'e'] then some (bool true)
  else if cs == ['f', 'a', 'l', 's', 'e'] then some (bool false)
  else number? cs

/-! ### Reading character by character -/

/-- What the lexer is in the middle of.  What has been read of a token is held in reverse. -/
inductive LexMode where
  | between
  | word (seen : List Char)
  | text (seen : List Char)
  /-- Just after a backslash. -/
  | escaped (seen : List Char)
  /-- Inside a `\u` escape, with so many digits to come. -/
  | hex (seen : List Char) (left : Nat)

/-- The mode, and the tokens that are complete, last first. -/
structure LexState where
  mode : LexMode
  done : List Token

/-- The four characters that may stand between tokens. -/
def isSpace (c : Char) : Bool := c == ' ' || c == '\n' || c == '\t' || c == '\r'

/-- The six characters that are tokens by themselves. -/
def isMark (c : Char) : Bool :=
  c == '[' || c == ']' || c == '\x7b' || c == '\x7d' || c == ',' || c == ':'

/-- The characters a bare word is made of. -/
def isWordChar (c : Char) : Bool := c.isAlphanum || c == '-' || c == '+' || c == '.'

/-- Reads a character between tokens. -/
def LexState.outside (done : List Token) (c : Char) : Option LexState :=
  if isSpace c then some ⟨.between, done⟩
  else if isMark c then some ⟨.between, .mark c :: done⟩
  else if c == '"' then some ⟨.text [], done⟩
  else if isWordChar c then some ⟨.word [c], done⟩
  else none

/-- Reads one character. -/
def LexState.step (s : LexState) (c : Char) : Option LexState :=
  match s.mode with
  | .between => outside s.done c
  | .word seen =>
    if isWordChar c then some ⟨.word (c :: seen), s.done⟩
    else (word? seen.reverse).bind fun v => outside (.word v :: s.done) c
  | .text seen =>
    if c == '"' then some ⟨.between, .text (String.ofList seen.reverse) :: s.done⟩
    else if c == '\\' then some ⟨.escaped (c :: seen), s.done⟩
    else if c.toNat < 32 then none
    else some ⟨.text (c :: seen), s.done⟩
  | .escaped seen =>
    if c == 'u' then some ⟨.hex (c :: seen) 4, s.done⟩
    else if (shortEscape? c).isSome then some ⟨.text (c :: seen), s.done⟩
    else none
  | .hex seen left =>
    if (hexValue? c).isNone then none
    else if left ≤ 1 then some ⟨.text (c :: seen), s.done⟩
    else some ⟨.hex (c :: seen) (left - 1), s.done⟩

/-- The tokens, when the text may end here. -/
def LexState.finish (s : LexState) : Option (List Token) :=
  match s.mode with
  | .between => some s.done.reverse
  | .word seen => (word? seen.reverse).map fun v => (.word v :: s.done).reverse
  | _ => none

/-- The tokens of a text. -/
def tokens? (cs : List Char) : Option (List Token) :=
  (cs.foldlM LexState.step ⟨.between, []⟩).bind LexState.finish

end Gls.Json
