/-
# Reading JSON text

Tokens are put together with a stack of the arrays and objects that are still open, so that a value
may be nested to any depth.
-/
import Gls.Json.Lexer

namespace Gls.Json

/-- An array or object that is still open; what it holds so far is in reverse. -/
inductive Frame where
  | array (done : List Json)
  | object (done : List (String × Json))
  /-- An object that waits for the value of the member `key`. -/
  | member (done : List (String × Json)) (key : String)

/-- What may come next. -/
inductive Expect where
  | value
  /-- The first item of an array, or its end. -/
  | itemOrClose
  /-- The first member of an object, or its end. -/
  | keyOrClose
  /-- A further member of an object. -/
  | key
  /-- The colon after the name of a member. -/
  | colon
  /-- A comma, or the end of the innermost array or object. -/
  | comma
  /-- Nothing: the value is complete. -/
  | nothing (result : Json)

/-- The open arrays and objects, innermost first, and what may come next. -/
structure ParseState where
  stack : List Frame
  expect : Expect

/-- Puts a complete value in its place. -/
def complete (v : Json) : List Frame → Option ParseState
  | [] => some ⟨[], .nothing v⟩
  | .array done :: stack => some ⟨.array (v :: done) :: stack, .comma⟩
  | .member done key :: stack => some ⟨.object ((key, v) :: done) :: stack, .comma⟩
  | .object _ :: _ => none

/-- Reads the first token of a value. -/
def ParseState.begin (stack : List Frame) : Token → Option ParseState
  | .word v => complete v stack
  | .text raw => complete (str raw) stack
  | .mark c =>
    if c == '[' then some ⟨.array [] :: stack, .itemOrClose⟩
    else if c == '\x7b' then some ⟨.object [] :: stack, .keyOrClose⟩
    else none

/-- Closes the innermost array or object. -/
def ParseState.close (c : Char) : List Frame → Option ParseState
  | .array done :: stack => if c == ']' then complete (arr done.reverse) stack else none
  | .object done :: stack => if c == '\x7d' then complete (obj done.reverse) stack else none
  | _ => none

/-- Reads the name of a member. -/
def ParseState.name (raw : String) : List Frame → Option ParseState
  | .object done :: stack => some ⟨.member done raw :: stack, .colon⟩
  | _ => none

/-- Reads one token. -/
def ParseState.step (s : ParseState) (t : Token) : Option ParseState :=
  match s.expect, t with
  | .value, t => begin s.stack t
  | .itemOrClose, .mark ']' => close ']' s.stack
  | .itemOrClose, t => begin s.stack t
  | .keyOrClose, .mark c => close c s.stack
  | .keyOrClose, .text raw => name raw s.stack
  | .key, .text raw => name raw s.stack
  | .colon, .mark ':' => some ⟨s.stack, .value⟩
  | .comma, .mark ',' =>
    match s.stack with
    | .array _ :: _ => some ⟨s.stack, .value⟩
    | .object _ :: _ => some ⟨s.stack, .key⟩
    | _ => none
  | .comma, .mark c => close c s.stack
  | _, _ => none

/-- The value, when it is complete. -/
def ParseState.result? (s : ParseState) : Option Json :=
  match s.expect with
  | .nothing v => some v
  | _ => none

/-- The value that a list of tokens spells. -/
def ofTokens? (ts : List Token) : Option Json :=
  (ts.foldlM ParseState.step ⟨[], .value⟩).bind ParseState.result?

/-- The value a text stands for, if it is JSON. -/
def parse? (text : String) : Option Json := (tokens? text.toList).bind ofTokens?

end Gls.Json
