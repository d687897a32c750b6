/-
# Writing JSON text

Values are written on one line without spaces, or with one item or member a line, indented by two
spaces a level.  An empty array or object is written on one line in both layouts.
-/
import Gls.Json.Basic

namespace Gls.Json

/-- A string between its quotes. -/
def quote (raw : String) : List Char := '"' :: raw.toList ++ ['"']

/-- The digits of an integer. -/
def intChars (n : Int) : List Char := (toString n).toList

/-! ### One line -/

mutual

/-- The value on one line. -/
def compactChars : Json → List Char
  | null => ['n', 'u', 'l', 'l']
  | bool true => ['t', 'r', 'u', 'e']
  | bool false => ['f', 'a', 'l', 's', 'e']
  | int n => intChars n
  | real lexeme => lexeme.toList
  | str raw => quote raw
  | arr [] => ['[', ']']
  | arr (v :: vs) => '[' :: compactChars v ++ compactItems vs
  | obj [] => ['\x7b', '\x7d']
  | obj ((k, v) :: ms) => '\x7b' :: quote k ++ ':' :: compactChars v ++ compactMembers ms

/-- The items after the first, and the end of the array. -/
def compactItems : List Json → List Char
  | [] => [']']
  | v :: vs => ',' :: compactChars v ++ compactItems vs

/-- The members after the first, and the end of the object. -/
def compactMembers : List (String × Json) → List Char
  | [] => ['\x7d']
  | (k, v) :: ms => ',' :: quote k ++ ':' :: compactChars v ++ compactMembers ms

end

/-- The text of a value on one line. -/
def compact (v : Json) : String := String.ofList (compactChars v)

/-! ### Several lines -/

/-- A line break and the indentation of a level. -/
def breakAt (level : Nat) : List Char := '\n' :: List.replicate (2 * level) ' '

mutual

/-- The value over several lines, when it begins at the given level. -/
def prettyChars (level : Nat) : Json → List Char
  | null => ['n', 'u', 'l', 'l']
  | bool true => ['t', 'r', 'u', 'e']
  | bool false => ['f', 'a', 'l', 's', 'e']
  | int n => intChars n
  | real lexeme => lexeme.toList
  | str raw => quote raw
  | arr [] => ['[', ']']
  | arr (v :: vs) =>
    '[' :: breakAt (level + 1) ++ prettyChars (level + 1) v ++ prettyItems level vs
  | obj [] => ['\x7b', '\x7d']
  | obj ((k, v) :: ms) =>
    '\x7b' :: breakAt (level + 1) ++ quote k ++ ':' :: ' ' :: prettyChars (level + 1) v
      ++ prettyMembers level ms

/-- The items after the first, and the end of the array. -/
def prettyItems (level : Nat) : List Json → List Char
  | [] => breakAt level ++ [']']
  | v :: vs => ',' :: breakAt (level + 1) ++ prettyChars (level + 1) v ++ prettyItems level vs

/-- The members after the first, and the end of the object. -/
def prettyMembers (level : Nat) : List (String × Json) → List Char
  | [] => breakAt level ++ ['\x7d']
  | (k, v) :: ms =>
    ',' :: breakAt (level + 1) ++ quote k ++ ':' :: ' ' :: prettyChars (level + 1) v
      ++ prettyMembers level ms

end

/-- The text of a value over several lines. -/
def pretty (v : Json) : String := String.ofList (prettyChars 0 v)

end Gls.Json
