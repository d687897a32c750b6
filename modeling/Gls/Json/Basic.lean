/-
# JSON values as they are written

A value keeps what a reader of a document may ask for later: the order of members, members that are
written twice, whether a number is written as an integer, and the text of a string as it stands
between its quotes.  A string is unescaped only when it is asked for, so that a value nobody asks
for may hold an escape that stands for no character.
-/

namespace Gls

/-- A JSON value. -/
inductive Json where
  | null
  | bool (b : Bool)
  /-- A number written as an integer. -/
  | int (n : Int)
  /-- A number written in any other way, as written. -/
  | real (lexeme : String)
  /-- A string, as written between its quotes. -/
  | str (raw : String)
  | arr (items : List Json)
  /-- An object; names are as written between their quotes. -/
  | obj (members : List (String × Json))

namespace Json

instance : Inhabited Json := ⟨null⟩

/-! ### Escaping -/

/-- The digit of a value below sixteen. -/
def hexDigit (n : Nat) : Char := if n < 10 then Char.ofNat (48 + n) else Char.ofNat (87 + n)

/-- How one character is written inside a string. -/
def escapeChar (c : Char) : List Char :=
  if c == '"' then ['\\', '"']
  else if c == '\\' then ['\\', '\\']
  else if c == '\n' then ['\\', 'n']
  else if c == '\r' then ['\\', 'r']
  else if c == '\t' then ['\\', 't']
  else if c == '\x08' then ['\\', 'b']
  else if c == '\x0c' then ['\\', 'f']
  else if c.toNat < 32 then ['\\', 'u', '0', '0', hexDigit (c.toNat / 16), hexDigit (c.toNat % 16)]
  else [c]

/-- How a text is written between quotes. -/
def escape (text : String) : String := String.ofList (text.toList.flatMap escapeChar)

/-- The value of a hexadecimal digit. -/
def hexValue? (c : Char) : Option Nat :=
  if c.isDigit then some (c.toNat - 48)
  else if 'a' ≤ c && c ≤ 'f' then some (c.toNat - 87)
  else if 'A' ≤ c && c ≤ 'F' then some (c.toNat - 55)
  else none

/-- A piece of a string: a character, or the code unit of a `\u` escape. -/
inductive Piece where
  | char (c : Char)
  | unit (n : Nat)

/-- What a one-letter escape stands for. -/
def shortEscape? (c : Char) : Option Char :=
  if c == '"' || c == '\\' || c == '/' then some c
  else if c == 'n' then some '\n'
  else if c == 'r' then some '\r'
  else if c == 't' then some '\t'
  else if c == 'b' then some '\x08'
  else if c == 'f' then some '\x0c'
  else none

/-- Reads the pieces of a string as written. -/
def pieces? : List Char → Option (List Piece)
  | [] => some []
  | '\\' :: 'u' :: a :: b :: c :: d :: cs => do
    let n := 4096 * (← hexValue? a) + 256 * (← hexValue? b) + 16 * (← hexValue? c) + (← hexValue? d)
    return .unit n :: (← pieces? cs)
  | '\\' :: c :: cs => do
    let c ← shortEscape? c
    return .char c :: (← pieces? cs)
  | c :: cs => if c == '\\' then none else (pieces? cs).map (.char c :: ·)

/-- A code unit in the first half of a surrogate pair. -/
def isHigh (n : Nat) : Bool := 0xD800 ≤ n && n < 0xDC00

/-- A code unit in the second half of a surrogate pair. -/
def isLow (n : Nat) : Bool := 0xDC00 ≤ n && n < 0xE000

/-- Joins surrogate pairs; a half that stands alone is no character. -/
def joinPieces? : List Piece → Option (List Char)
  | [] => some []
  | .char c :: ps => (joinPieces? ps).map (c :: ·)
  | [.unit n] => if isHigh n || isLow n then none else some [Char.ofNat n]
  | .unit n :: p :: ps =>
    if isLow n then none
    else if isHigh n then
      match p with
      | .unit m =>
        if isLow m then
          (joinPieces? ps).map (Char.ofNat (0x10000 + (n - 0xD800) * 0x400 + (m - 0xDC00)) :: ·)
        else none
      | .char _ => none
    else (joinPieces? (p :: ps)).map (Char.ofNat n :: ·)

/-- The text that a string as written stands for, if it stands for one. -/
def unescape? (raw : String) : Option String :=
  ((pieces? raw.toList).bind joinPieces?).map String.ofList

/-! ### Building values -/

/-- A string value. -/
def ofString (text : String) : Json := str (escape text)

/-- A number. -/
def ofNat (n : Nat) : Json := int n

/-- A list of values. -/
def ofList {α : Type} (f : α → Json) (xs : List α) : Json := arr (xs.map f)

/-- A value that may be absent. -/
def ofOption {α : Type} (f : α → Json) : Option α → Json
  | some x => f x
  | none => null

/-- An object with the given members. -/
def ofMembers (members : List (String × Json)) : Json :=
  obj (members.map fun m => (escape m.1, m.2))

end Json

end Gls
