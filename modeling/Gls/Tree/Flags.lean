/-
# Sets of named flags

A set of flags is a word of bits.  It is written as the names of its bits, joined by bars; bits
without a name follow in hexadecimal.  Reading also takes names that stand for several bits.
-/
import Gls.Json.Basic
import Gls.Text.Blank
import Gls.Text.Split

namespace Gls

/-- The names of the flags of a word of `w` bits. -/
structure FlagNames (w : Nat) where
  /-- The names of single bits, in the order in which they are written. -/
  single : List (String × BitVec w)
  /-- The names of several bits at once, which are only read. -/
  several : List (String × BitVec w) := []

namespace FlagNames

variable {w : Nat}

/-! ### Reading -/

/-- The value of hexadecimal digits. -/
def hexValue? (ds : List Char) : Option Nat :=
  ds.foldlM (fun n c => (Json.hexValue? c).map (16 * n + ·)) 0

/-- The bits that hexadecimal digits stand for, when there is a digit and the value fits.  A plus
sign may stand before them. -/
def hexBits? (cs : List Char) : Option (BitVec w) :=
  let ds := match cs with
    | '+' :: ds => ds
    | ds => ds
  if ds.isEmpty then none
  else (hexValue? ds).bind fun n =>
    if (BitVec.ofNat w n).toNat = n then some (BitVec.ofNat w n) else none

/-- The bits that one piece stands for. -/
def piece? (names : FlagNames w) (piece : List Char) : Option (BitVec w) :=
  match piece with
  | '0' :: 'x' :: ds => hexBits? ds
  | _ =>
    ((names.single ++ names.several).find? fun e => e.1 == String.ofList piece).map Prod.snd

/-- The bits that a text stands for. -/
def read? (names : FlagNames w) (text : String) : Option (BitVec w) :=
  if Text.allBlank text then some 0
  else
    (Text.splitAt '|' text.toList).foldlM
      (fun bits p => (names.piece? (Text.trim p)).map (bits ||| ·)) 0

/-! ### Writing -/

/-- The named bits that are set, in order. -/
def present (names : FlagNames w) (bits : BitVec w) : List (String × BitVec w) :=
  names.single.filter fun e => bits &&& e.2 == e.2

/-- The bits that are set and have no name. -/
def unnamed (names : FlagNames w) (bits : BitVec w) : BitVec w :=
  bits &&& ~~~(names.single.foldl (fun b e => b ||| e.2) 0)

/-- A value in hexadecimal. -/
def hexChars (n : Nat) : List Char := Nat.toDigits 16 n

/-- The pieces a set is written in. -/
def pieces (names : FlagNames w) (bits : BitVec w) : List String :=
  (names.present bits).map Prod.fst ++
    if names.unnamed bits = 0 then []
    else [String.ofList ('0' :: 'x' :: hexChars (names.unnamed bits).toNat)]

/-- The text of a set. -/
def write (names : FlagNames w) (bits : BitVec w) : String :=
  String.intercalate " | " (names.pieces bits)

end FlagNames

/-! ### Modifiers -/

/-- The modifiers written on a declaration. -/
structure Modifiers where
  bits : BitVec 16 := 0
deriving DecidableEq

namespace Modifiers

/-- The modifiers by name. -/
def names : FlagNames 16 where
  single :=
    [("EXPORT", 0x1#16), ("DECLARE", 0x2#16), ("PUBLIC", 0x4#16), ("PRIVATE", 0x8#16),
     ("PROTECTED", 0x10#16), ("STATIC", 0x20#16), ("READONLY", 0x40#16), ("ABSTRACT", 0x80#16),
     ("CONST", 0x100#16), ("LET", 0x200#16)]

/-- The modifier `private`. -/
def isPrivate (m : Modifiers) : Bool := m.bits &&& 0x8#16 == 0x8#16

/-- The modifier `protected`. -/
def isProtected (m : Modifiers) : Bool := m.bits &&& 0x10#16 == 0x10#16

/-- No modifier. -/
def isEmpty (m : Modifiers) : Bool := m.bits == 0

/-- Reads modifiers. -/
def read? (text : String) : Option Modifiers := (names.read? text).map (⟨·⟩)

/-- Writes modifiers. -/
def write (m : Modifiers) : String := names.write m.bits

end Modifiers

/-- Who may see a member. -/
inductive Privacy where
  | visible
  | guarded
  | hidden
deriving DecidableEq

namespace Privacy

/-- The word for a privacy. -/
def word : Privacy → String
  | .visible => "public"
  | .guarded => "protected"
  | .hidden => "private"

/-- The privacy that modifiers declare: `private` wins over `protected`, and without either a
member is public. -/
def ofModifiers (m : Modifiers) : Privacy :=
  if m.isPrivate then .hidden else if m.isProtected then .guarded else .visible

end Privacy

end Gls
