/-
# From JSON values to records, lists and maps

How values of the library's types are read from JSON.  A record is written as an object with named
members, or as an array of its fields in order.  A variant is written as its name alone, or as an
object whose only member has that name.
-/
import Gls.Json.Lexer
import Gls.OrderedMap

namespace Gls.Json

/-! ### Plain values -/

/-- A text. -/
def asString? : Json → Option String
  | str raw => unescape? raw
  | _ => none

/-- A truth value. -/
def asBool? : Json → Option Bool
  | bool b => some b
  | _ => none

/-- A natural number of 32 bits, written as an integer. -/
def asUInt32? : Json → Option UInt32
  | int (.ofNat n) => if n < UInt32.size then some (UInt32.ofNat n) else none
  | _ => none

/-- An integer of 32 bits with a sign, written as an integer. -/
def asInt32? : Json → Option Int
  | int n => if -2147483648 ≤ n ∧ n < 2147483648 then some n else none
  | _ => none

/-- A natural number, written as an integer. -/
def asNat? : Json → Option Nat
  | int (.ofNat n) => some n
  | _ => none

/-- A list. -/
def asList? {α : Type} (item : Json → Option α) : Json → Option (List α)
  | arr items => items.mapM item
  | _ => none

/-- A value or `null`. -/
def asNullable? {α : Type} (value : Json → Option α) : Json → Option (Option α)
  | null => some none
  | v => (value v).map some

/-- A map.  When a key is written again the later value counts, in the place of the earlier. -/
def asMap? {κ α : Type} [DecidableEq κ] (key : String → Option κ) (value : Json → Option α) :
    Json → Option (OrderedMap κ α)
  | obj members =>
    (members.mapM fun m => (key m.1).bind fun k => (value m.2).map fun v => (k, v)).map
      OrderedMap.ofList
  | _ => none

/-- A number of 32 bits that is the name of a member, in plain digits. -/
def keyUInt32? (raw : String) : Option UInt32 :=
  if isWhole raw.toList && digitsValue raw.toList < UInt32.size then
    some (UInt32.ofNat (digitsValue raw.toList))
  else none

/-! ### Records -/

/-- The fields of a record that are there, by name, and whether the record is written with names or
as an array. -/
structure Record where
  keyed : Bool
  values : List (String × Json)

namespace Record

/-- The known members of an object.  A known member must not be written twice; an unknown one is
left out, or refused by a strict record. -/
def known? (names : List String) (strict : Bool) :
    List (String × Json) → Option (List (String × Json))
  | [] => some []
  | (raw, v) :: ms => do
    let name ← unescape? raw
    let rest ← known? names strict ms
    if names.contains name then
      if rest.any (fun m => m.1 == name) then none else some ((name, v) :: rest)
    else if strict then none
    else some rest

/-- Reads a record with the given field names.  An array may be too short, never too long. -/
def ofJson? (names : List String) (strict : Bool) : Json → Option Record
  | obj members => (known? names strict members).map (⟨true, ·⟩)
  | arr items => if items.length ≤ names.length then some ⟨false, names.zip items⟩ else none
  | _ => none

/-- The field as written, if it is there. -/
def find? (r : Record) (name : String) : Option Json :=
  (r.values.find? fun m => m.1 == name).map Prod.snd

/-- A field that must be there. -/
def required? {α : Type} (r : Record) (name : String) (value : Json → Option α) : Option α :=
  (r.find? name).bind value

/-- A field with a default. -/
def withDefault? {α : Type} (r : Record) (name : String) (value : Json → Option α)
    (otherwise : α) : Option α :=
  match r.find? name with
  | some v => value v
  | none => some otherwise

/-- A field that may be `null` and may be left out. -/
def optional? {α : Type} (r : Record) (name : String) (value : Json → Option α) :
    Option (Option α) :=
  r.withDefault? name (asNullable? value) none

/-- A field that may be `null`, and may be left out where fields are named. -/
def nullable? {α : Type} (r : Record) (name : String) (value : Json → Option α) :
    Option (Option α) :=
  match r.find? name with
  | some v => asNullable? value v
  | none => if r.keyed then some none else none

end Record

/-! ### Variants -/

/-- The name of a variant, and its payload if one is written. -/
def variant? : Json → Option (String × Option Json)
  | str raw => (unescape? raw).map (·, none)
  | obj [(raw, payload)] => (unescape? raw).map (·, some payload)
  | _ => none

/-- A variant without payload: its name, or its name with `null`. -/
def bareVariant? (v : Json) : Option String :=
  match variant? v with
  | some (name, none) => some name
  | some (name, some null) => some name
  | _ => none

/-- The object that writes a variant with payload. -/
def ofVariant (name : String) (payload : Json) : Json := ofMembers [(name, payload)]

end Gls.Json
