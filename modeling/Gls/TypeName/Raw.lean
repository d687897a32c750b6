/-
# Type names from the text of an annotation

An annotation about which nothing is known but its text is read by a small grammar:

    union   ::= '|'? suffixed ('|' suffixed)*
    suffixed ::= primary ('[' ']')*
    primary ::= '(' union ')'
              | '{' '[' Name ':' union ']' ':' union (';' | ',')? '}'
              | Name
              | Name '<' union (',' union)* '>'

`null` and `undefined` are nullish.  A union drops nullish and repeated members; what is left is
nullish, the only member, or a union type.  Anywhere else a nullish type cannot be written.  At
most `maxNesting` unions may be open at once.
-/
import Gls.Catalog
import Gls.Command
import Gls.Text.Letter

namespace Gls

/-- The name of a type: a plain name or a command such as `list type : float`. -/
abbrev TypeName := Argument

namespace RawType

/-- How many unions may be open at once. -/
def maxNesting : Nat := 32

/-- A token of an annotation. -/
inductive Token where
  | name (text : String)
  | mark (c : Char)
deriving DecidableEq

/-! ### Tokens -/

/-- The characters a name is made of. -/
def isNameChar (c : Char) : Bool := Text.isAlphanumeric c || c == '_' || c == '$' || c == '.'

/-- The characters that are tokens by themselves. -/
def isMark (c : Char) : Bool :=
  c == '<' || c == '>' || c == '[' || c == ']' || c == '(' || c == ')' || c == '\x7b'
    || c == '\x7d' || c == '|' || c == ',' || c == ':' || c == ';'

/-- The name that was being read, if there is one; it is held in reverse. -/
def nameToken (seen : List Char) : List Token :=
  if seen.isEmpty then [] else [.name (String.ofList seen.reverse)]

/-- The tokens of the given characters, when `seen` is, in reverse, what the name being read holds
so far. -/
def tokensFrom? : List Char → List Char → Option (List Token)
  | seen, [] => some (nameToken seen)
  | seen, c :: cs =>
    if Text.isBlank c then (tokensFrom? [] cs).map (nameToken seen ++ ·)
    else if isNameChar c then tokensFrom? (c :: seen) cs
    else if isMark c then (tokensFrom? [] cs).map (nameToken seen ++ .mark c :: ·)
    else none

/-- The tokens of an annotation. -/
def tokens? (text : String) : Option (List Token) := tokensFrom? [] text.toList

/-! ### Meaning -/

/-- The name of a keyword or a plain name: numbers are floats. -/
def keywordName (name : String) : TypeName := .text (if name == "number" then "float" else name)

/-- A type that is read; a nullish one has no name. -/
abbrev Parsed := Option TypeName

/-- Drops every member that occurs earlier. -/
def distinct (members : List TypeName) : List TypeName :=
  members.foldl (fun kept m => if kept.contains m then kept else kept ++ [m]) []

/-- The meaning of a union. -/
def unionOf (members : List Parsed) : Parsed :=
  match distinct (members.filterMap id) with
  | [] => none
  | [m] => some m
  | ms => some (.command CommandName.unionType ms)

/-- The meaning of a list. -/
def listOf (element : TypeName) : TypeName := .command CommandName.listType [element]

/-- The meaning of a dictionary. -/
def dictionaryOf (key value : TypeName) : TypeName :=
  .command CommandName.dictionaryType [key, value]

/-- The meaning of a name with type arguments. -/
def genericOf (name : String) (args : List TypeName) : TypeName :=
  match name, args with
  | "Array", [element] => listOf element
  | "Map", [key, value] => dictionaryOf key value
  | _, _ => .command CommandName.genericType (.text name :: args)

/-- The name is written for a nullish type. -/
def isNullish (name : String) : Bool := name == "null" || name == "undefined"

/-! ### The grammar -/

/-- What is read, and the tokens after it. -/
abbrev Reader (α : Type) := List Token → Option (α × List Token)

/-- Reads `item (sep item)*`, with at most `fuel` further items. -/
def separated {α : Type} (sep : Char) (item : Reader α) : Nat → Reader (List α)
  | 0, ts => (item ts).map fun r => ([r.1], r.2)
  | fuel + 1, ts => do
    let (x, ts) ← item ts
    match ts with
    | .mark c :: rest =>
      if c = sep then do
        let (xs, rest) ← separated sep item fuel rest
        return (x :: xs, rest)
      else return ([x], ts)
    | _ => return ([x], ts)

/-- Reads a type that is not nullish. -/
def named (union : Reader Parsed) : Reader TypeName := fun ts => do
  let (t, ts) ← union ts
  return (← t, ts)

/-- Reads the rest of an index signature, after its opening brace. -/
def indexSignature (union : Reader Parsed) : Reader Parsed
  | .mark '[' :: .name _ :: .mark ':' :: ts => do
    let (key, ts) ← named union ts
    match ts with
    | .mark ']' :: .mark ':' :: ts => do
      let (value, ts) ← named union ts
      match ts with
      | .mark ';' :: .mark '\x7d' :: ts => return (some (dictionaryOf key value), ts)
      | .mark ',' :: .mark '\x7d' :: ts => return (some (dictionaryOf key value), ts)
      | .mark '\x7d' :: ts => return (some (dictionaryOf key value), ts)
      | _ => none
    | _ => none
  | _ => none

/-- Reads a primary type. -/
def primary (union : Reader Parsed) : Reader Parsed
  | .mark '(' :: ts => do
    let (t, ts) ← union ts
    match ts with
    | .mark ')' :: ts => return (t, ts)
    | _ => none
  | .mark '\x7b' :: ts => indexSignature union ts
  | .name n :: ts =>
    if isNullish n then some (none, ts)
    else
      match ts with
      | .mark '<' :: ts => do
        let (args, ts) ← separated ',' (named union) ts.length ts
        match ts with
        | .mark '>' :: ts => return (some (genericOf n args), ts)
        | _ => none
      | _ => some (some (keywordName n), ts)
  | _ => none

/-- Reads the brackets after a primary type. -/
def brackets : Parsed → Reader Parsed
  | t, .mark '[' :: ts =>
    match ts with
    | .mark ']' :: ts => t.bind fun element => brackets (some (listOf element)) ts
    | _ => none
  | t, ts => some (t, ts)

/-- Reads a primary type with the brackets after it. -/
def suffixed (union : Reader Parsed) : Reader Parsed := fun ts => do
  let (t, ts) ← primary union ts
  brackets t ts

/-- Reads a union that may have the given number of unions open, itself included. -/
def union : Nat → Reader Parsed
  | 0, _ => none
  | n + 1, ts => do
    let ts := match ts with
      | .mark '|' :: rest => rest
      | _ => ts
    let (members, ts) ← separated '|' (suffixed (union n)) ts.length ts
    return (unionOf members, ts)

/-- The name of the type that an annotation spells. -/
def parse? (text : String) : Option TypeName := do
  let ts ← tokens? text
  match ← union maxNesting ts with
  | (t, []) => t
  | _ => none

end RawType

end Gls
