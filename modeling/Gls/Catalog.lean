/-
# The catalog of commands

A catalog lists the commands a program may use and how each changes the indentation: negative
deltas count before the line of the command, positive ones after it.
-/
import Gls.Json.Decode
import Gls.Json.Parser
import Gls.OrderedMap
import Gls.Text.Blank

namespace Gls

/-! ### The names of the built-in commands -/

namespace CommandName

def classStart := "class start"
def classEnd := "class end"
def interfaceStart := "interface start"
def interfaceEnd := "interface end"
def interfaceMethod := "interface method"
def memberVariable := "member variable"
def memberFunctionStart := "member function declare start"
def memberFunctionEnd := "member function declare end"
def memberFunctionCall := "member function call"
def constructorStart := "constructor start"
def constructorEnd := "constructor end"
def functionCall := "function call"
def stringIndexOf := "string index of"
def stringSubstringLength := "string substring length"
def stringSubstringIndex := "string substring index"
def stringCaseLower := "string case lower"
def stringCaseUpper := "string case upper"
def stringTrim := "string trim"
def listType := "list type"
def dictionaryType := "dictionary type"
def genericType := "generic type"
def unionType := "union type"
def operation := "operation"
def variableLine := "variable"
def returnLine := "return"
def ifStart := "if start"
def elseIfStart := "else if start"
def elseStart := "else start"
def ifEnd := "if end"
def forNumbersStart := "for numbers start"
def forNumbersEnd := "for numbers end"
def commentLine := "comment line"
def commentBlockStart := "comment block start"
def commentBlock := "comment block"
def commentBlockEnd := "comment block end"

end CommandName

/-- Commands and their indentation deltas, in the order in which they were declared. -/
structure Catalog where
  commands : OrderedMap String (List Int)

/-- Why a text is no catalog. -/
inductive CatalogError where
  /-- The text is not JSON, or not of the form of a catalog. -/
  | malformed
  /-- The name of a command is blank. -/
  | blankName (command : String)
  /-- A delta is zero. -/
  | zeroDelta (command : String)

/-- The message for an entry that is refused. -/
def CatalogError.message : CatalogError → String
  | .malformed => "invalid command catalog"
  | .blankName command => "invalid command '" ++ command ++ "': command names must not be blank"
  | .zeroDelta command =>
    "invalid command '" ++ command ++ "': indentation deltas must be non-zero"

namespace Catalog

/-- The deltas of a command, if the catalog has it. -/
def indentation? (c : Catalog) (name : String) : Option (List Int) := c.commands.get? name

/-- Adds a command, or replaces its deltas. -/
def insert (c : Catalog) (name : String) (deltas : List Int) : Catalog :=
  ⟨c.commands.insert name deltas⟩

/-- How many commands there are. -/
def size (c : Catalog) : Nat := c.commands.size

/-- There are no commands. -/
def isEmpty (c : Catalog) : Bool := c.commands.isEmpty

/-- The catalog has a command. -/
def contains (c : Catalog) (name : String) : Bool := c.commands.contains name

/-- The built-in commands. -/
def builtin : Catalog where
  commands := .ofList
    [(CommandName.classStart, [1]), (CommandName.classEnd, [-1]),
     (CommandName.interfaceStart, [1]), (CommandName.interfaceEnd, [-1]),
     (CommandName.interfaceMethod, []), (CommandName.memberVariable, []),
     (CommandName.memberFunctionStart, [1]), (CommandName.memberFunctionEnd, [-1]),
     (CommandName.memberFunctionCall, []), (CommandName.constructorStart, [1]),
     (CommandName.constructorEnd, [-1]), (CommandName.functionCall, []),
     (CommandName.stringIndexOf, []), (CommandName.stringSubstringLength, []),
     (CommandName.stringSubstringIndex, []), (CommandName.stringCaseLower, []),
     (CommandName.stringCaseUpper, []), (CommandName.stringTrim, []), (CommandName.listType, []),
     (CommandName.dictionaryType, []), (CommandName.genericType, []), (CommandName.unionType, []),
     (CommandName.operation, []), (CommandName.variableLine, []), (CommandName.returnLine, []),
     (CommandName.ifStart, [1]), (CommandName.elseIfStart, [-1, 1]),
     (CommandName.elseStart, [-1, 1]), (CommandName.ifEnd, [-1]),
     (CommandName.forNumbersStart, [1]), (CommandName.forNumbersEnd, [-1]),
     (CommandName.commentLine, []), (CommandName.commentBlockStart, []),
     (CommandName.commentBlock, []), (CommandName.commentBlockEnd, [])]

/-! ### Reading a catalog -/

/-- Reads the deltas of a command. -/
def entry? (v : Json) : Option (List Int) := do
  let r ← Json.Record.ofJson? ["indentation"] false v
  r.withDefault? "indentation" (Json.asList? Json.asInt32?) []

/-- Reads a catalog without checking its entries. -/
def ofJson? (v : Json) : Option Catalog := do
  let r ← Json.Record.ofJson? ["commands"] false v
  let commands ← r.required? "commands" (Json.asMap? Json.unescape? entry?)
  return ⟨commands⟩

/-- Checks one entry; the name comes first. -/
def checkEntry (e : String × List Int) : Except CatalogError Unit :=
  if Text.allBlank e.1 then .error (.blankName e.1)
  else if e.2.contains 0 then .error (.zeroDelta e.1)
  else .ok ()

/-- Reads a catalog and checks its entries in order. -/
def read (text : String) : Except CatalogError Catalog :=
  match (Json.parse? text).bind ofJson? with
  | none => .error .malformed
  | some c => do
    c.commands.entries.forM checkEntry
    return c

end Catalog

end Gls
