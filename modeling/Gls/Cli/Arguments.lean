/-
# Command-line arguments

Words are read from left to right.  A word is an option, the value of the option before it, or an
input.  The value that an option takes from the next word, and a run of inputs, are looked at only
when the word after them has been recognised, so that of two faults a word that is no option is
reported first.
-/
import Gls.Cli.Path
import Gls.Json.Lexer

namespace Gls

/-- How complaints are reported. -/
inductive ReportFormat where
  | text
  | json
deriving DecidableEq

/-- What a run is asked to do. -/
structure Arguments where
  /-- Documents, or directories with documents. -/
  inputs : List String := []
  /-- The directory that output files go to. -/
  outDir : Option String := none
  /-- The configuration file. -/
  config : Option String := none
  includeComments : Bool := false
  /-- How many spaces make a level of indentation. -/
  indent : Option Nat := none
  failOnComplaints : Bool := false
  format : ReportFormat := .text
deriving DecidableEq

/-- What is wrong with arguments. -/
inductive ArgumentError where
  /-- There is no input. -/
  | missingInput
  /-- There is no such option. -/
  | unknownOption
  /-- A value is missing, empty, or none of those that are allowed. -/
  | invalidValue
  /-- A number is not one. -/
  | invalidNumber
  /-- A switch is given a value. -/
  | unexpectedValue
  /-- An option is given twice. -/
  | repeatedOption
deriving DecidableEq

/-- The message of an error. -/
def ArgumentError.message : ArgumentError → String
  | .missingInput => "an input is required"
  | .unknownOption => "unexpected argument"
  | .invalidValue => "invalid value"
  | .invalidNumber => "invalid number"
  | .unexpectedValue => "unexpected value"
  | .repeatedOption => "an option is used more than once"

/-- Why arguments lead to no run. -/
inductive Halt where
  /-- Help is asked for. -/
  | help
  /-- The version is asked for. -/
  | version
  | refused (error : ArgumentError)
deriving DecidableEq

namespace Arguments

/-! ### Options -/

/-- An option with a value. -/
inductive Setting where
  | outDir
  | config
  | indent
  | format
deriving DecidableEq

/-- An option without a value. -/
inductive Switch where
  | includeComments
  | failOnComplaints
deriving DecidableEq

/-- An option. -/
inductive Flag where
  | setting (s : Setting)
  | switch (s : Switch)
  | help
  | version

/-- The option with a long name. -/
def Flag.ofName? (name : String) : Option Flag :=
  if name = "out-dir" then some (.setting .outDir)
  else if name = "config" then some (.setting .config)
  else if name = "indent" then some (.setting .indent)
  else if name = "format" then some (.setting .format)
  else if name = "include-comments" then some (.switch .includeComments)
  else if name = "fail-on-complaints" then some (.switch .failOnComplaints)
  else if name = "help" then some .help
  else if name = "version" then some .version
  else none

/-- The option with a one-letter name. -/
def Flag.ofLetter? (c : Char) : Option Flag :=
  if c = 'o' then some (.setting .outDir)
  else if c = 'h' then some .help
  else if c = 'V' then some .version
  else none

/-! ### Values -/

/-- A path is not empty. -/
def path? (value : String) : Option String := if value.isEmpty then none else some value

/-- A number of 64 bits, in digits; a plus sign may stand before them. -/
def number? (value : String) : Option Nat :=
  let digits := match value.toList with
    | '+' :: cs => cs
    | cs => cs
  if !digits.isEmpty && digits.all Char.isDigit && Json.digitsValue digits < UInt64.size then
    some (Json.digitsValue digits)
  else none

/-- A format by its name; the case of letters does not matter. -/
def format? (value : String) : Option ReportFormat :=
  if value.toLower = "text" then some .text
  else if value.toLower = "json" then some .json
  else none

/-! ### Reading -/

/-- What has been read but not looked at. -/
inductive Pending where
  | nothing
  /-- An option whose value has not come yet. -/
  | awaiting (s : Setting)
  /-- An option and its value. -/
  | given (s : Setting) (value : String)
  /-- Inputs, the last one first. -/
  | inputs (reversed : List String)

/-- How far the words have been read. -/
structure State where
  arguments : Arguments := {}
  /-- The format, which unlike the others has a default. -/
  format : Option ReportFormat := none
  pending : Pending := .nothing
  /-- All words that follow are inputs. -/
  onlyInputs : Bool := false

/-- Stops with an error. -/
def refuse {α : Type} (e : ArgumentError) : Except Halt α := .error (.refused e)

/-- Sets what must not be set twice. -/
def once {α : Type} (old new : Option α) (fault : ArgumentError) : Except Halt (Option α) :=
  if old.isSome then refuse .repeatedOption
  else if new.isNone then refuse fault
  else .ok new

namespace State

/-- Gives an option its value. -/
def assign (st : State) (s : Setting) (value : String) : Except Halt State := do
  let a := st.arguments
  match s with
  | .outDir =>
    let v ← once a.outDir (path? value) .invalidValue
    return { st with arguments := { a with outDir := v } }
  | .config =>
    let v ← once a.config (path? value) .invalidValue
    return { st with arguments := { a with config := v } }
  | .indent =>
    let v ← once a.indent (number? value) .invalidNumber
    return { st with arguments := { a with indent := v } }
  | .format =>
    let v ← once st.format (format? value) .invalidValue
    return { st with format := v }

/-- Turns a switch on. -/
def turnOn (st : State) (s : Switch) : Except Halt State :=
  let a := st.arguments
  match s with
  | .includeComments =>
    if a.includeComments then refuse .repeatedOption
    else .ok { st with arguments := { a with includeComments := true } }
  | .failOnComplaints =>
    if a.failOnComplaints then refuse .repeatedOption
    else .ok { st with arguments := { a with failOnComplaints := true } }

/-- Looks at what is pending. -/
def settle (st : State) : Except Halt State :=
  let rest := { st with pending := .nothing }
  match st.pending with
  | .nothing => .ok rest
  | .awaiting _ => refuse .invalidValue
  | .given s value => rest.assign s value
  | .inputs reversed =>
    if reversed.any String.isEmpty then refuse .invalidValue
    else
      let a := st.arguments
      .ok { rest with arguments := { a with inputs := a.inputs ++ reversed.reverse } }

/-- Reads an option, with the value that is attached to it. -/
def flag (st : State) (f : Flag) (attached : Option String) : Except Halt State := do
  match f, attached with
  | .setting s, some value => (← st.settle).assign s value
  | .setting s, none => return { ← st.settle with pending := .awaiting s }
  | _, some _ => refuse .unexpectedValue
  | .switch s, none => (← st.settle).turnOn s
  | .help, none => let _ ← st.settle; .error .help
  | .version, none => let _ ← st.settle; .error .version

/-- Reads an option with a long name; a value may follow an equals sign. -/
def long (st : State) (word : List Char) : Except Halt State :=
  let name := word.takeWhile (· != '=')
  match Flag.ofName? (String.ofList name) with
  | none => refuse .unknownOption
  | some f =>
    st.flag f <| match word.dropWhile (· != '=') with
      | _ :: value => some (String.ofList value)
      | [] => none

/-- Reads an option with a one-letter name.  The rest of the word, after an equals sign if there
is one, is the value; an option that takes none leaves the rest unread. -/
def short (st : State) (letter : Char) (rest : List Char) : Except Halt State :=
  match Flag.ofLetter? letter with
  | none => refuse .unknownOption
  | some (.setting s) =>
    st.flag (.setting s) <| match rest with
      | [] => none
      | '=' :: value => some (String.ofList value)
      | value => some (String.ofList value)
  | some f => st.flag f none

/-- Reads an input. -/
def input (st : State) (word : String) : Except Halt State :=
  match st.pending with
  | .inputs reversed => .ok { st with pending := .inputs (word :: reversed) }
  | _ => return { ← st.settle with pending := .inputs [word] }

/-- Reads a word. -/
def read (st : State) (word : String) : Except Halt State :=
  if st.onlyInputs then st.input word
  else
    match word.toList with
    | ['-', '-'] => .ok { st with onlyInputs := true }
    | '-' :: '-' :: name => st.long name
    | '-' :: letter :: rest => st.short letter rest
    | _ =>
      match st.pending with
      | .awaiting s => .ok { st with pending := .given s word }
      | _ => st.input word

/-- What has been read, when there are no more words. -/
def finish (st : State) : Except Halt Arguments := do
  let st ← st.settle
  if st.arguments.inputs.isEmpty then refuse .missingInput
  else return { st.arguments with format := st.format.getD .text }

end State

/-- Reads the words of a command line, without the name of the program. -/
def ofWords (words : List String) : Except Halt Arguments := do
  (← words.foldlM State.read {}).finish

end Arguments

end Gls
