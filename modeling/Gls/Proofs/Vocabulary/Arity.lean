/-
# The arity of commands

The catalog of built-in commands says how a command changes the indentation; it does not say how
many arguments the command takes.  This file does, in a table with one entry for each command of the
catalog.  A command fits when its name is in the table and it has as many arguments as its entry
admits.

A command may have commands among its arguments, at any depth.  An argument is sound when all
commands in it fit and change no indentation; a property of the texts in it is carried along.  Type
names are sound.
-/
import Gls.Proofs.Layout.Blocks
import Gls.Proofs.TypeName.Built

namespace Gls

/-! ### The table -/

/-- How many arguments a command takes. -/
inductive Arity where
  | exactly (n : Nat)
  | atLeast (n : Nat)
  /-- One argument may be left out after `n` others. -/
  | optionalAfter (n : Nat)
  /-- Any number of names, each with its type, after `n` other arguments. -/
  | pairsAfter (n : Nat)
deriving DecidableEq

/-- The arity admits a number of arguments. -/
def Arity.Admits : Arity → Nat → Prop
  | .exactly n, k => k = n
  | .atLeast n, k => n ≤ k
  | .optionalAfter n, k => k = n ∨ k = n + 1
  | .pairsAfter n, k => ∃ pairs, k = n + 2 * pairs

/-- The arities of the built-in commands, in the order of the catalog. -/
def arities : OrderedMap String Arity where
  entries :=
    [(CommandName.classStart, .exactly 1), (CommandName.classEnd, .exactly 0),
     (CommandName.interfaceStart, .atLeast 1), (CommandName.interfaceEnd, .exactly 0),
     (CommandName.interfaceMethod, .pairsAfter 2), (CommandName.memberVariable, .optionalAfter 2),
     (CommandName.memberFunctionStart, .pairsAfter 3), (CommandName.memberFunctionEnd, .exactly 0),
     (CommandName.memberFunctionCall, .atLeast 2), (CommandName.constructorStart, .pairsAfter 2),
     (CommandName.constructorEnd, .exactly 0), (CommandName.functionCall, .atLeast 1),
     (CommandName.stringIndexOf, .atLeast 1), (CommandName.stringSubstringLength, .atLeast 1),
     (CommandName.stringSubstringIndex, .atLeast 1), (CommandName.stringCaseLower, .atLeast 1),
     (CommandName.stringCaseUpper, .atLeast 1), (CommandName.stringTrim, .atLeast 1),
     (CommandName.listType, .exactly 1), (CommandName.dictionaryType, .exactly 2),
     (CommandName.genericType, .atLeast 2), (CommandName.unionType, .atLeast 2),
     (CommandName.operation, .exactly 3), (CommandName.variableLine, .optionalAfter 2),
     (CommandName.returnLine, .optionalAfter 0), (CommandName.ifStart, .exactly 1),
     (CommandName.elseIfStart, .exactly 1), (CommandName.elseStart, .exactly 0),
     (CommandName.ifEnd, .exactly 0), (CommandName.forNumbersStart, .exactly 4),
     (CommandName.forNumbersEnd, .exactly 0), (CommandName.commentLine, .exactly 1),
     (CommandName.commentBlockStart, .exactly 0), (CommandName.commentBlock, .exactly 1),
     (CommandName.commentBlockEnd, .exactly 0)]
  nodup := by decide +kernel

/-- The arity of a command. -/
def arity? (name : String) : Option Arity := arities.get? name

/-- The table has the commands of the catalog and no others. -/
lemma keys_arities : arities.keys = Catalog.builtin.commands.keys := by decide +kernel

/-- A command of the table is in the catalog. -/
lemma contains_of_arity? {name : String} {a : Arity} (h : arity? name = some a) :
    Catalog.builtin.contains name = true := by
  have hkey : name ∈ arities.keys := OrderedMap.contains_iff_mem_keys.1 (Option.isSome_of_eq_some h)
  rw [keys_arities] at hkey
  exact OrderedMap.contains_iff_mem_keys.2 hkey

/-! ### Commands that fit -/

/-- The command has the arity of its name. -/
def Command.Fits (c : Command) : Prop := ∃ a, arity? c.name = some a ∧ a.Admits c.args.length

/-- The command changes no indentation. -/
def Command.Flat (c : Command) : Prop := Catalog.builtin.indentation? c.name = some []

/-- A block command never stands by itself: it would leave its block open, or close one that is not
open. -/
lemma Command.flat_of_derives {c : Command} (h : Derives .program [.command c]) : c.Flat := by
  have hleads := h.leads (Int.le_refl 0)
  obtain ⟨out, hout⟩ := hleads.ok "" 0
  obtain ⟨deltas, rest, hd, hclose, -, -⟩ := Indent.linesFrom_command_eq_ok hout
  have hdepth := hleads.depth
  simp only [Indent.depthAfter, hd, Option.getD_some, Part.entry] at hclose hdepth
  have hall : ∀ e ∈ Catalog.builtin.commands.entries, 0 ≤ 0 + Indent.closing e.2 →
      0 + Indent.closing e.2 + Indent.opening e.2 = 0 → e.2 = [] := by decide +kernel
  exact hd.trans (congrArg some (hall _ (OrderedMap.get?_eq_some_iff.1 hd) hclose hdepth))

/-- The commands that type names are made of. -/
def typeCommandNames : List String :=
  [CommandName.listType, CommandName.dictionaryType, CommandName.genericType,
   CommandName.unionType]

lemma indentation?_of_mem_typeCommandNames {name : String} (h : name ∈ typeCommandNames) :
    Catalog.builtin.indentation? name = some [] := by
  have hall : ∀ f ∈ typeCommandNames, Catalog.builtin.indentation? f = some [] := by
    decide +kernel
  exact hall _ h

/-! ### Commands and texts in arguments -/

namespace Argument

mutual

/-- The commands in an argument, at any depth. -/
def commands : Argument → List Command
  | .text _ => []
  | .command name args => ⟨name, args⟩ :: commandsIn args

/-- The commands in some arguments, at any depth. -/
def commandsIn : List Argument → List Command
  | [] => []
  | a :: as => commands a ++ commandsIn as

end

mutual

/-- The texts in an argument, at any depth. -/
def texts : Argument → List String
  | .text t => [t]
  | .command _ args => textsIn args

/-- The texts in some arguments, at any depth. -/
def textsIn : List Argument → List String
  | [] => []
  | a :: as => texts a ++ textsIn as

end

lemma mem_commandsIn {c : Command} {args : List Argument} :
    c ∈ commandsIn args ↔ ∃ a ∈ args, c ∈ a.commands := by
  induction args with
  | nil => simp [commandsIn]
  | cons a as ih => simp [commandsIn, ih]

lemma mem_textsIn {t : String} {args : List Argument} :
    t ∈ textsIn args ↔ ∃ a ∈ args, t ∈ a.texts := by
  induction args with
  | nil => simp [textsIn]
  | cons a as ih => simp [textsIn, ih]

/-- All commands in the argument fit and stand on a line by themselves, and `T` holds of all its
texts. -/
structure Sound (T : String → Prop) (a : Argument) : Prop where
  commands : ∀ c ∈ a.commands, c.Fits ∧ c.Flat
  texts : ∀ t ∈ a.texts, T t

end Argument

/-- The commands among the arguments of a command, at any depth. -/
def Command.nested (c : Command) : List Command := Argument.commandsIn c.args

/-- The texts among the arguments of a command, at any depth. -/
def Command.texts (c : Command) : List String := Argument.textsIn c.args

/-- The command fits and its arguments are sound. -/
structure Command.Sound (T : String → Prop) (c : Command) : Prop where
  fits : c.Fits
  args : ∀ a ∈ c.args, a.Sound T

section Sound

variable {T : String → Prop}

lemma Argument.Sound.text {t : String} (h : T t) : Sound T (.text t) where
  commands := by simp [Argument.commands]
  texts := by simpa [Argument.texts] using h

/-- A command by itself is a sound argument. -/
lemma Command.Sound.asArgument {c : Command} (h : c.Sound T) (hflat : c.Flat) :
    c.toArgument.Sound T where
  commands d hd := by
    rw [toArgument, Argument.commands, List.mem_cons, Argument.mem_commandsIn] at hd
    rcases hd with rfl | ⟨a, ha, hd⟩
    · exact ⟨h.fits, hflat⟩
    · exact (h.args a ha).commands d hd
  texts t ht := by
    rw [toArgument, Argument.texts, Argument.mem_textsIn] at ht
    obtain ⟨a, ha, ht⟩ := ht
    exact (h.args a ha).texts t ht

lemma Command.sound_of_mem {name : String} {args : List Argument} (a : Arity)
    (ha : (name, a) ∈ arities.entries) (hlen : a.Admits args.length)
    (hargs : ∀ x ∈ args, x.Sound T) : Sound T ⟨name, args⟩ :=
  ⟨⟨a, OrderedMap.get?_eq_some_iff.2 ha, hlen⟩, hargs⟩

lemma Command.Sound.nested {c : Command} (h : c.Sound T) : ∀ d ∈ c.nested, d.Fits ∧ d.Flat := by
  intro d hd
  obtain ⟨a, ha, hd⟩ := Argument.mem_commandsIn.1 hd
  exact (h.args a ha).commands d hd

lemma Command.Sound.texts {c : Command} (h : c.Sound T) : ∀ t ∈ c.texts, T t := by
  intro t ht
  obtain ⟨a, ha, ht⟩ := Argument.mem_textsIn.1 ht
  exact (h.args a ha).texts t ht

lemma Argument.sound_command {name : String} {args : List Argument} (a : Arity)
    (ha : (name, a) ∈ arities.entries) (hflat : name ∈ typeCommandNames)
    (hlen : a.Admits args.length) (hargs : ∀ x ∈ args, x.Sound T) : Sound T (.command name args) :=
  (Command.sound_of_mem a ha hlen hargs).asArgument (indentation?_of_mem_typeCommandNames hflat)

/-- Type names are sound. -/
lemma BuiltFrom.sound {a : TypeName} (h : BuiltFrom T a) : a.Sound T := by
  induction h with
  | plain ht => exact .text ht
  | list _ ih =>
    exact Argument.sound_command (.exactly 1) (by simp [arities]) (by simp [typeCommandNames]) rfl
      (by simpa using ih)
  | dictionary _ _ ihk ihv =>
    exact Argument.sound_command (.exactly 2) (by simp [arities]) (by simp [typeCommandNames]) rfl
      (by simpa using ⟨ihk, ihv⟩)
  | @generic name args hn hne _ ih =>
    have hlen : 2 ≤ (Argument.text name :: args).length :=
      Nat.succ_le_succ (List.length_pos_iff.2 hne)
    exact Argument.sound_command (.atLeast 2) (by simp [arities]) (by simp [typeCommandNames]) hlen
      (List.forall_mem_cons.2 ⟨.text hn, ih⟩)
  | union hlen _ _ ih =>
    exact Argument.sound_command (.atLeast 2) (by simp [arities]) (by simp [typeCommandNames]) hlen
      ih

end Sound

end Gls
