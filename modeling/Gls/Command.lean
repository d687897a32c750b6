/-
# Commands

A line of GLS is a command: a name, and arguments that are plain text or commands themselves.  A
command is written as its name, a colon and its arguments; a nested command stands in braces, and a
text with white space in parentheses.
-/
import Gls.Text.Blank

namespace Gls

/-- An argument of a command. -/
inductive Argument where
  | text (text : String)
  /-- A nested command. -/
  | command (name : String) (args : List Argument)

/-- A command with its arguments. -/
structure Command where
  name : String
  args : List Argument := []

/-- A command as an argument. -/
def Command.toArgument (c : Command) : Argument := .command c.name c.args

namespace Argument

/-- The text of a plain argument. -/
def text? : Argument → Option String
  | .text t => some t
  | .command _ _ => none

/-- The nested command of an argument. -/
def command? : Argument → Option Command
  | .text _ => none
  | .command name args => some ⟨name, args⟩

/-! ### Equality -/

mutual

/-- Two arguments are the same. -/
def same : Argument → Argument → Bool
  | .text s, .text t => s == t
  | .command f as, .command g bs => f == g && sameAll as bs
  | _, _ => false

/-- Two lists of arguments are the same. -/
def sameAll : List Argument → List Argument → Bool
  | [], [] => true
  | a :: as, b :: bs => same a b && sameAll as bs
  | _, _ => false

end

mutual

theorem eq_of_same : ∀ {a b : Argument}, same a b = true → a = b
  | .text s, .text t, h => by simp_all [same]
  | .command f as, .command g bs, h => by
    simp only [same, Bool.and_eq_true, beq_iff_eq] at h
    rw [h.1, eq_of_sameAll h.2]
  | .text _, .command _ _, h => by simp [same] at h
  | .command _ _, .text _, h => by simp [same] at h

theorem eq_of_sameAll : ∀ {as bs : List Argument}, sameAll as bs = true → as = bs
  | [], [], _ => rfl
  | a :: as, b :: bs, h => by
    simp only [sameAll, Bool.and_eq_true] at h
    rw [eq_of_same h.1, eq_of_sameAll h.2]
  | [], _ :: _, h => by simp [sameAll] at h
  | _ :: _, [], h => by simp [sameAll] at h

end

mutual

theorem same_self : ∀ a : Argument, same a a = true
  | .text _ => by simp [same]
  | .command _ as => by simp [same, sameAll_self as]

theorem sameAll_self : ∀ as : List Argument, sameAll as as = true
  | [] => rfl
  | a :: as => by simp [sameAll, same_self a, sameAll_self as]

end

instance : DecidableEq Argument := fun a b =>
  if h : same a b = true then .isTrue (eq_of_same h)
  else .isFalse fun e => h (e ▸ same_self a)

/-! ### Writing -/

mutual

/-- The text of an argument. -/
def render : Argument → String
  | .text t => if t.toList.any Text.isBlank then "(" ++ t ++ ")" else t
  | .command name [] => "\x7b " ++ name ++ " \x7d"
  | .command name (a :: as) => "\x7b " ++ name ++ " :" ++ renderAll (a :: as) ++ " \x7d"

/-- The texts of arguments, each after a space. -/
def renderAll : List Argument → String
  | [] => ""
  | a :: as => " " ++ render a ++ renderAll as

end

end Argument

namespace Command

/-- The text of a command. -/
def render (c : Command) : String :=
  if c.args.isEmpty then c.name else c.name ++ " :" ++ Argument.renderAll c.args

/-- The command with further arguments. -/
def withArgs (c : Command) (args : List Argument) : Command := { c with args := c.args ++ args }

end Command

end Gls
