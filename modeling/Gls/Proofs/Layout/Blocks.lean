/-
# Programs made of blocks

The lines of a program are nested in blocks: a start command, the lines inside, an end command.
This file gives the grammar of such lines for the built-in commands and shows what it is good for:
lines of the grammar can always be indented, and the depth after them is the depth before them.

A block of two commands opens with a delta `+1` and closes with `-1`.  A conditional is more than
that: between its start and its end there may be commands that close one branch and open the next,
so what follows the first branch begins one level below the line that ends it.
-/
import Gls.Indent
import Mathlib.Tactic.Common

namespace Gls

/-! ### The grammar -/

/-- The symbols of the grammar. -/
inductive Part where
  /-- Any number of items. -/
  | program
  /-- A line by itself, a block, or a conditional. -/
  | item
  /-- What follows the first branch of a conditional, with its end. -/
  | alternatives
deriving DecidableEq

/-- The commands that start and end a block. -/
def blockNames : List (String × String) :=
  [(CommandName.classStart, CommandName.classEnd),
   (CommandName.interfaceStart, CommandName.interfaceEnd),
   (CommandName.memberFunctionStart, CommandName.memberFunctionEnd),
   (CommandName.constructorStart, CommandName.constructorEnd),
   (CommandName.forNumbersStart, CommandName.forNumbersEnd)]

/-- The lines that a symbol of the grammar derives. -/
inductive Derives : Part → List Line → Prop where
  | nil : Derives .program []
  | cons {xs ys : List Line} (hx : Derives .item xs) (hy : Derives .program ys) :
      Derives .program (xs ++ ys)
  | literal (text : String) : Derives .item [.literal text]
  | flat {c : Command} (h : Catalog.builtin.indentation? c.name = some []) :
      Derives .item [.command c]
  | block {start stop : Command} {body : List Line} (h : (start.name, stop.name) ∈ blockNames)
      (hb : Derives .program body) : Derives .item (.command start :: body ++ [.command stop])
  | conditional {start : Command} {body tail : List Line} (h : start.name = CommandName.ifStart)
      (hb : Derives .program body) (ht : Derives .alternatives tail) :
      Derives .item (.command start :: body ++ tail)
  | elseIf {c : Command} {body tail : List Line} (h : c.name = CommandName.elseIfStart)
      (hb : Derives .program body) (ht : Derives .alternatives tail) :
      Derives .alternatives (.command c :: body ++ tail)
  | otherwise {c stop : Command} {body : List Line} (h : c.name = CommandName.elseStart)
      (hb : Derives .program body) (hs : stop.name = CommandName.ifEnd) :
      Derives .alternatives (.command c :: body ++ [.command stop])
  | stop {c : Command} (h : c.name = CommandName.ifEnd) : Derives .alternatives [.command c]

namespace Derives

lemma of_item {xs : List Line} (h : Derives .item xs) : Derives .program xs := by
  simpa using cons h nil

lemma append {xs ys : List Line} (hx : Derives .program xs) (hy : Derives .program ys) :
    Derives .program (xs ++ ys) := by
  -- Only the rules for programs apply: the others derive items or alternatives.
  generalize hp : Part.program = p at hx
  induction hx with
  | nil => exact hy
  | cons hi _ _ ih =>
    rw [List.append_assoc]
    exact cons hi (ih rfl)
  | _ => cases hp

end Derives

/-! ### The running depth -/

namespace Indent

/-- The depth that lines leave, when the first of them begins at `depth`.  A command that the
catalog does not have changes nothing. -/
def depthAfter (catalog : Catalog) (depth : Int) : List Line → Int
  | [] => depth
  | .literal _ :: ls => depthAfter catalog depth ls
  | .command c :: ls =>
    let deltas := (catalog.indentation? c.name).getD []
    depthAfter catalog (depth + closing deltas + opening deltas) ls

variable {ε α β γ : Type}

lemma map_eq_ok {x : Except ε α} {f : α → β} {b : β} (h : x.map f = .ok b) :
    ∃ a, x = .ok a ∧ b = f a := by
  cases x with
  | error e => cases h
  | ok a => exact ⟨a, rfl, (Except.ok.inj h).symm⟩

lemma map_map (x : Except ε α) (f : α → β) (g : β → γ) : (x.map f).map g = x.map (g ∘ f) := by
  cases x <;> rfl

variable {catalog : Catalog} {unit : String} {index : Nat} {depth : Int} {c : Command}

lemma depthAfter_append (xs ys : List Line) :
    depthAfter catalog depth (xs ++ ys)
      = depthAfter catalog (depthAfter catalog depth xs) ys := by
  induction xs generalizing depth with
  | nil => rfl
  | cons x xs ih => cases x <;> exact ih

lemma linesFrom_command_of_le {deltas : List Int} {ls : List Line}
    (hc : catalog.indentation? c.name = some deltas) (hd : 0 ≤ depth + closing deltas) :
    linesFrom catalog unit index depth (.command c :: ls)
      = (linesFrom catalog unit (index + 1) (depth + closing deltas + opening deltas) ls).map
          ((lead unit (depth + closing deltas) ++ c.render) :: ·) := by
  rw [linesFrom, hc]
  exact if_neg (Int.not_lt.2 hd)

/-- A command line that is indented is known to the catalog and does not close too far. -/
lemma linesFrom_command_eq_ok {ls : List Line} {out : List String}
    (h : linesFrom catalog unit index depth (.command c :: ls) = .ok out) :
    ∃ deltas rest, catalog.indentation? c.name = some deltas ∧ 0 ≤ depth + closing deltas ∧
      linesFrom catalog unit (index + 1) (depth + closing deltas + opening deltas) ls = .ok rest ∧
      out = (lead unit (depth + closing deltas) ++ c.render) :: rest := by
  cases hc : catalog.indentation? c.name with
  | none => simp [linesFrom, hc] at h
  | some deltas =>
    by_cases hd : 0 ≤ depth + closing deltas
    · rw [linesFrom_command_of_le hc hd] at h
      obtain ⟨rest, hr, rfl⟩ := map_eq_ok h
      exact ⟨deltas, rest, rfl, hd, hr, rfl⟩
    · rw [linesFrom, hc] at h
      simp [Int.not_le.1 hd] at h

/-- Lines after others are indented from the depth that these have left. -/
lemma linesFrom_append {xs ys : List Line} {out : List String}
    (h : linesFrom catalog unit index depth xs = .ok out) :
    linesFrom catalog unit index depth (xs ++ ys)
      = (linesFrom catalog unit (index + xs.length) (depthAfter catalog depth xs) ys).map
          (out ++ ·) := by
  induction xs generalizing index depth out with
  | nil =>
    cases h
    cases hr : linesFrom catalog unit index depth ys <;> simp [depthAfter, hr, Except.map]
  | cons x xs ih =>
    have hi : index + (x :: xs).length = index + 1 + xs.length := by simp; omega
    cases x with
    | literal text =>
      obtain ⟨rest, hr, rfl⟩ := map_eq_ok h
      rw [List.cons_append, linesFrom, ih hr, hi, depthAfter, map_map]
      rfl
    | command c =>
      obtain ⟨deltas, rest, hc, hd, hr, rfl⟩ := linesFrom_command_eq_ok h
      rw [List.cons_append, linesFrom_command_of_le hc hd, ih hr, hi, depthAfter, hc, map_map]
      rfl

/-! ### Lines that can be indented -/

/-- Lines that begin at depth `d` can be indented with the built-in commands and leave depth
`e`. -/
structure Leads (d : Int) (ls : List Line) (e : Int) : Prop where
  ok : ∀ unit index, ∃ out, linesFrom Catalog.builtin unit index d ls = .ok out
  depth : depthAfter Catalog.builtin d ls = e

namespace Leads

variable {d e f : Int}

lemma append {xs ys : List Line} (hx : Leads d xs e) (hy : Leads e ys f) :
    Leads d (xs ++ ys) f where
  ok unit index := by
    obtain ⟨out, ho⟩ := hx.ok unit index
    obtain ⟨rest, hr⟩ := hy.ok unit (index + xs.length)
    exact ⟨out ++ rest, by rw [linesFrom_append ho, hx.depth, hr]; rfl⟩
  depth := by rw [depthAfter_append, hx.depth, hy.depth]

lemma literal (text : String) : Leads d [.literal text] d :=
  ⟨fun _ _ => ⟨[""], rfl⟩, rfl⟩

/-- A command goes from the depth before it, less what it closes, to that plus what it opens. -/
lemma command {deltas : List Int} (hc : Catalog.builtin.indentation? c.name = some deltas)
    (hd : 0 ≤ d + closing deltas) (he : d + closing deltas + opening deltas = e) :
    Leads d [.command c] e where
  ok unit index := by
    rw [linesFrom_command_of_le hc hd]
    exact ⟨_, rfl⟩
  depth := by simp [depthAfter, hc, he]

lemma flat (hc : Catalog.builtin.indentation? c.name = some []) (hd : 0 ≤ d) :
    Leads d [.command c] d :=
  command hc (by simpa [closing]) (by simp [closing, opening])

lemma opens (hc : Catalog.builtin.indentation? c.name = some [1]) (hd : 0 ≤ d) :
    Leads d [.command c] (d + 1) :=
  command hc (by simpa [closing]) (by simp [closing, opening])

lemma closes (hc : Catalog.builtin.indentation? c.name = some [-1]) (hd : 0 ≤ d) :
    Leads (d + 1) [.command c] d := by
  have hclosing : closing [-1] = -1 := rfl
  have hopening : opening [-1] = 0 := rfl
  exact command hc (by omega) (by omega)

lemma switches (hc : Catalog.builtin.indentation? c.name = some [-1, 1]) (hd : 0 ≤ d) :
    Leads (d + 1) [.command c] (d + 1) := by
  have hclosing : closing [-1, 1] = -1 := rfl
  have hopening : opening [-1, 1] = 1 := rfl
  exact command hc (by omega) (by omega)

end Leads

/-- Every block opens one level and closes it again. -/
lemma indentation?_of_mem_blockNames {start stop : String} (h : (start, stop) ∈ blockNames) :
    Catalog.builtin.indentation? start = some [1] ∧
      Catalog.builtin.indentation? stop = some [-1] := by
  have hall : ∀ b ∈ blockNames, Catalog.builtin.indentation? b.1 = some [1] ∧
      Catalog.builtin.indentation? b.2 = some [-1] := by decide +kernel
  exact hall _ h

lemma indentation?_ifStart : Catalog.builtin.indentation? CommandName.ifStart = some [1] := by
  decide +kernel

lemma indentation?_elseIfStart :
    Catalog.builtin.indentation? CommandName.elseIfStart = some [-1, 1] := by decide +kernel

lemma indentation?_elseStart :
    Catalog.builtin.indentation? CommandName.elseStart = some [-1, 1] := by decide +kernel

lemma indentation?_ifEnd : Catalog.builtin.indentation? CommandName.ifEnd = some [-1] := by
  decide +kernel

end Indent

/-- The depth at which a part begins when it ends at `d`: what follows the first branch of a
conditional begins inside of it. -/
def Part.entry : Part → Int → Int
  | .alternatives, d => d + 1
  | _, d => d

open Indent in
/-- Lines of the grammar can be indented, and leave the depth that the part has outside. -/
lemma Derives.leads {p : Part} {ls : List Line} (h : Derives p ls) {d : Int} (hd : 0 ≤ d) :
    Leads (p.entry d) ls d := by
  induction h generalizing d with
  | nil => exact ⟨fun _ _ => ⟨[], rfl⟩, rfl⟩
  | cons _ _ ihx ihy => exact (ihx hd).append (ihy hd)
  | literal text => exact .literal text
  | flat hc => exact .flat hc hd
  | block hn _ ih =>
    obtain ⟨hstart, hstop⟩ := indentation?_of_mem_blockNames hn
    exact ((Leads.opens hstart hd).append (ih (by omega))).append (.closes hstop hd)
  | conditional hn _ _ ihb iht =>
    -- The first branch ends one level down, which is where the alternatives begin.
    have hc := hn ▸ indentation?_ifStart
    exact ((Leads.opens hc hd).append (ihb (by omega))).append (iht hd)
  | elseIf hn _ _ ihb iht =>
    have hc := hn ▸ indentation?_elseIfStart
    exact ((Leads.switches hc hd).append (ihb (by omega))).append (iht hd)
  | otherwise hn _ hs ihb =>
    have hc := hn ▸ indentation?_elseStart
    have hstop := hs ▸ indentation?_ifEnd
    exact ((Leads.switches hc hd).append (ihb (by omega))).append (.closes hstop hd)
  | stop hn => exact .closes (hn ▸ indentation?_ifEnd) hd

end Gls
