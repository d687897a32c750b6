/-
# Printing flattens

Outputs nest to any depth, and a program is read off them as if they did not.  A way leads down
into outputs: it gives the place of each next output among those that are nested in the one before.
Where outputs nest no further stands a leaf, which is a line or a complaint.  Ways are ordered like
words in a dictionary, and that is the order in which pre-order comes to their ends.  So a program
holds the leaves in the order of their ways, the lines on one side and the complaints on the other.

It follows that nesting itself does not count: a run of outputs may be put into a transformation of
its own, and a transformation may be opened again, anywhere and at any depth.
-/
import Gls.Catalog
import Gls.Program
import Mathlib.Data.List.Flatten

namespace Gls

/-- What stands where outputs nest no further. -/
inductive Leaf where
  | line (line : Line)
  | complaint (complaint : Complaint)

namespace Leaf

/-- The line that a leaf is. -/
def line? : Leaf → Option Line
  | .line l => some l
  | .complaint _ => none

/-- The complaint that a leaf is. -/
def complaint? : Leaf → Option Complaint
  | .line _ => none
  | .complaint c => some c

end Leaf

namespace Output

/-! ### Ways down -/

/-- The leaf that an output is, unless others are nested in it. -/
def leaf? : Output → Option Leaf
  | .command c => some (.line (.command c))
  | .literal text => some (.line (.literal text))
  | .transformation _ _ => none
  | .complaint c => some (.complaint c)

/-- The outputs that are nested in an output. -/
def parts : Output → List Output
  | .transformation _ os => os
  | .command _ | .literal _ | .complaint _ => []

/-- The output to which a way leads. -/
def follow? : Output → List Nat → Option Output
  | o, [] => some o
  | o, i :: way => o.parts[i]?.bind fun p => p.follow? way

/-- The leaf to which a way leads, if it leads to one. -/
def leafAt? (o : Output) (way : List Nat) : Option Leaf := (o.follow? way).bind leaf?

lemma leafAt?_cons (o : Output) (i : Nat) (way : List Nat) :
    o.leafAt? (i :: way) = o.parts[i]?.bind fun p => p.leafAt? way := by
  show (o.parts[i]?.bind fun p => p.follow? way).bind leaf? = _
  cases o.parts[i]? <;> rfl

/-! ### The leaves in pre-order -/

mutual

/-- The leaves of an output in pre-order, each with its way. -/
def leaves : Output → List (List Nat × Leaf)
  | .command c => [([], .line (.command c))]
  | .literal text => [([], .line (.literal text))]
  | .transformation _ os => leavesFrom 0 os
  | .complaint c => [([], .complaint c)]

/-- The leaves of outputs that stand at the places from `i` on. -/
def leavesFrom (i : Nat) : List Output → List (List Nat × Leaf)
  | [] => []
  | o :: os => (leaves o).map (Prod.map (i :: ·) id) ++ leavesFrom (i + 1) os

end

lemma leavesFrom_eq (i : Nat) (os : List Output) :
    leavesFrom i os = (os.zipIdx i).flatMap fun e => e.1.leaves.map (Prod.map (e.2 :: ·) id) := by
  induction os generalizing i with
  | nil => rfl
  | cons o os ih => rw [leavesFrom, ih, List.zipIdx_cons, List.flatMap_cons]

/-- What holds of leaves, and of a transformation when it holds of what is nested in it, holds of
every output. -/
@[elab_as_elim]
theorem nested_induction {P : Output → Prop} (leaf : ∀ o l, o.leaf? = some l → P o)
    (transformation : ∀ range os, (∀ o ∈ os, P o) → P (.transformation range os)) : ∀ o, P o
  | .command _ => leaf _ _ rfl
  | .literal _ => leaf _ _ rfl
  | .complaint _ => leaf _ _ rfl
  | .transformation range os =>
    transformation range os fun o _ => nested_induction leaf transformation o

variable {o : Output} {l : Leaf} {way : List Nat}

lemma leaves_of_leaf? (h : o.leaf? = some l) : o.leaves = [([], l)] := by
  cases o <;> cases h <;> rfl

lemma parts_of_leaf? (h : o.leaf? = some l) : o.parts = [] := by
  cases o <;> cases h <;> rfl

/-- No leaf is left out, and each is listed with the way that leads to it. -/
lemma mem_leaves : (way, l) ∈ o.leaves ↔ o.leafAt? way = some l := by
  induction o using nested_induction generalizing way with
  | leaf o l' h =>
    rw [leaves_of_leaf? h, List.mem_singleton]
    cases way with
    | nil => simp [leafAt?, follow?, h, eq_comm]
    | cons i way => simp [leafAt?_cons, parts_of_leaf? h]
  | transformation range os ih =>
    rw [leaves, leavesFrom_eq]
    simp only [List.mem_flatMap, List.mem_map, Prod.exists, List.mem_zipIdx_iff_getElem?]
    constructor
    · rintro ⟨o, i, hi, way, l', hmem, heq⟩
      obtain ⟨rfl, rfl⟩ := Prod.mk.inj heq
      rw [leafAt?_cons, parts, hi, Option.bind_some]
      exact (ih o (List.mem_of_getElem? hi)).1 hmem
    · intro h
      cases way with
      | nil => cases h
      | cons i way =>
        rw [leafAt?_cons, parts] at h
        obtain ⟨o, hi, hl⟩ := Option.bind_eq_some_iff.1 h
        exact ⟨o, i, hi, way, l, (ih o (List.mem_of_getElem? hi)).2 hl, rfl⟩

/-- The leaves are listed in the order of their ways. -/
lemma pairwise_leaves (o : Output) : o.leaves.Pairwise fun e e' => e.1 < e'.1 := by
  induction o using nested_induction with
  | leaf o l h =>
    rw [leaves_of_leaf? h]
    exact List.pairwise_singleton _ _
  | transformation range os ih =>
    have hplaces : os.zipIdx.Pairwise fun e e' => e.2 < e'.2 := by
      rw [← List.pairwise_map, List.zipIdx_map_snd]
      exact List.pairwise_lt_range'
    rw [leaves, leavesFrom_eq, List.pairwise_flatMap]
    refine ⟨fun e he => ?_, hplaces.imp fun {e e'} hlt => ?_⟩
    · -- Within one output the first place is the same.
      rw [List.pairwise_map]
      exact (ih e.1 (List.fst_mem_of_mem_zipIdx he)).imp fun h =>
        List.cons_lt_cons_iff.2 (.inr ⟨rfl, h⟩)
    · intro x hx y hy
      obtain ⟨v, -, rfl⟩ := List.mem_map.1 hx
      obtain ⟨w, -, rfl⟩ := List.mem_map.1 hy
      exact List.cons_lt_cons_iff.2 (.inl hlt)

end Output

/-! ### Programs -/

namespace Program

/-- The program of leaves: the lines, and beside them the complaints. -/
def ofLeaves (ls : List Leaf) : Program := ⟨ls.filterMap Leaf.line?, ls.filterMap Leaf.complaint?⟩

lemma ofLeaves_append (ls ms : List Leaf) : ofLeaves (ls ++ ms) = ofLeaves ls ++ ofLeaves ms := by
  show Program.mk _ _ = Program.mk _ _
  rw [List.filterMap_append, List.filterMap_append]
  rfl

/-- A program is that of the leaves. -/
lemma ofOutput_eq_ofLeaves (o : Output) : ofOutput o = ofLeaves (o.leaves.map Prod.snd) := by
  induction o using Output.nested_induction with
  | leaf o l h => cases o <;> cases h <;> rfl
  | transformation range os ih =>
    rw [ofOutput, Output.leaves, Output.leavesFrom_eq]
    generalize 0 = i
    induction os generalizing i with
    | nil => rfl
    | cons o os ihos =>
      obtain ⟨ho, hos⟩ := List.forall_mem_cons.1 ih
      rw [ofOutputs, ho, ihos hos (i + 1), List.zipIdx_cons, List.flatMap_cons, List.map_append,
        ofLeaves_append, List.map_map]
      rfl

/-- `p` is what stands at the ends of the ways down, in pre-order: lines and complaints each in the
order of the ways that lead to them, and none left out. -/
def ReadsOff (p : Program) (o : Output) : Prop :=
  ∃ ls : List (List Nat × Leaf), ls.Pairwise (fun e e' => e.1 < e'.1) ∧
    (∀ way l, (way, l) ∈ ls ↔ o.leafAt? way = some l) ∧ p = ofLeaves (ls.map Prod.snd)

lemma readsOff_ofOutput (o : Output) : (ofOutput o).ReadsOff o :=
  ⟨o.leaves, o.pairwise_leaves, fun _ _ => Output.mem_leaves, ofOutput_eq_ofLeaves o⟩

end Program

/-! ### Regrouping -/

/-- Two lists of outputs that differ in how they are nested.  A run of outputs can be put into a
transformation for any range, and opened again, among others and inside of transformations. -/
inductive Regrouped : List Output → List Output → Prop
  | nest (xs run ys : List Output) (range : Span) :
      Regrouped (xs ++ run ++ ys) (xs ++ .transformation range run :: ys)
  | inside (xs ys : List Output) (range : Span) {os os' : List Output} (h : Regrouped os os') :
      Regrouped (xs ++ .transformation range os :: ys) (xs ++ .transformation range os' :: ys)
  | symm {os os' : List Output} (h : Regrouped os os') : Regrouped os' os
  | trans {os os' os'' : List Output} (h : Regrouped os os') (h' : Regrouped os' os'') :
      Regrouped os os''

namespace Program

lemma ofOutputs_transformation (xs ys os : List Output) (range : Span) :
    ofOutputs (xs ++ .transformation range os :: ys)
      = ofOutputs xs ++ (ofOutputs os ++ ofOutputs ys) := by
  rw [ofOutputs_append, ofOutputs, ofOutput]

/-- How outputs are nested does not count. -/
lemma ofOutputs_regrouped {os os' : List Output} (h : Regrouped os os') :
    ofOutputs os = ofOutputs os' := by
  induction h with
  | nest xs run ys range =>
    rw [ofOutputs_transformation, ofOutputs_append, ofOutputs_append, append_assoc]
  | inside xs ys range h ih => rw [ofOutputs_transformation, ofOutputs_transformation, ih]
  | symm h ih => exact ih.symm
  | trans h h' ih ih' => exact ih.trans ih'

end Program

/-- A program is what stands at the ends of the ways down into its fragments, in pre-order.  The
program of one list after another is the one program after the other, and lists of fragments that
differ only in how they are nested have the same program. -/
theorem program_flattens (fs gs : List Fragment) :
    (Program.ofFragments fs).ReadsOff (.transformation {} (fs.map Fragment.toOutput)) ∧
    (Program.ofFragments (fs ++ gs)).lines
      = (Program.ofFragments fs).lines ++ (Program.ofFragments gs).lines ∧
    (Program.ofFragments (fs ++ gs)).complaints
      = (Program.ofFragments fs).complaints ++ (Program.ofFragments gs).complaints ∧
    (Regrouped (fs.map Fragment.toOutput) (gs.map Fragment.toOutput) →
      Program.ofFragments fs = Program.ofFragments gs) := by
  refine ⟨?_, ?_, ?_, Program.ofOutputs_regrouped⟩
  · exact Program.readsOff_ofOutput (.transformation {} (fs.map Fragment.toOutput))
  · rw [Program.ofFragments_append, Program.lines_append]
  · rw [Program.ofFragments_append, Program.complaints_append]

/-- A class with one member, and a complaint after it. -/
def classFragments (body : List Output) : List Fragment :=
  [.transformation ⟨⟨0, 20⟩, .command ⟨CommandName.classStart, [.text "A"]⟩ :: body
    ++ [.command ⟨CommandName.classEnd, []⟩]⟩, .complaint ⟨⟨21, 22⟩, "late"⟩]

/-- Whether the body of a class comes in one piece, and for which range, is all the same. -/
theorem class_body_flattens :
    let member : List Output := [.literal "x", .complaint ⟨⟨12, 13⟩, "early"⟩]
    let nested : List Output := [.transformation ⟨10, 13⟩ [.transformation ⟨12, 10⟩ member]]
    Regrouped ((classFragments member).map Fragment.toOutput)
      ((classFragments nested).map Fragment.toOutput) ∧
    Program.ofFragments (classFragments member) = Program.ofFragments (classFragments nested) ∧
    (Program.ofFragments (classFragments nested)).lines.map Line.render
      = ["class start : A", "x", "class end"] ∧
    (Program.ofFragments (classFragments nested)).complaints.map Complaint.reason
      = ["early", "late"] := by
  intro member nested
  have hmember : Regrouped ((classFragments member).map Fragment.toOutput)
      ((classFragments nested).map Fragment.toOutput) := by
    refine .inside [] _ ⟨0, 20⟩ (.trans (.nest [_] member [_] ⟨12, 10⟩) ?_)
    exact .nest [_] [.transformation ⟨12, 10⟩ member] [_] ⟨10, 13⟩
  exact ⟨hmember, (program_flattens _ _).2.2.2 hmember, by decide, by decide⟩

end Gls
