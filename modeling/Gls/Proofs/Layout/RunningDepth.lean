/-
# The depth at which lines stand

The indenter goes through the lines with a depth that every command changes twice, before its own
line and after it.  This file says what comes of it without the run.  A line stands at the sum of
all deltas of the lines before it and of the negative ones of its own; the lines can be indented
when every command is known and stands at no negative depth; and when they cannot, the first line
that breaks this is the one reported.

Nothing here is about the built-in commands.  What is known of commands is any function of their
names, and the deltas of a command may be any integers in any order, zero among them.  A catalog is
finite, but so are the lines, and only the names in them are looked up: for every such function and
all lines there is a catalog that answers as the function does.
-/
import Gls.Proofs.Layout.Blocks
import Mathlib.Algebra.GroupWithZero.Nat
import Mathlib.Algebra.Ring.Int.Defs
import Mathlib.Data.Nat.Find

namespace Gls

/-- What is known of commands: the deltas that go with a name, or that no command has it. -/
abbrev Vocabulary := String → Option (List Int)

namespace Vocabulary

variable (v : Vocabulary)

/-- The deltas of a line.  A literal has none, and neither has a command that is not known. -/
def deltas : Line → List Int
  | .command c => (v c.name).getD []
  | .literal _ => []

/-- The depth at which line `k` stands: all deltas of the lines before it, and the negative ones of
its own. -/
def depthAt (ls : List Line) (k : Nat) : Int :=
  ((ls.take k).flatMap v.deltas).sum + (((ls[k]?.map v.deltas).getD []).filter (· < 0)).sum

/-- Line `k` cannot be indented: its command is not known, or stands at a negative depth. -/
def Offends (ls : List Line) (k : Nat) : Prop :=
  ∃ c, ls[k]? = some (.command c) ∧ (v c.name = none ∨ v.depthAt ls k < 0)

/-- What is said of a command on line `k` that cannot be indented. -/
def offence (k : Nat) (c : Command) : IndentError :=
  if v c.name = none then .unknownCommand k c.name else .unbalanced k c.name

/-- A line as it is written at a depth. -/
def written (unit : String) (depth : Int) : Line → String
  | .command c => String.join (List.replicate depth.toNat unit) ++ c.render
  | .literal _ => ""

/-- The deltas of lines in the order in which the depth takes them in: of each line those that
close, and then those that open. -/
def changes (ls : List Line) : List Int :=
  ls.flatMap fun l => (v.deltas l).filter (· < 0) ++ (v.deltas l).filter (0 < ·)

/-- A catalog that answers as the vocabulary does for the commands of the lines. -/
def Answers (catalog : Catalog) (ls : List Line) : Prop :=
  ∀ c, Line.command c ∈ ls → catalog.indentation? c.name = v c.name

variable {v}

lemma not_offends_iff {ls : List Line} {k : Nat} :
    ¬ v.Offends ls k ↔
      ∀ c, ls[k]? = some (.command c) → v c.name ≠ none ∧ 0 ≤ v.depthAt ls k := by
  simp [Offends, not_or]

/-! ### Catalogs for vocabularies -/

/-- There is always a catalog to answer for the commands of given lines. -/
lemma exists_answers (ls : List Line) : ∃ catalog, v.Answers catalog ls := by
  -- The catalog has nothing that the vocabulary does not have, so a name that is unknown stays so.
  suffices h : ∃ catalog : Catalog, v.Answers catalog ls ∧
      ∀ name, catalog.indentation? name = none ∨ catalog.indentation? name = v name by
    obtain ⟨catalog, h, -⟩ := h
    exact ⟨catalog, h⟩
  induction ls with
  | nil => exact ⟨⟨.empty⟩, by simp [Answers], fun name => .inl rfl⟩
  | cons l ls ih =>
    obtain ⟨catalog, hls, hwithin⟩ := ih
    cases l with
    | literal text => exact ⟨catalog, by simpa [Answers] using hls, hwithin⟩
    | command c =>
      cases hc : v c.name with
      | none =>
        refine ⟨catalog, ?_, hwithin⟩
        simp only [Answers, List.mem_cons, Line.command.injEq]
        rintro c' (rfl | hc')
        · exact (hwithin c'.name).elim (fun h => h.trans hc.symm) id
        · exact hls c' hc'
      | some deltas =>
        have hget : ∀ name, (catalog.insert c.name deltas).indentation? name
            = if c.name = name then some deltas else catalog.indentation? name :=
          fun name => OrderedMap.get?_insert catalog.commands c.name name deltas
        refine ⟨catalog.insert c.name deltas, ?_, fun name => ?_⟩
        · simp only [Answers, List.mem_cons, Line.command.injEq]
          intro c' hc'
          rw [hget]
          split
          · next hname => rw [← hname, hc]
          · next hname =>
            refine hls c' (hc'.resolve_left ?_)
            rintro rfl
            exact hname rfl
        · rw [hget]
          split
          · next hname => exact .inr (hname ▸ hc.symm)
          · exact hwithin name

lemma Answers.tail {catalog : Catalog} {l : Line} {ls : List Line}
    (h : v.Answers catalog (l :: ls)) : v.Answers catalog ls :=
  fun c hc => h c (List.mem_cons_of_mem l hc)

/-! ### Sums of deltas -/

/-- The negative and the positive deltas of a command are all that count. -/
lemma closing_add_opening (deltas : List Int) :
    Indent.closing deltas + Indent.opening deltas = deltas.sum := by
  induction deltas with
  | nil => rfl
  | cons d ds ih =>
    simp only [Indent.closing, Indent.opening] at ih ⊢
    rcases Int.lt_trichotomy d 0 with hd | rfl | hd
    · have hd' : ¬ d > 0 := by omega
      simp only [List.filter_cons, hd, hd', decide_true, decide_false, if_true, List.foldr_cons,
        List.sum_cons, Bool.false_eq_true, if_false]
      omega
    · simpa using ih
    · have hd' : ¬ d < 0 := by omega
      simp only [List.filter_cons, hd, hd', decide_true, decide_false, if_true, List.foldr_cons,
        List.sum_cons, Bool.false_eq_true, if_false]
      omega

@[simp] lemma depthAt_zero (l : Line) (ls : List Line) :
    v.depthAt (l :: ls) 0 = Indent.closing (v.deltas l) := by
  simp [depthAt, Indent.closing, List.sum]

@[simp] lemma depthAt_succ (l : Line) (ls : List Line) (k : Nat) :
    v.depthAt (l :: ls) (k + 1) = (v.deltas l).sum + v.depthAt ls k := by
  simp only [depthAt, List.take_succ_cons, List.flatMap_cons, List.sum_append,
    List.getElem?_cons_succ]
  omega

/-- The depth of a line depends on the lines before it and on the line alone. -/
lemma depthAt_take {ls : List Line} {j k : Nat} (hjk : j < k) :
    v.depthAt (ls.take k) j = v.depthAt ls j := by
  rw [depthAt, List.take_take, Nat.min_eq_left (Nat.le_of_lt hjk), List.getElem?_take_of_lt hjk,
    depthAt]

lemma depthAt_command {ls : List Line} {k : Nat} {c : Command} (hk : ls[k]? = some (.command c)) :
    v.depthAt ls k
      = ((ls.take k).flatMap v.deltas).sum + Indent.closing (v.deltas (.command c)) := by
  rw [depthAt, hk]
  rfl

lemma depthAfter_eq {catalog : Catalog} {ls : List Line} (h : v.Answers catalog ls) (depth : Int) :
    Indent.depthAfter catalog depth ls = depth + (ls.flatMap v.deltas).sum := by
  induction ls generalizing depth with
  | nil => simp [Indent.depthAfter]
  | cons l ls ih =>
    cases l with
    | literal text => simp [Indent.depthAfter, ih h.tail, deltas]
    | command c =>
      have hc := h c List.mem_cons_self
      simp only [Indent.depthAfter, ih h.tail, hc, List.flatMap_cons, List.sum_append, deltas,
        ← closing_add_opening ((v c.name).getD [])]
      omega

/-- No sum of integers is larger than the sum of what they amount to. -/
lemma natAbs_sum_le (ds : List Int) : ds.sum.natAbs ≤ (ds.map Int.natAbs).sum := by
  induction ds with
  | nil => simp
  | cons d ds ih =>
    simp only [List.sum_cons, List.map_cons]
    omega

/-- Zeros left out, the changes of a line amount to what its deltas amount to. -/
lemma sum_natAbs_changes (ls : List Line) :
    ((v.changes ls).map Int.natAbs).sum = ((ls.flatMap v.deltas).map Int.natAbs).sum := by
  have hsplit : ∀ ds : List Int, ((ds.filter (· < 0)).map Int.natAbs).sum
      + ((ds.filter (0 < ·)).map Int.natAbs).sum = (ds.map Int.natAbs).sum := by
    intro ds
    induction ds with
    | nil => rfl
    | cons d ds ih =>
      rcases Int.lt_trichotomy d 0 with hd | rfl | hd
      · simp [hd, Int.lt_asymm hd, ← ih, Nat.add_assoc]
      · simpa using ih
      · simp [hd, Int.lt_asymm hd, ← ih, Nat.add_left_comm]
  induction ls with
  | nil => rfl
  | cons l ls ih =>
    simp only [changes, List.flatMap_cons, List.map_append, List.sum_append, hsplit] at ih ⊢
    rw [ih]

/-- On its way through the lines the depth never goes beyond the total of all deltas. -/
lemma natAbs_sum_take_changes_le (ls : List Line) (n : Nat) :
    ((v.changes ls).take n).sum.natAbs ≤ ((ls.flatMap v.deltas).map Int.natAbs).sum := by
  have htotal : ((v.changes ls).map Int.natAbs).sum
      = (((v.changes ls).take n).map Int.natAbs).sum
        + (((v.changes ls).drop n).map Int.natAbs).sum := by
    rw [← List.sum_append, ← List.map_append, List.take_append_drop]
  rw [← sum_natAbs_changes, htotal]
  exact Nat.le_add_right_of_le (natAbs_sum_le _)

/-! ### The run -/

end Vocabulary

namespace Indent

variable {v : Vocabulary} {catalog : Catalog} {unit : String} {index : Nat} {depth : Int}

lemma lead_eq (unit : String) (depth : Int) :
    lead unit depth = String.join (List.replicate depth.toNat unit) := by
  unfold lead
  split
  · next hempty =>
    obtain rfl := String.isEmpty_iff.1 hempty
    induction depth.toNat with
    | zero => rfl
    | succ n ih => rw [List.replicate_succ, String.join_cons, ← ih, String.append_empty]
  · rfl

/-- Lines of which none stands too low are written, each at its depth.  By induction on the lines:
what the first one leaves is added to the depth of all others. -/
lemma linesFrom_eq_ok {ls : List Line} (h : v.Answers catalog ls)
    (hgood : ∀ k c, ls[k]? = some (.command c) → v c.name ≠ none ∧ 0 ≤ depth + v.depthAt ls k) :
    linesFrom catalog unit index depth ls
      = .ok (ls.mapIdx fun k l => Vocabulary.written unit (depth + v.depthAt ls k) l) := by
  induction ls generalizing index depth with
  | nil => rfl
  | cons l ls ih =>
    have hdepth : ∀ k, depth + v.depthAt (l :: ls) (k + 1)
        = depth + (v.deltas l).sum + v.depthAt ls k := by
      intro k
      rw [Vocabulary.depthAt_succ, Int.add_assoc]
    have hrest := @ih (index + 1) (depth + (v.deltas l).sum) h.tail fun k c hk => by
      rw [← hdepth]
      exact hgood (k + 1) c hk
    simp only [List.mapIdx_cons, hdepth, Vocabulary.depthAt_zero]
    cases l with
    | literal text =>
      rw [linesFrom]
      simp only [Vocabulary.deltas, List.sum_nil, Int.add_zero] at hrest ⊢
      rw [hrest]
      rfl
    | command c =>
      obtain ⟨hknown, hlevel⟩ := hgood 0 c rfl
      obtain ⟨deltas, hc⟩ := Option.ne_none_iff_exists'.1 hknown
      rw [Vocabulary.depthAt_zero] at hlevel
      simp only [Vocabulary.deltas, hc, Option.getD_some] at hlevel hrest ⊢
      rw [linesFrom_command_of_le ((h c List.mem_cons_self).trans hc) hlevel, Int.add_assoc,
        Vocabulary.closing_add_opening, hrest, lead_eq]
      rfl

/-- The run stops at the first line that cannot be indented: the lines before it are indented, and
leave the depth that its own deltas are added to. -/
lemma lines_eq_error {ls : List Line} {k : Nat} {c : Command} (h : v.Answers catalog ls)
    (hk : ls[k]? = some (.command c)) (hbad : v.Offends ls k)
    (hfirst : ∀ j < k, ¬ v.Offends ls j) : lines catalog unit ls = .error (v.offence k c) := by
  obtain ⟨hlt, hget⟩ := List.getElem?_eq_some_iff.1 hk
  have hsplit : ls = ls.take k ++ .command c :: ls.drop (k + 1) := by
    rw [← hget, ← List.drop_eq_getElem_cons hlt, List.take_append_drop]
  have hbefore : v.Answers catalog (ls.take k) := fun c' hc' => h c' (List.mem_of_mem_take hc')
  have hgood : ∀ j c', (ls.take k)[j]? = some (.command c') →
      v c'.name ≠ none ∧ 0 ≤ 0 + v.depthAt (ls.take k) j := by
    intro j c' hj
    have hjk : j < k := by
      have := (List.getElem?_eq_some_iff.1 hj).1
      simp only [List.length_take] at this
      omega
    rw [List.getElem?_take_of_lt hjk] at hj
    rw [Vocabulary.depthAt_take hjk, Int.zero_add]
    exact Vocabulary.not_offends_iff.1 (hfirst j hjk) c' hj
  rw [hsplit, lines, linesFrom_append (linesFrom_eq_ok hbefore hgood),
    Vocabulary.depthAfter_eq hbefore, List.length_take, Nat.min_eq_left (Nat.le_of_lt hlt),
    Nat.zero_add, Int.zero_add, linesFrom, h c (List.mem_of_getElem? hk)]
  cases hc : v c.name with
  | none => simp [Vocabulary.offence, hc, Except.map]
  | some deltas =>
    have hlow : ((ls.take k).flatMap v.deltas).sum + closing deltas < 0 := by
      by_contra hlevel
      refine Vocabulary.not_offends_iff.2 (fun c' hc' => ?_) hbad
      obtain rfl := Line.command.inj (Option.some.inj (hk.symm.trans hc'))
      simp only [Vocabulary.depthAt_command hk, Vocabulary.deltas, hc, Option.getD_some]
      exact ⟨by simp, Int.not_lt.1 hlevel⟩
    simp [Vocabulary.offence, hc, hlow, Except.map]

end Indent

/-- A catalog whose commands open and close several levels at once. -/
def stepCatalog : Catalog where
  commands := .ofList [("climb", [2]), ("turn", [3, -1]), ("fall", [-2, -2])]

/-- Four lines that can be indented, with a literal among them. -/
def stepLines : List Line :=
  [.command ⟨"climb", []⟩, .literal "x", .command ⟨"turn", [.text "y"]⟩, .command ⟨"fall", []⟩]

/-- Another line that closes more than is open. -/
def tooManySteps : List Line := stepLines ++ [.command ⟨"fall", []⟩]

end Gls
