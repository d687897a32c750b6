/-
# Comments only append

A transformation may leave the comments of its source out or take them in.  Taking them in changes
nothing but the end of the output: it fails when it fails without them, for the same reason, it
complains about the same things, and its lines are the lines without comments, and then those of the
comments.

The comments come after the whole tree, and the lines of a tree end at the depth at which they
began.  So the lines of the comments stand at depth zero; and as none of their commands opens or
closes anything, they are all written without indentation.
-/
import Gls.Proofs.Layout.Fragments
import Gls.Proofs.Text.Comments

namespace Gls

/-! ### The commands of comments -/

/-- The commands that a comment turns into: one for a line comment; for a block comment one for each
of its lines, between a start and an end. -/
def CommentRange.commands (r : CommentRange) (source : String) : List Command :=
  if r.isBlock then
    ⟨CommandName.commentBlockStart, []⟩
      :: (r.bodyLines source).map (fun line => ⟨CommandName.commentBlock, [.text line]⟩)
      ++ [⟨CommandName.commentBlockEnd, []⟩]
  else [⟨CommandName.commentLine, [.text ((r.bodyLines source).headD "")]⟩]

/-- The commands of all comments of a source text, in the order in which the comments are found. -/
def commentCommands (source : String) : List Command :=
  (CommentRange.scan source).flatMap fun r => r.commands source

namespace Program

/-- Commands by themselves make a program of as many lines, without complaints. -/
lemma ofOutputs_commands (cs : List Command) :
    ofOutputs (cs.map .command) = ⟨cs.map .command, []⟩ := by
  induction cs with
  | nil => rfl
  | cons c cs ih =>
    rw [List.map_cons, ofOutputs, ih]
    rfl

end Program

namespace CommentRange

lemma output_transformation (r : CommentRange) (source : String) :
    (r.transformation source).output = (r.commands source).map .command := by
  unfold transformation commands
  dsimp only
  split
  · simp
  · rfl

/-- None of the commands of a comment changes the depth. -/
lemma indentation?_of_mem_commands {r : CommentRange} {source : String} {c : Command}
    (h : c ∈ r.commands source) : Catalog.builtin.indentation? c.name = some [] := by
  have ho : .command c ∈ (r.transformation source).output := by
    rw [output_transformation]
    exact List.mem_map_of_mem h
  obtain ⟨c', hc, hname⟩ := flat_of_mem_output ho
  obtain rfl := Output.command.inj hc
  exact Visit.indentation?_of_mem_flatNames hname

end CommentRange

lemma ofFragments_commentFragments (source : String) :
    Program.ofFragments (commentFragments source)
      = ⟨(commentCommands source).map .command, []⟩ := by
  have hmap : ∀ rs : List CommentRange,
      Program.ofFragments (rs.map fun r => .transformation (r.transformation source))
        = Program.ofOutputs ((rs.flatMap fun r => r.commands source).map .command) := by
    intro rs
    induction rs with
    | nil => rfl
    | cons r rs ih =>
      rw [List.map_cons, List.flatMap_cons, List.map_append, Program.ofOutputs_append, ← ih,
        ← r.output_transformation source]
      rfl
  rw [commentFragments, hmap, Program.ofOutputs_commands]
  rfl

/-! ### Lines at depth zero -/

namespace Indent

lemma lead_zero (unit : String) : lead unit 0 = "" := by
  unfold lead
  split
  · rfl
  · rfl

/-- At depth zero, commands that change no depth are written as they stand. -/
lemma linesFrom_flat {cs : List Command} (unit : String) (index : Nat)
    (h : ∀ c ∈ cs, Catalog.builtin.indentation? c.name = some []) :
    linesFrom Catalog.builtin unit index 0 (cs.map .command) = .ok (cs.map Command.render) := by
  induction cs generalizing index with
  | nil => rfl
  | cons c cs ih =>
    obtain ⟨hc, hcs⟩ := List.forall_mem_cons.1 h
    have hdepth : (0 : Int) + closing [] = 0 := rfl
    rw [List.map_cons, linesFrom_command_of_le hc (by decide), hdepth, lead_zero]
    have hrest := ih (index + 1) hcs
    rw [show (0 : Int) + opening [] = 0 from rfl, hrest, String.empty_append]
    rfl

end Indent

/-! ### Two transformations -/

section Tree

variable (arena : Arena) (types : TypeTable) (root : NodeId) (options : Options)

/-- With comments there are the same fragments and then those of the comments. -/
lemma fragmentsOf_with_comments :
    fragmentsOf arena types root { options with skipComments := false }
      = (fragmentsOf arena types root { options with skipComments := true }).map
          (· ++ commentFragments arena.sourceText) := by
  have hbind : ∀ ts, Transformer.allFragments (Context.ofRoot arena types root) root
      (.sourceFile :: ts) = (do
        let fs ← Visit.node (Context.ofRoot arena types root) root
        return fs ++ (← Transformer.allFragments (Context.ofRoot arena types root) root ts)) :=
    fun ts => rfl
  unfold fragmentsOf Transformer.ofOptions
  simp only [Bool.false_eq_true, if_false, if_true]
  rw [hbind, hbind, Visit.outcome_bind, Visit.outcome_bind]
  rcases (Visit.node (Context.ofRoot arena types root) root).outcome {} with ⟨_ | fs, t⟩
  · rfl
  · simp [Transformer.allFragments, Transformer.fragments, Except.map, Context.ofRoot,
      Context.arena]

end Tree

/-- A transformation with comments fails exactly when the one without them does, with the same
error; otherwise it has the same complaints, and its lines are those without comments and then the
commands of the comments, without indentation.  The comments are those of the source text, in the
order in which they stand in it. -/
theorem comments_only_append (arena : Arena) (types : TypeTable) (root : NodeId)
    (options : Options) :
    transformTree arena types root Catalog.builtin { options with skipComments := false }
      = (transformTree arena types root Catalog.builtin { options with skipComments := true }).map
          (fun out => ⟨out.lines ++ (commentCommands arena.sourceText).map Command.render,
            out.complaints⟩) ∧
    CommentRange.InOrder 0 (Text.byteLength arena.sourceText.toList)
      (CommentRange.scan arena.sourceText) := by
  refine ⟨?_, CommentRange.inOrder_scan arena.sourceText⟩
  have hcomments := fragmentsOf_with_comments arena types root options
  cases hf : fragmentsOf arena types root { options with skipComments := true } with
  | error e =>
    rw [hf] at hcomments
    rw [transformTree_of_error hcomments, transformTree_of_error hf]
    rfl
  | ok fs =>
    rw [hf] at hcomments
    have hlaid := (tidy_of_fragments hf).wellLaid
    obtain ⟨lines, hl⟩ := hlaid.indents options.indentUnit
    -- The tree leaves depth zero, so that is where the comments begin.
    have hall : Indent.lines Catalog.builtin options.indentUnit
        (Program.ofFragments (fs ++ commentFragments arena.sourceText)).lines
          = .ok (lines ++ (commentCommands arena.sourceText).map Command.render) := by
      have hflat : ∀ c ∈ commentCommands arena.sourceText,
          Catalog.builtin.indentation? c.name = some [] := by
        intro c hc
        obtain ⟨r, -, hr⟩ := List.mem_flatMap.1 hc
        exact CommentRange.indentation?_of_mem_commands hr
      rw [Program.ofFragments_append, Program.lines_append, ofFragments_commentFragments,
        Indent.lines, Indent.linesFrom_append hl, hlaid.settles,
        Indent.linesFrom_flat _ _ hflat]
      rfl
    rw [transformTree_eq_ok hcomments hall, transformTree_eq_ok hf hl]
    simp [Except.map, Program.ofFragments_append, ofFragments_commentFragments]

end Gls
