/-
# Rendered documents, line by line

A program is written with one line of text for each of its lines.  So the rendered text of a
document, cut at line feeds, should give back its output lines.  This file says when it does.

There are two ways to miss it.  A line with a line feed in it falls apart; and output that consists
of one empty line is taken for no output, for the text is tested for being empty and not the list of
lines.  The main statement is that there is no third way, and where line feeds inside of a line come
from: texts of nodes and names of the type tables that are taken over as they stand.
-/
import Gls.Cli.Batch
import Gls.Proofs.Vocabulary.Conformance

namespace Gls

/-! ### Cutting a text at line feeds -/

namespace Text

/-- The pieces of a text between line feeds, without the empty piece after the last of them. -/
def linePieces (s : String) : List String :=
  let pieces := (s.toList.splitOn '\n').map String.ofList
  if pieces.getLast? = some "" then pieces.dropLast else pieces

lemma not_mem_of_mem_splitOnP {α : Type} {p : α → Bool} {xs w : List α}
    (h : w ∈ xs.splitOnP p) : ∀ x ∈ w, p x = false := by
  induction xs generalizing w with
  | nil => simp_all
  | cons x xs ih =>
    rw [List.splitOnP_cons_eq_if_modifyHead] at h
    split_ifs at h with hx
    · rcases List.mem_cons.1 h with rfl | h
      · simp
      · exact ih h
    · -- The character goes to the front of the first piece of the rest.
      obtain ⟨v, vs, hv⟩ := List.exists_cons_of_ne_nil (List.splitOnP_ne_nil p xs)
      rw [hv, List.modifyHead_cons] at h
      rw [hv] at ih
      rcases List.mem_cons.1 h with rfl | h
      · exact List.forall_mem_cons.2 ⟨by simpa using hx, ih List.mem_cons_self⟩
      · exact ih (List.mem_cons_of_mem v h)

/-- What a text is cut into has no line feed. -/
lemma unbroken_of_mem_linePieces {s l : String} (h : l ∈ linePieces s) : Unbroken l := by
  have hmem : l ∈ (s.toList.splitOn '\n').map String.ofList := by
    unfold linePieces at h
    dsimp only at h
    split at h
    · exact List.dropLast_subset _ h
    · exact h
  obtain ⟨w, hw, rfl⟩ := List.mem_map.1 hmem
  rw [List.splitOn_eq_splitOnP] at hw
  rw [unbroken_ofList]
  intro hbreak
  simpa using not_mem_of_mem_splitOnP hw '\n' hbreak

/-- Lines with a line feed after each of them are found again. -/
lemma linePieces_intercalate {ls : List String} (hne : ls ≠ []) (h : ∀ l ∈ ls, Unbroken l) :
    linePieces ("\n".intercalate ls ++ "\n") = ls := by
  -- The empty piece after the last line feed counts as a line of its own.
  have hjoin : "\n".intercalate ls ++ "\n" = "\n".intercalate (ls ++ [""]) := by
    rw [String.intercalate_append_of_ne_nil hne (by simp)]
    simp
  have hsplit : ("\n".intercalate (ls ++ [""])).toList.splitOn '\n'
      = (ls ++ [""]).map String.toList := by
    rw [String.toList_intercalate]
    refine List.splitOn_intercalate '\n' ?_ (by simp)
    simpa [or_imp, forall_and, Unbroken] using h
  have hpieces : (("\n".intercalate ls ++ "\n").toList.splitOn '\n').map String.ofList
      = ls ++ [""] := by
    rw [hjoin, hsplit, List.map_map]
    simp [Function.comp_def]
  rw [linePieces, hpieces]
  simp

lemma intercalate_eq_empty_iff {ls : List String} :
    "\n".intercalate ls = "" ↔ ls = [] ∨ ls = [""] := by
  rcases ls with _ | ⟨l, _ | ⟨m, ms⟩⟩
  · simp
  · simp
  · simp

end Text

/-- The rendered text of a document, cut at line feeds, gives back the output lines just when none
of them has a line feed and they are not one empty line. -/
lemma DocumentResult.linePieces_rendered_iff (r : DocumentResult) :
    Text.linePieces r.rendered = r.output.lines ↔
      (∀ l ∈ r.output.lines, Text.Unbroken l) ∧ r.output.lines ≠ [""] := by
  have hempty : Text.linePieces "" = [] := by decide +kernel
  constructor
  · intro h
    refine ⟨fun l hl => Text.unbroken_of_mem_linePieces (h ▸ hl), fun hone => ?_⟩
    have hlost : r.rendered = "" := by rw [rendered, hone]; rfl
    rw [hlost, hempty, hone] at h
    cases h
  · rintro ⟨hunbroken, hone⟩
    by_cases hnil : r.output.lines = []
    · have hlost : r.rendered = "" := by rw [rendered, hnil]; rfl
      rw [hlost, hempty, hnil]
    · have htext : ("\n".intercalate r.output.lines).isEmpty = false := by
        have hne := mt Text.intercalate_eq_empty_iff.1 (not_or.2 ⟨hnil, hone⟩)
        simpa using hne
      rw [rendered, htext]
      exact Text.linePieces_intercalate hnil hunbroken

/-! ### Line feeds in a rendered command -/

namespace Argument

open Text

mutual

/-- An argument is written on one line when its texts and the names of its commands are. -/
lemma unbroken_render : ∀ a : Argument, Unbroken a.render ↔
    (∀ c ∈ a.commands, Unbroken c.name) ∧ ∀ t ∈ a.texts, Unbroken t
  | .text t => by
    have hopen : Unbroken "(" := by decide
    have hclose : Unbroken ")" := by decide
    simp only [render, commands, texts]
    split <;> simp [unbroken_append, hopen, hclose]
  | .command name [] => by
    have hopen : Unbroken "\x7b " := by decide
    have hclose : Unbroken " \x7d" := by decide
    simp [render, commands, commandsIn, texts, textsIn, unbroken_append, hopen, hclose]
  | .command name (a :: as) => by
    have hopen : Unbroken "\x7b " := by decide
    have hcolon : Unbroken " :" := by decide
    have hclose : Unbroken " \x7d" := by decide
    rw [render, commands, texts, unbroken_append, unbroken_append, unbroken_append,
      unbroken_append, unbroken_renderAll (a :: as), List.forall_mem_cons]
    simp only [hopen, hcolon, hclose, true_and, and_true, and_assoc]

lemma unbroken_renderAll : ∀ as : List Argument, Unbroken (renderAll as) ↔
    (∀ c ∈ commandsIn as, Unbroken c.name) ∧ ∀ t ∈ textsIn as, Unbroken t
  | [] => by
    have hempty : Unbroken "" := by decide
    simp [renderAll, commandsIn, textsIn, hempty]
  | a :: as => by
    have hblank : Unbroken " " := by decide
    rw [renderAll, commandsIn, textsIn, unbroken_append, unbroken_append, unbroken_render a,
      unbroken_renderAll as, List.forall_mem_append, List.forall_mem_append]
    simp only [hblank, true_and]
    exact and_and_and_comm

end

end Argument

namespace Command

open Text

lemma unbroken_render (c : Command) : Unbroken c.render ↔
    Unbroken c.name ∧ (∀ d ∈ c.nested, Unbroken d.name) ∧ ∀ t ∈ c.texts, Unbroken t := by
  have hcolon : Unbroken " :" := by decide
  unfold render
  split
  · rename_i hargs
    rw [List.isEmpty_iff] at hargs
    simp [nested, texts, hargs, Argument.commandsIn, Argument.textsIn]
  · rw [unbroken_append, unbroken_append, Argument.unbroken_renderAll]
    simp only [hcolon, and_true]
    rfl

/-- The names of commands stand on one line and are not empty. -/
lemma Fits.name {c : Command} (h : c.Fits) : Unbroken c.name ∧ c.name ≠ "" := by
  have hall : ∀ e ∈ arities.entries, Unbroken e.1 ∧ e.1 ≠ "" := by decide +kernel
  obtain ⟨a, ha, -⟩ := h
  exact hall _ (OrderedMap.get?_eq_some_iff.1 ha)

/-- A sound command is written on one line when its texts are. -/
lemma Sound.unbroken_render {T : String → Prop} {c : Command} (h : c.Sound T) :
    Unbroken c.render ↔ ∀ t ∈ c.texts, Unbroken t := by
  rw [Command.unbroken_render]
  exact ⟨fun hc => hc.2.2, fun ht => ⟨h.fits.name.1, fun d hd => (h.nested d hd).1.name.1, ht⟩⟩

lemma Sound.render_ne_empty {T : String → Prop} {c : Command} (h : c.Sound T) : c.render ≠ "" := by
  unfold render
  split
  · exact h.fits.name.2
  · simp

end Command

/-! ### Indented lines -/

namespace Indent

open Text

lemma unbroken_lead {unit : String} (h : Unbroken unit) (depth : Int) :
    Unbroken (lead unit depth) := by
  unfold lead
  split
  · decide
  · induction depth.toNat with
    | zero => exact (show Unbroken "" by decide)
    | succ k ih =>
      rw [List.replicate_succ, String.join_cons, unbroken_append]
      exact ⟨h, ih⟩

/-- What a line of a program is written as. -/
def WrittenAs (unit : String) : Line → String → Prop
  | .literal _, s => s = ""
  | .command c, s => ∃ depth, s = lead unit depth ++ c.render

/-- One line of text for each line of the program. -/
lemma forall₂_writtenAs {catalog : Catalog} {unit : String} {index : Nat} {depth : Int}
    {ls : List Line} {out : List String} (h : linesFrom catalog unit index depth ls = .ok out) :
    List.Forall₂ (WrittenAs unit) ls out := by
  induction ls generalizing index depth out with
  | nil =>
    cases h
    exact .nil
  | cons l ls ih =>
    cases l with
    | literal text =>
      obtain ⟨rest, hr, rfl⟩ := map_eq_ok h
      exact .cons rfl (ih hr)
    | command c =>
      obtain ⟨deltas, rest, -, -, hr, rfl⟩ := linesFrom_command_eq_ok h
      exact .cons ⟨_, rfl⟩ (ih hr)

/-- With an unbroken unit, line feeds come from the commands. -/
lemma unbroken_iff_of_writtenAs {unit : String} (hunit : Unbroken unit) {ls : List Line}
    {out : List String} (h : List.Forall₂ (WrittenAs unit) ls out) :
    (∀ s ∈ out, Unbroken s) ↔ ∀ c, Line.command c ∈ ls → Unbroken c.render := by
  induction h with
  | nil => simp
  | @cons l s ls out hl _ ih =>
    have hhead : Unbroken s ↔ ∀ c, Line.command c = l → Unbroken c.render := by
      cases l with
      | literal text =>
        obtain rfl : s = "" := hl
        exact iff_of_true (by decide) (by simp)
      | command c =>
        obtain ⟨depth, rfl⟩ := hl
        rw [unbroken_append]
        simp [unbroken_lead hunit depth]
    rw [List.forall_mem_cons, hhead, ih]
    simp only [List.mem_cons, or_imp, forall_and]

/-- One empty line is what a single literal is written as. -/
lemma eq_empty_line_iff_of_writtenAs {unit : String} {ls : List Line} {out : List String}
    (h : List.Forall₂ (WrittenAs unit) ls out)
    (hne : ∀ c, Line.command c ∈ ls → c.render ≠ "") :
    out = [""] ↔ ∃ text, ls = [.literal text] := by
  constructor
  · rintro rfl
    obtain ⟨l, ls, hl, hls, rfl⟩ := List.forall₂_cons_right_iff.1 h
    obtain rfl := List.forall₂_nil_right_iff.1 hls
    cases l with
    | literal text => exact ⟨text, rfl⟩
    | command c =>
      obtain ⟨depth, hs⟩ := hl
      have hrender : c.render = "" := (String.append_eq_empty_iff.1 hs.symm).2
      exact absurd hrender (hne c List.mem_cons_self)
  · rintro ⟨text, rfl⟩
    obtain ⟨s, out, hs, hout, rfl⟩ := List.forall₂_cons_left_iff.1 h
    obtain rfl := List.forall₂_nil_left_iff.1 hout
    obtain rfl : s = "" := hs
    rfl

end Indent

/-! ### Rendered documents -/

/-- A text that a document holds as it stands: the text of a node, or the name of a symbol or of a
primitive type. -/
def Document.Holds (d : Document) (t : String) : Prop :=
  (∃ n, d.arena.text n = t) ∨
  (∃ id y, d.types.symbol? id = some y ∧ y.name = t) ∨
  ∃ ty, d.types.intrinsicName? ty = some t

/-- What arguments are made of stands on one line, or the document holds it. -/
lemma Document.vouches (d : Document) :
    (⟨d.arena, d.types⟩ : TypedTree).Vouches fun t => ¬ Text.Unbroken t → d.Holds t where
  unbroken h hbroken := absurd h hbroken
  supplied h hbroken := by
    cases h with
    | name hname =>
      refine absurd (fun hbreak => ?_) hbroken
      have hnot : RawType.isNameChar '\n' = false := by decide +kernel
      rw [hname _ hbreak] at hnot
      cases hnot
    | source n => exact .inl ⟨n, rfl⟩
    | symbol hid => exact .inr (.inl ⟨_, _, hid, rfl⟩)
    | intrinsic hty => exact .inr (.inr ⟨_, hty⟩)

/-- A document is transformed by indenting the lines of its program. -/
lemma Document.transform_eq_ok {d : Document} {catalog : Catalog} {options : Options}
    {output : TransformOutput} (h : d.transform catalog options = .ok output) :
    ∃ p, programOf d.arena d.types d.root options = .ok p ∧
      Indent.lines catalog options.indentUnit p.lines = .ok output.lines := by
  rw [Document.transform, transformTree] at h
  cases hp : programOf d.arena d.types d.root options with
  | error e =>
    rw [hp] at h
    cases h
  | ok p =>
    rw [hp] at h
    simp only [bind, Except.bind] at h
    split at h
    · rename_i lines hl
      cases h
      exact ⟨p, rfl, hl⟩
    · cases h

/-- For a document that is transformed with an unbroken unit there is one output line for each line
of its program.  The rendered text gives back these lines just when no text among the arguments has
a line feed and the program is not a single literal line.  A text with a line feed is one that the
document holds, as long as 32 bits can address the source. -/
theorem rendered_line_by_line (d : Document) (options : Options) (output : TransformOutput)
    (hunit : Text.Unbroken options.indentUnit)
    (h : d.transform Catalog.builtin options = .ok output) (r : DocumentResult)
    (hr : r.output = output) :
    ∃ p, programOf d.arena d.types d.root options = .ok p ∧
      output.lines.length = p.lines.length ∧
      (Text.linePieces r.rendered = output.lines ↔
        (∀ l ∈ output.lines, Text.Unbroken l) ∧ ¬ ∃ text, p.lines = [.literal text]) ∧
      ((∀ l ∈ output.lines, Text.Unbroken l) ↔
        ∀ c, .command c ∈ p.lines → ∀ t ∈ c.texts, Text.Unbroken t) ∧
      (Text.byteLength d.arena.sourceText.toList < UInt32.size →
        ∀ c, .command c ∈ p.lines → ∀ t ∈ c.texts, ¬ Text.Unbroken t → d.Holds t) := by
  subst hr
  obtain ⟨p, hp, hlines⟩ := Document.transform_eq_ok h
  have hwritten := Indent.forall₂_writtenAs hlines
  have hsound : ∀ c, .command c ∈ p.lines → c.Sound fun _ => True := fun c hc =>
    sound_of_command_mem_lines hp hc
  refine ⟨p, hp, hwritten.length_eq.symm, ?_, ?_, fun hsize c hc => ?_⟩
  · rw [DocumentResult.linePieces_rendered_iff, Ne,
      Indent.eq_empty_line_iff_of_writtenAs hwritten fun c hc => (hsound c hc).render_ne_empty]
  · rw [Indent.unbroken_iff_of_writtenAs hunit hwritten]
    exact forall₂_congr fun c hc => (hsound c hc).unbroken_render
  · have hcomments : ∀ r ∈ CommentRange.scan d.arena.sourceText,
        ∀ line ∈ r.bodyLines d.arena.sourceText, ¬ Text.Unbroken line → d.Holds line :=
      fun r hr line hl hbroken =>
        absurd (CommentRange.unbroken_of_mem_bodyLines hsize hr hl) hbroken
    have hc : c.Sound fun t => ¬ Text.Unbroken t → d.Holds t :=
      sound_of_mem_lines hp d.vouches (fun _ => hcomments) _ hc
    exact hc.texts

/-- The result of a document, as a batch records it. -/
def resultOf (d : Document) (output : TransformOutput) : DocumentResult where
  path := ⟨"a.tsgls.json"⟩
  fileName := d.fileName
  sourceText := d.arena.sourceText
  output := output

/-- A call with a template of two lines. -/
def templateDocument : Document where
  fileName := "a.ts"
  arena := {
    sourceText := "f(\x60a\nb\x60);"
    nodes := #[
      { kind := .identifier, pos := 0, stop := 1, payload := .identifier "f" },
      { kind := .noSubstitutionTemplateLiteral, pos := 2, stop := 7, payload := .literal "a\nb" },
      { kind := .callExpression, pos := 0, stop := 8, payload := .call ⟨⟨0⟩, [], [⟨1⟩]⟩ },
      { kind := .expressionStatement, pos := 0, stop := 9, payload := .wrapped (some ⟨2⟩) },
      { kind := .sourceFile, pos := 0, stop := 9, payload := .list [⟨3⟩] }] }
  root := ⟨4⟩

/-- The two lines of the template are one line of output. -/
def templateOutput : TransformOutput := ⟨["function call : f \"a\\nb\""], []⟩

theorem template_rendered_line_by_line :
    templateDocument.transform Catalog.builtin {} = .ok templateOutput ∧
    Text.linePieces (resultOf templateDocument templateOutput).rendered
      = templateOutput.lines := by
  have h : templateDocument.transform Catalog.builtin {} = .ok templateOutput := rfl
  obtain ⟨p, hp, -, hpieces, -, -⟩ := rendered_line_by_line templateDocument {} templateOutput
    (by decide +kernel) h (resultOf templateDocument templateOutput) rfl
  have hcall : programOf templateDocument.arena templateDocument.types templateDocument.root {}
      = .ok { lines := [.command ⟨CommandName.functionCall, [.text "f", .text "\"a\\nb\""]⟩] } :=
    rfl
  obtain rfl := Except.ok.inj (hcall.symm.trans hp)
  exact ⟨h, hpieces.2 ⟨by decide +kernel, by simp⟩⟩

/-- A statement that is a name. -/
def nameDocument : Document where
  fileName := "a.ts"
  arena := {
    sourceText := "x;"
    nodes := #[
      { kind := .identifier, pos := 0, stop := 1, payload := .identifier "x" },
      { kind := .expressionStatement, pos := 0, stop := 2, payload := .wrapped (some ⟨0⟩) },
      { kind := .sourceFile, pos := 0, stop := 2, payload := .list [⟨1⟩] }] }
  root := ⟨2⟩

/-- A call with a property access on two lines. -/
def accessDocument : Document where
  fileName := "a.ts"
  arena := {
    sourceText := "f(a\n.b);"
    nodes := #[
      { kind := .identifier, pos := 0, stop := 1, payload := .identifier "f" },
      { kind := .identifier, pos := 2, stop := 3, payload := .identifier "a" },
      { kind := .identifier, pos := 5, stop := 6, payload := .identifier "b" },
      { kind := .propertyAccessExpression, pos := 2, stop := 6, payload := .access ⟨⟨1⟩, ⟨2⟩⟩ },
      { kind := .callExpression, pos := 0, stop := 7, payload := .call ⟨⟨0⟩, [], [⟨3⟩]⟩ },
      { kind := .expressionStatement, pos := 0, stop := 8, payload := .wrapped (some ⟨4⟩) },
      { kind := .sourceFile, pos := 0, stop := 8, payload := .list [⟨5⟩] }] }
  root := ⟨6⟩

/-- The line of the first document is lost, and the line of the second one falls into two. -/
theorem lines_lost_and_broken :
    nameDocument.transform Catalog.builtin {} = .ok ⟨[""], []⟩ ∧
    Text.linePieces (resultOf nameDocument ⟨[""], []⟩).rendered = [] ∧
    accessDocument.transform Catalog.builtin {} = .ok ⟨["function call : f (a\n.b)"], []⟩ ∧
    Text.linePieces (resultOf accessDocument ⟨["function call : f (a\n.b)"], []⟩).rendered
      = ["function call : f (a", ".b)"] :=
  ⟨rfl, by decide +kernel, rfl, by decide +kernel⟩

end Gls
