/-
# Output paths that lead up

The output path of a source file is joined onto a directory, and should not lead out of it.  It
never starts at the root, and segments of the name that lead up are left out.  But they are left out
before the last segment is cut: a segment of three dots, or of three dots and the mark of a
declaration file, comes to two dots when its extension is cut off.  And the namespace is taken as it
is, but for the slashes at its ends.

This file says exactly when the path has a component of two dots, and that these are the steps up
that it takes from the directory it is joined onto.
-/
import Gls.Proofs.Output.Location
import Mathlib.Data.List.Induction

namespace Gls

namespace Options

/-! ### Slashes at the ends -/

/-- Slashes at the start come with empty segments only. -/
lemma mem_splitAt_dropWhile {w cs : List Char} (hw : w ≠ []) :
    w ∈ Text.splitAt '/' (cs.dropWhile (· == '/')) ↔ w ∈ Text.splitAt '/' cs := by
  induction cs with
  | nil => rfl
  | cons c cs ih =>
    by_cases hc : c = '/'
    · subst hc
      simpa [Text.splitAt, hw] using ih
    · simp [hc]

/-- Slashes at the end come with empty segments only. -/
lemma mem_splitAt_dropSlashesRight {w cs : List Char} (hw : w ≠ []) :
    w ∈ Text.splitAt '/' (dropSlashesRight cs) ↔ w ∈ Text.splitAt '/' cs := by
  induction cs using List.reverseRecOn with
  | nil => rfl
  | append_singleton cs c ih =>
    by_cases hc : c = '/'
    · subst hc
      have hdrop : dropSlashesRight (cs ++ ['/']) = dropSlashesRight cs := by
        simp [dropSlashesRight]
      rw [hdrop, ih, Text.splitAt_append_cons]
      simp [Text.splitAt, hw]
    · have hkeep : dropSlashesRight (cs ++ [c]) = cs ++ [c] := by simp [dropSlashesRight, hc]
      rw [hkeep]

lemma mem_splitAt_dropSlashes {w cs : List Char} (hw : w ≠ []) :
    w ∈ Text.splitAt '/' (dropSlashes cs) ↔ w ∈ Text.splitAt '/' cs :=
  (mem_splitAt_dropSlashesRight hw).trans (mem_splitAt_dropWhile hw)

/-! ### The components of an output path -/

/-- The last segment that counts is two dots with an extension, or three dots with the mark of a
declaration file and an extension. -/
def EndsInDots (o : Options) (fileName : String) : Prop :=
  ∃ dirs main extension, (main = ['.', '.'] ∨ main = ['.', '.', '.', 'd']) ∧ '.' ∉ extension ∧
    o.segments fileName = dirs ++ [main ++ '.' :: extension]

variable (o : Options) (fileName : String)

/-- What stands before the last dot is left of a segment, unless it is nothing. -/
lemma dropExtension_append {front extension : List Char} (hne : front ≠ [])
    (hslash : '/' ∉ front ++ '.' :: extension) (hdot : '.' ∉ extension) :
    dropExtension (front ++ '.' :: extension) = front := by
  have hlast : lastIndex? '.' (front ++ '.' :: extension) = some front.length := by
    rw [lastIndex?_append, lastIndex?, lastIndex?_eq_none_iff.2 hdot]
    simp
  rw [dropExtension, hlast, lastIndex?_eq_none_iff.2 hslash]
  have hpos : 0 < front.length := List.length_pos_iff.2 hne
  simp [hpos]

/-- Two dots are left of a segment exactly when they are left of what stands before its
extension. -/
lemma cut_eq_dots_iff {segment : List Char} (hslash : '/' ∉ segment) :
    dropDeclarationMark (dropExtension segment) = ['.', '.'] ↔
      ∃ main extension, (main = ['.', '.'] ∨ main = ['.', '.', '.', 'd']) ∧ '.' ∉ extension ∧
        segment = main ++ '.' :: extension := by
  constructor
  · intro h
    have hmark := cutsMark_dropDeclarationMark (dropExtension segment)
    rw [h] at hmark
    have hmain : dropExtension segment = ['.', '.'] ∨
        dropExtension segment = ['.', '.', '.', 'd'] :=
      hmark.elim .inr fun hm => .inl hm.1.symm
    rcases cutsExtension_dropExtension hslash with ⟨extension, hseg, hdot, -⟩ | ⟨hseg, htail⟩
    · exact ⟨_, extension, hmain, hdot, hseg⟩
    · -- Without an extension there would be no dot after the first character.
      rw [hseg] at hmain
      rcases hmain with rfl | rfl <;> exact absurd htail (by decide)
  · rintro ⟨main, extension, hmain, hdot, rfl⟩
    have hne : main ≠ [] := by
      rintro rfl
      simp at hmain
    rw [dropExtension_append hne hslash hdot]
    rcases hmain with rfl | rfl <;> rfl

/-- What is left of the last segment is two dots. -/
lemma stem_eq_dots_iff : o.stem fileName = ['.', '.'] ↔ o.EndsInDots fileName := by
  have hslash := not_mem_last o fileName
  rcases List.eq_nil_or_concat (o.segments fileName) with h | ⟨dirs, last, h⟩
  · have hstem : o.stem fileName = [] := by rw [stem, h]; rfl
    simp [hstem, EndsInDots, h]
  · rw [List.concat_eq_append] at h
    rw [h, List.getLastD_concat] at hslash
    rw [stem, h, List.getLastD_concat, cut_eq_dots_iff hslash]
    constructor
    · rintro ⟨main, extension, hmain, hdot, rfl⟩
      exact ⟨dirs, main, extension, hmain, hdot, h⟩
    · rintro ⟨dirs', main, extension, hmain, hdot, h'⟩
      have hlast : last = main ++ '.' :: extension := by
        simpa using (List.append_inj' (h.symm.trans h') rfl).2
      exact ⟨main, extension, hmain, hdot, hlast⟩

/-- The components are those of the namespace, the directories, and the last segment after it is
cut. -/
lemma splitAt_outputPath : Text.splitAt '/' (o.outputPath fileName).toList
    = (if (dropSlashes o.outputNamespace.toList).isEmpty then []
        else Text.splitAt '/' (dropSlashes o.outputNamespace.toList))
      ++ ((o.segments fileName).dropLast ++ [o.stem fileName]) := by
  have hparts : ∀ w ∈ (o.segments fileName).dropLast ++ [o.stem fileName], '/' ∉ w := by
    intro w hw
    rcases List.mem_append.1 hw with hw | hw
    · exact (of_mem_segments o fileName (List.dropLast_subset _ hw)).2
    · exact List.mem_singleton.1 hw ▸ not_mem_stem o fileName
  rw [outputPath, String.toList_ofList, cut_joinAt_segments]
  split_ifs with hempty
  · rw [Text.splitAt_joinAt (by simp) hparts, List.nil_append]
  · rw [Text.splitAt_append_cons, Text.splitAt_joinAt (by simp) hparts]

/-- Two dots come from the namespace or from what the last segment is cut to. -/
lemma dots_mem_splitAt_outputPath : ['.', '.'] ∈ Text.splitAt '/' (o.outputPath fileName).toList ↔
    ['.', '.'] ∈ Text.splitAt '/' o.outputNamespace.toList ∨ o.EndsInDots fileName := by
  have hdirs : ['.', '.'] ∉ (o.segments fileName).dropLast := fun h =>
    absurd (of_mem_segments o fileName (List.dropLast_subset _ h)).1 (by decide)
  have hnamespace : ['.', '.'] ∈ Text.splitAt '/' (dropSlashes o.outputNamespace.toList) ↔
      ['.', '.'] ∈ Text.splitAt '/' o.outputNamespace.toList := mem_splitAt_dropSlashes (by simp)
  rw [splitAt_outputPath, List.mem_append, List.mem_append, ← stem_eq_dots_iff, List.mem_singleton,
    ← hnamespace, eq_comm (a := ['.', '.'])]
  split_ifs with hempty
  · have hnil : dropSlashes o.outputNamespace.toList = [] := by simpa using hempty
    simp [hnil, hdirs, Text.splitAt]
  · simp [hdirs]

lemma head?_outputPath : (o.outputPath fileName).toList.head? ≠ some '/' := by
  intro h
  refine outputPath_head? o fileName ?_
  rw [String.toList_append, List.head?_append, h]
  rfl

end Options

/-! ### Steps from a directory -/

namespace Path

/-- The step of a segment of two dots leads up, and no other does. -/
lemma ofSegment?_eq_up_iff {w : List Char} :
    Component.ofSegment? w = some .up ↔ w = ['.', '.'] := by
  unfold Component.ofSegment?
  split_ifs with hidle hdots
  · refine iff_of_false (by simp) ?_
    rintro rfl
    exact absurd hidle (by decide)
  · simp [hdots]
  · simp [hdots]

lemma ofSegment?_ne_root (w : List Char) : Component.ofSegment? w ≠ some .root := by
  unfold Component.ofSegment?
  split_ifs <;> simp

lemma up_mem_filterMap {ws : List (List Char)} :
    .up ∈ ws.filterMap Component.ofSegment? ↔ ['.', '.'] ∈ ws := by
  simp [List.mem_filterMap, ofSegment?_eq_up_iff]

lemma root_not_mem_filterMap (ws : List (List Char)) :
    .root ∉ ws.filterMap Component.ofSegment? := by
  simp [List.mem_filterMap, ofSegment?_ne_root]

lemma up_mem_firstSteps {w : List Char} : .up ∈ firstSteps w ↔ w = ['.', '.'] := by
  unfold firstSteps
  split_ifs with hempty hdot
  · simp [hempty]
  · simp [hdot]
  · rw [Option.mem_toList, ofSegment?_eq_up_iff]

lemma root_not_mem_firstSteps {w : List Char} (hw : w ≠ []) : .root ∉ firstSteps w := by
  rw [firstSteps, if_neg hw]
  split_ifs
  · simp
  · rw [Option.mem_toList]
    exact ofSegment?_ne_root w

/-- What is joined onto a directory comes to steps after those of the directory, of which the
segments of two dots lead up. -/
lemma exists_steps_join (dir : Path) {rest : String} (h : rest.toList.head? ≠ some '/') :
    ∃ steps, (dir.join rest).components = dir.components ++ steps ∧ .root ∉ steps ∧
      (.up ∈ steps ↔ ['.', '.'] ∈ Text.splitAt '/' rest.toList) := by
  obtain ⟨w, ws, hws⟩ := List.exists_cons_of_ne_nil (Text.splitAt_ne_nil '/' rest.toList)
  have htext := toList_join dir h
  rcases before_segments dir with ⟨hbefore, hdir⟩ | ⟨cs, s, ss, hbefore, hs, hdir⟩
  · have hseg : (dir.join rest).segments = w :: ws := by
      rw [segments, htext, hbefore, List.nil_append, hws]
    by_cases hw : w = []
    · -- What starts with an empty segment starts at the root, or is empty.
      have hnil : ws = [] := by
        by_contra hne
        obtain ⟨v, vs, rfl⟩ := List.exists_cons_of_ne_nil hne
        refine h ?_
        rw [← Text.joinAt_splitAt '/' rest.toList, hws, hw]
        rfl
      refine ⟨[], ?_, by simp, by simp [hws, hw, hnil]⟩
      rw [hdir, components, body, hseg, hw, hnil]
      rfl
    · refine ⟨firstSteps w ++ ws.filterMap Component.ofSegment?, ?_, ?_, ?_⟩
      · rw [components_of_segments hseg fun hw' => absurd hw' hw, hdir, List.nil_append]
      · rw [List.mem_append, not_or]
        exact ⟨root_not_mem_firstSteps hw, root_not_mem_filterMap ws⟩
      · rw [List.mem_append, up_mem_firstSteps, up_mem_filterMap, hws, List.mem_cons, eq_comm]
  · have hseg : (dir.join rest).segments = s :: (ss ++ w :: ws) := by
      rw [segments, htext, hbefore, List.append_assoc, List.singleton_append,
        Text.splitAt_append_cons, hs, hws]
      rfl
    refine ⟨(w :: ws).filterMap Component.ofSegment?, ?_, root_not_mem_filterMap _, ?_⟩
    · rw [components_of_segments hseg (by simp), hdir, List.filterMap_append, List.append_assoc]
    · rw [up_mem_filterMap, hws]

end Path

/-- An output path never starts at the root.  It has a component of two dots exactly when the
namespace has one, or when the last segment that counts is cut to two dots.  Joined onto a
directory, it takes steps from there, which lead up only at such a component. -/
theorem output_path_climbs_iff (o : Options) (fileName : String) (dir : Path) :
    (o.outputPath fileName).toList.head? ≠ some '/' ∧
    (['.', '.'] ∈ Text.splitAt '/' (o.outputPath fileName).toList ↔
      ['.', '.'] ∈ Text.splitAt '/' o.outputNamespace.toList ∨ o.EndsInDots fileName) ∧
    ∃ steps, (dir.join (o.outputPath fileName)).components = dir.components ++ steps ∧
      .root ∉ steps ∧
      (.up ∈ steps ↔ ['.', '.'] ∈ Text.splitAt '/' (o.outputPath fileName).toList) :=
  ⟨o.head?_outputPath fileName, o.dots_mem_splitAt_outputPath fileName,
    dir.exists_steps_join (o.head?_outputPath fileName)⟩

/-- Three dots are taken for two dots with an extension, and so are three dots in front of the mark
of a declaration file; and a namespace may lead up. -/
theorem output_paths_climb :
    ({} : Options).outputPath "a/...d.ts" = "a/.." ∧ ({} : Options).outputPath "...ts" = ".." ∧
    ({ outputNamespace := ".." } : Options).outputPath "x.ts" = "../x" ∧
    ['.', '.'] ∈ Text.splitAt '/' (({} : Options).outputPath "...ts").toList ∧
    ['.', '.'] ∈
      Text.splitAt '/' (({ outputNamespace := ".." } : Options).outputPath "x.ts").toList ∧
    (Path.join ⟨"out"⟩ (({} : Options).outputPath "...ts")).components = [.name "out", .up] := by
  decide +kernel

end Gls
