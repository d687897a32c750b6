/-
# What is left after writing

Outputs are written one after the other, and no check is made whether a file has been written
before.  Where an output goes depends on nothing but its file part, so documents with the same file
part share a file, and it holds the text of the last of them.  Documents whose file parts are all
different keep a file each.

Writing only ever adds directories: a path that leads to a place leads there for the rest of the
run.  A text is then kept as long as nothing else is written to its place.
-/
import Gls.Proofs.Output.Location

namespace Gls

namespace FileTree

variable {t t' : FileTree}

/-! ### Where steps lead -/

/-- The place that steps lead to if every one of them can be taken. -/
def landing (here : Place) : List Path.Component → Place
  | [] => here
  | .root :: cs => landing [] cs
  | .here :: cs => landing here cs
  | .up :: cs => landing here.dropLast cs
  | .name n :: cs => landing (here ++ [n]) cs

lemma landing_append (here : Place) (cs ds : List Path.Component) :
    landing here (cs ++ ds) = landing (landing here cs) ds := by
  induction cs generalizing here with
  | nil => rfl
  | cons c cs ih => cases c <;> exact ih _

lemma landing_names (here : Place) (ns : List String) :
    landing here (ns.map .name) = here ++ ns := by
  induction ns generalizing here with
  | nil => simp [landing]
  | cons n ns ih => simp [landing, ih]

/-- A step is taken from a directory, and leads where it says. -/
lemma walk?_cons_eq_some_iff {here place : Place} {c : Path.Component} {cs : List Path.Component} :
    t.walk? here (c :: cs) = some place ↔
      t.hasDirectory here ∧ (∀ n, c = .name n → isStorable n) ∧
        t.walk? (landing here [c]) cs = some place := by
  cases c <;> simp [walk?, landing]

lemma eq_landing_of_walk? {here place : Place} {cs : List Path.Component}
    (h : t.walk? here cs = some place) : place = landing here cs := by
  induction cs generalizing here with
  | nil => exact (Option.some.inj h).symm
  | cons c cs ih =>
    obtain ⟨-, -, hrest⟩ := walk?_cons_eq_some_iff.1 h
    rw [ih hrest, ← landing_append, List.singleton_append]

lemma eq_landing_of_place? {p : Path} {place : Place} (h : t.place? p = some place) :
    place = landing [] p.components := by
  obtain ⟨place', hwalk, hrest⟩ := Option.bind_eq_some_iff.1 h
  split_ifs at hrest
  cases hrest
  exact eq_landing_of_walk? hwalk

/-! ### Directories stay -/

/-- Every directory of the first tree is one of the second. -/
def Grows (t t' : FileTree) : Prop := ∀ place, t.hasDirectory place → t'.hasDirectory place

lemma Grows.refl (t : FileTree) : Grows t t := fun _ h => h

lemma Grows.trans {t'' : FileTree} (h : Grows t t') (h' : Grows t' t'') : Grows t t'' :=
  fun place hp => h' place (h place hp)

lemma Grows.walk? (hg : Grows t t') {here place : Place} {cs : List Path.Component}
    (h : t.walk? here cs = some place) : t'.walk? here cs = some place := by
  induction cs generalizing here with
  | nil => exact h
  | cons c cs ih =>
    obtain ⟨hhere, hname, hrest⟩ := walk?_cons_eq_some_iff.1 h
    exact walk?_cons_eq_some_iff.2 ⟨hg here hhere, hname, ih hrest⟩

/-- A path that leads to a place still does when directories are added. -/
lemma Grows.place? (hg : Grows t t') {p : Path} {place : Place} (h : t.place? p = some place) :
    t'.place? p = some place := by
  obtain ⟨place', hwalk, hrest⟩ := Option.bind_eq_some_iff.1 h
  split_ifs at hrest with hidle
  obtain rfl : place' = place := Option.some.inj hrest
  refine Option.bind_eq_some_iff.2 ⟨place', hg.walk? hwalk, if_neg fun hidle' => hidle ?_⟩
  simp only [Bool.or_eq_true, Bool.and_eq_true, Bool.not_eq_true', Bool.eq_false_iff] at hidle' ⊢
  exact hidle'.imp_right fun ⟨hends, hno⟩ => ⟨hends, fun hdir => hno (hg place' hdir)⟩

lemma Grows.with_files (hg : Grows t t') (files : OrderedMap Place String) :
    Grows t { t' with files } := hg

lemma grows_addDirectory (t : FileTree) (place : Place) : Grows t (t.addDirectory place) := by
  intro place' h
  unfold addDirectory
  split_ifs
  · exact h
  · simp only [hasDirectory, List.contains_eq_mem, Bool.or_eq_true, decide_eq_true_eq,
      List.mem_append] at h ⊢
    exact h.imp_right .inl

lemma files_addDirectory (t : FileTree) (place : Place) :
    (t.addDirectory place).files = t.files := by
  unfold addDirectory
  split_ifs <;> rfl

/-- Making directories leaves files and other directories as they are. -/
lemma of_makeSteps? {here : Place} {cs : List Path.Component} (h : t.makeSteps? here cs = some t') :
    Grows t t' ∧ t'.files = t.files := by
  induction cs generalizing t here with
  | nil =>
    obtain rfl : t = t' := Option.some.inj h
    exact ⟨.refl t, rfl⟩
  | cons c cs ih =>
    cases c with
    | root => exact ih h
    | here => exact ih h
    | up => exact ih h
    | name n =>
      rw [makeSteps?] at h
      split_ifs at h
      obtain ⟨hgrows, hfiles⟩ := ih h
      exact ⟨(grows_addDirectory t _).trans hgrows, hfiles.trans (files_addDirectory t _)⟩

/-- Writing changes the file at the place of the path. -/
lemma of_write? {p : Path} {text : String} (h : t.write? p text = some t') :
    ∃ place, t.place? p = some place ∧ t' = { t with files := t.files.insert place text } := by
  obtain ⟨place, hplace, hrest⟩ := Option.bind_eq_some_iff.1 h
  split_ifs at hrest
  exact ⟨place, hplace, (Option.some.inj hrest).symm⟩

end FileTree

/-! ### Places of outputs -/

namespace DocumentResult

variable (o : Options) (outDir : Path)

/-- The place where the output of a document lands. -/
def outputPlace (r : DocumentResult) : Place :=
  FileTree.landing [] (r.outputFile o outDir).components

lemma outputPlace_eq (r : DocumentResult) :
    r.outputPlace o outDir = FileTree.landing [] (o.outputRoot outDir).components
      ++ (o.fileParts r.outputName).map String.ofList := by
  rw [outputPlace, components_outputFile, FileTree.landing_append, ← FileTree.landing_names,
    List.map_map]
  rfl

/-- Outputs land at the same place only if they have the same file part. -/
lemma fileParts_eq_of_outputPlace {r s : DocumentResult}
    (h : r.outputPlace o outDir = s.outputPlace o outDir) :
    o.fileParts r.outputName = o.fileParts s.outputName := by
  rw [outputPlace_eq, outputPlace_eq] at h
  exact List.map_injective_iff.2 (fun _ _ => String.ofList_injective) (List.append_cancel_left h)

/-- The file part decides where an output goes. -/
lemma outputFile_eq_iff {r s : DocumentResult} :
    r.outputFile o outDir = s.outputFile o outDir
      ↔ o.fileParts r.outputName = o.fileParts s.outputName := by
  constructor
  · intro h
    exact fileParts_eq_of_outputPlace o outDir (by rw [outputPlace, h, outputPlace])
  · intro h
    rw [outputFile_eq_join, outputFile_eq_join, h]

end DocumentResult

/-! ### Writing one output -/

namespace Batch

variable {o : Options} {outDir : Path} {t t' : FileTree} {r : DocumentResult}
  {results : List DocumentResult} {paths : List Path}

/-- The outcome of work on a tree, and the tree that is left. -/
def outcome {α : Type} (x : ExceptT Failure (StateM FileTree) α) (t : FileTree) :
    Except Failure α × FileTree := x.run.run t

lemma eq_of_toOption {α : Type} {x : Except Failure α × FileTree} {a : α}
    (h : x.1.toOption = some a) : x = (.ok a, x.2) := by
  rcases x with ⟨e | b, t⟩
  · cases h
  · cases h
    rfl

lemma outcome_pure_eq_ok {α : Type} {a b : α} :
    outcome (pure a) t = (.ok b, t') ↔ a = b ∧ t = t' := by
  show ((.ok a, t) : Except Failure α × FileTree) = (.ok b, t') ↔ _
  simp

lemma outcome_bind_eq_ok {α β : Type} {x : ExceptT Failure (StateM FileTree) α}
    {f : α → ExceptT Failure (StateM FileTree) β} {b : β} :
    outcome (x >>= f) t = (.ok b, t') ↔
      ∃ a t₁, outcome x t = (.ok a, t₁) ∧ outcome (f a) t₁ = (.ok b, t') := by
  have hbind : outcome (x >>= f) t = match outcome x t with
      | (.ok a, t₁) => outcome (f a) t₁
      | (.error e, t₁) => (.error e, t₁) := by
    simp only [outcome, ExceptT.run_bind, StateT.run_bind]
    rcases x.run.run t with ⟨_ | _, _⟩ <;> rfl
  rw [hbind]
  rcases outcome x t with ⟨e | a, t₁⟩ <;> simp

/-- After a change of the tree that is demanded, the tree has been changed. -/
lemma outcome_demand_eq_ok {α : Type} {change : FileTree → Option FileTree} {e : Failure}
    {rest : ExceptT Failure (StateM FileTree) α} {a : α}
    (h : outcome (do
      let done ← (ExceptT.lift (FileTree.update change) : ExceptT Failure (StateM FileTree) Bool)
      if !done then throw e
      rest) t = (.ok a, t')) :
    ∃ t₁, change t = some t₁ ∧ outcome rest t₁ = (.ok a, t') := by
  cases hc : change t with
  | none =>
    simp only [outcome, FileTree.update, ExceptT.run_bind, ExceptT.run_lift, bind_pure_comp,
      StateT.run_bind, StateT.run_map, StateT.run_get, pure_bind, hc] at h
    cases h
  | some t₁ => exact ⟨t₁, rfl, by simpa [outcome, FileTree.update, hc] using h⟩

/-- The output of a document is written after the directories that were missing are added. -/
lemma exists_write?_of_writeOutput {p : Path}
    (h : outcome (writeOutput o outDir r) t = (.ok p, t')) :
    p = r.outputFile o outDir ∧ ∃ t₁, FileTree.Grows t t₁ ∧ t₁.files = t.files ∧
      t₁.write? (r.outputFile o outDir) r.rendered = some t' := by
  unfold writeOutput at h
  cases hparent : (r.outputFile o outDir).parent? with
  | none =>
    simp only [hparent] at h
    obtain ⟨t₁, hwrite, h⟩ := outcome_demand_eq_ok h
    obtain ⟨rfl, rfl⟩ := outcome_pure_eq_ok.1 h
    exact ⟨rfl, t, .refl t, rfl, hwrite⟩
  | some parent =>
    simp only [hparent] at h
    obtain ⟨t₁, hmake, h⟩ := outcome_demand_eq_ok h
    obtain ⟨t₂, hwrite, h⟩ := outcome_demand_eq_ok h
    obtain ⟨rfl, rfl⟩ := outcome_pure_eq_ok.1 h
    obtain ⟨hgrows, hfiles⟩ := FileTree.of_makeSteps? hmake
    exact ⟨rfl, t₁, hgrows, hfiles, hwrite⟩

/-- Writing the output of a document keeps directories, and changes the file where it lands. -/
lemma of_writeOutput {p : Path} (h : outcome (writeOutput o outDir r) t = (.ok p, t')) :
    p = r.outputFile o outDir ∧ FileTree.Grows t t' ∧
      t'.place? (r.outputFile o outDir) = some (r.outputPlace o outDir) ∧
      t'.files = t.files.insert (r.outputPlace o outDir) r.rendered := by
  obtain ⟨hp, t₁, hgrows, hfiles, hwrite⟩ := exists_write?_of_writeOutput h
  obtain ⟨place, hplace, ht'⟩ := FileTree.of_write? hwrite
  have hlands : place = r.outputPlace o outDir := FileTree.eq_landing_of_place? hplace
  rw [← hlands, ← hfiles, ht']
  exact ⟨hp, hgrows.with_files _, (FileTree.place?_with_files t₁ _ _).trans hplace, rfl⟩

/-! ### Writing all outputs -/

lemma outcome_writeOutputs_cons
    (h : outcome (writeOutputs o outDir (r :: results)) t = (.ok paths, t')) :
    ∃ p t₁ ps, outcome (writeOutput o outDir r) t = (.ok p, t₁) ∧
      outcome (writeOutputs o outDir results) t₁ = (.ok ps, t') ∧ paths = p :: ps := by
  rw [writeOutputs, List.mapM_cons] at h
  obtain ⟨p, t₁, hfirst, h⟩ := outcome_bind_eq_ok.1 h
  obtain ⟨ps, t₂, hrest, h⟩ := outcome_bind_eq_ok.1 h
  obtain ⟨rfl, rfl⟩ := outcome_pure_eq_ok.1 h
  exact ⟨p, t₁, ps, hfirst, hrest, rfl⟩

lemma paths_of_writeOutputs (h : outcome (writeOutputs o outDir results) t = (.ok paths, t')) :
    paths = results.map (·.outputFile o outDir) := by
  induction results generalizing t paths with
  | nil => exact (outcome_pure_eq_ok.1 h).1.symm
  | cons r results ih =>
    obtain ⟨p, t₁, ps, hfirst, hrest, rfl⟩ := outcome_writeOutputs_cons h
    rw [(of_writeOutput hfirst).1, ih hrest, List.map_cons]

/-- Directories stay, and so do files at places where no output lands. -/
lemma writeOutputs_keeps (h : outcome (writeOutputs o outDir results) t = (.ok paths, t')) :
    FileTree.Grows t t' ∧ ∀ place, (∀ r ∈ results, r.outputPlace o outDir ≠ place) →
      t'.files.get? place = t.files.get? place := by
  induction results generalizing t paths with
  | nil =>
    obtain ⟨-, rfl⟩ := outcome_pure_eq_ok.1 h
    exact ⟨.refl t, fun _ _ => rfl⟩
  | cons r results ih =>
    obtain ⟨p, t₁, ps, hfirst, hrest, rfl⟩ := outcome_writeOutputs_cons h
    obtain ⟨-, hgrows, -, hfiles⟩ := of_writeOutput hfirst
    obtain ⟨hgrows', hkeeps⟩ := ih hrest
    refine ⟨hgrows.trans hgrows', fun place hplace => ?_⟩
    obtain ⟨hr, hresults⟩ := List.forall_mem_cons.1 hplace
    rw [hkeeps place hresults, hfiles, OrderedMap.get?_insert, if_neg hr]

/-- The text of a document is kept if no later one has its file part. -/
lemma read?_of_writeOutputs {front back : List DocumentResult}
    (h : outcome (writeOutputs o outDir (front ++ r :: back)) t = (.ok paths, t'))
    (hlast : ∀ s ∈ back, o.fileParts s.outputName ≠ o.fileParts r.outputName) :
    t'.read? (r.outputFile o outDir) = some r.rendered := by
  induction front generalizing t paths with
  | nil =>
    obtain ⟨p, t₁, ps, hfirst, hrest, rfl⟩ := outcome_writeOutputs_cons h
    obtain ⟨-, -, hplace, hfiles⟩ := of_writeOutput hfirst
    obtain ⟨hgrows, hkeeps⟩ := writeOutputs_keeps hrest
    have hkept := hkeeps (r.outputPlace o outDir) fun s hs hland =>
      hlast s hs (s.fileParts_eq_of_outputPlace o outDir hland)
    rw [FileTree.read?, hgrows.place? hplace, Option.bind_some, hkept, hfiles,
      OrderedMap.get?_insert, if_pos rfl]
  | cons s front ih =>
    obtain ⟨p, t₁, ps, -, hrest, rfl⟩ := outcome_writeOutputs_cons h
    exact ih hrest

end Batch

/-- File parts alone decide which documents keep their outputs.  Paths are pairwise different
exactly when file parts are, and a file holds the text of the last document with its file part. -/
theorem outputs_kept_by_file_part {o : Options} {outDir : Path} {results : List DocumentResult}
    {t t' : FileTree} {paths : List Path}
    (h : (Batch.writeOutputs (m := StateM FileTree) o outDir results).run.run t = (.ok paths, t')) :
    paths = results.map (·.outputFile o outDir) ∧
      (paths.Nodup ↔ (results.map fun r => o.fileParts r.outputName).Nodup) ∧
      (∀ front r back, results = front ++ r :: back →
        (∀ s ∈ back, o.fileParts s.outputName ≠ o.fileParts r.outputName) →
        t'.read? (r.outputFile o outDir) = some r.rendered) ∧
      (paths.Nodup → ∀ r ∈ results, t'.read? (r.outputFile o outDir) = some r.rendered) := by
  have hpaths := Batch.paths_of_writeOutputs h
  have hnodup : paths.Nodup ↔ (results.map fun r => o.fileParts r.outputName).Nodup := by
    rw [hpaths, List.nodup_iff_pairwise_ne, List.nodup_iff_pairwise_ne, List.pairwise_map,
      List.pairwise_map]
    exact List.Pairwise.iff fun r s => (DocumentResult.outputFile_eq_iff o outDir).not
  refine ⟨hpaths, hnodup, ?_, ?_⟩
  · rintro front r back rfl hlast
    exact Batch.read?_of_writeOutputs h hlast
  · intro hdistinct r hr
    obtain ⟨front, back, rfl⟩ := List.append_of_mem hr
    refine Batch.read?_of_writeOutputs h fun s hs heq => ?_
    have hpair := hnodup.1 hdistinct
    rw [List.map_append, List.map_cons, List.nodup_append, List.nodup_cons] at hpair
    exact hpair.2.1.1 (heq ▸ List.mem_map_of_mem hs)

/-- A document of the given name with the given output. -/
def DocumentResult.ofLines (fileName : String) (lines : List String) : DocumentResult where
  path := ⟨"a.tsgls.json"⟩
  fileName := fileName
  output := { lines }

/-- Documents in different directories keep a file each. -/
theorem outputs_of_directories_kept :
    ∃ t' : FileTree, t'.read? ⟨"out/src/a.gls"⟩ = some "first\n" ∧
      t'.read? ⟨"out/b/a.gls"⟩ = some "second\n" := by
  have hrun : ((Batch.writeOutputs (m := StateM FileTree) {} ⟨"out"⟩
      [.ofLines "src\\..\\a.ts" ["first"], .ofLines "b/a.d.ts" ["second"]]).run.run {}).1.toOption
      = some [⟨"out/src/a.gls"⟩, ⟨"out/b/a.gls"⟩] := by
    decide +kernel
  obtain ⟨-, -, -, hkept⟩ := outputs_kept_by_file_part (Batch.eq_of_toOption hrun)
  refine ⟨_, hkept (by decide) (.ofLines "src\\..\\a.ts" ["first"]) (by simp), ?_⟩
  exact hkept (by decide) (.ofLines "b/a.d.ts" ["second"]) (by simp)

/-- A document that only differs in its extension takes the file of another. -/
theorem second_output_overwrites_first :
    ((Batch.writeOutputs (m := StateM FileTree) {} ⟨"out"⟩
        [.ofLines "a.ts" ["first"], .ofLines "a.js" ["second"]]).run.run {}).1.toOption
      = some [⟨"out/a.gls"⟩, ⟨"out/a.gls"⟩] ∧
    ((Batch.writeOutputs (m := StateM FileTree) {} ⟨"out"⟩
        [.ofLines "a.ts" ["first"], .ofLines "a.js" ["second"]]).run.run {}).2.files.entries
      = [(["out", "a.gls"], "second\n")] := by
  constructor
  · decide +kernel
  · decide +kernel

end Gls
