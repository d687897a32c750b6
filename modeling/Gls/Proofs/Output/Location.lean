/-
# Where outputs go

The output of a document goes to a file below the output directory, whatever name the document
records.  The name is worked on as one text: the segments that count are joined again, and the last
dot and the last slash of the whole text decide what is cut off.  This file shows what comes of it
segment by segment.

A path that is joined from segments is a lead of whole directories, each with its slash, and a last
segment.  The extension and the mark of a declaration file are cut from the last segment and never
reach into the lead.  So the path is the output directory, the namespace, and a file part of which
every component is a name.
-/
import Gls.Cli.Batch
import Gls.Proofs.Tree.Flags

namespace Gls

/-! ### Splitting and joining -/

namespace Text

variable {sep : Char}

lemma splitAt_append_cons (cs ds : List Char) :
    splitAt sep (cs ++ sep :: ds) = splitAt sep cs ++ splitAt sep ds := by
  induction cs with
  | nil => simp [splitAt]
  | cons c cs ih =>
    by_cases hc : c = sep
    · simp [splitAt, hc, ih]
    · cases hs : splitAt sep cs with
      | nil => exact absurd hs (splitAt_ne_nil sep cs)
      | cons w ws => simp [splitAt, hc, ih, hs]

lemma not_mem_of_mem_splitAt {cs w : List Char} (h : w ∈ splitAt sep cs) : sep ∉ w := by
  induction cs generalizing w with
  | nil => simp_all [splitAt]
  | cons c cs ih =>
    rw [splitAt] at h
    split_ifs at h with hc
    · rcases List.mem_cons.1 h with rfl | h
      · simp
      · exact ih h
    · cases hs : splitAt sep cs with
      | nil => exact absurd hs (splitAt_ne_nil sep cs)
      | cons w' ws =>
        rw [hs] at h ih
        rcases List.mem_cons.1 h with rfl | h
        · have hw' := ih List.mem_cons_self
          simp [hw', Ne.symm hc]
        · exact ih (List.mem_cons_of_mem _ h)

/-- Pieces without the separator are found again. -/
lemma splitAt_joinAt {ws : List (List Char)} (hne : ws ≠ []) (h : ∀ w ∈ ws, sep ∉ w) :
    splitAt sep (joinAt sep ws) = ws := by
  induction ws with
  | nil => exact absurd rfl hne
  | cons w ws ih =>
    obtain ⟨hw, hws⟩ := List.forall_mem_cons.1 h
    cases ws with
    | nil => exact splitAt_of_not_mem hw
    | cons w' ws =>
      rw [joinAt, splitAt_append hw, ih (by simp) hws]
      simp

/-- The last piece stands after the others, each with its separator. -/
lemma joinAt_concat (ws : List (List Char)) (w : List Char) :
    joinAt sep (ws ++ [w]) = ws.flatMap (· ++ [sep]) ++ w := by
  induction ws with
  | nil => rfl
  | cons v ws ih =>
    cases hws : ws ++ [w] with
    | nil => simp at hws
    | cons u us =>
      rw [List.cons_append, hws, joinAt, ← hws, ih]
      · simp
      · simp

end Text

namespace Options

/-! ### The last dot and the last slash -/

variable {c : Char} {cs ds : List Char}

lemma lastIndex?_eq_none_iff : lastIndex? c cs = none ↔ c ∉ cs := by
  induction cs with
  | nil => simp [lastIndex?]
  | cons x xs ih =>
    cases hx : lastIndex? c xs with
    | some i =>
      have hmem : c ∈ xs := by
        by_contra hc
        rw [ih.2 hc] at hx
        cases hx
      simp [lastIndex?, hx, hmem]
    | none =>
      have hmem := ih.1 hx
      simp [lastIndex?, hx, hmem, eq_comm]

/-- The last occurrence in the second part, if there is one, comes after the first part. -/
lemma lastIndex?_append :
    lastIndex? c (cs ++ ds) = ((lastIndex? c ds).map (cs.length + ·)).or (lastIndex? c cs) := by
  induction cs with
  | nil => simp [lastIndex?]
  | cons x xs ih =>
    rw [List.cons_append, lastIndex?, ih, lastIndex?]
    cases lastIndex? c ds with
    | none => simp
    | some i => simp [Nat.add_right_comm]

lemma exists_of_lastIndex? {i : Nat} (h : lastIndex? c cs = some i) :
    ∃ front back, cs = front ++ c :: back ∧ c ∉ back ∧ front.length = i := by
  induction cs generalizing i with
  | nil => cases h
  | cons x xs ih =>
    rw [lastIndex?] at h
    cases hx : lastIndex? c xs with
    | some j =>
      rw [hx] at h
      cases h
      obtain ⟨front, back, rfl, hback, rfl⟩ := ih hx
      exact ⟨x :: front, back, rfl, hback, rfl⟩
    | none =>
      simp only [hx] at h
      split_ifs at h with hc
      cases h
      exact ⟨[], xs, by rw [hc, List.nil_append], lastIndex?_eq_none_iff.1 hx, rfl⟩

/-- Whole directories, each with its slash. -/
def lead (dirs : List (List Char)) : List Char := dirs.flatMap (· ++ ['/'])

/-- A lead is empty or ends with a slash. -/
lemma lead_eq_nil_or (dirs : List (List Char)) :
    lead dirs = [] ∨ ∃ cs, lead dirs = cs ++ ['/'] := by
  rcases List.eq_nil_or_concat dirs with rfl | ⟨init, d, rfl⟩
  · exact .inl rfl
  · exact .inr ⟨lead init ++ d, by simp [lead]⟩

/-- After a lead, the last segment starts where the lead ends. -/
lemma segmentStart_lead (dirs : List (List Char)) {last : List Char} (h : '/' ∉ last) :
    ((lastIndex? '/' (lead dirs ++ last)).map (· + 1)).getD 0 = (lead dirs).length := by
  rw [lastIndex?_append, lastIndex?_eq_none_iff.2 h]
  rcases lead_eq_nil_or dirs with hl | ⟨cs, hl⟩
  · simp [hl, lastIndex?]
  · rw [hl, lastIndex?_append]
    simp [lastIndex?]

/-- The extension is cut from the last segment. -/
lemma dropExtension_lead (dirs : List (List Char)) {last : List Char} (h : '/' ∉ last) :
    dropExtension (lead dirs ++ last) = lead dirs ++ dropExtension last := by
  have hslash : lastIndex? '/' last = none := lastIndex?_eq_none_iff.2 h
  unfold dropExtension
  rw [segmentStart_lead dirs h, lastIndex?_append, hslash]
  cases hdot : lastIndex? '.' last with
  | some i =>
    by_cases hi : 0 < i
    · simp [hi, List.take_length_add_append]
    · simp [hi]
  | none =>
    -- A dot in the lead comes before the last segment.
    cases hlead : lastIndex? '.' (lead dirs) with
    | none => simp
    | some j =>
      obtain ⟨front, back, hsplit, -, rfl⟩ := exists_of_lastIndex? hlead
      have hlen : ¬ (lead dirs).length < front.length := by simp [hsplit]
      simp [hlen]

/-- `main` is the segment without its extension: what begins at its last dot, unless that dot is its
first character. -/
def CutsExtension (segment main : List Char) : Prop :=
  (∃ extension, segment = main ++ '.' :: extension ∧ '.' ∉ extension ∧ main ≠ []) ∨
    main = segment ∧ '.' ∉ segment.tail

lemma cutsExtension_dropExtension {segment : List Char} (h : '/' ∉ segment) :
    CutsExtension segment (dropExtension segment) := by
  have hslash : lastIndex? '/' segment = none := lastIndex?_eq_none_iff.2 h
  unfold dropExtension
  rw [hslash]
  cases hdot : lastIndex? '.' segment with
  | none => exact .inr ⟨rfl, fun hm => lastIndex?_eq_none_iff.1 hdot (List.mem_of_mem_tail hm)⟩
  | some i =>
    obtain ⟨front, back, rfl, hback, rfl⟩ := exists_of_lastIndex? hdot
    cases front with
    | nil => exact .inr ⟨rfl, hback⟩
    | cons x xs => exact .inl ⟨back, by simp, hback, by simp⟩

/-- `stem` is the text without the mark of a declaration file at its end. -/
def CutsMark (main stem : List Char) : Prop :=
  main = stem ++ ['.', 'd'] ∨ stem = main ∧ ¬ ['.', 'd'] <:+ main

lemma cutsMark_dropDeclarationMark (main : List Char) :
    CutsMark main (dropDeclarationMark main) := by
  unfold dropDeclarationMark
  split
  · rename_i rest hrest
    exact .inl (by simpa using congrArg List.reverse hrest)
  · rename_i hne
    refine .inr ⟨rfl, ?_⟩
    rintro ⟨front, rfl⟩
    exact hne front.reverse (by simp)

lemma cutsMark_unique {main s t : List Char} (hs : CutsMark main s) (ht : CutsMark main t) :
    s = t := by
  rcases hs with rfl | ⟨rfl, hs⟩
  · rcases ht with ht | ⟨-, ht⟩
    · exact List.append_cancel_right ht
    · exact absurd (List.suffix_append _ _) ht
  · rcases ht with rfl | ⟨rfl, -⟩
    · exact absurd (List.suffix_append _ _) hs
    · rfl

/-- What does not hold a character is a suffix of what follows this character. -/
lemma suffix_of_suffix_append {s xs ys : List Char} (h : s <:+ xs ++ c :: ys) (hc : c ∉ s) :
    s <:+ ys := by
  rcases List.suffix_or_suffix_of_suffix h (List.suffix_append xs (c :: ys)) with h' | h'
  · rcases List.suffix_cons_iff.1 h' with rfl | h'
    · exact absurd List.mem_cons_self hc
    · exact h'
  · exact absurd (h'.subset List.mem_cons_self) hc

/-- The mark is cut from the last segment. -/
lemma dropDeclarationMark_lead (dirs : List (List Char)) (main : List Char) :
    dropDeclarationMark (lead dirs ++ main) = lead dirs ++ dropDeclarationMark main := by
  refine cutsMark_unique (cutsMark_dropDeclarationMark _) ?_
  rcases cutsMark_dropDeclarationMark main with hmain | ⟨hstem, hmain⟩
  · exact .inl (by rw [List.append_assoc, ← hmain])
  · refine .inr ⟨by rw [hstem], fun hsuffix => hmain ?_⟩
    -- The lead ends with a slash, which the mark does not hold.
    rcases lead_eq_nil_or dirs with hl | ⟨cs, hl⟩
    · simpa [hl] using hsuffix
    · rw [hl, List.append_assoc, List.singleton_append] at hsuffix
      exact suffix_of_suffix_append hsuffix (by decide)

/-! ### The base directory -/

/-- `rest` is the path without the base directory, which is left out only when it ends where a
segment ends. -/
def WithoutBase (base path rest : List Char) : Prop :=
  (base ≠ [] ∧ path = base ++ rest ∧ rest.head? = some '/') ∨
    (base = [] ∨ ∀ tail, path ≠ base ++ '/' :: tail) ∧ rest = path

lemma withoutBase_dropBase (base path : List Char) :
    WithoutBase base path (dropBase base path) := by
  unfold dropBase
  split_ifs with h
  · simp only [Bool.and_eq_true, Bool.not_eq_true', List.isEmpty_eq_false_iff,
      List.isPrefixOf_iff_prefix, beq_iff_eq] at h
    obtain ⟨⟨hne, hbase⟩, hhead⟩ := h
    refine .inl ⟨hne, ?_, hhead⟩
    exact (List.prefix_iff_eq_append.1 hbase).symm
  · refine .inr ⟨or_iff_not_imp_left.2 fun hne tail htail => h ?_, rfl⟩
    subst htail
    simp [hne]

/-! ### The file part -/

/-- The components of the file part: the directories, and the last segment without extension and
mark but with the extension of output files. -/
def fileParts (o : Options) (fileName : String) : List (List Char) :=
  (o.segments fileName).dropLast
    ++ [dropDeclarationMark (dropExtension ((o.segments fileName).getLastD [])) ++ ".gls".toList]

/-- The namespace with its slash, if there is one. -/
def namespaceLead (o : Options) : List Char :=
  if (dropSlashes o.outputNamespace.toList).isEmpty then []
  else dropSlashes o.outputNamespace.toList ++ ['/']

variable (o : Options) (fileName : String)

lemma of_mem_segments {s : List Char} (h : s ∈ o.segments fileName) :
    isNormal s = true ∧ '/' ∉ s := by
  obtain ⟨hs, hnormal⟩ := List.mem_filter.1 h
  exact ⟨hnormal, Text.not_mem_of_mem_splitAt hs⟩

lemma joinAt_eq_lead (ws : List (List Char)) :
    Text.joinAt '/' ws = lead ws.dropLast ++ ws.getLastD [] := by
  rcases List.eq_nil_or_concat ws with rfl | ⟨init, w, rfl⟩
  · rfl
  · rw [List.concat_eq_append, Text.joinAt_concat, List.dropLast_concat, List.getLastD_concat, lead]

/-- The last segment, if there is one. -/
lemma not_mem_last : '/' ∉ (o.segments fileName).getLastD [] := by
  rcases List.eq_nil_or_concat (o.segments fileName) with h | ⟨init, w, h⟩
  · simp [h]
  · have hw : w ∈ o.segments fileName := by simp [h]
    simpa [h] using (of_mem_segments o fileName hw).2

/-- The last segment without its extension and the mark of a declaration file. -/
def stem : List Char := dropDeclarationMark (dropExtension ((o.segments fileName).getLastD []))

/-- Extension and mark are cut from the last segment. -/
lemma cut_joinAt_segments : dropDeclarationMark (dropExtension
      (Text.joinAt '/' (o.segments fileName)))
    = Text.joinAt '/' ((o.segments fileName).dropLast ++ [o.stem fileName]) := by
  rw [joinAt_eq_lead, dropExtension_lead _ (not_mem_last o fileName), dropDeclarationMark_lead,
    Text.joinAt_concat, lead, stem]

/-- The path is the namespace and the file part. -/
lemma toList_outputPath : (o.outputPath fileName ++ ".gls").toList
    = o.namespaceLead ++ Text.joinAt '/' (o.fileParts fileName) := by
  have hpath : Text.joinAt '/' (o.fileParts fileName) = dropDeclarationMark (dropExtension
      (Text.joinAt '/' (o.segments fileName))) ++ ".gls".toList := by
    rw [cut_joinAt_segments, fileParts, Text.joinAt_concat, Text.joinAt_concat, List.append_assoc,
      stem]
  rw [String.toList_append, outputPath, String.toList_ofList, hpath, namespaceLead]
  split_ifs <;> simp

/-- Cutting leaves nothing but characters of the segment. -/
lemma subset_of_cuts {segment main stem : List Char} (he : CutsExtension segment main)
    (hm : CutsMark main stem) : stem ⊆ segment := by
  have hmain : main ⊆ segment := by
    rcases he with ⟨extension, rfl, -⟩ | ⟨rfl, -⟩
    · exact List.subset_append_left _ _
    · exact List.Subset.refl _
  rcases hm with rfl | ⟨rfl, -⟩
  · exact fun x hx => hmain (List.mem_append_left _ hx)
  · exact hmain

lemma isNormal_of_length {segment : List Char} (h : 2 < segment.length) :
    isNormal segment = true := by
  rcases segment with _ | ⟨x, _ | ⟨y, _ | ⟨z, rest⟩⟩⟩ <;> simp_all [isNormal]

lemma not_mem_stem : '/' ∉ o.stem fileName := by
  have hlast := not_mem_last o fileName
  exact fun hmem => hlast (subset_of_cuts (cutsExtension_dropExtension hlast)
    (cutsMark_dropDeclarationMark _) hmem)

/-- The file part is made of names: no component is empty, leads nowhere or leads up. -/
lemma of_mem_fileParts {part : List Char} (h : part ∈ o.fileParts fileName) :
    isNormal part = true ∧ '/' ∉ part := by
  rcases List.mem_append.1 h with h | h
  · exact of_mem_segments o fileName (List.dropLast_subset _ h)
  · obtain rfl := List.mem_singleton.1 h
    refine ⟨?_, fun hmem => ?_⟩
    · -- The extension alone is longer than the segments that lead nowhere or up.
      have hlen : 4 ≤ (dropDeclarationMark (dropExtension ((o.segments fileName).getLastD []))
          ++ ".gls".toList).length := by simp
      exact isNormal_of_length (by omega)
    · rcases List.mem_append.1 hmem with hmem | hmem
      · exact not_mem_stem o fileName hmem
      · exact absurd hmem (by decide)

lemma fileParts_ne_nil : o.fileParts fileName ≠ [] := by simp [fileParts]

lemma splitAt_fileParts :
    Text.splitAt '/' (Text.joinAt '/' (o.fileParts fileName)) = o.fileParts fileName :=
  Text.splitAt_joinAt (fileParts_ne_nil o fileName) fun _ h => (of_mem_fileParts o fileName h).2

/-- A path that is joined from names does not start at the root. -/
lemma head?_joinAt {ws : List (List Char)} (h : ∀ w ∈ ws, isNormal w = true ∧ '/' ∉ w) :
    (Text.joinAt '/' ws).head? ≠ some '/' := by
  rcases ws with _ | ⟨_ | ⟨x, xs⟩, ws⟩
  · simp [Text.joinAt]
  · have hnormal := (h [] List.mem_cons_self).1
    simp [isNormal] at hnormal
  · have hslash := (h (x :: xs) List.mem_cons_self).2
    have hx : x ≠ '/' := fun hx => hslash (by simp [hx])
    cases ws <;> simp [Text.joinAt, hx]

/-- Slashes at the ends of the namespace are gone. -/
lemma dropSlashes_ends (cs : List Char) :
    (dropSlashes cs).head? ≠ some '/' ∧ (dropSlashes cs).getLast? ≠ some '/' := by
  constructor
  · intro h
    have hhead : (cs.dropWhile (· == '/')).head? = some '/' := by
      have hpre : dropSlashes cs <+: cs.dropWhile (· == '/') := by
        rw [← List.reverse_suffix, dropSlashes, dropSlashesRight, List.reverse_reverse]
        exact List.dropWhile_suffix _
      obtain ⟨tail, htail⟩ := hpre
      rw [← htail, List.head?_append, h]
      rfl
    have := List.head?_dropWhile_not (· == '/') cs
    rw [hhead] at this
    simp at this
  · intro h
    rw [dropSlashes, dropSlashesRight, List.getLast?_reverse] at h
    have := List.head?_dropWhile_not (· == '/') (cs.dropWhile (· == '/')).reverse
    rw [h] at this
    simp at this

end Options

/-! ### Components -/

namespace Path

open Options (isNormal)

/-- The steps of the first segment: an empty one leads to the root. -/
def firstSteps (segment : List Char) : List Component :=
  if segment = [] then [.root] else if segment = ['.'] then [.here]
  else (Component.ofSegment? segment).toList

/-- The steps of a path that is not empty. -/
lemma components_of_segments {p : Path} {s : List Char} {ss : List (List Char)}
    (h : p.segments = s :: ss) (hne : s = [] → ss ≠ []) :
    p.components = firstSteps s ++ ss.filterMap Component.ofSegment? := by
  unfold components body
  rw [h]
  by_cases hroot : s = []
  · obtain ⟨t, ts, rfl⟩ := List.exists_cons_of_ne_nil (hne hroot)
    subst hroot
    rfl
  · by_cases hhere : s = ['.']
    · subst hhere
      rfl
    · rw [firstSteps, if_neg hroot, if_neg hhere]
      split
      · exact absurd (List.cons.inj ‹_›).1 hroot
      · exact absurd (List.cons.inj ‹_›).1 hhere
      · cases hs : Component.ofSegment? s <;> simp [Start.components, hs]

lemma ofSegment?_of_isNormal {s : List Char} (h : isNormal s = true) :
    Component.ofSegment? s = some (.name (String.ofList s)) := by
  simp only [isNormal, Bool.not_eq_true', Bool.or_eq_false_iff, beq_eq_false_iff_ne] at h
  obtain ⟨⟨hempty, hdot⟩, hdots⟩ := h
  simp [Component.ofSegment?, isIdle, hempty, hdot, hdots]

lemma filterMap_ofSegment? {ws : List (List Char)} (h : ∀ w ∈ ws, isNormal w = true) :
    ws.filterMap Component.ofSegment? = ws.map fun w => .name (String.ofList w) := by
  induction ws with
  | nil => rfl
  | cons w ws ih =>
    obtain ⟨hw, hws⟩ := List.forall_mem_cons.1 h
    rw [List.filterMap_cons, ofSegment?_of_isNormal hw, ih hws, List.map_cons]

lemma firstSteps_of_isNormal {s : List Char} (h : isNormal s = true) :
    firstSteps s = [.name (String.ofList s)] := by
  have hs := ofSegment?_of_isNormal h
  unfold firstSteps
  split_ifs with hempty hdot
  · simp [hempty, isNormal] at h
  · simp [hdot, isNormal] at h
  · simp [hs]

lemma eq_of_toList {p q : Path} (h : p.text.toList = q.text.toList) : p = q := by
  cases p
  cases q
  simpa [String.toList_inj] using h

/-- The text of a directory, with the slash that divides it from what is joined onto it. -/
def before (p : Path) : List Char :=
  if p.text.isEmpty || p.text.toList.getLast? = some '/' then p.text.toList
  else p.text.toList ++ ['/']

lemma toList_join (base : Path) {rest : String} (h : rest.toList.head? ≠ some '/') :
    (base.join rest).text.toList = base.before ++ rest.toList := by
  unfold join before
  rw [if_neg h]
  split_ifs <;> simp

/-- What is before a joined path is no segment, or segments of the directory with the same steps. -/
lemma before_segments (base : Path) :
    base.before = [] ∧ base.components = [] ∨
      ∃ cs s ss, base.before = cs ++ ['/'] ∧ Text.splitAt '/' cs = s :: ss ∧
        base.components = firstSteps s ++ ss.filterMap Component.ofSegment? := by
  by_cases hempty : base.text = ""
  · obtain rfl : base = ⟨""⟩ := congrArg Path.mk hempty
    exact .inl ⟨rfl, rfl⟩
  right
  have hne : base.text.toList ≠ [] := by simpa using hempty
  rcases List.eq_nil_or_concat base.text.toList with hcs | ⟨init, c, hcs⟩
  · exact absurd hcs hne
  by_cases hc : c = '/'
  · -- The slash is there already; after it stands an empty segment.
    obtain ⟨s, ss, hs⟩ := List.exists_cons_of_ne_nil (Text.splitAt_ne_nil '/' init)
    have hseg : base.segments = s :: (ss ++ [[]]) := by
      rw [segments, hcs, hc, List.concat_eq_append, Text.splitAt_append_cons, hs]
      rfl
    refine ⟨init, s, ss, by simp [before, hcs, hc], hs, ?_⟩
    rw [components_of_segments hseg (by simp), List.filterMap_append]
    simp [Component.ofSegment?, isIdle]
  · obtain ⟨s, ss, hs⟩ := List.exists_cons_of_ne_nil (Text.splitAt_ne_nil '/' base.text.toList)
    refine ⟨base.text.toList, s, ss, by simp [before, hempty, hcs, hc], hs, ?_⟩
    refine components_of_segments hs fun hnil hss => hne ?_
    rw [← Text.joinAt_splitAt '/' base.text.toList, hs, hnil, hss]
    rfl

/-- Names that are joined onto a directory are steps after those of the directory. -/
lemma components_join (base : Path) {ws : List (List Char)} (hne : ws ≠ [])
    (h : ∀ w ∈ ws, isNormal w = true ∧ '/' ∉ w) :
    (base.join (String.ofList (Text.joinAt '/' ws))).components
      = base.components ++ ws.map fun w => .name (String.ofList w) := by
  have hsplit : Text.splitAt '/' (Text.joinAt '/' ws) = ws :=
    Text.splitAt_joinAt hne fun w hw => (h w hw).2
  have htext : (base.join (String.ofList (Text.joinAt '/' ws))).text.toList
      = base.before ++ Text.joinAt '/' ws := by
    rw [toList_join base (by simpa using Options.head?_joinAt h), String.toList_ofList]
  rcases before_segments base with ⟨hbefore, hbase⟩ | ⟨cs, s, ss, hbefore, hs, hbase⟩
  · obtain ⟨w, ws', rfl⟩ := List.exists_cons_of_ne_nil hne
    obtain ⟨hw, hws⟩ := List.forall_mem_cons.1 h
    have hseg : (base.join (String.ofList (Text.joinAt '/' (w :: ws')))).segments = w :: ws' := by
      rw [segments, htext, hbefore, List.nil_append, hsplit]
    rw [components_of_segments hseg fun hw' => by simp [hw', isNormal] at hw, hbase,
      firstSteps_of_isNormal hw.1, filterMap_ofSegment? fun v hv => (hws v hv).1]
    rfl
  · have hseg : (base.join (String.ofList (Text.joinAt '/' ws))).segments = s :: (ss ++ ws) := by
      rw [segments, htext, hbefore, List.append_assoc, List.singleton_append,
        Text.splitAt_append_cons, hs, hsplit]
      rfl
    rw [components_of_segments hseg fun _ => by simp [hne], hbase, List.filterMap_append,
      filterMap_ofSegment? fun w hw => (h w hw).1, List.append_assoc]

end Path

/-! ### The output file -/

namespace Options

/-- The directory that file parts are joined onto: the output directory, or the namespace in it. -/
def outputRoot (o : Options) (outDir : Path) : Path :=
  if (dropSlashes o.outputNamespace.toList).isEmpty then outDir
  else outDir.join (String.ofList (dropSlashes o.outputNamespace.toList))

lemma before_outputRoot (o : Options) (outDir : Path) :
    (o.outputRoot outDir).before = outDir.before ++ o.namespaceLead := by
  obtain ⟨hhead, hlast⟩ := dropSlashes_ends o.outputNamespace.toList
  unfold outputRoot namespaceLead
  split_ifs with hempty
  · rw [List.append_nil]
  · have hne : dropSlashes o.outputNamespace.toList ≠ [] := by simpa using hempty
    have htext := Path.toList_join outDir (by rwa [String.toList_ofList])
    rw [String.toList_ofList] at htext
    have hfilled :
        (outDir.join (String.ofList (dropSlashes o.outputNamespace.toList))).text ≠ "" := by
      intro hnil
      rw [hnil] at htext
      simp [hne] at htext
    rw [Path.before, htext, if_neg, List.append_assoc]
    simp [hfilled, hne, hlast]

lemma outputPath_head? (o : Options) (fileName : String) :
    (o.outputPath fileName ++ ".gls").toList.head? ≠ some '/' := by
  rw [toList_outputPath, namespaceLead]
  split_ifs with hempty
  · rw [List.nil_append]
    exact head?_joinAt fun _ => of_mem_fileParts o fileName
  · have hne : dropSlashes o.outputNamespace.toList ≠ [] := by simpa using hempty
    rw [List.append_assoc, List.head?_append_of_ne_nil _ hne]
    exact (dropSlashes_ends _).1

/-- `parts` is the file part for a name.  The segments that count are those of the name without the
base directory.  All but the last are kept as they are; the last, which is empty if there is none,
loses its extension and the mark of a declaration file. -/
def NamesFile (o : Options) (fileName : String) (parts : List (List Char)) : Prop :=
  ∃ rest dirs last main stem,
    WithoutBase (dropSlashesRight (forwardSlashes o.baseDirectory.toList))
      (forwardSlashes fileName.toList) rest ∧
    ((Text.splitAt '/' rest).filter isNormal = dirs ++ [last] ∨
      (Text.splitAt '/' rest).filter isNormal = [] ∧ dirs = [] ∧ last = []) ∧
    CutsExtension last main ∧ CutsMark main stem ∧
    parts = dirs ++ [stem ++ ".gls".toList]

lemma namesFile_fileParts (o : Options) (fileName : String) :
    o.NamesFile fileName (o.fileParts fileName) := by
  refine ⟨_, (o.segments fileName).dropLast, (o.segments fileName).getLastD [], _, _,
    withoutBase_dropBase _ _, ?_, cutsExtension_dropExtension (not_mem_last o fileName),
    cutsMark_dropDeclarationMark _, rfl⟩
  rcases List.eq_nil_or_concat (o.segments fileName) with h | ⟨init, w, h⟩
  · exact .inr ⟨h, by simp [h], by simp [h]⟩
  · refine .inl (h.trans ?_)
    simp [h]

end Options

namespace DocumentResult

variable (o : Options) (outDir : Path) (r : DocumentResult)

lemma toList_outputFile : (r.outputFile o outDir).text.toList
    = outDir.before ++ o.namespaceLead ++ Text.joinAt '/' (o.fileParts r.outputName) := by
  rw [outputFile, Path.toList_join outDir (o.outputPath_head? _), Options.toList_outputPath,
    List.append_assoc]

/-- The file part is joined onto the output directory with the namespace. -/
lemma outputFile_eq_join : r.outputFile o outDir
    = (o.outputRoot outDir).join (String.ofList (Text.joinAt '/' (o.fileParts r.outputName))) := by
  have hhead : (Text.joinAt '/' (o.fileParts r.outputName)).head? ≠ some '/' :=
    Options.head?_joinAt fun _ => Options.of_mem_fileParts o r.outputName
  refine Path.eq_of_toList ?_
  rw [toList_outputFile, Path.toList_join _ (by rwa [String.toList_ofList]),
    Options.before_outputRoot, String.toList_ofList]

lemma components_outputFile : (r.outputFile o outDir).components
    = (o.outputRoot outDir).components
      ++ (o.fileParts r.outputName).map fun part => .name (String.ofList part) := by
  rw [outputFile_eq_join]
  exact Path.components_join _ (Options.fileParts_ne_nil o _)
    fun _ => Options.of_mem_fileParts o r.outputName

lemma outputName_of_fileName (h : r.fileName ≠ "") : r.outputName = r.fileName := by
  simp [outputName, h]

end DocumentResult

/-- The output of a document goes to the output directory, the namespace if there is one, and a
file part that is made of names and never leads up. -/
theorem output_stays_below (o : Options) (outDir : Path) (r : DocumentResult)
    (h : r.fileName ≠ "") :
    ∃ parts, o.NamesFile r.fileName parts ∧ parts ≠ [] ∧
      Text.splitAt '/' (Text.joinAt '/' parts) = parts ∧
      (∀ part ∈ parts, part ≠ [] ∧ part ≠ ['.'] ∧ part ≠ ['.', '.']) ∧
      (r.outputFile o outDir).text.toList
        = outDir.before ++ o.namespaceLead ++ Text.joinAt '/' parts ∧
      (r.outputFile o outDir).components
        = (o.outputRoot outDir).components ++ parts.map fun part => .name (String.ofList part) := by
  rw [← r.outputName_of_fileName h]
  refine ⟨o.fileParts r.outputName, o.namesFile_fileParts _, o.fileParts_ne_nil _,
    o.splitAt_fileParts _, fun part hpart => ?_, r.toList_outputFile o outDir,
    r.components_outputFile o outDir⟩
  simpa [Options.isNormal, and_assoc] using (o.of_mem_fileParts _ hpart).1

/-- Options with a base directory and a namespace. -/
def basedOptions : Options where
  baseDirectory := "C:\\work\\"
  outputNamespace := "/ns/"

/-- Of a name with backslashes, a base directory and a segment that leads up, the names below the
base directory are left. -/
theorem declaration_output_stays_below :
    ∃ parts, basedOptions.NamesFile "C:\\work\\..\\src\\a.b\\x.d.ts" parts ∧
      parts.map String.ofList = ["src", "a.b", "x.gls"] := by
  obtain ⟨parts, hnames, -, hsplit, -, htext, -⟩ := output_stays_below basedOptions ⟨"out"⟩
    ⟨⟨"x.tsgls.json"⟩, "C:\\work\\..\\src\\a.b\\x.d.ts", "", {}⟩ (by decide)
  refine ⟨parts, hnames, ?_⟩
  have hpath : (DocumentResult.outputFile
      ⟨⟨"x.tsgls.json"⟩, "C:\\work\\..\\src\\a.b\\x.d.ts", "", {}⟩ basedOptions ⟨"out"⟩).text.toList
      = Path.before ⟨"out"⟩ ++ basedOptions.namespaceLead ++ "src/a.b/x.gls".toList := by
    decide +kernel
  rw [hpath] at htext
  rw [← hsplit, ← List.append_cancel_left htext]
  decide +kernel

end Gls
