/-
# Lines and columns counted from one

A position counts lines and columns from zero, and a report counts them from one.  All of these are
numbers of 32 bits, and so are offsets, which no document has to keep within its text.  The one is
added whatever the position says, so at the largest number the sum overflows, and then there is no
report at all, neither of this complaint nor of any other.

A line or a column is never past the offset it belongs to, so this can happen at the last offset
only.  There the text decides.  The column is the offset itself when no line ends before it, and the
line is the offset when a line ends at every offset up to it, which takes a text of nothing but line
breaks.  The main statement is that nothing else keeps complaints from being reported, and that the
line and the column of every report lead back to where its complaint begins.
-/
import Gls.Proofs.Layout.Rendered
import Gls.Proofs.Output.Reports

namespace Gls

open Text

lemma eq_lastOffset_iff {n : UInt32} : n = lastOffset ↔ n.toNat = lastOffset.toNat :=
  UInt32.toNat_inj.symm

lemma toNat_le_lastOffset (n : UInt32) : n.toNat ≤ lastOffset.toNat :=
  Nat.le_of_lt_succ n.toNat_lt_size

namespace LineMap

/-! ### Texts with the fewest and with the most lines -/

/-- The text has no line break. -/
def OneLine (text : String) : Prop := '\n' ∉ text.toList ∧ '\r' ∉ text.toList

/-- The text is made of line breaks of one byte, one before each offset but the first.  LF comes
first in it, as CR and LF together would be one line break of two bytes. -/
def AllBreaks (text : String) : Prop :=
  ∃ lf cr, lf + cr = lastOffset.toNat ∧
    text.toList = List.replicate lf '\n' ++ List.replicate cr '\r'

lemma endsFrom_eq_nil_iff (pos : Nat) (cs : List Char) :
    endsFrom pos cs = [] ↔ '\n' ∉ cs ∧ '\r' ∉ cs := by
  fun_induction endsFrom pos cs with
  | case1 => simp
  | case2 | case3 | case4 => simp
  | case5 pos c cs _ hcr hlf ih =>
    have hlf : '\n' ≠ c := fun h => hlf h.symm
    have hcr : '\r' ≠ c := fun h => hcr h.symm
    rw [ih]
    simp [hlf, hcr]

/-- Every line end takes a byte of its own. -/
lemma length_endsFrom_le (pos : Nat) (cs : List Char) :
    (endsFrom pos cs).length ≤ byteLength cs := by
  have hlf : '\n'.utf8Size = 1 := rfl
  have hcr : '\r'.utf8Size = 1 := rfl
  fun_induction endsFrom pos cs with
  | case1 => exact Nat.le_refl _
  | case2 pos cs ih | case3 pos cs _ ih | case4 pos cs ih =>
    simp only [List.length_cons, byteLength, hlf, hcr]
    omega
  | case5 pos c cs _ _ _ ih =>
    rw [byteLength]
    omega

lemma length_endsFrom_replicate (pos lf cr : Nat) :
    (endsFrom pos (List.replicate lf '\n' ++ List.replicate cr '\r')).length = lf + cr := by
  induction lf generalizing pos with
  | zero =>
    rw [List.replicate_zero, List.nil_append, Nat.zero_add]
    induction cr generalizing pos with
    | zero => rfl
    | succ cr ih =>
      have hlone : ∀ cs, List.replicate cr '\r' = '\n' :: cs → False := by
        cases cr <;> simp [List.replicate_succ]
      rw [List.replicate_succ, endsFrom.eq_3 _ _ hlone, List.length_cons, ih]
  | succ lf ih =>
    rw [List.replicate_succ, List.cons_append, endsFrom, List.length_cons, ih, Nat.add_right_comm]

/-- Where lines end as often as there are bytes, each line break is one of a single byte. -/
lemma exists_of_length_endsFrom {pos : Nat} {cs : List Char}
    (h : byteLength cs ≤ (endsFrom pos cs).length) :
    ∃ lf cr, cs = List.replicate lf '\n' ++ List.replicate cr '\r' := by
  have hsizelf : '\n'.utf8Size = 1 := rfl
  have hsizecr : '\r'.utf8Size = 1 := rfl
  fun_induction endsFrom pos cs with
  | case1 => exact ⟨0, 0, rfl⟩
  | case2 pos cs =>
    have := length_endsFrom_le (pos + 2) cs
    simp only [List.length_cons, byteLength, hsizelf, hsizecr] at h
    omega
  | case3 pos cs hlone ih =>
    simp only [List.length_cons, byteLength, hsizecr] at h
    obtain ⟨lf, cr, rfl⟩ := ih (by omega)
    cases lf with
    | zero => exact ⟨0, cr + 1, rfl⟩
    | succ lf => exact absurd rfl (hlone _)
  | case4 pos cs ih =>
    simp only [List.length_cons, byteLength, hsizelf] at h
    obtain ⟨lf, cr, rfl⟩ := ih (by omega)
    exact ⟨lf + 1, cr, rfl⟩
  | case5 pos c cs =>
    have := length_endsFrom_le (pos + c.utf8Size) cs
    have := c.utf8Size_pos
    rw [byteLength] at h
    omega

section Sized

variable {text : String} (hsize : byteLength text.toList < UInt32.size)
include hsize

/-- By the last offset all lines of the text have ended. -/
lemma endedLines_lastOffset :
    endedLines text lastOffset.toNat = (endsFrom 0 text.toList).length := by
  rw [← countP_ends, List.countP_eq_length]
  intro stop hstop
  have := ((pairwise_endsFrom 0 text.toList).2 stop hstop).2
  have : lastOffset.toNat + 1 = UInt32.size := rfl
  simp only [decide_eq_true_eq]
  omega

lemma endedLines_lastOffset_eq_iff :
    endedLines text lastOffset.toNat = lastOffset.toNat ↔ AllBreaks text := by
  rw [endedLines_lastOffset hsize]
  constructor
  · intro hlength
    have hbytes : byteLength text.toList ≤ (endsFrom 0 text.toList).length :=
      hlength ▸ Nat.le_of_lt_succ hsize
    obtain ⟨lf, cr, htext⟩ := exists_of_length_endsFrom hbytes
    rw [htext, length_endsFrom_replicate] at hlength
    exact ⟨lf, cr, hlength, htext⟩
  · rintro ⟨lf, cr, hsum, htext⟩
    rw [htext, length_endsFrom_replicate, hsum]

lemma lastEnd_lastOffset_eq_zero_iff : lastEnd text lastOffset.toNat = 0 ↔ OneLine text := by
  rw [OneLine, ← endsFrom_eq_nil_iff 0, List.eq_nil_iff_forall_not_mem, lastEnd,
    Nat.findGreatest_eq_zero_iff]
  constructor
  · intro hnone stop hstop
    have hbounds := (pairwise_endsFrom 0 text.toList).2 stop hstop
    have : lastOffset.toNat + 1 = UInt32.size := rfl
    exact hnone hbounds.1 (by omega) (mem_ends.1 hstop)
  · intro hnone stop _ _ hend
    exact hnone stop (mem_ends.2 hend)

/-! ### Positions at the largest number -/

/-- The line of an offset is the largest number only at the last offset of a text of line breaks. -/
lemma line_position_eq_last_iff (offset : UInt32) :
    ((build text).position offset).line = lastOffset ↔ offset = lastOffset ∧ AllBreaks text := by
  have hline := (position_build hsize offset).1
  have hle := endedLines_le text offset.toNat
  have hlast := toNat_le_lastOffset offset
  rw [eq_lastOffset_iff, hline, ← endedLines_lastOffset_eq_iff hsize]
  constructor
  · intro heq
    obtain rfl : offset = lastOffset := eq_lastOffset_iff.2 (by omega)
    exact ⟨rfl, heq⟩
  · rintro ⟨rfl, heq⟩
    exact heq

/-- The column of an offset is the largest number only at the last offset of a single line. -/
lemma character_position_eq_last_iff (offset : UInt32) :
    ((build text).position offset).character = lastOffset ↔
      offset = lastOffset ∧ OneLine text := by
  have hcharacter := (position_build hsize offset).2
  have hlast := toNat_le_lastOffset offset
  rw [eq_lastOffset_iff, ← lastEnd_lastOffset_eq_zero_iff hsize]
  constructor
  · intro heq
    obtain rfl : offset = lastOffset := eq_lastOffset_iff.2 (by omega)
    exact ⟨rfl, by omega⟩
  · rintro ⟨rfl, hzero⟩
    omega

/-- The line of an offset is a line of the map, and begins where the last line has ended. -/
lemma exists_start_lineOf (offset : UInt32) :
    ∃ start, (build text).starts[(build text).lineOf offset]? = some start ∧
      start.toNat = lastEnd text offset.toNat := by
  obtain ⟨line, hline, hlt, -⟩ := exists_divided hsize offset
  have hlt : (build text).lineOf offset < (build text).starts.size := by
    rw [hline]
    simpa [build] using hlt
  refine ⟨_, Array.getElem?_eq_getElem hlt, ?_⟩
  rw [← (lineOf_build hsize offset).2, Array.getD_eq_getD_getElem?, Array.getElem?_eq_getElem hlt,
    Option.getD_some]

end Sized

end LineMap

open LineMap

namespace ComplaintReport

/-! ### Reports -/

/-- The report is about the complaint, and counts from one: its line and its column are those of the
complaint and one, and lead back to where it begins from where the line begins. -/
structure Counts (r : DocumentResult) (c : Complaint) (report : ComplaintReport) : Prop where
  file : report.file = r.displayName
  reason : report.reason = c.reason
  line : report.line.toNat = ((build r.sourceText).position c.range.start).line.toNat + 1
  column : report.column.toNat = ((build r.sourceText).position c.range.start).character.toNat + 1
  leads : ∃ start, (build r.sourceText).starts[report.line.toNat - 1]? = some start ∧
    start.toNat + (report.column.toNat - 1) = c.range.start.toNat

section Document

variable {r : DocumentResult} (hsize : byteLength r.sourceText.toList < UInt32.size)
include hsize

lemma counts_of_ofComplaint? {c : Complaint} {report : ComplaintReport}
    (h : ofComplaint? r.displayName (build r.sourceText) c = some report) :
    Counts r c report := by
  obtain ⟨hfile, hreason, hline, hcolumn⟩ := ofComplaint?_eq_some_iff.1 h
  obtain ⟨hended, hcharacter⟩ := position_build hsize c.range.start
  obtain ⟨start, hstart, hlast⟩ := exists_start_lineOf hsize c.range.start
  refine ⟨hfile, hreason, hline, hcolumn, start, ?_, ?_⟩
  · rw [hline, Nat.add_sub_cancel, hended, ← (lineOf_build hsize _).1, hstart]
  · rw [hcolumn, Nat.add_sub_cancel, hlast, hcharacter]

/-- A document is not reported when one of its complaints is at the last offset, and all of the text
before it is a single line, or nothing but line breaks. -/
lemma ofResult?_eq_none_iff : ofResult? r = none ↔
    ∃ c ∈ r.output.complaints,
      c.range.start = lastOffset ∧ (OneLine r.sourceText ∨ AllBreaks r.sourceText) := by
  simp only [ofResult?_eq fun _ => hsize, mapM_eq_none_iff, (perm_inOrder _).mem_iff,
    ofComplaint?_eq_none_iff, line_position_eq_last_iff hsize,
    character_position_eq_last_iff hsize, and_or_left, or_comm]

lemma counts_of_ofResult? {reports : List ComplaintReport} (h : ofResult? r = some reports) :
    ∃ cs : List Complaint, cs.Perm r.output.complaints ∧ List.Forall₂ (Counts r) cs reports := by
  rw [ofResult?_eq fun _ => hsize, mapM_eq_some_iff] at h
  exact ⟨_, perm_inOrder _, h.imp fun c report => counts_of_ofComplaint? hsize⟩

end Document

end ComplaintReport

open ComplaintReport

/-- The line of an offset cannot be counted from one when the offset is the last and all before it
are line breaks, and the column cannot when the offset is the last and there is a single line.  If
one of the complaints is at such an offset there is no report; else there is one report for each
complaint of each document, in the order of the documents.  It counts from one, and leads back to
where the complaint begins. -/
theorem reports_count_from_one_iff (results : List DocumentResult)
    (hsize : ∀ r ∈ results, byteLength r.sourceText.toList < UInt32.size) :
    (∀ r ∈ results, ∀ offset : UInt32,
      (fromOne? ((build r.sourceText).position offset).line = none ↔
        offset = lastOffset ∧ AllBreaks r.sourceText) ∧
      (fromOne? ((build r.sourceText).position offset).character = none ↔
        offset = lastOffset ∧ OneLine r.sourceText)) ∧
    (collect? results = none ↔ ∃ r ∈ results, ∃ c ∈ r.output.complaints,
      c.range.start = lastOffset ∧ (OneLine r.sourceText ∨ AllBreaks r.sourceText)) ∧
    ∀ reports, collect? results = some reports → ∃ parts : List (List ComplaintReport),
      parts.flatten = reports ∧
      List.Forall₂ (fun r part => ∃ cs : List Complaint, cs.Perm r.output.complaints ∧
        List.Forall₂ (Counts r) cs part) results parts := by
  refine ⟨fun r hr offset => ⟨?_, ?_⟩, ?_, fun reports hreports => ?_⟩
  · rw [fromOne?_eq_none_iff, line_position_eq_last_iff (hsize r hr)]
  · rw [fromOne?_eq_none_iff, character_position_eq_last_iff (hsize r hr)]
  · rw [collect?_eq_none_iff]
    exact exists_congr fun r => and_congr_right fun hr => ofResult?_eq_none_iff (hsize r hr)
  · obtain ⟨parts, hparts, rfl⟩ := Option.map_eq_some_iff.1 hreports
    refine ⟨parts, rfl, ?_⟩
    exact ((List.forall₂_and_left _ _).2 ⟨hsize, mapM_eq_some_iff.1 hparts⟩).imp
      fun r part hr => counts_of_ofResult? hr.1 hr.2

/-- A statement that has no counterpart, at any place in or past a text. -/
def debuggerAt (text : String) (start : UInt32) : Document where
  fileName := "a.ts"
  arena := {
    sourceText := text
    nodes := #[
      { kind := .debuggerStatement, pos := start, stop := start },
      { kind := .sourceFile, pos := 0, stop := start, payload := .list [⟨0⟩] }] }
  root := ⟨1⟩

/-- What the statement comes to. -/
def debuggerOutput (start : UInt32) : TransformOutput where
  complaints := [⟨⟨start, start⟩, "debugger statement is not supported"⟩]

/-- A complaint may begin at any offset, whatever the text is. -/
lemma transform_debuggerAt (text : String) (start : UInt32) :
    (debuggerAt text start).transform Catalog.builtin {} = .ok (debuggerOutput start) := by
  have hreason : Casing.words Kind.debuggerStatement.name ++ " is not supported"
      = "debugger statement is not supported" := by decide +kernel
  rw [debuggerOutput, ← hreason]
  rfl

/-- The result of the statement at the last offset. -/
def farResult (text : String) : DocumentResult :=
  resultOf (debuggerAt text lastOffset) (debuggerOutput lastOffset)

/-- A line that has ended before the last offset leaves room for the column. -/
theorem far_reports_count :
    (∀ r ∈ [farResult "debugger;\n"], byteLength r.sourceText.toList < UInt32.size) ∧
    ∃ report, collect? [farResult "debugger;\n"] = some [report] ∧
      Counts (farResult "debugger;\n")
        ⟨⟨lastOffset, lastOffset⟩, "debugger statement is not supported"⟩ report := by
  have hsize : ∀ r ∈ [farResult "debugger;\n"], byteLength r.sourceText.toList < UInt32.size := by
    decide
  obtain ⟨-, hnone, hcounts⟩ := reports_count_from_one_iff _ hsize
  cases hreports : collect? [farResult "debugger;\n"] with
  | none =>
    obtain ⟨r, hr, c, -, -, hone | ⟨lf, cr, -, htext⟩⟩ := hnone.1 hreports
    · obtain rfl := List.mem_singleton.1 hr
      exact absurd hone.1 (by decide)
    · obtain rfl := List.mem_singleton.1 hr
      have hletter : 'd' ∈ (farResult "debugger;\n").sourceText.toList := by decide
      rw [htext] at hletter
      simp at hletter
  | some reports =>
    -- The one document has one complaint, and so one report.
    obtain ⟨parts, rfl, hparts⟩ := hcounts reports hreports
    obtain _ | ⟨⟨cs, hcs, hpart⟩, _ | _⟩ := hparts
    obtain rfl := List.perm_singleton.1 hcs
    obtain _ | ⟨hreport, _ | _⟩ := hpart
    exact ⟨hsize, _, rfl, hreport⟩

/-- The complaint at the last offset of a single line is not reported, although the text is
short. -/
theorem last_offset_not_reported :
    byteLength (farResult "debugger;").sourceText.toList < UInt32.size ∧
    (debuggerAt "debugger;" lastOffset).transform Catalog.builtin {}
      = .ok (debuggerOutput lastOffset) ∧
    collect? [farResult "debugger;"] = none :=
  ⟨by decide, transform_debuggerAt _ _, by decide +kernel⟩

end Gls
