/-
# What a report says of the complaints

Complaints come in the order in which a tree is visited, which need not be that of the source text.
A report has them all, once each, in the order of their places, and among those that begin together
it keeps the order in which they came.  `Accounts` says this of one document without the sorting.

Lines and columns follow from the line map: positions grow with the offset, so what is ordered by
offset is ordered by line and column.  The map holds offsets in 32 bits.  A text that 32 bits cannot
address may have a line whose start overflows, and then nothing is reported of any document.
-/
import Gls.Cli.Report
import Gls.Proofs.Text.Lines
import Mathlib.Data.List.Forall2

namespace Gls

open LineMap Text

/-! ### Lists through a partial function -/

section Partial

variable {α β : Type} {f : α → Option β} {xs : List α} {ys : List β}

lemma mapM_eq_some_iff :
    xs.mapM f = some ys ↔ List.Forall₂ (fun x y => f x = some y) xs ys := by
  induction xs generalizing ys with
  | nil =>
    rw [List.mapM_nil, List.forall₂_nil_left_iff]
    exact Option.some_inj.trans eq_comm
  | cons x xs ih =>
    simp only [List.mapM_cons, List.forall₂_cons_left_iff, Option.bind_eq_bind,
      Option.bind_eq_some_iff, Option.pure_def, Option.some.injEq, ih]
    constructor
    · rintro ⟨y, hy, ys, hys, rfl⟩
      exact ⟨y, ys, hy, hys, rfl⟩
    · rintro ⟨y, ys, hy, hys, rfl⟩
      exact ⟨y, hy, ys, hys, rfl⟩

/-- The function gives nothing for a list when it gives nothing for one of the elements. -/
lemma mapM_eq_none_iff : xs.mapM f = none ↔ ∃ x ∈ xs, f x = none := by
  induction xs with
  | nil => simp
  | cons x xs ih =>
    rw [List.mapM_cons, List.exists_mem_cons_iff, ← ih]
    cases f x <;> cases xs.mapM f <;> simp

lemma exists_mapM (h : ∀ x ∈ xs, ∃ y, f x = some y) : ∃ ys, xs.mapM f = some ys := by
  refine Option.ne_none_iff_exists'.1 fun hnone => ?_
  obtain ⟨x, hx, hfx⟩ := mapM_eq_none_iff.1 hnone
  obtain ⟨y, hy⟩ := h x hx
  cases hfx.symm.trans hy

/-- Of lists that are related in order, the one is in order where the other is. -/
lemma pairwise_of_forall₂ {R : α → β → Prop} {P : α → α → Prop} {Q : β → β → Prop}
    (h : List.Forall₂ R xs ys) (hxs : xs.Pairwise P)
    (hpq : ∀ {x x' y y'}, R x y → R x' y' → P x x' → Q y y') : ys.Pairwise Q := by
  have hlength := h.length_eq
  refine List.pairwise_iff_getElem.2 fun i j hi hj hij => ?_
  have hi' : i < xs.length := hlength ▸ hi
  have hj' : j < xs.length := hlength ▸ hj
  exact hpq (h.get hi' hi) (h.get hj' hj) (List.pairwise_iff_getElem.1 hxs i j hi' hj' hij)

end Partial

/-- The last offset that 32 bits can hold. -/
def lastOffset : UInt32 := 4294967295

namespace ComplaintReport

/-! ### Complaints in order -/

/-- The complaint begins no later than the other. -/
def startsBy (c d : Complaint) : Bool := c.range.start ≤ d.range.start

lemma startsBy_trans (c d e : Complaint) (hcd : startsBy c d = true) (hde : startsBy d e = true) :
    startsBy c e = true := by
  simp only [startsBy, decide_eq_true_eq] at *
  exact UInt32.le_trans hcd hde

lemma startsBy_total (c d : Complaint) : (startsBy c d || startsBy d c) = true := by
  simp only [startsBy, Bool.or_eq_true, decide_eq_true_eq]
  exact UInt32.le_total _ _

variable (cs : List Complaint)

lemma perm_inOrder : (inOrder cs).Perm cs := List.mergeSort_perm cs startsBy

lemma pairwise_inOrder : (inOrder cs).Pairwise fun c d => c.range.start ≤ d.range.start := by
  have h : (inOrder cs).Pairwise fun c d => startsBy c d = true :=
    List.pairwise_mergeSort startsBy_trans startsBy_total cs
  exact h.imp fun hcd => by simpa [startsBy] using hcd

/-- Complaints that begin together stay as they are. -/
lemma filter_inOrder (start : UInt32) :
    (inOrder cs).filter (·.range.start = start) = cs.filter (·.range.start = start) := by
  -- They are in order already, so the sort keeps them; and by their number there are no others.
  have hsorted : (cs.filter (·.range.start = start)).Pairwise fun c d => startsBy c d = true := by
    refine List.Pairwise.imp_of_mem (R := fun _ _ => True) (fun hc hd _ => ?_)
      (List.pairwise_of_forall fun _ _ => trivial)
    have hc := List.of_mem_filter hc
    have hd := List.of_mem_filter hd
    simp only [decide_eq_true_eq] at hc hd
    simp [startsBy, hc, hd]
  have hkept : (cs.filter (·.range.start = start)).Sublist (inOrder cs) :=
    List.sublist_mergeSort startsBy_trans startsBy_total hsorted List.filter_sublist
  have hlength := ((perm_inOrder cs).filter (·.range.start = start)).length_eq
  refine (List.Sublist.eq_of_length ?_ hlength.symm).symm
  simpa [List.filter_filter] using hkept.filter (·.range.start = start)

/-! ### Counting from one -/

lemma fromOne?_eq_some_iff {n m : UInt32} : fromOne? n = some m ↔ m.toNat = n.toNat + 1 := by
  unfold fromOne?
  split_ifs with hfit
  · have hsum : (n + 1).toNat = n.toNat + 1 := by
      rw [UInt32.toNat_add, UInt32.toNat_one, Nat.mod_eq_of_lt hfit]
    rw [Option.some_inj, ← UInt32.toNat_inj, hsum]
    exact eq_comm
  · have := m.toNat_lt_size
    simp only [false_iff]
    omega

lemma fromOne?_eq_none_iff {n : UInt32} : fromOne? n = none ↔ n = lastOffset := by
  have hsize : UInt32.size = lastOffset.toNat + 1 := rfl
  have := n.toNat_lt_size
  unfold fromOne?
  rw [← UInt32.toNat_inj]
  split_ifs with hfit
  · simp only [false_iff]
    omega
  · simp only [true_iff]
    omega

lemma ofComplaint?_eq_some_iff {file : String} {lines : LineMap} {c : Complaint}
    {report : ComplaintReport} : ofComplaint? file lines c = some report ↔
      report.file = file ∧ report.reason = c.reason ∧
      report.line.toNat = (lines.position c.range.start).line.toNat + 1 ∧
      report.column.toNat = (lines.position c.range.start).character.toNat + 1 := by
  simp only [ofComplaint?, Option.bind_eq_bind, Option.bind_eq_some_iff, Option.pure_def,
    Option.some.injEq, fromOne?_eq_some_iff]
  constructor
  · rintro ⟨line, hline, column, hcolumn, rfl⟩
    exact ⟨rfl, rfl, hline, hcolumn⟩
  · rintro ⟨rfl, hreason, hline, hcolumn⟩
    exact ⟨_, hline, _, hcolumn, by rw [← hreason]⟩

lemma ofComplaint?_eq_none_iff {file : String} {lines : LineMap} {c : Complaint} :
    ofComplaint? file lines c = none ↔ (lines.position c.range.start).line = lastOffset ∨
      (lines.position c.range.start).character = lastOffset := by
  rw [← fromOne?_eq_none_iff, ← fromOne?_eq_none_iff, ofComplaint?]
  cases fromOne? (lines.position c.range.start).line <;>
    cases fromOne? (lines.position c.range.start).character <;> simp

/-! ### Reports of a document -/

/-- The report is about the complaint: it names the file and the reason, and gives the position of
where the complaint begins, counted from one. -/
structure Reports (r : DocumentResult) (c : Complaint) (report : ComplaintReport) : Prop where
  file : report.file = r.displayName
  reason : report.reason = c.reason
  line : report.line.toNat = endedLines r.sourceText c.range.start.toNat + 1
  column : lastEnd r.sourceText c.range.start.toNat + report.column.toNat
    = c.range.start.toNat + 1

/-- The report is at the position of the other, or at an earlier one. -/
def AtOrBefore (a b : ComplaintReport) : Prop :=
  a.line < b.line ∨ a.line = b.line ∧ a.column ≤ b.column

/-- The reports tell of all complaints of a document: one report for each of them, in the order in
which they begin. -/
structure Accounts (r : DocumentResult) (reports : List ComplaintReport) : Prop where
  complete : ∃ cs : List Complaint, cs.Perm r.output.complaints ∧
    cs.Pairwise (fun c d => c.range.start ≤ d.range.start) ∧
    (∀ start, cs.filter (·.range.start = start)
      = r.output.complaints.filter (·.range.start = start)) ∧
    List.Forall₂ (Reports r) cs reports
  reasons : (reports.map ComplaintReport.reason).Perm (r.output.complaints.map Complaint.reason)
  ordered : reports.Pairwise AtOrBefore

section Document

variable {r : DocumentResult} {c d : Complaint}

/-- Reports of complaints in order are in order. -/
lemma Reports.atOrBefore {a b : ComplaintReport} (ha : Reports r c a) (hb : Reports r d b)
    (hle : c.range.start ≤ d.range.start) : AtOrBefore a b := by
  have hline := ha.line
  have hline' := hb.line
  have hcolumn := ha.column
  have hcolumn' := hb.column
  rw [UInt32.le_iff_toNat_le] at hle
  simp only [AtOrBefore, UInt32.lt_iff_toNat_lt, UInt32.le_iff_toNat_le, ← UInt32.toNat_inj]
  rcases endedLines_lt_or r.sourceText hle with hlt | ⟨heq, hlast⟩
  · exact .inl (by omega)
  · exact .inr (by omega)

lemma reports_of_ofComplaint? (hsize : byteLength r.sourceText.toList < UInt32.size)
    {report : ComplaintReport}
    (h : ofComplaint? r.displayName (build r.sourceText) c = some report) :
    Reports r c report := by
  obtain ⟨hfile, hreason, hline, hcolumn⟩ := ofComplaint?_eq_some_iff.1 h
  obtain ⟨hended, hcharacter⟩ := position_build hsize c.range.start
  exact ⟨hfile, hreason, by rw [hline, hended], by omega⟩

/-- Before the last offset neither the line nor the column overflows. -/
lemma exists_ofComplaint? (hsize : byteLength r.sourceText.toList < UInt32.size)
    (hstart : c.range.start.toNat < UInt32.size - 1) :
    ∃ report, ofComplaint? r.displayName (build r.sourceText) c = some report := by
  have hlast : lastOffset.toNat = UInt32.size - 1 := rfl
  obtain ⟨hended, hcharacter⟩ := position_build hsize c.range.start
  have hle := endedLines_le r.sourceText c.range.start.toNat
  refine Option.ne_none_iff_exists'.1 fun hnone => ?_
  rw [ofComplaint?_eq_none_iff, ← UInt32.toNat_inj, ← UInt32.toNat_inj] at hnone
  omega

section Addressed

variable (hsize : r.output.complaints ≠ [] → byteLength r.sourceText.toList < UInt32.size)
include hsize

/-- Where the text is one that 32 bits can address, only a position in it can overflow. -/
lemma ofResult?_eq : ofResult? r =
    (inOrder r.output.complaints).mapM (ofComplaint? r.displayName (build r.sourceText)) := by
  unfold ofResult?
  split_ifs with hempty
  · rw [List.isEmpty_iff.1 hempty, inOrder, List.mergeSort_nil, List.mapM_nil]
    rfl
  · rw [build?_eq_some (hsize fun hnil => hempty (List.isEmpty_iff.2 hnil)), Option.bind_eq_bind,
      Option.bind_some]

lemma size_of_mem_inOrder : ∀ c ∈ inOrder r.output.complaints,
    byteLength r.sourceText.toList < UInt32.size := fun _ hc =>
  hsize (List.ne_nil_of_mem ((perm_inOrder _).mem_iff.1 hc))

lemma exists_ofResult?
    (hstart : ∀ c ∈ r.output.complaints, c.range.start.toNat < UInt32.size - 1) :
    ∃ reports, ofResult? r = some reports := by
  rw [ofResult?_eq hsize]
  exact exists_mapM fun c hc => exists_ofComplaint? (size_of_mem_inOrder hsize c hc)
    (hstart c ((perm_inOrder _).mem_iff.1 hc))

lemma accounts_of_ofResult? {reports : List ComplaintReport} (h : ofResult? r = some reports) :
    Accounts r reports := by
  rw [ofResult?_eq hsize, mapM_eq_some_iff] at h
  have hreports : List.Forall₂ (Reports r) (inOrder r.output.complaints) reports :=
    ((List.forall₂_and_left _ _).2 ⟨size_of_mem_inOrder hsize, h⟩).imp fun c report hc =>
      reports_of_ofComplaint? hc.1 hc.2
  have hreasons : (inOrder r.output.complaints).map Complaint.reason
      = reports.map ComplaintReport.reason := by
    rw [← List.forall₂_eq_eq_eq, List.forall₂_map_left_iff, List.forall₂_map_right_iff]
    exact hreports.imp fun c report hc => hc.reason.symm
  exact {
    complete := ⟨_, perm_inOrder _, pairwise_inOrder _, filter_inOrder _, hreports⟩
    reasons := hreasons ▸ (perm_inOrder _).map Complaint.reason
    ordered := pairwise_of_forall₂ hreports (pairwise_inOrder _) Reports.atOrBefore }

end Addressed

end Document

lemma collect?_eq_none_iff {results : List DocumentResult} :
    collect? results = none ↔ ∃ r ∈ results, ofResult? r = none := by
  rw [collect?, Option.map_eq_none_iff, mapM_eq_none_iff]

end ComplaintReport

open ComplaintReport

/-- Where 32 bits can address the text of every document that has complaints, the reports are those
of each document in turn, one for each complaint.  Within a document they are in the order of lines
and columns, and those of complaints that begin together in the order in which these came; each one
is at the position of its complaint, counted from one. -/
theorem reports_complete_and_ordered (results : List DocumentResult)
    (hsize : ∀ r ∈ results, r.output.complaints ≠ [] →
      byteLength r.sourceText.toList < UInt32.size)
    (hstart : ∀ r ∈ results, ∀ c ∈ r.output.complaints,
      c.range.start.toNat < UInt32.size - 1) :
    ∃ parts : List (List ComplaintReport),
      collect? results = some parts.flatten ∧ List.Forall₂ Accounts results parts := by
  obtain ⟨parts, hparts⟩ := exists_mapM fun r hr => exists_ofResult? (hsize r hr) (hstart r hr)
  refine ⟨parts, by rw [collect?, hparts, Option.map_some], ?_⟩
  exact ((List.forall₂_and_left _ _).2 ⟨hsize, mapM_eq_some_iff.1 hparts⟩).imp fun r part hr =>
    accounts_of_ofResult? hr.1 hr.2

/-- A document whose complaints come out of order, two of them about one place. -/
def lateResult : DocumentResult where
  path := ⟨"a.tsgls.json"⟩
  fileName := "src/a.ts"
  sourceText := "a\r\nbb cc\n"
  output := { complaints := [⟨⟨6, 8⟩, "second"⟩, ⟨⟨0, 1⟩, "first"⟩, ⟨⟨6, 7⟩, "third"⟩] }

theorem late_complaints_reported :
    (∀ r ∈ [lateResult], r.output.complaints ≠ [] →
      byteLength r.sourceText.toList < UInt32.size) ∧
    (∀ r ∈ [lateResult], ∀ c ∈ r.output.complaints, c.range.start.toNat < UInt32.size - 1) ∧
    ∃ reports, collect? [lateResult] = some reports ∧ Accounts lateResult reports := by
  have hsize : ∀ r ∈ [lateResult], r.output.complaints ≠ [] →
      byteLength r.sourceText.toList < UInt32.size := by
    decide
  have hstart : ∀ r ∈ [lateResult], ∀ c ∈ r.output.complaints,
      c.range.start.toNat < UInt32.size - 1 := by
    decide
  obtain ⟨parts, hparts, haccounts⟩ := reports_complete_and_ordered [lateResult] hsize hstart
  obtain ⟨part, rest, hpart, hrest, rfl⟩ := List.forall₂_cons_left_iff.1 haccounts
  rw [List.forall₂_nil_left_iff.1 hrest, List.flatten_cons, List.flatten_nil,
    List.append_nil] at hparts
  exact ⟨hsize, hstart, part, hparts, hpart⟩

/-- A document of one line that ends after so many letters, with a complaint at its start. -/
def longResult (letters : Nat) : DocumentResult where
  path := ⟨"a.tsgls.json"⟩
  fileName := "a.ts"
  sourceText := String.ofList (List.replicate letters 'a' ++ ['\n'])
  output := { complaints := [⟨⟨0, 1⟩, "first"⟩] }

lemma endsFrom_letters (pos letters : Nat) :
    endsFrom pos (List.replicate letters 'a' ++ ['\n']) = [pos + letters + 1] := by
  induction letters generalizing pos with
  | zero => rfl
  | succ letters ih =>
    rw [List.replicate_succ, List.cons_append, endsFrom.eq_5 _ _ _ (by simp) (by simp) (by simp),
      ih, Nat.add_right_comm pos]
    rfl

/-- The line ends one past the last offset, and although the complaint is at the start of the text,
it is not reported. -/
theorem long_line_not_reported :
    (∀ r ∈ [longResult lastOffset.toNat], ∀ c ∈ r.output.complaints,
      c.range.start.toNat < UInt32.size - 1) ∧
    collect? [longResult lastOffset.toNat] = none := by
  constructor
  · intro r hr c hc
    obtain rfl := List.mem_singleton.1 hr
    obtain rfl := List.mem_singleton.1 hc
    decide
  · refine collect?_eq_none_iff.2 ⟨_, List.mem_singleton_self _, ?_⟩
    have hbuild : build? (longResult lastOffset.toNat).sourceText = none := by
      rw [build?, longResult, String.toList_ofList, endsFrom_letters]
      rfl
    rw [ofResult?, hbuild]
    rfl

end Gls
