/-
# The line and the column of an offset

A line map is filled by one scan of the text, which takes CR LF in one step, and it is read by
bisection.  This file says what it answers without either.  Whether a line ends at an offset can be
seen from two bytes next to it; an offset is on the line whose number is how many lines have ended
by then, and as far into that line as it is past the last of these ends.  So a later offset has a
later position.

The scan is compared with the ends character by character: all ends within the bytes of a character
are those that the scan finds there.  The bisection is known by the one place in the sorted starts
that it finds.
-/
import Gls.Proofs.Text.CommentBytes
import Gls.Text.LineMap
import Mathlib.Data.List.GetD
import Mathlib.Data.Nat.Count
import Mathlib.Data.Nat.Find

namespace Gls

open CommentRange CommentRange.Bytes Text

/-- The position is on an earlier line, or earlier on the same line. -/
def Position.Before (p q : Position) : Prop :=
  p.line < q.line ∨ p.line = q.line ∧ p.character < q.character

lemma Position.not_before_self (p : Position) : ¬ p.Before p := by
  rintro (h | ⟨-, h⟩)
  · exact UInt32.lt_irrefl _ h
  · exact UInt32.lt_irrefl _ h

namespace LineMap

/-! ### Where lines end -/

/-- In these bytes a line ends at the offset: LF stands before it, or CR without LF after it. -/
def endsLine (bytes : ByteArray) : Nat → Bool
  | 0 => false
  | i + 1 => bytes[i]? == some '\n'.toUInt8 ||
      bytes[i]? == some '\r'.toUInt8 && !(bytes[i + 1]? == some '\n'.toUInt8)

/-- A line of the text ends at the offset. -/
def EndsLine (text : String) (offset : Nat) : Prop := endsLine text.toUTF8 offset = true

instance (text : String) : DecidablePred (EndsLine text) :=
  fun offset => inferInstanceAs (Decidable (endsLine text.toUTF8 offset = true))

/-- How many lines of the text have ended by the offset. -/
def endedLines (text : String) (offset : Nat) : Nat := Nat.count (EndsLine text) (offset + 1)

/-- Where the last line to end by the offset has ended; zero when there is none. -/
def lastEnd (text : String) (offset : Nat) : Nat := Nat.findGreatest (EndsLine text) offset

/-- No line ends at the start of a text. -/
lemma endedLines_le (text : String) (offset : Nat) : endedLines text offset ≤ offset := by
  have hzero : ¬ EndsLine text 0 := Bool.false_ne_true
  rw [endedLines, Nat.count_succ', if_neg hzero]
  exact Nat.count_le _

/-- Where no further line ends, the last end stays the same. -/
lemma lastEnd_eq {text : String} {offset offset' : Nat} (hle : offset ≤ offset')
    (hended : endedLines text offset = endedLines text offset') :
    lastEnd text offset = lastEnd text offset' := by
  obtain ⟨-, hlast, hnone⟩ := Nat.findGreatest_eq_iff.1 (Eq.refl (lastEnd text offset'))
  refine Nat.findGreatest_eq_iff.2 ⟨?_, hlast, fun stop hlow hhigh => hnone hlow (by omega)⟩
  by_contra hlater
  have hend := hlast (by omega)
  have : lastEnd text offset' ≤ offset' := Nat.findGreatest_le _
  have : endedLines text offset < endedLines text offset' :=
    calc Nat.count (EndsLine text) (offset + 1)
      _ ≤ Nat.count (EndsLine text) (lastEnd text offset') := Nat.count_monotone _ (by omega)
      _ < Nat.count (EndsLine text) (offset' + 1) := Nat.count_strict_mono hend (by omega)
  omega

/-- Of two offsets, the later one is on a later line, or both are on a line that begins at one
place. -/
lemma endedLines_lt_or (text : String) {offset offset' : Nat} (hle : offset ≤ offset') :
    endedLines text offset < endedLines text offset' ∨
      endedLines text offset = endedLines text offset' ∧
      lastEnd text offset = lastEnd text offset' := by
  have hmono : endedLines text offset ≤ endedLines text offset' :=
    Nat.count_monotone _ (by omega)
  rcases Nat.lt_or_eq_of_le hmono with hlt | heq
  · exact .inl hlt
  · exact .inr ⟨heq, lastEnd_eq hle heq⟩

variable {bytes : ByteArray} {pos stop : Nat} {c : Char} {cs : List Char}

/-- Within the bytes of a character a line ends at most after the last of them. -/
lemma endsLine_iff (h : Reads bytes pos (c :: cs)) (hlow : pos < stop)
    (hhigh : stop ≤ pos + c.utf8Size) :
    endsLine bytes stop = true ↔
      stop = pos + c.utf8Size ∧ (c = '\n' ∨ c = '\r' ∧ cs.head? ≠ some '\n') := by
  obtain ⟨i, rfl⟩ := Nat.exists_eq_add_of_lt hlow
  obtain ⟨-, -, hnext, hfurther⟩ := h.cons
  cases i with
  | zero =>
    have hfirst : ∀ s, IsAscii s → (bytes[pos]? == some s.toUInt8) = (c == s) := fun s hs => by
      rw [h.getElem?_beq hs]
      rfl
    -- A line break takes one byte, so the byte after it is that of the next character.
    have hlf : '\n'.utf8Size = 1 := rfl
    have hcr : '\r'.utf8Size = 1 := rfl
    simp only [Nat.add_zero, endsLine, hfirst _ (show IsAscii '\n' by decide),
      hfirst _ (show IsAscii '\r' by decide), Bool.or_eq_true, Bool.and_eq_true, beq_iff_eq]
    constructor
    · rintro (rfl | ⟨rfl, hlone⟩)
      · exact ⟨by rw [hlf], .inl rfl⟩
      · have hnext : Reads bytes (pos + 1) cs := hnext
        rw [hnext.getElem?_beq (by decide)] at hlone
        exact ⟨by rw [hcr], .inr ⟨rfl, by simpa using hlone⟩⟩
    · rintro ⟨-, rfl | ⟨rfl, hlone⟩⟩
      · exact .inl rfl
      · have hnext : Reads bytes (pos + 1) cs := hnext
        rw [hnext.getElem?_beq (by decide)]
        exact .inr ⟨rfl, by simpa using hlone⟩
  | succ i =>
    -- No further byte of a character is that of a line break.
    obtain ⟨hi, hbyte⟩ := hfurther (pos + (i + 1)) (by omega) (by omega)
    have hother : ∀ s : Char, IsAscii s → (bytes[pos + (i + 1)]? == some s.toUInt8) = false := by
      intro s hs
      rw [getElem?_pos bytes _ hi]
      refine beq_eq_false_iff_ne.2 fun heq => ?_
      have := congrArg UInt8.toNat (Option.some.inj heq)
      rw [toUInt8_toNat hs] at this
      rw [IsAscii] at hs
      omega
    simp only [endsLine, hother _ (show IsAscii '\n' by decide),
      hother _ (show IsAscii '\r' by decide), Bool.false_and, Bool.or_false, Bool.false_eq_true,
      false_iff, not_and, not_or]
    intro hstop
    have hsize : ¬ c.utf8Size = 1 := by omega
    exact ⟨fun hc => hsize (hc ▸ rfl), fun hc => absurd (hc ▸ rfl) hsize⟩

lemma endsLine_of_nil (h : Reads bytes pos []) (hlow : pos < stop) :
    endsLine bytes stop = false := by
  obtain ⟨i, rfl⟩ := Nat.exists_eq_add_of_lt hlow
  have hnone : bytes[pos + i]? = none := getElem?_neg bytes _ (by rw [h.nil]; omega)
  simp [endsLine, hnone]

/-- An end past the offset of a character is the one after it, or comes later. -/
lemma endsLine_cons (h : Reads bytes pos (c :: cs)) :
    pos < stop ∧ endsLine bytes stop = true ↔
      stop = pos + c.utf8Size ∧ (c = '\n' ∨ c = '\r' ∧ cs.head? ≠ some '\n') ∨
      pos + c.utf8Size < stop ∧ endsLine bytes stop = true := by
  have hsize := c.utf8Size_pos
  rcases Nat.lt_or_ge (pos + c.utf8Size) stop with hlater | hwithin
  · have hne : stop ≠ pos + c.utf8Size := by omega
    have hlow : pos < stop := by omega
    simp only [hne, false_and, false_or, hlater, hlow]
  · have hnot : ¬ pos + c.utf8Size < stop := by omega
    simp only [hnot, false_and, or_false]
    constructor
    · rintro ⟨hlow, hend⟩
      exact (endsLine_iff h hlow hwithin).1 hend
    · rintro ⟨hstop, hc⟩
      have hlow : pos < stop := by omega
      exact ⟨hlow, (endsLine_iff h hlow hwithin).2 ⟨hstop, hc⟩⟩

/-! ### The scan -/

/-- The scan finds the ends of all lines past the offset it begins at. -/
lemma mem_endsFrom (h : Reads bytes pos cs) :
    stop ∈ endsFrom pos cs ↔ pos < stop ∧ endsLine bytes stop = true := by
  have hlf : '\n'.utf8Size = 1 := rfl
  have hcr : '\r'.utf8Size = 1 := rfl
  fun_induction endsFrom pos cs with
  | case1 pos =>
    simp only [List.not_mem_nil, false_iff, not_and, Bool.not_eq_true]
    exact endsLine_of_nil h
  | case2 pos cs ih =>
    have hmem : _ ↔ _ := ih (h.tail_two (by decide) (by decide))
    rw [List.mem_cons, hmem, endsLine_cons h, endsLine_cons h.tail, hcr, hlf]
    simp
  | case3 pos cs hlone ih =>
    have hhead : cs.head? ≠ some '\n' := fun hhead => by
      obtain ⟨cs', hcs⟩ := List.head?_eq_some_iff.1 hhead
      exact hlone cs' hcs
    have hmem : _ ↔ _ := ih h.tail
    rw [List.mem_cons, hmem, endsLine_cons h, hcr]
    simp [hhead]
  | case4 pos cs ih =>
    have hmem : _ ↔ _ := ih h.tail
    rw [List.mem_cons, hmem, endsLine_cons h, hlf]
    simp
  | case5 pos c cs hcrlf hcr' hlf' ih =>
    have hmem : _ ↔ _ := ih h.tail
    rw [hmem, endsLine_cons h]
    simp [show c ≠ '\n' from hlf', show c ≠ '\r' from hcr']

/-- The scan finds ends in increasing order, and none past the text. -/
lemma pairwise_endsFrom (pos : Nat) (cs : List Char) :
    (endsFrom pos cs).Pairwise (· < ·) ∧
      ∀ stop ∈ endsFrom pos cs, pos < stop ∧ stop ≤ pos + byteLength cs := by
  have hlf : '\n'.utf8Size = 1 := rfl
  have hcr : '\r'.utf8Size = 1 := rfl
  fun_induction endsFrom pos cs with
  | case1 pos => simp
  | case2 pos cs ih | case3 pos cs _ ih | case4 pos cs ih =>
    refine ⟨List.pairwise_cons.2 ⟨fun stop hstop => (ih.2 stop hstop).1, ih.1⟩, ?_⟩
    intro stop hstop
    simp only [byteLength, hcr, hlf]
    rcases List.mem_cons.1 hstop with rfl | hstop
    · omega
    · have := ih.2 stop hstop
      omega
  | case5 pos c cs _ _ _ ih =>
    refine ⟨ih.1, fun stop hstop => ?_⟩
    have := ih.2 stop hstop
    rw [byteLength]
    have := c.utf8Size_pos
    omega

/-! ### The bisection -/

/-- Entries before the place are at most the offset, and those from it on are above it. -/
structure Divides (starts : Array UInt32) (offset : UInt32) (place : Nat) : Prop where
  le_size : place ≤ starts.size
  le : ∀ i < place, starts.getD i 0 ≤ offset
  lt : ∀ i, place ≤ i → i < starts.size → offset < starts.getD i 0

/-- Bisection of sorted entries finds the place that divides them, from bounds on both sides. -/
lemma divides_bisect {starts : Array UInt32} {offset : UInt32} {lo hi : Nat}
    (hsorted : ∀ i j, i ≤ j → j < starts.size → starts.getD i 0 ≤ starts.getD j 0)
    (hle : lo ≤ hi) (hhi : hi ≤ starts.size) (hbelow : ∀ i < lo, starts.getD i 0 ≤ offset)
    (habove : ∀ i, hi ≤ i → i < starts.size → offset < starts.getD i 0) :
    Divides starts offset (bisect starts offset lo hi) := by
  fun_induction bisect starts offset lo hi with
  | case1 lo hi hlt mid hmid ih =>
    refine ih (by omega) hhi (fun i hi' => ?_) habove
    exact UInt32.le_trans (hsorted i mid (by omega) (by omega)) hmid
  | case2 lo hi hlt mid hmid ih =>
    refine ih (by omega) (by omega) hbelow fun i hi' hsize => ?_
    exact UInt32.lt_of_lt_of_le (UInt32.not_le.1 hmid) (hsorted mid i hi' hsize)
  | case3 lo hi hge =>
    obtain rfl : lo = hi := by omega
    exact ⟨hhi, hbelow, habove⟩

/-! ### The line and the column -/

/-- Of a list that a place divides, as many entries are at most the offset. -/
lemma countP_eq_of_divided {ends : List Nat} {offset place : Nat} (hle : place ≤ ends.length)
    (hbelow : ∀ i < place, ends.getD i 0 ≤ offset)
    (habove : ∀ i, place ≤ i → i < ends.length → offset < ends.getD i 0) :
    ends.countP (· ≤ offset) = place := by
  have htake : (ends.take place).countP (· ≤ offset) = place := by
    rw [List.countP_eq_length.2, List.length_take_of_le hle]
    intro e he
    obtain ⟨i, hi, rfl⟩ := List.getElem_of_mem he
    rw [List.length_take_of_le hle] at hi
    have := hbelow i hi
    rw [List.getD_eq_getElem _ _ (by omega)] at this
    simpa using this
  have hdrop : (ends.drop place).countP (· ≤ offset) = 0 := by
    rw [List.countP_eq_zero]
    intro e he
    obtain ⟨i, hi, rfl⟩ := List.getElem_of_mem he
    rw [List.length_drop] at hi
    have := habove (place + i) (by omega) (by omega)
    rw [List.getD_eq_getElem _ _ (by omega)] at this
    simpa using this
  rw [← List.take_append_drop place ends, List.countP_append, htake, hdrop, Nat.add_zero]

variable {text : String}

lemma mem_ends : stop ∈ endsFrom 0 text.toList ↔ EndsLine text stop := by
  rw [mem_endsFrom (Reads.start text), EndsLine]
  refine and_iff_right_of_imp fun h => Nat.pos_of_ne_zero ?_
  rintro rfl
  cases h

/-- The ends that the scan finds up to an offset are as many as there are. -/
lemma countP_ends (text : String) (offset : Nat) :
    (endsFrom 0 text.toList).countP (· ≤ offset) = endedLines text offset := by
  -- Both lists hold each end up to the offset once.
  have hnodup := ((pairwise_endsFrom 0 text.toList).1.imp Nat.ne_of_lt).filter (· ≤ offset)
  have hperm : ((endsFrom 0 text.toList).filter (· ≤ offset)).Perm
      ((List.range (offset + 1)).filter (EndsLine text)) := by
    refine (List.perm_ext_iff_of_nodup hnodup (List.nodup_range.filter _)).2 fun stop => ?_
    simp only [List.mem_filter, mem_ends, List.mem_range, decide_eq_true_eq, Nat.lt_succ_iff]
    exact And.comm
  rw [endedLines, Nat.count, List.countP_eq_length_filter, List.countP_eq_length_filter,
    hperm.length_eq]

/-- The lines begin one after the other. -/
lemma increasing_starts (text : String) : (0 :: endsFrom 0 text.toList).Pairwise (· < ·) :=
  List.pairwise_cons.2 ⟨fun e he => ((pairwise_endsFrom 0 text.toList).2 e he).1,
    (pairwise_endsFrom 0 text.toList).1⟩

lemma getD_le_of_increasing {starts : List Nat} (h : starts.Pairwise (· < ·)) {i j : Nat}
    (hij : i ≤ j) (hj : j < starts.length) : starts.getD i 0 ≤ starts.getD j 0 := by
  rw [List.getD_eq_getElem _ _ (by omega), List.getD_eq_getElem _ _ hj]
  rcases Nat.lt_or_eq_of_le hij with hlt | rfl
  · exact Nat.le_of_lt (List.pairwise_iff_getElem.1 h i j (by omega) hj hlt)
  · exact Nat.le_refl _

section Build

variable (hsize : byteLength text.toList < UInt32.size)
include hsize

lemma toNat_ofNat_of_mem_ends (h : stop ∈ endsFrom 0 text.toList) :
    (UInt32.ofNat stop).toNat = stop := by
  have := (pairwise_endsFrom 0 text.toList).2 stop h
  exact UInt32.toNat_ofNat_of_lt' (by omega)

/-- No start of a line overflows. -/
lemma build?_eq_some : build? text = some (build text) := by
  refine if_pos (List.all_eq_true.2 fun stop hstop => ?_)
  rw [decide_eq_true_iff]
  intro hzero
  have hpos := ((pairwise_endsFrom 0 text.toList).2 stop hstop).1
  have hfit := toNat_ofNat_of_mem_ends hsize hstop
  rw [hzero, UInt32.toNat_zero] at hfit
  exact Nat.ne_of_lt hpos hfit

/-- In 32 bits the starts are what the scan finds, after the start of the text. -/
lemma toNat_getD_starts (i : Nat) :
    ((build text).starts.getD i 0).toNat = (0 :: endsFrom 0 text.toList).getD i 0 := by
  rw [build, Array.getD_eq_getD_getElem?, List.getElem?_toArray, List.getElem?_map,
    List.getD_eq_getElem?_getD]
  cases h : (0 :: endsFrom 0 text.toList)[i]? with
  | none => rfl
  | some e =>
    rcases List.mem_cons.1 (List.mem_of_getElem? h) with rfl | hmem
    · rfl
    · exact toNat_ofNat_of_mem_ends hsize hmem

/-- Bisection divides the starts of the lines, and the first of them is at most any offset. -/
lemma exists_divided (offset : UInt32) :
    ∃ line, (build text).lineOf offset = line ∧
      line < (0 :: endsFrom 0 text.toList).length ∧
      (∀ i < line + 1, (0 :: endsFrom 0 text.toList).getD i 0 ≤ offset.toNat) ∧
      ∀ i, line + 1 ≤ i → i < (0 :: endsFrom 0 text.toList).length →
        offset.toNat < (0 :: endsFrom 0 text.toList).getD i 0 := by
  have hstarts := toNat_getD_starts hsize
  have hlength : (build text).starts.size = (0 :: endsFrom 0 text.toList).length := by
    simp [build]
  have hdivides : Divides (build text).starts offset
      (bisect (build text).starts offset 0 (build text).starts.size) := by
    refine divides_bisect (fun i j hij hj => ?_) (Nat.zero_le _) (Nat.le_refl _)
      (fun i hi => absurd hi (Nat.not_lt_zero i)) fun i hi hlt => absurd hlt (Nat.not_lt.2 hi)
    rw [UInt32.le_iff_toNat_le, hstarts, hstarts]
    exact getD_le_of_increasing (increasing_starts text) hij (hlength ▸ hj)
  obtain ⟨place, hplace⟩ : ∃ place,
      bisect (build text).starts offset 0 (build text).starts.size = place + 1 := by
    refine Nat.exists_eq_succ_of_ne_zero fun hzero => ?_
    have := hdivides.lt 0 (by omega) (by rw [hlength]; exact Nat.succ_pos _)
    rw [UInt32.lt_iff_toNat_lt, hstarts] at this
    exact absurd this (Nat.not_lt_zero _)
  rw [hplace] at hdivides
  refine ⟨place, by rw [lineOf, hplace, Nat.add_sub_cancel], ?_, fun i hi => ?_, fun i hi hlt => ?_⟩
  · exact hlength ▸ hdivides.le_size
  · rw [← hstarts, ← UInt32.le_iff_toNat_le]
    exact hdivides.le i hi
  · rw [← hstarts, ← UInt32.lt_iff_toNat_lt]
    exact hdivides.lt i hi (hlength ▸ hlt)

/-- The line of an offset is the number of lines that have ended, and it begins where the last of
these has ended. -/
lemma lineOf_build (offset : UInt32) :
    (build text).lineOf offset = endedLines text offset.toNat ∧
      ((build text).starts.getD ((build text).lineOf offset) 0).toNat
        = lastEnd text offset.toNat := by
  obtain ⟨line, hline, hlt, hbelow, habove⟩ := exists_divided hsize offset
  rw [hline, toNat_getD_starts hsize]
  constructor
  · have hcount := countP_eq_of_divided hlt hbelow habove
    rw [List.countP_cons_of_pos (by simp), countP_ends] at hcount
    omega
  · refine (Nat.findGreatest_eq_iff.2 ⟨hbelow line (Nat.lt_succ_self line), fun hne => ?_,
      fun stop hlow hhigh hend => ?_⟩).symm
    · -- A line but the first begins at an end.
      obtain ⟨i, rfl⟩ : ∃ i, line = i + 1 := by
        refine Nat.exists_eq_succ_of_ne_zero fun hzero => hne ?_
        rw [hzero, List.getD_cons_zero]
      rw [← mem_ends, List.getD_cons_succ, List.getD_eq_getElem _ _ (by simpa using hlt)]
      exact List.getElem_mem _
    · -- An end that comes later is past the place that divides the starts.
      obtain ⟨i, hi, rfl⟩ := List.getElem_of_mem (List.mem_cons_of_mem 0 (mem_ends.2 hend))
      rw [← List.getD_eq_getElem _ 0 hi] at hlow hhigh
      rcases Nat.lt_or_ge i (line + 1) with hil | hil
      · have := getD_le_of_increasing (increasing_starts text) (Nat.le_of_lt_succ hil) hlt
        omega
      · have := habove i hil hi
        omega

/-- The position of an offset, in lines that have ended and in bytes past the last end. -/
lemma position_build (offset : UInt32) :
    ((build text).position offset).line.toNat = endedLines text offset.toNat ∧
      lastEnd text offset.toNat + ((build text).position offset).character.toNat
        = offset.toNat := by
  obtain ⟨hline, hstart⟩ := lineOf_build hsize offset
  have hends : endedLines text offset.toNat < UInt32.size :=
    Nat.lt_of_le_of_lt (endedLines_le text offset.toNat) offset.toNat_lt
  have hle : (build text).starts.getD ((build text).lineOf offset) 0 ≤ offset := by
    rw [UInt32.le_iff_toNat_le, hstart]
    exact Nat.findGreatest_le _
  simp only [position, if_pos hle]
  constructor
  · rw [hline, UInt32.toNat_ofNat_of_lt' hends]
  · rw [UInt32.toNat_sub_of_le _ _ hle, hstart]
    have : lastEnd text offset.toNat ≤ offset.toNat := Nat.findGreatest_le _
    omega

/-- A later offset has a later position. -/
lemma position_before {offset offset' : UInt32} (h : offset < offset') :
    ((build text).position offset).Before ((build text).position offset') := by
  obtain ⟨hline, hstart⟩ := position_build hsize offset
  obtain ⟨hline', hstart'⟩ := position_build hsize offset'
  rw [UInt32.lt_iff_toNat_lt] at h
  simp only [Position.Before, UInt32.lt_iff_toNat_lt, ← UInt32.toNat_inj]
  rcases endedLines_lt_or text (Nat.le_of_lt h) with hlt | ⟨heq, hlast⟩
  · exact .inl (by omega)
  · exact .inr (by omega)

end Build

end LineMap

open LineMap

/-- A text that 32 bits can address has a line map.  There the line of any offset, past the end too,
is the number of lines that have ended by then, and its character counts from the last of these
ends, or from the start of the text.  Hence no two offsets have one position, and a later offset has
a later one. -/
theorem position_counts_line_ends (text : String)
    (hsize : byteLength text.toList < UInt32.size) :
    build? text = some (build text) ∧
    (∀ offset : UInt32,
      ((build text).position offset).line.toNat = endedLines text offset.toNat ∧
      lastEnd text offset.toNat + ((build text).position offset).character.toNat
        = offset.toNat) ∧
    Function.Injective (build text).position ∧
    ∀ offset offset' : UInt32, offset < offset' →
      ((build text).position offset).Before ((build text).position offset') := by
  refine ⟨build?_eq_some hsize, position_build hsize, fun offset offset' h => ?_,
    fun offset offset' h => position_before hsize h⟩
  by_contra hne
  rcases UInt32.lt_or_lt_of_ne hne with hlt | hlt
  · exact Position.not_before_self _ (h ▸ position_before hsize hlt)
  · exact Position.not_before_self _ (h ▸ position_before hsize hlt)

/-- Line ends of all three kinds, after a character of two bytes. -/
def mixedBreaks : String := "\u00e9\r\nb\r\r\nc\n"

theorem mixed_breaks_counted :
    byteLength mixedBreaks.toList < UInt32.size ∧
    build? mixedBreaks = some (build mixedBreaks) ∧
    ((build mixedBreaks).position 3).line.toNat = 0 ∧
    ((build mixedBreaks).position 6).line.toNat = 2 ∧
    8 + ((build mixedBreaks).position 9).character.toNat = 9 ∧
    ((build mixedBreaks).position 40).line.toNat = 4 ∧
    ((build mixedBreaks).position 3).Before ((build mixedBreaks).position 4) := by
  have hsize : byteLength mixedBreaks.toList < UInt32.size := by decide
  obtain ⟨hbuild, hposition, -, hbefore⟩ := position_counts_line_ends mixedBreaks hsize
  have hthree : endedLines mixedBreaks 3 = 0 := by decide
  have hsix : endedLines mixedBreaks 6 = 2 := by decide
  have hlast : lastEnd mixedBreaks 9 = 8 := by decide
  have hforty : endedLines mixedBreaks 40 = 4 := by decide
  exact ⟨hsize, hbuild, (hposition 3).1.trans hthree, (hposition 6).1.trans hsix,
    hlast ▸ (hposition 9).2, (hposition 40).1.trans hforty, hbefore 3 4 (by decide)⟩

end Gls
