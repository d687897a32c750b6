/-
# Texts that stand on one line

A text is unbroken when it has no line feed.  Two kinds of texts are unbroken whatever the source
says: string literals, whose line breaks are escaped, and the lines of comments.

For a line comment this is a fact about the scan: the range it finds is put around a comment, and a
line comment holds no line break.  Offsets have 32 bits, so the range can only be relied on for
sources of less than `2 ^ 32` bytes.
-/
import Gls.Proofs.Text.CommentGaps
import Gls.Text.Quoted

namespace Gls

namespace Text

/-- The text stands on one line. -/
def Unbroken (s : String) : Prop := '\n' ∉ s.toList

instance : DecidablePred Unbroken := fun s => inferInstanceAs (Decidable ('\n' ∉ s.toList))

lemma unbroken_append {s t : String} : Unbroken (s ++ t) ↔ Unbroken s ∧ Unbroken t := by
  simp [Unbroken, not_or]

lemma unbroken_ofList {cs : List Char} : Unbroken (String.ofList cs) ↔ '\n' ∉ cs := by
  simp [Unbroken]

/-! ### String literals -/

/-- The body of a literal has no line feed: bare ones and escaped ones are both rewritten. -/
lemma not_mem_body (cs : List Char) : '\n' ∉ Quoted.body cs := by
  fun_induction Quoted.body cs with
  | case1 => simp
  | case2 => simp
  | case4 cs ih | case6 cs ih | case7 cs ih | case8 cs ih => exact ih
  | case5 cs _ ih => exact ih
  | case3 cs ih | case10 cs ih | case11 cs ih | case12 cs ih | case14 cs ih => simpa using ih
  | case13 cs _ ih => simpa using ih
  -- Neither the character that is escaped nor one that is kept is a line feed.
  | case9 c cs _ _ _ hbreak _ _ ih => simpa [ih] using Ne.symm hbreak
  | case15 c cs _ _ _ _ _ _ _ _ _ hbreak _ _ _ ih => simpa [ih] using Ne.symm hbreak

lemma unbroken_requote (text : String) : Unbroken (Quoted.requote text) := by
  have hbody := not_mem_body (Quoted.stripQuotes text.toList)
  rw [Quoted.requote, unbroken_ofList]
  simpa using hbody

/-! ### Lines -/

lemma not_mem_finishLine {line : List Char} (h : '\n' ∉ line) : '\n' ∉ finishLine line := by
  unfold finishLine
  split <;> simp_all

lemma not_mem_of_mem_linesFrom {line cs : List Char} (h : '\n' ∉ line) {l : List Char}
    (hl : l ∈ linesFrom line cs) : '\n' ∉ l := by
  fun_induction linesFrom line cs with
  | case1 => cases hl
  | case2 line => simp_all
  | case3 line cs ih =>
    rcases List.mem_cons.1 hl with rfl | hl
    · exact not_mem_finishLine h
    · exact ih (by simp) hl
  | case4 line c cs hc ih => exact ih (by simp_all [eq_comm]) hl

/-- A line of a text has no line feed. -/
lemma not_mem_of_mem_lines {cs l : List Char} (hl : l ∈ lines cs) : '\n' ∉ l :=
  not_mem_of_mem_linesFrom (by simp) hl

lemma trimLeft_suffix (cs : List Char) : trimLeft cs <:+ cs := List.dropWhile_suffix _

lemma isInfix_trim (cs : List Char) : trim cs <:+: cs := by
  have hright : trimRight (trimLeft cs) <+: trimLeft cs := by
    rw [trimRight, ← List.reverse_suffix, List.reverse_reverse]
    exact List.dropWhile_suffix _
  exact hright.isInfix.trans (trimLeft_suffix cs).isInfix

/-! ### Cutting -/

lemma dropBytes?_append (cs ds : List Char) : dropBytes? (byteLength cs) (cs ++ ds) = some ds := by
  induction cs with
  | nil => simp [byteLength, dropBytes?]
  | cons c cs ih =>
    obtain ⟨k, hk⟩ : ∃ k, c.utf8Size + byteLength cs = k + 1 :=
      Nat.exists_eq_add_one.2 (Nat.add_pos_left c.utf8Size_pos _)
    have hc : c.utf8Size ≤ k + 1 := by omega
    have hrest : k + 1 - c.utf8Size = byteLength cs := by omega
    rw [byteLength, hk, List.cons_append, dropBytes?, if_pos hc, hrest, ih]

lemma takeBytes?_append (cs ds : List Char) : takeBytes? (byteLength cs) (cs ++ ds) = some cs := by
  induction cs with
  | nil => simp [byteLength, takeBytes?]
  | cons c cs ih =>
    obtain ⟨k, hk⟩ : ∃ k, c.utf8Size + byteLength cs = k + 1 :=
      Nat.exists_eq_add_one.2 (Nat.add_pos_left c.utf8Size_pos _)
    have hc : c.utf8Size ≤ k + 1 := by omega
    have hrest : k + 1 - c.utf8Size = byteLength cs := by omega
    rw [byteLength, hk, List.cons_append, takeBytes?, if_pos hc, hrest, ih]
    rfl

/-- Cutting where a part of the text begins and ends gives that part. -/
lemma slice?_append (pre mid post : List Char) :
    slice? (pre ++ mid ++ post) (byteLength pre) (byteLength pre + byteLength mid) = some mid := by
  rw [slice?, if_pos (Nat.le_add_right _ _), List.append_assoc, dropBytes?_append, Option.bind_some,
    Nat.add_sub_cancel_left, takeBytes?_append]

end Text

/-! ### Comments -/

namespace CommentRange

open Text

variable {r : CommentRange}

/-- In a source that 32 bits can address, the text of a range that the scan finds is a comment of
the source. -/
lemma exists_comment {source : String} (hsize : byteLength source.toList < UInt32.size)
    (hr : r ∈ scan source) : ∃ pre text post, source.toList = pre ++ text ++ post ∧
      IsComment r.isBlock text post ∧ r.pos.toNat = byteLength pre ∧
      r.stop.toNat = byteLength (pre ++ text) ∧ r.text source = String.ofList text := by
  obtain ⟨pre, text, post, hsource, hcomment, hpos, hstop⟩ :=
    (comments_scan source).exists_cut (show byteLength [] = 0 from rfl) hr
  rw [List.nil_append] at hsource
  rw [hsource, byteLength_append] at hsize
  have hstart : r.pos.toNat = byteLength pre := by
    rw [byteLength_append] at hsize
    rw [hpos, UInt32.toNat_ofNat_of_lt' (by omega)]
  have hend : r.stop.toNat = byteLength (pre ++ text) := by
    rw [hstop, UInt32.toNat_ofNat_of_lt' (by omega)]
  have hcut : slice? source.toList r.span.start.toNat r.span.stop.toNat = some text := by
    rw [span, hstart, hend, hsource, byteLength_append]
    exact slice?_append pre text post
  exact ⟨pre, text, post, hsource, hcomment, hstart, hend, by
    rw [CommentRange.text, Span.slice, hcut]; rfl⟩

/-- A line comment of a source that 32 bits can address has no line feed. -/
lemma unbroken_text {source : String} (hsize : byteLength source.toList < UInt32.size)
    (hr : r ∈ scan source) (hline : r.isBlock = false) : Unbroken (r.text source) := by
  obtain ⟨pre, text, post, -, hcomment, -, -, htext⟩ := exists_comment hsize hr
  rw [htext, unbroken_ofList]
  rw [hline] at hcomment
  cases hcomment with
  | @line body _ hbody _ =>
    intro hbreak
    have hmem : '\n' ∈ body := by simpa using hbreak
    cases hbody _ hmem

lemma isInfix_undecorate (line : List Char) : undecorate line <:+: line := by
  unfold undecorate
  have hleft := (trimLeft_suffix line).isInfix
  split
  · next rest hrest =>
    have hstar := (List.suffix_cons '*' rest).isInfix
    exact (isInfix_trim rest).trans (hstar.trans (hrest ▸ hleft))
  · exact (isInfix_trim _).trans hleft

lemma mem_of_mem_dropEmptyEnds {l : List Char} {ls : List (List Char)}
    (h : l ∈ dropEmptyEnds ls) : l ∈ ls := by
  have h := (List.dropWhile_sublist _).subset (List.mem_reverse.1 h)
  exact (List.dropWhile_sublist _).subset (List.mem_reverse.1 h)

/-- What a comment says has no line feed. -/
lemma unbroken_of_mem_bodyLines {source : String} (hsize : byteLength source.toList < UInt32.size)
    (hr : r ∈ scan source) {line : String} (h : line ∈ r.bodyLines source) : Unbroken line := by
  unfold bodyLines at h
  dsimp only at h
  split at h
  · obtain ⟨l, hl, rfl⟩ := List.mem_map.1 h
    obtain ⟨raw, hraw, rfl⟩ := List.mem_map.1 (mem_of_mem_dropEmptyEnds hl)
    rw [unbroken_ofList]
    exact fun hbreak => not_mem_of_mem_lines hraw ((isInfix_undecorate raw).subset hbreak)
  · rename_i hline
    obtain rfl := List.mem_singleton.1 h
    rw [unbroken_ofList]
    intro hbreak
    have hmem := (List.dropWhile_sublist _).subset ((isInfix_trim _).subset hbreak)
    exact unbroken_text hsize hr (by simpa using hline) hmem

end CommentRange

end Gls
