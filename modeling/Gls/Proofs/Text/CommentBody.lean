/-
# What a block comment says

What a closed block comment says is decided by the text between its delimiters: the stars that go
with the opening delimiter are dropped, the rest is taken line by line without decoration, and the
empty lines at both ends are left out.  So every line is a part of that text, and no delimiter shows
up in it.

The stars are dropped before the closing delimiter is, and the closing delimiter begins with one.
If there is nothing but stars between the delimiters, this star goes with them, and the slash after
it is left over as a line.
-/
import Gls.Proofs.Text.Unbroken
import Mathlib.Data.List.TakeWhile

namespace Gls

namespace CommentRange

open Text

/-- The lines of a block comment with the given text between its delimiters. -/
def contentLines (content : List Char) : List (List Char) :=
  dropEmptyEnds ((Text.lines (content.dropWhile (· == '*'))).map undecorate)

/-! ### The delimiters -/

lemma dropClosing_append (cs : List Char) : dropClosing (cs ++ ['*', '/']) = cs := by
  simp [dropClosing]

/-- When something else than stars is between the delimiters, both are dropped. -/
lemma blockBody_of_content {content : List Char} (h : ∃ c ∈ content, c ≠ '*') :
    blockBody ('/' :: '*' :: content ++ ['*', '/']) = contentLines content := by
  have hrest : ¬ (content.dropWhile (· == '*')).isEmpty = true := by
    obtain ⟨c, hc, hstar⟩ := h
    rw [List.isEmpty_iff, List.dropWhile_eq_nil_iff]
    intro hall
    exact hstar (beq_iff_eq.1 (hall c hc))
  rw [blockBody, List.cons_append, List.cons_append, dropOpening, List.dropWhile_append,
    if_neg hrest, dropClosing_append, contentLines]

/-- When there are stars only, the slash of the closing delimiter is left. -/
lemma blockBody_of_stars {content : List Char} (h : ∀ c ∈ content, c = '*') :
    blockBody ('/' :: '*' :: content ++ ['*', '/']) = [['/']] := by
  have hrest : (content.dropWhile (· == '*')).isEmpty = true := by
    rw [List.isEmpty_iff, List.dropWhile_eq_nil_iff]
    exact fun c hc => beq_iff_eq.2 (h c hc)
  rw [blockBody, List.cons_append, List.cons_append, dropOpening, List.dropWhile_append,
    if_pos hrest]
  decide

/-! ### The lines -/

lemma isPrefix_finishLine (line : List Char) : finishLine line <+: line.reverse := by
  unfold finishLine
  split
  · exact ⟨['\r'], by simp⟩
  · exact List.prefix_rfl

/-- By induction on the characters that are left; a line is a part of what it begins with and what
is left. -/
lemma infix_of_mem_linesFrom {line cs l : List Char} (h : l ∈ linesFrom line cs) :
    l <:+: line.reverse ++ cs := by
  fun_induction linesFrom line cs with
  | case1 => cases h
  | case2 line =>
    obtain rfl := List.mem_singleton.1 h
    exact (List.prefix_append _ _).isInfix
  | case3 line cs ih =>
    rcases List.mem_cons.1 h with rfl | h
    · exact ((isPrefix_finishLine line).trans (List.prefix_append _ _)).isInfix
    · have hrest := ih h
      rw [List.reverse_nil, List.nil_append] at hrest
      exact hrest.trans ⟨line.reverse ++ ['\n'], [], by simp⟩
  | case4 line c cs _ ih => simpa using ih h

lemma infix_of_mem_lines {cs l : List Char} (h : l ∈ Text.lines cs) : l <:+: cs := by
  simpa using infix_of_mem_linesFrom h

/-- Every line is a part of the text between the delimiters. -/
lemma infix_of_mem_contentLines {content line : List Char} (h : line ∈ contentLines content) :
    line <:+: content := by
  obtain ⟨raw, hraw, rfl⟩ := List.mem_map.1 (mem_of_mem_dropEmptyEnds h)
  exact (isInfix_undecorate raw).trans
    ((infix_of_mem_lines hraw).trans (List.dropWhile_suffix _).isInfix)

/-! ### Comments that say nothing -/

lemma undecorate_of_blank {line : List Char} (h : ∀ c ∈ line, isBlank c = true) :
    undecorate line = [] := by
  rw [undecorate, trimLeft, List.dropWhile_eq_nil_iff.2 h]
  rfl

/-- White space after the stars leaves no line. -/
lemma contentLines_of_blank {content : List Char}
    (h : ∀ c ∈ content.dropWhile (· == '*'), isBlank c = true) : contentLines content = [] := by
  have hempty : ∀ line ∈ (Text.lines (content.dropWhile (· == '*'))).map undecorate,
      line.isEmpty = true := by
    intro line hline
    obtain ⟨raw, hraw, rfl⟩ := List.mem_map.1 hline
    rw [undecorate_of_blank fun c hc => h c ((infix_of_mem_lines hraw).subset hc)]
    rfl
  rw [contentLines, dropEmptyEnds, List.dropWhile_eq_nil_iff.2 hempty]
  rfl

lemma dropWhile_stars_append (n : Nat) {blanks : List Char} (h : ∀ c ∈ blanks, isBlank c = true) :
    (List.replicate n '*' ++ blanks).dropWhile (· == '*') = blanks := by
  rw [List.dropWhile_append_of_pos (by simp)]
  cases blanks with
  | nil => rfl
  | cons c cs =>
    have hc : ¬ (c == '*') = true := by
      rw [beq_iff_eq]
      rintro rfl
      exact absurd (h '*' List.mem_cons_self) (by decide)
    exact List.dropWhile_cons_of_neg hc

end CommentRange

open CommentRange Text

/-- What a closed block comment says is a function of the text between its delimiters, unless there
are only stars between them; then it is a slash.  The text between the delimiters holds no closing
delimiter, and the lines made of it are parts of it; from stars with white space after them no line
is made. -/
theorem block_body_of_content {source : String} (hsize : byteLength source.toList < UInt32.size)
    {r : CommentRange} (hr : r ∈ scan source) {content : List Char}
    (htext : (r.text source).toList = '/' :: '*' :: content ++ ['*', '/']) :
    (r.bodyLines source
      = if content.all (· == '*') then ["/"] else (contentLines content).map String.ofList) ∧
    ¬ ['*', '/'] <:+: content ∧
    (∀ line ∈ contentLines content, line <:+: content) ∧
    ∀ n blanks, content = List.replicate n '*' ++ blanks → (∀ c ∈ blanks, isBlank c = true) →
      contentLines content = [] := by
  obtain ⟨pre, text, post, -, hcomment, -, -, hcut⟩ := exists_comment hsize hr
  rw [hcut, String.toList_ofList] at htext
  obtain ⟨hblock, hfirst⟩ : r.isBlock = true ∧ ¬ ['*', '/'] <:+: content := by
    generalize r.isBlock = isBlock at hcomment
    cases hcomment with
    | line => cases htext
    | @closed body _ hfirst =>
      obtain rfl : body = content := by simpa using htext
      exact ⟨rfl, hfirst⟩
    | @unclosed body hnever =>
      obtain rfl : body = content ++ ['*', '/'] := by simpa using htext
      exact absurd (List.suffix_append _ _).isInfix hnever
  refine ⟨?_, hfirst, fun line => infix_of_mem_contentLines, ?_⟩
  · rw [bodyLines, hcut, String.toList_ofList, htext, if_pos hblock]
    split
    · next hstars =>
      rw [blockBody_of_stars (by simpa using hstars)]
      rfl
    · next hother => rw [blockBody_of_content (by simpa using hother)]
  · rintro n blanks rfl hblanks
    refine contentLines_of_blank ?_
    rwa [dropWhile_stars_append n hblanks]

/-- A comment with a decorated line, and one with stars only. -/
def starredSource : String := "/** a\n * b **/ /***/"

theorem decorated_body_of_content :
    byteLength starredSource.toList < UInt32.size ∧
    (⟨0, 14, true⟩ : CommentRange) ∈ scan starredSource ∧
    (CommentRange.text ⟨0, 14, true⟩ starredSource).toList
      = '/' :: '*' :: "* a\n * b *".toList ++ ['*', '/'] ∧
    CommentRange.bodyLines ⟨0, 14, true⟩ starredSource = ["a", "b *"] := by
  have hsize : byteLength starredSource.toList < UInt32.size := by decide
  have hmem : (⟨0, 14, true⟩ : CommentRange) ∈ scan starredSource := by decide
  have htext : (CommentRange.text ⟨0, 14, true⟩ starredSource).toList
      = '/' :: '*' :: "* a\n * b *".toList ++ ['*', '/'] := by decide
  refine ⟨hsize, hmem, htext, ?_⟩
  rw [(block_body_of_content hsize hmem htext).1]
  decide

/-- Between the delimiters there is nothing, and no line is made of it; but the body is a slash. -/
theorem empty_comment_says_slash :
    scan "/**/" = [⟨0, 4, true⟩] ∧ CommentRange.text ⟨0, 4, true⟩ "/**/" = "/**/" ∧
    contentLines [] = [] ∧ CommentRange.bodyLines ⟨0, 4, true⟩ "/**/" = ["/"] := by
  decide

end Gls
