/-
# A text as comments and what stands between them

The scan cuts a text into comments and the gaps before, between and after them.  `Comments` says
this without the scan: the ranges of a list stand in the text one after the other, with any gap
before each of them, and each is put around a comment.  What a comment is does not depend on the
scan either.

That the scan finds such ranges is shown by one induction over its modes.  While it reads a comment,
what it has read so far is carried along: of a line comment that no line break is in it, of a block
comment that no closing delimiter begins in it.
-/
import Gls.Text.Comment
import Mathlib.Tactic.Common

namespace Gls.CommentRange

open Text

lemma isLineBreak_iff {c : Char} : isLineBreak c = true ↔ c = '\n' ∨ c = '\r' := by
  simp [isLineBreak]

/-- The text of a comment, with the text that comes after it. -/
inductive IsComment : Bool → List Char → List Char → Prop where
  /-- A line comment goes on up to a line break, or to the end. -/
  | line {body rest : List Char} (unbroken : ∀ c ∈ body, isLineBreak c = false)
      (ends : ∀ c ∈ rest.head?, isLineBreak c = true) : IsComment false ('/' :: '/' :: body) rest
  /-- A block comment goes on up to the first closing delimiter after its opening one. -/
  | closed {body rest : List Char} (first : ¬ ['*', '/'] <:+: body) :
      IsComment true ('/' :: '*' :: body ++ ['*', '/']) rest
  /-- Without a closing delimiter a block comment goes on up to the end. -/
  | unclosed {body : List Char} (never : ¬ ['*', '/'] <:+: body) :
      IsComment true ('/' :: '*' :: body) []

/-- The ranges of the comments in a text that begins at `pos`, in order. -/
inductive Comments : Nat → List Char → List CommentRange → Prop where
  | nil {pos : Nat} {gap : List Char} : Comments pos gap []
  | cons {pos : Nat} {gap text rest : List Char} {isBlock : Bool} {rs : List CommentRange}
      (comment : IsComment isBlock text rest)
      (after : Comments (pos + byteLength (gap ++ text)) rest rs) :
      Comments pos (gap ++ text ++ rest)
        (⟨UInt32.ofNat (pos + byteLength gap), UInt32.ofNat (pos + byteLength (gap ++ text)),
          isBlock⟩ :: rs)

lemma IsComment.two_le_byteLength {isBlock : Bool} {text rest : List Char}
    (h : IsComment isBlock text rest) : 2 ≤ byteLength text := by
  have hslash : '/'.utf8Size = 1 := rfl
  have hstar : '*'.utf8Size = 1 := rfl
  cases h with
  | line | closed | unclosed =>
    simp only [List.cons_append, byteLength]
    omega

namespace Comments

variable {pos start stop : Nat} {c : Char} {cs text rest : List Char} {rs : List CommentRange}
  {isBlock : Bool}

/-- A character in front makes the first gap longer. -/
lemma gap_cons (h : Comments (pos + c.utf8Size) cs rs) : Comments pos (c :: cs) rs := by
  cases h with
  | nil => exact .nil
  | @cons _ gap text rest _ _ comment after =>
    have hgap : ∀ ds, pos + c.utf8Size + byteLength (gap ++ ds)
        = pos + byteLength (c :: gap ++ ds) := by
      intro ds
      rw [List.cons_append, byteLength, Nat.add_assoc]
    have hbegin := hgap []
    rw [List.append_nil, List.append_nil] at hbegin
    rw [hgap] at after ⊢
    rw [hbegin, ← List.cons_append, ← List.cons_append]
    exact .cons comment after

/-- A comment in front is the first one. -/
lemma of_comment (comment : IsComment isBlock text rest) (hstop : start + byteLength text = stop)
    (after : Comments stop rest rs) :
    Comments start (text ++ rest) (⟨UInt32.ofNat start, UInt32.ofNat stop, isBlock⟩ :: rs) := by
  subst hstop
  exact @cons start [] text rest isBlock rs comment after

/-- When 32 bits can address the text, the comments stand one after the other. -/
lemma pairwise (h : Comments pos cs rs) (hsize : pos + byteLength cs < UInt32.size) :
    rs.Pairwise (fun r s => r.pos < s.pos ∧ r.stop ≤ s.pos) ∧ ∀ r ∈ rs, pos ≤ r.pos.toNat := by
  induction h with
  | nil => simp
  | @cons pos gap text rest isBlock rs comment after ih =>
    have hlength := comment.two_le_byteLength
    rw [byteLength_append, byteLength_append] at hsize
    obtain ⟨hrest, hlow⟩ := ih (by rw [byteLength_append]; omega)
    rw [byteLength_append] at hlow ⊢
    have hpos : (UInt32.ofNat (pos + byteLength gap)).toNat = pos + byteLength gap :=
      UInt32.toNat_ofNat_of_lt' (by omega)
    have hstop : (UInt32.ofNat (pos + (byteLength gap + byteLength text))).toNat
        = pos + (byteLength gap + byteLength text) := UInt32.toNat_ofNat_of_lt' (by omega)
    refine ⟨List.pairwise_cons.2 ⟨fun s hs => ?_, hrest⟩, ?_⟩
    · have := hlow s hs
      rw [UInt32.lt_iff_toNat_lt, UInt32.le_iff_toNat_le]
      dsimp only
      omega
    · rintro r (_ | ⟨_, hr⟩)
      · dsimp only
        omega
      · exact Nat.le_trans (by omega) (hlow r hr)

/-- Each range cuts a comment out of the text, between two characters. -/
lemma exists_cut {seen : List Char} {r : CommentRange} (h : Comments pos cs rs)
    (hseen : byteLength seen = pos) (hr : r ∈ rs) :
    ∃ pre text post, seen ++ cs = pre ++ text ++ post ∧ IsComment r.isBlock text post ∧
      r.pos = UInt32.ofNat (byteLength pre) ∧ r.stop = UInt32.ofNat (byteLength (pre ++ text)) := by
  induction h generalizing seen with
  | nil => cases hr
  | @cons pos gap text rest isBlock rs comment after ih =>
    rcases List.mem_cons.1 hr with rfl | hr
    · refine ⟨seen ++ gap, text, rest, by simp, comment, ?_, ?_⟩
      · rw [byteLength_append seen, hseen]
      · rw [List.append_assoc, byteLength_append seen, hseen]
    · obtain ⟨pre, text', post, hsplit, hcut⟩ :=
        @ih (seen ++ (gap ++ text)) (by rw [byteLength_append, hseen]) hr
      exact ⟨pre, text', post, by rw [← hsplit]; simp, hcut⟩

end Comments

/-! ### The scan -/

/-- What the scan finds in a mode when `cs` is left from `pos` on. -/
def Mode.Finds (mode : Mode) (pos : Nat) (cs : List Char) (rs : List CommentRange) : Prop :=
  match mode with
  | .code | .quoted _ => Comments pos cs rs
  | .line start => ∀ body, (∀ c ∈ body, isLineBreak c = false) →
      start + byteLength ('/' :: '/' :: body) = pos → Comments start ('/' :: '/' :: body ++ cs) rs
  | .block start => ∀ body,
      (∀ pre post, body ++ cs = pre ++ '*' :: '/' :: post → body.length ≤ pre.length) →
      start + byteLength ('/' :: '*' :: body) = pos → Comments start ('/' :: '*' :: body ++ cs) rs

/-- No closing delimiter is in characters if none begins in them. -/
lemma not_isInfix_of_length_le {body cs : List Char}
    (h : ∀ pre post, body ++ cs = pre ++ '*' :: '/' :: post → body.length ≤ pre.length) :
    ¬ ['*', '/'] <:+: body := by
  rintro ⟨pre, post, rfl⟩
  have hlength := h pre (post ++ cs) (by simp)
  simp only [List.length_append, List.length_cons] at hlength
  omega

/-- A character that is read makes the text of a comment longer. -/
lemma byteLength_concat {start pos : Nat} {text : List Char} {c : Char}
    (h : start + byteLength text = pos) :
    start + byteLength (text ++ [c]) = pos + c.utf8Size := by
  rw [byteLength_append, ← Nat.add_assoc, h]
  rfl

/-- By induction along the scan. -/
lemma finds_scanFrom (mode : Mode) (pos : Nat) (cs : List Char) :
    mode.Finds pos cs (scanFrom mode pos cs) := by
  fun_induction scanFrom mode pos cs with
  | case1 mode pos =>
    cases mode with
    | code | quoted q => exact .nil
    | line start =>
      intro body hbody hpos
      exact .of_comment (.line hbody (by simp)) hpos .nil
    | block start =>
      intro body hbody hpos
      have hgap : Comments pos [] [] := .nil
      have := Comments.of_comment (.unclosed (not_isInfix_of_length_le hbody)) hpos hgap
      rwa [List.append_nil] at this ⊢
  | case2 pos cs ih => exact ih [] (by simp) rfl
  | case3 pos cs ih => exact ih [] (by simp) rfl
  | case4 pos c cs _ _ ih =>
    refine Comments.gap_cons ?_
    by_cases hquote : isQuote c = true
    · rw [if_pos hquote] at ih ⊢
      exact ih
    · rw [if_neg hquote] at ih ⊢
      exact ih
  | case5 q pos c cs ih => exact Comments.gap_cons (Comments.gap_cons ih)
  | case6 q pos c cs _ _ ih | case7 q pos c cs _ _ ih => exact Comments.gap_cons ih
  | case8 start pos c cs hc ih =>
    intro body hbody hpos
    have hsize : c.utf8Size = 1 := by
      rcases isLineBreak_iff.1 hc with rfl | rfl <;> rfl
    refine .of_comment (.line hbody (by simpa using hc)) hpos (.gap_cons ?_)
    rw [hsize]
    exact ih
  | case9 start pos c cs hc ih =>
    intro body hbody hpos
    have hunbroken : ∀ c' ∈ body ++ [c], isLineBreak c' = false := by
      simpa [or_imp, forall_and] using ⟨hbody, by simpa using hc⟩
    simpa using ih (body ++ [c]) hunbroken (byteLength_concat hpos)
  | case10 start pos cs ih =>
    intro body hbody hpos
    have hstop : start + byteLength ('/' :: '*' :: body ++ ['*', '/']) = pos + 2 := by
      rw [byteLength_append, ← Nat.add_assoc, hpos]
      rfl
    have := Comments.of_comment (.closed (not_isInfix_of_length_le hbody)) hstop ih
    simpa using this
  | case11 start pos c cs hc ih =>
    intro body hbody hpos
    -- A delimiter does not begin at the character that was read last, nor before it.
    have hlater : ∀ pre post, body ++ [c] ++ cs = pre ++ '*' :: '/' :: post →
        (body ++ [c]).length ≤ pre.length := by
      intro pre post hsplit
      rw [List.append_assoc] at hsplit
      rcases Nat.lt_or_eq_of_le (hbody pre post hsplit) with hlt | heq
      · simpa using Nat.succ_le_of_lt hlt
      · obtain ⟨rfl, htail⟩ := List.append_inj hsplit heq
        cases htail
        exact (hc post rfl rfl).elim
    simpa using ih (body ++ [c]) hlater (byteLength_concat hpos)

/-- The ranges that are found in a text are those of its comments. -/
lemma comments_scan (source : String) : Comments 0 source.toList (scan source) :=
  finds_scanFrom .code 0 source.toList

end Gls.CommentRange
