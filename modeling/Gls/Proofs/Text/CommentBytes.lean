/-
# Bytes and characters give the same comments

The scan of the bytes and the scan of the characters are compared mode by mode.  What the one does
at a character the other does at its first byte: all characters a scan looks for take one byte, and
no other character begins with such a byte.  The further bytes of a character mean nothing in any
mode, so they are passed over; that is why a backslash may take only the first byte of a character
along and leave the rest.
-/
import Gls.Proofs.Text.CommentGaps
import Gls.Text.CommentBytes

namespace Gls.CommentRange

open Text

/-! ### The bytes of a character -/

/-- The character takes one byte, which no other character begins with or holds. -/
def IsAscii (c : Char) : Prop := c.toNat ≤ 127

instance : DecidablePred IsAscii := fun c => inferInstanceAs (Decidable (c.toNat ≤ 127))

lemma utf8Size_of_isAscii {c : Char} (hc : IsAscii c) : c.utf8Size = 1 :=
  Char.utf8Size_eq_one_iff.2 hc

lemma isAscii_of_isLineBreak {c : Char} (h : isLineBreak c = true) : IsAscii c := by
  rcases isLineBreak_iff.1 h with rfl | rfl <;> decide

lemma toUInt8_toNat {s : Char} (hs : IsAscii s) : s.toUInt8.toNat = s.toNat := by
  have : s.toUInt8.toNat = s.toNat % 256 := rfl
  rw [IsAscii] at hs
  omega

/-- A character begins with the byte of a one-byte character only if it is that character, and its
further bytes are those of no such character. -/
lemma exists_utf8EncodeChar (c : Char) : ∃ b bs, String.utf8EncodeChar c = b :: bs ∧
    (∀ s, IsAscii s → (b = s.toUInt8 ↔ c = s)) ∧ ∀ b' ∈ bs, 128 ≤ b'.toNat := by
  have hfurther : ∀ n, 128 ≤ (UInt8.ofNat (n % 64 + 128)).toNat := by
    intro n
    rw [UInt8.toNat_ofNat_of_lt' (by simp only [UInt8.size]; omega)]
    omega
  -- The first of several bytes is none of a one-byte character.
  have hfirst : ∀ n, 128 ≤ n → n < UInt8.size → ¬ IsAscii c →
      ∀ s, IsAscii s → (UInt8.ofNat n = s.toUInt8 ↔ c = s) := by
    intro n hlow hhigh hc s hs
    refine iff_of_false (fun hn => ?_) (fun hn => hc (hn ▸ hs))
    have := congrArg UInt8.toNat hn
    rw [toUInt8_toNat hs, UInt8.toNat_ofNat_of_lt' hhigh] at this
    rw [IsAscii] at hs
    omega
  simp only [UInt8.size] at hfirst
  unfold String.utf8EncodeChar
  dsimp only
  split_ifs with hc
  · refine ⟨_, [], rfl, fun s hs => ?_, by simp⟩
    have hsize : c.val.toNat < UInt8.size := Nat.lt_of_le_of_lt hc (by decide)
    rw [← UInt8.toNat_inj, toUInt8_toNat hs, UInt8.toNat_ofNat_of_lt' hsize, ← Char.toNat_inj]
    rfl
  all_goals
    refine ⟨_, _, rfl, hfirst _ (by omega) (by omega) hc, ?_⟩
    simp only [List.forall_mem_cons, hfurther, true_and, List.not_mem_nil, false_implies,
      implies_true]

namespace Bytes

/-- The byte tells of every one-byte character whether it is the given character. -/
def Tells (b : UInt8) (c : Char) : Prop := ∀ s, IsAscii s → (b == s.toUInt8) = (c == s)

lemma Tells.isQuote {b : UInt8} {c : Char} (h : Tells b c) :
    isQuote b = CommentRange.isQuote c := by
  simp only [Bytes.isQuote, CommentRange.isQuote, h '"' (by decide), h '\'' (by decide),
    h '\x60' (by decide)]

lemma Tells.isLineBreak {b : UInt8} {c : Char} (h : Tells b c) :
    isLineBreak b = CommentRange.isLineBreak c := by
  simp only [Bytes.isLineBreak, CommentRange.isLineBreak, h '\n' (by decide), h '\r' (by decide)]

lemma tells_toUInt8 {q : Char} (hq : IsAscii q) : Tells q.toUInt8 q := by
  intro s hs
  rw [Bool.eq_iff_iff, beq_iff_eq, beq_iff_eq, ← UInt8.toNat_inj, toUInt8_toNat hq,
    toUInt8_toNat hs, Char.toNat_inj]

/-! ### Where the scan of the bytes stands -/

variable {bytes : ByteArray} {pos : Nat} {c : Char} {cs : List Char}

/-- From `pos` on, the bytes are those of the characters. -/
structure Reads (bytes : ByteArray) (pos : Nat) (cs : List Char) : Prop where
  within : pos ≤ bytes.size
  rest : bytes.data.toList.drop pos = cs.flatMap String.utf8EncodeChar

namespace Reads

lemma start (source : String) : Reads source.toUTF8 0 source.toList where
  within := Nat.zero_le _
  rest := by
    conv_lhs => rw [← source.ofList_toList]
    rw [String.toUTF8_eq_toByteArray, String.toByteArray_ofList, List.utf8Encode,
      List.data_toByteArray, List.drop_zero]

lemma nil (h : Reads bytes pos []) : pos = bytes.size := by
  have hlength := congrArg List.length h.rest
  have := h.within
  simp at hlength
  omega

/-- The byte at which a character begins tells whether it is a given one-byte character, and after
all its bytes the next character begins. -/
lemma cons (h : Reads bytes pos (c :: cs)) : ∃ hpos : pos < bytes.size,
    Tells bytes[pos] c ∧ Reads bytes (pos + c.utf8Size) cs ∧
    ∀ i, pos < i → i < pos + c.utf8Size → ∃ hi : i < bytes.size, 128 ≤ bytes[i].toNat := by
  obtain ⟨b, bs, hbytes, hfirst, hfurther⟩ := exists_utf8EncodeChar c
  have hsize : bs.length + 1 = c.utf8Size := by
    rw [← String.length_utf8EncodeChar, hbytes, List.length_cons]
  have hrest : bytes.data.toList.drop pos = b :: (bs ++ cs.flatMap String.utf8EncodeChar) := by
    rw [h.rest, List.flatMap_cons, hbytes, List.cons_append]
  have hget : ∀ j b', (b :: (bs ++ cs.flatMap String.utf8EncodeChar))[j]? = some b' →
      ∃ hj : pos + j < bytes.size, bytes[pos + j] = b' := by
    intro j b' hj
    rw [← hrest, List.getElem?_drop] at hj
    obtain ⟨hlt, hj⟩ := List.getElem?_eq_some_iff.1 hj
    exact ⟨by simpa using hlt, by rw [ByteArray.getElem_eq_getElem_data, ← hj]; rfl⟩
  obtain ⟨hpos, hb⟩ := hget 0 b rfl
  refine ⟨hpos, fun s hs => ?_, ⟨?_, ?_⟩, fun i hi hi' => ?_⟩
  · rw [Bool.eq_iff_iff, beq_iff_eq, beq_iff_eq, ← hfirst s hs]
    exact Eq.congr_left hb
  · have hlength := congrArg List.length hrest
    simp only [List.length_drop, Array.length_toList, ByteArray.size_data, List.length_cons,
      List.length_append] at hlength
    omega
  · rw [← List.drop_drop, hrest, ← hsize, List.drop_succ_cons, List.drop_left]
  · obtain ⟨j, rfl⟩ := Nat.exists_eq_add_of_lt hi
    have hj : j < bs.length := by omega
    obtain ⟨hlt, hbyte⟩ := hget (j + 1) bs[j] (by
      rw [List.getElem?_cons_succ, List.getElem?_append_left hj, List.getElem?_eq_getElem hj])
    exact ⟨hlt, (congrArg UInt8.toNat hbyte).symm ▸ hfurther _ (List.getElem_mem hj)⟩

lemma tail (h : Reads bytes pos (c :: cs)) : Reads bytes (pos + c.utf8Size) cs := by
  obtain ⟨-, -, hnext, -⟩ := h.cons
  exact hnext

/-- After two characters of one byte each the rest begins. -/
lemma tail_two {c₁ c₂ : Char} (h : Reads bytes pos (c₁ :: c₂ :: cs)) (h₁ : IsAscii c₁)
    (h₂ : IsAscii c₂) : Reads bytes (pos + 2) cs := by
  have hrest := h.tail.tail
  rwa [utf8Size_of_isAscii h₁, utf8Size_of_isAscii h₂] at hrest

/-- A byte that may be past the end tells of the next character, if there is one. -/
lemma getElem?_beq (h : Reads bytes pos cs) {s : Char} (hs : IsAscii s) :
    (bytes[pos]? == some s.toUInt8) = (cs.head? == some s) := by
  cases cs with
  | nil =>
    rw [getElem?_neg bytes pos (by rw [h.nil]; omega)]
    rfl
  | cons c cs =>
    obtain ⟨hpos, hfirst, -⟩ := h.cons
    rw [getElem?_pos bytes pos hpos, List.head?_cons]
    exact hfirst s hs

end Reads

/-- What the scan of the bytes finds when it stands at `pos` in a mode. -/
def resume (bytes : ByteArray) : Mode → Nat → List CommentRange
  | .code, pos => scanFrom bytes pos
  | .quoted q, pos => scanFrom bytes (literalEnd bytes q.toUInt8 pos)
  | .line start, pos =>
    ⟨UInt32.ofNat start, UInt32.ofNat (lineEnd bytes pos), false⟩
      :: scanFrom bytes (lineEnd bytes pos)
  | .block start, pos =>
    ⟨UInt32.ofNat start, UInt32.ofNat (blockEnd bytes pos), true⟩
      :: scanFrom bytes (blockEnd bytes pos)

/-- A literal is read only after one of the three quotes. -/
def Proper : Mode → Prop
  | .quoted q => CommentRange.isQuote q = true
  | _ => True

lemma isAscii_of_isQuote {q : Char} (h : CommentRange.isQuote q = true) : IsAscii q := by
  simp only [CommentRange.isQuote, Bool.or_eq_true, beq_iff_eq] at h
  rcases h with (rfl | rfl) | rfl <;> decide

/-! ### Bytes that are passed over -/

/-- In every mode the scan passes over a byte that is none of a one-byte character. -/
lemma resume_succ {mode : Mode} (hmode : Proper mode) (hpos : pos < bytes.size)
    (hb : 128 ≤ bytes[pos].toNat) : resume bytes mode pos = resume bytes mode (pos + 1) := by
  have hne : ∀ s, IsAscii s → (bytes[pos] == s.toUInt8) = false := by
    intro s hs
    refine beq_eq_false_iff_ne.2 fun h => ?_
    rw [h, toUInt8_toNat hs] at hb
    rw [IsAscii] at hs
    omega
  have hbreak : isLineBreak bytes[pos] = false := by
    simp only [isLineBreak, hne '\n' (by decide), hne '\r' (by decide), Bool.or_self]
  cases mode with
  | code =>
    have hquote : isQuote bytes[pos] = false := by
      simp only [isQuote, hne '"' (by decide), hne '\'' (by decide), hne '\x60' (by decide),
        Bool.or_self]
    simp only [resume]
    conv_lhs => rw [scanFrom, dif_pos hpos]
    simp only [hquote, hne '/' (by decide), Bool.false_and, Bool.false_eq_true, if_false]
  | quoted q =>
    have hq := hne q (isAscii_of_isQuote hmode)
    simp only [resume]
    conv_lhs => rw [literalEnd, dif_pos hpos]
    simp only [hne '\\' (by decide), hbreak, hq, Bool.false_and, Bool.false_eq_true, if_false]
  | line start =>
    simp only [resume]
    conv_lhs => rw [lineEnd, dif_pos hpos]
    simp only [hbreak, Bool.false_eq_true, if_false]
  | block start =>
    have hnext : blockEnd bytes pos = blockEnd bytes (pos + 1) := by
      rw [blockEnd]
      split
      · simp only [hne '*' (by decide), Bool.false_and, Bool.false_eq_true, if_false]
      · rw [blockEnd, dif_neg (by omega)]
    simp only [resume, hnext]

/-- So it passes over what is left of a character when its first byte is read. -/
lemma resume_rest (mode : Mode) (hmode : Proper mode) (h : Reads bytes pos (c :: cs)) :
    resume bytes mode (pos + 1) = resume bytes mode (pos + c.utf8Size) := by
  obtain ⟨-, -, -, hfurther⟩ := h.cons
  have hsize := c.utf8Size_pos
  suffices hskip : ∀ n, n < c.utf8Size →
      resume bytes mode (pos + 1) = resume bytes mode (pos + 1 + n) by
    rw [hskip (c.utf8Size - 1) (by omega), Nat.add_assoc, Nat.add_sub_cancel' hsize]
  intro n hn
  induction n with
  | zero => rfl
  | succ n ih =>
    obtain ⟨hlt, hb⟩ := hfurther (pos + 1 + n) (by omega) (by omega)
    rw [ih (by omega), resume_succ hmode hlt hb, Nat.add_assoc]

/-- How a literal goes on is decided by the character that comes next. -/
lemma literalEnd_eq {q : Char} (hq : CommentRange.isQuote q = true)
    (h : Reads bytes pos (c :: cs)) :
    literalEnd bytes q.toUInt8 pos =
      if c == '\\' then literalEnd bytes q.toUInt8 (pos + 2)
      else if CommentRange.isLineBreak c && q != '\x60' then pos
      else if c == q then pos + 1
      else literalEnd bytes q.toUInt8 (pos + 1) := by
  obtain ⟨hpos, hc, -⟩ := h.cons
  have htemplate : (q.toUInt8 != '\x60'.toUInt8) = (q != '\x60') :=
    congrArg not (tells_toUInt8 (isAscii_of_isQuote hq) '\x60' (by decide))
  rw [literalEnd, dif_pos hpos, hc '\\' (by decide), hc.isLineBreak, htemplate,
    hc q (isAscii_of_isQuote hq)]

/-- In code the scan passes over a character that opens neither a literal nor a comment. -/
lemma resume_code (h : Reads bytes pos (c :: cs)) (hquote : CommentRange.isQuote c = false)
    (hslash : ∀ s, IsAscii s → (s = '/' ∨ s = '*') → c = '/' → cs.head? ≠ some s) :
    resume bytes .code pos = resume bytes .code (pos + c.utf8Size) := by
  obtain ⟨hpos, hc, hnext, -⟩ := h.cons
  have hopens : ∀ s, IsAscii s → (s = '/' ∨ s = '*') →
      (bytes[pos] == '/'.toUInt8 && bytes[pos + 1]? == some s.toUInt8) = false := by
    intro s hs hdelimiter
    rw [hc '/' (by decide), Bool.and_eq_false_imp, beq_iff_eq]
    rintro rfl
    have hnext : Reads bytes (pos + 1) cs := hnext
    rw [hnext.getElem?_beq hs, beq_eq_false_iff_ne]
    exact hslash s hs hdelimiter rfl
  rw [← resume_rest .code trivial h, resume, scanFrom, dif_pos hpos, hc.isQuote, hquote,
    if_neg (by decide), hopens '/' (by decide) (.inl rfl), if_neg (by decide),
    hopens '*' (by decide) (.inr rfl), if_neg (by decide), resume]

/-- So a line break is passed over, whatever comes after it. -/
lemma resume_lineBreak (h : Reads bytes pos (c :: cs)) (hc : CommentRange.isLineBreak c = true) :
    resume bytes .code pos = resume bytes .code (pos + c.utf8Size) := by
  rcases isLineBreak_iff.1 hc with rfl | rfl <;>
    exact resume_code h (by decide) fun _ _ _ hslash => by simp at hslash

/-! ### What a scan looks for -/

/-- At the end of the text a comment that is still open is the last one. -/
lemma resume_nil (mode : Mode) (h : Reads bytes pos []) :
    resume bytes mode pos = pending mode pos := by
  obtain rfl := h.nil
  have hend : ¬ bytes.size < bytes.size := Nat.lt_irrefl _
  have hscan : scanFrom bytes bytes.size = [] := by rw [scanFrom, dif_neg hend]
  cases mode with
  | code => exact hscan
  | quoted q =>
    have hliteral : literalEnd bytes q.toUInt8 bytes.size = bytes.size := by
      rw [literalEnd, dif_neg hend]
    simp only [resume, hliteral, hscan, pending]
  | line start =>
    have hline : lineEnd bytes bytes.size = bytes.size := by rw [lineEnd, dif_neg hend]
    simp only [resume, hline, hscan, pending]
  | block start =>
    have hblock : blockEnd bytes bytes.size = bytes.size := by
      rw [blockEnd, dif_neg (by omega)]
    simp only [resume, hblock, hscan, pending]

lemma resume_openLine (h : Reads bytes pos ('/' :: '/' :: cs)) :
    resume bytes .code pos = resume bytes (.line pos) (pos + 2) := by
  obtain ⟨hpos, hslash, hnext, -⟩ := h.cons
  have hsecond : (bytes[pos + 1]? == some '/'.toUInt8) = true := hnext.getElem?_beq (by decide)
  rw [resume, scanFrom, dif_pos hpos, hslash.isQuote, if_neg (by decide), hslash '/' (by decide),
    hsecond, if_pos (by decide)]
  rfl

lemma resume_openBlock (h : Reads bytes pos ('/' :: '*' :: cs)) :
    resume bytes .code pos = resume bytes (.block pos) (pos + 2) := by
  obtain ⟨hpos, hslash, hnext, -⟩ := h.cons
  have hsecond : (bytes[pos + 1]? == some '*'.toUInt8) = true := hnext.getElem?_beq (by decide)
  have hother : (bytes[pos + 1]? == some '/'.toUInt8) = false := hnext.getElem?_beq (by decide)
  rw [resume, scanFrom, dif_pos hpos, hslash.isQuote, if_neg (by decide), hslash '/' (by decide),
    hother, if_neg (by decide), hsecond, if_pos (by decide)]
  rfl

lemma resume_openLiteral (h : Reads bytes pos (c :: cs)) (hquote : CommentRange.isQuote c = true) :
    resume bytes .code pos = resume bytes (.quoted c) (pos + c.utf8Size) := by
  obtain ⟨hpos, hc, -⟩ := h.cons
  have hbyte : bytes[pos] = c.toUInt8 :=
    beq_iff_eq.1 ((hc c (isAscii_of_isQuote hquote)).trans (beq_self_eq_true c))
  rw [← resume_rest (.quoted c) hquote h, resume, scanFrom, dif_pos hpos, hc.isQuote,
    if_pos hquote, hbyte, resume]

section Literal

variable {q : Char}

/-- A backslash takes one byte along, and then the rest of its character is passed over. -/
lemma resume_escape (hq : CommentRange.isQuote q = true) (h : Reads bytes pos ('\\' :: c :: cs)) :
    resume bytes (.quoted q) pos = resume bytes (.quoted q) (pos + 1 + c.utf8Size) := by
  have hnext : Reads bytes (pos + 1) (c :: cs) := h.tail
  rw [← resume_rest (.quoted q) hq hnext]
  simp only [resume, literalEnd_eq hq h, beq_self_eq_true, if_true]

/-- A literal ends at its quote, and one that is no template also at a line break. -/
lemma resume_closeLiteral (hq : CommentRange.isQuote q = true) (h : Reads bytes pos (c :: cs))
    (hstop : (c == q || CommentRange.isLineBreak c && q != '\x60') = true) :
    resume bytes (.quoted q) pos = resume bytes .code (pos + c.utf8Size) := by
  by_cases hbreak : (CommentRange.isLineBreak c && q != '\x60') = true
  · -- The literal ends before the line break, which is then passed over.
    have hc := (Bool.and_eq_true_iff.1 hbreak).1
    have hescape : (c == '\\') = false := by
      rcases isLineBreak_iff.1 hc with rfl | rfl <;> rfl
    rw [← resume_lineBreak h hc]
    simp only [resume, literalEnd_eq hq h, hescape, hbreak, Bool.false_eq_true, if_false, if_true]
  · rw [Bool.not_eq_true] at hbreak
    rw [hbreak, Bool.or_false] at hstop
    obtain rfl := beq_iff_eq.1 hstop
    have hescape : (c == '\\') = false := by
      refine beq_eq_false_iff_ne.2 ?_
      rintro rfl
      simp [CommentRange.isQuote] at hq
    have hsize := utf8Size_of_isAscii (isAscii_of_isQuote hq)
    simp only [resume, literalEnd_eq hq h, hescape, hbreak, beq_self_eq_true, hsize,
      Bool.false_eq_true, if_false, if_true]

/-- Any other character is passed over, and a backslash too when nothing comes after it. -/
lemma resume_literal (hq : CommentRange.isQuote q = true) (h : Reads bytes pos (c :: cs))
    (hescape : ∀ c' cs', c = '\\' → cs ≠ c' :: cs')
    (hgo : (c == q || CommentRange.isLineBreak c && q != '\x60') = false) :
    resume bytes (.quoted q) pos = resume bytes (.quoted q) (pos + c.utf8Size) := by
  rw [← resume_rest (.quoted q) hq h]
  rw [Bool.or_eq_false_iff] at hgo
  simp only [resume, literalEnd_eq hq h, hgo, Bool.false_eq_true, if_false]
  split
  · next hc =>
    -- The backslash is the last character, so no byte is left either way.
    cases cs with
    | nil =>
      have hsize : c.utf8Size = 1 := by rw [beq_iff_eq.1 hc]; rfl
      have hend := h.tail.nil
      rw [literalEnd, dif_neg (by omega), literalEnd, dif_neg (by omega)]
    | cons c' cs' => exact absurd rfl (hescape c' cs' (beq_iff_eq.1 hc))
  · rfl

end Literal

section Comment

variable {start : Nat}

/-- A line comment ends before a line break, which is then passed over. -/
lemma resume_closeLine (h : Reads bytes pos (c :: cs)) (hc : CommentRange.isLineBreak c = true) :
    resume bytes (.line start) pos
      = ⟨UInt32.ofNat start, UInt32.ofNat pos, false⟩
          :: resume bytes .code (pos + c.utf8Size) := by
  obtain ⟨hpos, hbyte, -⟩ := h.cons
  have hend : lineEnd bytes pos = pos := by
    rw [lineEnd, dif_pos hpos, hbyte.isLineBreak, if_pos hc]
  rw [← resume_lineBreak h hc]
  simp only [resume, hend]

lemma resume_line (h : Reads bytes pos (c :: cs)) (hc : CommentRange.isLineBreak c = false) :
    resume bytes (.line start) pos = resume bytes (.line start) (pos + c.utf8Size) := by
  obtain ⟨hpos, hbyte, -⟩ := h.cons
  have hend : lineEnd bytes pos = lineEnd bytes (pos + 1) := by
    rw [lineEnd, dif_pos hpos, hbyte.isLineBreak, if_neg (by simp [hc])]
  rw [← resume_rest (.line start) trivial h]
  simp only [resume, hend]

lemma resume_closeBlock (h : Reads bytes pos ('*' :: '/' :: cs)) :
    resume bytes (.block start) pos
      = ⟨UInt32.ofNat start, UInt32.ofNat (pos + 2), true⟩ :: resume bytes .code (pos + 2) := by
  obtain ⟨_, hstar, hnext, -⟩ := h.cons
  have hnext : Reads bytes (pos + 1) ('/' :: cs) := hnext
  obtain ⟨hpos, hslash, -⟩ := hnext.cons
  have hend : blockEnd bytes pos = pos + 2 := by
    rw [blockEnd, dif_pos hpos, hstar '*' (by decide), hslash '/' (by decide), if_pos (by decide)]
  simp only [resume, hend]

lemma resume_block (h : Reads bytes pos (c :: cs)) (hc : ∀ cs', c = '*' → cs ≠ '/' :: cs') :
    resume bytes (.block start) pos = resume bytes (.block start) (pos + c.utf8Size) := by
  obtain ⟨_, hbyte, hnext, -⟩ := h.cons
  have hend : blockEnd bytes pos = blockEnd bytes (pos + 1) := by
    rw [blockEnd]
    split
    · next hlt =>
      have hdelimiter : (bytes[pos] == '*'.toUInt8 && bytes[pos + 1] == '/'.toUInt8) = false := by
        rw [hbyte '*' (by decide), Bool.and_eq_false_imp, beq_iff_eq]
        rintro rfl
        have hnext : Reads bytes (pos + 1) cs := hnext
        have hsecond := hnext.getElem?_beq (s := '/') (by decide)
        rw [getElem?_pos bytes (pos + 1) hlt] at hsecond
        refine hsecond.trans (beq_eq_false_iff_ne.2 fun hhead => ?_)
        obtain ⟨cs', hcs⟩ := List.head?_eq_some_iff.1 hhead
        exact hc cs' rfl hcs
      rw [hdelimiter, if_neg (by decide)]
    · rw [blockEnd, dif_neg (by omega)]
  rw [← resume_rest (.block start) trivial h]
  simp only [resume, hend]

end Comment

/-! ### The two scans -/

/-- In every mode both scans find the same.  By induction along the scan of the characters: each of
its equations is a step of the scan of the bytes. -/
lemma resume_eq (mode : Mode) (hmode : Proper mode) (h : Reads bytes pos cs) :
    resume bytes mode pos = CommentRange.scanFrom mode pos cs := by
  fun_induction CommentRange.scanFrom mode pos cs with
  | case1 mode pos => exact resume_nil mode h
  | case2 pos cs ih =>
    rw [resume_openLine h, ih trivial (h.tail_two (by decide) (by decide))]
  | case3 pos cs ih =>
    rw [resume_openBlock h, ih trivial (h.tail_two (by decide) (by decide))]
  | case4 pos c cs hline hblock ih =>
    by_cases hquote : CommentRange.isQuote c = true
    · rw [if_pos hquote] at ih ⊢
      rw [resume_openLiteral h hquote, ih hquote h.tail]
    · rw [if_neg hquote] at ih ⊢
      rw [← ih trivial h.tail]
      -- After a slash comes neither a second one nor a star.
      refine resume_code h (Bool.eq_false_iff.2 hquote) fun s _ hs hslash hhead => ?_
      obtain ⟨cs', rfl⟩ := List.head?_eq_some_iff.1 hhead
      rcases hs with rfl | rfl
      · exact hline cs' hslash rfl
      · exact hblock cs' hslash rfl
  | case5 q pos c cs ih =>
    have hnext : Reads bytes (pos + 1) (c :: cs) := h.tail
    rw [resume_escape hmode h, ih hmode hnext.tail]
  | case6 q pos c cs hescape hstop ih =>
    rw [resume_closeLiteral hmode h hstop, ih trivial h.tail]
  | case7 q pos c cs hescape hgo ih =>
    rw [resume_literal hmode h hescape (Bool.eq_false_iff.2 hgo), ih hmode h.tail]
  | case8 start pos c cs hc ih =>
    have hsize := utf8Size_of_isAscii (isAscii_of_isLineBreak hc)
    rw [resume_closeLine h hc, hsize, ih trivial (hsize ▸ h.tail)]
  | case9 start pos c cs hc ih =>
    rw [resume_line h (Bool.eq_false_iff.2 hc), ih trivial h.tail]
  | case10 start pos cs ih =>
    rw [resume_closeBlock h, ih trivial (h.tail_two (by decide) (by decide))]
  | case11 start pos c cs hc ih =>
    rw [resume_block h hc, ih trivial h.tail]

end Bytes

/-- The scan of the bytes finds exactly the comments that the scan of the characters finds. -/
lemma scanBytes_eq_scan (source : String) : scanBytes source = scan source :=
  Bytes.resume_eq .code trivial (Bytes.Reads.start source)

end Gls.CommentRange
