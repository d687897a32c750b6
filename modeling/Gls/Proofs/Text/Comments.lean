/-
# Where comments stand

The scanner goes through the source text once, from its start to its end.  So it finds comments in
the order in which they stand, and every comment ends before the next one begins.

Places are kept in 32 bits, and those of a text too long for that wrap around.  `InOrder` is
therefore about the places that the scanner counts, which never wrap.  In a text that 32 bits can
address the ranges themselves are in order, and each cuts out a comment between two characters,
although the bytes alone tell where.
-/
import Gls.Proofs.Text.CommentBytes
import Gls.Proofs.Text.Unbroken

namespace Gls.CommentRange

open Text

/-- Ranges that stand one after the other between two places of a text. -/
inductive InOrder : Nat → Nat → List CommentRange → Prop where
  | nil {low high : Nat} : InOrder low high []
  | cons {low high start stop : Nat} {isBlock : Bool} {rs : List CommentRange}
      (above : low ≤ start) (forward : start ≤ stop) (within : stop ≤ high)
      (rest : InOrder stop high rs) :
      InOrder low high (⟨UInt32.ofNat start, UInt32.ofNat stop, isBlock⟩ :: rs)

lemma Comments.inOrder {pos high : Nat} {cs : List Char} {rs : List CommentRange}
    (h : Comments pos cs rs) (hhigh : pos + byteLength cs ≤ high) : InOrder pos high rs := by
  induction h with
  | nil => exact .nil
  | @cons pos gap text rest isBlock rs comment after ih =>
    rw [byteLength_append, ← Nat.add_assoc] at hhigh
    have hforward : pos + byteLength gap ≤ pos + byteLength (gap ++ text) := by
      rw [byteLength_append]
      omega
    exact .cons (Nat.le_add_right pos _) hforward
      (Nat.le_trans (Nat.le_add_right _ (byteLength rest)) hhigh) (ih hhigh)

/-- The comments of a source text stand in it one after the other. -/
lemma inOrder_scan (source : String) : InOrder 0 (byteLength source.toList) (scan source) :=
  (comments_scan source).inOrder (Nat.le_of_eq (Nat.zero_add _))

end Gls.CommentRange

namespace Gls

open CommentRange Text

/-- In a source that 32 bits can address, the comments that are found come in order and do not
overlap.  Each of them begins and ends between two characters of the source, and what stands there
is a comment: a line comment up to its line break, or a block comment up to the first closing
delimiter after the opening one, or up to the end of the source if there is none.  The bytes of the
source, read one by one and two by two after a backslash in a literal, give the same ranges. -/
theorem comments_stand_apart (source : String)
    (hsize : byteLength source.toList < UInt32.size) :
    (scan source).Pairwise (fun r s => r.pos < s.pos ∧ r.stop ≤ s.pos) ∧
    (∀ r ∈ scan source, r.pos < r.stop ∧ r.stop.toNat ≤ byteLength source.toList ∧
      r.text source ≠ "" ∧
      ∃ pre text post, source.toList = pre ++ text ++ post ∧ r.pos.toNat = byteLength pre ∧
        r.stop.toNat = byteLength (pre ++ text) ∧ r.text source = String.ofList text ∧
        IsComment r.isBlock text post) ∧
    scanBytes source = scan source := by
  have hpairwise := ((comments_scan source).pairwise (by rwa [Nat.zero_add])).1
  refine ⟨hpairwise, fun r hr => ?_, scanBytes_eq_scan source⟩
  obtain ⟨pre, text, post, hsource, hcomment, hpos, hstop, htext⟩ := exists_comment hsize hr
  have hlength := hcomment.two_le_byteLength
  have hwithin := congrArg byteLength hsource
  rw [byteLength_append] at hwithin
  refine ⟨?_, by omega, ?_, pre, text, post, hsource, hpos, hstop, htext, hcomment⟩
  · rw [byteLength_append] at hstop
    rw [UInt32.lt_iff_toNat_lt]
    omega
  · rw [htext]
    intro hempty
    obtain rfl : text = [] := by simpa using hempty
    simp [byteLength] at hlength

/-- Comments after a literal whose backslash stands before a character of two bytes, the last of
them without an end. -/
def accentedSource : String := "let \u00e9 = 'a\\\u00e9//'; // \u00e9/*\n/* \u00e9 */ /*/ '"

theorem accented_comments_stand_apart :
    byteLength accentedSource.toList < UInt32.size ∧
    scanBytes accentedSource = [⟨19, 26, false⟩, ⟨27, 35, true⟩, ⟨36, 41, true⟩] ∧
    (scan accentedSource).Pairwise (fun r s => r.pos < s.pos ∧ r.stop ≤ s.pos) ∧
    ∀ r ∈ scan accentedSource, r.text accentedSource ≠ "" := by
  have hsize : byteLength accentedSource.toList < UInt32.size := by decide
  obtain ⟨hpairwise, hplace, hbytes⟩ := comments_stand_apart accentedSource hsize
  refine ⟨hsize, ?_, hpairwise, fun r hr => (hplace r hr).2.2.1⟩
  rw [hbytes]
  decide

end Gls
