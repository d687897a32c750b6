/-
# Sets of flags are read as they were written

A set is written as the names of its bits and, for bits without a name, a hexadecimal number.
Reading joins the bits of all pieces.  Nothing is lost on the way when each name stands for one bit,
no name is given twice, and names can be told apart from bars, blanks and numbers.
-/
import Gls.Proofs.Json.Escape
import Gls.Types.Table
import Mathlib.Data.List.Nodup
import Mathlib.Data.List.TakeWhile

namespace Gls

/-! ### Pieces of a text -/

namespace Text

lemma splitAt_of_not_mem {sep : Char} {cs : List Char} (h : sep ∉ cs) : splitAt sep cs = [cs] := by
  induction cs with
  | nil => rfl
  | cons c cs ih =>
    rw [List.mem_cons, not_or] at h
    rw [splitAt, if_neg (fun hc => h.1 hc.symm), ih h.2]

lemma splitAt_append {sep : Char} {cs : List Char} (h : sep ∉ cs) (ds : List Char) :
    splitAt sep (cs ++ sep :: ds) = cs :: splitAt sep ds := by
  induction cs with
  | nil => simp [splitAt]
  | cons c cs ih =>
    rw [List.mem_cons, not_or] at h
    rw [List.cons_append, splitAt, if_neg (fun hc => h.1 hc.symm), ih h.2]

/-- A piece that can stand between bars: it has no bar and no blank, and is not empty. -/
structure IsPiece (cs : List Char) : Prop where
  ne_nil : cs ≠ []
  nonblank : ∀ c ∈ cs, isBlank c = false
  no_bar : '|' ∉ cs

instance (cs : List Char) : Decidable (IsPiece cs) :=
  decidable_of_iff (cs ≠ [] ∧ (cs.all fun c => !isBlank c) = true ∧ '|' ∉ cs)
    ⟨fun h => ⟨h.1, by simpa using h.2.1, h.2.2⟩,
      fun h => ⟨h.ne_nil, by simpa using h.nonblank, h.no_bar⟩⟩

lemma dropWhile_blank {ls cs : List Char} (hl : ∀ c ∈ ls, isBlank c = true) (hne : cs ≠ [])
    (hcs : ∀ c ∈ cs, isBlank c = false) (rs : List Char) :
    (ls ++ (cs ++ rs)).dropWhile isBlank = cs ++ rs := by
  rw [List.dropWhile_append_of_pos hl]
  cases cs with
  | nil => exact absurd rfl hne
  | cons c cs => simp [hcs c List.mem_cons_self]

/-- Trimming finds a piece between blanks. -/
lemma IsPiece.trim_eq {cs : List Char} (h : IsPiece cs) {ls rs : List Char}
    (hl : ∀ c ∈ ls, isBlank c = true) (hr : ∀ c ∈ rs, isBlank c = true) :
    trim (ls ++ (cs ++ rs)) = cs := by
  have hback : (rs.reverse ++ (cs.reverse ++ [])).dropWhile isBlank = cs.reverse ++ [] :=
    dropWhile_blank (by simpa using hr) (by simpa using h.ne_nil) (by simpa using h.nonblank) []
  rw [trim, trimLeft, dropWhile_blank hl h.ne_nil h.nonblank, trimRight, List.reverse_append]
  simpa using congrArg List.reverse hback

/-- Pieces that are joined by bars between blanks are found again. -/
lemma map_trim_splitAt_intercalate {p l : List Char} {ps : List (List Char)}
    (hl : ∀ c ∈ l, isBlank c = true) (hbar : '|' ∉ l) (h : ∀ q ∈ p :: ps, IsPiece q) :
    (splitAt '|' (l ++ List.intercalate [' ', '|', ' '] (p :: ps))).map trim = p :: ps := by
  induction ps generalizing p l with
  | nil =>
    have hp := h p List.mem_cons_self
    rw [List.intercalate_singleton, splitAt_of_not_mem (by simp [hbar, hp.no_bar])]
    have htrim : trim (l ++ (p ++ [])) = p := hp.trim_eq hl (by simp)
    simpa using htrim
  | cons q qs ih =>
    obtain ⟨hp, hqs⟩ := List.forall_mem_cons.1 h
    have hblank : ∀ c ∈ [' '], isBlank c = true := List.all_eq_true.1 rfl
    -- The blank after the bar goes to the next piece, so the induction carries blanks in front.
    have hrest : l ++ List.intercalate [' ', '|', ' '] (p :: q :: qs)
        = (l ++ (p ++ [' '])) ++ '|' :: ([' '] ++ List.intercalate [' ', '|', ' '] (q :: qs)) := by
      simp [List.intercalate_cons_cons]
    rw [hrest, splitAt_append (by simp [hbar, hp.no_bar]), List.map_cons, hp.trim_eq hl hblank,
      ih hblank (by decide) hqs]

end Text

namespace FlagNames

variable {w : Nat} {names : FlagNames w}

/-! ### Hexadecimal numbers -/

lemma hexValue?_digitChar {d : Nat} (h : d < 16) : Json.hexValue? d.digitChar = some d := by
  have hall : ∀ d < 16, Json.hexValue? (Nat.digitChar d) = some d := by decide
  exact hall d h

lemma hexValue?_hexChars (n : Nat) : hexValue? (hexChars n) = some n := by
  induction n using Nat.strongRecOn with
  | ind n ih =>
    rw [hexChars]
    by_cases hn : n < 16
    · rw [Nat.toDigits_of_lt_base hn]
      simp [hexValue?, hexValue?_digitChar hn]
    · have hrec := ih (n / 16) (by omega)
      rw [hexValue?, hexChars] at hrec
      rw [Nat.toDigits_of_base_le (by decide) (Nat.le_of_not_lt hn), hexValue?, List.foldlM_append,
        hrec]
      simp [hexValue?_digitChar (Nat.mod_lt n (by decide : 0 < 16)), Nat.div_add_mod]

lemma isPiece_hex (n : Nat) : Text.IsPiece ('0' :: 'x' :: hexChars n) := by
  have hplain : ∀ d < 16, Text.isBlank (Nat.digitChar d) = false ∧ '|' ≠ Nat.digitChar d := by
    decide
  refine ⟨by simp, fun c hc => ?_, fun hbar => ?_⟩
  · simp only [List.mem_cons] at hc
    rcases hc with rfl | rfl | hc
    · decide
    · decide
    · obtain ⟨d, hd, rfl⟩ := Json.exists_digitChar_of_mem (by decide) hc
      exact (hplain d hd).1
  · simp only [List.mem_cons, Char.reduceEq, false_or] at hbar
    obtain ⟨d, hd, hbar⟩ := Json.exists_digitChar_of_mem (by decide) hbar
    exact (hplain d hd).2 hbar

/-- A number is read from its digits, when it fits. -/
lemma hexBits?_hexChars (bits : BitVec w) : hexBits? (hexChars bits.toNat) = some bits := by
  have hne : hexChars bits.toNat ≠ [] := Nat.toDigits_ne_nil
  rw [hexBits?, hexValue?_hexChars, if_neg (by simpa using hne), Option.bind_some,
    BitVec.ofNat_toNat, BitVec.setWidth_eq, if_pos rfl]
  · -- A plus sign in front would be skipped, but no digit is one.
    intro ds h
    have hsign : ∀ d < 16, '+' ≠ Nat.digitChar d := by decide
    have hmem : '+' ∈ hexChars bits.toNat := h ▸ List.mem_cons_self
    obtain ⟨d, hd, hplus⟩ := Json.exists_digitChar_of_mem (by decide) hmem
    exact hsign d hd hplus

/-! ### Bits -/

lemma getLsbD_foldl_or (bs : List (BitVec w)) (b : BitVec w) (i : Nat) :
    (bs.foldl (· ||| ·) b).getLsbD i = (b.getLsbD i || bs.any fun b => b.getLsbD i) := by
  induction bs generalizing b with
  | nil => simp
  | cons c bs ih => simp [ih, Bool.or_assoc]

/-- Names that can be written and read: each stands for one bit and for a bit of its own, and none
looks like a number, or like several pieces. -/
structure Readable (names : FlagNames w) : Prop where
  oneBit : ∀ e ∈ names.single, ∃ i < w, e.2 = BitVec.twoPow w i
  unique : (names.single.map Prod.fst).Nodup
  isPiece : ∀ e ∈ names.single, Text.IsPiece e.1.toList
  notHex : ∀ e ∈ names.single, e.1.toList.head? ≠ some '0'

/-- What is joined when a set is read: the bits with a name that are set, and all others. -/
def joined (names : FlagNames w) (bits : BitVec w) : List (BitVec w) :=
  (names.present bits).map Prod.snd ++ [names.unnamed bits]

lemma getLsbD_unnamed (bits : BitVec w) {i : Nat} (hi : i < w) :
    (names.unnamed bits).getLsbD i
      = (bits.getLsbD i && !(names.single.any fun e => e.2.getLsbD i)) := by
  -- The fold over the entries is one over their bits.
  have hfold : names.single.foldl (fun b e => b ||| e.2) 0
      = (names.single.map Prod.snd).foldl (· ||| ·) 0 := by
    rw [List.foldl_map]
  rw [unnamed, hfold, BitVec.getLsbD_and, BitVec.getLsbD_not, getLsbD_foldl_or, List.any_map]
  simp [hi, Function.comp_def]

namespace Readable

variable (h : names.Readable)
include h

/-- A name whose bit is set is among those that are written. -/
lemma mem_present_iff {e : String × BitVec w} (he : e ∈ names.single) {i : Nat}
    (hi : e.2.getLsbD i = true) (bits : BitVec w) :
    e ∈ names.present bits ↔ bits.getLsbD i = true := by
  obtain ⟨j, hj, hbit⟩ := h.oneBit e he
  obtain rfl : j = i := by
    rw [hbit, BitVec.getLsbD_twoPow] at hi
    simpa [hj] using hi
  rw [present, List.mem_filter, beq_iff_eq, hbit, BitVec.and_twoPow]
  cases hset : bits.getLsbD j with
  | true => simp [he]
  | false =>
    have hne : (0#w) ≠ BitVec.twoPow w j := by
      intro hzero
      have hone : (BitVec.twoPow w j).getLsbD j = true := by simp [hj]
      rw [← hzero] at hone
      simp at hone
    simp [hne]

/-- The bits that are joined are those of the set. -/
lemma foldl_joined (bits : BitVec w) : (names.joined bits).foldl (· ||| ·) 0 = bits := by
  refine BitVec.eq_of_getLsbD_eq fun i hi => ?_
  rw [getLsbD_foldl_or, joined, List.any_append, List.any_map, List.any_cons, List.any_nil,
    getLsbD_unnamed bits hi]
  -- Either some name stands for the bit, and then it is written if the bit is set; or none does.
  by_cases hname : ∃ e ∈ names.single, e.2.getLsbD i = true
  · obtain ⟨e, he, hbit⟩ := hname
    have hany : (names.single.any fun e => e.2.getLsbD i) = true :=
      List.any_eq_true.2 ⟨e, he, hbit⟩
    have hpresent : (names.present bits).any ((fun b => b.getLsbD i) ∘ Prod.snd)
        = bits.getLsbD i := by
      rw [Bool.eq_iff_iff, List.any_eq_true]
      constructor
      · rintro ⟨e', he', hbit'⟩
        exact (h.mem_present_iff (List.mem_of_mem_filter he') hbit' bits).1 he'
      · intro hset
        exact ⟨e, (h.mem_present_iff he hbit bits).2 hset, hbit⟩
    simp [hany, hpresent]
  · have hany : (names.single.any fun e => e.2.getLsbD i) = false := by
      simpa using hname
    have hpresent : (names.present bits).any ((fun b => b.getLsbD i) ∘ Prod.snd) = false := by
      rw [List.any_eq_false]
      intro e he hbit
      exact hname ⟨e, List.mem_of_mem_filter he, hbit⟩
    simp [hany, hpresent]

/-! ### Reading and writing -/

lemma piece?_name {e : String × BitVec w} (he : e ∈ names.single) :
    names.piece? e.1.toList = some e.2 := by
  -- The first entry of that name is found, and it is `e` since no other has the name.
  have hfind : (names.single ++ names.several).find? (fun e' => e'.1 == e.1) = some e := by
    rw [List.find?_append]
    have hsingle : names.single.find? (fun e' => e'.1 == e.1) = some e := by
      have hsome : (names.single.find? fun e' => e'.1 == e.1).isSome :=
        List.find?_isSome.2 ⟨e, he, by simp⟩
      obtain ⟨e', he'⟩ := Option.isSome_iff_exists.1 hsome
      have hname : e'.1 = e.1 := by simpa using List.find?_some he'
      have heq := List.inj_on_of_nodup_map h.unique (List.mem_of_find?_eq_some he') he hname
      rw [he', heq]
    rw [hsingle]
    rfl
  unfold piece?
  split
  · rename_i ds hds
    exact absurd (by rw [hds]; rfl) (h.notHex e he)
  · rw [String.ofList_toList, hfind]
    rfl

omit h in
lemma foldlM_piece? {α : Type} {xs : List α} {text : α → List Char} {value : α → BitVec w}
    (hx : ∀ x ∈ xs, names.piece? (text x) = some (value x)) (b : BitVec w) :
    (xs.map text).foldlM (fun bits p => (names.piece? p).map (bits ||| ·)) b
      = some ((xs.map value).foldl (· ||| ·) b) := by
  induction xs generalizing b with
  | nil => rfl
  | cons x xs ih =>
    obtain ⟨hx, hxs⟩ := List.forall_mem_cons.1 hx
    simp [hx, ih hxs]

lemma isPiece_of_mem_pieces {bits : BitVec w} {p : String} (hp : p ∈ names.pieces bits) :
    Text.IsPiece p.toList := by
  rw [pieces, List.mem_append] at hp
  rcases hp with hp | hp
  · obtain ⟨e, he, rfl⟩ := List.mem_map.1 hp
    exact h.isPiece e (List.mem_of_mem_filter he)
  · split_ifs at hp
    · cases hp
    · rw [List.mem_singleton.1 hp, String.toList_ofList]
      exact isPiece_hex _

/-- The pieces that are written stand for the bits that are joined. -/
lemma foldlM_pieces (bits : BitVec w) :
    ((names.pieces bits).map String.toList).foldlM
        (fun bits p => (names.piece? p).map (bits ||| ·)) 0 = some bits := by
  have hnamed : ∀ e ∈ names.present bits, names.piece? e.1.toList = some e.2 :=
    fun e he => h.piece?_name (List.mem_of_mem_filter he)
  have hjoined := h.foldl_joined bits
  rw [joined, List.foldl_append] at hjoined
  rw [pieces, List.map_append, List.foldlM_append, List.map_map,
    show String.toList ∘ Prod.fst = fun e : String × BitVec w => e.1.toList from rfl,
    foldlM_piece? hnamed, Option.bind_eq_bind, Option.bind_some]
  -- The number is left out when all bits that are set have names.
  split_ifs with hzero
  · rw [hzero] at hjoined
    simpa using hjoined
  · have hhex : names.piece? ('0' :: 'x' :: hexChars (names.unnamed bits).toNat)
        = some (names.unnamed bits) := hexBits?_hexChars _
    simpa [hhex] using hjoined

/-- A set of flags is read as it was written. -/
lemma read?_write (bits : BitVec w) : names.read? (names.write bits) = some bits := by
  have hpieces := h.foldlM_pieces bits
  have hall : ∀ p ∈ (names.pieces bits).map String.toList, Text.IsPiece p := by
    intro p hp
    obtain ⟨q, hq, rfl⟩ := List.mem_map.1 hp
    exact h.isPiece_of_mem_pieces hq
  have hwrite : (names.write bits).toList
      = List.intercalate [' ', '|', ' '] ((names.pieces bits).map String.toList) :=
    String.toList_intercalate
  rw [read?, Text.allBlank, hwrite]
  cases hp : (names.pieces bits).map String.toList with
  | nil =>
    -- Nothing is written for the empty set, and a blank text is read as it.
    rw [hp] at hpieces
    simpa using hpieces
  | cons p ps =>
    rw [hp] at hpieces hall
    have hfirst := hall p List.mem_cons_self
    have hblank : (List.intercalate [' ', '|', ' '] (p :: ps)).all Text.isBlank = false := by
      obtain ⟨c, hc⟩ := List.exists_mem_of_ne_nil p hfirst.ne_nil
      refine List.all_eq_false.2 ⟨c, ?_, by simp [hfirst.nonblank c hc]⟩
      cases ps <;> simp [List.intercalate_cons_cons, hc]
    have hsplit := Text.map_trim_splitAt_intercalate (l := []) (by simp) (by simp) hall
    rw [List.nil_append] at hsplit
    rw [← hsplit, List.foldlM_map] at hpieces
    rw [if_neg (by simp [hblank]), hpieces]

end Readable

end FlagNames

/-! ### Modifiers and type flags -/

lemma Modifiers.readable_names : names.Readable where
  oneBit := by decide
  unique := by decide
  isPiece := by decide
  notHex := by decide

lemma TypeFlags.readable_names : names.Readable where
  oneBit := by decide
  unique := by decide
  isPiece := by decide
  notHex := by decide

end Gls
