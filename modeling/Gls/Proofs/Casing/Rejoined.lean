/-
# Splitting what was joined

Words that are joined with separators come apart again.  Words that are joined by capitals come
apart where the class of the characters shows it: two numbers next to each other run together, and
so do two words of one letter, which as two capitals look like the start of one abbreviation.  The
first word of camel case stays small, so it and a second word of one letter are told apart.

Capitalized words are read back one by one.  Whether a word goes on with the one before it depends
on the class in which that one ends and on the word itself, and not on what comes later, because no
capitalized word begins with a small letter.  So the words that are read are known (`joinedFrom`),
and they are the original ones when none of them runs together with the next.
-/
import Gls.Proofs.Casing.Words
import Mathlib.Data.List.Chain
import Mathlib.Data.List.Forall2

namespace Gls.Casing

open Text

variable {p q : CharClass} {word cs rest w : List Char} {c : Char}

/-! ### Reading runs of a class -/

/-- Between characters of one class no word begins, unless the last of them is a capital before a
small letter. -/
lemma splitFrom_run (hq : q ≠ .separator) (hcs : ∀ c ∈ cs, classify c = q)
    (hrest : startsWord q q (rest.head?.map classify) = false) :
    splitFrom (some q) word (cs ++ rest) = splitFrom (some q) (word ++ cs.flatMap toLower) rest := by
  induction cs generalizing word with
  | nil => simp
  | cons c cs ih =>
    obtain ⟨hc, hcs⟩ := List.forall_mem_cons.1 hcs
    have hgo : startsWord q q ((cs ++ rest).head?.map classify) = false := by
      cases cs with
      | nil => exact hrest
      | cons d cs =>
        obtain ⟨hd, -⟩ := List.forall_mem_cons.1 hcs
        rw [List.cons_append, List.head?_cons, Option.map_some, hd]
        cases q <;> rfl
    rw [List.cons_append, splitFrom_cons (hc ▸ hq), hc, hgo, if_neg Bool.false_ne_true, ih hcs,
      List.flatMap_cons, List.append_assoc]

/-- A text of characters of one class that gives a word in lower case. -/
structure Spells (u w : List Char) : Prop where
  ne : w ≠ []
  lower : u.flatMap toLower = w
  run : ∃ q, q ≠ .separator ∧ ∀ c ∈ u, classify c = q

/-! ### Words between separators -/

/-- After a separator, a text that spells a word is read as this word if a separator or nothing
comes next. -/
lemma splitFrom_spells {u : List Char} (h : Spells u w)
    (hrest : ∀ c ∈ rest.head?, classify c = .separator) :
    splitFrom (some .separator) [] (u ++ rest) = w :: splitFrom (some .separator) [] rest := by
  obtain ⟨hne, rfl, q, hq, hu⟩ := h
  have hword : wordOf (u.flatMap toLower) = [u.flatMap toLower] := by
    rw [wordOf, if_neg (by simpa [List.isEmpty_iff] using hne)]
  have hread : splitFrom (some .separator) [] (u ++ rest)
      = splitFrom (some q) (u.flatMap toLower) rest := by
    cases u with
    | nil => simp at hne
    | cons c u =>
      obtain ⟨hc, hu⟩ := List.forall_mem_cons.1 hu
      have hnext : startsWord q q (rest.head?.map classify) = false := by
        cases rest with
        | nil => cases q <;> rfl
        | cons d rest =>
          rw [List.head?_cons, Option.map_some, hrest d rfl]
          cases q <;> rfl
      rw [List.cons_append, splitFrom_cons (hc ▸ hq), if_neg (by simp [startsWord]), hc,
        splitFrom_run hq hu hnext, List.flatMap_cons, List.nil_append]
  rw [hread]
  cases rest with
  | nil => exact hword
  | cons d rest =>
    have hd := hrest d rfl
    rw [splitFrom_separator hd, splitFrom_separator hd, hword]
    rfl

/-- Texts with separators between them are read as the words they spell. -/
lemma splitFrom_intercalate {sep : Char} (hsep : classify sep = .separator)
    {us ws : List (List Char)} (h : List.Forall₂ Spells us ws) :
    splitFrom (some .separator) [] ([sep].intercalate us) = ws := by
  induction h with
  | nil => rfl
  | @cons u w us ws hu hus ih =>
    cases us with
    | nil =>
      rw [List.forall₂_nil_left_iff.1 hus, List.intercalate_singleton, ← List.append_nil u,
        splitFrom_spells hu (by simp)]
      rfl
    | cons u' us =>
      rw [List.intercalate_cons_cons, List.append_assoc, splitFrom_spells hu (by simpa using hsep),
        List.singleton_append, splitFrom_separator hsep, ih]
      rfl

/-! ### Capitalized words -/

/-- The word with a capital at its start. -/
def capitalized : List Char → List Char
  | [] => []
  | c :: cs => c.toUpper :: cs

/-- The class in which a word ends when it is capitalized. -/
def endClass : List Char → CharClass
  | [] => .separator
  | [c] => if c.isDigit then .digit else .upper
  | c :: _ => if c.isDigit then .digit else .lower

/-- After a character of the class, the capitalized word goes on with the word before it. -/
def joins : CharClass → List Char → Bool
  | .digit, c :: _ => c.isDigit
  | .upper, [c] => !c.isDigit
  | _, _ => false

/-- The words that are read after a word that ends in the class. -/
def joinedFrom (p : CharClass) (word : List Char) : List (List Char) → List (List Char)
  | [] => [word]
  | w :: ws =>
    if joins p w then joinedFrom (endClass w) (word ++ w) ws
    else word :: joinedFrom (endClass w) w ws

/-- No small letter comes first. -/
def NoSmallHead (rest : List Char) : Prop := rest.head?.map classify ≠ some .lower

section Capitalized

variable {t : List Char}

lemma isWord_cons_iff : IsWord (c :: t) ↔
    (c.isLower = true ∧ ∀ d ∈ t, d.isLower = true) ∨
    (c.isDigit = true ∧ ∀ d ∈ t, d.isDigit = true) := by
  constructor
  · intro hw
    generalize h : c :: t = w at hw
    cases hw with
    | letters _ small => exact .inl (List.forall_mem_cons.1 (h ▸ small))
    | digits _ digits => exact .inr (List.forall_mem_cons.1 (h ▸ digits))
  · rintro (⟨hc, ht⟩ | ⟨hc, ht⟩)
    · exact .letters (List.cons_ne_nil c t) (List.forall_mem_cons.2 ⟨hc, ht⟩)
    · exact .digits (List.cons_ne_nil c t) (List.forall_mem_cons.2 ⟨hc, ht⟩)

lemma isAlpha_of_isLower (hc : c.isLower = true) : c.isAlpha = true :=
  of_isLower (by decide +kernel) hc

lemma isDigit_of_isLower (hc : c.isLower = true) : c.isDigit = false :=
  of_isLower (by decide +kernel) hc

lemma classify_toUpper_of_isLower (hc : c.isLower = true) : classify c.toUpper = .upper :=
  of_isLower (by decide +kernel) hc

/-- Digits have no capitals. -/
lemma toUpper_of_isDigit (hc : c.isDigit = true) : c.toUpper = c :=
  of_isDigit (by decide +kernel) hc

/-- Small letters and digits are in lower case. -/
lemma toLower_of_isLower_or (hc : c.isLower = true ∨ c.isDigit = true) : toLower c = [c] :=
  hc.elim (of_isLower (by decide +kernel)) (of_isDigit (by decide +kernel))

/-- Small letters and digits come back from upper case. -/
lemma toLower_toUpper (hc : c.isLower = true ∨ c.isDigit = true) : toLower c.toUpper = [c] :=
  hc.elim (of_isLower (by decide +kernel)) (of_isDigit (by decide +kernel))

lemma flatMap_toLower (ht : ∀ d ∈ t, d.isLower = true ∨ d.isDigit = true) :
    t.flatMap toLower = t := by
  induction t with
  | nil => rfl
  | cons d t ih =>
    obtain ⟨hd, ht⟩ := List.forall_mem_cons.1 ht
    rw [List.flatMap_cons, toLower_of_isLower_or hd, ih ht]
    rfl

/-- Inside a capitalized word no other word begins. -/
lemma splitFrom_tail (hw : IsWord (c :: t)) :
    splitFrom (some (classify c.toUpper)) word (t ++ rest)
      = splitFrom (some (endClass (c :: t))) (word ++ t) rest := by
  rcases isWord_cons_iff.1 hw with ⟨hc, ht⟩ | ⟨hc, ht⟩
  · have hdigit := isDigit_of_isLower hc
    rw [classify_toUpper_of_isLower hc]
    cases t with
    | nil => simp [endClass, hdigit]
    | cons d t =>
      -- After the capital come small letters only.
      have htail : (d :: t).flatMap toLower = d :: t := flatMap_toLower fun e he => .inl (ht e he)
      obtain ⟨hd, ht⟩ := List.forall_mem_cons.1 ht
      rw [List.cons_append, splitFrom_cons (by simp [classify_of_isLower hd]),
        classify_of_isLower hd, if_neg (by simp [startsWord]),
        splitFrom_run (by simp) (fun e he => classify_of_isLower (ht e he)) rfl,
        List.append_assoc, ← List.flatMap_cons, htail]
      simp [endClass, hdigit]
  · rw [toUpper_of_isDigit hc, classify_of_isDigit hc,
      splitFrom_run (by simp) (fun e he => classify_of_isDigit (ht e he)) rfl,
      flatMap_toLower fun e he => .inr (ht e he)]
    cases t <;> simp [endClass, hc]

/-- A word begins with the capital unless it goes on with the word before. -/
lemma startsWord_toUpper (hw : IsWord (c :: t)) (hp : p ≠ .separator)
    (hrest : NoSmallHead rest) :
    startsWord p (classify c.toUpper) ((t ++ rest).head?.map classify) = !joins p (c :: t) := by
  rcases isWord_cons_iff.1 hw with ⟨hc, ht⟩ | ⟨hc, ht⟩
  · rw [classify_toUpper_of_isLower hc]
    cases t with
    | nil =>
      have hnext : (rest.head?.map classify == some .lower) = false := beq_eq_false_iff_ne.2 hrest
      cases p <;> simp_all [startsWord, joins, isDigit_of_isLower hc]
    | cons d t =>
      have hd := classify_of_isLower (ht d List.mem_cons_self)
      cases p <;> simp_all [startsWord, joins, isDigit_of_isLower hc]
  · rw [toUpper_of_isDigit hc, classify_of_isDigit hc]
    cases p <;> cases t <;> simp_all [startsWord, joins]

lemma classify_toUpper_ne (hw : IsWord (c :: t)) :
    classify c.toUpper ≠ .separator ∧ classify c.toUpper ≠ .lower := by
  rcases isWord_cons_iff.1 hw with ⟨hc, -⟩ | ⟨hc, -⟩
  · simp [classify_toUpper_of_isLower hc]
  · simp [toUpper_of_isDigit hc, classify_of_isDigit hc]

end Capitalized

lemma IsWord.ne_nil (hw : IsWord w) : w ≠ [] := by
  cases hw <;> assumption

lemma endClass_ne (hw : IsWord w) : endClass w ≠ .separator := by
  match w, hw with
  | [], hw => exact absurd rfl hw.ne_nil
  | [c], _ | c :: _ :: _, _ => cases h : c.isDigit <;> simp [endClass, h]

/-- A capitalized word goes on with the word before it or begins a new one, and no more depends on
what comes after it. -/
lemma splitFrom_capitalized (hw : IsWord w) (hp : p ≠ .separator) (hrest : NoSmallHead rest) :
    splitFrom (some p) word (capitalized w ++ rest) =
      if joins p w then splitFrom (some (endClass w)) (word ++ w) rest
      else wordOf word ++ splitFrom (some (endClass w)) w rest := by
  match w, hw with
  | [], hw => exact absurd rfl hw.ne_nil
  | c :: t, hw =>
    have hlower : toLower c.toUpper = [c] :=
      toLower_toUpper ((isWord_cons_iff.1 hw).imp And.left And.left)
    rw [capitalized, List.cons_append, splitFrom_cons (classify_toUpper_ne hw).1,
      startsWord_toUpper hw hp hrest, hlower, splitFrom_tail hw, splitFrom_tail hw]
    cases joins p (c :: t) <;> simp

/-- After a separator a capitalized word begins. -/
lemma splitFrom_first_capitalized (hw : IsWord w) :
    splitFrom (some .separator) [] (capitalized w ++ rest)
      = splitFrom (some (endClass w)) w rest := by
  match w, hw with
  | [], hw => exact absurd rfl hw.ne_nil
  | c :: t, hw =>
    have hlower : toLower c.toUpper = [c] :=
      toLower_toUpper ((isWord_cons_iff.1 hw).imp And.left And.left)
    rw [capitalized, List.cons_append, splitFrom_cons (classify_toUpper_ne hw).1,
      if_neg (by simp [startsWord]), hlower, splitFrom_tail hw]
    rfl

section Words

variable {ws : List (List Char)}

lemma noSmallHead_capitalized (hws : ∀ w ∈ ws, IsWord w) :
    NoSmallHead (ws.flatMap capitalized) := by
  match ws, hws with
  | [], _ => simp [NoSmallHead]
  | [] :: _, hws => exact absurd rfl (hws [] List.mem_cons_self).ne_nil
  | (c :: t) :: ws, hws =>
    have hc := (classify_toUpper_ne (hws (c :: t) List.mem_cons_self)).2
    simpa [NoSmallHead, capitalized] using hc

/-- Capitalized words are read one by one. -/
lemma splitFrom_flatMap_capitalized (hws : ∀ w ∈ ws, IsWord w) (hp : p ≠ .separator)
    (hword : word ≠ []) :
    splitFrom (some p) word (ws.flatMap capitalized) = joinedFrom p word ws := by
  have hwordOf : ∀ v : List Char, v ≠ [] → wordOf v = [v] := fun v hv => by
    rw [wordOf, if_neg (by simpa [List.isEmpty_iff] using hv)]
  induction ws generalizing p word with
  | nil => exact hwordOf word hword
  | cons w ws ih =>
    obtain ⟨hw, hws⟩ := List.forall_mem_cons.1 hws
    rw [List.flatMap_cons, splitFrom_capitalized hw hp (noSmallHead_capitalized hws), joinedFrom,
      ih hws (endClass_ne hw) (by simp [hword]), ih hws (endClass_ne hw) hw.ne_nil, hwordOf word hword]
    rfl

/-! ### When no words run together -/

lemma length_joinedFrom_le : (joinedFrom p word ws).length ≤ ws.length + 1 := by
  induction ws generalizing p word with
  | nil => exact Nat.le_refl 1
  | cons w ws ih =>
    rw [joinedFrom]
    split
    · exact Nat.le_succ_of_le ih
    · exact Nat.succ_le_succ ih

/-- All words are read as they are just if none goes on with the one before it. -/
lemma joinedFrom_eq_iff : joinedFrom p word ws = word :: ws ↔
    (∀ w ∈ ws.head?, joins p w = false) ∧
      ws.IsChain fun u v => joins (endClass u) v = false := by
  induction ws generalizing p word with
  | nil => simp [joinedFrom]
  | cons w ws ih =>
    have htail : joinedFrom (endClass w) w ws = w :: ws ↔ _ := ih
    rw [joinedFrom, List.isChain_cons, ← htail]
    cases h : joins p w with
    | false => simp [h]
    | true =>
      refine iff_of_false (fun heq => ?_) (by simp [h])
      -- One word less is read, at least.
      have hlength := congrArg List.length heq
      have hle : (joinedFrom (endClass w) (word ++ w) ws).length ≤ ws.length + 1 :=
        length_joinedFrom_le
      simp only [if_true, List.length_cons] at hlength
      omega

end Words

/-- The word is a number. -/
def AllDigits (w : List Char) : Prop := ∀ c ∈ w, c.isDigit = true

/-- The word is a single letter. -/
def OneLetter (w : List Char) : Prop := w.length = 1 ∧ ∀ c ∈ w, c.isAlpha = true

instance : DecidablePred AllDigits := fun w =>
  inferInstanceAs (Decidable (∀ c ∈ w, c.isDigit = true))

instance : DecidablePred OneLetter := fun w =>
  inferInstanceAs (Decidable (w.length = 1 ∧ ∀ c ∈ w, c.isAlpha = true))

/-- A word is a number if its first character is a digit. -/
lemma allDigits_cons_iff {t : List Char} (hw : IsWord (c :: t)) :
    AllDigits (c :: t) ↔ c.isDigit = true := by
  rw [AllDigits, List.forall_mem_cons]
  refine and_iff_left_of_imp fun hc => ?_
  rcases isWord_cons_iff.1 hw with ⟨hlower, -⟩ | ⟨-, ht⟩
  · rw [isDigit_of_isLower hlower] at hc
    cases hc
  · exact ht

lemma oneLetter_singleton_iff (hw : IsWord [c]) : OneLetter [c] ↔ c.isDigit = false := by
  rw [OneLetter, List.forall_mem_singleton, List.length_singleton]
  rcases isWord_cons_iff.1 hw with ⟨hc, -⟩ | ⟨hc, -⟩
  · simp [isDigit_of_isLower hc, isAlpha_of_isLower hc]
  · simp [not_isAlpha_of_isDigit hc, hc]

lemma endClass_eq_digit_iff (hw : IsWord w) : endClass w = .digit ↔ AllDigits w := by
  match w, hw with
  | [], hw => exact absurd rfl hw.ne_nil
  | [c], hw | c :: _ :: _, hw =>
    rw [allDigits_cons_iff hw]
    cases h : c.isDigit <;> simp [endClass, h]

lemma endClass_eq_upper_iff (hw : IsWord w) : endClass w = .upper ↔ OneLetter w := by
  match w, hw with
  | [], hw => exact absurd rfl hw.ne_nil
  | [c], hw =>
    rw [oneLetter_singleton_iff hw]
    cases h : c.isDigit <;> simp [endClass, h]
  | c :: _ :: _, _ => cases h : c.isDigit <;> simp [endClass, OneLetter, h]

lemma joins_iff (hw : IsWord w) :
    joins p w = true ↔ p = .digit ∧ AllDigits w ∨ p = .upper ∧ OneLetter w := by
  match w, hw with
  | [], hw => exact absurd rfl hw.ne_nil
  | [c], hw =>
    rw [allDigits_cons_iff hw, oneLetter_singleton_iff hw]
    cases p <;> simp [joins]
  | c :: d :: t, hw =>
    rw [allDigits_cons_iff hw]
    cases p <;> simp [joins, OneLetter]

/-- Words next to each other run together when both are numbers, or both are single letters. -/
lemma joins_endClass_iff {v : List Char} (hv : IsWord v) (hw : IsWord w) :
    joins (endClass v) w = true ↔ AllDigits v ∧ AllDigits w ∨ OneLetter v ∧ OneLetter w := by
  rw [joins_iff hw, endClass_eq_digit_iff hv, endClass_eq_upper_iff hv]

/-- A word that stays small ends in its own class. -/
def smallClass (w : List Char) : CharClass := if AllDigits w then .digit else .lower

lemma joins_smallClass_iff {v : List Char} (hw : IsWord w) :
    joins (smallClass v) w = true ↔ AllDigits v ∧ AllDigits w := by
  rw [joins_iff hw, smallClass]
  split <;> simp_all

/-- The characters of a word are of one class. -/
lemma classify_eq_smallClass (hw : IsWord w) : ∀ c ∈ w, classify c = smallClass w := by
  cases hw with
  | digits ne digits =>
    intro c hc
    rw [smallClass, if_pos (show AllDigits w from digits), classify_of_isDigit (digits c hc)]
  | letters ne small =>
    obtain ⟨d, hd⟩ := List.exists_mem_of_ne_nil w ne
    have hletters : ¬ AllDigits w := fun hdigits => by
      have := hdigits d hd
      rw [isDigit_of_isLower (small d hd)] at this
      cases this
    intro c hc
    rw [smallClass, if_neg hletters, classify_of_isLower (small c hc)]

lemma smallClass_ne (w : List Char) : smallClass w ≠ .separator := by
  unfold smallClass
  split <;> simp

/-- Every character of a word is a small letter or a digit. -/
lemma IsWord.isLower_or (hw : IsWord w) : ∀ c ∈ w, c.isLower = true ∨ c.isDigit = true := by
  cases hw with
  | letters _ small => exact fun c hc => .inl (small c hc)
  | digits _ digits => exact fun c hc => .inr (digits c hc)

/-- After a separator a small word is read as it stands. -/
lemma splitFrom_first_small (hw : IsWord w) :
    splitFrom (some .separator) [] (w ++ rest) = splitFrom (some (smallClass w)) w rest := by
  have hclass := classify_eq_smallClass hw
  have hlower := flatMap_toLower hw.isLower_or
  have hrest : startsWord (smallClass w) (smallClass w) (rest.head?.map classify) = false := by
    unfold smallClass
    split <;> rfl
  have hne := smallClass_ne w
  generalize smallClass w = q at hclass hrest hne
  match w, hw with
  | [], hw => exact absurd rfl hw.ne_nil
  | c :: t, hw =>
    obtain ⟨hc, ht⟩ := List.forall_mem_cons.1 hclass
    rw [List.cons_append, splitFrom_cons (hc ▸ hne), if_neg (by simp [startsWord]), hc,
      splitFrom_run hne ht hrest, List.nil_append, ← List.flatMap_cons, hlower]

/-! ### The words of a name -/

/-- Nowhere in the list two words of the kind come one after the other. -/
def NoTwoAdjacent (P : List Char → Prop) (words : List String) : Prop :=
  words.IsChain fun u v => ¬ (P u.toList ∧ P v.toList)

/-- The words of a name, as characters. -/
def wordsOf (name : String) : List (List Char) := splitFrom (some .separator) [] name.toList

lemma split_eq (name : String) : split name = (wordsOf name).map String.ofList := by
  rw [split, splitFrom_none, wordsOf]

lemma map_toList_split (name : String) : (split name).map String.toList = wordsOf name := by
  rw [split_eq, List.map_map]
  exact List.map_id'' (fun w => String.toList_ofList) _

/-- A text is split into the words of a name when it is read as them. -/
lemma split_eq_split_iff (text name : String) :
    split text = split name ↔ wordsOf text = wordsOf name := by
  rw [split_eq, split_eq]
  exact (List.map_injective_iff.2 fun _ _ => String.ofList_injective).eq_iff

lemma isWord_of_mem_wordsOf {name : String} (hname : ∀ c ∈ name.toList, c.toNat < 128) :
    ∀ w ∈ wordsOf name, IsWord w :=
  isWord_of_mem_splitFrom (fun c hc => decide_eq_true (hname c hc)) begun_nil

lemma noTwoAdjacent_map_iff (P : List Char → Prop) (ws : List (List Char)) :
    NoTwoAdjacent P (ws.map String.ofList) ↔ ws.IsChain fun u v => ¬ (P u ∧ P v) := by
  rw [NoTwoAdjacent, List.isChain_map]
  simp only [String.toList_ofList]

lemma isChain_and {α : Type} {R S : α → α → Prop} {l : List α} :
    l.IsChain (fun x y => R x y ∧ S x y) ↔ l.IsChain R ∧ l.IsChain S := by
  induction l with
  | nil => simp
  | cons x l ih =>
    simp only [List.isChain_cons, ih, forall_and]
    exact and_and_and_comm

/-- No capitalized word goes on with the one before it when no two numbers and no two single
letters are adjacent. -/
lemma isChain_joins_iff {ws : List (List Char)} (hws : ∀ w ∈ ws, IsWord w) :
    ws.IsChain (fun u v => joins (endClass u) v = false) ↔
      ws.IsChain (fun u v => ¬ (AllDigits u ∧ AllDigits v)) ∧
      ws.IsChain fun u v => ¬ (OneLetter u ∧ OneLetter v) := by
  rw [← isChain_and]
  refine List.IsChain.iff_of_mem_imp fun u v hu hv => ?_
  rw [← not_or, ← joins_endClass_iff (hws u hu) (hws v hv), Bool.not_eq_true]

lemma isAlphanum_toLower (hc : isAscii c = true) :
    (Char.isAlphanum ∘ Char.toLower) c = c.isAlphanum :=
  of_isAscii (by decide +kernel) hc

/-! ### Names in a style -/

lemma toList_capitalize (hw : IsWord w) : (capitalize (String.ofList w)).toList = capitalized w := by
  match w, hw with
  | [], hw => exact absurd rfl hw.ne_nil
  | c :: t, hw =>
    have hascii := isAscii_of_isLower_or (hw.isLower_or c List.mem_cons_self)
    simp [capitalize, capitalized, toUpper_of_isAscii hascii]

lemma spells_self (hw : IsWord w) : Spells w w :=
  ⟨hw.ne_nil, flatMap_toLower hw.isLower_or, smallClass w, smallClass_ne w,
    classify_eq_smallClass hw⟩

lemma spells_upper (hw : IsWord w) : Spells (w.flatMap toUpper) w := by
  have hupper : w.flatMap toUpper = w.map Char.toUpper := by
    rw [List.map_eq_flatMap]
    exact List.flatMap_congr fun c hc =>
      toUpper_of_isAscii (isAscii_of_isLower_or (hw.isLower_or c hc))
  have hlower : (w.map Char.toUpper).flatMap toLower = w := by
    rw [List.flatMap_map]
    exact (List.flatMap_congr fun c hc => toLower_toUpper (hw.isLower_or c hc)).trans
      (List.flatMap_singleton' w)
  rw [hupper]
  refine ⟨hw.ne_nil, hlower, ?_⟩
  cases hw with
  | letters _ small =>
    exact ⟨.upper, by simp, List.forall_mem_map.2 fun c hc => classify_toUpper_of_isLower (small c hc)⟩
  | digits _ digits =>
    refine ⟨.digit, by simp, List.forall_mem_map.2 fun c hc => ?_⟩
    rw [toUpper_of_isDigit (digits c hc), classify_of_isDigit (digits c hc)]

/-- Joining can be done after the change of all parts. -/
lemma flatMap_intercalate {α β : Type} (f : α → List β) (sep : List α) (ls : List (List α)) :
    (sep.intercalate ls).flatMap f = (sep.flatMap f).intercalate (ls.map (·.flatMap f)) := by
  induction ls with
  | nil => rfl
  | cons l ls ih =>
    cases ls with
    | nil => simp
    | cons l' ls =>
      simp only [List.map_cons] at ih ⊢
      rw [List.intercalate_cons_cons, List.intercalate_cons_cons, List.flatMap_append,
        List.flatMap_append, ih]

section Convert

variable {name : String} (hname : ∀ c ∈ name.toList, c.toNat < 128)
include hname

lemma wordsOf_pascal : wordsOf (convert name .pascal)
    = splitFrom (some .separator) [] ((wordsOf name).flatMap capitalized) := by
  rw [wordsOf, convert, join, split_eq, String.toList_join, List.map_map, List.flatMap_map]
  refine congrArg _ (List.flatMap_congr fun w hw => ?_)
  exact toList_capitalize (isWord_of_mem_wordsOf hname w hw)

lemma wordsOf_camel {ws : List (List Char)} (hwords : wordsOf name = w :: ws) :
    wordsOf (convert name .camel)
      = splitFrom (some .separator) [] (w ++ ws.flatMap capitalized) := by
  have hws := isWord_of_mem_wordsOf hname
  rw [hwords] at hws
  rw [wordsOf, convert, split_eq, hwords, List.map_cons, join, String.toList_join,
    List.flatMap_cons, List.map_map, List.flatMap_map, String.toList_ofList]
  refine congrArg (fun text => splitFrom _ _ (w ++ text)) (List.flatMap_congr fun v hv => ?_)
  exact toList_capitalize (hws v (List.mem_cons_of_mem w hv))

/-- Texts that spell the words are read as them when a separator stands between each two. -/
lemma wordsOf_delimited {sep : String} {c : Char} (hsep : sep.toList = [c])
    (hc : classify c = .separator) : wordsOf (sep.intercalate (split name)) = wordsOf name := by
  rw [wordsOf, String.toList_intercalate, hsep, map_toList_split]
  exact splitFrom_intercalate hc
    (List.forall₂_same.2 fun w hw => spells_self (isWord_of_mem_wordsOf hname w hw))

lemma wordsOf_upperSnake : wordsOf (convert name .upperSnake) = wordsOf name := by
  have hunderscore : ("_".toList).flatMap toUpper = ['_'] := rfl
  rw [wordsOf, convert, join, upperCase, String.toList_ofList, String.toList_intercalate,
    map_toList_split, flatMap_intercalate, hunderscore]
  refine splitFrom_intercalate rfl (List.forall₂_map_left_iff.2 (List.forall₂_same.2 fun w hw => ?_))
  exact spells_upper (isWord_of_mem_wordsOf hname w hw)

/-- In Pascal case words run together where two numbers or two single letters are adjacent. -/
lemma wordsOf_pascal_eq_iff : wordsOf (convert name .pascal) = wordsOf name ↔
    NoTwoAdjacent AllDigits (split name) ∧ NoTwoAdjacent OneLetter (split name) := by
  have hwords := isWord_of_mem_wordsOf hname
  rw [wordsOf_pascal hname, split_eq, noTwoAdjacent_map_iff, noTwoAdjacent_map_iff,
    ← isChain_joins_iff hwords]
  generalize wordsOf name = words at hwords
  match words, hwords with
  | [], _ => exact iff_of_true rfl List.isChain_nil
  | w :: ws, hwords =>
    obtain ⟨hw, hws⟩ := List.forall_mem_cons.1 hwords
    rw [List.flatMap_cons, splitFrom_first_capitalized hw,
      splitFrom_flatMap_capitalized hws (endClass_ne hw) hw.ne_nil, joinedFrom_eq_iff,
      List.isChain_cons]

/-- In camel case the first word stays small, and only as a number it runs together with the
second. -/
lemma wordsOf_camel_eq_iff : wordsOf (convert name .camel) = wordsOf name ↔
    NoTwoAdjacent AllDigits (split name) ∧ NoTwoAdjacent OneLetter (split name).tail := by
  have hwords := isWord_of_mem_wordsOf hname
  rw [split_eq, ← List.map_tail, noTwoAdjacent_map_iff, noTwoAdjacent_map_iff]
  cases h : wordsOf name with
  | nil =>
    refine iff_of_true ?_ ⟨List.isChain_nil, List.isChain_nil⟩
    rw [wordsOf, convert, split_eq, h]
    rfl
  | cons w ws =>
    obtain ⟨hw, hws⟩ := List.forall_mem_cons.1 (h ▸ hwords)
    have hfirst : (∀ v ∈ ws.head?, joins (smallClass w) v = false) ↔
        ∀ v ∈ ws.head?, ¬ (AllDigits w ∧ AllDigits v) :=
      forall₂_congr fun v hv => by
        rw [← joins_smallClass_iff (hws v (List.mem_of_mem_head? hv)), Bool.not_eq_true]
    rw [wordsOf_camel hname h, splitFrom_first_small hw,
      splitFrom_flatMap_capitalized hws (smallClass_ne w) hw.ne_nil, joinedFrom_eq_iff, hfirst,
      isChain_joins_iff hws, List.isChain_cons, List.tail_cons, and_assoc]

/-- Put together, the words are the name in lower case without its separators. -/
lemma join_split : String.join (split name)
    = String.ofList (name.toLower.toList.filter Char.isAlphanum) := by
  have hascii : ∀ c ∈ name.toList, isAscii c = true := fun c hc => decide_eq_true (hname c hc)
  have hfilter : (name.toList.filter fun c => classify c ≠ .separator)
      = name.toList.filter Char.isAlphanum := by
    refine List.filter_congr fun c hc => ?_
    rw [Bool.eq_iff_iff, decide_eq_true_eq, ne_eq, classify_eq_separator_iff (hascii c hc),
      Bool.not_eq_false]
  have hlower : (name.toList.filter Char.isAlphanum).flatMap toLower
      = (name.toList.map Char.toLower).filter Char.isAlphanum := by
    rw [List.filter_map, List.map_eq_flatMap,
      List.filter_congr fun c hc => isAlphanum_toLower (hascii c hc)]
    exact List.flatMap_congr fun c hc => toLower_of_isAscii (hascii c (List.mem_of_mem_filter hc))
  have hjoin : (String.join (split name)).toList = (wordsOf name).flatten := by
    rw [split_eq, String.toList_join, List.flatMap_map]
    simp [List.flatMap_id']
  have hname : name.toLower.toList = name.toList.map Char.toLower := String.toList_map
  rw [← String.toList_inj, hjoin, wordsOf, flatten_splitFrom, hfilter, hlower, List.nil_append,
    String.toList_ofList, hname]

end Convert

end Gls.Casing

namespace Gls

open Casing

/-- The words of an ASCII name in snake, upper snake or kebab case, or between spaces, are the words
of the name.  In Pascal case they are unless two numbers or two single letters are adjacent; in
camel case the first two words may both be single letters.  The words of the name, one after the
other, are the name in lower case with all that is no letter or digit left out. -/
theorem split_convert (name : String) (hname : ∀ c ∈ name.toList, c.toNat < 128) :
    (∀ style ∈ [Style.snake, .upperSnake, .kebab, .spaceLower],
      split (convert name style) = split name) ∧
    (split (convert name .pascal) = split name ↔
      NoTwoAdjacent AllDigits (split name) ∧ NoTwoAdjacent OneLetter (split name)) ∧
    (split (convert name .camel) = split name ↔
      NoTwoAdjacent AllDigits (split name) ∧ NoTwoAdjacent OneLetter (split name).tail) ∧
    String.join (split name) = String.ofList (name.toLower.toList.filter Char.isAlphanum) := by
  simp only [split_eq_split_iff]
  refine ⟨fun style hstyle => ?_, wordsOf_pascal_eq_iff hname, wordsOf_camel_eq_iff hname,
    join_split hname⟩
  simp only [List.mem_cons, List.not_mem_nil, or_false] at hstyle
  rcases hstyle with rfl | rfl | rfl | rfl
  · exact wordsOf_delimited hname rfl rfl
  · exact wordsOf_upperSnake hname
  · exact wordsOf_delimited hname rfl rfl
  · exact wordsOf_delimited hname rfl rfl

theorem coordinates_split_again :
    (∀ c ∈ "x_y2".toList, c.toNat < 128) ∧
    split (convert "x_y2" .upperSnake) = split "x_y2" ∧
    split (convert "x_y2" .camel) = split "x_y2" ∧
    split (convert "x_y2" .pascal) ≠ split "x_y2" ∧
    String.join (split "x_y2") = "xy2" := by
  have hname : ∀ c ∈ "x_y2".toList, c.toNat < 128 := by simp
  have hsplit : split "x_y2" = ["x", "y", "2"] := by decide +kernel
  obtain ⟨hdelimited, hpascal, hcamel, hjoin⟩ := split_convert "x_y2" hname
  have hdigits : NoTwoAdjacent AllDigits ["x", "y", "2"] := by simp [NoTwoAdjacent, AllDigits]
  have htail : NoTwoAdjacent OneLetter ["y", "2"] := by simp [NoTwoAdjacent, OneLetter]
  have hletters : ¬ NoTwoAdjacent OneLetter ["x", "y", "2"] := by simp [NoTwoAdjacent, OneLetter]
  refine ⟨hname, hdelimited _ (by simp), hcamel.2 ?_, fun h => hletters ?_, hjoin.trans ?_⟩
  · rw [hsplit]
    exact ⟨hdigits, htail⟩
  · rw [← hsplit]
    exact (hpascal.1 h).2
  · decide +kernel

end Gls
