/-
# The words of a name

A word begins where the class of the characters changes, so the words of an ASCII name are of two
kinds: small letters, or digits.  Nothing but separators is lost: put together, the words are the
name in lower case without them.

While the splitter reads, the word it has begun is of the kind that the class of the last character
shows, and it is empty after a separator.  At the start of a name the splitter does as it does after
a separator, so the start needs no case of its own.
-/
import Gls.Casing
import Mathlib.Tactic.Common

namespace Gls.Casing

open Text

/-! ### Classes of ASCII characters -/

section Classes

variable {c : Char} {p : Char → Prop}

/-- There are 128 ASCII characters, so what they have in common is found by looking at each. -/
@[elab_as_elim] lemma of_isAscii (h : ∀ n < 128, p (Char.ofNat n)) (hc : isAscii c = true) : p c :=
  Char.ofNat_toNat c ▸ h c.toNat (of_decide_eq_true hc)

lemma isAscii_of_isLower_or (hc : c.isLower = true ∨ c.isDigit = true) : isAscii c = true := by
  have hbound : c.val ≤ 'z'.val := by
    rcases hc with hc | hc
    · exact of_decide_eq_true (Bool.and_eq_true_iff.1 hc).2
    · exact UInt32.le_trans (of_decide_eq_true (Bool.and_eq_true_iff.1 hc).2) (by decide)
  exact decide_eq_true (Nat.lt_of_le_of_lt (UInt32.le_iff_toNat_le.1 hbound) (by decide))

@[elab_as_elim] lemma of_isLower (h : ∀ n < 128, (Char.ofNat n).isLower = true → p (Char.ofNat n))
    (hc : c.isLower = true) : p c :=
  of_isAscii (p := fun c => c.isLower = true → p c) h (isAscii_of_isLower_or (.inl hc)) hc

@[elab_as_elim] lemma of_isDigit (h : ∀ n < 128, (Char.ofNat n).isDigit = true → p (Char.ofNat n))
    (hc : c.isDigit = true) : p c :=
  of_isAscii (p := fun c => c.isDigit = true → p c) h (isAscii_of_isLower_or (.inr hc)) hc

lemma classify_of_isLower (hc : c.isLower = true) : classify c = .lower :=
  of_isLower (by decide +kernel) hc

lemma classify_of_isDigit (hc : c.isDigit = true) : classify c = .digit :=
  of_isDigit (by decide +kernel) hc

lemma not_isAlpha_of_isDigit (hc : c.isDigit = true) : c.isAlpha = false :=
  of_isDigit (by decide +kernel) hc

lemma classify_eq_separator_iff (hc : isAscii c = true) :
    classify c = .separator ↔ c.isAlphanum = false :=
  of_isAscii (by decide +kernel) hc

lemma toLower_of_isAscii (hc : isAscii c = true) : toLower c = [c.toLower] := by
  rw [toLower, if_pos hc]

lemma toUpper_of_isAscii (hc : isAscii c = true) : toUpper c = [c.toUpper] := by
  rw [toUpper, if_pos hc]

end Classes

/-! ### The splitter -/

section Splitter

variable {p : CharClass} {word cs : List Char} {c : Char}

/-- At its start a name is split as after a separator. -/
lemma splitFrom_none (cs : List Char) :
    splitFrom none [] cs = splitFrom (some .separator) [] cs := by
  cases cs with
  | nil => rfl
  | cons c cs =>
    unfold splitFrom
    cases classify c <;> simp [startsWord]

lemma splitFrom_separator (hc : classify c = .separator) :
    splitFrom (some p) word (c :: cs) = wordOf word ++ splitFrom (some .separator) [] cs := by
  conv_lhs => unfold splitFrom
  rw [hc]

lemma splitFrom_cons (hc : classify c ≠ .separator) :
    splitFrom (some p) word (c :: cs) =
      if startsWord p (classify c) (cs.head?.map classify) then
        wordOf word ++ splitFrom (some (classify c)) (toLower c) cs
      else splitFrom (some (classify c)) (word ++ toLower c) cs := by
  conv_lhs => unfold splitFrom
  cases h : classify c with
  | separator => exact absurd h hc
  | lower | upper | digit => rfl

lemma flatten_wordOf (word : List Char) : (wordOf word).flatten = word := by
  unfold wordOf
  split
  · next h => simpa using h
  · simp

/-- The words hold all characters but separators, in lower case. -/
lemma flatten_splitFrom (p : CharClass) (word cs : List Char) :
    (splitFrom (some p) word cs).flatten
      = word ++ (cs.filter fun c => classify c ≠ .separator).flatMap toLower := by
  induction cs generalizing p word with
  | nil => simp [splitFrom, flatten_wordOf]
  | cons c cs ih =>
    by_cases hc : classify c = .separator
    · simp [splitFrom_separator hc, ih, flatten_wordOf, hc]
    · rw [splitFrom_cons hc]
      split <;> simp [ih, flatten_wordOf, hc]

/-! ### Words of ASCII names -/

/-- A word of an ASCII name: small letters, or digits. -/
inductive IsWord : List Char → Prop where
  | letters {w : List Char} (ne : w ≠ []) (small : ∀ c ∈ w, c.isLower = true) : IsWord w
  | digits {w : List Char} (ne : w ≠ []) (digits : ∀ c ∈ w, c.isDigit = true) : IsWord w

/-- The characters of the words that hold, or will hold, a character of the class. -/
def kindOf : CharClass → Char → Bool
  | .lower | .upper => Char.isLower
  | .digit => Char.isDigit
  | .separator => fun _ => false

/-- What the splitter may hold of a word after a character of the class. -/
structure Begun (p : CharClass) (word : List Char) : Prop where
  nil_iff : word = [] ↔ p = .separator
  kind : ∀ c ∈ word, kindOf p c = true

lemma Begun.isWord (h : Begun p word) : ∀ w ∈ wordOf word, IsWord w := by
  unfold wordOf
  split
  · simp
  · next hne =>
    rw [List.isEmpty_iff] at hne
    rw [List.forall_mem_singleton]
    cases p with
    | separator => exact absurd (h.nil_iff.2 rfl) hne
    | digit => exact .digits hne h.kind
    | lower | upper => exact .letters hne h.kind

/-- After a separator no word has begun. -/
lemma begun_nil : Begun .separator [] := ⟨by simp, by simp⟩

/-- Where no word begins, the characters on both sides are of one kind. -/
lemma kindOf_eq {q : CharClass} {next : Option CharClass} (hp : p ≠ .separator)
    (hq : q ≠ .separator) (h : startsWord p q next = false) : kindOf p = kindOf q := by
  cases p <;> cases q <;> simp_all [startsWord, kindOf]

/-- A character begins a word of its kind. -/
lemma begun_toLower (hascii : isAscii c = true) (hc : classify c ≠ .separator) :
    Begun (classify c) (toLower c) := by
  rw [toLower_of_isAscii hascii]
  refine ⟨by simp [hc], ?_⟩
  rw [List.forall_mem_singleton]
  exact of_isAscii (p := fun c => classify c ≠ .separator → kindOf (classify c) c.toLower = true)
    (by decide +kernel) hascii hc

/-- Where no word begins, a character goes on with the word. -/
lemma Begun.append (h : Begun p word) (hascii : isAscii c = true) (hc : classify c ≠ .separator)
    {next : Option CharClass} (hgo : startsWord p (classify c) next = false) :
    Begun (classify c) (word ++ toLower c) := by
  have hbegun := begun_toLower hascii hc
  refine ⟨by simp [hc, hbegun.nil_iff], fun d hd => ?_⟩
  rcases List.mem_append.1 hd with hd | hd
  · have hp : p ≠ .separator := fun hp => List.ne_nil_of_mem hd (h.nil_iff.2 hp)
    exact kindOf_eq hp hc hgo ▸ h.kind d hd
  · exact hbegun.kind d hd

lemma isWord_of_mem_splitFrom (hcs : ∀ c ∈ cs, isAscii c = true) (h : Begun p word) :
    ∀ w ∈ splitFrom (some p) word cs, IsWord w := by
  induction cs generalizing p word with
  | nil => exact h.isWord
  | cons c cs ih =>
    obtain ⟨hc, hcs⟩ := List.forall_mem_cons.1 hcs
    by_cases hclass : classify c = .separator
    · rw [splitFrom_separator hclass, List.forall_mem_append]
      exact ⟨h.isWord, ih hcs begun_nil⟩
    · rw [splitFrom_cons hclass]
      split
      · rw [List.forall_mem_append]
        exact ⟨h.isWord, ih hcs (begun_toLower hc hclass)⟩
      · next hgo => exact ih hcs (h.append hc hclass (Bool.eq_false_iff.2 hgo))

end Splitter

end Gls.Casing
