/-
# Printed values are read back

A value whose strings are escaped texts and whose numbers are natural is printed, over several
lines, to a text that is read as the same value.  The proof goes through the tokens that spell a
value: the lexer finds them in the printed text, and the parser puts them together again.

The lexer ends a bare word only at the character after it.  A state that *holds* tokens has read
them, the last of them perhaps as a word that has not ended yet; nothing but a character that cannot
belong to a word may follow a value, so such a state is as good as one between tokens.
-/
import Gls.Json.Parser
import Gls.Json.Printer
import Gls.Proofs.Json.Escape
import Mathlib.Data.List.TakeWhile

namespace Gls.Json

/-- Values as the library writes them: strings and names are escaped texts, numbers are natural. -/
inductive Clean : Json → Prop
  | null : Clean null
  | bool (b : Bool) : Clean (bool b)
  | nat (n : Nat) : Clean (ofNat n)
  | str (text : String) : Clean (str (escape text))
  | arr {vs : List Json} : (∀ v ∈ vs, Clean v) → Clean (arr vs)
  | obj {ms : List (String × Json)} : (∀ m ∈ ms, ∃ name, m.1 = escape name) →
      (∀ m ∈ ms, Clean m.2) → Clean (obj ms)

/-! ### Tokens of a value -/

mutual

/-- The tokens that spell a value. -/
def spell : Json → List Token
  | null => [.word null]
  | bool b => [.word (bool b)]
  | int n => [.word (int n)]
  | real lexeme => [.word (real lexeme)]
  | str raw => [.text raw]
  | arr [] => [.mark '[', .mark ']']
  | arr (v :: vs) => .mark '[' :: (spell v ++ spellItems vs)
  | obj [] => [.mark '\x7b', .mark '\x7d']
  | obj ((k, v) :: ms) => .mark '\x7b' :: .text k :: .mark ':' :: (spell v ++ spellMembers ms)

/-- The items after the first, and the end of the array. -/
def spellItems : List Json → List Token
  | [] => [.mark ']']
  | v :: vs => .mark ',' :: (spell v ++ spellItems vs)

/-- The members after the first, and the end of the object. -/
def spellMembers : List (String × Json) → List Token
  | [] => [.mark '\x7d']
  | (k, v) :: ms => .mark ',' :: .text k :: .mark ':' :: (spell v ++ spellMembers ms)

end

/-! ### Digits -/

lemma intChars_ofNat (n : Nat) : intChars n = Nat.toDigits 10 n := by
  show (toString n).toList = _
  rw [Nat.toString_eq_repr, Nat.toList_repr]

lemma digitsValue_toDigits (n : Nat) : digitsValue (Nat.toDigits 10 n) = n := by
  have h := Nat.ofDigitChars_ten_toDigits (n := n)
  rw [Nat.ofDigitChars_eq_foldl] at h
  exact h

lemma isDigit_of_mem_toDigits {n : Nat} {c : Char} (h : c ∈ Nat.toDigits 10 n) :
    c.isDigit = true :=
  Nat.isDigit_of_mem_toDigits (by decide) (by decide) h

/-- The digits of a positive number do not begin with a zero. -/
lemma head?_toDigits_ne {n : Nat} (h : 0 < n) : (Nat.toDigits 10 n).head? ≠ some '0' := by
  induction n using Nat.strongRecOn with
  | ind n ih =>
    by_cases hn : n < 10
    · rw [Nat.toDigits_of_lt_base hn]
      have hall : ∀ d < 10, 0 < d → [d.digitChar].head? ≠ some '0' := by decide
      exact hall n hn h
    · rw [Nat.toDigits_of_base_le (by decide) (Nat.le_of_not_lt hn)]
      -- The first digit of `n` is the first digit of what is left without its last one.
      have hrec := ih (n / 10) (by omega) (by omega)
      cases hd : Nat.toDigits 10 (n / 10) with
      | nil => exact absurd hd Nat.toDigits_ne_nil
      | cons d ds =>
        rw [hd] at hrec
        exact hrec

lemma isWhole_toDigits (n : Nat) : isWhole (Nat.toDigits 10 n) = true := by
  rcases Nat.eq_zero_or_pos n with rfl | hn
  · rfl
  · have hhead := head?_toDigits_ne hn
    have hdigits : (Nat.toDigits 10 n).all Char.isDigit = true :=
      List.all_eq_true.2 fun c hc => isDigit_of_mem_toDigits hc
    have hne : Nat.toDigits 10 n ≠ [] := Nat.toDigits_ne_nil
    unfold isWhole
    split <;> simp_all

/-- The digits of a number are the word for it. -/
lemma word?_toDigits (n : Nat) : word? (Nat.toDigits 10 n) = some (ofNat n) := by
  have hdigits : ∀ c ∈ Nat.toDigits 10 n, c.isDigit = true := fun c => isDigit_of_mem_toDigits
  have htake : (Nat.toDigits 10 n).takeWhile Char.isDigit = Nat.toDigits 10 n :=
    List.takeWhile_eq_self_iff.2 hdigits
  have hdrop : (Nat.toDigits 10 n).dropWhile Char.isDigit = [] :=
    List.dropWhile_eq_nil_iff.2 hdigits
  have hnumber : number? (Nat.toDigits 10 n)
      = unsigned? false (String.ofList (Nat.toDigits 10 n)) (Nat.toDigits 10 n) := by
    unfold number?
    split
    · rename_i ds h
      have hminus := hdigits '-' (h ▸ List.mem_cons_self)
      exact absurd hminus (by decide)
    · rfl
  -- Each of the words that are no numbers has a letter.
  have hword : ∀ w : List Char, ∀ c ∈ w, c.isDigit = false → Nat.toDigits 10 n ≠ w := by
    intro w c hc hcd h
    rw [hdigits c (h ▸ hc)] at hcd
    cases hcd
  rw [word?, if_neg (by simpa using hword _ 'n' (by decide) (by decide)),
    if_neg (by simpa using hword _ 't' (by decide) (by decide)),
    if_neg (by simpa using hword _ 'f' (by decide) (by decide)), hnumber, unsigned?, htake, hdrop,
    isWhole_toDigits, digitsValue_toDigits]
  rfl

/-! ### The lexer -/

/-- The state has read these tokens, last first, the last of them perhaps as a word that has not
ended. -/
def LexState.Holds (s : LexState) (ts : List Token) : Prop :=
  s = ⟨.between, ts⟩ ∨ ∃ seen v done, s = ⟨.word seen, done⟩ ∧ word? seen.reverse = some v ∧
    ts = .word v :: done

namespace LexState

variable {s : LexState} {ts done : List Token} {c : Char}

/-- A character that belongs to no word is read as if between tokens. -/
lemma Holds.step (h : s.Holds ts) (hc : isWordChar c = false) : s.step c = outside ts c := by
  rcases h with rfl | ⟨seen, v, done, rfl, hv, rfl⟩
  · rfl
  · simp [LexState.step, hc, hv]

lemma Holds.finish (h : s.Holds ts) : s.finish = some ts.reverse := by
  rcases h with rfl | ⟨seen, v, done, rfl, hv, rfl⟩
  · rfl
  · simp [LexState.finish, hv]

lemma step_mark (h : s.Holds ts) (hc : isMark c = true) :
    s.step c = some ⟨.between, .mark c :: ts⟩ := by
  simp only [isMark, Bool.or_eq_true, beq_iff_eq] at hc
  rcases hc with ((((rfl | rfl) | rfl) | rfl) | rfl) | rfl <;> exact h.step rfl

lemma step_space (h : s.Holds ts) (hc : isSpace c = true) : s.step c = some ⟨.between, ts⟩ := by
  simp only [isSpace, Bool.or_eq_true, beq_iff_eq] at hc
  rcases hc with ((rfl | rfl) | rfl) | rfl <;> exact h.step rfl

/-- Reads a text. -/
def read (s : LexState) (cs : List Char) : Option LexState := cs.foldlM LexState.step s

lemma read_cons (s : LexState) (c : Char) (cs : List Char) :
    s.read (c :: cs) = (s.step c).bind (·.read cs) := by
  simp [read, List.foldlM_cons]

lemma read_append (s : LexState) (cs ds : List Char) :
    s.read (cs ++ ds) = (s.read cs).bind (·.read ds) := by
  simp [read, List.foldlM_append]

lemma read_spaces (n : Nat) : read ⟨.between, ts⟩ (List.replicate n ' ') = some ⟨.between, ts⟩ := by
  induction n with
  | zero => rfl
  | succ n ih => rw [List.replicate_succ, read_cons, step_space (.inl rfl) rfl, Option.bind_some, ih]

lemma read_breakAt (h : s.Holds ts) (level : Nat) :
    s.read (breakAt level) = some ⟨.between, ts⟩ := by
  rw [breakAt, read_cons, step_space h rfl, Option.bind_some, read_spaces]

/-- A mark and a line break. -/
lemma read_mark_break (h : s.Holds ts) (hc : isMark c = true) (level : Nat) (cs : List Char) :
    s.read (c :: breakAt level ++ cs) = read ⟨.between, .mark c :: ts⟩ cs := by
  rw [List.cons_append, read_cons, step_mark h hc, Option.bind_some, read_append,
    read_breakAt (.inl rfl), Option.bind_some]

/-! #### Words -/

lemma outside_word (hc : isWordChar c = true) : outside done c = some ⟨.word [c], done⟩ := by
  -- Spaces, marks and the quote belong to no word, so `c` is none of them.
  have hother : ∀ d, isWordChar d = false → c ≠ d := by
    rintro d hd rfl
    rw [hc] at hd
    cases hd
  have hspace : isSpace c = false := by
    simp [isSpace, hother ' ' rfl, hother '\n' rfl, hother '\t' rfl, hother '\r' rfl]
  have hmark : isMark c = false := by
    simp [isMark, hother '[' rfl, hother ']' rfl, hother '\x7b' rfl, hother '\x7d' rfl,
      hother ',' rfl, hother ':' rfl]
  have hquote : (c == '"') = false := by simpa using hother '"' rfl
  simp [outside, hspace, hmark, hquote, hc]

lemma read_word_of_word {seen cs : List Char} (h : ∀ c ∈ cs, isWordChar c = true) :
    read ⟨.word seen, done⟩ cs = some ⟨.word (cs.reverse ++ seen), done⟩ := by
  induction cs generalizing seen with
  | nil => rfl
  | cons c cs ih =>
    obtain ⟨hc, hcs⟩ := List.forall_mem_cons.1 h
    have hstep : LexState.step ⟨.word seen, done⟩ c = some ⟨.word (c :: seen), done⟩ := by
      simp [LexState.step, hc]
    rw [read_cons, hstep, Option.bind_some, ih hcs]
    simp

/-- The characters of a word are read as that word. -/
lemma read_word {cs : List Char} {v : Json} (hcs : ∀ c ∈ cs, isWordChar c = true)
    (hne : cs ≠ []) (hv : word? cs = some v) :
    ∃ s, read ⟨.between, done⟩ cs = some s ∧ s.Holds (.word v :: done) := by
  cases cs with
  | nil => exact absurd rfl hne
  | cons c cs =>
    obtain ⟨hc, hcs⟩ := List.forall_mem_cons.1 hcs
    have hstep : LexState.step ⟨.between, done⟩ c = some ⟨.word [c], done⟩ := outside_word hc
    refine ⟨⟨.word (cs.reverse ++ [c]), done⟩, ?_, .inr ⟨_, v, done, rfl, ?_, rfl⟩⟩
    · rw [read_cons, hstep, Option.bind_some, read_word_of_word hcs]
    · simpa using hv

/-! #### Strings -/

lemma read_escapeChar (seen : List Char) (c : Char) :
    read ⟨.text seen, done⟩ (escapeChar c) = some ⟨.text ((escapeChar c).reverse ++ seen), done⟩ := by
  rcases escapeChar_cases c with ⟨e, he, hs, hu⟩ | ⟨x, y, he, -, hx, hy⟩ | ⟨he, hq, hb, hc⟩
  · simp [he, read, LexState.step, hs, hu]
  · have hzero : (hexValue? '0').isNone = false := rfl
    simp [he, read, LexState.step, hx, hy, hzero]
  · have hc' : ¬ c.toNat < 32 := by omega
    simp [he, read, LexState.step, hq, hb, hc']

lemma read_escaped (seen cs : List Char) :
    read ⟨.text seen, done⟩ (cs.flatMap escapeChar)
      = some ⟨.text ((cs.flatMap escapeChar).reverse ++ seen), done⟩ := by
  induction cs generalizing seen with
  | nil => rfl
  | cons c cs ih =>
    rw [List.flatMap_cons, read_append, read_escapeChar, Option.bind_some, ih]
    simp

/-- An escaped text between quotes is read as that text. -/
lemma read_quote (text : String) :
    read ⟨.between, done⟩ (quote (escape text)) = some ⟨.between, .text (escape text) :: done⟩ := by
  have hopen : LexState.step ⟨.between, done⟩ '"' = some ⟨.text [], done⟩ := rfl
  have hclose : ∀ seen, LexState.step ⟨.text seen, done⟩ '"'
      = some ⟨.between, .text (String.ofList seen.reverse) :: done⟩ := fun _ => rfl
  rw [quote, List.cons_append, read_cons, hopen, Option.bind_some, read_append, escape,
    String.toList_ofList, read_escaped, Option.bind_some, read_cons, hclose]
  simp [read]

/-- The name of a member, its colon and the space after it. -/
lemma read_name (text : String) (cs : List Char) :
    read ⟨.between, done⟩ (quote (escape text) ++ ':' :: ' ' :: cs)
      = read ⟨.between, .mark ':' :: .text (escape text) :: done⟩ cs := by
  rw [read_append, read_quote, Option.bind_some, read_cons, step_mark (.inl rfl) rfl,
    Option.bind_some, read_cons, step_space (.inl rfl) rfl, Option.bind_some]

/-! #### Values -/

/-- Wherever a value is printed, the lexer finds the tokens that spell it. -/
def ReadsAs (v : Json) : Prop :=
  ∀ level done, ∃ s, read ⟨.between, done⟩ (prettyChars level v) = some s ∧
    s.Holds ((spell v).reverse ++ done)

lemma read_items {vs : List Json} (hvs : ∀ v ∈ vs, ReadsAs v) (level : Nat) (h : s.Holds ts) :
    s.read (prettyItems level vs) = some ⟨.between, (spellItems vs).reverse ++ ts⟩ := by
  induction vs generalizing s ts with
  | nil =>
    rw [prettyItems, read_append, read_breakAt h, Option.bind_some, read_cons,
      step_mark (.inl rfl) rfl]
    rfl
  | cons v vs ih =>
    obtain ⟨hv, hvs⟩ := List.forall_mem_cons.1 hvs
    -- The item may be a word that has not ended, so the rest is read from a state that holds it.
    obtain ⟨s', hs', hholds⟩ := hv (level + 1) (.mark ',' :: ts)
    rw [prettyItems, List.append_assoc, read_mark_break h rfl, read_append, hs', Option.bind_some,
      ih hvs hholds]
    simp [spellItems]

lemma read_members {ms : List (String × Json)} (hnames : ∀ m ∈ ms, ∃ name, m.1 = escape name)
    (hms : ∀ m ∈ ms, ReadsAs m.2) (level : Nat) (h : s.Holds ts) :
    s.read (prettyMembers level ms) = some ⟨.between, (spellMembers ms).reverse ++ ts⟩ := by
  induction ms generalizing s ts with
  | nil =>
    rw [prettyMembers, read_append, read_breakAt h, Option.bind_some, read_cons,
      step_mark (.inl rfl) rfl]
    rfl
  | cons m ms ih =>
    obtain ⟨k, v⟩ := m
    obtain ⟨⟨name, hname⟩, hrest⟩ := List.forall_mem_cons.1 hnames
    obtain ⟨hv, hvalues⟩ := List.forall_mem_cons.1 hms
    obtain rfl : k = escape name := hname
    obtain ⟨s', hs', hholds⟩ :=
      hv (level + 1) (.mark ':' :: .text (escape name) :: .mark ',' :: ts)
    rw [prettyMembers, List.append_assoc, List.append_assoc, read_mark_break h rfl,
      List.cons_append, List.cons_append, read_name, read_append, hs', Option.bind_some,
      ih hrest hvalues hholds]
    simp [spellMembers]

lemma readsAs_of_word {v : Json} {cs : List Char} (hchars : ∀ level, prettyChars level v = cs)
    (hspell : spell v = [.word v]) (hcs : ∀ c ∈ cs, isWordChar c = true) (hne : cs ≠ [])
    (hv : word? cs = some v) : ReadsAs v := by
  intro level done
  rw [hchars, hspell]
  exact read_word hcs hne hv

lemma readsAs_of_clean {v : Json} (h : Clean v) : ReadsAs v := by
  induction h with
  | null => exact readsAs_of_word (fun _ => rfl) rfl (List.all_eq_true.1 rfl) (by decide) rfl
  | bool b =>
    cases b <;>
      exact readsAs_of_word (fun _ => rfl) rfl (List.all_eq_true.1 rfl) (by decide) rfl
  | nat n =>
    refine readsAs_of_word (fun _ => intChars_ofNat n) rfl (fun c hc => ?_) Nat.toDigits_ne_nil
      (word?_toDigits n)
    simp [isWordChar, Char.isAlphanum, isDigit_of_mem_toDigits hc]
  | str text =>
    intro level done
    exact ⟨_, read_quote text, .inl rfl⟩
  | @arr vs _ ih =>
    intro level done
    cases vs with
    | nil => exact ⟨_, rfl, .inl rfl⟩
    | cons v vs =>
      obtain ⟨hv, hvs⟩ := List.forall_mem_cons.1 ih
      obtain ⟨s, hs, hholds⟩ := hv (level + 1) (.mark '[' :: done)
      refine ⟨_, ?_, .inl rfl⟩
      rw [prettyChars, List.append_assoc, read_mark_break (.inl rfl) rfl, read_append, hs,
        Option.bind_some, read_items hvs level hholds]
      simp [spell]
  | @obj ms hnames _ ih =>
    intro level done
    cases ms with
    | nil => exact ⟨_, rfl, .inl rfl⟩
    | cons m ms =>
      obtain ⟨k, v⟩ := m
      obtain ⟨⟨name, hname⟩, hrest⟩ := List.forall_mem_cons.1 hnames
      obtain ⟨hv, hms⟩ := List.forall_mem_cons.1 ih
      obtain rfl : k = escape name := hname
      obtain ⟨s, hs, hholds⟩ :=
        hv (level + 1) (.mark ':' :: .text (escape name) :: .mark '\x7b' :: done)
      refine ⟨_, ?_, .inl rfl⟩
      rw [prettyChars, List.append_assoc, List.append_assoc, read_mark_break (.inl rfl) rfl,
        List.cons_append, List.cons_append, read_name, read_append, hs, Option.bind_some,
        read_members hrest hms level hholds]
      simp [spell]

end LexState

lemma tokens?_pretty {v : Json} (h : Clean v) : tokens? (prettyChars 0 v) = some (spell v) := by
  obtain ⟨s, hs, hholds⟩ := LexState.readsAs_of_clean h 0 []
  rw [tokens?, show List.foldlM LexState.step ⟨.between, []⟩ (prettyChars 0 v) = some s from hs,
    Option.bind_some, hholds.finish]
  simp

/-! ### The parser -/

namespace ParseState

/-- Puts tokens together. -/
def read (s : ParseState) (ts : List Token) : Option ParseState := ts.foldlM ParseState.step s

lemma read_cons (s : ParseState) (t : Token) (ts : List Token) :
    s.read (t :: ts) = (s.step t).bind (·.read ts) := by
  simp [read, List.foldlM_cons]

lemma read_append (s : ParseState) (ts us : List Token) :
    s.read (ts ++ us) = (s.read ts).bind (·.read us) := by
  simp [read, List.foldlM_append]

/-- Wherever a value may stand, the tokens that spell it complete it. -/
def Completes (v : Json) : Prop := ∀ stack, read ⟨stack, .value⟩ (spell v) = complete v stack

/-- The first token of a value does not end an array, so a value may be the first item of one. -/
lemma read_itemOrClose (v : Json) (stack : List Frame) :
    read ⟨stack, .itemOrClose⟩ (spell v) = read ⟨stack, .value⟩ (spell v) := by
  have hfirst : ∀ t ts, t ≠ .mark ']' →
      read ⟨stack, .itemOrClose⟩ (t :: ts) = read ⟨stack, .value⟩ (t :: ts) := by
    intro t ts ht
    rw [read_cons, read_cons]
    congr 1
    cases t with
    | mark c => simp [step]
    | word v => rfl
    | text raw => rfl
  cases v with
  | arr vs => cases vs <;> exact hfirst _ _ (by simp)
  | obj ms =>
    cases ms with
    | nil => exact hfirst _ _ (by simp)
    | cons m ms => exact hfirst _ _ (by simp)
  | _ => exact hfirst _ _ (by simp)

lemma read_items {vs : List Json} (hvs : ∀ v ∈ vs, Completes v) (done : List Json)
    (stack : List Frame) :
    read ⟨.array done :: stack, .comma⟩ (spellItems vs)
      = complete (.arr (done.reverse ++ vs)) stack := by
  induction vs generalizing done with
  | nil => simp [spellItems, read, step, close]
  | cons v vs ih =>
    obtain ⟨hv, hvs⟩ := List.forall_mem_cons.1 hvs
    have hcomma : ParseState.step ⟨.array done :: stack, .comma⟩ (.mark ',')
        = some ⟨.array done :: stack, .value⟩ := rfl
    rw [spellItems, read_cons, hcomma, Option.bind_some, read_append, hv, complete,
      Option.bind_some, ih hvs]
    simp

/-- The name and the value of a member. -/
lemma read_member {v : Json} (hv : Completes v) (k : String) (done : List (String × Json))
    (stack : List Frame) (ts : List Token) :
    read ⟨.member done k :: stack, .colon⟩ (.mark ':' :: (spell v ++ ts))
      = read ⟨.object ((k, v) :: done) :: stack, .comma⟩ ts := by
  have hcolon : ParseState.step ⟨.member done k :: stack, .colon⟩ (.mark ':')
      = some ⟨.member done k :: stack, .value⟩ := rfl
  rw [read_cons, hcolon, Option.bind_some, read_append, hv, complete, Option.bind_some]

lemma read_members {ms : List (String × Json)} (hms : ∀ m ∈ ms, Completes m.2)
    (done : List (String × Json)) (stack : List Frame) :
    read ⟨.object done :: stack, .comma⟩ (spellMembers ms)
      = complete (.obj (done.reverse ++ ms)) stack := by
  induction ms generalizing done with
  | nil => simp [spellMembers, read, step, close]
  | cons m ms ih =>
    obtain ⟨k, v⟩ := m
    obtain ⟨hv, hms⟩ := List.forall_mem_cons.1 hms
    have hcomma : ParseState.step ⟨.object done :: stack, .comma⟩ (.mark ',')
        = some ⟨.object done :: stack, .key⟩ := rfl
    have hname : ParseState.step ⟨.object done :: stack, .key⟩ (.text k)
        = some ⟨.member done k :: stack, .colon⟩ := rfl
    rw [spellMembers, read_cons, hcomma, Option.bind_some, read_cons, hname, Option.bind_some,
      read_member hv, ih hms]
    simp

lemma completes_of_clean {v : Json} (h : Clean v) : Completes v := by
  induction h with
  | @arr vs _ ih =>
    intro stack
    cases vs with
    | nil => simp [spell, read, step, begin, close]
    | cons v vs =>
      obtain ⟨hv, hvs⟩ := List.forall_mem_cons.1 ih
      have hopen : ParseState.step ⟨stack, .value⟩ (.mark '[')
          = some ⟨.array [] :: stack, .itemOrClose⟩ := rfl
      rw [spell, read_cons, hopen, Option.bind_some, read_append, read_itemOrClose, hv, complete,
        Option.bind_some, read_items hvs]
      simp
  | @obj ms _ _ ih =>
    intro stack
    cases ms with
    | nil => simp [spell, read, step, begin, close]
    | cons m ms =>
      obtain ⟨k, v⟩ := m
      obtain ⟨hv, hms⟩ := List.forall_mem_cons.1 ih
      have hopen : ParseState.step ⟨stack, .value⟩ (.mark '\x7b')
          = some ⟨.object [] :: stack, .keyOrClose⟩ := rfl
      have hname : ParseState.step ⟨.object [] :: stack, .keyOrClose⟩ (.text k)
          = some ⟨.member [] k :: stack, .colon⟩ := rfl
      rw [spell, read_cons, hopen, Option.bind_some, read_cons, hname, Option.bind_some,
        read_member hv, read_members hms]
      simp
  | _ =>
    -- The other values are spelled by one token.
    intro stack
    simp [spell, read, step, begin, ofNat]

end ParseState

/-- Reading undoes printing. -/
theorem parse?_pretty {v : Json} (h : Clean v) : parse? v.pretty = some v := by
  rw [parse?, pretty, String.toList_ofList, tokens?_pretty h, Option.bind_some, ofTokens?,
    show List.foldlM ParseState.step ⟨[], .value⟩ (spell v) = complete v [] from
      ParseState.completes_of_clean h []]
  rfl

end Gls.Json
