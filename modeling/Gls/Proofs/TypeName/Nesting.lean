/-
# How many unions an annotation opens

Every union but the whole of an annotation stands inside round or curly brackets, or inside the
brackets of type arguments, and between two of these there is exactly one union that is opened.
Square brackets open none: those of a list hold nothing, and the key of an index signature is a
union of the braces around it.  So the unions that are open at once can be counted in the text
itself, by the brackets of the three kinds that are open at once.

The grammar counts the unions that may still be opened.  What it derives has a height, the most
brackets that are open at once in it; it derives the same from every allowance that is larger than
the height, and from no smaller one.  With this the limit on nesting is split off the grammar: a
text spells a type if its tokens derive from a union with any allowance, and its own count is within
the limit.
-/
import Gls.Proofs.TypeName.Grammar

namespace Gls

namespace RawType

variable {α : Type}

/-! ### Brackets -/

/-- The brackets that open a union. -/
def opens (c : Char) : Bool := c == '(' || c == '\x7b' || c == '<'

/-- The brackets that close a union. -/
def closes (c : Char) : Bool := c == ')' || c == '\x7d' || c == '>'

/-- The largest number of brackets that are open at once, when the given number is open already. -/
def deepest : Nat → List Char → Nat
  | depth, [] => depth
  | depth, c :: cs =>
    if opens c then deepest (depth + 1) cs
    else if closes c then max depth (deepest (depth - 1) cs)
    else deepest depth cs

/-- The largest number of unions of an annotation that are open at once: one inside each of the
brackets that are open, and the annotation itself. -/
def openUnions (text : String) : Nat := deepest 0 text.toList + 1

/-- The marks among tokens. -/
def marks (ts : List Token) : List Char :=
  ts.filterMap fun
    | .mark c => some c
    | .name _ => none

@[simp] lemma marks_nil : marks [] = [] := rfl

@[simp] lemma marks_mark (c : Char) (ts : List Token) : marks (.mark c :: ts) = c :: marks ts := rfl

@[simp] lemma marks_name (name : String) (ts : List Token) :
    marks (.name name :: ts) = marks ts := rfl

@[simp] lemma marks_append (ts us : List Token) : marks (ts ++ us) = marks ts ++ marks us :=
  List.filterMap_append

lemma deepest_of_neutral {c : Char} (ho : opens c = false) (hc : closes c = false) (depth : Nat)
    (cs : List Char) : deepest depth (c :: cs) = deepest depth cs := by
  simp [deepest, ho, hc]

lemma le_deepest (depth : Nat) (cs : List Char) : depth ≤ deepest depth cs := by
  fun_induction deepest depth cs with
  | case1 => exact Nat.le_refl _
  | case2 _ _ _ _ ih => omega
  | case3 => exact Nat.le_max_left _ _
  | case4 _ _ _ _ _ ih => exact ih

/-- What is not a mark is not a bracket. -/
lemma neutral_of_not_mark {c : Char} (h : isMark c = false) :
    opens c = false ∧ closes c = false := by
  simp only [isMark, Bool.or_eq_false_iff] at h
  simp [opens, closes, h]

lemma isMark_of_isBlank {c : Char} (h : Text.isBlank c = true) : isMark c = false := by
  by_contra hmark
  simp [(of_isMark (by simpa using hmark)).1] at h

lemma isMark_of_isNameChar {c : Char} (h : isNameChar c = true) : isMark c = false := by
  by_contra hmark
  simp [(of_isMark (by simpa using hmark)).2] at h

lemma deepest_name {w : List Char} (hw : ∀ c ∈ w, isNameChar c = true) (depth : Nat)
    (cs : List Char) : deepest depth (w ++ cs) = deepest depth cs := by
  induction w with
  | nil => rfl
  | cons c w ih =>
    obtain ⟨hc, hw⟩ := List.forall_mem_cons.1 hw
    obtain ⟨hopens, hcloses⟩ := neutral_of_not_mark (isMark_of_isNameChar hc)
    rw [List.cons_append, deepest_of_neutral hopens hcloses, ih hw]

/-- The brackets of a text are those among its tokens. -/
lemma Lexes.deepest_eq {cs : List Char} {ts : List Token} (h : Lexes cs ts) (depth : Nat) :
    deepest depth cs = deepest depth (marks ts) := by
  induction h generalizing depth with
  | done => rfl
  | blank hc _ ih =>
    obtain ⟨hopens, hcloses⟩ := neutral_of_not_mark (isMark_of_isBlank hc)
    rw [deepest_of_neutral hopens hcloses, ih]
  | mark _ _ ih => simp only [marks_mark, deepest, ih]
  | name _ hw _ _ ih => rw [deepest_name hw, ih, marks_name]

/-! ### Height -/

/-- The brackets match, and at most `h` of them are open at once: they leave the count of what
comes after as it is. -/
def Height (h : Nat) (ds : List Char) : Prop :=
  ∀ depth es, deepest depth (ds ++ es) = max (depth + h) (deepest depth es)

lemma Height.deepest_eq {h : Nat} {ds : List Char} (hd : Height h ds) (depth : Nat) :
    deepest depth ds = depth + h := by
  have hend := hd depth []
  rw [List.append_nil, deepest] at hend
  omega

lemma height_nil : Height 0 [] := by
  intro depth es
  exact (Nat.max_eq_right (le_deepest depth es)).symm

lemma height_neutral {c : Char} (ho : opens c = false) (hc : closes c = false) :
    Height 0 [c] := by
  intro depth es
  rw [List.singleton_append, deepest_of_neutral ho hc]
  exact height_nil depth es

lemma Height.append {h k : Nat} {ds es : List Char} (hd : Height h ds) (he : Height k es) :
    Height (max h k) (ds ++ es) := by
  intro depth fs
  rw [List.append_assoc, hd, he]
  omega

lemma Height.bracketed {h : Nat} {ds : List Char} (hd : Height h ds) {o c : Char}
    (ho : opens o = true) (hopens : opens c = false) (hc : closes c = true) :
    Height (h + 1) (o :: (ds ++ [c])) := by
  intro depth es
  have hinside : deepest depth (o :: (ds ++ [c]) ++ es) = deepest (depth + 1) (ds ++ c :: es) := by
    simp [deepest, ho]
  have hclose : deepest (depth + 1) (c :: es) = max (depth + 1) (deepest depth es) := by
    simp [deepest, hopens, hc]
  rw [hinside, hd, hclose]
  omega

/-! ### What the grammar derives -/

/-- What is derived from the allowance `n` has a height, and is derived from just the allowances
that exceed the height by at least `margin`. -/
def HasHeight (D : Nat → Spelling α) (margin n : Nat) : Prop :=
  ∀ ⦃ts : List Token⦄ ⦃x : α⦄, D n ts x →
    ∃ h, Height h (marks ts) ∧ h + margin ≤ n ∧ ∀ m, h + margin ≤ m → D m ts x

lemma HasHeight.separated {D : Nat → Spelling α} {margin n : Nat} (hD : HasHeight D margin n)
    {sep : Char} (ho : opens sep = false) (hc : closes sep = false) :
    HasHeight (fun m => Separated sep (D m)) margin n := by
  intro ts xs hs
  induction hs with
  | one hx =>
    obtain ⟨h, hheight, hn, hm⟩ := hD hx
    exact ⟨h, hheight, hn, fun m hle => .one (hm m hle)⟩
  | more hx _ ih =>
    obtain ⟨h, hheight, hn, hm⟩ := hD hx
    obtain ⟨k, hheights, hns, hms⟩ := ih
    refine ⟨max h k, ?_, by omega, fun m hle => .more (hm m (by omega)) (hms m (by omega))⟩
    simpa using hheight.append ((height_neutral ho hc).append hheights)

/-- The same of what is derived with a type that is not nullish. -/
lemma HasHeight.named {D : Nat → Spelling Parsed} {margin n : Nat} (hD : HasHeight D margin n) :
    HasHeight (fun m ts t => D m ts (some t)) margin n :=
  fun _ _ ht => hD ht

lemma height_close {close : List Token}
    (h : close = [] ∨ close = [.mark ';'] ∨ close = [.mark ',']) : Height 0 (marks close) := by
  rcases h with rfl | rfl | rfl
  · exact height_nil
  · exact height_neutral rfl rfl
  · exact height_neutral rfl rfl

lemma hasHeight_primary {n : Nat} (hU : HasHeight SpellsUnion 1 n) :
    HasHeight (fun m => SpellsPrimary (SpellsUnion m)) 0 n := by
  intro ts p hp
  cases hp with
  | group h =>
    obtain ⟨k, hheight, hn, hm⟩ := hU h
    refine ⟨k + 1, ?_, hn, fun m hle => .group (hm m hle)⟩
    simpa using hheight.bracketed (o := '(') (c := ')') rfl rfl rfl
  | signature name hkey hvalue hclose =>
    obtain ⟨k, hheight, hn, hm⟩ := hU hkey
    obtain ⟨l, hheights, hns, hms⟩ := hU hvalue
    refine ⟨max k l + 1, ?_, by omega,
      fun m hle => .signature name (hm m (by omega)) (hms m (by omega)) hclose⟩
    have hfront : Height 0 ['[', ':'] := by
      simpa using (height_neutral (c := '[') rfl rfl).append (height_neutral (c := ':') rfl rfl)
    have hbetween : Height 0 [']', ':'] := by
      simpa using (height_neutral (c := ']') rfl rfl).append (height_neutral (c := ':') rfl rfl)
    have hinside := (hfront.append hheight).append
      (hbetween.append (hheights.append (height_close hclose)))
    simpa using hinside.bracketed (o := '\x7b') (c := '\x7d') rfl rfl rfl
  | nullish h => exact ⟨0, height_nil, by omega, fun m _ => .nullish h⟩
  | plain h => exact ⟨0, height_nil, by omega, fun m _ => .plain h⟩
  | generic h hargs =>
    obtain ⟨k, hheight, hn, hm⟩ := hU.named.separated rfl rfl hargs
    refine ⟨k + 1, ?_, hn, fun m hle => .generic h (hm m hle)⟩
    simpa using hheight.bracketed (o := '<') (c := '>') rfl rfl rfl

lemma hasHeight_suffixed {n : Nat} (hU : HasHeight SpellsUnion 1 n) :
    HasHeight (fun m => SpellsSuffixed (SpellsUnion m)) 0 n := by
  intro ts p hp
  induction hp with
  | primary h =>
    obtain ⟨k, hheight, hn, hm⟩ := hasHeight_primary hU h
    exact ⟨k, hheight, hn, fun m hle => .primary (hm m hle)⟩
  | list _ ih =>
    obtain ⟨k, hheight, hn, hm⟩ := ih
    refine ⟨k, ?_, hn, fun m hle => .list (hm m hle)⟩
    have hempty : Height 0 ['[', ']'] := by
      simpa using (height_neutral (c := '[') rfl rfl).append (height_neutral (c := ']') rfl rfl)
    simpa using hheight.append hempty

/-- By induction on the allowance. -/
lemma hasHeight_union (n : Nat) : HasHeight SpellsUnion 1 n := by
  induction n with
  | zero =>
    intro ts p h
    cases h
  | succ n ih =>
    rintro ts p ⟨us, members, hts, hmembers, rfl⟩
    obtain ⟨k, hheight, hn, hm⟩ := (hasHeight_suffixed ih).separated rfl rfl hmembers
    refine ⟨k, ?_, by omega, fun m hle => ?_⟩
    · rcases hts with rfl | rfl
      · exact hheight
      · simpa using (height_neutral (c := '|') rfl rfl).append hheight
    · obtain ⟨m, rfl⟩ := Nat.exists_eq_add_of_le' (Nat.le_of_add_left_le hle)
      exact ⟨us, members, hts, hm m (by omega), rfl⟩

/-! ### Annotations -/

/-- The characters are cut into tokens that spell the type, with at most the given number of unions
open at once. -/
def Annotates (n : Nat) (cs : List Char) (p : Parsed) : Prop :=
  ∃ ts, Lexes cs ts ∧ SpellsUnion n ts p

/-- The limit on the unions that are open at once is a limit on brackets. -/
lemma annotates_iff {n : Nat} {cs : List Char} {p : Parsed} :
    Annotates n cs p ↔ (∃ m, Annotates m cs p) ∧ deepest 0 cs < n := by
  constructor
  · rintro ⟨ts, hts, h⟩
    obtain ⟨k, hheight, hn, -⟩ := hasHeight_union n h
    rw [hts.deepest_eq, hheight.deepest_eq]
    exact ⟨⟨n, ts, hts, h⟩, by omega⟩
  · rintro ⟨⟨m, ts, hts, h⟩, hdeep⟩
    obtain ⟨k, hheight, -, hm⟩ := hasHeight_union m h
    rw [hts.deepest_eq, hheight.deepest_eq] at hdeep
    exact ⟨ts, hts, hm n (by omega)⟩

lemma Annotates.mono {n m : Nat} {cs : List Char} {p : Parsed} (h : Annotates n cs p)
    (hle : n ≤ m) : Annotates m cs p := by
  obtain ⟨hany, hdeep⟩ := annotates_iff.1 h
  exact annotates_iff.2 ⟨hany, by omega⟩

lemma parse?_eq_some_iff_annotates {text : String} {t : TypeName} :
    parse? text = some t ↔ Annotates maxNesting text.toList (some t) := by
  rw [parse?_eq_some_iff]
  constructor
  · rintro ⟨ts, hts, hread⟩
    obtain ⟨front, rfl, hspells⟩ := sound_union maxNesting hread
    rw [List.append_nil, tokens?_eq_some_iff] at hts
    exact ⟨front, hts, hspells⟩
  · rintro ⟨ts, hts, hspells⟩
    have hread : union maxNesting (ts ++ []) = some (some t, []) :=
      complete_union maxNesting hspells fun _ _ => by simp
    rw [List.append_nil] at hread
    exact ⟨ts, tokens?_eq_some_iff.2 hts, hread⟩

/-- What a text spells from any allowance is read if the text opens no more unions than may be
open. -/
lemma Annotates.parse?_eq {n : Nat} {text : String} {t : TypeName}
    (h : Annotates n text.toList (some t)) (hopen : openUnions text ≤ maxNesting) :
    parse? text = some t :=
  parse?_eq_some_iff_annotates.2 (annotates_iff.2 ⟨⟨n, h⟩, hopen⟩)

lemma annotates_of_parse? {text : String} {t : TypeName} (h : RawType.parse? text = some t)
    {n : Nat} (hopen : openUnions text ≤ n) : Annotates n text.toList (some t) :=
  annotates_iff.2 ⟨⟨_, parse?_eq_some_iff_annotates.1 h⟩, hopen⟩

end RawType

end Gls
