/-
# What annotations spell

The reader of annotations takes tokens from the left, never goes back and stops at the first token
it has no use for.  This file says which texts it accepts without mentioning how it reads: a text is
cut into tokens, and the tokens are derived from the grammar

    union    ::= '|'? suffixed ('|' suffixed)*
    suffixed ::= primary ('[' ']')*
    primary  ::= '(' union ')'
               | '{' '[' Name ':' union ']' ':' union (';' | ',')? '}'
               | Name
               | Name '<' union (',' union)* '>'

Every rule of the grammar gives the meaning of what it derives.  A nullish type means `none`; where
a type must not be nullish, the rules ask for a meaning `some t`.

A reader is sound if what it takes is derived from its rule with the meaning it returns.  It is
complete if it takes all of what is derived and no more, provided that no token follows that could
continue it.  Both are shown rule by rule, for any sound and complete reader of unions, and then for
unions by induction on how many may be open.
-/
import Gls.Proofs.TypeName.Built
import Mathlib.Data.List.ReduceOption

namespace Gls

namespace RawType

variable {α : Type}

/-! ### Cutting a text into tokens -/

/-- The tokens that characters are cut into: white space is skipped, a mark is a token by itself,
and a name goes on for as long as it can. -/
inductive Lexes : List Char → List Token → Prop where
  | done : Lexes [] []
  | blank {c : Char} {cs : List Char} {ts : List Token} (hc : Text.isBlank c = true)
      (h : Lexes cs ts) : Lexes (c :: cs) ts
  | mark {c : Char} {cs : List Char} {ts : List Token} (hc : isMark c = true)
      (h : Lexes cs ts) : Lexes (c :: cs) (.mark c :: ts)
  | name {w cs : List Char} {ts : List Token} (hne : w ≠ []) (hw : ∀ c ∈ w, isNameChar c = true)
      (hend : ∀ c, cs.head? = some c → isNameChar c = false) (h : Lexes cs ts) :
      Lexes (w ++ cs) (.name (String.ofList w) :: ts)

/-! ### The grammar -/

/-- What spells values: `D ts x` says that the tokens `ts` spell `x`. -/
abbrev Spelling (α : Type) := List Token → α → Prop

/-- One item or more, with separators between them. -/
inductive Separated (sep : Char) (D : Spelling α) : Spelling (List α) where
  | one {ts : List Token} {x : α} (h : D ts x) : Separated sep D ts [x]
  | more {ts us : List Token} {x : α} {xs : List α} (h : D ts x) (hs : Separated sep D us xs) :
      Separated sep D (ts ++ .mark sep :: us) (x :: xs)

/-- The type of a name with type arguments. -/
def genericMeaning (name : String) (args : List TypeName) : TypeName :=
  if name = "Array" ∧ args.length = 1 then .command CommandName.listType args
  else if name = "Map" ∧ args.length = 2 then .command CommandName.dictionaryType args
  else .command CommandName.genericType (.text name :: args)

/-- What is left of the members of a union without those that are nullish or repeated: nothing, one
type, or a union type. -/
def unionMeaning (members : List Parsed) : Parsed :=
  match members.reduceOption.eraseDups with
  | [] => none
  | [t] => some t
  | ts => some (.command CommandName.unionType ts)

/-- A primary type, for given spellings of unions. -/
inductive SpellsPrimary (U : Spelling Parsed) : Spelling Parsed where
  | group {ts : List Token} {p : Parsed} (h : U ts p) :
      SpellsPrimary U (.mark '(' :: (ts ++ [.mark ')'])) p
  | signature (name : String) {ks vs close : List Token} {key value : TypeName}
      (hk : U ks (some key)) (hv : U vs (some value))
      (hclose : close = [] ∨ close = [.mark ';'] ∨ close = [.mark ',']) :
      SpellsPrimary U
        (.mark '\x7b' :: .mark '[' :: .name name :: .mark ':' ::
          (ks ++ .mark ']' :: .mark ':' :: (vs ++ (close ++ [.mark '\x7d']))))
        (some (.command CommandName.dictionaryType [key, value]))
  | nullish {name : String} (h : name = "null" ∨ name = "undefined") :
      SpellsPrimary U [.name name] none
  | plain {name : String} (h : ¬ (name = "null" ∨ name = "undefined")) :
      SpellsPrimary U [.name name] (some (.text (if name = "number" then "float" else name)))
  | generic {name : String} {ts : List Token} {args : List TypeName}
      (h : ¬ (name = "null" ∨ name = "undefined"))
      (ha : Separated ',' (fun us t => U us (some t)) ts args) :
      SpellsPrimary U (.name name :: .mark '<' :: (ts ++ [.mark '>']))
        (some (genericMeaning name args))

/-- A primary type with the brackets after it. -/
inductive SpellsSuffixed (U : Spelling Parsed) : Spelling Parsed where
  | primary {ts : List Token} {p : Parsed} (h : SpellsPrimary U ts p) : SpellsSuffixed U ts p
  | list {ts : List Token} {t : TypeName} (h : SpellsSuffixed U ts (some t)) :
      SpellsSuffixed U (ts ++ [.mark '[', .mark ']']) (some (.command CommandName.listType [t]))

/-- A union in which at most the given number of unions are open at once, itself included. -/
def SpellsUnion : Nat → Spelling Parsed
  | 0, _, _ => False
  | n + 1, ts, p => ∃ us members, (ts = us ∨ ts = .mark '|' :: us) ∧
      Separated '|' (SpellsSuffixed (SpellsUnion n)) us members ∧ p = unionMeaning members

/-! ### Tokens -/

/-- White space is no part of names. -/
lemma isNameChar_of_isBlank {c : Char} (h : Text.isBlank c = true) : isNameChar c = false := by
  have hall : ∀ n ∈ Text.blankRuns.flatMap fun r => List.range' r.1 (r.2 + 1 - r.1),
      isNameChar (Char.ofNat n) = false := by
    decide +kernel
  have hmem : c.toNat ∈ Text.blankRuns.flatMap fun r => List.range' r.1 (r.2 + 1 - r.1) := by
    obtain ⟨r, hr, hc⟩ := List.any_eq_true.1 h
    simp only [Bool.and_eq_true, decide_eq_true_eq] at hc
    exact List.mem_flatMap.2 ⟨r, hr, List.mem_range'_1.2 ⟨hc.1, by omega⟩⟩
  simpa using hall _ hmem

/-- Marks are no white space, and no part of names. -/
lemma of_isMark {c : Char} (h : isMark c = true) :
    Text.isBlank c = false ∧ isNameChar c = false := by
  simp only [isMark, Bool.or_eq_true, beq_iff_eq, or_assoc] at h
  rcases h with rfl | rfl | rfl | rfl | rfl | rfl | rfl | rfl | rfl | rfl | rfl | rfl <;> decide

/-- How the first character is taken. -/
lemma Lexes.of_cons {c : Char} {cs : List Char} {ts : List Token} (h : Lexes (c :: cs) ts) :
    (Text.isBlank c = true ∧ Lexes cs ts) ∨
      (isMark c = true ∧ ∃ us, Lexes cs us ∧ ts = .mark c :: us) ∨
      isNameChar c = true := by
  generalize hl : c :: cs = l at h
  cases h with
  | done => cases hl
  | blank hc h =>
    cases hl
    exact .inl ⟨hc, h⟩
  | mark hc h =>
    cases hl
    exact .inr (.inl ⟨hc, _, h, rfl⟩)
  | @name w cs ts hne hw _ _ =>
    obtain ⟨x, xs, rfl⟩ := List.exists_cons_of_ne_nil hne
    cases hl
    exact .inr (.inr (hw c List.mem_cons_self))

lemma lexes_nil_iff {ts : List Token} : Lexes [] ts ↔ ts = [] := by
  refine ⟨fun h => ?_, fun h => h ▸ .done⟩
  generalize hl : ([] : List Char) = l at h
  cases h with
  | done => rfl
  | blank => cases hl
  | mark => cases hl
  | name hne => exact absurd (List.append_eq_nil_iff.1 hl.symm).1 hne

lemma lexes_blank_iff {c : Char} {cs : List Char} {ts : List Token}
    (hc : Text.isBlank c = true) : Lexes (c :: cs) ts ↔ Lexes cs ts := by
  refine ⟨fun h => ?_, .blank hc⟩
  rcases h.of_cons with ⟨-, h⟩ | ⟨hmark, -⟩ | hname
  · exact h
  · simp [(of_isMark hmark).1] at hc
  · simp [isNameChar_of_isBlank hc] at hname

lemma lexes_mark_iff {c : Char} {cs : List Char} {ts : List Token} (hc : isMark c = true) :
    Lexes (c :: cs) ts ↔ ∃ us, Lexes cs us ∧ ts = .mark c :: us := by
  constructor
  · intro h
    rcases h.of_cons with ⟨hblank, -⟩ | ⟨-, h⟩ | hname
    · simp [(of_isMark hc).1] at hblank
    · exact h
    · simp [(of_isMark hc).2] at hname
  · rintro ⟨us, h, rfl⟩
    exact .mark hc h

/-- A name that is as long as it can be is all the characters of names at the front. -/
lemma takeWhile_name {w cs : List Char} (hw : ∀ c ∈ w, isNameChar c = true)
    (hend : ∀ c, cs.head? = some c → isNameChar c = false) :
    (w ++ cs).takeWhile isNameChar = w := by
  rw [List.takeWhile_append_of_pos hw]
  cases cs with
  | nil => simp
  | cons c cs => simp [hend c rfl]

/-- A name that is as long as it can be is the name that is cut off. -/
lemma lexes_append_iff {seen cs : List Char} {ts : List Token}
    (hseen : ∀ c ∈ seen, isNameChar c = true)
    (hend : ∀ c, cs.head? = some c → isNameChar c = false) :
    Lexes (seen.reverse ++ cs) ts ↔ ∃ us, Lexes cs us ∧ ts = nameToken seen ++ us := by
  by_cases hempty : seen = []
  · simp [hempty, nameToken]
  have htoken : nameToken seen = [.name (String.ofList seen.reverse)] := by
    simp [nameToken, hempty]
  have hall : ∀ c ∈ seen.reverse, isNameChar c = true := by simpa using hseen
  have hne : seen.reverse ≠ [] := by simpa using hempty
  rw [htoken]
  constructor
  · intro h
    generalize hl : seen.reverse ++ cs = l at h
    have hhead : ∀ c cs', l = c :: cs' → isNameChar c = true := by
      rintro c cs' rfl
      obtain ⟨x, xs, hx⟩ := List.exists_cons_of_ne_nil hne
      rw [hx] at hl
      cases hl
      exact hall c (by simp [hx])
    cases h with
    | done => exact absurd (List.append_eq_nil_iff.1 hl).1 hne
    | blank hc h => exact absurd (hhead _ _ rfl) (by simp [isNameChar_of_isBlank hc])
    | mark hc h => exact absurd (hhead _ _ rfl) (by simp [(of_isMark hc).2])
    | @name w cs' us hne' hw hend' h =>
      have hwords : w = seen.reverse := by
        rw [← takeWhile_name hw hend', ← hl, takeWhile_name hall hend]
      subst hwords
      obtain rfl := List.append_cancel_left hl
      exact ⟨us, h, rfl⟩
  · rintro ⟨us, h, rfl⟩
    exact .name hne hall hend h

/-- The reader of tokens cuts a text as it should be cut.  By induction on the characters that are
left, with the name that is being read before them. -/
lemma tokensFrom?_eq_some_iff {seen cs : List Char} {ts : List Token}
    (hseen : ∀ c ∈ seen, isNameChar c = true) :
    tokensFrom? seen cs = some ts ↔ Lexes (seen.reverse ++ cs) ts := by
  induction cs generalizing seen ts with
  | nil =>
    rw [lexes_append_iff hseen (by simp), tokensFrom?]
    simp [lexes_nil_iff, eq_comm]
  | cons c cs ih =>
    have hrest : ∀ {us : List Token}, tokensFrom? [] cs = some us ↔ Lexes cs us := ih (by simp)
    rw [tokensFrom?]
    split_ifs with hblank hname hmark
    · rw [lexes_append_iff hseen (by simp [isNameChar_of_isBlank hblank])]
      simp only [Option.map_eq_some_iff, hrest, lexes_blank_iff hblank, @eq_comm _ _ ts]
    · rw [ih (List.forall_mem_cons.2 ⟨hname, hseen⟩)]
      simp
    · rw [lexes_append_iff hseen (by simp [(of_isMark hmark).2])]
      simp only [Option.map_eq_some_iff, hrest, lexes_mark_iff hmark]
      constructor
      · rintro ⟨us, h, rfl⟩
        exact ⟨_, ⟨us, h, rfl⟩, rfl⟩
      · rintro ⟨_, ⟨us, h, rfl⟩, rfl⟩
        exact ⟨us, h, rfl⟩
    · rw [lexes_append_iff hseen (by simpa using hname)]
      refine iff_of_false (by simp) ?_
      rintro ⟨us, h, -⟩
      rcases h.of_cons with ⟨h, -⟩ | ⟨h, -⟩ | h
      · exact hblank h
      · exact hmark h
      · exact hname h

lemma tokens?_eq_some_iff {text : String} {ts : List Token} :
    tokens? text = some ts ↔ Lexes text.toList ts :=
  tokensFrom?_eq_some_iff (by simp)

lemma isSome_tokensFrom? {seen cs : List Char}
    (h : ∀ c ∈ cs, Text.isBlank c = true ∨ isMark c = true ∨ isNameChar c = true) :
    (tokensFrom? seen cs).isSome = true := by
  induction cs generalizing seen with
  | nil => rfl
  | cons c cs ih =>
    obtain ⟨hc, hcs⟩ := List.forall_mem_cons.1 h
    rw [tokensFrom?]
    split_ifs with hblank hname hmark
    · simpa using ih hcs
    · exact ih hcs
    · simpa using ih hcs
    · rcases hc with hc | hc | hc
      · exact absurd hc hblank
      · exact absurd hc hmark
      · exact absurd hc hname

/-- A text has tokens if it holds nothing but white space, marks and characters of names. -/
lemma exists_lexes_iff {cs : List Char} : (∃ ts, Lexes cs ts) ↔
    ∀ c ∈ cs, Text.isBlank c = true ∨ isMark c = true ∨ isNameChar c = true := by
  constructor
  · rintro ⟨ts, h⟩
    induction h with
    | done => simp
    | blank hc _ ih => exact List.forall_mem_cons.2 ⟨.inl hc, ih⟩
    | mark hc _ ih => exact List.forall_mem_cons.2 ⟨.inr (.inl hc), ih⟩
    | name _ hw _ _ ih =>
      intro c hc
      rcases List.mem_append.1 hc with hc | hc
      · exact .inr (.inr (hw c hc))
      · exact ih c hc
  · intro h
    have hsome : (tokensFrom? [] cs).isSome = true := isSome_tokensFrom? h
    obtain ⟨ts, hts⟩ := Option.isSome_iff_exists.1 hsome
    exact ⟨ts, (tokensFrom?_eq_some_iff (by simp)).1 hts⟩

/-! ### The meaning of a union -/

/-- A member goes to the end of those that are kept unless it is among them. -/
lemma foldl_kept (ks ms : List TypeName) :
    ms.foldl (fun kept m => if kept.contains m then kept else kept ++ [m]) ks.eraseDups
      = (ks ++ ms).eraseDups := by
  induction ms generalizing ks with
  | nil => simp
  | cons m ms ih =>
    have hstep : (if ks.eraseDups.contains m then ks.eraseDups else ks.eraseDups ++ [m])
        = (ks ++ [m]).eraseDups := by
      rw [List.eraseDups_append]
      by_cases hm : m ∈ ks <;> simp [List.removeAll, hm, List.eraseDups_cons]
    rw [List.foldl_cons, hstep, ih, List.append_assoc, List.singleton_append]

lemma unionOf_eq_unionMeaning (members : List Parsed) : unionOf members = unionMeaning members := by
  have hdistinct : distinct (members.filterMap id) = members.reduceOption.eraseDups :=
    foldl_kept [] (members.filterMap id)
  unfold unionOf unionMeaning
  generalize members.reduceOption.eraseDups = kept at hdistinct ⊢
  rcases kept with _ | ⟨t, _ | ⟨t', ts⟩⟩ <;> simp only [hdistinct]

lemma genericOf_eq_genericMeaning (name : String) (args : List TypeName) :
    genericOf name args = genericMeaning name args := by
  unfold genericOf genericMeaning
  split
  · rfl
  · rfl
  · rename_i harray hmap
    rw [if_neg, if_neg]
    · rintro ⟨rfl, hlen⟩
      obtain ⟨key, value, rfl⟩ := List.length_eq_two.1 hlen
      exact hmap key value rfl rfl
    · rintro ⟨rfl, hlen⟩
      obtain ⟨element, rfl⟩ := List.length_eq_one_iff.1 hlen
      exact harray element rfl rfl

/-! ### Readers -/

/-- What the reader takes spells what it returns. -/
def Sound (r : Reader α) (D : Spelling α) : Prop :=
  ∀ ⦃ts : List Token⦄ ⦃x : α⦄ ⦃rest : List Token⦄, r ts = some (x, rest) →
    ∃ front, ts = front ++ rest ∧ D front x

/-- The next token is none of the given marks. -/
def Ends (stops : List Char) (rest : List Token) : Prop :=
  ∀ c ∈ stops, rest.head? ≠ some (.mark c)

lemma ends_mark {stops : List Char} {c : Char} {rest : List Token} :
    Ends stops (.mark c :: rest) ↔ c ∉ stops := by
  constructor
  · intro h hc
    exact h c hc rfl
  · intro h d hd he
    obtain rfl : c = d := by simpa using he
    exact h hd

/-- The reader takes all of what spells a value, unless one of the given marks comes next. -/
def Complete (r : Reader α) (D : Spelling α) (stops : List Char) : Prop :=
  ∀ ⦃front : List Token⦄ ⦃x : α⦄ ⦃rest : List Token⦄, D front x → Ends stops rest →
    r (front ++ rest) = some (x, rest)

lemma Complete.read {r : Reader α} {D : Spelling α} {stops : List Char} (hr : Complete r D stops)
    {front : List Token} {x : α} (h : D front x) {c : Char} (hc : c ∉ stops) (rest : List Token) :
    r (front ++ .mark c :: rest) = some (x, .mark c :: rest) :=
  hr h (ends_mark.2 hc)

/-! ### Items with separators -/

lemma separated_succ {sep : Char} {item : Reader α} {fuel : Nat} {ts ts' : List Token} {x : α}
    (h : item ts = some (x, ts')) :
    separated sep item (fuel + 1) ts =
      if ts'.head? = some (.mark sep) then
        (separated sep item fuel ts'.tail).map fun r => (x :: r.1, r.2)
      else some ([x], ts') := by
  rw [separated, h]
  rcases ts' with _ | ⟨_ | c, ts'⟩
  · rfl
  · simp
  · by_cases hc : c = sep
    · cases hs : separated sep item fuel ts' <;> simp [hc, hs]
    · simp [hc]

lemma sound_separated {sep : Char} {item : Reader α} {D : Spelling α} (hi : Sound item D)
    (fuel : Nat) : Sound (separated sep item fuel) (Separated sep D) := by
  induction fuel with
  | zero =>
    intro ts xs rest h
    obtain ⟨⟨x, rest'⟩, hx, he⟩ := Option.map_eq_some_iff.1 h
    obtain ⟨front, hts, hD⟩ := hi hx
    cases he
    exact ⟨front, hts, .one hD⟩
  | succ fuel ih =>
    intro ts xs rest h
    cases hx : item ts with
    | none => simp [separated, hx] at h
    | some r =>
      obtain ⟨x, ts'⟩ := r
      obtain ⟨front, rfl, hD⟩ := hi hx
      rw [separated_succ hx] at h
      split_ifs at h with hsep
      · obtain ⟨⟨ys, rest'⟩, hys, he⟩ := Option.map_eq_some_iff.1 h
        cases he
        obtain ⟨front', htail, hD'⟩ := ih hys
        obtain ⟨tail, rfl⟩ := List.head?_eq_some_iff.1 hsep
        obtain rfl : tail = front' ++ rest' := htail
        exact ⟨front ++ .mark sep :: front', by simp, .more hD hD'⟩
      · cases h
        exact ⟨front, rfl, .one hD⟩

/-- Every item but the first takes a separator. -/
lemma Separated.length_le {sep : Char} {D : Spelling α} {ts : List Token} {xs : List α}
    (h : Separated sep D ts xs) : xs.length ≤ ts.length + 1 := by
  induction h with
  | one => simp
  | more _ _ ih =>
    simp only [List.length_cons, List.length_append]
    omega

lemma complete_separated {sep : Char} {item : Reader α} {D : Spelling α} {stops : List Char}
    (hi : Complete item D stops) (hsep : sep ∉ stops) {front : List Token} {xs : List α}
    {rest : List Token} {fuel : Nat} (h : Separated sep D front xs) (hfuel : xs.length ≤ fuel + 1)
    (hrest : Ends (sep :: stops) rest) :
    separated sep item fuel (front ++ rest) = some (xs, rest) := by
  obtain ⟨hstop, hstops⟩ := List.forall_mem_cons.1 hrest
  induction h generalizing fuel with
  | one hD =>
    have hread := hi hD hstops
    cases fuel with
    | zero => simp [separated, hread]
    | succ fuel => rw [separated_succ hread, if_neg hstop]
  | @more ts us x xs hD hs ih =>
    have hread := hi.read hD hsep (us ++ rest)
    cases fuel with
    | zero => cases hs <;> simp at hfuel
    | succ fuel =>
      have htail : separated sep item fuel (us ++ rest) = some (xs, rest) :=
        ih (by simpa using hfuel)
      rw [List.append_assoc, List.cons_append, separated_succ hread, if_pos List.head?_cons,
        List.tail_cons, htail]
      rfl

/-! ### Primary types -/

section Union

variable {union : Reader Parsed} {U : Spelling Parsed}

lemma sound_named (hu : Sound union U) : Sound (named union) fun ts t => U ts (some t) := by
  intro ts t rest h
  simp only [named, Option.bind_eq_bind, Option.bind_eq_some_iff] at h
  obtain ⟨⟨p, rest'⟩, hp, t', rfl, h⟩ := h
  obtain ⟨front, rfl, hU⟩ := hu hp
  cases h
  exact ⟨front, rfl, hU⟩

lemma complete_named {stops : List Char} (hu : Complete union U stops) :
    Complete (named union) (fun ts t => U ts (some t)) stops := by
  intro front t rest hU hrest
  simp [named, hu hU hrest]

/-- An index signature without its opening brace. -/
lemma sound_indexSignature (hu : Sound union U) :
    Sound (indexSignature union) fun ts p => SpellsPrimary U (.mark '\x7b' :: ts) p := by
  intro ts p rest h
  unfold indexSignature at h
  split at h
  · rename_i name _
    simp only [Option.bind_eq_bind, Option.bind_eq_some_iff] at h
    obtain ⟨⟨key, ts₁⟩, hkey, h⟩ := h
    obtain ⟨ks, rfl, hk⟩ := sound_named hu hkey
    dsimp only at h
    split at h
    · simp only [Option.bind_eq_some_iff] at h
      obtain ⟨⟨value, ts₂⟩, hvalue, h⟩ := h
      obtain ⟨vs, rfl, hv⟩ := sound_named hu hvalue
      dsimp only at h
      split at h
      · cases h
        exact ⟨_, by simp, .signature name hk hv (.inr (.inl rfl))⟩
      · cases h
        exact ⟨_, by simp, .signature name hk hv (.inr (.inr rfl))⟩
      · cases h
        exact ⟨_, by simp, .signature name hk hv (.inl rfl)⟩
      · cases h
    · cases h
  · cases h

lemma sound_primary (hu : Sound union U) : Sound (primary union) (SpellsPrimary U) := by
  intro ts p rest h
  unfold primary at h
  split at h
  · simp only [Option.bind_eq_bind, Option.bind_eq_some_iff] at h
    obtain ⟨⟨t, ts₁⟩, ht, h⟩ := h
    obtain ⟨front, rfl, hU⟩ := hu ht
    dsimp only at h
    split at h
    · cases h
      exact ⟨_, by simp, .group hU⟩
    · cases h
  · obtain ⟨front, rfl, hs⟩ := sound_indexSignature hu h
    exact ⟨_, rfl, hs⟩
  · rename_i name ts₁
    split_ifs at h with hnull
    · cases h
      exact ⟨[.name name], rfl, .nullish (by simpa [isNullish] using hnull)⟩
    · have hname : ¬ (name = "null" ∨ name = "undefined") := by simpa [isNullish] using hnull
      split at h
      · simp only [Option.bind_eq_bind, Option.bind_eq_some_iff] at h
        obtain ⟨⟨args, ts₂⟩, hargs, h⟩ := h
        obtain ⟨front, rfl, ha⟩ := sound_separated (sound_named hu) _ hargs
        dsimp only at h
        split at h
        · cases h
          rw [genericOf_eq_genericMeaning]
          exact ⟨_, by simp, .generic hname ha⟩
        · cases h
      · cases h
        exact ⟨[.name name], rfl, by simpa [keywordName] using SpellsPrimary.plain hname⟩
  · cases h

/-- The marks that can continue a union. -/
def unionStops : List Char := ['|', '[', '<']

lemma complete_primary (hu : Complete union U unionStops) :
    Complete (primary union) (SpellsPrimary U) ['<'] := by
  intro front p rest h hrest
  cases h with
  | @group ts p hU => simp [primary, hu.read hU (by decide : ')' ∉ unionStops)]
  | @signature name ks vs close key value hk hv hclose =>
    have hkey := (complete_named hu).read hk (by decide : ']' ∉ unionStops)
    have hvalue : ∀ {c : Char}, c ∉ unionStops → ∀ tail,
        named union (vs ++ .mark c :: tail) = some (value, .mark c :: tail) :=
      (complete_named hu).read hv
    rcases hclose with rfl | rfl | rfl
    · simp [primary, indexSignature, hkey, hvalue (by decide : '\x7d' ∉ unionStops), dictionaryOf]
    · simp [primary, indexSignature, hkey, hvalue (by decide : ';' ∉ unionStops), dictionaryOf]
    · simp [primary, indexSignature, hkey, hvalue (by decide : ',' ∉ unionStops), dictionaryOf]
  | @nullish name hname =>
    have hnull : isNullish name = true := by simpa [isNullish] using hname
    simp [primary, hnull]
  | @plain name hname =>
    have hnull : isNullish name = false := by simpa [isNullish] using hname
    have hstop : rest.head? ≠ some (.mark '<') := hrest '<' (by simp)
    rcases rest with _ | ⟨_ | c, rest⟩
    · simp [primary, hnull, keywordName]
    · simp [primary, hnull, keywordName]
    · have hc : c ≠ '<' := by simpa using hstop
      simp [primary, hnull, keywordName, hc]
  | @generic name ts args hname ha =>
    have hnull : isNullish name = false := by simpa [isNullish] using hname
    have hargs : separated ',' (named union) (ts.length + (rest.length + 1))
        (ts ++ .mark '>' :: rest) = some (args, .mark '>' :: rest) := by
      refine complete_separated (complete_named hu) (by decide) ha ?_ (ends_mark.2 (by decide))
      have hlen := ha.length_le
      omega
    simp [primary, hnull, hargs, genericOf_eq_genericMeaning]

/-! ### Brackets -/

/-- By induction on the brackets that are read. -/
lemma sound_brackets {p q : Parsed} {front ts rest : List Token} (hp : SpellsSuffixed U front p)
    (h : brackets p ts = some (q, rest)) :
    ∃ back, ts = back ++ rest ∧ SpellsSuffixed U (front ++ back) q := by
  fun_induction brackets p ts generalizing front with
  | case1 p ts ih =>
    obtain ⟨element, rfl, h⟩ := Option.bind_eq_some_iff.1 h
    obtain ⟨back, rfl, hq⟩ := ih element hp.list h
    exact ⟨.mark '[' :: .mark ']' :: back, rfl, by simpa using hq⟩
  | case2 => cases h
  | case3 =>
    cases h
    exact ⟨[], rfl, by simpa using hp⟩

lemma sound_suffixed (hu : Sound union U) : Sound (suffixed union) (SpellsSuffixed U) := by
  intro ts p rest h
  simp only [suffixed, Option.bind_eq_bind, Option.bind_eq_some_iff] at h
  obtain ⟨⟨t, ts₁⟩, ht, h⟩ := h
  obtain ⟨front, rfl, hfront⟩ := sound_primary hu ht
  obtain ⟨back, rfl, hback⟩ := sound_brackets (.primary hfront) h
  exact ⟨front ++ back, by simp, hback⟩

/-- After what is spelled with some brackets, further brackets are read. -/
lemma suffixed_append (hu : Complete union U unionStops) {front : List Token} {p : Parsed}
    (h : SpellsSuffixed U front p) {rest : List Token} (hrest : Ends ['<'] rest) :
    suffixed union (front ++ rest) = brackets p rest := by
  induction h generalizing rest with
  | primary h => simp [suffixed, complete_primary hu h hrest]
  | @list ts t _ ih =>
    have hread := ih (ends_mark.2 (by decide) : Ends ['<'] (.mark '[' :: .mark ']' :: rest))
    rw [List.append_assoc]
    exact hread.trans (by simp [brackets, listOf])

lemma complete_suffixed (hu : Complete union U unionStops) :
    Complete (suffixed union) (SpellsSuffixed U) ['[', '<'] := by
  intro front p rest h hrest
  obtain ⟨hstop, hstops⟩ := List.forall_mem_cons.1 hrest
  rw [suffixed_append hu h hstops, brackets.eq_3]
  rintro ts rfl
  exact hstop rfl

/-- A type does not start with a bar. -/
lemma SpellsPrimary.starts {ts : List Token} {p : Parsed} (h : SpellsPrimary U ts p) :
    ∃ t tail, ts = t :: tail ∧ t ≠ .mark '|' := by
  cases h <;> exact ⟨_, _, rfl, by simp⟩

lemma SpellsSuffixed.starts {ts : List Token} {p : Parsed} (h : SpellsSuffixed U ts p) :
    ∃ t tail, ts = t :: tail ∧ t ≠ .mark '|' := by
  induction h with
  | primary h => exact h.starts
  | list _ ih =>
    obtain ⟨t, tail, rfl, ht⟩ := ih
    exact ⟨t, _, List.cons_append, ht⟩

end Union

lemma Separated.starts {U : Spelling Parsed} {sep : Char} {ts : List Token} {ps : List Parsed}
    (h : Separated sep (SpellsSuffixed U) ts ps) : ∃ t tail, ts = t :: tail ∧ t ≠ .mark '|' := by
  cases h with
  | one h => exact h.starts
  | more h _ =>
    obtain ⟨t, tail, rfl, ht⟩ := h.starts
    exact ⟨t, _, List.cons_append, ht⟩

/-! ### Unions -/

/-- By induction on the unions that may be open. -/
lemma sound_union (n : Nat) : Sound (union n) (SpellsUnion n) := by
  induction n with
  | zero =>
    intro ts p rest h
    cases h
  | succ n ih =>
    intro ts p rest h
    simp only [union, Option.bind_eq_bind, Option.bind_eq_some_iff] at h
    obtain ⟨⟨members, ts₁⟩, hmembers, h⟩ := h
    obtain ⟨front, hts, hD⟩ := sound_separated (sound_suffixed ih) _ hmembers
    cases h
    split at hts
    · subst hts
      exact ⟨.mark '|' :: front, rfl, front, members, .inr rfl, hD, unionOf_eq_unionMeaning members⟩
    · subst hts
      exact ⟨front, rfl, front, members, .inl rfl, hD, unionOf_eq_unionMeaning members⟩

/-- By induction on the unions that may be open. -/
lemma complete_union (n : Nat) : Complete (union n) (SpellsUnion n) unionStops := by
  induction n with
  | zero =>
    intro front p rest h
    cases h
  | succ n ih =>
    rintro front p rest ⟨us, members, hfront, hD, rfl⟩ hrest
    have hread : separated '|' (suffixed (union n)) (us ++ rest).length (us ++ rest)
        = some (members, rest) := by
      refine complete_separated (complete_suffixed ih) (by decide) hD ?_ hrest
      have hlen := hD.length_le
      simp only [List.length_append]
      omega
    rcases hfront with rfl | rfl
    · -- Without a bar before it, the first member is not taken for one.
      obtain ⟨t, tail, rfl, ht⟩ := hD.starts
      have hbar : ∀ tail', t :: tail ++ rest ≠ .mark '|' :: tail' :=
        fun tail' he => ht (List.cons.inj he).1
      rw [union.eq_3 _ _ hbar, hread, ← unionOf_eq_unionMeaning]
      rfl
    · rw [List.cons_append, union.eq_2, hread, ← unionOf_eq_unionMeaning]
      rfl

/-- The rest of an annotation is empty, so a union is read to the end. -/
lemma parse?_eq_some_iff {text : String} {t : TypeName} : parse? text = some t ↔
    ∃ ts, tokens? text = some ts ∧ union maxNesting ts = some (some t, []) := by
  simp only [parse?, Option.bind_eq_bind, Option.bind_eq_some_iff]
  constructor
  · rintro ⟨ts, hts, ⟨p, rest⟩, hread, h⟩
    split at h
    · rename_i heq
      cases heq
      exact ⟨ts, hts, h ▸ hread⟩
    · cases h
  · rintro ⟨ts, hts, hread⟩
    exact ⟨ts, hts, (some t, []), hread, rfl⟩

end RawType

/-- Annotations are read by the grammar, all of it and nothing else: a text spells the type `t` if
it is cut into tokens that derive from `union` with the meaning `t` and at most 32 unions open at
once.  A text is cut into tokens if it holds nothing but white space, marks and characters of
names. -/
theorem annotation_spells_iff (text : String) :
    (∀ t, RawType.parse? text = some t ↔
      ∃ ts, RawType.Lexes text.toList ts ∧ RawType.SpellsUnion 32 ts (some t)) ∧
    ((∃ ts, RawType.Lexes text.toList ts) ↔
      ∀ c ∈ text.toList,
        Text.isBlank c = true ∨ RawType.isMark c = true ∨ RawType.isNameChar c = true) := by
  refine ⟨fun t => ?_, RawType.exists_lexes_iff⟩
  rw [RawType.parse?_eq_some_iff]
  constructor
  · rintro ⟨ts, hts, hread⟩
    obtain ⟨front, rfl, hspells⟩ := RawType.sound_union RawType.maxNesting hread
    rw [List.append_nil] at hts
    exact ⟨front, RawType.tokens?_eq_some_iff.1 hts, hspells⟩
  · rintro ⟨ts, hts, hspells⟩
    have hread : RawType.union RawType.maxNesting (ts ++ []) = some (some t, []) :=
      RawType.complete_union RawType.maxNesting hspells fun _ _ => by simp
    rw [List.append_nil] at hread
    exact ⟨ts, RawType.tokens?_eq_some_iff.2 hts, hread⟩

end Gls
