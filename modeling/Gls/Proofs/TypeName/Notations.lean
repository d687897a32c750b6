/-
# Types with several notations

A list can be written `Array<T>` or `T[]`, a dictionary `Map<K, V>` or with an index signature, and
a type that may be missing with `null` or with `undefined`.  This file says what a text spells that
is put together from texts whose types are known, with white space wherever tokens meet.

The texts are put together on the side of the grammar: the tokens of the whole are those of its
parts in order, since each part that may end with a name is followed by a mark or by white space,
and what the parts spell fits into a rule.  Nothing has to be known about how the parts are read.
-/
import Gls.Proofs.TypeName.Nesting

namespace Gls

namespace RawType

/-! ### Tokens of texts that are put together -/

/-- A name ends where white space or a mark comes next. -/
lemma Lexes.append {cs ds : List Char} {ts us : List Token} (h : Lexes cs ts) (hd : Lexes ds us)
    (hend : ∀ c, ds.head? = some c → isNameChar c = false) : Lexes (cs ++ ds) (ts ++ us) := by
  induction h with
  | done => exact hd
  | blank hc _ ih => exact .blank hc ih
  | mark hc _ ih => exact .mark hc ih
  | @name w cs ts hne hw hnext _ ih =>
    rw [List.append_assoc, List.cons_append]
    refine .name hne hw ?_ ih
    cases cs with
    | nil => exact hend
    | cons c cs => exact hnext

lemma lexes_blanks {bs cs : List Char} {ts : List Token} (hb : ∀ c ∈ bs, Text.isBlank c = true)
    (h : Lexes cs ts) : Lexes (bs ++ cs) ts := by
  induction bs with
  | nil => exact h
  | cons b bs ih =>
    obtain ⟨hblank, hblanks⟩ := List.forall_mem_cons.1 hb
    exact .blank hblank (ih hblanks)

/-- The characters are the pieces in this order, with white space before and after each of them or
without. -/
inductive Spaced : List (List Char) → List Char → Prop where
  | last {bs : List Char} (hb : ∀ c ∈ bs, Text.isBlank c = true) : Spaced [] bs
  | piece {bs p cs : List Char} {ps : List (List Char)} (hb : ∀ c ∈ bs, Text.isBlank c = true)
      (h : Spaced ps cs) : Spaced (p :: ps) (bs ++ p ++ cs)

/-- Pieces may follow each other without white space. -/
lemma spaced_flatten (ps : List (List Char)) : Spaced ps ps.flatten := by
  induction ps with
  | nil => exact .last (by simp)
  | cons p ps ih =>
    have hb : ∀ c ∈ ([] : List Char), Text.isBlank c = true := by simp
    exact .piece hb ih

/-- Pieces may follow each other, each after some white space. -/
lemma spaced_of_parts {ps : List (List Char)} {cs : List Char}
    (parts : List (List Char × List Char))
    (hb : (parts.all fun p => p.1.all Text.isBlank) = true) (hps : ps = parts.map Prod.snd)
    (hcs : cs = parts.flatMap fun p => p.1 ++ p.2) : Spaced ps cs := by
  subst hps hcs
  induction parts with
  | nil => exact .last (by simp)
  | cons p parts ih =>
    rw [List.all_cons, Bool.and_eq_true] at hb
    exact .piece (List.all_eq_true.1 hb.1) (ih hb.2)

/-- The pieces, put together in any way, are cut into the tokens. -/
def LexesSpaced (ps : List (List Char)) (ts : List Token) : Prop := ∀ cs, Spaced ps cs → Lexes cs ts

lemma lexesSpaced_nil : LexesSpaced [] [] := by
  rintro _ ⟨hb⟩
  simpa using lexes_blanks hb .done

lemma LexesSpaced.mark {ps : List (List Char)} {ts : List Token} (h : LexesSpaced ps ts) {c : Char}
    (hc : isMark c = true) : LexesSpaced ([c] :: ps) (.mark c :: ts) := by
  rintro _ (_ | ⟨hb, hs⟩)
  rw [List.append_assoc]
  exact lexes_blanks hb (.mark hc (h _ hs))

/-- A piece of any length, in front of a mark. -/
lemma LexesSpaced.piece {ps : List (List Char)} {p : List Char} {c : Char} {ts us : List Token}
    (hp : Lexes p us) (hc : isMark c = true) (h : LexesSpaced ([c] :: ps) ts) :
    LexesSpaced (p :: [c] :: ps) (us ++ ts) := by
  rintro _ (_ | ⟨hb, hs⟩)
  rw [List.append_assoc]
  refine lexes_blanks hb (hp.append (h _ hs) ?_)
  intro d hd
  obtain _ | @⟨bs, _, _, _, hbs, -⟩ := hs
  cases bs with
  | nil =>
    obtain rfl : c = d := by simpa using hd
    exact (of_isMark hc).2
  | cons b bs =>
    obtain rfl : b = d := by simpa using hd
    exact isNameChar_of_isBlank (hbs b List.mem_cons_self)

/-- A piece of any length, with nothing but white space after it. -/
lemma lexesSpaced_last {p : List Char} {us : List Token} (hp : Lexes p us) :
    LexesSpaced [p] us := by
  rintro _ (_ | ⟨hb, ⟨hend⟩⟩)
  rename_i bs es
  have hblanks : Lexes es [] := by simpa using lexes_blanks hend .done
  rw [List.append_assoc]
  refine lexes_blanks hb ?_
  simpa using hp.append hblanks fun c hc => isNameChar_of_isBlank (hend c (List.mem_of_head? hc))

/-- The whole text is cut into one name. -/
lemma lexes_name {name : String} (hne : name ≠ "") (h : IsName name) :
    Lexes name.toList [.name name] := by
  have hlist : name.toList ≠ [] := fun hnil => hne (String.toList_eq_nil_iff.1 hnil)
  simpa using Lexes.name hlist h (by simp) .done

/-! ### Members of unions -/

lemma unionMeaning_singleton (p : Parsed) : unionMeaning [p] = p := by
  cases p with
  | none => rfl
  | some t => simp [unionMeaning, List.eraseDups_cons]

/-- Nullish members do not matter. -/
lemma unionMeaning_append_none (ms : List Parsed) :
    unionMeaning (ms ++ [none]) = unionMeaning ms := by
  have hkept : (ms ++ [none]).reduceOption = ms.reduceOption := by
    simp [List.reduceOption_append]
  unfold unionMeaning
  rw [hkept]

lemma Separated.append {α : Type} {sep : Char} {D : Spelling α} {ts us : List Token} {xs : List α}
    {x : α} (h : Separated sep D ts xs) (hx : D us x) :
    Separated sep D (ts ++ .mark sep :: us) (xs ++ [x]) := by
  induction h with
  | one h => exact .more h (.one hx)
  | more h _ ih =>
    rw [List.append_assoc, List.cons_append]
    exact .more h ih

/-- A union with one member. -/
lemma spellsUnion_suffixed {n : Nat} {ts : List Token} {p : Parsed}
    (h : SpellsSuffixed (SpellsUnion n) ts p) : SpellsUnion (n + 1) ts p :=
  ⟨ts, [p], .inl rfl, .one h, (unionMeaning_singleton p).symm⟩

lemma spellsUnion_nullish {n : Nat} {ts : List Token} {p : Parsed} (h : SpellsUnion n ts p)
    {name : String} (hname : name = "null" ∨ name = "undefined") :
    SpellsUnion n (ts ++ [.mark '|', .name name]) p := by
  obtain _ | n := n
  · cases h
  obtain ⟨us, members, hts, hmembers, rfl⟩ := h
  refine ⟨us ++ [.mark '|', .name name], members ++ [none], ?_,
    hmembers.append (.primary (.nullish hname)), (unionMeaning_append_none members).symm⟩
  rcases hts with rfl | rfl
  · exact .inl rfl
  · exact .inr rfl

/-! ### What is spelled with brackets -/

variable {n : Nat} {t k v cs : List Char} {a b c : TypeName} {p : Parsed}

lemma Annotates.group (h : Annotates n t p) (hs : Spaced [['('], t, [')']] cs) :
    Annotates (n + 1) cs p := by
  obtain ⟨ts, hts, hspells⟩ := h
  have hlexes : LexesSpaced [['('], t, [')']] (.mark '(' :: (ts ++ [.mark ')'])) :=
    (LexesSpaced.piece hts rfl (lexesSpaced_nil.mark rfl)).mark rfl
  exact ⟨_, hlexes cs hs, spellsUnion_suffixed (.primary (.group hspells))⟩

/-- A list, written with brackets after its elements. -/
lemma Annotates.group_list (h : Annotates n t (some a))
    (hs : Spaced [['('], t, [')'], ['['], [']']] cs) : Annotates (n + 1) cs (some (listOf a)) := by
  obtain ⟨ts, hts, hspells⟩ := h
  have hlexes : LexesSpaced [['('], t, [')'], ['['], [']']]
      (.mark '(' :: (ts ++ [.mark ')', .mark '[', .mark ']'])) :=
    (LexesSpaced.piece hts rfl (((lexesSpaced_nil.mark rfl).mark rfl).mark rfl)).mark rfl
  refine ⟨_, hlexes cs hs, spellsUnion_suffixed ?_⟩
  simpa [listOf] using SpellsSuffixed.list (.primary (.group hspells))

/-- A list, written as a name with one type argument. -/
lemma Annotates.array (h : Annotates n t (some a))
    (hs : Spaced ["Array".toList, ['<'], t, ['>']] cs) :
    Annotates (n + 1) cs (some (listOf a)) := by
  obtain ⟨ts, hts, hspells⟩ := h
  have hlexes : LexesSpaced ["Array".toList, ['<'], t, ['>']]
      ([.name "Array"] ++ .mark '<' :: (ts ++ [.mark '>'])) :=
    .piece (lexes_name (by decide) (by decide +kernel)) rfl
      ((LexesSpaced.piece hts rfl (lexesSpaced_nil.mark rfl)).mark rfl)
  exact ⟨_, hlexes cs hs, spellsUnion_suffixed (.primary (.generic (by decide) (.one hspells)))⟩

/-- A dictionary, written as a name with two type arguments. -/
lemma Annotates.map (hk : Annotates n k (some b)) (hv : Annotates n v (some c))
    (hs : Spaced ["Map".toList, ['<'], k, [','], v, ['>']] cs) :
    Annotates (n + 1) cs (some (dictionaryOf b c)) := by
  obtain ⟨ks, hks, hkey⟩ := hk
  obtain ⟨vs, hvs, hvalue⟩ := hv
  have hlexes : LexesSpaced ["Map".toList, ['<'], k, [','], v, ['>']]
      ([.name "Map"] ++ .mark '<' :: (ks ++ .mark ',' :: (vs ++ [.mark '>']))) :=
    .piece (lexes_name (by decide) (by decide +kernel)) rfl
      ((LexesSpaced.piece hks rfl
        ((LexesSpaced.piece hvs rfl (lexesSpaced_nil.mark rfl)).mark rfl)).mark rfl)
  have hargs : Separated ',' (fun us t => SpellsUnion n us (some t))
      (ks ++ .mark ',' :: vs) [b, c] := .more hkey (.one hvalue)
  refine ⟨_, hlexes cs hs, spellsUnion_suffixed (.primary ?_)⟩
  have hname : ¬ ("Map" = "null" ∨ "Map" = "undefined") := by decide
  have hprimary := SpellsPrimary.generic hname hargs
  simpa [genericMeaning, dictionaryOf] using hprimary

/-- What may stand before the closing brace of an index signature. -/
def SignatureEnd (close : List Char) : Prop := close = [] ∨ close = [';'] ∨ close = [',']

/-- A dictionary, written with an index signature. -/
lemma Annotates.signature {name : String} (hne : name ≠ "") (hname : IsName name)
    (hk : Annotates n k (some b)) (hv : Annotates n v (some c)) {close : List Char}
    (hclose : SignatureEnd close)
    (hs : Spaced ([['\x7b'], ['['], name.toList, [':'], k, [']'], [':'], v] ++
      close.map ([·]) ++ [['\x7d']]) cs) :
    Annotates (n + 1) cs (some (dictionaryOf b c)) := by
  obtain ⟨ks, hks, hkey⟩ := hk
  obtain ⟨vs, hvs, hvalue⟩ := hv
  have hlexes : LexesSpaced ([['\x7b'], ['['], name.toList, [':'], k, [']'], [':'], v] ++
      close.map ([·]) ++ [['\x7d']])
      (.mark '\x7b' :: .mark '[' :: ([.name name] ++ .mark ':' ::
        (ks ++ .mark ']' :: .mark ':' :: (vs ++ (close.map Token.mark ++ [.mark '\x7d']))))) := by
    refine ((LexesSpaced.piece (lexes_name hne hname) rfl
      ((LexesSpaced.piece hks rfl (((?_ : LexesSpaced (v :: _) _).mark rfl).mark rfl)).mark
        rfl)).mark rfl).mark rfl
    rcases hclose with rfl | rfl | rfl
    · exact .piece hvs rfl (lexesSpaced_nil.mark rfl)
    · exact .piece hvs rfl ((lexesSpaced_nil.mark rfl).mark rfl)
    · exact .piece hvs rfl ((lexesSpaced_nil.mark rfl).mark rfl)
  have hend : close.map Token.mark = [] ∨ close.map Token.mark = [.mark ';'] ∨
      close.map Token.mark = [.mark ','] := by
    rcases hclose with rfl | rfl | rfl <;> simp
  exact ⟨_, hlexes cs hs, spellsUnion_suffixed (.primary (.signature name hkey hvalue hend))⟩

/-! ### What is spelled with a nullish member -/

/-- A nullish member after a union is dropped. -/
lemma Annotates.nullish (h : Annotates n t p) (name : String)
    (hname : name = "null" ∨ name = "undefined") (hs : Spaced [t, ['|'], name.toList] cs) :
    Annotates n cs p := by
  obtain ⟨ts, hts, hspells⟩ := h
  have hlast : Lexes name.toList [.name name] := by
    rcases hname with rfl | rfl
    · exact lexes_name (by decide) (by decide +kernel)
    · exact lexes_name (by decide) (by decide +kernel)
  have hlexes : LexesSpaced [t, ['|'], name.toList] (ts ++ .mark '|' :: [.name name]) :=
    .piece hts rfl ((lexesSpaced_last hlast).mark rfl)
  exact ⟨_, hlexes cs hs, spellsUnion_nullish hspells hname⟩

/-! ### Texts -/

/-- What the characters of a text spell is read if it is spelled within the limit. -/
lemma Annotates.read {text : String} {t : TypeName}
    (h : Annotates maxNesting text.toList (some t)) : parse? text = some t :=
  parse?_eq_some_iff_annotates.2 h

end RawType

open RawType

/-- The notations of one type are read alike.  For texts `t`, `k` and `v` that spell types with at
most 31 unions open at once, `Array<t>` and `(t)[]` are both the list type of the type of `t`, and
`Map<k,v>` and an index signature from `k` to `v` are both the dictionary type of the two, whatever
the parameter of the signature is called; a last member `null` or `undefined` does not change the
type of `t`. -/
theorem parse_notations {t k v name : String} {a b c : TypeName}
    (ht : parse? t = some a) (hk : parse? k = some b) (hv : parse? v = some c)
    (hopent : openUnions t ≤ 31) (hopenk : openUnions k ≤ 31) (hopenv : openUnions v ≤ 31)
    (hne : name ≠ "") (hname : IsName name) :
    (parse? ("Array<" ++ t ++ ">") = some (.command CommandName.listType [a]) ∧
      parse? ("(" ++ t ++ ")[]") = some (.command CommandName.listType [a])) ∧
    (parse? ("Map<" ++ k ++ "," ++ v ++ ">") =
        some (.command CommandName.dictionaryType [b, c]) ∧
      parse? ("\x7b[" ++ name ++ ":" ++ k ++ "]:" ++ v ++ "\x7d") =
        some (.command CommandName.dictionaryType [b, c])) ∧
    (parse? (t ++ " | null") = some a ∧ parse? (t ++ " | undefined") = some a) := by
  have hta : Annotates 31 t.toList (some a) := annotates_of_parse? ht hopent
  have hkb : Annotates 31 k.toList (some b) := annotates_of_parse? hk hopenk
  have hvc : Annotates 31 v.toList (some c) := annotates_of_parse? hv hopenv
  have hspaced : ∀ (ps : List (List Char)) (text : String), text.toList = ps.flatten →
      Spaced ps text.toList := by
    intro ps text htext
    exact htext ▸ spaced_flatten ps
  have hbar : ∀ cs, Spaced [t.toList, ['|'], cs] (t.toList ++ ' ' :: '|' :: ' ' :: cs) := by
    intro cs
    exact spaced_of_parts [([], t.toList), ([' '], ['|']), ([' '], cs)] rfl rfl (by simp)
  refine ⟨⟨?_, ?_⟩, ⟨?_, ?_⟩, ?_, ?_⟩
  · exact (hta.array (hspaced _ _ (by simp))).read
  · exact (hta.group_list (hspaced _ _ (by simp))).read
  · exact (hkb.map hvc (hspaced _ _ (by simp))).read
  · exact (hkb.signature hne hname hvc (.inl rfl) (hspaced _ _ (by simp))).read
  · have hnull := hta.nullish "null" (.inl rfl) (hbar _)
    have hread := hnull.mono (by decide : 31 ≤ maxNesting)
    exact Annotates.read (by simpa using hread)
  · have hundefined := hta.nullish "undefined" (.inr rfl) (hbar _)
    have hread := hundefined.mono (by decide : 31 ≤ maxNesting)
    exact Annotates.read (by simpa using hread)

/-- Notations of a list of dictionaries and of a dictionary between unions. -/
theorem parse_notations_strings :
    parse? "Array<\x7b [key: string]: number \x7d>" =
        parse? "(\x7b [key: string]: number \x7d)[]" ∧
      parse? "Map<string | null,A | B>" = parse? "\x7b[key:string | null]:A | B\x7d" ∧
      (parse? "\x7b [key: string]: number \x7d | undefined").isSome = true := by
  have ht : parse? "\x7b [key: string]: number \x7d" =
      some (dictionaryOf (.text "string") (.text "float")) := by
    decide +kernel
  have hk : parse? "string | null" = some (.text "string") := by
    decide +kernel
  have hv : parse? "A | B" = some (.command CommandName.unionType [.text "A", .text "B"]) := by
    decide +kernel
  obtain ⟨⟨harray, hgroup⟩, ⟨hmap, hsignature⟩, -, hundefined⟩ :=
    parse_notations ht hk hv (by decide) (by decide) (by decide) (by decide : "key" ≠ "")
      (by decide +kernel)
  refine ⟨?_, ?_, ?_⟩
  · exact harray.trans hgroup.symm
  · exact hmap.trans hsignature.symm
  · exact Option.isSome_iff_exists.2 ⟨_, hundefined⟩

end Gls
