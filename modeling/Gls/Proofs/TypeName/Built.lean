/-
# How type names are built

The name of a type comes from one of several places: the grammar of annotations, literals and
declarations of the tree, or the tables of the type checker.  Wherever it comes from, it is built
from plain names by lists, dictionaries, type arguments and unions.  A list has one argument and a
dictionary two, a name with type arguments has at least one of them, and a union has at least two
members, none of them twice.

`BuiltFrom T` says so, and that `T` holds of every plain name.  The main statement is that the names
of types and of return types are built from texts that the tree and its tables supply.
-/
import Gls.TypeName.Returns
import Mathlib.Data.List.Nodup
import Mathlib.Tactic.Common

namespace Gls

/-- A type name that is built from plain names of which `T` holds. -/
inductive BuiltFrom (T : String → Prop) : TypeName → Prop where
  | plain {t : String} (h : T t) : BuiltFrom T (.text t)
  | list {element : TypeName} (h : BuiltFrom T element) : BuiltFrom T (RawType.listOf element)
  | dictionary {key value : TypeName} (hk : BuiltFrom T key) (hv : BuiltFrom T value) :
      BuiltFrom T (RawType.dictionaryOf key value)
  | generic {name : String} {args : List TypeName} (hn : T name) (hne : args ≠ [])
      (ha : ∀ a ∈ args, BuiltFrom T a) :
      BuiltFrom T (.command CommandName.genericType (.text name :: args))
  | union {members : List TypeName} (hlen : 2 ≤ members.length) (hnodup : members.Nodup)
      (hm : ∀ m ∈ members, BuiltFrom T m) : BuiltFrom T (.command CommandName.unionType members)

lemma BuiltFrom.mono {T U : String → Prop} (h : ∀ t, T t → U t) {a : TypeName}
    (ha : BuiltFrom T a) : BuiltFrom U a := by
  induction ha with
  | plain ht => exact .plain (h _ ht)
  | list _ ih => exact .list ih
  | dictionary _ _ ihk ihv => exact .dictionary ihk ihv
  | generic hn hne _ ih => exact .generic (h _ hn) hne ih
  | union hlen hnodup _ ih => exact .union hlen hnodup ih

/-- The arguments of a list or a dictionary are built as it is. -/
lemma BuiltFrom.of_mem_args {T : String → Prop} {name : String} {args : List TypeName}
    (h : BuiltFrom T (.command name args))
    (hname : name = CommandName.listType ∨ name = CommandName.dictionaryType) {a : TypeName}
    (ha : a ∈ args) : BuiltFrom T a := by
  generalize hb : Argument.command name args = b at h
  cases h with
  | plain _ => cases hb
  | list he =>
    cases hb
    obtain rfl := List.mem_singleton.1 ha
    exact he
  | dictionary hk hv =>
    cases hb
    rcases List.mem_pair.1 ha with rfl | rfl
    · exact hk
    · exact hv
  | generic _ _ _ =>
    cases hb
    exact absurd hname (by decide)
  | union _ _ _ =>
    cases hb
    exact absurd hname (by decide)

namespace RawType

variable {α : Type} {T : String → Prop}

/-! ### The meaning of a union -/

/-- One member more changes nothing or goes to the end. -/
lemma nodup_distinct (members : List TypeName) :
    (distinct members).Nodup ∧ ∀ m ∈ distinct members, m ∈ members := by
  have hstep : ∀ (ms kept : List TypeName), kept.Nodup →
      (ms.foldl (fun kept m => if kept.contains m then kept else kept ++ [m]) kept).Nodup ∧
      ∀ m ∈ ms.foldl (fun kept m => if kept.contains m then kept else kept ++ [m]) kept,
        m ∈ kept ∨ m ∈ ms := by
    intro ms
    induction ms with
    | nil => exact fun kept hk => ⟨hk, fun m hm => .inl hm⟩
    | cons x xs ih =>
      intro kept hk
      rw [List.foldl_cons]
      split
      · obtain ⟨hn, hs⟩ := ih kept hk
        exact ⟨hn, fun m hm => (hs m hm).imp_right (List.mem_cons_of_mem x)⟩
      · rename_i hx
        have hx : x ∉ kept := by simpa using hx
        have hkx : (kept ++ [x]).Nodup := by
          rw [← List.concat_eq_append]
          exact hk.concat hx
        obtain ⟨hn, hs⟩ := ih (kept ++ [x]) hkx
        refine ⟨hn, fun m hm => ?_⟩
        rcases hs m hm with h | h
        · rcases List.mem_append.1 h with h | h
          · exact .inl h
          · exact .inr (List.mem_cons.2 (.inl (List.mem_singleton.1 h)))
        · exact .inr (List.mem_cons_of_mem x h)
  obtain ⟨hn, hs⟩ := hstep members [] List.nodup_nil
  exact ⟨hn, fun m hm => (hs m hm).resolve_left (by simp)⟩

/-- What is read, if it is not nullish, is built from plain names. -/
def BuiltParsed (T : String → Prop) (p : Parsed) : Prop := ∀ t, p = some t → BuiltFrom T t

lemma built_unionOf {members : List Parsed} (h : ∀ p ∈ members, BuiltParsed T p) :
    BuiltParsed T (unionOf members) := by
  obtain ⟨hnodup, hsub⟩ := nodup_distinct (members.filterMap id)
  have hbuilt : ∀ m ∈ distinct (members.filterMap id), BuiltFrom T m := by
    intro m hm
    obtain ⟨p, hp, hpm⟩ := List.mem_filterMap.1 (hsub m hm)
    exact h p hp m hpm
  intro t ht
  unfold unionOf at ht
  split at ht
  · cases ht
  · rename_i hm
    cases ht
    exact hbuilt t (hm ▸ List.mem_singleton_self t)
  · rename_i hnone hone
    cases ht
    -- There is more than one member: the cases of none and of one are treated before.
    have hlen : 2 ≤ (distinct (members.filterMap id)).length := by
      rcases hd : distinct (members.filterMap id) with _ | ⟨m, _ | ⟨m', ms⟩⟩
      · exact absurd hd hnone
      · exact absurd hd (hone m)
      · simp
    exact .union hlen hnodup hbuilt

lemma built_genericOf {name : String} {args : List TypeName} (hn : T name) (hne : args ≠ [])
    (ha : ∀ a ∈ args, BuiltFrom T a) : BuiltFrom T (genericOf name args) := by
  unfold genericOf
  split
  · exact .list (ha _ (by simp))
  · exact .dictionary (ha _ (by simp)) (ha _ (by simp))
  · exact .generic hn hne ha

lemma built_keywordName {name : String} (hfloat : T "float") (hn : T name) :
    BuiltFrom T (keywordName name) := by
  unfold keywordName
  split
  · exact .plain hfloat
  · exact .plain hn

/-! ### Readers -/

/-- `T` holds of the names among the tokens. -/
def Spelled (T : String → Prop) (ts : List Token) : Prop := ∀ t, Token.name t ∈ ts → T t

lemma Spelled.tail {t : Token} {ts : List Token} (h : Spelled T (t :: ts)) : Spelled T ts :=
  fun n hn => h n (List.mem_cons_of_mem t hn)

/-- From tokens whose names are in `T`, whatever is read satisfies `P`, and the names that are left
are in `T`. -/
def Reads (T : String → Prop) (r : Reader α) (P : α → Prop) : Prop :=
  ∀ ⦃ts : List Token⦄ ⦃x : α⦄ ⦃rest : List Token⦄, Spelled T ts → r ts = some (x, rest) →
    P x ∧ Spelled T rest

/-- Items with separators: at least one, and each as it is read by itself. -/
lemma reads_separated {sep : Char} {item : Reader α} {P : α → Prop} (hi : Reads T item P)
    (fuel : Nat) : Reads T (separated sep item fuel) fun xs => xs ≠ [] ∧ ∀ x ∈ xs, P x := by
  induction fuel with
  | zero =>
    intro ts xs rest hts h
    obtain ⟨⟨x, rest'⟩, hx, he⟩ := Option.map_eq_some_iff.1 h
    obtain ⟨hP, hrest⟩ := hi hts hx
    cases he
    exact ⟨by simpa using hP, hrest⟩
  | succ fuel ih =>
    intro ts xs rest hts h
    simp only [separated, Option.bind_eq_bind, Option.bind_eq_some_iff] at h
    obtain ⟨⟨x, ts'⟩, hx, h⟩ := h
    obtain ⟨hP, hts'⟩ := hi hts hx
    have hone : ([x] : List α) ≠ [] ∧ ∀ y ∈ [x], P y := by simpa using hP
    dsimp only at h
    split at h
    · split at h
      · simp only [Option.bind_eq_some_iff] at h
        obtain ⟨⟨ys, rest'⟩, hys, h⟩ := h
        obtain ⟨⟨-, hall⟩, hrest⟩ := ih hts'.tail hys
        cases h
        exact ⟨⟨by simp, List.forall_mem_cons.2 ⟨hP, hall⟩⟩, hrest⟩
      · cases h
        exact ⟨hone, hts'⟩
    · cases h
      exact ⟨hone, hts'⟩

section Union

variable {union : Reader Parsed} (hu : Reads T union (BuiltParsed T))
include hu

lemma reads_named : Reads T (named union) (BuiltFrom T) := by
  intro ts t rest hts h
  simp only [named, Option.bind_eq_bind, Option.bind_eq_some_iff] at h
  obtain ⟨⟨p, rest'⟩, hp, t', ht', h⟩ := h
  obtain ⟨hP, hrest⟩ := hu hts hp
  cases h
  exact ⟨hP t ht', hrest⟩

lemma reads_indexSignature : Reads T (indexSignature union) (BuiltParsed T) := by
  intro ts p rest hts h
  unfold indexSignature at h
  split at h
  · simp only [Option.bind_eq_bind, Option.bind_eq_some_iff] at h
    obtain ⟨⟨key, ts₁⟩, hkey, h⟩ := h
    obtain ⟨hk, hts₁⟩ := reads_named hu hts.tail.tail.tail hkey
    dsimp only at h
    split at h
    · rename_i ts₂
      simp only [Option.bind_eq_some_iff] at h
      obtain ⟨⟨value, ts₃⟩, hvalue, h⟩ := h
      obtain ⟨hv, hts₃⟩ := reads_named hu hts₁.tail.tail hvalue
      have hbuilt : BuiltParsed T (some (dictionaryOf key value)) := by
        rintro t ⟨⟩
        exact .dictionary hk hv
      dsimp only at h
      split at h
      · cases h
        exact ⟨hbuilt, hts₃.tail.tail⟩
      · cases h
        exact ⟨hbuilt, hts₃.tail.tail⟩
      · cases h
        exact ⟨hbuilt, hts₃.tail⟩
      · cases h
    · cases h
  · cases h

lemma reads_primary (hfloat : T "float") : Reads T (primary union) (BuiltParsed T) := by
  intro ts p rest hts h
  unfold primary at h
  split at h
  · simp only [Option.bind_eq_bind, Option.bind_eq_some_iff] at h
    obtain ⟨⟨t, ts₁⟩, ht, h⟩ := h
    obtain ⟨hP, hts₁⟩ := hu hts.tail ht
    dsimp only at h
    split at h
    · cases h
      exact ⟨hP, hts₁.tail⟩
    · cases h
  · exact reads_indexSignature hu hts.tail h
  · rename_i name ts₁
    have hname : T name := hts name List.mem_cons_self
    split at h
    · cases h
      exact ⟨by rintro t ⟨⟩, hts.tail⟩
    · split at h
      · simp only [Option.bind_eq_bind, Option.bind_eq_some_iff] at h
        obtain ⟨⟨args, ts₂⟩, hargs, h⟩ := h
        obtain ⟨⟨hne, ha⟩, hts₂⟩ := reads_separated (reads_named hu) _ hts.tail.tail hargs
        dsimp only at h
        split at h
        · cases h
          refine ⟨?_, hts₂.tail⟩
          rintro t ⟨⟩
          exact built_genericOf hname hne ha
        · cases h
      · cases h
        refine ⟨?_, hts.tail⟩
        rintro t ⟨⟩
        exact built_keywordName hfloat hname
  · cases h

omit hu in
/-- By induction on the brackets that are read. -/
lemma reads_brackets {p : Parsed} (hp : BuiltParsed T p) :
    Reads T (brackets p) (BuiltParsed T) := by
  intro ts q rest hts h
  fun_induction brackets p ts with
  | case1 t ts ih =>
    obtain ⟨element, rfl, h⟩ := Option.bind_eq_some_iff.1 h
    have hlist : BuiltParsed T (some (listOf element)) := by
      rintro t ⟨⟩
      exact .list (hp element rfl)
    exact ih element hlist hts.tail.tail h
  | case2 => cases h
  | case3 =>
    cases h
    exact ⟨hp, hts⟩

lemma reads_suffixed (hfloat : T "float") : Reads T (suffixed union) (BuiltParsed T) := by
  intro ts p rest hts h
  simp only [suffixed, Option.bind_eq_bind, Option.bind_eq_some_iff] at h
  obtain ⟨⟨t, ts₁⟩, ht, h⟩ := h
  obtain ⟨hP, hts₁⟩ := reads_primary hu hfloat hts ht
  exact reads_brackets hP hts₁ h

end Union

/-- By induction on the unions that may be open. -/
lemma reads_union (hfloat : T "float") (n : Nat) : Reads T (union n) (BuiltParsed T) := by
  induction n with
  | zero =>
    intro ts p rest _ h
    cases h
  | succ n ih =>
    intro ts p rest hts h
    simp only [union, Option.bind_eq_bind, Option.bind_eq_some_iff] at h
    obtain ⟨⟨members, ts₁⟩, hmembers, h⟩ := h
    have hread : ∀ {ts' : List Token} {fuel : Nat}, Spelled T ts' →
        separated '|' (suffixed (union n)) fuel ts' = some (members, ts₁) →
        (∀ q ∈ members, BuiltParsed T q) ∧ Spelled T ts₁ := fun hts' hm =>
      have hm := reads_separated (reads_suffixed ih hfloat) _ hts' hm
      ⟨hm.1.2, hm.2⟩
    cases h
    split at hmembers
    · obtain ⟨hall, hrest⟩ := hread hts.tail hmembers
      exact ⟨built_unionOf hall, hrest⟩
    · obtain ⟨hall, hrest⟩ := hread hts hmembers
      exact ⟨built_unionOf hall, hrest⟩

/-! ### Tokens -/

/-- A text that is made of the characters of names. -/
def IsName (t : String) : Prop := ∀ c ∈ t.toList, isNameChar c = true

instance (t : String) : Decidable (IsName t) := List.decidableBAll _ t.toList

lemma spelled_nameToken {seen : List Char} (h : ∀ c ∈ seen, isNameChar c = true) :
    Spelled IsName (nameToken seen) := by
  intro t ht
  unfold nameToken at ht
  split at ht
  · cases ht
  · obtain rfl := Token.name.inj (List.mem_singleton.1 ht)
    intro c hc
    rw [String.toList_ofList] at hc
    exact h c (List.mem_reverse.1 hc)

/-- The name that is being read holds characters of names only. -/
lemma spelled_tokensFrom? {cs : List Char} {seen : List Char} {ts : List Token}
    (hseen : ∀ c ∈ seen, isNameChar c = true) (h : tokensFrom? seen cs = some ts) :
    Spelled IsName ts := by
  induction cs generalizing seen ts with
  | nil =>
    cases h
    exact spelled_nameToken hseen
  | cons c cs ih =>
    rw [tokensFrom?] at h
    split at h
    · obtain ⟨ts', hts', rfl⟩ := Option.map_eq_some_iff.1 h
      intro t ht
      rcases List.mem_append.1 ht with ht | ht
      · exact spelled_nameToken hseen t ht
      · exact ih (by simp) hts' t ht
    · split at h
      · rename_i hc
        exact ih (List.forall_mem_cons.2 ⟨hc, hseen⟩) h
      · split at h
        · obtain ⟨ts', hts', rfl⟩ := Option.map_eq_some_iff.1 h
          intro t ht
          rcases List.mem_append.1 ht with ht | ht
          · exact spelled_nameToken hseen t ht
          · exact ih (by simp) hts' t (by simpa using ht)
        · cases h

/-- An annotation spells a type name that is built from the names among its tokens. -/
lemma built_of_spelled {text : String} {ts : List Token} {t : TypeName} (hfloat : T "float")
    (hts : tokens? text = some ts) (hspelled : Spelled T ts) (h : parse? text = some t) :
    BuiltFrom T t := by
  simp only [parse?, hts, Option.bind_eq_bind, Option.bind_some, Option.bind_eq_some_iff] at h
  obtain ⟨⟨p, rest⟩, hp, h⟩ := h
  obtain ⟨hP, -⟩ := reads_union hfloat maxNesting hspelled hp
  split at h
  · exact hP t (by simp_all)
  · cases h

lemma exists_tokens?_of_parse? {text : String} {t : TypeName} (h : parse? text = some t) :
    ∃ ts, tokens? text = some ts := by
  simp only [parse?, Option.bind_eq_bind, Option.bind_eq_some_iff] at h
  obtain ⟨ts, hts, -⟩ := h
  exact ⟨ts, hts⟩

/-- An annotation spells a type name that is built from names. -/
lemma built_parse? {text : String} {t : TypeName} (h : parse? text = some t) :
    BuiltFrom IsName t := by
  obtain ⟨ts, hts⟩ := exists_tokens?_of_parse? h
  exact built_of_spelled (by decide +kernel) hts (spelled_tokensFrom? (by simp) hts) h

end RawType

namespace TypedTree

/-! ### Strategies -/

variable {t : TypedTree} {resolve : Resolver} {n : NodeId} {a : TypeName}

/-- The texts that plain type names are taken from. -/
inductive Supplies (t : TypedTree) : String → Prop where
  | name {s : String} (h : RawType.IsName s) : Supplies t s
  /-- The source text of a node. -/
  | source (n : NodeId) : Supplies t (t.arena.text n)
  /-- The name of a symbol. -/
  | symbol {id : SymbolId} {y : TypeSymbol} (h : t.types.symbol? id = some y) : Supplies t y.name
  /-- The name of a primitive type. -/
  | intrinsic {ty : TypeId} {s : String} (h : t.types.intrinsicName? ty = some s) : Supplies t s

/-- A fixed word. -/
lemma built_word {s : String} (h : RawType.IsName s) : BuiltFrom t.Supplies (.text s) :=
  .plain (.name h)

lemma built_raw {text : String} (h : RawType.parse? text = some a) : BuiltFrom t.Supplies a :=
  (RawType.built_parse? h).mono fun _ => .name

lemma built_numericLiteralType (text : String) :
    BuiltFrom t.Supplies (numericLiteralType text) := by
  unfold numericLiteralType
  dsimp only
  split_ifs
  · exact built_word (by decide +kernel)
  · exact built_word (by decide +kernel)

section Strategies

variable (hr : ∀ m b, resolve m = some b → BuiltFrom t.Supplies b)
include hr

lemma built_arrayLiteralType (h : arrayLiteralType t resolve n = some a) :
    BuiltFrom t.Supplies a := by
  simp only [arrayLiteralType, Option.bind_eq_bind, Option.bind_eq_some_iff] at h
  obtain ⟨elements, -, h⟩ := h
  split at h
  · cases h
  · obtain ⟨element, he, h⟩ := Option.bind_eq_some_iff.1 h
    split at h
    · cases h
      exact .list (hr _ _ he)
    · cases h

lemma built_elementAccessType (h : elementAccessType t resolve n = some a) :
    BuiltFrom t.Supplies a := by
  simp only [elementAccessType, Option.bind_eq_bind, Option.bind_eq_some_iff] at h
  obtain ⟨access, -, container, hcontainer, c, hc, h⟩ := h
  have hbuilt : BuiltFrom t.Supplies (.command c.name c.args) := by
    cases container with
    | text _ => cases hc
    | command name args =>
      cases hc
      exact hr _ _ hcontainer
  split at h
  · rename_i hname
    exact hbuilt.of_mem_args (.inl (by simpa using hname)) (List.mem_of_getElem? h)
  · split at h
    · rename_i hname
      exact hbuilt.of_mem_args (.inr (by simpa using hname)) (List.mem_of_getElem? h)
    · cases h

lemma built_typeLiteralType (h : typeLiteralType t resolve n = some a) :
    BuiltFrom t.Supplies a := by
  unfold typeLiteralType at h
  split at h
  · exact built_raw h
  · simp only [Option.bind_eq_bind, Option.bind_eq_some_iff] at h
    obtain ⟨_, -, _, -, _, -, _, -, key, hkey, _, -, value, hvalue, h⟩ := h
    cases h
    exact .dictionary (hr _ _ hkey) (hr _ _ hvalue)
  · cases h

lemma built_variableType (h : variableType t resolve n = some a) : BuiltFrom t.Supplies a := by
  simp only [variableType, Option.bind_eq_bind, Option.bind_eq_some_iff] at h
  obtain ⟨decl, -, h⟩ := h
  split at h
  · exact hr _ _ h
  · exact hr _ _ h
  · cases h

/-- A strategy that settles a name settles one that is built from what the tree supplies. -/
lemma built_knownKind (h : knownKind t resolve n = .settled (some a)) :
    BuiltFrom t.Supplies a := by
  unfold knownKind at h
  split at h
  · exact built_arrayLiteralType hr (Step.settled.inj h)
  · cases h; exact built_word (by decide +kernel)
  · cases h; exact built_word (by decide +kernel)
  · cases h; exact built_word (by decide +kernel)
  · exact built_elementAccessType hr (Step.settled.inj h)
  · obtain ⟨call, -, rfl⟩ := Option.map_eq_some_iff.1 (Step.settled.inj h)
    exact .plain (.source _)
  · cases h; exact built_word (by decide +kernel)
  · cases h; exact built_numericLiteralType _
  · exact built_typeLiteralType hr (Step.settled.inj h)
  · cases h; exact built_word (by decide +kernel)
  · cases h; exact built_word (by decide +kernel)
  · exact built_variableType hr (Step.settled.inj h)
  · cases h

lemma built_passThrough (h : passThrough t resolve n = .settled (some a)) :
    BuiltFrom t.Supplies a := by
  unfold passThrough at h
  split at h
  · split at h
    · split at h
      · exact hr _ _ (Step.settled.inj h)
      · cases h
    · cases h
  · cases h

omit hr in
lemma built_primitiveName? {ty : TypeId} (h : primitiveName? t.types ty = some a) :
    BuiltFrom t.Supplies a := by
  unfold primitiveName? at h
  dsimp only at h
  split at h
  · cases h; exact built_word (by decide +kernel)
  · split at h
    · cases h; exact built_word (by decide +kernel)
    · split at h
      · cases h; exact built_numericLiteralType _
      · split at h
        · cases h; exact built_word (by decide +kernel)
        · split at h
          · cases h; exact built_word (by decide +kernel)
          · cases h

omit hr in
lemma built_typeFlags (h : typeFlags t resolve n = .settled (some a)) :
    BuiltFrom t.Supplies a := by
  unfold typeFlags at h
  split at h
  · rename_i hname
    cases h
    obtain ⟨ty, -, hty⟩ := Option.bind_eq_some_iff.1 hname
    exact built_primitiveName? hty
  · cases h

lemma built_valueDeclaration (h : valueDeclaration t resolve n = .settled (some a)) :
    BuiltFrom t.Supplies a := by
  unfold valueDeclaration at h
  dsimp only at h
  split at h
  · split at h
    · exact hr _ _ (Step.settled.inj h)
    · cases h
  · cases h

lemma built_declaredType (h : declaredType t resolve n = .settled (some a)) :
    BuiltFrom t.Supplies a := by
  unfold declaredType at h
  split at h
  · split at h
    · exact hr _ _ (Step.settled.inj h)
    · cases h
  · cases h

omit hr in
lemma built_rawTypeText (h : rawTypeText t resolve n = .settled (some a)) :
    BuiltFrom t.Supplies a := by
  unfold rawTypeText at h
  split at h
  · exact built_raw (Step.settled.inj h)
  · cases h

omit hr in
lemma built_typeSymbolName (h : typeSymbolName t resolve n = .settled (some a)) :
    BuiltFrom t.Supplies a := by
  unfold typeSymbolName at h
  split at h
  · rename_i y hy
    split at h
    · cases h
      obtain ⟨id, -, hid⟩ := Option.bind_eq_some_iff.1 hy
      exact .plain (.symbol hid)
    · cases h
  · cases h

lemma built_of_mem_strategies {s : String × Strategy} (hs : s ∈ strategies)
    (h : s.2 t resolve n = .settled (some a)) : BuiltFrom t.Supplies a := by
  simp only [strategies, List.mem_cons, List.not_mem_nil, or_false] at hs
  rcases hs with rfl | rfl | rfl | rfl | rfl | rfl | rfl
  · exact built_knownKind hr h
  · exact built_passThrough hr h
  · exact built_typeFlags (show typeFlags t resolve n = _ from h)
  · exact built_valueDeclaration hr h
  · exact built_declaredType hr h
  · exact built_rawTypeText (show rawTypeText t resolve n = _ from h)
  · exact built_typeSymbolName (show typeSymbolName t resolve n = _ from h)

lemma built_firstSettled {ss : List (String × Strategy)} (hss : ss ⊆ strategies)
    (h : firstSettled t resolve n ss = some a) : BuiltFrom t.Supplies a := by
  induction ss with
  | nil => cases h
  | cons s ss ih =>
    obtain ⟨hs, hss⟩ := List.cons_subset.1 hss
    rw [firstSettled] at h
    split at h
    · rename_i name hname
      subst h
      exact built_of_mem_strategies hr hs hname
    · exact ih hss h

end Strategies

/-! ### Resolution -/

/-- By induction on how deep questions may go. -/
lemma built_resolveWithin {budget : Nat} (h : resolveWithin t budget n = some a) :
    BuiltFrom t.Supplies a := by
  induction budget generalizing n a with
  | zero => cases h
  | succ budget ih =>
    rw [resolveWithin] at h
    split at h
    · cases h
    · exact built_firstSettled (fun m b hm => ih hm) (List.Subset.refl _) h

lemma built_typeName? (h : t.typeName? n = some a) : BuiltFrom t.Supplies a :=
  built_resolveWithin h

lemma built_commonReturnType? {returns : List NodeId} (h : t.commonReturnType? returns = some a) :
    BuiltFrom t.Supplies a := by
  unfold commonReturnType? at h
  split at h
  · cases h; exact built_word (by decide +kernel)
  · simp only [Option.bind_eq_bind, Option.bind_eq_some_iff] at h
    obtain ⟨common, hcommon, h⟩ := h
    obtain ⟨value, -, hvalue⟩ := Option.bind_eq_some_iff.1 hcommon
    split at h
    · cases h
      exact built_typeName? hvalue
    · cases h

lemma built_signatureReturnType? (h : t.signatureReturnType? n = some a) :
    BuiltFrom t.Supplies a := by
  simp only [signatureReturnType?, Option.bind_eq_bind, Option.bind_eq_some_iff] at h
  obtain ⟨ty, -, h⟩ := h
  split at h
  · split at h
    · rename_i hy
      cases h
      obtain ⟨id, -, hid⟩ := Option.bind_eq_some_iff.1 hy
      exact .plain (.symbol hid)
    · obtain ⟨s, hs, rfl⟩ := Option.map_eq_some_iff.1 h
      exact .plain (.intrinsic hs)
  · cases h

lemma built_returnType? (h : t.returnType? n = some a) : BuiltFrom t.Supplies a := by
  unfold returnType? at h
  dsimp only at h
  split at h
  · rename_i hagreed
    cases h
    split at hagreed
    · exact built_commonReturnType? hagreed
    · cases hagreed
  · exact built_typeName? h
  · exact built_signatureReturnType? h

end TypedTree

end Gls
