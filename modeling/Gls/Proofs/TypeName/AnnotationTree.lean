/-
# Annotations as nodes and as texts

An annotation arrives as a tree of nodes, or as a text when nothing is known about it but that.  The
tree is taken apart by the strategies for the types of nodes; the text is read by the grammar.  This
file shows that both find the same type.

The trees are those whose inner nodes are parentheses and type literals with one index signature,
over any types that are read from their texts and over keywords.  The text of an inner node has to
be the one that belongs to its form, around the texts of its parts.  Then what the strategies find
is spelled by the text of the node, whatever limits there are to either: a question about an inner
node is a question about its parts, and their texts fit into a rule of the grammar.

What is left are the limits of the reader, and those are two.  Too many unions may be open, and the
parameter of an index signature, whose name matters to no strategy, may have a name with characters
that the reader does not know.
-/
import Gls.Proofs.Tree.Shape
import Gls.Proofs.TypeName.Notations
import Gls.TypeName.Resolve

namespace Gls

namespace RawType

/-! ### Texts that can be cut into tokens -/

/-- There is nothing in the text but white space, marks and the characters of names. -/
def Readable (cs : List Char) : Prop :=
  ∀ c ∈ cs, Text.isBlank c = true ∨ isMark c = true ∨ isNameChar c = true

/-- There is neither white space nor a mark in the text. -/
def IsWhole (text : String) : Prop :=
  ∀ c ∈ text.toList, Text.isBlank c = false ∧ isMark c = false

instance (text : String) : Decidable (IsWhole text) := List.decidableBAll _ text.toList

/-- A piece of a text is a part of it. -/
lemma Spaced.subset {ps : List (List Char)} {cs p : List Char} (h : Spaced ps cs) (hp : p ∈ ps) :
    p ⊆ cs := by
  induction h with
  | last => cases hp
  | piece _ _ ih =>
    rcases List.mem_cons.1 hp with rfl | hp
    · exact fun c hc => List.mem_append_left _ (List.mem_append_right _ hc)
    · exact fun c hc => List.mem_append_right _ (ih hp hc)

lemma Readable.piece {ps : List (List Char)} {cs p : List Char} (h : Readable cs)
    (hs : Spaced ps cs) (hp : p ∈ ps) : Readable p :=
  fun c hc => h c (hs.subset hp hc)

/-- What is read can be cut into tokens. -/
lemma readable_of_parse? {text : String} {t : TypeName} (h : parse? text = some t) :
    Readable text.toList := by
  obtain ⟨ts, hts, -⟩ := parse?_eq_some_iff_annotates.1 h
  exact exists_lexes_iff.1 ⟨ts, hts⟩

end RawType

open RawType

namespace TypedTree

/-! ### The strategies that apply to annotations -/

variable {t : TypedTree} {n : NodeId} {kind : Kind} {resolve : Resolver} {a : TypeName}

/-- The node is an annotation, and each part of it an annotation again, with a text that spells its
form; the list has the names of the parameters in it. -/
inductive AnnotationTree (t : TypedTree) : List String → NodeId → Prop where
  /-- A keyword. -/
  | keyword {n : NodeId} {kind : Kind} (hkind : t.arena.kind? n = some kind)
      (hfamily : kind.family = .typeKeyword) (htext : kind.tokenText? = some (t.arena.text n)) :
      AnnotationTree t [] n
  /-- A type that is read from its text, whatever that is. -/
  | leaf {n : NodeId} {kind : Kind} (hkind : t.arena.kind? n = some kind)
      (hleaf : kind ∈ [Kind.typeReference, .arrayType, .unionType]) : AnnotationTree t [] n
  /-- `( inner )` -/
  | parenthesized {n inner : NodeId} {names : List String}
      (hkind : t.arena.kind? n = some .parenthesizedType)
      (hwrapped : t.arena.wrapped? n = some inner) (hinner : AnnotationTree t names inner)
      (htext : Spaced [['('], (t.arena.text inner).toList, [')']] (t.arena.text n).toList) :
      AnnotationTree t names n
  /-- An index signature `[name: key]: value` in braces.  The name may hold any characters but white
  space and marks. -/
  | signature {n member parameter key value : NodeId} {decl : Payload.ValueDecl}
      {name : String} {names names' : List String} {close : List Char}
      (hkind : t.arena.kind? n = some .typeLiteral)
      (hlist : t.arena.list? n = some [member])
      (hmember : t.arena.indexSignature? member = some ⟨[parameter], some value⟩)
      (hparameter : t.arena.valueDecl? parameter = some decl)
      (htype : decl.annotation = some key)
      (hkey : AnnotationTree t names key) (hvalue : AnnotationTree t names' value)
      (hname : t.arena.text decl.name = name) (hne : name ≠ "") (hwhole : IsWhole name)
      (hclose : SignatureEnd close)
      (htext : Spaced ([['\x7b'], ['['], name.toList, [':'], (t.arena.text key).toList, [']'],
          [':'], (t.arena.text value).toList] ++ close.map ([·]) ++ [['\x7d']])
        (t.arena.text n).toList) :
      AnnotationTree t (name :: (names ++ names')) n

/-- Without a type table, the type of a node that stands for a type is read from its text, unless
one of the first two strategies applies. -/
lemma firstSettled_rawText (htypes : t.types = {}) (hkind : t.arena.kind? n = some kind)
    (htype : kind.isTypeNode = true) (hknown : knownKind t resolve n = .next)
    (hpass : isTransparent kind = false) :
    firstSettled t resolve n strategies = parse? (t.arena.text n) := by
  have hpassThrough : passThrough t resolve n = .next := by
    simp [passThrough, hkind, hpass]
  have htypeAt : ({} : TypeTable).typeAt? n = none := rfl
  have hsymbolAt : ({} : TypeTable).symbolAt? n = none := rfl
  have hflags : typeFlags t resolve n = .next := by
    simp [typeFlags, htypes, htypeAt]
  have hvalue : valueDeclaration t resolve n = .next := by
    simp [valueDeclaration, htypes, hsymbolAt]
  have hdeclares : declaresValue kind = false := by
    cases kind <;> first | rfl | cases htype
  have hdeclared : TypedTree.declaredType t resolve n = .next := by
    simp [TypedTree.declaredType, hkind, hdeclares]
  have hraw : rawTypeText t resolve n = .settled (parse? (t.arena.text n)) := by
    simp [rawTypeText, hkind, htype]
  simp only [strategies, firstSettled, hknown, hpassThrough, hflags, hvalue, hdeclared, hraw]

lemma exists_firstSettled {budget : Nat} (h : t.resolveWithin budget n = some a) :
    ∃ budget', firstSettled t (t.resolveWithin budget') n strategies = some a := by
  obtain _ | budget := budget
  · cases h
  rw [resolveWithin] at h
  split at h
  · cases h
  · exact ⟨budget, h⟩

/-- The keywords that the first strategy knows, and the others. -/
lemma typeKeyword_cases (h : kind.family = .typeKeyword) :
    kind ∈ [Kind.numberKeyword, .booleanKeyword, .stringKeyword] ∨
      kind ∈ [Kind.anyKeyword, .neverKeyword, .objectKeyword, .undefinedKeyword, .unknownKeyword,
        .voidKeyword] := by
  cases kind <;> first | decide | cases h

/-- A keyword has the type that its text spells. -/
lemma parse?_of_keyword (htypes : t.types = {}) (hkind : t.arena.kind? n = some kind)
    (hfamily : kind.family = .typeKeyword) (htext : kind.tokenText? = some (t.arena.text n))
    (h : firstSettled t resolve n strategies = some a) : parse? (t.arena.text n) = some a := by
  rcases typeKeyword_cases hfamily with hmem | hmem
  · have hread : ∀ k ∈ [Kind.numberKeyword, .booleanKeyword, .stringKeyword],
        k.tokenText?.bind parse? = k.tokenText?.map keywordName := by
      decide +kernel
    have hanswer : firstSettled t resolve n strategies = kind.tokenText?.map keywordName := by
      simp only [List.mem_cons, List.not_mem_nil, or_false] at hmem
      rcases hmem with rfl | rfl | rfl <;>
        simp only [strategies, firstSettled, knownKind, hkind] <;> rfl
    have hkeyword := hread kind hmem
    rw [← hanswer, h, htext] at hkeyword
    exact hkeyword
  · have hraw : firstSettled t resolve n strategies = parse? (t.arena.text n) := by
      simp only [List.mem_cons, List.not_mem_nil, or_false] at hmem
      rcases hmem with rfl | rfl | rfl | rfl | rfl | rfl <;>
        exact firstSettled_rawText htypes hkind rfl (by simp [knownKind, hkind]) rfl
    rw [← hraw, h]

/-- A type literal with one index signature has the types of its key and its value. -/
lemma of_typeLiteralType {member parameter key value : NodeId} {decl : Payload.ValueDecl}
    (hlist : t.arena.list? n = some [member])
    (hmember : t.arena.indexSignature? member = some ⟨[parameter], some value⟩)
    (hparameter : t.arena.valueDecl? parameter = some decl)
    (htype : decl.annotation = some key)
    (h : typeLiteralType t resolve n = some a) :
    ∃ b c, resolve key = some b ∧ resolve value = some c ∧ a = dictionaryOf b c := by
  simp only [typeLiteralType, hlist, hmember, hparameter, htype, Option.bind_eq_bind,
    Option.bind_some, List.head?_cons, Option.bind_eq_some_iff] at h
  obtain ⟨b, hb, c, hc, h⟩ := h
  exact ⟨b, c, hb, hc, (Option.some.inj h).symm⟩

/-! ### Both ways -/

/-- What the strategies find is spelled by the text of the node, if the names of parameters are
names for the reader.  By induction on the annotation, for all limits on the depth of questions. -/
lemma AnnotationTree.annotates {names : List String} (h : AnnotationTree t names n)
    (htypes : t.types = {}) {budget : Nat} (ha : t.resolveWithin budget n = some a)
    (hnames : ∀ name ∈ names, IsName name) :
    ∃ m, Annotates m (t.arena.text n).toList (some a) := by
  induction h generalizing budget a with
  | keyword hkind hfamily htext =>
    obtain ⟨budget', ha⟩ := exists_firstSettled ha
    exact ⟨_, parse?_eq_some_iff_annotates.1 (parse?_of_keyword htypes hkind hfamily htext ha)⟩
  | @leaf n kind hkind hleaf =>
    obtain ⟨budget', ha⟩ := exists_firstSettled ha
    have hraw : firstSettled t (t.resolveWithin budget') n strategies
        = parse? (t.arena.text n) := by
      simp only [List.mem_cons, List.not_mem_nil, or_false] at hleaf
      rcases hleaf with rfl | rfl | rfl <;>
        exact firstSettled_rawText htypes hkind rfl (by simp [knownKind, hkind]) rfl
    rw [hraw] at ha
    exact ⟨_, parse?_eq_some_iff_annotates.1 ha⟩
  | parenthesized hkind hwrapped _ htext ih =>
    obtain ⟨budget', ha⟩ := exists_firstSettled ha
    simp only [strategies, firstSettled, knownKind, passThrough, hkind, isTransparent,
      Arena.children_of_wrapped? hwrapped, if_true] at ha
    obtain ⟨m, hinner⟩ := ih ha hnames
    exact ⟨m + 1, hinner.group htext⟩
  | signature hkind hlist hmember hparameter htype _ _ _ hne _ hclose htext ihk ihv =>
    obtain ⟨budget', ha⟩ := exists_firstSettled ha
    simp only [strategies, firstSettled, knownKind, hkind] at ha
    obtain ⟨b, c, hb, hc, rfl⟩ := of_typeLiteralType hlist hmember hparameter htype ha
    obtain ⟨hparameterName, hparts⟩ := List.forall_mem_cons.1 hnames
    obtain ⟨m, hkey⟩ := ihk hb fun name hn => hparts name (List.mem_append_left _ hn)
    obtain ⟨k, hvalue⟩ := ihv hc fun name hn => hparts name (List.mem_append_right _ hn)
    exact ⟨max m k + 1, (hkey.mono (Nat.le_max_left m k)).signature hne hparameterName
      (hvalue.mono (Nat.le_max_right m k)) hclose htext⟩

/-- In a text that can be cut into tokens, the names of parameters are names for the reader. -/
lemma AnnotationTree.isName_of_readable {names : List String} (h : AnnotationTree t names n)
    (hread : Readable (t.arena.text n).toList) : ∀ name ∈ names, IsName name := by
  induction h with
  | keyword => simp
  | leaf => simp
  | parenthesized _ _ _ htext ih => exact ih (hread.piece htext (by simp))
  | @signature _ _ _ _ _ _ name names names' _ _ _ _ _ _ _ _ _ _ hwhole _ htext ihk ihv =>
    have hkey : ∀ name ∈ names, IsName name := ihk (hread.piece htext (by simp))
    have hvalue : ∀ name ∈ names', IsName name := ihv (hread.piece htext (by simp))
    refine List.forall_mem_cons.2 ⟨fun c hc => ?_, List.forall_mem_append.2 ⟨hkey, hvalue⟩⟩
    have hname : Readable name.toList := hread.piece htext (by simp)
    obtain ⟨hblank, hmark⟩ := hwhole c hc
    rcases hname c hc with hc | hc | hc
    · simp [hc] at hblank
    · simp [hc] at hmark
    · exact hc

end TypedTree

/-- If a type is found for an annotation from its nodes, then the same type is read from its text,
unless the text opens too many unions or a parameter has a name with a character that the reader
does not know; then no type is read. -/
theorem annotation_read_from_text {t : TypedTree} {names : List String} {n : NodeId} {a : TypeName}
    (h : t.AnnotationTree names n) (htypes : t.types = {}) (ha : t.typeName? n = some a) :
    parse? (t.arena.text n) =
      if openUnions (t.arena.text n) ≤ maxNesting ∧ ∀ name ∈ names, IsName name then some a
      else none := by
  split_ifs with hlimits
  · obtain ⟨hopen, hnames⟩ := hlimits
    obtain ⟨m, hannotates⟩ := h.annotates htypes ha hnames
    exact hannotates.parse?_eq hopen
  · rw [Option.eq_none_iff_forall_ne_some]
    intro b hb
    have hopen : openUnions (t.arena.text n) ≤ maxNesting :=
      (annotates_iff.1 (parse?_eq_some_iff_annotates.1 hb)).2
    exact hlimits ⟨hopen, h.isName_of_readable (readable_of_parse? hb)⟩

/-- A dictionary of lists in parentheses. -/
def dictionaryTree : TypedTree where
  arena := {
    sourceText := "let m: (\x7b [key: string]: Point[] \x7d);"
    nodes := #[
      { kind := .identifier, pos := 11, stop := 14, payload := .identifier "key" },
      { kind := .stringKeyword, pos := 16, stop := 22 },
      { kind := .parameter, pos := 11, stop := 22, payload := .valueDecl ⟨⟨0⟩, some ⟨1⟩, none⟩ },
      { kind := .arrayType, pos := 25, stop := 32 },
      { kind := .indexSignature, pos := 10, stop := 32,
        payload := .indexSignature ⟨[⟨2⟩], some ⟨3⟩⟩ },
      { kind := .typeLiteral, pos := 8, stop := 34, payload := .list [⟨4⟩] },
      { kind := .parenthesizedType, pos := 7, stop := 35, payload := .wrapped (some ⟨5⟩) }] }
  types := {}

theorem dictionary_annotation_read_from_text :
    dictionaryTree.AnnotationTree ["key"] ⟨6⟩ ∧
      parse? (dictionaryTree.arena.text ⟨6⟩)
        = some (dictionaryOf (.text "string") (listOf (.text "Point"))) := by
  have hkey : dictionaryTree.AnnotationTree [] ⟨1⟩ :=
    .keyword rfl rfl (by decide +kernel)
  have hvalue : dictionaryTree.AnnotationTree [] ⟨3⟩ := .leaf rfl (by decide)
  have hliteral : dictionaryTree.AnnotationTree ["key"] ⟨5⟩ := by
    refine .signature rfl rfl rfl rfl rfl hkey hvalue (by decide +kernel) (by decide)
      (by decide +kernel) (.inl rfl : SignatureEnd []) ?_
    exact spaced_of_parts [([], ['\x7b']), ([' '], ['[']), ([], "key".toList), ([], [':']),
      ([' '], "string".toList), ([], [']']), ([], [':']), ([' '], "Point[]".toList),
      ([' '], ['\x7d'])] rfl (by decide +kernel) (by decide +kernel)
  have hwhole : dictionaryTree.AnnotationTree ["key"] ⟨6⟩ := by
    refine .parenthesized rfl rfl hliteral ?_
    exact spaced_of_parts [([], ['(']), ([], "\x7b [key: string]: Point[] \x7d".toList),
      ([], [')'])] rfl (by decide +kernel) (by decide +kernel)
  have hname : dictionaryTree.typeName? ⟨6⟩
      = some (dictionaryOf (.text "string") (listOf (.text "Point"))) := by
    decide +kernel
  have hread := annotation_read_from_text hwhole rfl hname
  rw [if_pos (by decide +kernel)] at hread
  exact ⟨hwhole, hread⟩

/-- A dictionary whose parameter has a name with a combining accent. -/
def accentTree : TypedTree where
  arena := {
    sourceText := "\x7b [e\u0301: string]: number \x7d"
    nodes := #[
      { kind := .identifier, pos := 3, stop := 6, payload := .identifier "e\u0301" },
      { kind := .stringKeyword, pos := 8, stop := 14 },
      { kind := .parameter, pos := 3, stop := 14, payload := .valueDecl ⟨⟨0⟩, some ⟨1⟩, none⟩ },
      { kind := .numberKeyword, pos := 17, stop := 23 },
      { kind := .indexSignature, pos := 2, stop := 23,
        payload := .indexSignature ⟨[⟨2⟩], some ⟨3⟩⟩ },
      { kind := .typeLiteral, pos := 0, stop := 25, payload := .list [⟨4⟩] }] }
  types := {}

/-- The strategies do not look at the name of the parameter, but the reader of texts does not know
the accent. -/
theorem accent_annotation_not_read :
    accentTree.AnnotationTree ["e\u0301"] ⟨5⟩ ∧ accentTree.types = {} ∧
      accentTree.typeName? ⟨5⟩
        = some (dictionaryOf (.text "string") (.text "float")) ∧
      openUnions (accentTree.arena.text ⟨5⟩) = 2 ∧
      parse? (accentTree.arena.text ⟨5⟩) = none := by
  have hkey : accentTree.AnnotationTree [] ⟨1⟩ :=
    .keyword rfl rfl (by decide +kernel)
  have hvalue : accentTree.AnnotationTree [] ⟨3⟩ :=
    .keyword rfl rfl (by decide +kernel)
  refine ⟨?_, rfl, by decide +kernel, by decide +kernel, by decide +kernel⟩
  refine .signature rfl rfl rfl rfl rfl hkey hvalue (by decide +kernel) (by decide)
    (by decide +kernel) (.inl rfl : SignatureEnd []) ?_
  exact spaced_of_parts [([], ['\x7b']), ([' '], ['[']), ([], "e\u0301".toList), ([], [':']),
    ([' '], "string".toList), ([], [']']), ([], [':']), ([' '], "number".toList),
    ([' '], ['\x7d'])] rfl (by decide +kernel) (by decide +kernel)

end Gls
