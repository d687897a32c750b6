/-
# Well-formed type names

A type name is a plain name or a command whose arguments are type names again.  Four commands occur
in it, each with arguments of its own shape: a list has the type of its elements, a dictionary those
of its keys and its values, a name with type arguments is followed by at least one of them, and a
union has two members or more and none of them twice.

Whoever takes a type name apart relies on that.  An access to an element does: it looks for an
argument of the type of its container, and for a list or a dictionary there is one.
-/
import Gls.Proofs.TypeName.Built
import Gls.Proofs.Vocabulary.Arity

namespace Gls

/-- A command of a type name, with the arguments that belong to it. -/
inductive IsTypeCommand : Command → Prop where
  | list (element : TypeName) : IsTypeCommand ⟨CommandName.listType, [element]⟩
  | dictionary (key value : TypeName) : IsTypeCommand ⟨CommandName.dictionaryType, [key, value]⟩
  | generic (name : String) (arg : TypeName) (args : List TypeName) :
      IsTypeCommand ⟨CommandName.genericType, .text name :: arg :: args⟩
  | union {members : List TypeName} (hlen : 2 ≤ members.length) (hnodup : members.Nodup) :
      IsTypeCommand ⟨CommandName.unionType, members⟩

/-- Every command in the type name, at any depth, has the arguments that belong to it. -/
def WellFormedType (a : TypeName) : Prop := ∀ c ∈ a.commands, IsTypeCommand c

variable {T : String → Prop} {name : String} {args : List TypeName} {a : TypeName}

/-! ### Building type names -/

lemma wellFormedType_text (t : String) : WellFormedType (.text t) := by
  intro c hc
  cases hc

lemma wellFormedType_command_iff : WellFormedType (.command name args) ↔
    IsTypeCommand ⟨name, args⟩ ∧ ∀ a ∈ args, WellFormedType a := by
  simp only [WellFormedType, Argument.commands, List.forall_mem_cons, Argument.mem_commandsIn]
  constructor
  · rintro ⟨hc, hall⟩
    exact ⟨hc, fun a ha c hmem => hall c ⟨a, ha, hmem⟩⟩
  · rintro ⟨hc, hall⟩
    refine ⟨hc, ?_⟩
    rintro c ⟨a, ha, hmem⟩
    exact hall a ha c hmem

/-- One case for each way to build a type name. -/
lemma BuiltFrom.wellFormedType (h : BuiltFrom T a) : WellFormedType a := by
  induction h with
  | plain _ => exact wellFormedType_text _
  | list _ ih => exact wellFormedType_command_iff.2 ⟨.list _, by simpa using ih⟩
  | dictionary _ _ ihk ihv =>
    exact wellFormedType_command_iff.2 ⟨.dictionary _ _, by simpa using ⟨ihk, ihv⟩⟩
  | generic _ hne _ ih =>
    obtain ⟨arg, args, rfl⟩ := List.exists_cons_of_ne_nil hne
    exact wellFormedType_command_iff.2
      ⟨.generic _ arg args, List.forall_mem_cons.2 ⟨wellFormedType_text _, ih⟩⟩
  | union hlen hnodup _ ih => exact wellFormedType_command_iff.2 ⟨.union hlen hnodup, ih⟩

/-! ### Taking them apart -/

lemma IsTypeCommand.args_of_list (h : IsTypeCommand ⟨CommandName.listType, args⟩) :
    ∃ element, args = [element] := by
  generalize hc : (⟨CommandName.listType, args⟩ : Command) = c at h
  cases h with
  | list element => exact ⟨element, (Command.mk.inj hc).2⟩
  | dictionary | generic | union => exact absurd (Command.mk.inj hc).1 (by decide)

lemma IsTypeCommand.args_of_dictionary (h : IsTypeCommand ⟨CommandName.dictionaryType, args⟩) :
    ∃ key value, args = [key, value] := by
  generalize hc : (⟨CommandName.dictionaryType, args⟩ : Command) = c at h
  cases h with
  | dictionary key value => exact ⟨key, value, (Command.mk.inj hc).2⟩
  | list | generic | union => exact absurd (Command.mk.inj hc).1 (by decide)

namespace TypedTree

variable {t : TypedTree} {resolve : Resolver} {n : NodeId} {access : Payload.Access}

lemma elementAccessType_of_list {element : TypeName} (ha : t.arena.access? n = some access)
    (h : resolve access.expression = some (RawType.listOf element)) :
    elementAccessType t resolve n = some element := by
  simp [elementAccessType, ha, h, RawType.listOf, Argument.command?]

lemma elementAccessType_of_dictionary {key value : TypeName}
    (ha : t.arena.access? n = some access)
    (h : resolve access.expression = some (RawType.dictionaryOf key value)) :
    elementAccessType t resolve n = some value := by
  have hname : ¬ CommandName.dictionaryType = CommandName.listType := by decide
  simp [elementAccessType, ha, h, RawType.dictionaryOf, Argument.command?, hname]

end TypedTree

/-- The names of types and of return types, and the types that annotations spell, are well formed.
So an access to an element whose container is found to be a list or a dictionary has a type: that of
the elements, or of the values. -/
theorem type_names_well_formed (t : TypedTree) (n : NodeId) :
    (∀ a, t.typeName? n = some a → WellFormedType a) ∧
    (∀ a, t.returnType? n = some a → WellFormedType a) ∧
    (∀ text a, RawType.parse? text = some a → WellFormedType a) ∧
    ∀ access depth args, t.arena.access? n = some access →
      (t.resolve access.expression depth = some (.command CommandName.listType args) →
        ∃ element, args = [element] ∧
          TypedTree.elementAccessType t (t.resolve · depth) n = some element) ∧
      (t.resolve access.expression depth = some (.command CommandName.dictionaryType args) →
        ∃ key value, args = [key, value] ∧
          TypedTree.elementAccessType t (t.resolve · depth) n = some value) := by
  refine ⟨fun a h => (TypedTree.built_typeName? h).wellFormedType,
    fun a h => (TypedTree.built_returnType? h).wellFormedType,
    fun text a h => (RawType.built_parse? h).wellFormedType, fun access depth args ha => ?_⟩
  have hcommand : ∀ {name}, t.resolve access.expression depth = some (.command name args) →
      IsTypeCommand ⟨name, args⟩ := fun h =>
    (wellFormedType_command_iff.1 (TypedTree.built_resolveWithin h).wellFormedType).1
  constructor
  · intro h
    obtain ⟨element, rfl⟩ := (hcommand h).args_of_list
    exact ⟨element, rfl, TypedTree.elementAccessType_of_list ha h⟩
  · intro h
    obtain ⟨key, value, rfl⟩ := (hcommand h).args_of_dictionary
    exact ⟨key, value, rfl, TypedTree.elementAccessType_of_dictionary ha h⟩

/-- A function that returns an element of a list that is a value of a dictionary. -/
def elementTree : TypedTree where
  arena := {
    sourceText := "let m: Map<string, (number | Point)[]>; function f() \x7b return m[k][0]; \x7d"
    nodes := #[
      { kind := .identifier, pos := 4, stop := 5, payload := .identifier "m" },
      { kind := .typeReference, pos := 7, stop := 38 },
      { kind := .variableDeclaration, pos := 4, stop := 38,
        payload := .valueDecl ⟨⟨0⟩, some ⟨1⟩, none⟩ },
      { kind := .identifier, pos := 62, stop := 63, payload := .identifier "m" },
      { kind := .identifier, pos := 64, stop := 65, payload := .identifier "k" },
      { kind := .elementAccessExpression, pos := 62, stop := 66, payload := .access ⟨⟨3⟩, ⟨4⟩⟩ },
      { kind := .numericLiteral, pos := 67, stop := 68, payload := .literal "0" },
      { kind := .elementAccessExpression, pos := 62, stop := 69, payload := .access ⟨⟨5⟩, ⟨6⟩⟩ },
      { kind := .returnStatement, pos := 55, stop := 70, payload := .wrapped (some ⟨7⟩) },
      { kind := .block, pos := 53, stop := 72, payload := .list [⟨8⟩] },
      { kind := .identifier, pos := 49, stop := 50, payload := .identifier "f" },
      { kind := .functionDeclaration, pos := 40, stop := 72,
        payload := .function ⟨some ⟨10⟩, [], none, some ⟨9⟩⟩ }] }
  types := {
    symbols := #[⟨"m", some ⟨2⟩⟩]
    nodeSymbols := OrderedMap.empty.insert ⟨3⟩ ⟨0⟩ }

/-- The type of the elements of the list. -/
def elementUnion : TypeName := .command CommandName.unionType [.text "float", .text "Point"]

/-- The type of the dictionary. -/
def elementDictionary : TypeName :=
  RawType.dictionaryOf (.text "string") (RawType.listOf elementUnion)

theorem element_types_well_formed :
    WellFormedType (RawType.listOf elementUnion) ∧ WellFormedType elementUnion ∧
    WellFormedType elementDictionary ∧
    TypedTree.elementAccessType elementTree (elementTree.resolve · 0) ⟨5⟩
      = some (RawType.listOf elementUnion) ∧
    TypedTree.elementAccessType elementTree (elementTree.resolve · 0) ⟨7⟩ = some elementUnion := by
  have hlist : elementTree.typeName? ⟨5⟩ = some (RawType.listOf elementUnion) := by decide +kernel
  have hreturn : elementTree.returnType? ⟨11⟩ = some elementUnion := by decide +kernel
  have hparse : RawType.parse? "Map<string, (number | Point)[]>" = some elementDictionary := by
    decide +kernel
  have hdictionary : elementTree.resolve ⟨3⟩ 0 = some elementDictionary := by decide +kernel
  obtain ⟨hname, -, hspelled, haccess⟩ := type_names_well_formed elementTree ⟨5⟩
  obtain ⟨key, value, hargs, hvalue⟩ := (haccess ⟨⟨3⟩, ⟨4⟩⟩ 0 _ rfl).2 hdictionary
  obtain ⟨-, -, -, haccess⟩ := type_names_well_formed elementTree ⟨7⟩
  obtain ⟨element, helement, hresult⟩ := (haccess ⟨⟨5⟩, ⟨6⟩⟩ 0 _ rfl).1 hlist
  cases hargs
  cases helement
  exact ⟨hname _ hlist, (type_names_well_formed elementTree ⟨11⟩).2.1 _ hreturn,
    hspelled _ _ hparse, hvalue, hresult⟩

end Gls
