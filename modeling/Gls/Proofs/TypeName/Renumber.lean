/-
# Type names after renumbering

What the type checker found is kept by place: the types and the symbols of nodes, and the
declarations of symbols.  When nodes move, these tables move with them.  Then every strategy says
about a node what it said before, and so does the search for return statements.
-/
import Gls.Proofs.Tree.Renumber
import Gls.TypeName.Returns
import Mathlib.Data.List.Nodup

namespace Gls

/-! ### Tables -/

namespace OrderedMap

variable {κ α : Type}

/-- The map with every key rewritten. -/
def mapKeys (m : OrderedMap κ α) (e : Equiv.Perm κ) : OrderedMap κ α where
  entries := m.entries.map fun entry => (e entry.1, entry.2)
  nodup := by
    have hkeys : (m.entries.map fun entry => (e entry.1, entry.2)).map Prod.fst
        = (m.entries.map Prod.fst).map e := by
      simp [Function.comp_def]
    rw [hkeys]
    exact m.nodup.map e.injective

variable [DecidableEq κ]

lemma get?_mapKeys (m : OrderedMap κ α) (e : Equiv.Perm κ) (k : κ) :
    (m.mapKeys e).get? (e k) = m.get? k := by
  simp [get?, mapKeys, List.find?_map, Function.comp_def]

end OrderedMap

/-- The symbol with its declaration rewritten. -/
def TypeSymbol.renumber (f : NodeId → NodeId) (s : TypeSymbol) : TypeSymbol :=
  { s with valueDeclaration := s.valueDeclaration.map f }

namespace TypeTable

variable (t : TypeTable) (e : Equiv.Perm NodeId)

/-- The tables with every node they name rewritten. -/
def renumber : TypeTable :=
  { t with
    symbols := t.symbols.map (TypeSymbol.renumber e)
    nodeTypes := t.nodeTypes.mapKeys e
    nodeSymbols := t.nodeSymbols.mapKeys e }

@[simp] lemma typeAt?_renumber (n : NodeId) : (t.renumber e).typeAt? (e n) = t.typeAt? n :=
  t.nodeTypes.get?_mapKeys e n

@[simp] lemma symbolAt?_renumber (n : NodeId) : (t.renumber e).symbolAt? (e n) = t.symbolAt? n :=
  t.nodeSymbols.get?_mapKeys e n

@[simp] lemma symbol?_renumber (s : SymbolId) :
    (t.renumber e).symbol? s = (t.symbol? s).map (TypeSymbol.renumber e) := by
  simp [symbol?, renumber]

@[simp] lemma typeSymbol?_renumber (ty : TypeId) :
    (t.renumber e).typeSymbol? ty = t.typeSymbol? ty := rfl

@[simp] lemma intrinsicName?_renumber (ty : TypeId) :
    (t.renumber e).intrinsicName? ty = t.intrinsicName? ty := rfl

@[simp] lemma callSignatures_renumber (ty : TypeId) :
    (t.renumber e).callSignatures ty = t.callSignatures ty := rfl

end TypeTable

namespace TypedTree

/-- The tree with every node moved to its new place. -/
def renumber (t : TypedTree) (p : Renumbering t.arena) : TypedTree :=
  ⟨t.arena.renumber p, t.types.renumber p.perm⟩

variable {t : TypedTree} (p : Renumbering t.arena)

@[simp] lemma arena_renumber : (t.renumber p).arena = t.arena.renumber p := rfl

@[simp] lemma types_renumber : (t.renumber p).types = t.types.renumber p.perm := rfl

/-! ### Strategies -/

/-! Three strategies ask no further questions. -/

lemma typeFlags_renumber (resolve resolve' : Resolver) (n : NodeId) :
    typeFlags (t.renumber p) resolve' (p n) = typeFlags t resolve n := by
  unfold typeFlags
  simp only [types_renumber, TypeTable.typeAt?_renumber]
  rfl

lemma rawTypeText_renumber (resolve resolve' : Resolver) (n : NodeId) :
    rawTypeText (t.renumber p) resolve' (p n) = rawTypeText t resolve n := by
  simp [rawTypeText]

lemma typeSymbolName_renumber (resolve resolve' : Resolver) (n : NodeId) :
    typeSymbolName (t.renumber p) resolve' (p n) = typeSymbolName t resolve n := by
  unfold typeSymbolName
  simp only [types_renumber, TypeTable.typeAt?_renumber]
  cases t.types.typeAt? n with
  | none => rfl
  | some type =>
    simp only [Option.bind_some, TypeTable.typeSymbol?_renumber]
    cases t.types.typeSymbol? type with
    | none => rfl
    | some symbol =>
      simp only [Option.bind_some, TypeTable.symbol?_renumber]
      cases t.types.symbol? symbol with
      | none => rfl
      | some s => simp [TypeSymbol.renumber]

section Strategies

variable {resolve resolve' : Resolver} (hr : ∀ m, resolve' (p m) = resolve m) (n : NodeId)
include hr

lemma arrayLiteralType_renumber :
    arrayLiteralType (t.renumber p) resolve' (p n) = arrayLiteralType t resolve n := by
  unfold arrayLiteralType
  simp only [arena_renumber, Arena.list?_renumber]
  cases t.arena.list? n with
  | none => rfl
  | some elements =>
    cases elements with
    | nil => rfl
    | cons first rest => simp [hr]

lemma elementAccessType_renumber :
    elementAccessType (t.renumber p) resolve' (p n) = elementAccessType t resolve n := by
  unfold elementAccessType
  simp only [arena_renumber, Arena.access?_renumber]
  cases t.arena.access? n with
  | none => rfl
  | some access => simp [Payload.Access.renumber, hr]

lemma typeLiteralType_renumber :
    typeLiteralType (t.renumber p) resolve' (p n) = typeLiteralType t resolve n := by
  unfold typeLiteralType
  simp only [arena_renumber, Arena.list?_renumber, Arena.text_renumber]
  rcases t.arena.list? n with _ | (_ | ⟨member, _ | _⟩)
  · rfl
  · rfl
  · simp only [Option.map_some, List.map_cons, List.map_nil, Arena.indexSignature?_renumber]
    rcases t.arena.indexSignature? member with _ | ⟨_ | ⟨parameter, parameters⟩, annotation⟩
    · rfl
    · rfl
    · simp only [Option.map_some, Payload.IndexSignature.renumber, List.map_cons,
        Option.bind_eq_bind, Option.bind_some, List.head?_cons, Arena.valueDecl?_renumber]
      rcases t.arena.valueDecl? parameter with _ | ⟨name, type, initializer⟩
      · rfl
      · cases type <;> cases annotation <;> simp [Payload.ValueDecl.renumber, hr]
  · rfl

lemma variableType_renumber :
    variableType (t.renumber p) resolve' (p n) = variableType t resolve n := by
  unfold variableType
  simp only [arena_renumber, Arena.valueDecl?_renumber]
  rcases t.arena.valueDecl? n with _ | ⟨name, annotation, initializer⟩
  · rfl
  · cases annotation <;> cases initializer <;> simp [Payload.ValueDecl.renumber, hr]

lemma knownKind_renumber : knownKind (t.renumber p) resolve' (p n) = knownKind t resolve n := by
  have hnew : ((t.arena.renumber p).call? (p n)).map
      (fun call => (.text ((t.arena.renumber p).text call.expression) : TypeName))
        = (t.arena.call? n).map fun call => .text (t.arena.text call.expression) := by
    simp [Payload.Call.renumber, Function.comp_def]
  unfold knownKind
  simp only [arena_renumber, Arena.kind?_renumber, Arena.text_renumber, hnew,
    arrayLiteralType_renumber p hr, elementAccessType_renumber p hr, typeLiteralType_renumber p hr,
    variableType_renumber p hr]

lemma passThrough_renumber :
    passThrough (t.renumber p) resolve' (p n) = passThrough t resolve n := by
  unfold passThrough
  simp only [arena_renumber, Arena.kind?_renumber, Arena.children_renumber]
  cases t.arena.children n with
  | nil => rfl
  | cons child children => simp only [List.map_cons, hr]

/-- A symbol that is declared elsewhere is still declared elsewhere. -/
lemma valueDeclaration_renumber :
    valueDeclaration (t.renumber p) resolve' (p n) = valueDeclaration t resolve n := by
  unfold valueDeclaration
  simp only [arena_renumber, types_renumber, TypeTable.symbolAt?_renumber]
  cases t.types.symbolAt? n with
  | none => rfl
  | some symbol =>
    simp only [Option.bind_some, TypeTable.symbol?_renumber]
    rcases t.types.symbol? symbol with _ | ⟨name, _ | d⟩
    · rfl
    · rfl
    · have hne : (p d != p n) = (d != n) := by
        rw [bne, bne, beq_eq_decide, beq_eq_decide, decide_eq_decide.2 p.inj]
      simp [TypeSymbol.renumber, hr, hne]

lemma declaredType_renumber :
    declaredType (t.renumber p) resolve' (p n) = declaredType t resolve n := by
  unfold declaredType
  simp only [arena_renumber, Arena.kind?_renumber, Arena.valueDecl?_renumber]
  rcases t.arena.valueDecl? n with _ | ⟨name, _ | annotation, initializer⟩
  · rfl
  · rfl
  · simp [Payload.ValueDecl.renumber, hr]

lemma strategy_renumber {s : String × Strategy} (hs : s ∈ strategies) :
    s.2 (t.renumber p) resolve' (p n) = s.2 t resolve n := by
  simp only [strategies, List.mem_cons, List.not_mem_nil, or_false] at hs
  rcases hs with rfl | rfl | rfl | rfl | rfl | rfl | rfl
  · exact knownKind_renumber p hr n
  · exact passThrough_renumber p hr n
  · exact typeFlags_renumber p resolve resolve' n
  · exact valueDeclaration_renumber p hr n
  · exact declaredType_renumber p hr n
  · exact rawTypeText_renumber p resolve resolve' n
  · exact typeSymbolName_renumber p resolve resolve' n

lemma firstSettled_renumber {ss : List (String × Strategy)} (hss : ss ⊆ strategies) :
    firstSettled (t.renumber p) resolve' (p n) ss = firstSettled t resolve n ss := by
  induction ss with
  | nil => rfl
  | cons s ss ih =>
    obtain ⟨hs, hss⟩ := List.cons_subset.1 hss
    rw [firstSettled, strategy_renumber p hr n hs, ih hss, firstSettled]

end Strategies

/-! ### Resolution -/

/-- By induction on the depth of questions. -/
lemma resolveWithin_renumber (budget : Nat) (n : NodeId) :
    resolveWithin (t.renumber p) budget (p n) = resolveWithin t budget n := by
  induction budget generalizing n with
  | zero => rfl
  | succ budget ih =>
    rw [resolveWithin, arena_renumber, Arena.get?_renumber, resolveWithin]
    cases t.arena.get? n with
    | none => rfl
    | some node => exact firstSettled_renumber p ih n (List.Subset.refl _)

@[simp] lemma typeName?_renumber (n : NodeId) : (t.renumber p).typeName? (p n) = t.typeName? n :=
  resolveWithin_renumber p _ n

/-! ### Return types -/

lemma returnStatements_renumber (n : NodeId) :
    returnStatements (t.arena.renumber p) (p n) = (returnStatements t.arena n).map p := by
  unfold returnStatements
  rw [Arena.function?_renumber]
  rcases t.arena.function? n with _ | ⟨name, parameters, annotation, _ | body⟩
  · rfl
  · rfl
  · simp only [Option.map_some, Option.bind_some, Payload.Function.renumber]
    rw [Arena.frontier_renumber p (fun node => rfl), List.filter_map]
    simp [Function.comp_def]

lemma returnedType?_renumber (n : NodeId) :
    (t.renumber p).returnedType? (p n) = t.returnedType? n := by
  simp only [returnedType?, arena_renumber, Arena.wrapped?_renumber, Option.bind_map,
    Function.comp_def, typeName?_renumber]

lemma commonReturnType?_renumber (ns : List NodeId) :
    (t.renumber p).commonReturnType? (ns.map p) = t.commonReturnType? ns := by
  cases ns with
  | nil => rfl
  | cons first rest =>
    simp [commonReturnType?, returnedType?_renumber, Function.comp_def]

lemma signatureReturnType?_renumber (n : NodeId) :
    (t.renumber p).signatureReturnType? (p n) = t.signatureReturnType? n := by
  unfold signatureReturnType?
  simp only [types_renumber, TypeTable.typeAt?_renumber, TypeTable.callSignatures_renumber,
    TypeTable.typeSymbol?_renumber, TypeTable.intrinsicName?_renumber]
  refine bind_congr fun type => ?_
  split
  · rename_i signature _
    cases t.types.typeSymbol? signature.returnType with
    | none => rfl
    | some symbol =>
      simp only [Option.bind_some, TypeTable.symbol?_renumber]
      cases t.types.symbol? symbol <;> rfl
  · rfl

@[simp] lemma returnType?_renumber (n : NodeId) :
    (t.renumber p).returnType? (p n) = t.returnType? n := by
  unfold returnType?
  simp only [arena_renumber, Arena.function?_renumber, returnStatements_renumber,
    commonReturnType?_renumber, signatureReturnType?_renumber]
  rcases t.arena.function? n with _ | ⟨name, parameters, annotation, body⟩
  · rfl
  · simp only [Option.map_some, Option.bind_some, Payload.Function.renumber, Option.isSome_map]
    cases (if body.isSome then t.commonReturnType? (returnStatements t.arena n) else none) <;>
      cases annotation <;> simp only [Option.map_some, Option.map_none, typeName?_renumber]

@[simp] lemma privacy_renumber (n : NodeId) : (t.renumber p).privacy (p n) = t.privacy n := by
  simp [privacy]

end TypedTree

end Gls
