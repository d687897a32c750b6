/-
# Agreement on a type

The return statements of a function give it a type when all of them return values of that type, and
so do the elements of an array literal.  The first of them is looked at apart from the others, and
the look ends early when one has no type or another one; still neither their order nor their number
matters, only which they are.

An array literal may be asked for from anywhere in its tree, through declarations and symbols.  So
the trees before and after a change of its elements are compared as a whole: all that is read of a
node is the same in both, except that the elements of an array literal may come in another order and
more than once.
-/
import Gls.Proofs.Tree.Shape
import Gls.TypeName.Returns

namespace Gls

/-! ### Agreement in a list -/

section Agreement

variable {α β : Type} [DecidableEq β] {f : α → Option β} {xs ys : List α} {b : β}

/-- What `f` gives for all members of a list, if there are any and it gives the same for all. -/
def agreed? (f : α → Option β) : List α → Option β
  | [] => none
  | x :: xs => (f x).bind fun b => if ∀ y ∈ xs, f y = some b then some b else none

lemma agreed?_eq_some_iff : agreed? f xs = some b ↔ xs ≠ [] ∧ ∀ x ∈ xs, f x = some b := by
  cases xs with
  | nil => simp [agreed?]
  | cons x xs =>
    simp only [agreed?, Option.bind_eq_some_iff, ne_eq, reduceCtorEq, not_false_eq_true, true_and,
      List.forall_mem_cons]
    constructor
    · rintro ⟨b', hx, h⟩
      split_ifs at h with hxs
      cases h
      exact ⟨hx, hxs⟩
    · rintro ⟨hx, hxs⟩
      exact ⟨b, hx, if_pos hxs⟩

/-- Only the members matter. -/
lemma agreed?_congr (h : ∀ x, x ∈ ys ↔ x ∈ xs) : agreed? f ys = agreed? f xs := by
  have hne : ys ≠ [] ↔ xs ≠ [] := by
    simp only [ne_eq, List.eq_nil_iff_forall_not_mem, h]
  refine Option.ext fun b => ?_
  rw [agreed?_eq_some_iff, agreed?_eq_some_iff, hne]
  simp only [h]

end Agreement

/-! ### Trees that differ in the elements of array literals -/

/-- The payloads of a node are the same, or those of an array literal with the same elements. -/
inductive Payload.Regrouped (kind : Kind) : Payload → Payload → Prop where
  | same (p : Payload) : Regrouped kind p p
  | elements {es es' : List NodeId} (hkind : kind = .arrayLiteralExpression)
      (h : ∀ m, m ∈ es' ↔ m ∈ es) : Regrouped kind (.list es) (.list es')

/-- The second node is the first, except that an array literal may have its elements in another
order and more than once. -/
structure Node.Regrouped (x y : Node) : Prop where
  kind : y.kind = x.kind
  span : y.span = x.span
  payload : x.payload.Regrouped x.kind y.payload

/-- The second tree is the first, except for the order and the number of the elements of array
literals. -/
structure TypedTree.Regrouped (t t' : TypedTree) : Prop where
  types : t'.types = t.types
  sourceText : t'.arena.sourceText = t.arena.sourceText
  nodes : ∀ n, Option.Rel Node.Regrouped (t.arena.get? n) (t'.arena.get? n)

namespace TypedTree

namespace Regrouped

variable {t t' : TypedTree} (h : t.Regrouped t') (n : NodeId)
include h

/-! ### What is read of a node -/

lemma get?_cases : t.arena.get? n = none ∧ t'.arena.get? n = none ∨
    ∃ x y, t.arena.get? n = some x ∧ t'.arena.get? n = some y ∧ x.Regrouped y := by
  have hn := h.nodes n
  generalize t.arena.get? n = x at hn ⊢
  generalize t'.arena.get? n = y at hn ⊢
  cases hn with
  | none => exact .inl ⟨rfl, rfl⟩
  | some hxy => exact .inr ⟨_, _, rfl, rfl, hxy⟩

lemma kind?_eq : t'.arena.kind? n = t.arena.kind? n := by
  rcases h.get?_cases n with ⟨hx, hy⟩ | ⟨x, y, hx, hy, hxy⟩
  · simp [Arena.kind?, hx, hy]
  · simp [Arena.kind?, hx, hy, hxy.kind]

/-- Neither a list nor its elements are part of the text of a node. -/
lemma text_eq : t'.arena.text n = t.arena.text n := by
  rcases h.get?_cases n with ⟨hx, hy⟩ | ⟨x, y, hx, hy, hkind, hspan, hpayload⟩
  · simp only [Arena.text, hx, hy]
  · have hown : y.ownText = x.ownText := by
      unfold Node.ownText
      generalize x.payload = p at hpayload
      generalize y.payload = q at hpayload
      cases hpayload with
      | same => rw [hkind]
      | elements => rw [hkind]
    simp only [Arena.text, hx, hy, hspan, hown, h.sourceText]

/-- The payloads are the same, or lists at an array literal. -/
lemma payload?_cases : t'.arena.payload? n = t.arena.payload? n ∨
    t.arena.kind? n = some .arrayLiteralExpression ∧ ∃ es es', (∀ m, m ∈ es' ↔ m ∈ es) ∧
      t.arena.payload? n = some (.list es) ∧ t'.arena.payload? n = some (.list es') := by
  rcases h.get?_cases n with ⟨hx, hy⟩ | ⟨x, y, hx, hy, -, -, hpayload⟩
  · exact .inl (by simp [Arena.payload?, hx, hy])
  · simp only [Arena.payload?, Arena.kind?, hx, hy, Option.map_some]
    generalize x.payload = p at hpayload
    generalize y.payload = q at hpayload
    cases hpayload with
    | same => exact .inl rfl
    | elements hkind hes => exact .inr ⟨congrArg some hkind, _, _, hes, rfl, rfl⟩

/-- Of other forms than lists the payloads are the same. -/
lemma holds?_eq {α : Type} {form : Payload.Form α} (hform : ∀ es, form.read (.list es) = none) :
    t'.arena.holds? form n = t.arena.holds? form n := by
  rcases h.payload?_cases n with hp | ⟨-, es, es', -, hx, hy⟩
  · rw [Arena.holds?, hp, Arena.holds?]
  · rw [Arena.holds?, hy, Arena.holds?, hx, Option.bind_some, Option.bind_some, hform, hform]

lemma access?_eq : t'.arena.access? n = t.arena.access? n := h.holds?_eq n fun _ => rfl

lemma call?_eq : t'.arena.call? n = t.arena.call? n := h.holds?_eq n fun _ => rfl

lemma valueDecl?_eq : t'.arena.valueDecl? n = t.arena.valueDecl? n := h.holds?_eq n fun _ => rfl

lemma indexSignature?_eq : t'.arena.indexSignature? n = t.arena.indexSignature? n :=
  h.holds?_eq n fun _ => rfl

variable {n} (hn : t.arena.kind? n ≠ some .arrayLiteralExpression)
include hn

lemma list?_eq : t'.arena.list? n = t.arena.list? n := by
  rcases h.payload?_cases n with hp | ⟨hkind, -⟩
  · rw [Arena.list?, Arena.holds?, hp, Arena.list?, Arena.holds?]
  · exact absurd hkind hn

lemma children_eq : t'.arena.children n = t.arena.children n := by
  have hchildren : ∀ a : Arena, a.children n = ((a.payload? n).map Payload.children).getD [] := by
    intro a
    rw [Arena.children, Arena.payload?, Option.map_map]
    rfl
  rcases h.payload?_cases n with hp | ⟨hkind, -⟩
  · rw [hchildren, hchildren, hp]
  · exact absurd hkind hn

end Regrouped

/-! ### What strategies say -/

variable {t t' : TypedTree} (h : t.Regrouped t') (r : Resolver) (n : NodeId)

lemma arrayLiteralType_eq (t : TypedTree) (r : Resolver) (n : NodeId) :
    arrayLiteralType t r n = ((t.arena.list? n).bind (agreed? r)).map RawType.listOf := by
  rw [arrayLiteralType]
  rcases t.arena.list? n with _ | _ | ⟨first, rest⟩
  · rfl
  · rfl
  · simp only [Option.bind_eq_bind, Option.bind_some, agreed?, List.all_eq_true, beq_iff_eq]
    cases r first with
    | none => rfl
    | some element =>
      simp only [Option.bind_some]
      split_ifs <;> rfl

include h

lemma Regrouped.arrayLiteralType_eq : arrayLiteralType t' r n = arrayLiteralType t r n := by
  rw [TypedTree.arrayLiteralType_eq, TypedTree.arrayLiteralType_eq]
  rcases h.payload?_cases n with hp | ⟨-, es, es', hes, hx, hy⟩
  · rw [Arena.list?, Arena.holds?, hp, Arena.list?, Arena.holds?]
  · have hlist : t.arena.list? n = some es := Arena.holds?_eq_some_iff.2 hx
    have hlist' : t'.arena.list? n = some es' := Arena.holds?_eq_some_iff.2 hy
    rw [hlist, hlist', Option.bind_some, Option.bind_some, agreed?_congr hes]

lemma Regrouped.elementAccessType_eq : elementAccessType t' r n = elementAccessType t r n := by
  rw [elementAccessType, elementAccessType, h.access?_eq]

lemma Regrouped.typeLiteralType_eq (hn : t.arena.kind? n ≠ some .arrayLiteralExpression) :
    typeLiteralType t' r n = typeLiteralType t r n := by
  simp only [typeLiteralType, h.list?_eq hn, h.text_eq, h.indexSignature?_eq, h.valueDecl?_eq]

lemma Regrouped.variableType_eq : variableType t' r n = variableType t r n := by
  rw [variableType, variableType, h.valueDecl?_eq]

lemma Regrouped.knownKind_eq : knownKind t' r n = knownKind t r n := by
  by_cases hn : t.arena.kind? n = some .arrayLiteralExpression
  · simp only [knownKind, h.kind?_eq, hn, h.arrayLiteralType_eq]
  · simp only [knownKind, h.kind?_eq, h.text_eq, h.call?_eq, h.arrayLiteralType_eq,
      h.elementAccessType_eq, h.typeLiteralType_eq r n hn, h.variableType_eq]

/-- Array literals do not have the type of their first element. -/
lemma Regrouped.passThrough_eq : passThrough t' r n = passThrough t r n := by
  by_cases hn : t.arena.kind? n = some .arrayLiteralExpression
  · simp [passThrough, h.kind?_eq, hn, isTransparent]
  · simp only [passThrough, h.kind?_eq, h.children_eq hn]

lemma Regrouped.strategy_eq {s : String × Strategy} (hs : s ∈ strategies) :
    s.2 t' r n = s.2 t r n := by
  simp only [strategies, List.mem_cons, List.not_mem_nil, or_false] at hs
  rcases hs with rfl | rfl | rfl | rfl | rfl | rfl | rfl
  · exact h.knownKind_eq r n
  · exact h.passThrough_eq r n
  · simp only [typeFlags, h.types]
  · simp only [valueDeclaration, h.types, h.kind?_eq]
  · simp only [declaredType, h.kind?_eq, h.valueDecl?_eq]
  · simp only [rawTypeText, h.kind?_eq, h.text_eq]
  · simp only [typeSymbolName, h.types]

lemma Regrouped.firstSettled_eq {ss : List (String × Strategy)} (hss : ss ⊆ strategies) :
    firstSettled t' r n ss = firstSettled t r n ss := by
  induction ss with
  | nil => rfl
  | cons s ss ih =>
    obtain ⟨hs, hss⟩ := List.cons_subset.1 hss
    rw [firstSettled, h.strategy_eq r n hs, ih hss, firstSettled]

/-- By induction on how deep questions may go: with the same answers to its own questions, every
strategy says the same. -/
lemma Regrouped.resolveWithin_eq (budget : Nat) :
    resolveWithin t' budget n = resolveWithin t budget n := by
  induction budget generalizing n with
  | zero => rfl
  | succ budget ih =>
    have hresolver : resolveWithin t' budget = resolveWithin t budget := funext ih
    rw [resolveWithin, resolveWithin, hresolver]
    rcases h.get?_cases n with ⟨hx, hy⟩ | ⟨x, y, hx, hy, -⟩
    · simp only [hx, hy]
    · simpa only [hx, hy] using h.firstSettled_eq _ n (List.Subset.refl _)

lemma Regrouped.typeName?_eq : t'.typeName? n = t.typeName? n := h.resolveWithin_eq n _

end TypedTree

/-! ### Other elements for an array literal -/

/-- The arena in which a node lists other elements. -/
def Arena.setElements (a : Arena) (n : NodeId) (elements : List NodeId) : Arena :=
  { a with nodes := a.nodes.modify n.toNat fun node => { node with payload := .list elements } }

namespace TypedTree

variable {t : TypedTree} {n : NodeId} {elements elements' : List NodeId}

/-- The tree in which a node lists other elements. -/
def withElements (t : TypedTree) (n : NodeId) (elements : List NodeId) : TypedTree :=
  { t with arena := t.arena.setElements n elements }

lemma get?_withElements (t : TypedTree) (n : NodeId) (elements : List NodeId) (m : NodeId) :
    (t.withElements n elements).arena.get? m = if n = m
      then (t.arena.get? m).map fun node => { node with payload := .list elements }
      else t.arena.get? m := by
  simp only [withElements, Arena.setElements, Arena.get?, Array.getElem?_modify,
    Arena.toNat_injective.eq_iff]

lemma list?_withElements (hn : (t.arena.get? n).isSome) :
    (t.withElements n elements).arena.list? n = some elements := by
  obtain ⟨node, hnode⟩ := Option.isSome_iff_exists.1 hn
  refine Arena.holds?_eq_some_iff.2 ?_
  rw [Arena.payload?, get?_withElements, if_pos rfl, hnode]
  rfl

lemma regrouped_withElements (hkind : t.arena.kind? n = some .arrayLiteralExpression)
    (hlist : t.arena.list? n = some elements) (h : ∀ m, m ∈ elements' ↔ m ∈ elements) :
    t.Regrouped (t.withElements n elements') where
  types := rfl
  sourceText := rfl
  nodes m := by
    rw [get?_withElements]
    split_ifs with hm
    · subst hm
      obtain ⟨node, hnode, hkind⟩ := Option.map_eq_some_iff.1 hkind
      have hpayload := Arena.holds?_eq_some_iff.1 hlist
      rw [Arena.payload?, hnode, Option.map_some, Option.some.injEq] at hpayload
      rw [hnode]
      exact .some ⟨rfl, rfl, hpayload ▸ .elements hkind h⟩
    · cases t.arena.get? m with
      | none => exact .none
      | some node => exact .some ⟨rfl, rfl, .same _⟩

/-! ### Agreement of return statements -/

lemma returnedType?_eq_some_iff {s : NodeId} {ty : TypeName} : t.returnedType? s = some ty ↔
    ∃ value, t.arena.wrapped? s = some value ∧ t.typeName? value = some ty :=
  Option.bind_eq_some_iff

lemma commonReturnType?_eq {statements : List NodeId} (hne : statements ≠ []) :
    t.commonReturnType? statements = agreed? t.returnedType? statements := by
  cases statements with
  | nil => exact absurd rfl hne
  | cons first rest =>
    simp only [commonReturnType?, agreed?, Option.bind_eq_bind, List.all_eq_true, beq_iff_eq]

end TypedTree

open TypedTree

/-- Return statements have a type in common when each of them returns a value of that type, so it
depends on nothing but which statements they are.  In the same way, when the elements of an array
literal are replaced by the same elements in another order or number, no node of the tree gets
another type. -/
theorem agreement_of_same_members (t : TypedTree) :
    (∀ statements, statements ≠ [] →
      (∀ ty, t.commonReturnType? statements = some ty ↔
        ∀ s ∈ statements, ∃ value, t.arena.wrapped? s = some value ∧ t.typeName? value = some ty) ∧
      ∀ statements', (∀ s, s ∈ statements' ↔ s ∈ statements) →
        t.commonReturnType? statements' = t.commonReturnType? statements) ∧
    ∀ n elements elements', t.arena.kind? n = some .arrayLiteralExpression →
      t.arena.list? n = some elements → (∀ m, m ∈ elements' ↔ m ∈ elements) →
      (t.withElements n elements').arena.list? n = some elements' ∧
      ∀ m, (t.withElements n elements').typeName? m = t.typeName? m := by
  refine ⟨fun statements hne => ⟨fun ty => ?_, fun statements' h => ?_⟩,
    fun n elements elements' hkind hlist h => ⟨?_, ?_⟩⟩
  · rw [commonReturnType?_eq hne, agreed?_eq_some_iff, and_iff_right hne]
    exact forall₂_congr fun s _ => returnedType?_eq_some_iff
  · have hne' : statements' ≠ [] := by
      obtain ⟨s, hs⟩ := List.exists_mem_of_ne_nil _ hne
      exact List.ne_nil_of_mem ((h s).2 hs)
    rw [commonReturnType?_eq hne, commonReturnType?_eq hne', agreed?_congr h]
  · obtain ⟨node, hnode, -⟩ := Option.map_eq_some_iff.1 hkind
    exact list?_withElements (by rw [hnode]; rfl)
  · exact (regrouped_withElements hkind hlist h).typeName?_eq

/-- A variable that is a list, with two statements that return it. -/
def returnedListTree : TypedTree where
  arena := {
    sourceText := "let x = [1, 2]; return x; return [1, 2];"
    nodes := #[
      { kind := .identifier, pos := 4, stop := 5, payload := .identifier "x" },
      { kind := .numericLiteral, pos := 9, stop := 10, payload := .literal "1" },
      { kind := .numericLiteral, pos := 12, stop := 13, payload := .literal "2" },
      { kind := .arrayLiteralExpression, pos := 8, stop := 14, payload := .list [⟨1⟩, ⟨2⟩] },
      { kind := .variableDeclaration, pos := 4, stop := 14,
        payload := .valueDecl ⟨⟨0⟩, none, some ⟨3⟩⟩ },
      { kind := .identifier, pos := 23, stop := 24, payload := .identifier "x" },
      { kind := .returnStatement, pos := 16, stop := 25, payload := .wrapped (some ⟨5⟩) },
      { kind := .returnStatement, pos := 26, stop := 40, payload := .wrapped (some ⟨3⟩) }] }
  types := {
    symbols := #[⟨"x", some ⟨4⟩⟩]
    nodeSymbols := OrderedMap.empty.insert ⟨5⟩ ⟨0⟩ }

/-- The list is reached from the name of the variable, and may have its elements the other way
round. -/
theorem returned_list_agrees :
    returnedListTree.commonReturnType? [⟨6⟩, ⟨7⟩] = some (RawType.listOf (.text "int")) ∧
    returnedListTree.commonReturnType? [⟨7⟩, ⟨6⟩, ⟨7⟩] = some (RawType.listOf (.text "int")) ∧
    (returnedListTree.withElements ⟨3⟩ [⟨2⟩, ⟨1⟩, ⟨2⟩]).typeName? ⟨5⟩
      = some (RawType.listOf (.text "int")) := by
  obtain ⟨hreturns, hlists⟩ := agreement_of_same_members returnedListTree
  have hname : returnedListTree.typeName? ⟨3⟩ = some (RawType.listOf (.text "int")) := by
    decide +kernel
  have hvariable : returnedListTree.typeName? ⟨5⟩ = some (RawType.listOf (.text "int")) := by
    decide +kernel
  obtain ⟨hagree, hsame⟩ := hreturns [⟨6⟩, ⟨7⟩] (List.cons_ne_nil _ _)
  have hcommon : returnedListTree.commonReturnType? [⟨6⟩, ⟨7⟩]
      = some (RawType.listOf (.text "int")) :=
    (hagree _).2 (by simpa using ⟨⟨⟨5⟩, rfl, hvariable⟩, ⟨3⟩, rfl, hname⟩)
  obtain ⟨-, htypes⟩ := hlists ⟨3⟩ [⟨1⟩, ⟨2⟩] [⟨2⟩, ⟨1⟩, ⟨2⟩] rfl rfl (by simp [or_comm])
  exact ⟨hcommon, (hsame [⟨7⟩, ⟨6⟩, ⟨7⟩] (by simp [or_comm])).trans hcommon,
    (htypes ⟨5⟩).trans hvariable⟩

end Gls
