/-
# Questions about types that go too deep

To find the type of a node, the types of other nodes may be asked for, and how deep such questions go
is bounded.  Past the bound there is no answer.  This file shows that the bound takes answers away
and never changes one.

The reason is that a strategy applies or does not apply to a node whatever the answers to its
questions are: the lack of an answer is never a reason to try the next strategy.  And a strategy that
applies uses its answers in a way that no further answer can take its own answer back.  So a resolver
that answers more questions lets every strategy answer more.
-/
import Gls.TypeName.Resolve
import Mathlib.Tactic.Common

namespace Gls

namespace TypedTree

/-! ### More answers -/

/-- What the first one answers, the second one answers too. -/
def Within (x y : Option TypeName) : Prop := ∀ ⦃a⦄, x = some a → y = some a

/-- The second resolver answers all that the first one answers. -/
def Resolver.Within (r r' : Resolver) : Prop := ∀ m, TypedTree.Within (r m) (r' m)

/-- Both strategies leave the question to the next one, or both settle it, and the second one with
every answer of the first. -/
inductive Step.Within : Step → Step → Prop where
  | settled {x y : Option TypeName} (h : TypedTree.Within x y) : Within (.settled x) (.settled y)
  | next : Within .next .next

lemma Step.Within.refl (s : Step) : s.Within s := by
  cases s with
  | settled x => exact .settled fun _ => id
  | next => exact .next

section Strategies

variable {t : TypedTree} {r r' : Resolver} {n : NodeId} (hr : r.Within r')
include hr

/-! ### Kinds whose type follows from the tree -/

lemma within_arrayLiteralType : Within (arrayLiteralType t r n) (arrayLiteralType t r' n) := by
  intro a h
  simp only [arrayLiteralType, Option.bind_eq_bind, Option.bind_eq_some_iff] at h ⊢
  obtain ⟨elements, helements, h⟩ := h
  refine ⟨elements, helements, ?_⟩
  split at h
  · cases h
  · rename_i first rest
    obtain ⟨element, hfirst, h⟩ := Option.bind_eq_some_iff.1 h
    split at h
    · rename_i hrest
      have hrest' : (rest.all fun other => r' other == some element) = true := by
        rw [List.all_eq_true] at hrest ⊢
        intro other hother
        exact beq_iff_eq.2 (hr other (beq_iff_eq.1 (hrest other hother)))
      rw [hr first hfirst, Option.bind_some, if_pos hrest']
      exact h
    · cases h

lemma within_elementAccessType :
    Within (elementAccessType t r n) (elementAccessType t r' n) := by
  intro a h
  simp only [elementAccessType, Option.bind_eq_bind, Option.bind_eq_some_iff] at h ⊢
  obtain ⟨access, haccess, container, hcontainer, h⟩ := h
  exact ⟨access, haccess, container, hr _ hcontainer, h⟩

lemma within_typeLiteralType : Within (typeLiteralType t r n) (typeLiteralType t r' n) := by
  intro a h
  unfold typeLiteralType at h ⊢
  split at h
  · exact h
  · simp only [Option.bind_eq_bind, Option.bind_eq_some_iff] at h ⊢
    obtain ⟨signature, hsignature, p, hp, parameter, hparameter, k, hk, key, hkey, v, hv, value,
      hvalue, h⟩ := h
    exact ⟨signature, hsignature, p, hp, parameter, hparameter, k, hk, key, hr _ hkey, v, hv, value,
      hr _ hvalue, h⟩
  · cases h

lemma within_variableType : Within (variableType t r n) (variableType t r' n) := by
  intro a h
  simp only [variableType, Option.bind_eq_bind, Option.bind_eq_some_iff] at h ⊢
  obtain ⟨decl, hdecl, h⟩ := h
  refine ⟨decl, hdecl, ?_⟩
  split at h
  · exact hr _ h
  · exact hr _ h
  · cases h

lemma within_knownKind : (knownKind t r n).Within (knownKind t r' n) := by
  unfold knownKind
  split
  · exact .settled (within_arrayLiteralType hr)
  · exact .refl _
  · exact .refl _
  · exact .refl _
  · exact .settled (within_elementAccessType hr)
  · exact .refl _
  · exact .refl _
  · exact .refl _
  · exact .settled (within_typeLiteralType hr)
  · exact .refl _
  · exact .refl _
  · exact .settled (within_variableType hr)
  · exact .refl _

/-! ### The other strategies -/

lemma within_passThrough : (passThrough t r n).Within (passThrough t r' n) := by
  unfold passThrough
  split
  · split
    · split
      · exact .settled (hr _)
      · exact .next
    · exact .next
  · exact .next

lemma within_valueDeclaration : (valueDeclaration t r n).Within (valueDeclaration t r' n) := by
  unfold valueDeclaration
  dsimp only
  split
  · split
    · exact .settled (hr _)
    · exact .next
  · exact .next

lemma within_declaredType :
    Step.Within (declaredType t r n) (declaredType t r' n) := by
  unfold declaredType
  split
  · split
    · exact .settled (hr _)
    · exact .next
  · exact .next

/-- The other three strategies ask no questions. -/
lemma within_of_mem_strategies {s : String × Strategy} (hs : s ∈ strategies) :
    (s.2 t r n).Within (s.2 t r' n) := by
  simp only [strategies, List.mem_cons, List.not_mem_nil, or_false] at hs
  rcases hs with rfl | rfl | rfl | rfl | rfl | rfl | rfl
  · exact within_knownKind hr
  · exact within_passThrough hr
  · exact .refl (typeFlags t r n)
  · exact within_valueDeclaration hr
  · exact within_declaredType hr
  · exact .refl (rawTypeText t r n)
  · exact .refl (typeSymbolName t r n)

/-- The same strategy settles the question. -/
lemma within_firstSettled {ss : List (String × Strategy)} (hss : ss ⊆ strategies) :
    Within (firstSettled t r n ss) (firstSettled t r' n ss) := by
  induction ss with
  | nil => exact fun _ => id
  | cons s ss ih =>
    obtain ⟨hs, hss⟩ := List.cons_subset.1 hss
    have hstep := within_of_mem_strategies (t := t) (n := n) hr hs
    rw [firstSettled, firstSettled]
    generalize s.2 t r n = x at hstep ⊢
    generalize s.2 t r' n = y at hstep ⊢
    cases hstep with
    | settled h => exact h
    | next => exact ih hss

end Strategies

/-! ### Resolution -/

/-- By induction on how deep questions may go. -/
lemma within_resolveWithin (t : TypedTree) {budget budget' : Nat} (h : budget ≤ budget') :
    Resolver.Within (resolveWithin t budget) (resolveWithin t budget') := by
  induction budget generalizing budget' with
  | zero =>
    intro n a hn
    cases hn
  | succ budget ih =>
    obtain ⟨budget', rfl⟩ := Nat.exists_eq_add_one.2 (Nat.lt_of_lt_of_le (Nat.succ_pos _) h)
    intro n a hn
    rw [resolveWithin] at hn ⊢
    split at hn
    · cases hn
    · exact within_firstSettled (ih (Nat.le_of_succ_le_succ h)) (List.Subset.refl _) hn

end TypedTree

/-- An answer that is found at some depth is found at every smaller depth.  So whatever limit were
set to the depth of questions, a name that is found under it is the name of the type, or the type has
no name at all. -/
theorem depth_cuts_answers (t : TypedTree) (n : NodeId) :
    (∀ d d' a, d ≤ d' → t.resolve n d' = some a → t.resolve n d = some a) ∧
    ∀ limit a, t.resolveWithin limit n = some a →
      t.typeName? n = none ∨ t.typeName? n = some a := by
  constructor
  · intro d d' a hd h
    have hbudget : TypedTree.maxDepth + 1 - d' ≤ TypedTree.maxDepth + 1 - d := by omega
    exact TypedTree.within_resolveWithin t hbudget n h
  · intro limit a h
    rcases Nat.le_total limit (TypedTree.maxDepth + 1) with hlimit | hlimit
    · exact .inr (TypedTree.within_resolveWithin t hlimit n h)
    · -- A name that is found below the bound is found under the larger limit, so it is the same.
      cases hname : t.typeName? n with
      | none => exact .inl rfl
      | some b => exact .inr ((TypedTree.within_resolveWithin t hlimit n hname).symm.trans h)

/-- A list with a variable in it, and a variable that is declared by itself. -/
def declaredTree : TypedTree where
  arena := {
    sourceText := "let x = (1), y = y; [x, 2];"
    nodes := #[
      { kind := .identifier, pos := 4, stop := 5, payload := .identifier "x" },
      { kind := .numericLiteral, pos := 9, stop := 10, payload := .literal "1" },
      { kind := .parenthesizedExpression, pos := 8, stop := 11, payload := .wrapped (some ⟨1⟩) },
      { kind := .variableDeclaration, pos := 4, stop := 11,
        payload := .valueDecl ⟨⟨0⟩, none, some ⟨2⟩⟩ },
      { kind := .identifier, pos := 13, stop := 14, payload := .identifier "y" },
      { kind := .identifier, pos := 17, stop := 18, payload := .identifier "y" },
      { kind := .variableDeclaration, pos := 13, stop := 18,
        payload := .valueDecl ⟨⟨4⟩, none, some ⟨5⟩⟩ },
      { kind := .identifier, pos := 21, stop := 22, payload := .identifier "x" },
      { kind := .numericLiteral, pos := 24, stop := 25, payload := .literal "2" },
      { kind := .arrayLiteralExpression, pos := 20, stop := 26, payload := .list [⟨7⟩, ⟨8⟩] }] }
  types := {
    symbols := #[⟨"x", some ⟨3⟩⟩, ⟨"y", some ⟨6⟩⟩]
    nodeSymbols := (OrderedMap.empty.insert ⟨5⟩ ⟨1⟩).insert ⟨7⟩ ⟨0⟩ }

/-- The type of the list takes five questions, one inside the other; the circle has no type. -/
theorem declared_list_found_at_depth_sixty :
    declaredTree.resolve ⟨9⟩ 61 = none ∧
    declaredTree.resolve ⟨9⟩ 60 = some (RawType.listOf (.text "int")) ∧
    declaredTree.resolve ⟨9⟩ 7 = some (RawType.listOf (.text "int")) ∧
    (declaredTree.typeName? ⟨9⟩ = none ∨
      declaredTree.typeName? ⟨9⟩ = some (RawType.listOf (.text "int"))) ∧
    declaredTree.typeName? ⟨5⟩ = none := by
  have hdeep : declaredTree.resolve ⟨9⟩ 60 = some (RawType.listOf (.text "int")) := by
    decide +kernel
  have hlimit : declaredTree.resolveWithin 5 ⟨9⟩ = some (RawType.listOf (.text "int")) := by
    decide +kernel
  obtain ⟨hdepth, hcut⟩ := depth_cuts_answers declaredTree ⟨9⟩
  exact ⟨by decide +kernel, hdeep, hdepth 7 60 _ (by decide) hdeep, hcut 5 _ hlimit,
    by decide +kernel⟩

end Gls
