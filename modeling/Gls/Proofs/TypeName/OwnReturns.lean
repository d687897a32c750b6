/-
# The return statements of a function

A function owns the return statements in its body that are not inside another function, a class or
another return statement.  They are found by a search with a stack, which ends at each of these.
This file says which nodes are found, how often and in which order, without a search: by the ways
that lead to them from the body.
-/
import Gls.Proofs.Tree.Ways
import Gls.TypeName.Returns

namespace Gls

open TypedTree

namespace Arena

/-- The kinds below which no return statement belongs to the function outside: return statements,
functions, methods, their signatures, constructors and classes. -/
def returnEnds : List Kind :=
  [.returnStatement, .functionDeclaration, .methodDeclaration, .methodSignature, .constructor,
   .classDeclaration, .classExpression]

/-- The way leads from the body to a return statement, and on it there is nothing before that has
return statements of its own or is one. -/
structure OwnReturn (a : Arena) (body : NodeId) (way : Way) (m : NodeId) : Prop where
  leads : a.follow? body way = some m
  returns : a.kind? m = some .returnStatement
  passes : ∀ w k, w <+: way → w ≠ way → a.follow? body w = some k →
    ∀ kind ∈ a.kind? k, kind ∉ returnEnds

/-- The way leads from the body to a return statement. -/
def returnsAlong (a : Arena) (body : NodeId) (way : Way) : Bool :=
  (a.follow? body way).bind a.kind? == some .returnStatement

/-- Takes a return statement, and leaves any other node. -/
def takeReturn (a : Arena) (found : List NodeId) (n : NodeId) : List NodeId :=
  if a.kind? n == some .returnStatement then found ++ [n] else found

variable {a : Arena} {body f n m : NodeId} {way : Way}

lemma endsReturnSearch_iff (node : Node) :
    endsReturnSearch node = true ↔ node.kind ∈ returnEnds := by
  unfold endsReturnSearch isFunctionBoundary returnEnds
  cases node.kind <;> decide

lemma any_endsReturnSearch_iff :
    (a.get? n).any endsReturnSearch = true ↔ ∃ kind ∈ a.kind? n, kind ∈ returnEnds := by
  rw [Option.any_eq_true, kind?]
  simp only [endsReturnSearch_iff, Option.mem_def, Option.map_eq_some_iff]
  grind

/-- A return statement is owned where the search for return statements comes to it. -/
lemma ownReturn_iff : a.OwnReturn body way m ↔
    a.StopsAt endsReturnSearch body way m ∧ a.kind? m = some .returnStatement := by
  have hpass : ∀ k, (a.get? k).any endsReturnSearch = false ↔
      ∀ kind ∈ a.kind? k, kind ∉ returnEnds := by
    intro k
    rw [← Bool.not_eq_true, any_endsReturnSearch_iff]
    push Not
    rfl
  constructor
  · rintro ⟨hleads, hreturns, hpasses⟩
    refine ⟨⟨hleads, ?_, fun w k hw hne hk => (hpass k).2 (hpasses w k hw hne hk)⟩, hreturns⟩
    exact any_endsReturnSearch_iff.2 ⟨_, hreturns, List.mem_cons_self⟩
  · rintro ⟨⟨hleads, -, hpasses⟩, hreturns⟩
    exact ⟨hleads, hreturns, fun w k hw hne hk => (hpass k).1 (hpasses w k hw hne hk)⟩

lemma returnsAlong_eq (h : a.follow? body way = some m) :
    a.returnsAlong body way = (a.kind? m == some .returnStatement) := by
  rw [returnsAlong, h, Option.bind_some]

lemma foldl_takeReturn (found ns : List NodeId) : ns.foldl a.takeReturn found
    = found ++ ns.filter fun n => a.kind? n == some .returnStatement := by
  unfold takeReturn
  rw [← List.foldl_filter (f := fun found n => found ++ [n]), List.foldl_append_eq_append,
    ← List.flatMap_def, List.flatMap_singleton']

/-- Of two lists that belong together, the parts that are kept belong together. -/
lemma forall₂_filter {α β : Type} {R : α → β → Prop} {p : α → Bool} {q : β → Bool} {xs : List α}
    {ys : List β} (h : List.Forall₂ R xs ys) (hpq : ∀ x y, R x y → p x = q y) :
    List.Forall₂ (fun x y => R x y ∧ q y = true) (xs.filter p) (ys.filter q) := by
  induction h with
  | nil => exact .nil
  | @cons x y xs ys hxy _ ih =>
    rw [List.filter_cons, List.filter_cons, hpq x y hxy]
    split_ifs with hy
    · exact .cons ⟨hxy, hy⟩ ih
    · exact ih

variable {d : Payload.Function}

lemma returnStatements_of_body (hf : a.function? f = some d) (hbody : d.body = some body) :
    returnStatements a f
      = (a.frontier endsReturnSearch body).filter fun n => a.kind? n == some .returnStatement := by
  rw [returnStatements, hf, Option.bind_some, hbody]

lemma returnStatements_of_no_body (hf : a.function? f = some d) (hbody : d.body = none) :
    returnStatements a f = [] := by
  rw [returnStatements, hf, Option.bind_some, hbody]

/-- Of the ways that end where the search does, those to return statements are the ways to what is
found. -/
lemma exists_ways_of_body (hw : a.Within (a.nodes.size + 1) body) (hf : a.function? f = some d)
    (hbody : d.body = some body) :
    ∃ ways : List Way, ways.Pairwise (· < ·) ∧
      List.Forall₂ (a.OwnReturn body) ways (returnStatements a f) ∧
      ∀ way m, a.OwnReturn body way m → way ∈ ways := by
  obtain ⟨ways, hordered, hends, hall⟩ := exists_ways_of_frontier endsReturnSearch hw
  refine ⟨ways.filter (a.returnsAlong body), hordered.filter _, ?_, fun way m h => ?_⟩
  · rw [returnStatements_of_body hf hbody]
    refine (forall₂_filter hends fun way m h => returnsAlong_eq h.leads).imp fun way m h => ?_
    exact ownReturn_iff.2 ⟨h.1, beq_iff_eq.1 h.2⟩
  · obtain ⟨hway, hreturns⟩ := ownReturn_iff.1 h
    refine List.mem_filter.2 ⟨hall way m hway, ?_⟩
    rw [returnsAlong_eq hway.leads, hreturns, beq_self_eq_true]

end Arena

open Arena

/-- For every way that leads from the body of a function to a return statement of its own, the
return statement is found once, in the order of the ways, which is that of pre-order; and nothing
else is found.  The search with a stack ends with them, and passes over places that hold no node. -/
theorem own_returns_in_order {a : Arena} (hacyclic : a.Acyclic) {f : NodeId} {d : Payload.Function}
    (hf : a.function? f = some d) :
    (∃ ways : List Way, ways.Pairwise (· < ·) ∧
      List.Forall₂ (fun way m => ∃ body ∈ d.body, a.OwnReturn body way m) ways
        (returnStatements a f) ∧
      ∀ body ∈ d.body, ∀ way m, a.OwnReturn body way m → way ∈ ways) ∧
    (∀ body ∈ d.body, (returnStatements a f).Sublist (a.preorder body)) ∧
    Search.Steps a endsReturnSearch a.takeReturn ⟨d.body.toList, []⟩ ⟨[], returnStatements a f⟩ ∧
    ∀ n stack found, a.get? n = none →
      Search.next? a endsReturnSearch a.takeReturn ⟨n :: stack, found⟩ = some ⟨stack, found⟩ := by
  have hdangling : ∀ n stack found, a.get? n = none →
      Search.next? a endsReturnSearch a.takeReturn ⟨n :: stack, found⟩ = some ⟨stack, found⟩ := by
    intro n stack found hn
    rw [Search.next?_of_pass (by rw [hn]; rfl), children, hn]
    rfl
  cases hbody : d.body with
  | none =>
    rw [returnStatements_of_no_body hf hbody]
    refine ⟨⟨[], .nil, .nil, ?_⟩, ?_, .refl, hdangling⟩
    · rintro body ⟨⟩
    · rintro body ⟨⟩
  | some body =>
    have hw := hacyclic.within_size body
    refine ⟨?_, ?_, ?_, hdangling⟩
    · obtain ⟨ways, hordered, hends, hall⟩ := exists_ways_of_body hw hf hbody
      refine ⟨ways, hordered, hends.imp fun way m h => ⟨body, rfl, h⟩, ?_⟩
      rintro _ ⟨⟩
      exact hall
    · rintro _ ⟨⟩
      rw [returnStatements_of_body hf hbody]
      exact List.filter_sublist.trans (a.frontierWithin_sublist _ _ body)
    · have hsteps : Search.Steps a endsReturnSearch a.takeReturn ⟨[body], []⟩ _ :=
        Search.steps_frontier hw []
      rwa [foldl_takeReturn, List.nil_append, ← returnStatements_of_body hf hbody] at hsteps

/-- A function whose body has a block twice and a function inside it, and names a node that is not
there. -/
def sharedReturnArena : Arena where
  nodes := #[
    { kind := .returnStatement, pos := 0, stop := 0, payload := .wrapped none },
    { kind := .block, pos := 0, stop := 0, payload := .list [⟨0⟩] },
    { kind := .functionDeclaration, pos := 0, stop := 0,
      payload := .function ⟨none, [], none, some ⟨1⟩⟩ },
    { kind := .returnStatement, pos := 0, stop := 0, payload := .wrapped none },
    { kind := .block, pos := 0, stop := 0, payload := .list [⟨3⟩] },
    { kind := .block, pos := 0, stop := 0, payload := .list [⟨4⟩, ⟨2⟩, ⟨9⟩, ⟨4⟩] },
    { kind := .methodDeclaration, pos := 0, stop := 0,
      payload := .function ⟨none, [], none, some ⟨5⟩⟩ }]

theorem shared_return_found_twice :
    sharedReturnArena.Acyclic ∧
    sharedReturnArena.function? ⟨6⟩ = some ⟨none, [], none, some ⟨5⟩⟩ ∧
    (∃ ways : List Way, ways.Pairwise (· < ·) ∧
      List.Forall₂ (fun way m => ∃ body ∈ some ⟨5⟩, sharedReturnArena.OwnReturn body way m) ways
        [⟨3⟩, ⟨3⟩] ∧ [0, 0] ∈ ways ∧ [3, 0] ∈ ways) ∧
    Search.Steps sharedReturnArena endsReturnSearch sharedReturnArena.takeReturn ⟨[⟨5⟩], []⟩
      ⟨[], [⟨3⟩, ⟨3⟩]⟩ := by
  have hacyclic : sharedReturnArena.Acyclic :=
    .of_rank (fun n => if n.toNat < 7 then n.toNat + 1 else 0) (by decide)
  have hf : sharedReturnArena.function? ⟨6⟩ = some ⟨none, [], none, some ⟨5⟩⟩ := rfl
  have hreturns : returnStatements sharedReturnArena ⟨6⟩ = [⟨3⟩, ⟨3⟩] := by decide
  have hown : ∀ i, (sharedReturnArena.children ⟨5⟩)[i]? = some ⟨4⟩ →
      sharedReturnArena.OwnReturn ⟨5⟩ [i, 0] ⟨3⟩ := fun i hi =>
    ownReturn_iff.2 ⟨stopsAt_cons.2 ⟨rfl, _, hi, stopsAt_cons.2 ⟨rfl, _, rfl,
      stopsAt_nil.2 ⟨rfl, rfl⟩⟩⟩, rfl⟩
  obtain ⟨⟨ways, hordered, hends, hall⟩, -, hsteps, -⟩ := own_returns_in_order hacyclic hf
  rw [hreturns] at hends hsteps
  exact ⟨hacyclic, hf, ⟨ways, hordered, hends, hall _ rfl _ _ (hown 0 rfl),
    hall _ rfl _ _ (hown 3 rfl)⟩, hsteps⟩

end Gls
