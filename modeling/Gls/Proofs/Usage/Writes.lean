/-
# What the index of a tree holds

The index is filled by one walk down the tree, and tells writes from reads by the parent of an
identifier.  This file says what comes out of it without the walk: a name is written within a range
exactly when some node of the tree declares, assigns or steps an identifier of that name whose own
range lies within.
-/
import Gls.Proofs.Tree.Preorder
import Gls.Usage

namespace Gls

namespace Arena

variable {a : Arena} {root n m p : NodeId}

/-- Below the root, the nodes that are there know their parents. -/
def ParentsAgree (a : Arena) (root : NodeId) : Prop :=
  ∀ p c, a.Reaches root p → a.Child p c → (a.get? c).isSome → a.parent? c = some p

/-- The node `p` writes to the variable that its child names: it declares it, as a variable or as a
parameter, assigns to it, or steps it. -/
inductive WrittenBy (a : Arena) (p : NodeId) : NodeId → Prop
  | declared {node : Node} {d : Payload.ValueDecl} : a.get? p = some node →
      node.payload = .valueDecl d → node.kind = .variableDeclaration ∨ node.kind = .parameter →
      WrittenBy a p d.name
  | assigned {d : Payload.Binary} : a.binary? p = some d →
      d.operator.isAssignmentOperator = true → WrittenBy a p d.left
  | stepped {d : Payload.Unary} : a.unary? p = some d →
      d.operator = .plusPlusToken ∨ d.operator = .minusMinusToken → WrittenBy a p d.operand

/-- Some node of the tree writes to the variable that `m` names. -/
def Written (a : Arena) (root m : NodeId) : Prop := ∃ p, a.Reaches root p ∧ a.WrittenBy p m

/-- The identifier `m` carries a name, and some node of the tree writes to its variable. -/
def WrittenAs (a : Arena) (root : NodeId) (name : String) (m : NodeId) : Prop :=
  a.identifier? m = some name ∧ a.Written root m

/-! ### The walk -/

lemma isSome_of_child (h : a.Child p m) : (a.get? p).isSome := by
  cases hp : a.get? p with
  | none => simp [Child, children, hp] at h
  | some node => rfl

/-- Where all nodes to stop at are leaves, the walk comes to all of them. -/
lemma mem_frontierWithin {stop : Node → Bool} (hstop : ∀ node, stop node = true → node.children = [])
    {fuel : Nat} (hw : a.Within fuel n) :
    m ∈ a.frontierWithin stop fuel n ↔
      a.Reaches n m ∧ ∃ node, a.get? m = some node ∧ stop node = true := by
  rw [frontierWithin_eq_filter hstop, List.mem_filter, mem_preorderWithin hw, Option.any_eq_true]

end Arena

namespace UsageIndex

variable {a : Arena} {root n m p : NodeId} {name : String}

lemma children_of_isIdentifier (node : Node) (h : isIdentifier node = true) :
    node.children = [] := by
  unfold isIdentifier at h
  rw [Node.children]
  split at h
  · rename_i hp
    rw [hp]
    rfl
  · cases h

lemma exists_isIdentifier_iff :
    (∃ node, a.get? m = some node ∧ isIdentifier node = true) ↔ (a.identifier? m).isSome := by
  unfold Arena.identifier? Arena.holds? Arena.payload? isIdentifier
  cases hm : a.get? m with
  | none => simp
  | some node =>
    simp only [Option.some.injEq, exists_eq_left', Option.map_some, Option.bind_some]
    cases node.payload <;> simp [Payload.Form.identifier]

/-- The identifiers of a tree are the nodes below its root that carry one. -/
lemma mem_identifiers (ht : a.IsTree root) :
    m ∈ identifiers a root ↔ a.Reaches root m ∧ (a.identifier? m).isSome := by
  rw [identifiers, Arena.frontier,
    Arena.mem_frontierWithin children_of_isIdentifier ht.within_size, exists_isIdentifier_iff]

/-! ### What is recorded -/

/-- The places that the index lists for a name and a use. -/
def listed (index : UsageIndex) (name : String) : IdentifierUse → List Occurrence
  | .read => ((index.usage? name).getD {}).reads
  | .write => ((index.usage? name).getD {}).writes
  | .name => []

lemma writesWithin_eq (index : UsageIndex) (name : String) (range : Span) :
    index.writesWithin name range
      = (index.listed name .write).any fun o => range.contains o.span := by
  unfold writesWithin listed
  cases index.usage? name <;> rfl

/-- Recording an identifier adds it to the list of its name and its use, and to no other. -/
lemma listed_record (index : UsageIndex) (name' : String) (use' : IdentifierUse) (o : Occurrence)
    (name : String) {use : IdentifierUse} (huse : use ≠ .name) :
    (index.record name' use' o).listed name use
      = index.listed name use ++ if name' = name ∧ use' = use then [o] else [] := by
  by_cases hname : name' = name <;> cases use' <;> cases use <;>
    simp_all [record, listed, usage?, OrderedMap.get?_insert]

/-- One step of the walk: an identifier is recorded under its name. -/
def step (a : Arena) (index : UsageIndex) (n : NodeId) : UsageIndex :=
  match a.identifier? n with
  | some name => index.record name (IdentifierUse.of a n) ⟨n, a.span n⟩
  | none => index

lemma build_eq_foldl (a : Arena) (root : NodeId) :
    build a root = (identifiers a root).foldl (step a) {} := rfl

lemma listed_step (a : Arena) (index : UsageIndex) (n : NodeId) (name : String)
    {use : IdentifierUse} (huse : use ≠ .name) :
    (step a index n).listed name use = index.listed name use ++
      if a.identifier? n = some name ∧ IdentifierUse.of a n = use then [⟨n, a.span n⟩] else [] := by
  unfold step
  cases a.identifier? n with
  | none => simp
  | some name' =>
    dsimp only
    rw [listed_record index name' _ _ name huse]
    simp only [Option.some.injEq]

lemma listed_foldl (a : Arena) (ns : List NodeId) (index : UsageIndex) (name : String)
    {use : IdentifierUse} (huse : use ≠ .name) :
    (ns.foldl (step a) index).listed name use = index.listed name use ++
      (ns.filter fun n => a.identifier? n = some name ∧ IdentifierUse.of a n = use).map
        fun n => ⟨n, a.span n⟩ := by
  induction ns generalizing index with
  | nil => simp
  | cons n ns ih =>
    rw [List.foldl_cons, ih, listed_step a index n name huse, List.filter_cons]
    split_ifs <;> simp_all

/-- The lists of the index are the identifiers of the tree, in its order, by name and use. -/
lemma listed_build (a : Arena) (root : NodeId) (name : String) {use : IdentifierUse}
    (huse : use ≠ .name) :
    (build a root).listed name use
      = ((identifiers a root).filter fun n =>
          a.identifier? n = some name ∧ IdentifierUse.of a n = use).map
            fun n => ⟨n, a.span n⟩ := by
  have hempty : ({} : UsageIndex).listed name use = [] := by cases use <;> rfl
  rw [build_eq_foldl, listed_foldl a _ _ name huse, hempty, List.nil_append]

/-! ### Writes -/

lemma child_of_writtenBy (h : a.WrittenBy p m) : a.Child p m := by
  cases h with
  | @declared node d hp hd _ =>
    have hpayload : a.payload? p = some (.valueDecl d) := by simp [Arena.payload?, hp, hd]
    rw [Arena.Child, Arena.children_of_payload? hpayload]
    simp [Payload.children]
  | assigned hb _ =>
    rw [Arena.Child, Arena.children_of_binary? hb]
    simp [Payload.children]
  | stepped hu _ =>
    rw [Arena.Child, Arena.children_of_unary? hu]
    simp [Payload.children]

/-- The place of a child in its parent shows whether it is written. -/
lemma inParent_eq_write_iff {node : Node} (hp : a.get? p = some node) (hc : a.Child p m) :
    IdentifierUse.inParent node m = .write ↔ a.WrittenBy p m := by
  have hchildren : a.children p = node.payload.children := by
    simp [Arena.children, hp, Node.children]
  have hbinary : ∀ {d}, a.binary? p = some d ↔ node.payload = .binary d := by
    intro d
    rw [Arena.binary?, Arena.holds?_eq_some_iff, Arena.payload?, hp, Option.map_some,
      Option.some.injEq]
    rfl
  have hunary : ∀ {d}, a.unary? p = some d ↔ node.payload = .unary d := by
    intro d
    rw [Arena.unary?, Arena.holds?_eq_some_iff, Arena.payload?, hp, Option.map_some,
      Option.some.injEq]
    rfl
  constructor
  · intro h
    unfold IdentifierUse.inParent at h
    split at h
    · rename_i d hd
      split_ifs at h with hname hkind
      subst hname
      exact .declared hp hd (by simpa using hkind)
    -- Classes, interfaces, functions and accesses write to none of their children.
    · split_ifs at h
    · split_ifs at h
    · split_ifs at h
    · split_ifs at h
    · rename_i d hd
      split_ifs at h with hleft
      simp only [Bool.and_eq_true, decide_eq_true_eq] at hleft
      exact hleft.1 ▸ .assigned (hbinary.2 hd) hleft.2
    · rename_i d hd
      split_ifs at h with hop
      -- The operand is the only child, so the place of the child need not be looked at.
      have hm : m = d.operand := by
        rw [Arena.Child, hchildren, hd] at hc
        simpa [Payload.children] using hc
      exact hm ▸ .stepped (hunary.2 hd) (by simpa using hop)
    · cases h
  · intro h
    cases h with
    | declared hp' hd hkind =>
      rw [hp] at hp'
      cases hp'
      rw [IdentifierUse.inParent, hd]
      rcases hkind with hk | hk <;> simp [hk]
    | assigned hb hop =>
      rw [IdentifierUse.inParent, hbinary.1 hb]
      simp [hop]
    | stepped hu hop =>
      rw [IdentifierUse.inParent, hunary.1 hu]
      rcases hop with hop | hop <;> simp [hop]

/-- In a tree whose nodes know their parents, an identifier is a write when its parent writes. -/
lemma of_eq_write_iff (ht : a.IsTree root) (ha : a.ParentsAgree root) (hp : a.Reaches root p)
    (hc : a.Child p m) (hm : (a.get? m).isSome) :
    IdentifierUse.of a m = .write ↔ a.Written root m := by
  obtain ⟨node, hnode⟩ := Option.isSome_iff_exists.1 (Arena.isSome_of_child hc)
  have hof : IdentifierUse.of a m = IdentifierUse.inParent node m := by
    rw [IdentifierUse.of, ha p m hp hc hm]
    simp [hnode]
  rw [hof, inParent_eq_write_iff hnode hc]
  constructor
  · intro h
    exact ⟨p, hp, h⟩
  · rintro ⟨q, hq, h⟩
    exact ht.unique q p m hq hp (child_of_writtenBy h) hc ▸ h

lemma isSome_of_identifier? (h : a.identifier? m = some name) : (a.get? m).isSome := by
  obtain ⟨node, hnode, -⟩ := Option.map_eq_some_iff.1 (Arena.holds?_eq_some_iff.1 h)
  rw [hnode]
  rfl

/-- A name is written within a range when the tree writes to an identifier of that name there. -/
lemma writesWithin_build_iff (ht : a.IsTree root) (ha : a.ParentsAgree root)
    (hroot : a.identifier? root = none) (name : String) (range : Span) :
    (build a root).writesWithin name range = true ↔
      ∃ m, a.WrittenAs root name m ∧ range.contains (a.span m) = true := by
  rw [writesWithin_eq, listed_build a root name (by decide), List.any_map, List.any_eq_true]
  simp only [List.mem_filter, decide_eq_true_eq, Function.comp_apply, mem_identifiers ht]
  constructor
  · rintro ⟨m, ⟨⟨hm, -⟩, hname, huse⟩, hrange⟩
    -- The root has no parent in the tree, but it is no identifier either.
    rcases Relation.ReflTransGen.cases_tail hm with rfl | ⟨p, hp, hpm⟩
    · rw [hroot] at hname
      cases hname
    · have hin := isSome_of_identifier? hname
      exact ⟨m, ⟨hname, (of_eq_write_iff ht ha hp hpm hin).1 huse⟩, hrange⟩
  · rintro ⟨m, ⟨hname, p, hp, hw⟩, hrange⟩
    have hpm := child_of_writtenBy hw
    have huse := (of_eq_write_iff ht ha hp hpm (isSome_of_identifier? hname)).2 ⟨p, hp, hw⟩
    exact ⟨m, ⟨⟨hp.child hpm, by simp [hname]⟩, hname, huse⟩, hrange⟩

end UsageIndex

end Gls
