/-
# The index divides the identifiers of a tree

An identifier of a tree is a write, a read, or a name, as its place in its parent has it.  The index
has each identifier once, among the writes or the reads of the text it carries; only names are left
out, and nothing else is listed.  The lists are in pre-order.  The index is also what the search
with a stack gathers.
-/
import Gls.Proofs.Usage.Writes
import Mathlib.Data.List.Count

namespace Gls

namespace Arena

variable {a : Arena} {root n m p : NodeId}

/-- Below the root, links to parents and links to children agree. -/
structure LinksAgree (a : Arena) (root : NodeId) : Prop where
  down : a.ParentsAgree root
  up : ∀ m p, a.Reaches root m → a.parent? m = some p → (a.get? p).isSome → a.Child p m

/-- The child is the name of what `p` declares, other than a variable or a parameter, or of the
property that `p` accesses. -/
inductive NamedBy (a : Arena) (p : NodeId) : NodeId → Prop
  | value {d : Payload.ValueDecl} : a.payload? p = some (.valueDecl d) →
      a.kind? p ≠ some .variableDeclaration → a.kind? p ≠ some .parameter → NamedBy a p d.name
  | class_ {d : Payload.Class} {n : NodeId} : a.payload? p = some (.class_ d) →
      d.name = some n → NamedBy a p n
  | interface {d : Payload.Interface} : a.payload? p = some (.interface d) → NamedBy a p d.name
  | function {d : Payload.Function} {n : NodeId} : a.payload? p = some (.function d) →
      d.name = some n → NamedBy a p n
  | property {d : Payload.Access} : a.payload? p = some (.access d) →
      a.kind? p = some .propertyAccessExpression → NamedBy a p d.nameOrArgument

/-- The parent of `m` writes to the variable that `m` names. -/
def IsWrite (a : Arena) (m : NodeId) : Prop := ∃ p, a.parent? m = some p ∧ a.WrittenBy p m

/-- `m` names what its parent declares or accesses, and that is no variable. -/
def IsName (a : Arena) (m : NodeId) : Prop := ∃ p, a.parent? m = some p ∧ a.NamedBy p m

end Arena

namespace UsageIndex

variable {a : Arena} {root n m p : NodeId} {name : String} {use : IdentifierUse}

/-! ### What an identifier does -/

/-- The place of a child in its parent shows whether it is a name. -/
lemma inParent_eq_name_iff {node : Node} (hp : a.get? p = some node) :
    IdentifierUse.inParent node m = .name ↔ a.NamedBy p m := by
  have hpayload : a.payload? p = some node.payload := by simp [Arena.payload?, hp]
  have hkind : a.kind? p = some node.kind := by simp [Arena.kind?, hp]
  constructor
  · intro h
    unfold IdentifierUse.inParent at h
    split at h
    · rename_i d hd
      split_ifs at h with hname hvariable
      simp only [Bool.or_eq_true, beq_iff_eq, not_or] at hvariable
      exact hname ▸ .value (hd ▸ hpayload) (by simp [hkind, hvariable]) (by simp [hkind, hvariable])
    · rename_i d hd
      split_ifs at h with hname
      exact .class_ (hd ▸ hpayload) hname
    · rename_i d hd
      split_ifs at h with hname
      exact hname ▸ .interface (hd ▸ hpayload)
    · rename_i d hd
      split_ifs at h with hname
      exact .function (hd ▸ hpayload) hname
    · rename_i d hd
      split_ifs at h with hname
      simp only [Bool.and_eq_true, beq_iff_eq] at hname
      exact hname.2 ▸ .property (hd ▸ hpayload) (hkind.trans (congrArg some hname.1))
    -- Operations have no names, nor has anything else.
    · split_ifs at h
    · split_ifs at h
    · cases h
  · intro h
    cases h with
    | value hd hvariable hparameter =>
      rw [hpayload, Option.some.injEq] at hd
      rw [hkind, ne_eq, Option.some.injEq] at hvariable hparameter
      simp [IdentifierUse.inParent, hd, hvariable, hparameter]
    | class_ hd hname | function hd hname =>
      rw [hpayload, Option.some.injEq] at hd
      simp [IdentifierUse.inParent, hd, hname]
    | interface hd =>
      rw [hpayload, Option.some.injEq] at hd
      simp [IdentifierUse.inParent, hd]
    | property hd hproperty =>
      rw [hpayload, Option.some.injEq] at hd
      rw [hkind, Option.some.injEq] at hproperty
      simp [IdentifierUse.inParent, hd, hproperty]

/-- What is more than a read shows in the parent. -/
lemma of_eq_iff (huse : use ≠ .read) : IdentifierUse.of a m = use ↔
    ∃ p node, a.parent? m = some p ∧ a.get? p = some node ∧
      IdentifierUse.inParent node m = use := by
  unfold IdentifierUse.of
  cases hp : a.parent? m with
  | none => simp [huse.symm]
  | some p => cases hn : a.get? p <;> simp [hn, huse.symm]

lemma of_eq_name_iff : IdentifierUse.of a m = .name ↔ a.IsName m := by
  rw [of_eq_iff (by decide)]
  constructor
  · rintro ⟨p, node, hp, hn, h⟩
    exact ⟨p, hp, (inParent_eq_name_iff hn).1 h⟩
  · rintro ⟨p, hp, h⟩
    have hpayload : ∃ payload, a.payload? p = some payload := by cases h <;> exact ⟨_, ‹_›⟩
    obtain ⟨node, hn, -⟩ := Option.map_eq_some_iff.1 hpayload.choose_spec
    exact ⟨p, node, hp, hn, (inParent_eq_name_iff hn).2 h⟩

lemma of_eq_isWrite_iff (hl : a.LinksAgree root) (hm : a.Reaches root m) :
    IdentifierUse.of a m = .write ↔ a.IsWrite m := by
  rw [of_eq_iff (by decide)]
  constructor
  · rintro ⟨p, node, hp, hn, h⟩
    exact ⟨p, hp, (inParent_eq_write_iff hn (hl.up m p hm hp (by simp [hn]))).1 h⟩
  · rintro ⟨p, hp, h⟩
    have hc := child_of_writtenBy h
    obtain ⟨node, hn⟩ := Option.isSome_iff_exists.1 (Arena.isSome_of_child hc)
    exact ⟨p, node, hp, hn, (inParent_eq_write_iff hn hc).2 h⟩

lemma of_eq_read_iff (hl : a.LinksAgree root) (hm : a.Reaches root m) :
    IdentifierUse.of a m = .read ↔ ¬ a.IsWrite m ∧ ¬ a.IsName m := by
  rw [← of_eq_isWrite_iff hl hm, ← of_eq_name_iff]
  cases IdentifierUse.of a m <;> simp

/-! ### Lists in pre-order -/

lemma identifiers_eq_filter (a : Arena) (root : NodeId) :
    identifiers a root = (a.preorder root).filter fun n => (a.identifier? n).isSome := by
  rw [identifiers, Arena.frontier, Arena.frontierWithin_eq_filter children_of_isIdentifier]
  refine List.filter_congr fun n _ => ?_
  rw [Bool.eq_iff_iff, Option.any_eq_true, exists_isIdentifier_iff]

/-- The nodes listed for a name and a use are taken from the tree in pre-order. -/
lemma map_node_listed_build (a : Arena) (root : NodeId) (name : String) (huse : use ≠ .name) :
    ((build a root).listed name use).map Occurrence.node
      = (a.preorder root).filter fun n =>
          a.identifier? n = some name ∧ IdentifierUse.of a n = use := by
  have hnode : (Occurrence.node ∘ fun n => ⟨n, a.span n⟩) = id := rfl
  rw [listed_build a root name huse, List.map_map, hnode, List.map_id, identifiers_eq_filter,
    List.filter_filter]
  refine List.filter_congr fun n _ => ?_
  cases h : a.identifier? n <;> simp

lemma mem_listed_build (ht : a.IsTree root) (huse : use ≠ .name) :
    m ∈ ((build a root).listed name use).map Occurrence.node ↔
      a.Reaches root m ∧ a.identifier? m = some name ∧ IdentifierUse.of a m = use := by
  rw [map_node_listed_build a root name huse, List.mem_filter, ht.mem_preorder, decide_eq_true_eq]

lemma nodup_listed_build (ht : a.IsTree root) (name : String) (huse : use ≠ .name) :
    (((build a root).listed name use).map Occurrence.node).Nodup := by
  rw [map_node_listed_build a root name huse]
  exact ht.nodup_preorder.filter _

/-! ### All lists of an index -/

/-- What an index lists for all names together. -/
def occurrences (index : UsageIndex) : List Occurrence :=
  index.usages.entries.flatMap fun e => e.2.reads ++ e.2.writes

lemma occurrences_eq (index : UsageIndex) :
    index.occurrences = index.usages.keys.flatMap fun name =>
      index.listed name .read ++ index.listed name .write := by
  rw [occurrences, OrderedMap.keys, List.flatMap_map]
  refine List.flatMap_congr fun e he => ?_
  have hget : index.usage? e.1 = some e.2 := OrderedMap.get?_eq_some_iff.2 he
  simp [listed, hget]

lemma mem_keys_of_mem_listed {index : UsageIndex} {o : Occurrence} (h : o ∈ index.listed name use) :
    name ∈ index.usages.keys := by
  rw [← OrderedMap.contains_iff_mem_keys, OrderedMap.contains]
  cases hget : index.usages.get? name with
  | some _ => rfl
  | none => cases use <;> simp [listed, usage?, hget] at h

lemma mem_occurrences_iff {index : UsageIndex} {o : Occurrence} :
    o ∈ index.occurrences ↔
      ∃ name, o ∈ index.listed name .read ∨ o ∈ index.listed name .write := by
  simp only [occurrences_eq, List.mem_flatMap, List.mem_append]
  refine ⟨fun ⟨name, _, h⟩ => ⟨name, h⟩, fun ⟨name, h⟩ => ⟨name, ?_, h⟩⟩
  exact h.elim mem_keys_of_mem_listed mem_keys_of_mem_listed

lemma mem_occurrences_build (ht : a.IsTree root) :
    m ∈ (build a root).occurrences.map Occurrence.node ↔
      a.Reaches root m ∧ (a.identifier? m).isSome ∧ ¬ a.IsName m := by
  have hlisted : m ∈ (build a root).occurrences.map Occurrence.node ↔
      ∃ name, m ∈ ((build a root).listed name .read).map Occurrence.node ∨
        m ∈ ((build a root).listed name .write).map Occurrence.node := by
    simp only [List.mem_map, mem_occurrences_iff]
    grind
  simp only [hlisted, mem_listed_build ht (show IdentifierUse.read ≠ .name by decide),
    mem_listed_build ht (show IdentifierUse.write ≠ .name by decide), ← of_eq_name_iff,
    Option.isSome_iff_exists]
  cases IdentifierUse.of a m <;> simp

/-- No identifier is listed twice, under one name or under two. -/
lemma nodup_occurrences_build (ht : a.IsTree root) :
    ((build a root).occurrences.map Occurrence.node).Nodup := by
  rw [occurrences_eq, List.map_flatMap, List.nodup_flatMap]
  refine ⟨fun name _ => ?_, (build a root).usages.nodup.imp fun {name name'} hne m hm hm' => ?_⟩
  · rw [List.map_append]
    refine (nodup_listed_build ht name (by decide)).append
      (nodup_listed_build ht name (by decide)) fun m hr hw => ?_
    have hr := ((mem_listed_build ht (by decide)).1 hr).2.2
    have hw := ((mem_listed_build ht (by decide)).1 hw).2.2
    rw [hr] at hw
    cases hw
  · have hname : ∀ {name}, m ∈ ((build a root).listed name .read ++
        (build a root).listed name .write).map Occurrence.node → a.identifier? m = some name := by
      intro name h
      rw [List.map_append, List.mem_append] at h
      exact h.elim (fun h => ((mem_listed_build ht (by decide)).1 h).2.1)
        fun h => ((mem_listed_build ht (by decide)).1 h).2.1
    have hm := hname hm
    rw [hname hm'] at hm
    exact hne (Option.some.inj hm).symm

/-! ### Names in the index -/

lemma isSome_usage?_record (index : UsageIndex) (name' : String) (use : IdentifierUse)
    (o : Occurrence) (name : String) : ((index.record name' use o).usage? name).isSome ↔
      (index.usage? name).isSome ∨ name' = name ∧ use ≠ .name := by
  by_cases hname : name' = name <;> cases use <;>
    simp_all [record, usage?, OrderedMap.get?_insert]

lemma isSome_usage?_foldl (ns : List NodeId) (index : UsageIndex) :
    ((ns.foldl (step a) index).usage? name).isSome ↔ (index.usage? name).isSome ∨
      ∃ n ∈ ns, a.identifier? n = some name ∧ IdentifierUse.of a n ≠ .name := by
  induction ns generalizing index with
  | nil => simp
  | cons n ns ih =>
    have hstep : ((step a index n).usage? name).isSome ↔ (index.usage? name).isSome ∨
        a.identifier? n = some name ∧ IdentifierUse.of a n ≠ .name := by
      unfold step
      cases a.identifier? n with
      | none => simp
      | some name' => simpa using isSome_usage?_record index name' _ _ name
    rw [List.foldl_cons, ih, hstep, List.exists_mem_cons_iff, or_assoc]

/-- A name is in the index when some identifier that carries it is listed. -/
lemma isSome_usage?_build (ht : a.IsTree root) : ((build a root).usage? name).isSome ↔
    ∃ m, a.Reaches root m ∧ a.identifier? m = some name ∧ ¬ a.IsName m := by
  have hempty : ({} : UsageIndex).usage? name = none := rfl
  rw [build_eq_foldl, isSome_usage?_foldl, hempty]
  simp only [mem_identifiers ht, Option.isSome_none, Bool.false_eq_true, false_or, ne_eq,
    of_eq_name_iff]
  refine exists_congr fun m => ?_
  cases a.identifier? m <;> simp

/-! ### The partition -/

/-- The index divides the identifiers of the tree below the root into reads and writes, each under
the text it carries, and leaves out names. -/
structure Divides (index : UsageIndex) (a : Arena) (root : NodeId) : Prop where
  once : ∀ m, a.Reaches root m → (a.identifier? m).isSome → ¬ a.IsName m →
    (index.occurrences.map Occurrence.node).count m = 1
  names : ∀ m, a.IsName m → m ∉ index.occurrences.map Occurrence.node
  only : ∀ o ∈ index.occurrences, a.Reaches root o.node ∧ (a.identifier? o.node).isSome ∧
    o.span = a.span o.node
  writes : ∀ name m, m ∈ (index.listed name .write).map Occurrence.node ↔
    a.Reaches root m ∧ a.identifier? m = some name ∧ a.IsWrite m
  reads : ∀ name m, m ∈ (index.listed name .read).map Occurrence.node ↔
    a.Reaches root m ∧ a.identifier? m = some name ∧ ¬ a.IsWrite m ∧ ¬ a.IsName m
  known : ∀ name, (index.usage? name).isSome ↔
    ∃ m, a.Reaches root m ∧ a.identifier? m = some name ∧ ¬ a.IsName m
  ordered : ∀ name use, ((index.listed name use).map Occurrence.node).Sublist (a.preorder root)

lemma span_of_mem_occurrences_build {o : Occurrence} (h : o ∈ (build a root).occurrences) :
    o.span = a.span o.node := by
  have hspan : ∀ {name use}, use ≠ .name → o ∈ (build a root).listed name use →
      o.span = a.span o.node := by
    intro name use huse h
    rw [listed_build a root name huse] at h
    obtain ⟨n, -, rfl⟩ := List.mem_map.1 h
    rfl
  obtain ⟨name, h⟩ := mem_occurrences_iff.1 h
  exact h.elim (hspan (by decide)) (hspan (by decide))

end UsageIndex

open UsageIndex

/-- The index of a tree whose links agree has every identifier once, as a write or as a read of its
text, except for names, and has nothing else; its lists are in pre-order.  A search with a stack
ends with it. -/
theorem index_divides_identifiers {a : Arena} {root : NodeId} (ht : a.IsTree root)
    (hl : a.LinksAgree root) :
    Divides (build a root) a root ∧
    Arena.Search.Steps a isIdentifier (UsageIndex.step a) ⟨[root], {}⟩ ⟨[], build a root⟩ := by
  refine ⟨?_, Arena.Search.steps_frontier ht.within_size ({} : UsageIndex)⟩
  constructor
  case once =>
    intro m hm hid hname
    exact List.count_eq_one_of_mem (nodup_occurrences_build ht)
      ((mem_occurrences_build ht).2 ⟨hm, hid, hname⟩)
  case names =>
    intro m hname h
    exact ((mem_occurrences_build ht).1 h).2.2 hname
  case only =>
    intro o ho
    obtain ⟨hm, hid, -⟩ := (mem_occurrences_build ht).1 (List.mem_map_of_mem ho)
    exact ⟨hm, hid, span_of_mem_occurrences_build ho⟩
  case writes =>
    intro name m
    rw [mem_listed_build ht (by decide)]
    exact and_congr_right fun hm => and_congr_right fun _ => of_eq_isWrite_iff hl hm
  case reads =>
    intro name m
    rw [mem_listed_build ht (by decide)]
    exact and_congr_right fun hm => and_congr_right fun _ => of_eq_read_iff hl hm
  case known =>
    exact fun name => isSome_usage?_build ht
  case ordered =>
    intro name use
    cases use with
    | name => exact List.nil_sublist _
    | read | write =>
      rw [map_node_listed_build a root name (by decide)]
      exact List.filter_sublist

/-- The tree of the assignment `y = x.y`. -/
def memberArena : Arena where
  sourceText := "y = x.y"
  nodes := #[
    { kind := .identifier, pos := 0, stop := 1, parent := some ⟨4⟩, payload := .identifier "y" },
    { kind := .identifier, pos := 4, stop := 5, parent := some ⟨3⟩, payload := .identifier "x" },
    { kind := .identifier, pos := 6, stop := 7, parent := some ⟨3⟩, payload := .identifier "y" },
    { kind := .propertyAccessExpression, pos := 4, stop := 7, parent := some ⟨4⟩,
      payload := .access ⟨⟨1⟩, ⟨2⟩⟩ },
    { kind := .binaryExpression, pos := 0, stop := 7,
      payload := .binary ⟨⟨0⟩, .equalsToken, ⟨3⟩⟩ }]

theorem member_name_left_out :
    memberArena.IsTree ⟨4⟩ ∧ memberArena.LinksAgree ⟨4⟩ ∧
    ⟨0⟩ ∈ ((build memberArena ⟨4⟩).listed "y" .write).map Occurrence.node ∧
    ⟨1⟩ ∈ ((build memberArena ⟨4⟩).listed "x" .read).map Occurrence.node ∧
    ((build memberArena ⟨4⟩).occurrences.map Occurrence.node).count ⟨0⟩ = 1 ∧
    ⟨2⟩ ∉ (build memberArena ⟨4⟩).occurrences.map Occurrence.node := by
  let places : List NodeId := [⟨0⟩, ⟨1⟩, ⟨2⟩, ⟨3⟩, ⟨4⟩]
  have hplaces : ∀ p ∈ places, ∀ c ∈ memberArena.children p, c ∈ places := of_decide_eq_true rfl
  have ht : memberArena.IsTree ⟨4⟩ :=
    .of_closed (by decide) hplaces (of_decide_eq_true rfl) (of_decide_eq_true rfl)
  have hmem : ∀ m, memberArena.Reaches ⟨4⟩ m → m ∈ places := fun m hm =>
    hm.mem_of_closed (by decide) hplaces
  have hdown : ∀ p ∈ places, ∀ c ∈ memberArena.children p, memberArena.parent? c = some p :=
    of_decide_eq_true rfl
  have hup : ∀ m ∈ places, ∀ p ∈ memberArena.parent? m, m ∈ memberArena.children p :=
    of_decide_eq_true rfl
  have hl : memberArena.LinksAgree ⟨4⟩ :=
    ⟨fun p c hp hc _ => hdown p (hmem p hp) c hc, fun m p hm hp _ => hup m (hmem m hm) p hp⟩
  obtain ⟨hdivides, -⟩ := index_divides_identifiers ht hl
  have hassigned : memberArena.IsWrite ⟨0⟩ :=
    ⟨⟨4⟩, rfl, .assigned (d := ⟨⟨0⟩, .equalsToken, ⟨3⟩⟩) rfl rfl⟩
  have haccess : memberArena.payload? ⟨3⟩ = some (.access ⟨⟨1⟩, ⟨2⟩⟩) := rfl
  have hmember : memberArena.IsName ⟨2⟩ :=
    ⟨⟨3⟩, rfl, .property (d := ⟨⟨1⟩, ⟨2⟩⟩) haccess rfl⟩
  have htarget : memberArena.Reaches ⟨4⟩ ⟨0⟩ := .of_child List.mem_cons_self
  have hexpression : memberArena.Reaches ⟨4⟩ ⟨1⟩ :=
    (Arena.Reaches.of_child (c := ⟨3⟩) (List.mem_of_elem_eq_true rfl)).child List.mem_cons_self
  have hnoName : ¬ memberArena.IsName ⟨0⟩ := fun h => by cases of_eq_name_iff.2 h
  refine ⟨ht, hl, ?_, ?_, hdivides.once _ htarget rfl hnoName, hdivides.names _ hmember⟩
  · exact (hdivides.writes _ _).2 ⟨htarget, rfl, hassigned⟩
  · exact (hdivides.reads _ _).2 ⟨hexpression, rfl, (of_eq_read_iff hl hexpression).1 rfl⟩

end Gls
