/-
# Ancestors

The search for an ancestor climbs from parent to parent, until it comes to a node of the kind that
it looks for or to one without a parent.  Nothing bounds the climb but the parents themselves: when
they lead in a circle, it goes on for ever.

Parents follow the child links when every parent names its child.  If child links form no circle,
then parents form none either, and every climb ends.  If moreover each child knows the one node that
names it, the climb comes to all nodes above, and it ends at the nearest of the kind.
-/
import Gls.Proofs.Tree.Shape

namespace Gls

namespace Arena

/-- The climb that has come to a node, or past the top, ends at a node of the kind, or at none. -/
inductive Climbs (a : Arena) (kind : Kind) : Option NodeId → Option NodeId → Prop where
  | top : Climbs a kind none none
  | found {p : NodeId} (h : a.kind? p = some kind) : Climbs a kind (some p) (some p)
  | up {p : NodeId} {r : Option NodeId} (h : a.kind? p ≠ some kind)
      (hr : Climbs a kind (a.parent? p) r) : Climbs a kind (some p) r

/-- The node `m` lies above `n`. -/
def Above (a : Arena) (m n : NodeId) : Prop := Relation.TransGen a.Child m n

/-- Of all nodes of the kind above `n`, the node `m` is the nearest: the others lie above it. -/
structure NearestAbove (a : Arena) (kind : Kind) (n m : NodeId) : Prop where
  above : a.Above m n
  suits : a.kind? m = some kind
  nearest : ∀ k, a.Above k n → a.kind? k = some kind → a.Reaches k m

/-- Every parent names the node whose parent it is. -/
def ParentsFollow (a : Arena) : Prop := ∀ n p, a.parent? n = some p → a.Child p n

/-- No node is its own parent, nor the parent of its parent, and so on. -/
def ParentsAcyclic (a : Arena) : Prop :=
  ∀ n, ¬ Relation.TransGen (fun m p => a.parent? m = some p) n n

variable {a : Arena} {kind : Kind} {n m p : NodeId} {r : Option NodeId} {fuel : Nat}

/-! ### Climbs end -/

/-- A climb has one end. -/
lemma Climbs.unique {x r' : Option NodeId} (h : a.Climbs kind x r) (h' : a.Climbs kind x r') :
    r = r' := by
  induction h with
  | top => cases h'; rfl
  | found hk =>
    cases h' with
    | found => rfl
    | up hk' => exact absurd hk hk'
  | up hk _ ih =>
    cases h' with
    | found hk' => exact absurd hk' hk
    | up _ hr' => exact ih hr'

/-- A climb that has come among nodes of other kinds, each with a parent among them, never ends. -/
lemma not_climbs {S : List NodeId} (hkind : ∀ q ∈ S, a.kind? q ≠ some kind)
    (hparent : ∀ q ∈ S, ∃ q' ∈ S, a.parent? q = some q') (hp : p ∈ S) :
    ¬ a.Climbs kind (some p) r := by
  intro h
  generalize hx : some p = x at h
  induction h generalizing p with
  | top => cases hx
  | found hk =>
    obtain rfl := Option.some.inj hx
    exact hkind _ hp hk
  | up _ _ ih =>
    obtain rfl := Option.some.inj hx
    obtain ⟨q, hq, hpq⟩ := hparent _ hp
    exact ih hq hpq.symm

/-- The climb ends, when no way up has more nodes than are looked at. -/
lemma climbs_ancestorWithin?
    (h : ∀ path, List.IsChain (fun m p => a.parent? m = some p) (n :: path) → path.length < fuel) :
    a.Climbs kind (a.parent? n) (a.ancestorWithin? kind fuel n) := by
  induction fuel generalizing n with
  | zero => exact absurd (h [] (List.isChain_singleton n)) (Nat.not_lt_zero _)
  | succ fuel ih =>
    rw [ancestorWithin?]
    cases hp : a.parent? n with
    | none => exact .top
    | some p =>
      dsimp only
      split_ifs with hk
      · exact .found hk
      · refine .up hk (ih fun path hpath => ?_)
        have := h (p :: path) (List.isChain_cons_cons.2 ⟨hp, hpath⟩)
        simpa using this

/-- A way up is a way down backwards. -/
lemma Acyclic.length_lt_of_isChain (h : a.Acyclic) {path : List NodeId}
    (hpath : List.IsChain (fun m p => a.Child p m) (n :: path)) :
    path.length < a.nodes.size + 1 := by
  rw [← List.isChain_reverse] at hpath
  generalize hrev : (n :: path).reverse = rev at hpath
  have hlength : rev.length = path.length + 1 := by rw [← hrev]; simp
  cases rev with
  | nil => simp at hlength
  | cons top rest =>
    have := h.within_size top rest hpath
    simp only [List.length_cons] at hlength
    omega

namespace ParentsFollow

variable (hf : a.ParentsFollow) (hacyclic : a.Acyclic)
include hf hacyclic

lemma acyclic : a.ParentsAcyclic := by
  intro n hn
  have hup : Relation.TransGen (Function.swap a.Child) n n := Relation.TransGen.mono hf n n hn
  exact hacyclic n (Relation.transGen_swap.1 hup)

lemma climbs (n : NodeId) (kind : Kind) : a.Climbs kind (a.parent? n) (a.ancestor? n kind) :=
  climbs_ancestorWithin? fun _ hpath =>
    hacyclic.length_lt_of_isChain (hpath.imp fun m p hp => hf m p hp)

/-- Every climb ends, with what the search for an ancestor gives. -/
lemma climbs_iff : a.Climbs kind (a.parent? n) r ↔ r = a.ancestor? n kind :=
  ⟨fun h => h.unique (hf.climbs hacyclic n kind), fun h => h ▸ hf.climbs hacyclic n kind⟩

end ParentsFollow

/-! ### The nearest ancestor -/

/-- What lies above a node with one parent is the parent or lies above it. -/
lemma above_iff (hparent : ∀ q, a.Child q n ↔ a.parent? n = some q) :
    a.Above m n ↔ ∃ p, a.parent? n = some p ∧ (m = p ∨ a.Above m p) := by
  rw [Above, Relation.TransGen.tail'_iff]
  simp only [hparent, Relation.reflTransGen_iff_eq_or_transGen, Above]
  grind

variable (hparents : ∀ n p, a.Child p n ↔ a.parent? n = some p)
include hparents

/-- What a climb ends at. -/
lemma Climbs.ends (h : a.Climbs kind (a.parent? n) r) :
    (∀ m, r = some m → a.NearestAbove kind n m) ∧
    (r = none → ∀ m, a.Above m n → a.kind? m ≠ some kind) := by
  generalize hx : a.parent? n = x at h
  induction h generalizing n with
  | top =>
    refine ⟨fun m hm => (nomatch hm), fun _ m hm => ?_⟩
    obtain ⟨p, hp, -⟩ := (above_iff (hparents n)).1 hm
    rw [hx] at hp
    cases hp
  | @found p hk =>
    refine ⟨?_, fun hr => (nomatch hr)⟩
    rintro _ ⟨⟩
    refine ⟨(above_iff (hparents n)).2 ⟨p, hx, .inl rfl⟩, hk, fun k hkn _ => ?_⟩
    obtain ⟨q, hq, hkq⟩ := (above_iff (hparents n)).1 hkn
    obtain rfl := Option.some.inj (hx.symm.trans hq)
    exact hkq.elim (fun h => h ▸ .refl _) Relation.TransGen.to_reflTransGen
  | @up p r hk _ ih =>
    obtain ⟨hsome, hnone⟩ := ih rfl
    -- The parent is passed, so whatever counts for the node lies above its parent.
    have habove : ∀ m, a.Above m n → a.kind? m = some kind → a.Above m p := by
      intro m hm hkm
      obtain ⟨q, hq, hmq⟩ := (above_iff (hparents n)).1 hm
      obtain rfl := Option.some.inj (hx.symm.trans hq)
      exact hmq.resolve_left fun h => hk (h ▸ hkm)
    refine ⟨fun m hm => ?_, fun hr m hm hkm => hnone hr m (habove m hm hkm) hkm⟩
    obtain ⟨hmp, hkm, hnearest⟩ := hsome m hm
    exact ⟨(above_iff (hparents n)).2 ⟨p, hx, .inr hmp⟩, hkm,
      fun k hkn hkk => hnearest k (habove k hkn hkk) hkk⟩

/-- The search finds the nearest ancestor of the kind, and finds none only if there is none. -/
lemma ancestor?_iff (hacyclic : a.Acyclic) (n : NodeId) (kind : Kind) :
    (∀ m, a.ancestor? n kind = some m ↔ a.NearestAbove kind n m) ∧
    (a.ancestor? n kind = none ↔ ∀ m, a.Above m n → a.kind? m ≠ some kind) := by
  have hf : a.ParentsFollow := fun m p hp => (hparents m p).2 hp
  obtain ⟨hsome, hnone⟩ := (hf.climbs hacyclic n kind).ends hparents
  constructor
  · refine fun m => ⟨hsome m, fun hm => ?_⟩
    cases hr : a.ancestor? n kind with
    | none => exact absurd hm.suits (hnone hr m hm.above)
    | some k =>
      have hk := hsome k hr
      rw [hacyclic.eq_of_reaches (hm.nearest k hk.above hk.suits)
        (hk.nearest m hm.above hm.suits)]
  · refine ⟨hnone, fun h => ?_⟩
    by_contra hr
    obtain ⟨m, hm⟩ := Option.ne_none_iff_exists'.1 hr
    exact h m (hsome m hm).above (hsome m hm).suits

end Arena

end Gls
