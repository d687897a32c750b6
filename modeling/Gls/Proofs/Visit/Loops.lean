/-
# Loops that count

What it takes for a loop to count, and where its parts lie in the tree.
-/
import Gls.Proofs.Tree.Shape
import Gls.Traversal.Statement

namespace Gls.Visit

/-- A loop that counts: it declares `name` with a start, compares it with a stop, and adds one to
it. -/
structure Counts (a : Arena) (d : Payload.Loop) (loop : CountingLoop) (name : String) : Prop where
  declares : ∃ i decl v, d.initializer = some i ∧ a.list? i = some [decl] ∧
    a.valueDecl? decl = some v ∧ v.name = loop.counter ∧ v.initializer = some loop.start
  named : a.identifier? loop.counter = some name
  compares : ∃ c b, d.condition = some c ∧ a.binary? c = some b ∧ b.operator = .lessThanToken ∧
    a.identifier? b.left = some name ∧ b.right = loop.stop
  increments : ∃ i, d.incrementor = some i ∧ addsOne a i name = true

variable {a : Arena} {d : Payload.Loop} {loop : CountingLoop}

lemma exists_counts (h : countingLoop? a d = some loop) : ∃ name, Counts a d loop name := by
  simp only [countingLoop?, Option.bind_eq_bind, Option.bind_eq_some_iff] at h
  obtain ⟨i, hi, elements, hlist, h⟩ := h
  split at h
  · rename_i decl
    simp only [Option.bind_eq_some_iff] at h
    obtain ⟨v, hv, name, hname, start, hstart, c, hc, b, hb, inc, hinc, h⟩ := h
    split_ifs at h with hif
    cases h
    exact ⟨name, ⟨i, decl, v, hi, hlist, hv, rfl, hstart⟩, hname,
      ⟨c, b, hc, hb, hif.1, hif.2.1, rfl⟩, ⟨inc, hinc, hif.2.2⟩⟩
  · cases h

namespace Counts

variable {name : String} (h : Counts a d loop name)
include h

/-- The start lies below the initializer. -/
lemma reaches_start : ∃ i, d.initializer = some i ∧ a.Reaches i loop.start := by
  obtain ⟨i, decl, v, hi, hlist, hv, -, hstart⟩ := h.declares
  have hdecl : a.Child i decl := by
    rw [Arena.Child, Arena.children_of_list? hlist]
    exact List.mem_singleton_self decl
  have hs : a.Child decl loop.start := by
    rw [Arena.Child, Arena.children_of_valueDecl? hv]
    simp [Payload.children, hstart]
  exact ⟨i, hi, (Arena.Reaches.of_child hdecl).child hs⟩

/-- The stop lies below the condition. -/
lemma reaches_stop : ∃ c, d.condition = some c ∧ a.Reaches c loop.stop := by
  obtain ⟨c, b, hc, hb, -, -, hstop⟩ := h.compares
  have hs : a.Child c loop.stop := by
    rw [Arena.Child, Arena.children_of_binary? hb]
    simp [Payload.children, hstop]
  exact ⟨c, hc, .of_child hs⟩

end Counts

end Gls.Visit
