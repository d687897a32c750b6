/-
# Rules for visits

A visit is run from a state; it ends with a result or an error, and with the state it has reached.
This file says once how the runs of compound visits are made of the runs of their parts.  Nothing
after it looks into the monad.

On top of these equations stands a first calculus.  `Ensures x Q` says that, whatever the state,
the results of `x` satisfy `Q`, and that the errors of `x` come from the tree: no visit ever fails
because lines cannot be indented.
-/
import Gls.Transform
import Mathlib.Tactic.Common

namespace Gls

variable {α β : Type}

namespace Visit

/-! ### Runs -/

/-- How a visit ends: with a result or an error, in the state it has reached. -/
def outcome (x : Visit α) (s : Traversal) : Except TransformError α × Traversal := x.run s

@[simp] lemma outcome_pure (a : α) (s : Traversal) : (pure a : Visit α).outcome s = (.ok a, s) := rfl

@[simp] lemma outcome_throw (e : TransformError) (s : Traversal) :
    (throw e : Visit α).outcome s = (.error e, s) := rfl

@[simp] lemma outcome_get (s : Traversal) : (get : Visit Traversal).outcome s = (.ok s, s) := rfl

/-- What follows a visit runs from the state the visit has reached, unless the visit fails. -/
lemma outcome_bind (x : Visit α) (f : α → Visit β) (s : Traversal) :
    (x >>= f).outcome s = match x.outcome s with
      | (.ok a, t) => (f a).outcome t
      | (.error e, t) => (.error e, t) := by
  have h : (x >>= f).outcome s = ExceptT.bindCont f (x.outcome s).1 (x.outcome s).2 := rfl
  rw [h]
  rcases x.outcome s with ⟨_ | a, t⟩ <;> rfl

lemma outcome_bind_of_ok {x : Visit α} {f : α → Visit β} {s t : Traversal} {a : α}
    (h : x.outcome s = (.ok a, t)) : (x >>= f).outcome s = (f a).outcome t := by
  rw [outcome_bind, h]

/-- A compound visit succeeds when both of its parts do. -/
lemma outcome_bind_eq_ok {x : Visit α} {f : α → Visit β} {s u : Traversal} {b : β} :
    (x >>= f).outcome s = (.ok b, u) ↔
      ∃ a t, x.outcome s = (.ok a, t) ∧ (f a).outcome t = (.ok b, u) := by
  rw [outcome_bind]
  rcases x.outcome s with ⟨_ | a, t⟩ <;> simp [and_assoc]

/-- A compound visit fails when one of its parts does. -/
lemma outcome_bind_eq_error {x : Visit α} {f : α → Visit β} {s u : Traversal} {e : TransformError} :
    (x >>= f).outcome s = (.error e, u) ↔
      x.outcome s = (.error e, u) ∨
        ∃ a t, x.outcome s = (.ok a, t) ∧ (f a).outcome t = (.error e, u) := by
  rw [outcome_bind]
  rcases x.outcome s with ⟨_ | a, t⟩ <;> simp [and_assoc]

/-- A visit one level deeper ends as the visit does, back on its own level. -/
lemma outcome_deeper {x : Visit α} {s t : Traversal} {r : Except TransformError α} :
    (deeper x).outcome s = (r, t) ↔
      ∃ u, x.outcome { s with depth := s.depth + 1 } = (r, u) ∧
        { u with depth := u.depth - 1 } = t := by
  have h : (deeper x).outcome s = ((x.outcome { s with depth := s.depth + 1 }).1,
      { (x.outcome { s with depth := s.depth + 1 }).2 with
        depth := (x.outcome { s with depth := s.depth + 1 }).2.depth - 1 }) := rfl
  rw [h]
  rcases x.outcome { s with depth := s.depth + 1 } with ⟨r', u⟩
  simp [and_assoc]

@[simp] lemma outcome_note (e : Event) (s : Traversal) :
    (note e).outcome s = (.ok (), { s with journal := e :: s.journal }) := rfl

@[simp] lemma outcome_complain (range : Span) (reason : String) (s : Traversal) :
    (complain range reason).outcome s =
      (.ok ⟨range, reason⟩, { s with journal := .complained ⟨range, reason⟩ :: s.journal }) := rfl

lemma need_some {ctx : Context} {n : NodeId} {what : String} (a : α) (f : α → Visit β) :
    (need ctx n what (some a) >>= f) = f a := rfl

/-! ### What results satisfy -/

/-- Whatever the state, the results satisfy `Q`, and no error is one of indentation. -/
structure Ensures (x : Visit α) (Q : α → Prop) : Prop where
  ok : ∀ {s t : Traversal} {a : α}, x.outcome s = (.ok a, t) → Q a
  error : ∀ {s t : Traversal} {e : TransformError}, x.outcome s = (.error e, t) → ∀ i, e ≠ .indent i

namespace Ensures

variable {P Q : α → Prop} {R : β → Prop} {x : Visit α} {f : α → Visit β}

lemma pure {a : α} (h : Q a) : Ensures (Pure.pure a : Visit α) Q where
  ok hr := by
    simp only [outcome_pure, Prod.mk.injEq, Except.ok.injEq] at hr
    exact hr.1 ▸ h
  error hr := by simp at hr

lemma throw {e : TransformError} (h : ∀ i, e ≠ .indent i) : Ensures (throw e : Visit α) Q where
  ok hr := by simp at hr
  error hr := by
    simp only [outcome_throw, Prod.mk.injEq, Except.error.injEq] at hr
    exact hr.1 ▸ h

lemma mono (hx : Ensures x P) (h : ∀ a, P a → Q a) : Ensures x Q where
  ok hr := h _ (hx.ok hr)
  error hr := hx.error hr

lemma and (hp : Ensures x P) (hq : Ensures x Q) : Ensures x fun a => P a ∧ Q a where
  ok hr := ⟨hp.ok hr, hq.ok hr⟩
  error hr := hp.error hr

lemma bind (hx : Ensures x P) (hf : ∀ a, P a → Ensures (f a) R) : Ensures (x >>= f) R where
  ok hr := by
    obtain ⟨a, t, ha, hb⟩ := outcome_bind_eq_ok.1 hr
    exact (hf a (hx.ok ha)).ok hb
  error hr := by
    rcases outcome_bind_eq_error.1 hr with he | ⟨a, t, ha, hb⟩
    · exact hx.error he
    · exact (hf a (hx.ok ha)).error hb

lemma get : Ensures (MonadState.get : Visit Traversal) fun _ => True where
  ok _ := trivial
  error hr := by simp at hr

lemma modify (g : Traversal → Traversal) :
    Ensures (MonadState.modifyGet fun s => (PUnit.unit, g s) : Visit PUnit) fun _ => True where
  ok _ := trivial
  error {s t e} hr := by
    have h : ((.ok PUnit.unit, g s) : Except TransformError PUnit × Traversal) = (.error e, t) := hr
    simp at h

lemma deeper (hx : Ensures x Q) : Ensures (Visit.deeper x) Q where
  ok hr := by
    obtain ⟨u, hu, -⟩ := outcome_deeper.1 hr
    exact hx.ok hu
  error hr := by
    obtain ⟨u, hu, -⟩ := outcome_deeper.1 hr
    exact hx.error hu

lemma note (e : Event) : Ensures (Visit.note e) fun _ => True where
  ok _ := trivial
  error hr := by simp at hr

lemma complain (range : Span) (reason : String) :
    Ensures (Visit.complain range reason) fun c => c = ⟨range, reason⟩ where
  ok hr := by
    simp only [outcome_complain, Prod.mk.injEq, Except.ok.injEq] at hr
    exact hr.1.symm
  error hr := by simp at hr

/-- The complaint about a node is a complaint. -/
lemma complaint (ctx : Context) (n : NodeId) (reason : String) :
    Ensures (Visit.complaint ctx n reason) fun f => ∃ c, f = .complaint c :=
  (complain _ _).bind fun c _ => .pure ⟨c, rfl⟩

lemma missing_ne_indent (ctx : Context) (n : NodeId) (what : String) (i : IndentError) :
    Visit.missing ctx n what ≠ .indent i := by
  unfold Visit.missing
  split <;> simp

/-- What a node needs is there when the visit goes on. -/
lemma need (ctx : Context) (n : NodeId) (what : String) (o : Option α) :
    Ensures (Visit.need ctx n what o) fun a => o = some a := by
  cases o with
  | some a => exact .pure rfl
  | none => exact .throw (missing_ne_indent ctx n what)

end Ensures

end Visit

end Gls
