/-
# The shape of literals in double quotes

Any text at all can be put into double quotes, also one that is no literal of the source language: a
quote may be missing, or the last character may be a backslash.  The result is always one literal on
one line.

Between its quotes it is made of units, which are a character by itself or a backslash with the
character after it.  A unit is settled when rewriting keeps it.  Rewriting gives settled units only,
so a literal that was rewritten once does not change any more.
-/
import Gls.Proofs.Text.Unbroken
import Mathlib.Data.List.Basic

namespace Gls

namespace Text.Quoted

variable {c : Char} {cs : List Char}

/-! ### Units that are kept -/

/-- The characters that are rewritten where they stand by themselves. -/
def rewrittenBare : List Char := ['\\', '"', '\n', '\r', '\t']

/-- The characters that are rewritten together with the backslash before them. -/
def rewrittenEscaped : List Char := ['\'', '\r', '\n', '\u2028', '\u2029']

lemma body_bare (h : c ∉ rewrittenBare) (cs : List Char) : body (c :: cs) = c :: body cs := by
  simp only [rewrittenBare, List.mem_cons, List.not_mem_nil, or_false, not_or] at h
  rw [body.eq_15] <;> simp_all

lemma body_escaped (h : c ∉ rewrittenEscaped) (cs : List Char) :
    body ('\\' :: c :: cs) = '\\' :: c :: body cs := by
  simp only [rewrittenEscaped, List.mem_cons, List.not_mem_nil, or_false, not_or] at h
  rw [body.eq_9] <;> simp_all

/-- A unit that is kept as it is. -/
inductive Settled : List Char → Prop where
  | bare {c : Char} (h : c ∉ rewrittenBare) : Settled [c]
  | escaped {c : Char} (h : c ∉ rewrittenEscaped) : Settled ['\\', c]

lemma body_of_settled {u : List Char} (h : Settled u) (cs : List Char) :
    body (u ++ cs) = u ++ body cs := by
  cases h with
  | bare h => exact body_bare h cs
  | escaped h => exact body_escaped h cs

lemma body_flatten {us : List (List Char)} (h : ∀ u ∈ us, Settled u) :
    body us.flatten = us.flatten := by
  induction us with
  | nil => rfl
  | cons u us ih =>
    obtain ⟨hu, hus⟩ := List.forall_mem_cons.1 h
    rw [List.flatten_cons, body_of_settled hu, ih hus]

lemma Settled.not_mem_return {u : List Char} (h : Settled u) : '\r' ∉ u := by
  cases h with
  | bare h => exact fun hmem => h (List.mem_singleton.1 hmem ▸ by decide)
  | escaped h =>
    intro hmem
    rcases List.mem_pair.1 hmem with hmem | rfl
    · exact absurd hmem (by decide)
    · exact h (by decide)

/-! ### What rewriting gives -/

/-- The characters are settled units, one after the other. -/
def SettledUnits (cs : List Char) : Prop :=
  ∃ us : List (List Char), (∀ u ∈ us, Settled u) ∧ cs = us.flatten

lemma settledUnits_nil : SettledUnits [] := ⟨[], by simp, rfl⟩

lemma SettledUnits.append {u : List Char} (h : SettledUnits cs) (hu : Settled u) :
    SettledUnits (u ++ cs) := by
  obtain ⟨us, hus, rfl⟩ := h
  exact ⟨u :: us, List.forall_mem_cons.2 ⟨hu, hus⟩, rfl⟩

lemma SettledUnits.bare (h : SettledUnits cs) (hc : c ∉ rewrittenBare) : SettledUnits (c :: cs) :=
  h.append (.bare hc)

lemma SettledUnits.escaped (h : SettledUnits cs) (hc : c ∉ rewrittenEscaped) :
    SettledUnits ('\\' :: c :: cs) :=
  h.append (.escaped hc)

/-- One case for each way in which the characters at the front are rewritten. -/
lemma settledUnits_body (cs : List Char) : SettledUnits (body cs) := by
  fun_induction body cs with
  | case1 => exact settledUnits_nil
  | case2 => exact settledUnits_nil.escaped (by decide)
  | case3 cs ih => exact ih.bare (by decide)
  -- An escaped line end leaves nothing behind.
  | case4 cs ih | case6 cs ih | case7 cs ih | case8 cs ih => exact ih
  | case5 cs _ ih => exact ih
  | case9 c cs hquote _ hcr hlf hls hps ih =>
    exact ih.escaped (by simp_all [rewrittenEscaped])
  | case10 cs ih | case11 cs ih | case12 cs ih | case14 cs ih => exact ih.escaped (by decide)
  | case13 cs _ ih => exact ih.escaped (by decide)
  | case15 c cs hend _ _ _ _ _ _ hbackslash hquote hlf _ hcr htab ih =>
    have hne : c ≠ '\\' := by
      rintro rfl
      cases cs with
      | nil => exact hend rfl rfl
      | cons d ds => exact hbackslash d ds rfl rfl
    exact ih.bare (by simp_all [rewrittenBare])

/-- The text between the quotes of a text in quotes. -/
lemma stripQuotes_quoted {q : Char} (hq : isQuote q = true) (cs : List Char) :
    stripQuotes (q :: cs ++ [q]) = cs := by
  simp [stripQuotes, hq]

end Text.Quoted

open Text.Quoted

/-- A text in double quotes is one literal on one line, whatever it was before: between two quotes
stand units, each a character that is neither a quote nor a backslash or a backslash with a character
after it, so that the last quote is the first one that closes.  Putting it into quotes once more
changes nothing. -/
theorem requote_is_one_literal (text : String) :
    (∃ us : List (List Char), (requote text).toList = '"' :: us.flatten ++ ['"'] ∧
      ∀ u ∈ us, (∃ c, u = [c] ∧ c ≠ '"' ∧ c ≠ '\\') ∨ ∃ c, u = ['\\', c]) ∧
    '\n' ∉ (requote text).toList ∧ '\r' ∉ (requote text).toList ∧
    requote (requote text) = requote text := by
  obtain ⟨us, hus, hbody⟩ := settledUnits_body (stripQuotes text.toList)
  have htext : requote text = String.ofList ('"' :: us.flatten ++ ['"']) := by
    rw [requote, hbody]
  have hreturn : '\r' ∉ '"' :: us.flatten ++ ['"'] := by
    simp only [List.cons_append, List.mem_cons, List.mem_append, List.mem_flatten,
      List.not_mem_nil, or_false]
    rintro (h | ⟨u, hu, h⟩ | h)
    · exact absurd h (by decide)
    · exact (hus u hu).not_mem_return h
    · exact absurd h (by decide)
  refine ⟨⟨us, by rw [htext, String.toList_ofList], fun u hu => ?_⟩,
    Text.unbroken_requote text, by rwa [htext, String.toList_ofList], ?_⟩
  · cases hus u hu with
    | @bare c h =>
      refine .inl ⟨c, rfl, ?_, ?_⟩ <;> rintro rfl <;> exact h (by decide)
    | @escaped c _ => exact .inr ⟨c, rfl⟩
  · rw [htext, requote, String.toList_ofList, stripQuotes_quoted rfl, body_flatten hus]

end Gls
