/-
# Splitting text at a character
-/

namespace Gls.Text

/-- The pieces between the separators, which are dropped.  There is always one piece more than
there are separators. -/
def splitAt (sep : Char) : List Char → List (List Char)
  | [] => [[]]
  | c :: cs =>
    if c = sep then [] :: splitAt sep cs
    else
      match splitAt sep cs with
      | [] => [[c]]
      | w :: ws => (c :: w) :: ws

/-- Puts the pieces together again with the separator between them. -/
def joinAt (sep : Char) : List (List Char) → List Char
  | [] => []
  | [w] => w
  | w :: ws => w ++ sep :: joinAt sep ws

theorem splitAt_ne_nil (sep : Char) (cs : List Char) : splitAt sep cs ≠ [] := by
  induction cs with
  | nil => simp [splitAt]
  | cons c cs ih =>
    by_cases h : c = sep
    · simp [splitAt, h]
    · cases hs : splitAt sep cs <;> simp [splitAt, h, hs]

/-- Splitting loses nothing. -/
theorem joinAt_splitAt (sep : Char) (cs : List Char) : joinAt sep (splitAt sep cs) = cs := by
  induction cs with
  | nil => rfl
  | cons c cs ih =>
    cases hs : splitAt sep cs with
    | nil => exact absurd hs (splitAt_ne_nil sep cs)
    | cons w ws =>
      by_cases h : c = sep
      · rw [splitAt, if_pos h, hs, joinAt, ← hs, ih, h, List.nil_append]
        simp
      · rw [splitAt, if_neg h, hs]
        rw [hs] at ih
        cases ws with
        | nil => rw [joinAt] at ih ⊢; rw [ih]
        | cons w' ws => rw [joinAt] at ih ⊢; rw [← ih, List.cons_append]; all_goals simp

end Gls.Text
