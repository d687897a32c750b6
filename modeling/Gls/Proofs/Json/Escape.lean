/-
# Escaped strings

A text that is escaped and unescaped again is the same text.  Escaping treats a character in one of
three ways, which `escapeChar_cases` tells apart; everything else about escaped strings, here and in
the lexer, is proved from these three.
-/
import Gls.Json.Lexer
import Mathlib.Data.List.Forall2
import Mathlib.Tactic.Common

namespace Gls.Json

/-! ### Characters -/

lemma hexValue?_hexDigit {n : Nat} (h : n < 16) : hexValue? (hexDigit n) = some n := by
  have hall : ∀ n < 16, hexValue? (hexDigit n) = some n := by decide
  exact hall n h

/-- A character is escaped by one letter, by its code, or not at all. -/
lemma escapeChar_cases (c : Char) :
    (∃ e, escapeChar c = ['\\', e] ∧ shortEscape? e = some c ∧ e ≠ 'u') ∨
    (∃ x y, escapeChar c = ['\\', 'u', '0', '0', x, y] ∧ c.toNat < 32 ∧
      hexValue? x = some (c.toNat / 16) ∧ hexValue? y = some (c.toNat % 16)) ∨
    (escapeChar c = [c] ∧ c ≠ '"' ∧ c ≠ '\\' ∧ 32 ≤ c.toNat) := by
  -- The statement names the written characters three times; the cases are split only once.
  generalize ho : escapeChar c = out
  unfold escapeChar at ho
  simp only [beq_iff_eq] at ho
  split_ifs at ho with h₁ h₂ h₃ h₄ h₅ h₆ h₇ h₈ <;> subst ho
  · subst h₁
    exact .inl ⟨'"', rfl, rfl, by decide⟩
  · subst h₂
    exact .inl ⟨'\\', rfl, rfl, by decide⟩
  · subst h₃
    exact .inl ⟨'n', rfl, rfl, by decide⟩
  · subst h₄
    exact .inl ⟨'r', rfl, rfl, by decide⟩
  · subst h₅
    exact .inl ⟨'t', rfl, rfl, by decide⟩
  · subst h₆
    exact .inl ⟨'b', rfl, rfl, by decide⟩
  · subst h₇
    exact .inl ⟨'f', rfl, rfl, by decide⟩
  · refine .inr (.inl ⟨_, _, rfl, h₈, ?_, ?_⟩)
    · exact hexValue?_hexDigit (by omega)
    · exact hexValue?_hexDigit (by omega)
  · exact .inr (.inr ⟨rfl, h₁, h₂, by omega⟩)

/-! ### Pieces -/

/-- The piece is the character, or the code of a control character. -/
def Piece.Stands (p : Piece) (c : Char) : Prop := p = .char c ∨ p = .unit c.toNat ∧ c.toNat < 32

lemma pieces?_escapeChar (c : Char) (cs : List Char) :
    ∃ p, Piece.Stands p c ∧ pieces? (escapeChar c ++ cs) = (pieces? cs).map (p :: ·) := by
  rcases escapeChar_cases c with ⟨e, he, hs, hu⟩ | ⟨x, y, he, hc, hx, hy⟩ | ⟨he, -, hb, -⟩
  · refine ⟨.char c, .inl rfl, ?_⟩
    rw [he, List.cons_append, List.cons_append, List.nil_append, pieces?]
    · simp only [hs, Option.bind_eq_bind, Option.bind_some]
      cases pieces? cs <;> rfl
    · rintro _ _ _ _ _ rfl
      exact absurd rfl hu
  · refine ⟨.unit c.toNat, .inr ⟨rfl, hc⟩, ?_⟩
    have hzero : hexValue? '0' = some 0 := rfl
    -- The two hexadecimal digits make the code of the character again.
    have hcode : 4096 * 0 + 256 * 0 + 16 * (c.toNat / 16) + c.toNat % 16 = c.toNat := by omega
    simp only [he, List.cons_append, List.nil_append, pieces?, hx, hy, hzero, Option.bind_eq_bind,
      Option.bind_some, hcode]
    cases pieces? cs <;> rfl
  · refine ⟨.char c, .inl rfl, ?_⟩
    rw [he, List.cons_append, List.nil_append, pieces?.eq_def]
    split <;> simp_all

lemma pieces?_flatMap_escapeChar (cs : List Char) :
    ∃ ps, pieces? (cs.flatMap escapeChar) = some ps ∧ List.Forall₂ Piece.Stands ps cs := by
  induction cs with
  | nil => exact ⟨[], rfl, .nil⟩
  | cons c cs ih =>
    obtain ⟨ps, hps, hstand⟩ := ih
    obtain ⟨p, hp, hpieces⟩ := pieces?_escapeChar c (cs.flatMap escapeChar)
    refine ⟨p :: ps, ?_, .cons hp hstand⟩
    rw [List.flatMap_cons, hpieces, hps]
    rfl

/-- No half of a surrogate pair is among the pieces, so each of them is joined by itself. -/
lemma joinPieces?_of_stands {ps : List Piece} {cs : List Char}
    (h : List.Forall₂ Piece.Stands ps cs) : joinPieces? ps = some cs := by
  induction h with
  | nil => rfl
  | @cons p c ps cs hp hps ih =>
    rcases hp with rfl | ⟨rfl, hc⟩
    · rw [joinPieces?, ih]
      rfl
    · have hhigh : isHigh c.toNat = false := by simp [isHigh]; omega
      have hlow : isLow c.toNat = false := by simp [isLow]; omega
      have hchar : Char.ofNat c.toNat = c := Char.ofNat_toNat c
      cases ps with
      | nil =>
        cases hps
        simp [joinPieces?, hhigh, hlow, hchar]
      | cons q ps =>
        rw [joinPieces?.eq_def]
        simp [hhigh, hlow, hchar, ih]

/-- Unescaping undoes escaping. -/
@[simp] lemma unescape?_escape (text : String) : unescape? (escape text) = some text := by
  obtain ⟨ps, hps, hstand⟩ := pieces?_flatMap_escapeChar text.toList
  rw [unescape?, escape, String.toList_ofList, hps, Option.bind_some, joinPieces?_of_stands hstand,
    Option.map_some, String.ofList_toList]

/-! ### Digits -/

/-- The digits of a number are those of values below the base. -/
lemma exists_digitChar_of_mem {b n : Nat} (hb : 1 < b) {c : Char} (h : c ∈ Nat.toDigits b n) :
    ∃ d < b, c = Nat.digitChar d := by
  induction n using Nat.strongRecOn with
  | ind n ih =>
    by_cases hn : n < b
    · rw [Nat.toDigits_of_lt_base hn, List.mem_singleton] at h
      exact ⟨n, hn, h⟩
    · rw [Nat.toDigits_of_base_le hb (Nat.le_of_not_lt hn), List.mem_append,
        List.mem_singleton] at h
      rcases h with h | h
      · exact ih (n / b) (Nat.div_lt_self (by omega) hb) h
      · exact ⟨n % b, Nat.mod_lt n (by omega), h⟩

/-- Digits are written as they are. -/
lemma toList_escape_toString (n : Nat) : (escape (toString n)).toList = Nat.toDigits 10 n := by
  have hdigit : ∀ d < 10, escapeChar (Nat.digitChar d) = [Nat.digitChar d] := by decide
  have hsingle : ∀ c ∈ Nat.toDigits 10 n, escapeChar c = [c] := by
    intro c hc
    obtain ⟨d, hd, rfl⟩ := exists_digitChar_of_mem (by decide) hc
    exact hdigit d hd
  rw [escape, String.toList_ofList, Nat.toString_eq_repr, Nat.toList_repr,
    List.flatMap_congr hsingle, List.flatMap_singleton']

end Gls.Json
