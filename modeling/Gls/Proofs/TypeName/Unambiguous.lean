/-
# Type names that are read from their text

A type name is written without any escaping: a command stands between braces, a colon separates its
name from its arguments, and each argument follows a space.  A plain name could hold any of these
marks, so in general two type names may be written alike.

The type names that annotations spell are built from words, which hold none of the marks.  Such a
type name is known by its first character: a brace opens a command, and anything else is a word.
And it can be seen where it ends: a word goes on for as long as it can, and a command ends with the
first closing brace that stands where an argument could.  So if two of them are written alike, each
in front of a text that is empty or begins with a space, then they are the same, and so are the
texts.  This is shown together with the same of lists of arguments, by recursion on the first of the
two.
-/
import Gls.Proofs.TypeName.Grammar
import Gls.Proofs.Vocabulary.Arity

namespace Gls

/-! ### Cutting texts -/

/-- Where a mark stands for the first time, a text can be cut in one way only. -/
lemma cut_at_mark {α : Type} {c : α} {us vs xs ys : List α} (hu : c ∉ us) (hv : c ∉ vs)
    (h : us ++ c :: xs = vs ++ c :: ys) : us = vs ∧ xs = ys := by
  induction us generalizing vs with
  | nil =>
    cases vs with
    | nil => exact ⟨rfl, (List.cons.inj h).2⟩
    | cons v vs => exact absurd ((List.cons.inj h).1 ▸ List.mem_cons_self) hv
  | cons u us ih =>
    cases vs with
    | nil => exact absurd ((List.cons.inj h).1 ▸ List.mem_cons_self) hu
    | cons v vs =>
      obtain ⟨rfl, htail⟩ := List.cons.inj h
      obtain ⟨rfl, hrest⟩ := ih (fun hm => hu (.tail _ hm)) (fun hm => hv (.tail _ hm)) htail
      exact ⟨rfl, hrest⟩

namespace RawType

/-! ### Words -/

/-- The text is not empty and consists of the characters of names. -/
def IsWord (t : String) : Prop := t ≠ "" ∧ IsName t

/-- The names among the tokens of a text are words. -/
lemma Lexes.spelled {cs : List Char} {ts : List Token} (h : Lexes cs ts) : Spelled IsWord ts := by
  induction h with
  | done =>
    intro t ht
    cases ht
  | blank _ _ ih => exact ih
  | mark _ _ ih =>
    intro t ht
    exact ih t (by simpa using ht)
  | @name w cs ts hne hw _ _ ih =>
    intro t ht
    rcases List.mem_cons.1 ht with ht | ht
    · obtain rfl := Token.name.inj ht
      refine ⟨fun hempty => hne ?_, fun c hc => hw c (by simpa using hc)⟩
      simpa using congrArg String.toList hempty
    · exact ih t ht

lemma built_words_of_parse? {text : String} {t : TypeName} (h : parse? text = some t) :
    BuiltFrom IsWord t := by
  obtain ⟨ts, hts⟩ := exists_tokens?_of_parse? h
  have hspelled : Spelled IsWord ts := (tokens?_eq_some_iff.1 hts).spelled
  exact built_of_spelled ⟨by decide, by decide +kernel⟩ hts hspelled h

lemma IsWord.exists_cons {t : String} (h : IsWord t) :
    ∃ c cs, t.toList = c :: cs ∧ isNameChar c = true := by
  obtain ⟨hne, hname⟩ := h
  have hlist : t.toList ≠ [] := fun hnil => hne (String.toList_eq_nil_iff.1 hnil)
  obtain ⟨c, cs, hcs⟩ := List.exists_cons_of_ne_nil hlist
  exact ⟨c, cs, hcs, hname c (hcs ▸ List.mem_cons_self)⟩

/-- A word is written as it is. -/
lemma IsWord.render_eq {t : String} (h : IsWord t) : Argument.render (.text t) = t := by
  have hblank : t.toList.any Text.isBlank = false := by
    rw [List.any_eq_false]
    intro c hc hb
    have hname := h.2 c hc
    rw [isNameChar_of_isBlank hb] at hname
    cases hname
  rw [Argument.render, hblank]
  rfl

end RawType

open RawType

/-! ### Commands -/

/-- A command in the name of a type is one of four, and has arguments that are built as it is. -/
lemma BuiltFrom.of_command {T : String → Prop} {name : String} {args : List TypeName}
    (h : BuiltFrom T (.command name args)) :
    name ∈ typeCommandNames ∧ args ≠ [] ∧ ∀ a ∈ args, BuiltFrom T a := by
  generalize hb : Argument.command name args = b at h
  cases h with
  | plain _ => cases hb
  | list he =>
    cases hb
    exact ⟨by simp [typeCommandNames], by simp, by simpa using he⟩
  | dictionary hk hv =>
    cases hb
    exact ⟨by simp [typeCommandNames], by simp, by simpa using ⟨hk, hv⟩⟩
  | generic hn hne ha =>
    cases hb
    exact ⟨by simp [typeCommandNames], by simp, List.forall_mem_cons.2 ⟨.plain hn, ha⟩⟩
  | union hlen _ hm =>
    cases hb
    refine ⟨by simp [typeCommandNames], fun hnil => ?_, hm⟩
    simp [hnil] at hlen

lemma BuiltFrom.of_text {T : String → Prop} {t : String} (h : BuiltFrom T (.text t)) : T t := by
  generalize hb : Argument.text t = b at h
  cases h with
  | plain ht =>
    cases hb
    exact ht
  | list | dictionary | generic | union => cases hb

lemma colon_notMem_of_typeCommand {name : String} (h : name ∈ typeCommandNames) :
    ':' ∉ name.toList := by
  have hall : ∀ name ∈ typeCommandNames, ':' ∉ name.toList := by decide
  exact hall name h

namespace Argument

lemma toList_render_command {name : String} {args : List Argument} (h : args ≠ []) :
    (render (.command name args)).toList = '\x7b' :: ' ' ::
      (name.toList ++ ' ' :: ':' :: ((renderAll args).toList ++ [' ', '\x7d'])) := by
  obtain ⟨a, as, rfl⟩ := List.exists_cons_of_ne_nil h
  simp [render]

lemma toList_renderAll_cons (a : Argument) (as : List Argument) :
    (renderAll (a :: as)).toList = ' ' :: ((render a).toList ++ (renderAll as).toList) := by
  simp [renderAll]

/-- A type name starts with an opening brace or with a character of names. -/
lemma render_starts {a : Argument} (h : BuiltFrom IsWord a) :
    ∃ c cs, (render a).toList = c :: cs ∧ (c = '\x7b' ∨ isNameChar c = true) := by
  cases a with
  | text t =>
    obtain ⟨c, cs, hcs, hc⟩ := h.of_text.exists_cons
    rw [h.of_text.render_eq]
    exact ⟨c, cs, hcs, .inr hc⟩
  | command name args =>
    obtain ⟨-, hne, -⟩ := h.of_command
    exact ⟨_, _, toList_render_command hne, .inl rfl⟩

/-- What may stand after a type name: nothing, or a text that begins with a space. -/
def AfterName (cs : List Char) : Prop := ∀ c, cs.head? = some c → c = ' '

lemma AfterName.not_nameChar {cs : List Char} (h : AfterName cs) {c : Char}
    (hc : cs.head? = some c) : isNameChar c = false := by
  obtain rfl := h c hc
  decide

lemma afterName_renderAll (as : List Argument) (cs : List Char) :
    AfterName ((renderAll as).toList ++ ' ' :: cs) := by
  cases as with
  | nil => simp [AfterName, renderAll]
  | cons a as => simp [AfterName, toList_renderAll_cons]

/-- A word is no command. -/
lemma word_ne_command {t : String} (ht : IsWord t) {cs x y : List Char} :
    t.toList ++ x ≠ '\x7b' :: cs ++ y := by
  obtain ⟨c, ds, hds, hc⟩ := ht.exists_cons
  rw [hds]
  intro h
  obtain ⟨rfl, -⟩ := List.cons.inj h
  exact absurd hc (by decide)

/-- The end of a command is no further argument of it. -/
lemma close_ne_renderAll {b : Argument} (hb : BuiltFrom IsWord b) {bs : List Argument}
    {x y : List Char} :
    (renderAll []).toList ++ ' ' :: '\x7d' :: x ≠ (renderAll (b :: bs)).toList ++ y := by
  obtain ⟨c, cs, hcs, hc⟩ := render_starts hb
  rw [toList_renderAll_cons, hcs]
  intro h
  obtain ⟨-, htail⟩ := List.cons.inj h
  obtain ⟨rfl, -⟩ := List.cons.inj htail
  rcases hc with hc | hc
  · exact absurd hc (by decide)
  · exact absurd hc (by decide)

mutual

/-- Type names that are written alike in front of what may follow them are the same. -/
theorem render_append_inj : ∀ {a b : Argument} {x y : List Char}, BuiltFrom IsWord a →
    BuiltFrom IsWord b → AfterName x → AfterName y →
    (render a).toList ++ x = (render b).toList ++ y → a = b ∧ x = y
  | .text s, .text t, x, y, ha, hb, hx, hy, h => by
    rw [ha.of_text.render_eq, hb.of_text.render_eq] at h
    have hword : s.toList = t.toList := by
      rw [← takeWhile_name ha.of_text.2 fun _ => hx.not_nameChar, h,
        takeWhile_name hb.of_text.2 fun _ => hy.not_nameChar]
    rw [hword] at h
    exact ⟨congrArg _ (String.toList_inj.1 hword), List.append_cancel_left h⟩
  | .text s, .command g bs, x, y, ha, hb, _, _, h => by
    rw [ha.of_text.render_eq, toList_render_command hb.of_command.2.1] at h
    exact absurd h (word_ne_command ha.of_text)
  | .command f as, .text t, x, y, ha, hb, _, _, h => by
    rw [hb.of_text.render_eq, toList_render_command ha.of_command.2.1] at h
    exact absurd h.symm (word_ne_command hb.of_text)
  | .command f as, .command g bs, x, y, ha, hb, _, _, h => by
    obtain ⟨hf, hasne, has⟩ := ha.of_command
    obtain ⟨hg, hbsne, hbs⟩ := hb.of_command
    rw [toList_render_command hasne, toList_render_command hbsne] at h
    have hbody : (f.toList ++ [' ']) ++ ':' :: ((renderAll as).toList ++ ' ' :: '\x7d' :: x)
        = (g.toList ++ [' ']) ++ ':' :: ((renderAll bs).toList ++ ' ' :: '\x7d' :: y) := by
      simpa using h
    obtain ⟨hname, hargs⟩ := cut_at_mark (by simpa using colon_notMem_of_typeCommand hf)
      (by simpa using colon_notMem_of_typeCommand hg) hbody
    obtain ⟨rfl, rfl⟩ := renderAll_append_inj has hbs hargs
    exact ⟨by rw [String.toList_inj.1 (List.append_cancel_right hname)], rfl⟩

/-- Arguments that are written alike in front of a closing brace are the same. -/
theorem renderAll_append_inj : ∀ {as bs : List Argument} {x y : List Char},
    (∀ a ∈ as, BuiltFrom IsWord a) → (∀ b ∈ bs, BuiltFrom IsWord b) →
    (renderAll as).toList ++ ' ' :: '\x7d' :: x = (renderAll bs).toList ++ ' ' :: '\x7d' :: y →
    as = bs ∧ x = y
  | [], [], x, y, _, _, h => ⟨rfl, by simpa using h⟩
  | [], b :: bs, x, y, _, hbs, h => by
    exact absurd h (close_ne_renderAll (hbs b List.mem_cons_self))
  | a :: as, [], x, y, has, _, h => by
    exact absurd h.symm (close_ne_renderAll (has a List.mem_cons_self))
  | a :: as, b :: bs, x, y, has, hbs, h => by
    obtain ⟨ha, hastail⟩ := List.forall_mem_cons.1 has
    obtain ⟨hb, hbstail⟩ := List.forall_mem_cons.1 hbs
    have hargs : (render a).toList ++ ((renderAll as).toList ++ ' ' :: '\x7d' :: x)
        = (render b).toList ++ ((renderAll bs).toList ++ ' ' :: '\x7d' :: y) := by
      simpa [toList_renderAll_cons] using h
    obtain ⟨rfl, hrest⟩ :=
      render_append_inj ha hb (afterName_renderAll as _) (afterName_renderAll bs _) hargs
    obtain ⟨rfl, rfl⟩ := renderAll_append_inj hastail hbstail hrest
    exact ⟨rfl, rfl⟩

end

end Argument

/-- Two annotations that spell types with one written name spell the same type: what is written for
a type that is read from a text can be read in one way only. -/
theorem render_unambiguous {s t : String} {a b : TypeName} (hs : parse? s = some a)
    (ht : parse? t = some b) (h : a.render = b.render) : a = b := by
  have hlist : a.render.toList ++ [] = b.render.toList ++ [] := by rw [h]
  exact (Argument.render_append_inj (built_words_of_parse? hs) (built_words_of_parse? ht)
    (by simp [Argument.AfterName]) (by simp [Argument.AfterName]) hlist).1

/-- Two spellings of a dictionary of lists. -/
theorem render_unambiguous_dictionary :
    ∃ a b, parse? "Map<string, Array<number | null>>" = some a ∧
      parse? "\x7b [key: string]: (undefined | number)[]; \x7d" = some b ∧
      a.render = "\x7b dictionary type : string \x7b list type : float \x7d \x7d" ∧
      b.render = a.render ∧ a = b := by
  have hs : parse? "Map<string, Array<number | null>>" =
      some (dictionaryOf (.text "string") (listOf (.text "float"))) := by
    decide +kernel
  have ht : parse? "\x7b [key: string]: (undefined | number)[]; \x7d" =
      some (dictionaryOf (.text "string") (listOf (.text "float"))) := by
    decide +kernel
  exact ⟨_, _, hs, ht, by decide +kernel, rfl, render_unambiguous hs ht rfl⟩

end Gls
