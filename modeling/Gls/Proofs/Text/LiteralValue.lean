/-
# The value of a string literal

A string literal stands for a sequence of 16-bit code units.  Its elements are read from the left:
bare characters, which stand for themselves, and escapes.  `value?` reads a literal in any of the
three kinds of quotes; a text that is not a literal has no value.

Putting a literal into double quotes rewrites its elements one by one, and an element that is
rewritten stands for what it stood for.  Only one kind of element depends on what comes after it: an
escaped zero must not have a digit after it.  In the source line continuations may stand between
them; they stand for nothing and are dropped, and then the escaped zero runs into the digit.  The
main statement is that this is the only way in which the value of a literal gets lost.
-/
import Gls.Json.Basic
import Gls.Proofs.Text.Requoted

namespace Gls

namespace Text.Quoted

/-! ### Elements -/

/-- The code units of a code point: one, or a surrogate pair. -/
def codeUnits (n : Nat) : List UInt16 :=
  if n < 0x10000 then [UInt16.ofNat n]
  else
    [UInt16.ofNat (0xD800 + (n - 0x10000) / 0x400), UInt16.ofNat (0xDC00 + (n - 0x10000) % 0x400)]

/-- A hexadecimal digit. -/
def isHexDigit (c : Char) : Bool := (Json.hexValue? c).isSome

/-- The number that hexadecimal digits spell. -/
def hexNumber (ds : List Char) : Nat :=
  ds.foldl (fun n d => 16 * n + (Json.hexValue? d).getD 0) 0

/-- What an element stands for, and what follows it. -/
abbrev Element := List UInt16 × List Char

/-- The digits of an escape that has a fixed number of them. -/
def fixedCode? (count : Nat) (cs : List Char) : Option Element :=
  if (cs.take count).length = count ∧ (cs.take count).all isHexDigit then
    some (codeUnits (hexNumber (cs.take count)), cs.drop count)
  else none

/-- The digits of an escape that has them in braces, after the opening one. -/
def bracedCode? (cs : List Char) : Option Element :=
  match cs.takeWhile isHexDigit, cs.dropWhile isHexDigit with
  | d :: ds, '\x7d' :: rest =>
    if hexNumber (d :: ds) ≤ 0x10FFFF then some (codeUnits (hexNumber (d :: ds)), rest) else none
  | _, _ => none

/-- The rest of an escape that begins with the letter `u`. -/
def unicodeCode? : List Char → Option Element
  | '\x7b' :: cs => bracedCode? cs
  | cs => fixedCode? 4 cs

/-- What a single escaped character stands for: some letters for control characters, any other
character for itself. -/
def escapedChar (c : Char) : Char :=
  if c = 'b' then '\x08'
  else if c = 't' then '\t'
  else if c = 'n' then '\n'
  else if c = 'v' then '\x0b'
  else if c = 'f' then '\x0c'
  else if c = 'r' then '\r'
  else c

/-- The character ends a line. -/
def isLineEnd (c : Char) : Bool := c == '\r' || c == '\n' || c == '\u2028' || c == '\u2029'

/-- The digits that begin an octal escape; there are no such escapes. -/
def isOctalLead (c : Char) : Bool := '1' ≤ c && c ≤ '7'

/-- What follows a line that ends with the given character: CR LF is one line end. -/
def afterLineEnd : Char → List Char → List Char
  | '\r', '\n' :: cs => cs
  | _, cs => cs

/-- The element that begins with a backslash, from the character after it on. -/
def escape? : List Char → Option Element
  | [] => none
  | c :: cs =>
    if c = 'x' then fixedCode? 2 cs
    else if c = 'u' then unicodeCode? cs
    else if c = '0' then if cs.head?.any Char.isDigit then none else some ([0], cs)
    else if isLineEnd c then some ([], afterLineEnd c cs)
    else if isOctalLead c then none
    else some (codeUnits (escapedChar c).toNat, cs)

/-- A bare character between quotes `q`.  Between backquotes lines may end, in any of three ways,
and a dollar sign must not open a substitution. -/
def bare? (q c : Char) (cs : List Char) : Option Element :=
  if c = q then none
  else if c = '\r' ∨ c = '\n' then
    if q = '\x60' then some ([0xA], afterLineEnd c cs) else none
  else if q = '\x60' ∧ c = '$' ∧ cs.head? = some '\x7b' then none
  else some (codeUnits c.toNat, cs)

/-- The first element between quotes `q`. -/
def element? (q : Char) : List Char → Option Element
  | [] => none
  | c :: cs => if c = '\\' then escape? cs else bare? q c cs

variable {q c : Char} {cs rest : List Char} {us : List UInt16}

/-! ### Codes -/

/-- Characters that are kept one by one are kept together. -/
lemma body_append {ds : List Char} (h : ∀ d ∈ ds, d ∉ rewrittenBare) (cs : List Char) :
    body (ds ++ cs) = ds ++ body cs := by
  induction ds with
  | nil => rfl
  | cons d ds ih =>
    obtain ⟨hd, hds⟩ := List.forall_mem_cons.1 h
    rw [List.cons_append, body_bare hd, ih hds, List.cons_append]

lemma not_mem_rewrittenBare_of_isHexDigit {d : Char} (h : isHexDigit d = true) :
    d ∉ rewrittenBare := by
  intro hmem
  have hall : rewrittenBare.all (fun c => !isHexDigit c) = true := by decide
  have hd := List.all_eq_true.1 hall d hmem
  simp [h] at hd

/-- The characters that are read are kept when they are rewritten, and they are read no matter what
follows them. -/
def ReadsKept (r : List Char → Option Element) : Prop :=
  ∀ ⦃cs us rest⦄, r cs = some (us, rest) →
    ∃ ds, (∀ d ∈ ds, d ∉ rewrittenBare) ∧ cs = ds ++ rest ∧ ∀ tail, r (ds ++ tail) = some (us, tail)

lemma exists_digits_of_fixedCode? {count : Nat} (h : fixedCode? count cs = some (us, rest)) :
    ∃ ds, ds.length = count ∧ (∀ d ∈ ds, isHexDigit d = true) ∧ cs = ds ++ rest ∧
      ∀ tail, fixedCode? count (ds ++ tail) = some (us, tail) := by
  unfold fixedCode? at h
  split at h
  · rename_i hds
    cases h
    refine ⟨cs.take count, hds.1, List.all_eq_true.1 hds.2, (List.take_append_drop count cs).symm,
      fun tail => ?_⟩
    have htake : (cs.take count ++ tail).take count = cs.take count := List.take_left' hds.1
    have hdrop : (cs.take count ++ tail).drop count = tail := List.drop_left' hds.1
    rw [fixedCode?, htake, hdrop, if_pos hds]
  · cases h

lemma readsKept_fixedCode? (count : Nat) : ReadsKept (fixedCode? count) := by
  intro cs us rest h
  obtain ⟨ds, -, hhex, hcs, hread⟩ := exists_digits_of_fixedCode? h
  exact ⟨ds, fun d hd => not_mem_rewrittenBare_of_isHexDigit (hhex d hd), hcs, hread⟩

lemma readsKept_bracedCode? : ReadsKept bracedCode? := by
  intro cs us rest h
  unfold bracedCode? at h
  split at h
  · rename_i d ds rest' htake hdrop
    split at h
    · rename_i hle
      cases h
      have hhex : ∀ c ∈ d :: ds, isHexDigit c = true := by
        rw [← htake]
        exact List.all_eq_true.1 List.all_takeWhile
      have hbrace : ¬ isHexDigit '\x7d' = true := by decide
      refine ⟨d :: ds ++ ['\x7d'], ?_, ?_, fun tail => ?_⟩
      · intro c hc
        rcases List.mem_append.1 hc with hc | hc
        · exact not_mem_rewrittenBare_of_isHexDigit (hhex c hc)
        · obtain rfl := List.mem_singleton.1 hc
          decide
      · rw [List.append_assoc, List.singleton_append, ← htake, ← hdrop,
          List.takeWhile_append_dropWhile]
      · rw [List.append_assoc, List.singleton_append, bracedCode?,
          List.takeWhile_append_of_pos hhex, List.dropWhile_append_of_pos hhex,
          List.takeWhile_cons_of_neg hbrace, List.dropWhile_cons_of_neg hbrace, List.append_nil]
        exact if_pos hle
    · cases h
  · cases h

lemma readsKept_unicodeCode? : ReadsKept unicodeCode? := by
  intro cs us rest h
  unfold unicodeCode? at h
  split at h
  · obtain ⟨ds, hds, rfl, hread⟩ := readsKept_bracedCode? h
    exact ⟨'\x7b' :: ds, List.forall_mem_cons.2 ⟨by decide, hds⟩, rfl, hread⟩
  · obtain ⟨ds, hlen, hhex, rfl, hread⟩ := exists_digits_of_fixedCode? h
    refine ⟨ds, fun d hd => not_mem_rewrittenBare_of_isHexDigit (hhex d hd), rfl, fun tail => ?_⟩
    -- The digits are not taken for braces.
    obtain ⟨d, ds, rfl⟩ := List.exists_cons_of_length_eq_add_one hlen
    have hd : d ≠ '\x7b' := by
      rintro rfl
      exact absurd (hhex _ List.mem_cons_self) (by decide)
    rw [← hread tail, List.cons_append, unicodeCode?]
    rintro _ he
    exact hd (List.cons.inj he).1

/-! ### One element -/

/-- Between double quotes, `out` is an element that stands for `us`, whatever follows. -/
def StandsFor (out : List Char) (us : List UInt16) : Prop :=
  ∀ tail, element? '"' (out ++ tail) = some (us, tail)

/-- The ways to end a line. -/
def lineEnds : List (List Char) := [['\r', '\n'], ['\r'], ['\n'], ['\u2028'], ['\u2029']]

/-- How an element that stands for `us` is rewritten, with `rest` after it: a line continuation is
dropped, an escaped zero is kept, and any other element becomes one that stands for the same. -/
inductive Rewrites (us : List UInt16) (rest : List Char) : List Char → Prop where
  | dropped {e : List Char} (he : e ∈ lineEnds) (hus : us = [])
      (hbody : body ('\\' :: e ++ rest) = body rest) : Rewrites us rest ('\\' :: e ++ rest)
  | zero (hus : us = [0]) (hrest : rest.head?.any Char.isDigit = false) :
      Rewrites us rest ('\\' :: '0' :: rest)
  | kept (c : Char) (taken : List Char) {out : List Char} (h : StandsFor out us)
      (hbody : body (c :: taken ++ rest) = out ++ body rest) : Rewrites us rest (c :: taken ++ rest)

lemma standsFor_bare (h : c ∉ rewrittenBare) : StandsFor [c] (codeUnits c.toNat) := by
  simp only [rewrittenBare, List.mem_cons, List.not_mem_nil, or_false, not_or] at h
  intro tail
  simp [element?, bare?, h]

/-- A character that begins no longer escape stands for a single character. -/
lemma standsFor_escaped
    (h : c ≠ 'x' ∧ c ≠ 'u' ∧ c ≠ '0' ∧ ¬ isLineEnd c = true ∧ ¬ isOctalLead c = true) :
    StandsFor ['\\', c] (codeUnits (escapedChar c).toNat) := by
  obtain ⟨hx, hu, h0, hend, hoctal⟩ := h
  intro tail
  simp [element?, escape?, hx, hu, h0, hend, hoctal]

/-- An escape with digits is kept. -/
lemma rewrites_code {r : List Char → Option Element} (hr : ReadsKept r)
    (hescape : ∀ cs, escape? (c :: cs) = r cs) (hc : c ∉ rewrittenEscaped)
    (h : r cs = some (us, rest)) : Rewrites us rest ('\\' :: c :: cs) := by
  obtain ⟨ds, hds, rfl, hread⟩ := hr h
  have hstands : StandsFor ('\\' :: c :: ds) us := by
    intro tail
    rw [List.cons_append, element?, if_pos rfl, List.cons_append, hescape, hread]
  refine .kept '\\' (c :: ds) hstands ?_
  rw [List.cons_append, List.cons_append, body_escaped hc, body_append hds, List.cons_append,
    List.cons_append]

/-- An escaped line end stands for nothing, and nothing is left of it. -/
lemma body_lineEnd {e : List Char} (he : e ∈ lineEnds) (h : e ≠ ['\r'] ∨ cs.head? ≠ some '\n') :
    body ('\\' :: e ++ cs) = body cs := by
  simp only [lineEnds, List.mem_cons, List.not_mem_nil, or_false] at he
  rcases he with rfl | rfl | rfl | rfl | rfl
  · simp [body]
  · refine body.eq_5 _ fun cs' hcs => ?_
    have hcs : cs = '\n' :: cs' := hcs
    simp [hcs] at h
  · simp [body]
  · simp [body]
  · simp [body]

lemma rewrites_lineEnd (hc : isLineEnd c = true) (cs : List Char) :
    Rewrites [] (afterLineEnd c cs) ('\\' :: c :: cs) := by
  unfold afterLineEnd
  split
  · exact .dropped (e := ['\r', '\n']) (by decide) rfl (body_lineEnd (by decide) (.inl (by decide)))
  · rename_i hcrlf
    have he : [c] ∈ lineEnds := by simpa [isLineEnd, lineEnds, or_assoc] using hc
    refine .dropped he rfl (body_lineEnd he (or_iff_not_imp_left.2 fun hreturn hfeed => ?_))
    obtain ⟨cs', rfl⟩ := List.head?_eq_some_iff.1 hfeed
    exact hcrlf cs' (by simpa using hreturn) rfl

lemma rewrites_escape (h : escape? cs = some (us, rest)) : Rewrites us rest ('\\' :: cs) := by
  cases cs with
  | nil => cases h
  | cons c cs =>
    rw [escape?] at h
    split_ifs at h with hx hu h0 hdigit hend hoctal
    · subst hx
      exact rewrites_code (readsKept_fixedCode? 2) (fun _ => rfl) (by decide) h
    · subst hu
      exact rewrites_code readsKept_unicodeCode? (fun _ => rfl) (by decide) h
    · subst h0
      cases h
      exact .zero rfl (Bool.eq_false_iff.2 hdigit)
    · cases h
      exact rewrites_lineEnd hend cs
    · cases h
      have hstands := standsFor_escaped ⟨hx, hu, h0, hend, hoctal⟩
      by_cases hquote : c = '\''
      · subst hquote
        exact .kept '\\' ['\''] (standsFor_bare (c := '\'') (by decide)) (by simp [body])
      · refine .kept '\\' [c] hstands (body_escaped ?_ _)
        simp_all [rewrittenEscaped, isLineEnd]

/-- A line end between backquotes is a line feed. -/
lemma rewrites_lineBreak (hc : c = '\r' ∨ c = '\n') (cs : List Char) :
    Rewrites [0xA] (afterLineEnd c cs) (c :: cs) := by
  have hstands : StandsFor ['\\', 'n'] [0xA] :=
    standsFor_escaped (c := 'n') (by decide)
  unfold afterLineEnd
  split
  · exact .kept '\r' ['\n'] hstands (by simp [body])
  · rename_i hcrlf
    rcases hc with rfl | rfl
    · exact .kept '\r' [] hstands (body.eq_13 _ fun cs' => hcrlf cs' rfl)
    · exact .kept '\n' [] hstands (by simp [body])

lemma rewrites_bare (hc : c ≠ '\\') (h : bare? q c cs = some (us, rest)) :
    Rewrites us rest (c :: cs) := by
  unfold bare? at h
  split_ifs at h with hq hbreak hback hopen
  · cases h
    exact rewrites_lineBreak hbreak cs
  · cases h
    by_cases hquote : c = '"'
    · subst hquote
      have hstands : StandsFor ['\\', '"'] (codeUnits '"'.toNat) :=
        standsFor_escaped (by decide)
      exact .kept '"' [] hstands (by simp [body])
    · by_cases htab : c = '\t'
      · subst htab
        have hstands : StandsFor ['\\', 't'] (codeUnits '\t'.toNat) :=
          standsFor_escaped (c := 't') (by decide)
        exact .kept '\t' [] hstands (by simp [body])
      · have hbare : c ∉ rewrittenBare := by simp_all [rewrittenBare]
        exact .kept c [] (standsFor_bare hbare) (body_bare hbare _)

lemma rewrites_of_element? (h : element? q cs = some (us, rest)) : Rewrites us rest cs := by
  cases cs with
  | nil => cases h
  | cons c cs =>
    rw [element?] at h
    split_ifs at h with hc
    · subst hc
      exact rewrites_escape h
    · exact rewrites_bare hc h

/-- An element has one character at least. -/
lemma length_lt_of_element? (h : element? q cs = some (us, rest)) : rest.length < cs.length := by
  cases rewrites_of_element? h <;> simp only [List.length_cons, List.length_append] <;> omega

/-! ### All elements -/

/-- What stands between quotes `q`, element by element. -/
def content? (q : Char) : List Char → Option (List UInt16)
  | [] => some []
  | c :: cs =>
    match _ : element? q (c :: cs) with
    | none => none
    | some (us, rest) => (content? q rest).map (us ++ ·)
termination_by cs => cs.length
decreasing_by exact length_lt_of_element? ‹_›

/-- The value of a literal. -/
def value? (text : String) : Option (List UInt16) :=
  match text.toList with
  | [] => none
  | q :: cs => if isQuote q && cs.getLast? == some q then content? q cs.dropLast else none

lemma content?_of_some (h : element? q cs = some (us, rest)) :
    content? q cs = (content? q rest).map (us ++ ·) := by
  cases cs with
  | nil => cases h
  | cons c cs =>
    rw [content?]
    split <;> simp_all

lemma content?_of_none (h : element? q (c :: cs) = none) : content? q (c :: cs) = none := by
  rw [content?]
  split <;> simp_all

lemma content?_zero (q : Char) (cs : List Char) : content? q ('\\' :: '0' :: cs)
    = if cs.head?.any Char.isDigit then none else (content? q cs).map ([0] ++ ·) := by
  split_ifs with hdigit
  · exact content?_of_none (by simp [element?, escape?, hdigit])
  · exact content?_of_some (by simp [element?, escape?, hdigit])

/-- From somewhere on, an escaped zero has line continuations and then a digit after it. -/
inductive SplitsZero (q : Char) : List Char → Prop where
  | here {ends : List (List Char)} {d : Char} {after : List Char} (hne : ends ≠ [])
      (hends : ∀ e ∈ ends, e ∈ lineEnds) (hd : d.isDigit = true) :
      SplitsZero q ('\\' :: '0' :: (ends.flatMap ('\\' :: ·) ++ d :: after))
  | later {cs rest : List Char} {us : List UInt16} (h : element? q cs = some (us, rest))
      (hs : SplitsZero q rest) : SplitsZero q cs

/-- Somewhere in the literal an escaped zero is separated from a digit, and by line continuations
only. -/
def SplitsZeroIn (text : String) : Prop := ∃ q cs, text.toList = q :: cs ++ [q] ∧ SplitsZero q cs

/-- The characters are line continuations, then `d`, and then anything. -/
def LeadsTo (d : Char) (cs : List Char) : Prop :=
  ∃ (ends : List (List Char)) (after : List Char), (∀ e ∈ ends, e ∈ lineEnds) ∧
    cs = ends.flatMap ('\\' :: ·) ++ d :: after

lemma LeadsTo.continued {d : Char} (h : LeadsTo d cs) {e : List Char} (he : e ∈ lineEnds) :
    LeadsTo d ('\\' :: e ++ cs) := by
  obtain ⟨ends, after, hends, rfl⟩ := h
  exact ⟨e :: ends, after, List.forall_mem_cons.2 ⟨he, hends⟩, by simp⟩

/-- A digit that comes first after rewriting came after line continuations only. -/
lemma leadsTo_of_head?_body {d : Char} (h : (body cs).head? = some d) (hd : d.isDigit = true) :
    LeadsTo d cs := by
  fun_induction body cs with
  | case1 => cases h
  | case4 cs ih => exact (ih h).continued (e := ['\r', '\n']) (by decide)
  | case5 cs _ ih => exact (ih h).continued (e := ['\r']) (by decide)
  | case6 cs ih => exact (ih h).continued (e := ['\n']) (by decide)
  | case7 cs ih => exact (ih h).continued (e := ['\u2028']) (by decide)
  | case8 cs ih => exact (ih h).continued (e := ['\u2029']) (by decide)
  | case15 c cs =>
    obtain rfl : c = d := by simpa using h
    exact ⟨[], cs, by simp, rfl⟩
  -- Anything else begins with a backslash or a quote.
  | case2 | case3 | case9 | case10 | case11 | case12 | case13 | case14 =>
    cases h
    exact absurd hd (by decide)

lemma body_digit {d : Char} (hd : d.isDigit = true) (cs : List Char) :
    body (d :: cs) = d :: body cs := by
  refine body_bare (not_mem_rewrittenBare_of_isHexDigit ?_) cs
  simp [isHexDigit, Json.hexValue?, hd]

/-- Line continuations before a digit are dropped. -/
lemma body_ends {ends : List (List Char)} (hends : ∀ e ∈ ends, e ∈ lineEnds) {d : Char}
    (hd : d.isDigit = true) (after : List Char) :
    body (ends.flatMap ('\\' :: ·) ++ d :: after) = d :: body after := by
  induction ends with
  | nil => exact body_digit hd after
  | cons e ends ih =>
    obtain ⟨he, hends⟩ := List.forall_mem_cons.1 hends
    -- What follows begins with a backslash or the digit.
    have hhead : (ends.flatMap ('\\' :: ·) ++ d :: after).head? ≠ some '\n' := by
      cases ends with
      | nil =>
        rintro ⟨⟩
        exact absurd hd (by decide)
      | cons e ends => simp
    rw [List.flatMap_cons, List.append_assoc, body_lineEnd he (.inr hhead), ih hends]

/-- If an escaped zero is separated from a digit by line continuations only, then after rewriting
there is no value. -/
lemma content?_body_of_splitsZero (h : SplitsZero q cs) : content? '"' (body cs) = none := by
  induction h with
  | @here ends d after _ hends hd =>
    rw [body_escaped (by decide), body_ends hends hd, content?_zero]
    exact if_pos hd
  | later h _ ih =>
    cases rewrites_of_element? h with
    | dropped _ _ hbody => rw [hbody, ih]
    | zero =>
      rw [body_escaped (by decide), content?_zero, ih]
      exact ite_self none
    | kept _ _ hstands hbody => rw [hbody, content?_of_some (hstands _), ih, Option.map_none]

/-- Otherwise a digit does not come first after an escaped zero. -/
lemma head?_body_of_not_splitsZero (hdigit : rest.head?.any Char.isDigit = false)
    (hs : ¬ SplitsZero q ('\\' :: '0' :: rest)) : (body rest).head?.any Char.isDigit = false := by
  rw [Bool.eq_false_iff]
  intro hfirst
  obtain ⟨d, hhead, hd⟩ := (Option.any_eq_true _ _).1 hfirst
  obtain ⟨ends, after, hends, rfl⟩ := leadsTo_of_head?_body hhead hd
  refine hs (.here ?_ hends hd)
  rintro rfl
  simp [hd] at hdigit

/-- In all other cases the value stays.  By induction on what is left to read. -/
lemma content?_body (h : content? q cs = some us) (hs : ¬ SplitsZero q cs) :
    content? '"' (body cs) = some us := by
  fun_induction content? q cs generalizing us with
  | case1 => rwa [body, content?]
  | case2 => cases h
  | case3 c cs us' rest helement ih =>
    obtain ⟨us, hrest, rfl⟩ := Option.map_eq_some_iff.1 h
    have hread := ih hrest fun hlater => hs (.later helement hlater)
    generalize c :: cs = cs at *
    cases rewrites_of_element? helement with
    | dropped _ hus hbody => rw [hbody, hread, hus, List.nil_append]
    | zero hus hdigit =>
      have hfirst := head?_body_of_not_splitsZero hdigit hs
      rw [body_escaped (by decide), content?_zero, hfirst, hread, hus]
      rfl
    | kept _ _ hstands hbody => rw [hbody, content?_of_some (hstands _), hread, Option.map_some]

lemma value?_quoted {q : Char} (hq : isQuote q = true) (cs : List Char) :
    value? (String.ofList (q :: cs ++ [q])) = content? q cs := by
  simp [value?, hq]

lemma exists_of_value? {text : String} (h : value? text = some us) :
    ∃ q cs, isQuote q = true ∧ text = String.ofList (q :: cs ++ [q]) ∧ content? q cs = some us := by
  unfold value? at h
  split at h
  · cases h
  · rename_i q cs htext
    split_ifs at h with hq
    simp only [Bool.and_eq_true, beq_iff_eq] at hq
    obtain ⟨hq, hlast⟩ := hq
    obtain ⟨cs, rfl⟩ := List.getLast?_eq_some_iff.1 hlast
    rw [List.dropLast_concat] at h
    exact ⟨q, cs, hq, by rw [← String.ofList_toList (s := text), htext]; rfl, h⟩

end Text.Quoted

open Text.Quoted

/-- Putting a literal into double quotes keeps its value, unless line continuations separate an
escaped zero from a digit.  They are dropped, and what comes out is no literal. -/
theorem requote_keeps_value (text : String) (v : List UInt16) (h : value? text = some v) :
    (¬ SplitsZeroIn text → value? (requote text) = some v) ∧
    (SplitsZeroIn text → value? (requote text) = none) := by
  obtain ⟨q, cs, hq, rfl, hcs⟩ := exists_of_value? h
  have hvalue : value? (requote (String.ofList (q :: cs ++ [q]))) = content? '"' (body cs) := by
    rw [requote, String.toList_ofList, stripQuotes_quoted hq, value?_quoted rfl]
  rw [hvalue]
  constructor
  · intro hs
    exact content?_body hcs fun hsplits => hs ⟨q, cs, String.toList_ofList, hsplits⟩
  · rintro ⟨q', cs', htext, hsplits⟩
    rw [String.toList_ofList] at htext
    obtain ⟨rfl, htext⟩ := List.cons.inj htext
    obtain rfl := List.append_cancel_right htext
    exact content?_body_of_splitsZero hsplits

/-- A template with an escaped zero, a line continuation and no digit after it. -/
def zeroTemplate : String := "\x60\\0\\\r\n$\\x41\r\\u\x7b1F600\x7d\x60"

/-- A literal with an escaped zero, two line continuations and a digit. -/
def splitLiteral : String := "\"\\0\\\r\n\\\u20288\""

theorem zero_template_keeps_value :
    value? zeroTemplate = some [0, 0x24, 0x41, 0xA, 0xD83D, 0xDE00] ∧
    value? (requote zeroTemplate) = some [0, 0x24, 0x41, 0xA, 0xD83D, 0xDE00] ∧
    value? splitLiteral = some [0, 0x38] ∧ value? (requote splitLiteral) = none := by
  have htemplate : value? zeroTemplate = some [0, 0x24, 0x41, 0xA, 0xD83D, 0xDE00] := by
    decide +kernel
  have hwhole : ¬ SplitsZeroIn zeroTemplate := fun hsplits =>
    absurd ((requote_keeps_value _ _ htemplate).2 hsplits) (by decide +kernel)
  have hliteral : value? splitLiteral = some [0, 0x38] := by decide +kernel
  have hsplit : SplitsZeroIn splitLiteral := by
    have hzero : SplitsZero '"' ('\\' :: '0' ::
        ([['\r', '\n'], ['\u2028']].flatMap ('\\' :: ·) ++ '8' :: [])) :=
      .here (by simp) (by decide) (by decide)
    exact ⟨'"', _, by decide +kernel, hzero⟩
  exact ⟨htemplate, (requote_keeps_value _ _ htemplate).1 hwhole, hliteral,
    (requote_keeps_value _ _ hliteral).2 hsplit⟩

/-- The escaped zero runs into the digit. -/
theorem zero_runs_into_digit :
    value? "'\\0\\\n1'" = some [0, 0x31] ∧ requote "'\\0\\\n1'" = "\"\\01\"" ∧
    value? (requote "'\\0\\\n1'") = none := by
  decide +kernel

end Gls
