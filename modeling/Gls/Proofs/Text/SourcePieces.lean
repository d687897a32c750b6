/-
# Comments among the pieces of a source

A source is looked at as pieces put together: literals, comments, and characters that are neither
quotes nor slashes.  The pieces say which comments there are.  The scan, which sees characters only,
finds just those, whatever quotes, slashes and backslashes stand in literals and comments.

There is one exception.  A backslash before a line break continues a literal on the next line, and
a line break may be CR LF.  The scan takes one character along with a backslash, so the LF ends a
literal in single or double quotes, and what is left of it is read as code.
-/
import Gls.Proofs.Text.CommentGaps

namespace Gls

namespace CommentRange

open Text

/-! ### Pieces -/

/-- The character stands for itself in a literal.  A line break does so only in a template. -/
def IsPlain (quote c : Char) : Prop :=
  c ≠ quote ∧ c ≠ '\\' ∧ (quote ≠ '\x60' → isLineBreak c = false)

instance (quote c : Char) : Decidable (IsPlain quote c) :=
  inferInstanceAs (Decidable (_ ∧ _ ∧ (_ → _)))

/-- What a literal is made of. -/
inductive LiteralUnit (quote : Char) where
  | plain (c : Char) (plain : IsPlain quote c)
  /-- A backslash and the character it escapes, or the line break it leaves out. -/
  | escape (c : Char)
  /-- A backslash that leaves out a line break of two characters. -/
  | crlf
deriving DecidableEq

/-- A piece of source text. -/
inductive Piece where
  /-- A string in single or double quotes, or a template. -/
  | literal (quote : Char) (opens : isQuote quote = true) (units : List (LiteralUnit quote))
  | lineComment (body : List Char) (unbroken : ∀ c ∈ body, isLineBreak c = false)
  | blockComment (body : List Char) (first : ¬ ['*', '/'] <:+: body)
  /-- A character that is neither a quote nor a slash. -/
  | other (c : Char) (quiet : isQuote c = false ∧ c ≠ '/')

/-- The characters of a unit. -/
def LiteralUnit.chars {quote : Char} : LiteralUnit quote → List Char
  | .plain c _ => [c]
  | .escape c => ['\\', c]
  | .crlf => ['\\', '\r', '\n']

/-- The characters of units. -/
def unitChars {quote : Char} (units : List (LiteralUnit quote)) : List Char :=
  units.flatMap LiteralUnit.chars

namespace Piece

/-- The characters of a piece. -/
def chars : Piece → List Char
  | .literal quote _ units => quote :: unitChars units ++ [quote]
  | .lineComment body _ => '/' :: '/' :: body
  | .blockComment body _ => '/' :: '*' :: body ++ ['*', '/']
  | .other c _ => [c]

/-- The range of a piece that begins at `pos`, if it is a comment. -/
def range (pos : Nat) : Piece → List CommentRange
  | p@(.lineComment _ _) => [⟨UInt32.ofNat pos, UInt32.ofNat (pos + byteLength p.chars), false⟩]
  | p@(.blockComment _ _) => [⟨UInt32.ofNat pos, UInt32.ofNat (pos + byteLength p.chars), true⟩]
  | _ => []

/-- The piece may be followed by a text: a line comment ends with a line break or with the
source. -/
def EndsBefore (rest : List Char) : Piece → Prop
  | .lineComment _ _ => ∀ c ∈ rest.head?, isLineBreak c = true
  | _ => True

/-- The piece is a string in single or double quotes, continued over a line break of two
characters. -/
def ContinuedByCrLf : Piece → Prop
  | .literal quote _ units => quote ≠ '\x60' ∧ .crlf ∈ units
  | _ => False

instance (rest : List Char) : DecidablePred (EndsBefore rest)
  | .lineComment _ _ => rest.head?.decidableForallMem
  | .literal _ _ _ | .blockComment _ _ | .other _ _ => .isTrue trivial

instance : DecidablePred ContinuedByCrLf
  | .literal _ _ _ => inferInstanceAs (Decidable (_ ∧ _))
  | .lineComment _ _ | .blockComment _ _ | .other _ _ => .isFalse id

end Piece

/-- The characters of pieces. -/
def pieceChars (ps : List Piece) : List Char := ps.flatMap Piece.chars

/-- The ranges of the comments among pieces of which the first begins at `pos`. -/
def pieceRanges : Nat → List Piece → List CommentRange
  | _, [] => []
  | pos, p :: ps => p.range pos ++ pieceRanges (pos + byteLength p.chars) ps

/-- Every piece ends before the next one. -/
def Joined : List Piece → Prop
  | [] => True
  | p :: ps => p.EndsBefore (pieceChars ps) ∧ Joined ps

instance decidableJoined : DecidablePred Joined
  | [] => .isTrue trivial
  | p :: ps =>
    have := decidableJoined ps
    inferInstanceAs (Decidable (p.EndsBefore (pieceChars ps) ∧ Joined ps))

/-! ### The scan of one piece -/

variable {pos start : Nat} {quote : Char} {rest : List Char}

attribute [local simp] scanFrom byteLength

lemma scanFrom_escape (c : Char) :
    scanFrom (.quoted quote) pos ('\\' :: c :: rest)
      = scanFrom (.quoted quote) (pos + byteLength ['\\', c]) rest := by
  have hbackslash : '\\'.utf8Size = 1 := rfl
  simp [hbackslash, Nat.add_assoc]

lemma scanFrom_plain {c : Char} (h : IsPlain quote c) :
    scanFrom (.quoted quote) pos (c :: rest)
      = scanFrom (.quoted quote) (pos + byteLength [c]) rest := by
  obtain ⟨hquote, hbackslash, hbreak⟩ := h
  have hgo : (c == quote || isLineBreak c && quote != '\x60') = false := by
    rw [Bool.or_eq_false_iff, beq_eq_false_iff_ne, Bool.and_eq_false_imp, bne_eq_false_iff_eq]
    refine ⟨hquote, fun hc => ?_⟩
    by_contra htemplate
    cases hc.symm.trans (hbreak htemplate)
  simp [hgo, hbackslash]

/-- A template goes on after a line feed, so a line break of two characters is passed over in two
steps. -/
lemma scanFrom_crlf (h : quote = '\x60') :
    scanFrom (.quoted quote) pos ('\\' :: '\r' :: '\n' :: rest)
      = scanFrom (.quoted quote) (pos + byteLength ['\\', '\r', '\n']) rest := by
  subst h
  have hplain : IsPlain '\x60' '\n' := ⟨by decide, by decide, fun h => absurd rfl h⟩
  rw [scanFrom_escape, scanFrom_plain hplain]
  rfl

/-- The scan stays in a literal up to its end, unless the literal is continued over CR LF. -/
lemma scanFrom_units (units : List (LiteralUnit quote)) (h : quote ≠ '\x60' → .crlf ∉ units) :
    scanFrom (.quoted quote) pos (unitChars units ++ rest)
      = scanFrom (.quoted quote) (pos + byteLength (unitChars units)) rest := by
  induction units generalizing pos with
  | nil => rfl
  | cons u us ih =>
    have hus : quote ≠ '\x60' → .crlf ∉ us := fun hq hmem => h hq (List.mem_cons_of_mem u hmem)
    rw [unitChars, List.flatMap_cons, ← unitChars, List.append_assoc, byteLength_append,
      ← Nat.add_assoc, ← ih hus]
    cases u with
    | plain c hc => exact scanFrom_plain hc
    | escape c => exact scanFrom_escape c
    | crlf =>
      have htemplate : quote = '\x60' := by
        by_contra hq
        exact h hq List.mem_cons_self
      exact scanFrom_crlf htemplate

/-- A quote opens a literal. -/
lemma scanFrom_open (h : isQuote quote = true) :
    scanFrom .code pos (quote :: rest)
      = scanFrom (.quoted quote) (pos + byteLength [quote]) rest := by
  have hslash : quote ≠ '/' := by
    rintro rfl
    simp [isQuote] at h
  simp [h, hslash]

/-- The same quote closes it. -/
lemma scanFrom_close (h : isQuote quote = true) :
    scanFrom (.quoted quote) pos (quote :: rest)
      = scanFrom .code (pos + byteLength [quote]) rest := by
  have hbackslash : quote ≠ '\\' := by
    rintro rfl
    simp [isQuote] at h
  simp [hbackslash]

lemma scanFrom_other {c : Char} (h : isQuote c = false ∧ c ≠ '/') :
    scanFrom .code pos (c :: rest) = scanFrom .code (pos + byteLength [c]) rest := by
  simp [h]

/-- A line comment ends where a line break or the end of the source follows. -/
lemma scanFrom_lineBody {body : List Char} (hbody : ∀ c ∈ body, isLineBreak c = false)
    (hrest : ∀ c ∈ rest.head?, isLineBreak c = true) :
    scanFrom (.line start) pos (body ++ rest)
      = ⟨UInt32.ofNat start, UInt32.ofNat (pos + byteLength body), false⟩
          :: scanFrom .code (pos + byteLength body) rest := by
  induction body generalizing pos with
  | nil =>
    cases rest with
    | nil => rfl
    | cons c cs =>
      have hc : isLineBreak c = true := hrest c rfl
      have hpass : scanFrom .code pos (c :: cs) = scanFrom .code (pos + 1) cs := by
        rcases isLineBreak_iff.1 hc with rfl | rfl <;> exact scanFrom_other (by decide)
      rw [List.nil_append, byteLength, Nat.add_zero, hpass]
      conv_lhs => rw [scanFrom, if_pos hc]
  | cons c cs ih =>
    obtain ⟨hc, hcs⟩ := List.forall_mem_cons.1 hbody
    rw [List.cons_append, scanFrom, if_neg (by simp [hc]), ih hcs, byteLength, Nat.add_assoc]

/-- A block comment ends with the first closing delimiter. -/
lemma scanFrom_blockBody {body : List Char} (h : ¬ ['*', '/'] <:+: body) :
    scanFrom (.block start) pos (body ++ '*' :: '/' :: rest)
      = ⟨UInt32.ofNat start, UInt32.ofNat (pos + byteLength (body ++ ['*', '/'])), true⟩
          :: scanFrom .code (pos + byteLength (body ++ ['*', '/'])) rest := by
  induction body generalizing pos with
  | nil =>
    rw [List.nil_append, scanFrom]
    rfl
  | cons c cs ih =>
    have hcs : ¬ ['*', '/'] <:+: cs := fun hin => h (hin.trans (List.suffix_cons c cs).isInfix)
    rw [List.cons_append, scanFrom, ih hcs, List.cons_append, byteLength, Nat.add_assoc]
    -- Neither inside the body nor at its end does a delimiter begin with `c`.
    rintro cs' rfl hnext
    cases cs with
    | nil => cases hnext
    | cons c' cs =>
      cases hnext
      exact h ⟨[], cs, rfl⟩

/-- The scan of a piece finds the comment that the piece is, and goes on after it in code. -/
lemma scanFrom_piece (p : Piece) (hwhole : ¬ p.ContinuedByCrLf) (hend : p.EndsBefore rest) :
    scanFrom .code pos (p.chars ++ rest)
      = p.range pos ++ scanFrom .code (pos + byteLength p.chars) rest := by
  -- The opening delimiter of a comment takes two bytes.
  have hopening : ∀ c cs, c.utf8Size = 1 →
      pos + byteLength ('/' :: c :: cs) = pos + 2 + byteLength cs := by
    intro c cs hc
    have hslash : '/'.utf8Size = 1 := rfl
    simp only [byteLength]
    omega
  cases p with
  | literal quote opens units =>
    have hunits : quote ≠ '\x60' → .crlf ∉ units := fun hq hmem => hwhole ⟨hq, hmem⟩
    have hlength : pos + byteLength (quote :: (unitChars units ++ [quote]))
        = pos + byteLength [quote] + byteLength (unitChars units)
          + byteLength [quote] := by
      simp only [byteLength, byteLength_append]
      omega
    simp only [Piece.chars, Piece.range, List.cons_append, List.append_assoc, List.nil_append]
    rw [scanFrom_open opens, scanFrom_units units hunits, scanFrom_close opens, hlength]
  | lineComment body unbroken =>
    simp only [Piece.chars, Piece.range, List.cons_append, List.nil_append]
    rw [scanFrom, scanFrom_lineBody unbroken hend, hopening '/' _ rfl]
  | blockComment body first =>
    simp only [Piece.chars, Piece.range, List.cons_append, List.append_assoc, List.nil_append]
    rw [scanFrom, scanFrom_blockBody first, hopening '*' _ rfl]
  | other c quiet => exact scanFrom_other quiet

/-- So does the scan of several pieces. -/
lemma scanFrom_pieces (before after : List Piece) (hjoined : Joined (before ++ after))
    (hwhole : ∀ p ∈ before, ¬ p.ContinuedByCrLf) :
    scanFrom .code pos (pieceChars (before ++ after))
      = pieceRanges pos before
          ++ scanFrom .code (pos + byteLength (pieceChars before)) (pieceChars after) := by
  induction before generalizing pos with
  | nil => rfl
  | cons p ps ih =>
    obtain ⟨hp, hps⟩ := List.forall_mem_cons.1 hwhole
    rw [List.cons_append] at hjoined
    obtain ⟨hend, hrest⟩ := hjoined
    have hchars : ∀ qs, pieceChars (p :: qs) = p.chars ++ pieceChars qs := fun qs => rfl
    rw [List.cons_append, hchars, scanFrom_piece p hp hend, ih hrest hps, hchars, pieceRanges,
      byteLength_append, Nat.add_assoc, List.append_assoc]

/-- A string that is continued over CR LF is left at the LF. -/
lemma scanFrom_continued (hopens : isQuote quote = true) (hstring : quote ≠ '\x60')
    {units : List (LiteralUnit quote)} (hunits : .crlf ∉ units) :
    scanFrom .code pos (quote :: unitChars units ++ '\\' :: '\r' :: '\n' :: rest)
      = scanFrom .code (pos + byteLength (quote :: unitChars units ++ ['\\', '\r', '\n']))
          rest := by
  have hleft : ∀ pos, scanFrom (.quoted quote) pos ('\n' :: rest)
      = scanFrom .code (pos + byteLength ['\n']) rest := by
    intro pos
    simp [isLineBreak, hstring]
  have hlength : pos + byteLength (quote :: unitChars units ++ ['\\', '\r', '\n'])
      = pos + byteLength [quote] + byteLength (unitChars units) + byteLength ['\\', '\r']
        + byteLength ['\n'] := by
    simp only [List.cons_append, byteLength, byteLength_append]
    omega
  rw [List.cons_append, scanFrom_open hopens, scanFrom_units units fun _ => hunits, scanFrom_escape,
    hleft, hlength]

end CommentRange

open CommentRange Text

/-- Of a source put together from pieces the scan finds exactly the comments, in order, if no string
in single or double quotes is continued over a line break of two characters.

Where one is, the scan takes the CR along with the backslash and leaves the string at the LF.  Of
the pieces before the string it finds the comments; what follows the LF it reads as code, the rest
of the string first. -/
theorem comments_of_pieces (ps : List Piece) (hjoined : Joined ps) :
    ((∀ p ∈ ps, ¬ p.ContinuedByCrLf) → scan (String.ofList (pieceChars ps)) = pieceRanges 0 ps) ∧
    ∀ before quote opens (units others : List (LiteralUnit quote)) after,
      ps = before ++ .literal quote opens (units ++ .crlf :: others) :: after →
      (∀ p ∈ before, ¬ p.ContinuedByCrLf) → quote ≠ '\x60' → .crlf ∉ units →
      scan (String.ofList (pieceChars ps))
        = pieceRanges 0 before ++
          scanFrom .code
            (byteLength (pieceChars before ++ (quote :: unitChars units ++ ['\\', '\r', '\n'])))
            (unitChars others ++ quote :: pieceChars after) := by
  constructor
  · intro hwhole
    have := @scanFrom_pieces 0 ps [] (by rwa [List.append_nil]) hwhole
    rw [List.append_nil] at this
    rw [scan, String.toList_ofList, this]
    exact List.append_nil _
  · rintro before quote opens units others after rfl hwhole hstring hunits
    have hchars : pieceChars (.literal quote opens (units ++ .crlf :: others) :: after)
        = quote :: unitChars units ++ '\\' :: '\r' :: '\n' ::
            (unitChars others ++ quote :: pieceChars after) := by
      simp [pieceChars, unitChars, Piece.chars, LiteralUnit.chars]
    rw [scan, String.toList_ofList, scanFrom_pieces before _ hjoined hwhole, hchars,
      scanFrom_continued opens hstring hunits, byteLength_append (pieceChars before), Nat.zero_add]

/-- Literals and comments with quotes, slashes and backslashes in each other: a string with an
escaped quote, a template over two lines, a line comment and a block comment. -/
def mixedPieces : List Piece :=
  [.literal '\'' rfl [.plain '/' (by decide), .plain '/' (by decide), .escape '\''],
   .literal '\x60' rfl
     [.plain '"' (by decide), .crlf, .plain '/' (by decide), .plain '*' (by decide)],
   .lineComment ['\'', '\u00e9', '*'] (by simp [isLineBreak]), .other '\r' (by decide),
   .blockComment ['*', '\x60', '/', '/'] (by decide), .other 'x' (by decide)]

/-- A string that is continued over CR LF, with two slashes on its second line. -/
def continuedPieces : List Piece :=
  [.blockComment [] (by decide),
   .literal '"' rfl [.crlf, .plain '/' (by decide), .plain '/' (by decide)]]

theorem comments_of_mixed_pieces :
    (Joined mixedPieces ∧ (∀ p ∈ mixedPieces, ¬ p.ContinuedByCrLf) ∧
      scan (String.ofList (pieceChars mixedPieces)) = [⟨14, 20, false⟩, ⟨21, 29, true⟩]) ∧
    Joined continuedPieces ∧
      scan (String.ofList (pieceChars continuedPieces))
        = ⟨0, 4, true⟩ :: scanFrom .code 8 ['/', '/', '"'] := by
  have hmixed : Joined mixedPieces := by decide
  have hwhole : ∀ p ∈ mixedPieces, ¬ p.ContinuedByCrLf := by decide
  have hcontinued : Joined continuedPieces := by decide
  refine ⟨⟨hmixed, hwhole, ?_⟩, hcontinued, ?_⟩
  · rw [(comments_of_pieces mixedPieces hmixed).1 hwhole]
    decide
  · exact (comments_of_pieces continuedPieces hcontinued).2 [.blockComment [] (by decide)] '"' rfl
      [] [.plain '/' (by decide), .plain '/' (by decide)] [] rfl (by decide) (by decide) (by simp)

/-- The string holds no comment, but the scan finds one in it. -/
theorem continued_string_opens_comment :
    Joined continuedPieces ∧ pieceRanges 0 continuedPieces = [⟨0, 4, true⟩] ∧
    scan (String.ofList (pieceChars continuedPieces)) = [⟨0, 4, true⟩, ⟨8, 11, false⟩] := by
  decide

end Gls
