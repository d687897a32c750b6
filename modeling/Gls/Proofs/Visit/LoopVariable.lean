/-
# What a counting loop promises of its variable

A loop is written as a counting loop only when its body leaves the variable alone.  Whether it does
is asked of the index, by the source text of the variable and the range of the body; the index lists
identifiers by the text they carry.  In a tree whose ranges are nested the answer is right when the
source text of the variable is the text it carries.  When the two differ, as for a name that stands
escaped in the tree, the index is asked about another name, and writes in the body are missed.
-/
import Gls.Proofs.Layout.Fragments
import Gls.Proofs.Usage.Writes
import Gls.Proofs.Visit.Loops

namespace Gls

/-! ### Nested ranges -/

namespace Span

lemma contains_refl (s : Span) : s.contains s = true := by
  simp [contains]

lemma contains_trans {s t u : Span} (hst : s.contains t = true) (htu : t.contains u = true) :
    s.contains u = true := by
  simp only [contains, Bool.and_eq_true, decide_eq_true_eq] at *
  exact ⟨UInt32.le_trans hst.1 htu.1, UInt32.le_trans htu.2 hst.2⟩

end Span

namespace Arena

variable {a : Arena} {root n m : NodeId}

/-- Below the root, the range of a node that is there lies in the range of its parent. -/
def SpansNest (a : Arena) (root : NodeId) : Prop :=
  ∀ p c, a.Reaches root p → a.Child p c → (a.get? c).isSome →
    (a.span p).contains (a.span c) = true

/-- The range of a node lies in the ranges of all nodes above it. -/
lemma SpansNest.contains (hs : a.SpansNest root) (hn : a.Reaches root n) (hm : a.Reaches n m)
    (hin : (a.get? m).isSome) : (a.span n).contains (a.span m) = true := by
  induction hm with
  | refl => exact Span.contains_refl _
  | @tail p m hp hpm ih =>
    exact Span.contains_trans (ih (isSome_of_child hpm)) (hs p m (hn.trans hp) hpm hin)

/-- A node with something below it is no identifier. -/
lemma identifier?_eq_none_of_child (h : a.Child n m) : a.identifier? n = none := by
  rw [Option.eq_none_iff_forall_ne_some]
  intro text htext
  rw [Child, children_of_holds? htext] at h
  cases h

end Arena

namespace Visit

variable {ctx : Context} {visit : Visitor} {n : NodeId} {s : Traversal}

/-- The visit succeeds, and among its lines is one that begins a counting loop. -/
def StartsLoop (x : Visit (Option Fragment)) (s : Traversal) : Prop :=
  ∃ f t args, x.outcome s = (.ok (some f), t) ∧
    .command ⟨CommandName.forNumbersStart, args⟩ ∈ (Program.ofFragments [f]).lines

/-- What a visit comes to begins with a counting loop. -/
def opensLoop : Except TransformError (Option Fragment) → Bool
  | .ok (some (.transformation ⟨_, .command c :: _⟩)) => c.name == CommandName.forNumbersStart
  | _ => false

lemma StartsLoop.of_opensLoop {x : Visit (Option Fragment)}
    (h : opensLoop (x.outcome s).1 = true) : StartsLoop x s := by
  unfold opensLoop at h
  split at h
  · rename_i range c os hx
    obtain ⟨name, args⟩ := c
    obtain rfl := eq_of_beq h
    refine ⟨_, (x.outcome s).2, args, Prod.ext hx rfl, ?_⟩
    rw [Program.lines_ofFragments_transformation, Program.lines_ofOutputs_command]
    exact List.mem_cons_self
  · cases h

lemma not_startsLoop_complaint (reason : String) :
    ¬ StartsLoop (do return some (← complaint ctx n reason)) s := by
  rintro ⟨f, t, args, h, hline⟩
  cases h
  cases hline

/-- The bounds of a loop come to values, and then its body can be visited. -/
def PartsRun (ctx : Context) (visit : Visitor) (loop : CountingLoop) (body : NodeId)
    (s : Traversal) : Prop :=
  ∃ bounds t fs u, (values ctx visit [loop.start, loop.stop]).outcome s = (.ok (.value bounds), t) ∧
    (visit body).outcome t = (.ok fs, u)

/-- What it takes for a counting loop to be written as one. -/
lemma startsLoop_iff {d : Payload.Loop} {loop : CountingLoop} (hd : ctx.arena.loop? n = some d)
    (hloop : countingLoop? ctx.arena d = some loop) :
    StartsLoop (forStatement ctx visit n) s ↔
      ctx.usage.writesWithin (ctx.arena.text loop.counter) (ctx.arena.span d.statement) = false ∧
        PartsRun ctx visit loop d.statement s := by
  rw [forStatement, hd, need_some, hloop]
  dsimp only
  split
  · rename_i hwrites
    exact iff_of_false (not_startsLoop_complaint _) (by simp [hwrites])
  · rename_i hwrites
    rw [Bool.not_eq_true] at hwrites
    rw [hwrites, eq_self_iff_true, true_and]
    constructor
    · rintro ⟨f, u, args, h, hline⟩
      obtain ⟨o, t, hvalues, h⟩ := outcome_bind_eq_ok.1 h
      cases o with
      | value bounds =>
        obtain ⟨fs, u', hbody, -⟩ := outcome_bind_eq_ok.1 h
        exact ⟨bounds, t, fs, u', hvalues, hbody⟩
      | complaints cs =>
        -- The complaints about a bound take the place of all lines.
        cases h
        rw [lines_surface] at hline
        cases hline
    · rintro ⟨bounds, t, fs, u, hvalues, hbody⟩
      refine ⟨_, u, .text (ctx.arena.text loop.counter) :: .text "int" :: bounds,
        outcome_bind_eq_ok.2 ⟨_, t, hvalues, outcome_bind_eq_ok.2 ⟨fs, u, hbody, rfl⟩⟩, ?_⟩
      rw [lines_block]
      exact List.mem_cons_self

/-- Only a counting loop is written as one. -/
lemma exists_countingLoop_of_startsLoop (h : StartsLoop (forStatement ctx visit n) s) :
    ∃ d loop name, ctx.arena.loop? n = some d ∧ Counts ctx.arena d loop name ∧
      countingLoop? ctx.arena d = some loop := by
  cases hd : ctx.arena.loop? n with
  | none =>
    obtain ⟨f, t, args, h, -⟩ := h
    rw [forStatement, hd] at h
    cases h
  | some d =>
    cases hloop : countingLoop? ctx.arena d with
    | none =>
      rw [forStatement, hd, need_some, hloop] at h
      exact absurd h (not_startsLoop_complaint _)
    | some loop =>
      obtain ⟨name, hcounts⟩ := exists_counts hloop
      exact ⟨d, loop, name, rfl, hcounts, hloop⟩

end Visit

/-! ### Writes in the body -/

section Body

variable {arena : Arena} {root n : NodeId} {d : Payload.Loop}

lemma Arena.child_statement (hd : arena.loop? n = some d) : arena.Child n d.statement := by
  rw [Arena.Child, Arena.children_of_loop? hd]
  simp [Payload.children]

/-- A root with a loop below it is no identifier. -/
lemma Arena.identifier?_root (hn : arena.Reaches root n) (hd : arena.loop? n = some d) :
    arena.identifier? root = none := by
  rcases Relation.ReflTransGen.cases_head hn with rfl | ⟨c, hc, -⟩
  · exact Arena.identifier?_eq_none_of_child (Arena.child_statement hd)
  · exact Arena.identifier?_eq_none_of_child hc

/-- Whatever is written in the body of a loop lies within its range. -/
lemma Arena.SpansNest.contains_of_writtenAs (hs : arena.SpansNest root)
    (hn : arena.Reaches root n) (hd : arena.loop? n = some d) {m : NodeId} {name : String}
    (hm : arena.Reaches d.statement m) (hw : arena.WrittenAs root name m) :
    (arena.span d.statement).contains (arena.span m) = true :=
  hs.contains (hn.child (Arena.child_statement hd)) hm (UsageIndex.isSome_of_identifier? hw.1)

end Body

/-- In a tree whose nodes know their parents and whose ranges are nested, a loop that is written as
a counting loop has a variable with a name, and if that name is also the source text of the variable,
nothing in the body writes to the name.  A counting loop is written as one although its body writes
to the name exactly when the source text is another one, nothing within the range of the body writes
to that other one, and the parts of the loop can be visited. -/
theorem counting_loop_leaves_variable {arena : Arena} {root n : NodeId} (ht : arena.IsTree root)
    (hp : arena.ParentsAgree root) (hs : arena.SpansNest root) (hn : arena.Reaches root n)
    (types : TypeTable) (visit : Visitor) (s : Traversal) :
    let ctx := Context.ofRoot arena types root
    (Visit.StartsLoop (Visit.forStatement ctx visit n) s →
      ∃ d loop name, arena.loop? n = some d ∧ Visit.countingLoop? arena d = some loop ∧
        arena.identifier? loop.counter = some name ∧
        (arena.text loop.counter = name →
          ∀ m, arena.Reaches d.statement m → ¬ arena.WrittenAs root name m)) ∧
    (∀ d loop name, arena.loop? n = some d → Visit.countingLoop? arena d = some loop →
      arena.identifier? loop.counter = some name →
      ((Visit.StartsLoop (Visit.forStatement ctx visit n) s ∧
          ∃ m, arena.Reaches d.statement m ∧ arena.WrittenAs root name m) ↔
        arena.text loop.counter ≠ name ∧
        (∃ m, arena.Reaches d.statement m ∧ arena.WrittenAs root name m) ∧
        (∀ m, (arena.span d.statement).contains (arena.span m) = true →
          ¬ arena.WrittenAs root (arena.text loop.counter) m) ∧
        Visit.PartsRun ctx visit loop d.statement s)) := by
  intro ctx
  -- What the index answers about a text, for the range of the body.
  have hguard : ∀ d, arena.loop? n = some d → ∀ text,
      (ctx.usage.writesWithin text (ctx.arena.span d.statement) = false ↔
        ∀ m, (arena.span d.statement).contains (arena.span m) = true →
          ¬ arena.WrittenAs root text m) := by
    intro d hd text
    have hroot := Arena.identifier?_root hn hd
    have hiff := UsageIndex.writesWithin_build_iff ht hp hroot text (arena.span d.statement)
    rw [← Bool.not_eq_true, show ctx.usage = UsageIndex.build arena root from rfl,
      show ctx.arena = arena from rfl, hiff]
    constructor
    · exact fun h m hm hw => h ⟨m, hw, hm⟩
    · exact fun h ⟨m, hw, hm⟩ => h m hm hw
  constructor
  · intro hstarts
    obtain ⟨d, loop, name, hd, hcounts, hloop⟩ := Visit.exists_countingLoop_of_startsLoop hstarts
    refine ⟨d, loop, name, hd, hloop, hcounts.named, fun htext m hm hw => ?_⟩
    -- The answer is about the source text, so it rules out a write only where the two agree.
    have hunwritten := (hguard d hd _).1 ((Visit.startsLoop_iff hd hloop).1 hstarts).1
    refine hunwritten m (hs.contains_of_writtenAs hn hd hm hw) ?_
    exact htext ▸ hw
  · intro d loop name hd hloop hname
    have hstarts : Visit.StartsLoop (Visit.forStatement ctx visit n) s ↔ _ :=
      Visit.startsLoop_iff hd hloop
    rw [hstarts, hguard d hd]
    constructor
    · rintro ⟨⟨hunwritten, hparts⟩, m, hm, hw⟩
      refine ⟨fun htext => ?_, ⟨m, hm, hw⟩, hunwritten, hparts⟩
      exact hunwritten m (hs.contains_of_writtenAs hn hd hm hw) (htext ▸ hw)
    · rintro ⟨-, hwrites, hunwritten, hparts⟩
      exact ⟨⟨hunwritten, hparts⟩, hwrites⟩

/-! ### Two loops -/

/-- The tree of a counting loop whose body makes one assignment, over a source text with names of
three letters; `counter` and `target` are what the variable and the target of the assignment carry. -/
def loopArena (source counter target : String) : Arena where
  sourceText := source
  nodes := #[
    { kind := .identifier, pos := 9, stop := 12, parent := some ⟨2⟩,
      payload := .identifier counter },
    { kind := .numericLiteral, pos := 15, stop := 16, parent := some ⟨2⟩, payload := .literal "0" },
    { kind := .variableDeclaration, pos := 9, stop := 16, parent := some ⟨3⟩,
      payload := .valueDecl ⟨⟨0⟩, none, some ⟨1⟩⟩ },
    { kind := .variableDeclarationList, pos := 5, stop := 16, parent := some ⟨14⟩,
      payload := .list [⟨2⟩] },
    { kind := .identifier, pos := 18, stop := 21, parent := some ⟨6⟩,
      payload := .identifier counter },
    { kind := .numericLiteral, pos := 24, stop := 25, parent := some ⟨6⟩, payload := .literal "9" },
    { kind := .binaryExpression, pos := 18, stop := 25, parent := some ⟨14⟩,
      payload := .binary ⟨⟨4⟩, .lessThanToken, ⟨5⟩⟩ },
    { kind := .identifier, pos := 27, stop := 30, parent := some ⟨8⟩,
      payload := .identifier counter },
    { kind := .postfixUnaryExpression, pos := 27, stop := 32, parent := some ⟨14⟩,
      payload := .unary ⟨.plusPlusToken, ⟨7⟩⟩ },
    { kind := .identifier, pos := 36, stop := 39, parent := some ⟨11⟩,
      payload := .identifier target },
    { kind := .numericLiteral, pos := 42, stop := 43, parent := some ⟨11⟩,
      payload := .literal "5" },
    { kind := .binaryExpression, pos := 36, stop := 43, parent := some ⟨12⟩,
      payload := .binary ⟨⟨9⟩, .equalsToken, ⟨10⟩⟩ },
    { kind := .expressionStatement, pos := 36, stop := 44, parent := some ⟨13⟩,
      payload := .wrapped (some ⟨11⟩) },
    { kind := .block, pos := 34, stop := 46, parent := some ⟨14⟩, payload := .list [⟨12⟩] },
    { kind := .forStatement, pos := 0, stop := 46, parent := some ⟨15⟩,
      payload := .loop ⟨some ⟨3⟩, some ⟨6⟩, some ⟨8⟩, ⟨13⟩⟩ },
    { kind := .sourceFile, pos := 0, stop := 46, payload := .list [⟨14⟩] }]

section LoopArena

variable (source counter target : String)

/-- The places of all nodes. -/
def loopPlaces : List NodeId := (List.range 16).map NodeId.ofNat

lemma loopArena_closed : ∀ p ∈ loopPlaces, ∀ c ∈ (loopArena source counter target).children p,
    c ∈ loopPlaces := of_decide_eq_true rfl

lemma loopArena_isTree : (loopArena source counter target).IsTree ⟨15⟩ :=
  .of_closed (by decide) (loopArena_closed source counter target) (of_decide_eq_true rfl)
    (of_decide_eq_true rfl)

lemma loopArena_parentsAgree : (loopArena source counter target).ParentsAgree ⟨15⟩ := by
  have h : ∀ p ∈ loopPlaces, ∀ c ∈ (loopArena source counter target).children p,
      (loopArena source counter target).parent? c = some p := of_decide_eq_true rfl
  intro p c hp hc _
  exact h p (hp.mem_of_closed (by decide) (loopArena_closed source counter target)) c hc

lemma loopArena_spansNest : (loopArena source counter target).SpansNest ⟨15⟩ := by
  have h : ∀ p ∈ loopPlaces, ∀ c ∈ (loopArena source counter target).children p,
      ((loopArena source counter target).span p).contains
        ((loopArena source counter target).span c) = true := of_decide_eq_true rfl
  intro p c hp hc _
  exact h p (hp.mem_of_closed (by decide) (loopArena_closed source counter target)) c hc

/-- The loop of the tree, and what counts in it. -/
lemma loopArena_loop? : (loopArena source counter target).loop? ⟨14⟩
    = some ⟨some ⟨3⟩, some ⟨6⟩, some ⟨8⟩, ⟨13⟩⟩ := rfl

lemma loopArena_countingLoop? :
    Visit.countingLoop? (loopArena source counter target) ⟨some ⟨3⟩, some ⟨6⟩, some ⟨8⟩, ⟨13⟩⟩
      = some ⟨⟨0⟩, ⟨1⟩, ⟨5⟩⟩ := by
  simp [Visit.countingLoop?, loopArena, Arena.list?, Arena.valueDecl?, Arena.identifier?,
    Arena.binary?, Visit.addsOne, Arena.holds?, Arena.payload?, Arena.get?, NodeId.toNat,
    Payload.Form.list, Payload.Form.valueDecl, Payload.Form.identifier, Payload.Form.binary]

lemma loopArena_reaches : (loopArena source counter target).Reaches ⟨15⟩ ⟨14⟩ :=
  .of_child List.mem_cons_self

/-- The body writes to the target of its assignment. -/
lemma loopArena_written : (loopArena source counter target).Reaches ⟨13⟩ ⟨9⟩ ∧
    (loopArena source counter target).WrittenAs ⟨15⟩ target ⟨9⟩ := by
  have hstatement : (loopArena source counter target).Reaches ⟨13⟩ ⟨11⟩ :=
    (Arena.Reaches.of_child (c := ⟨12⟩) List.mem_cons_self).child List.mem_cons_self
  refine ⟨hstatement.child List.mem_cons_self, rfl, ⟨11⟩, ?_, ?_⟩
  · exact ((loopArena_reaches source counter target).child (c := ⟨13⟩)
      (List.mem_of_elem_eq_true rfl)).trans hstatement
  · exact Arena.WrittenBy.assigned (d := ⟨⟨9⟩, .equalsToken, ⟨10⟩⟩) rfl rfl

end LoopArena

/-- A name that stands escaped in the tree: the variable of the loop is written in its body, and the
loop is written as a counting loop. -/
theorem escaped_variable_written_in_loop :
    ¬ ∀ (arena : Arena) (types : TypeTable) (root n : NodeId) (visit : Visitor) (s : Traversal),
      arena.IsTree root → arena.ParentsAgree root → arena.SpansNest root → arena.Reaches root n →
      Visit.StartsLoop (Visit.forStatement (Context.ofRoot arena types root) visit n) s →
      ∀ d loop name, arena.loop? n = some d → Visit.countingLoop? arena d = some loop →
        arena.identifier? loop.counter = some name →
        ∀ m, arena.Reaches d.statement m → ¬ arena.WrittenAs root name m := by
  intro h
  let arena := loopArena "for (let __i = 0; __i < 9; __i++) \x7b __i = 5; \x7d" "___i" "___i"
  let ctx := Context.ofRoot arena {} ⟨15⟩
  have hstarts : Visit.StartsLoop (Visit.forStatement ctx (Visit.node ctx) ⟨14⟩) {} :=
    .of_opensLoop (by decide +kernel)
  exact h arena {} ⟨15⟩ ⟨14⟩ (Visit.node ctx) {} (loopArena_isTree _ _ _)
    (loopArena_parentsAgree _ _ _) (loopArena_spansNest _ _ _) (loopArena_reaches _ _ _)
    hstarts _ _ _ (loopArena_loop? _ _ _) (loopArena_countingLoop? _ _ _) rfl ⟨9⟩
    (loopArena_written _ _ _).1 (loopArena_written _ _ _).2

theorem index_loop_leaves_variable :
    let arena := loopArena "for (let idx = 0; idx < 9; idx++) \x7b sum = 5; \x7d" "idx" "sum"
    let ctx := Context.ofRoot arena {} ⟨15⟩
    Visit.StartsLoop (Visit.forStatement ctx (Visit.node ctx) ⟨14⟩) {} ∧
    arena.text ⟨0⟩ = "idx" ∧ ∀ m, arena.Reaches ⟨13⟩ m → ¬ arena.WrittenAs ⟨15⟩ "idx" m := by
  intro arena ctx
  have hstarts : Visit.StartsLoop (Visit.forStatement ctx (Visit.node ctx) ⟨14⟩) {} :=
    .of_opensLoop (by decide +kernel)
  have htext : arena.text ⟨0⟩ = "idx" := by decide +kernel
  obtain ⟨d, loop, name, hd, hloop, hname, hleaves⟩ := (counting_loop_leaves_variable
    (loopArena_isTree _ _ _) (loopArena_parentsAgree _ _ _) (loopArena_spansNest _ _ _)
    (loopArena_reaches _ _ _) {} (Visit.node ctx) {}).1 hstarts
  cases hd.symm.trans (loopArena_loop? _ _ _)
  cases hloop.symm.trans (loopArena_countingLoop? _ _ _)
  cases hname
  exact ⟨hstarts, htext, hleaves htext⟩

end Gls
