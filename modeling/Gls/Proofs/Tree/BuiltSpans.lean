/-
# Spans of a tree that is built together with its text

A builder hands out offsets while its text still grows: the ends of a token's span, and marks for
nodes that are closed much later.  They stay right for two reasons.  The text grows at its end only,
so what has been an offset between two characters stays one, and the text before it stays the same.
And a mark puts the space that separates tokens itself; after a mark, and as long as nothing is
appended, no token needs a space of its own.

A session is a builder together with the marks that it has handed out.  One step is a call; the step
lemmas say that a call only adds to a session, and that the spans it makes fit the text.  The run
lemmas follow by induction on the calls.
-/
import Gls.Proofs.Text.Unbroken
import Gls.Proofs.Tree.Parents
import Gls.Tree.Builder
import Mathlib.Logic.Relation

namespace Gls

/-! ### Places in a text -/

namespace Text

/-- The size of a text counts the bytes of its characters. -/
lemma utf8ByteSize_eq (s : String) : s.utf8ByteSize = byteLength s.toList := by
  conv_lhs => rw [← s.ofList_toList]
  induction s.toList with
  | nil => rfl
  | cons c cs ih =>
    rw [String.ofList_cons, String.utf8ByteSize_append, ih, String.utf8ByteSize_singleton,
      byteLength]

/-- The offset is an end of the text, or falls between two of its characters. -/
def Boundary (source : String) (offset : UInt32) : Prop :=
  ∃ before after, source = before ++ after ∧ offset.toNat = before.utf8ByteSize

namespace Boundary

variable {source : String} {offset : UInt32}

lemma append (h : Boundary source offset) (more : String) : Boundary (source ++ more) offset := by
  obtain ⟨before, after, rfl, hbefore⟩ := h
  exact ⟨before, after ++ more, String.append_assoc, hbefore⟩

lemma le (h : Boundary source offset) : offset.toNat ≤ source.utf8ByteSize := by
  obtain ⟨before, after, rfl, hbefore⟩ := h
  rw [hbefore, String.utf8ByteSize_append]
  exact Nat.le_add_right _ _

end Boundary

end Text

namespace Span

open Text

/-- The span runs forward, and its ends are boundaries of the text. -/
structure Fits (s : Span) (source : String) : Prop where
  forward : s.start ≤ s.stop
  start : Boundary source s.start
  stop : Boundary source s.stop

variable {s : Span} {source before mid : String}

lemma Fits.append (h : s.Fits source) (more : String) : s.Fits (source ++ more) :=
  ⟨h.forward, h.start.append more, h.stop.append more⟩

/-- The span begins after `before` and ends after `mid`, so that it cuts `mid` out of a text that
begins with both. -/
structure Cuts (s : Span) (before mid : String) : Prop where
  start : s.start.toNat = before.utf8ByteSize
  stop : s.stop.toNat = (before ++ mid).utf8ByteSize

lemma Cuts.fits (h : s.Cuts before mid) : s.Fits (before ++ mid) where
  forward := by
    rw [UInt32.le_iff_toNat_le, h.start, h.stop, String.utf8ByteSize_append]
    exact Nat.le_add_right _ _
  start := ⟨before, mid, rfl, h.start⟩
  stop := ⟨before ++ mid, "", (String.append_empty).symm, h.stop⟩

lemma Cuts.slice (h : s.Cuts before mid) (more : String) :
    s.slice (before ++ mid ++ more) = mid := by
  rw [Span.slice, h.start, h.stop, String.utf8ByteSize_append, utf8ByteSize_eq, utf8ByteSize_eq,
    String.toList_append, String.toList_append, slice?_append]
  exact mid.ofList_toList

end Span

namespace Builder

open Text

variable {b : Builder} {text : String}

/-! ### Appending text -/

lemma source_append (b : Builder) (text : String) : (b.append text).source = b.source ++ text := rfl

lemma append_empty (b : Builder) : b.append "" = b := by
  rw [append, String.append_empty]
  rfl

lemma toNat_offset (h : b.source.utf8ByteSize < UInt32.size) :
    b.offset.toNat = b.source.utf8ByteSize :=
  UInt32.toNat_ofNat_of_lt' h

lemma boundary_offset (h : b.source.utf8ByteSize < UInt32.size) : Boundary b.source b.offset :=
  ⟨b.source, "", (String.append_empty).symm, toNat_offset h⟩

/-- Nothing separates what follows from the text so far. -/
def Settled (b : Builder) : Prop :=
  ∀ prev, b.source.toList.getLast? = some prev → gluesAfter prev = true

lemma Settled.of_source_eq {c : Builder} (h : b.Settled) (hsource : c.source = b.source) :
    c.Settled := fun prev hprev => h prev (hsource ▸ hprev)

/-- A mark puts what separates the next token, and stands after it. -/
lemma exists_mark (b : Builder) :
    ∃ gap, b.mark = (b.append gap, (b.append gap).offset) ∧ (b.append gap).Settled := by
  cases hlast : b.source.toList.getLast? with
  | none =>
    refine ⟨"", ?_, fun prev h => ?_⟩
    · rw [append_empty, mark, hlast]
    · rw [append_empty, hlast] at h
      cases h
  | some prev =>
    by_cases hglued : gluesAfter prev = true
    · refine ⟨"", ?_, fun prev' h => ?_⟩
      · rw [append_empty, mark, hlast]
        simp only [hglued, if_true]
      · rw [append_empty, hlast] at h
        exact Option.some.inj h ▸ hglued
    · refine ⟨" ", ?_, fun prev' h => ?_⟩
      · rw [mark, hlast]
        simp only [hglued]
        rfl
      · -- The text now ends with the space, and after a space none is put.
        obtain rfl : ' ' = prev' := by simpa [source_append] using h
        decide

/-- A token is put after what separates it, and its span is its own. -/
lemma exists_push (b : Builder) (text : String) : ∃ gap, b.push text
    = ((b.append gap).append text,
        ⟨(b.append gap).offset, ((b.append gap).append text).offset⟩) := by
  cases hnext : text.toList.head? with
  | none =>
    refine ⟨"", ?_⟩
    rw [append_empty, push, hnext]
  | some next =>
    rw [push, hnext]
    dsimp only
    rw [separate]
    split
    · split_ifs
      · exact ⟨"", by rw [append_empty]⟩
      · exact ⟨" ", rfl⟩
    · exact ⟨"", by rw [append_empty]⟩

/-- Where nothing separates it, a token is put at once. -/
lemma push_of_settled (h : b.Settled) (text : String) :
    b.push text = (b.append text, ⟨b.offset, (b.append text).offset⟩) := by
  cases hnext : text.toList.head? with
  | none => rw [push, hnext]
  | some next =>
    have hseparate : b.separate next = b := by
      rw [separate]
      split
      · next prev hprev => rw [h prev hprev, Bool.true_or, if_pos rfl]
      · rfl
    rw [push, hnext]
    dsimp only
    rw [hseparate]

/-- The span of a token is where the token stands. -/
lemma exists_cuts_push (b : Builder) (text : String)
    (hsize : (b.push text).1.source.utf8ByteSize < UInt32.size) :
    ∃ gap, (b.push text).1.source = b.source ++ gap ++ text ∧
      (b.push text).2.Cuts (b.source ++ gap) text := by
  obtain ⟨gap, hpush⟩ := b.exists_push text
  rw [hpush] at hsize ⊢
  have hbefore : (b.append gap).source.utf8ByteSize < UInt32.size := by
    rw [source_append _ text, String.utf8ByteSize_append] at hsize
    omega
  exact ⟨gap, rfl, toNat_offset hbefore, toNat_offset hsize⟩

end Builder

/-! ### Adding nodes -/

/-- What a node is made with.  Its parent and its modifiers may change later. -/
def Node.made (n : Node) : Kind × Span × Payload := (n.kind, n.span, n.payload)

namespace Builder

open Text

variable {b : Builder}

/-- What the nodes were made with, in the order of their places. -/
def made (b : Builder) : List (Kind × Span × Payload) := b.arena.nodes.toList.map Node.made

/-- How many nodes there are, and the place of the next one. -/
def size (b : Builder) : Nat := b.arena.nodes.size

/-- The span of the node at a place. -/
def spanAt? (b : Builder) (place : Nat) : Option Span := b.arena.nodes[place]?.map Node.span

lemma length_made (b : Builder) : b.made.length = b.size := by simp [made, size]

lemma made_node (b : Builder) (kind : Kind) (span : Span) (payload : Payload) :
    (b.node kind span payload).1.made = b.made ++ [(kind, span, payload)] := by
  have hadopt : (Arena.adopt b.arena.nodes b.arena.nextId payload.children).toList.map Node.made
      = b.made := Arena.map_adopt (fun _ _ => rfl) _ _ _
  simp only [made, node, Arena.add, Array.toList_push, List.map_append, hadopt]
  rfl

lemma made_setModifiers (b : Builder) (n : NodeId) (modifiers : Modifiers) :
    (b.setModifiers n modifiers).made = b.made :=
  Arena.map_modify (g := fun node => { node with modifiers }) (fun _ => rfl) _ _

lemma spanAt?_eq (b : Builder) (place : Nat) : b.spanAt? place = b.made[place]?.map (·.2.1) := by
  rw [made, List.getElem?_map, Array.getElem?_toList, Option.map_map, spanAt?]
  rfl

lemma spanAt?_node (b : Builder) (kind : Kind) (span : Span) (payload : Payload) :
    (b.node kind span payload).1.spanAt? b.size = some span := by
  rw [spanAt?_eq, made_node, ← length_made, List.getElem?_concat_length]
  rfl

/-! ### Leaves -/

/-- A leaf that a builder can make. -/
inductive Leaf where
  | identifier (name : String)
  | number (text : String)
  | string (text : String)
  | literal (kind : Kind) (text : String)
  | token (kind : Kind)
  | rawType (kind : Kind) (text : String)

namespace Leaf

/-- Makes the leaf. -/
def make (b : Builder) : Leaf → Builder × NodeId
  | identifier name => b.identifier name
  | number text => b.number text
  | string text => b.string text
  | literal kind text => b.literal kind text
  | token kind => b.token kind
  | rawType kind text => b.rawType kind text

/-- The text that the leaf stands for. -/
def text : Leaf → String
  | identifier name => name
  | number text | string text | literal _ text | rawType _ text => text
  | token kind => kind.tokenText?.getD ""

/-- Every leaf is a token and a node for its span. -/
lemma exists_make (l : Leaf) (b : Builder) : ∃ kind payload,
    l.make b = (b.push l.text).1.node kind (b.push l.text).2 payload := by
  cases l <;> exact ⟨_, _, rfl⟩

/-- The node of a leaf has the next place, and its span is where the text of the leaf stands. -/
lemma exists_cuts_make (l : Leaf) (b : Builder)
    (hsize : (l.make b).1.source.utf8ByteSize < UInt32.size) :
    ∃ gap kind span payload, (l.make b).1.source = b.source ++ gap ++ l.text ∧
      (l.make b).1.made = b.made ++ [(kind, span, payload)] ∧
      span.Cuts (b.source ++ gap) l.text := by
  obtain ⟨kind, payload, hmake⟩ := l.exists_make b
  rw [hmake] at hsize ⊢
  obtain ⟨gap, hsource, hcuts⟩ := b.exists_cuts_push l.text hsize
  refine ⟨gap, kind, _, payload, hsource, ?_, hcuts⟩
  rw [made_node]
  obtain ⟨gap', hpush⟩ := b.exists_push l.text
  rw [hpush]
  rfl

/-- The node of a leaf has the next place. -/
lemma make_snd (l : Leaf) (b : Builder) : (l.make b).2 = .ofNat b.size := by
  obtain ⟨kind, payload, hmake⟩ := l.exists_make b
  obtain ⟨gap, hpush⟩ := b.exists_push l.text
  rw [hmake, hpush]
  rfl

end Leaf

/-! ### Sessions -/

/-- A builder and the marks that it has handed out, in order. -/
structure Session where
  builder : Builder := {}
  marks : List UInt32 := []

/-- A call of a builder.  Marks are named by the order in which they were handed out. -/
inductive Call where
  | mark
  | text (text : String)
  | newline
  | comment (text : String)
  | leaf (l : Leaf)
  | finish (mark : Nat) (kind : Kind) (payload : Payload)
  | finishFrom (first : NodeId) (kind : Kind) (payload : Payload)
  | setModifiers (n : NodeId) (modifiers : Modifiers)

/-- The text that a call puts into the source, if it is there to put a text. -/
def Call.text? : Call → Option String
  | .text piece | .comment piece => some piece
  | .leaf l => some l.text
  | .mark | .newline | .finish _ _ _ | .finishFrom _ _ _ | .setModifiers _ _ => none

namespace Session

/-- The session after a call.  A node can only be closed with a mark that there is. -/
def next? (s : Session) : Call → Option Session
  | .mark => some ⟨s.builder.mark.1, s.marks ++ [s.builder.mark.2]⟩
  | .text text => some { s with builder := s.builder.text text }
  | .newline => some { s with builder := s.builder.newline }
  | .comment text => some { s with builder := (s.builder.comment text).1 }
  | .leaf l => some { s with builder := (l.make s.builder).1 }
  | .finish i kind payload =>
    s.marks[i]?.map fun mark => { s with builder := (s.builder.finish mark kind payload).1 }
  | .finishFrom first kind payload =>
    some { s with builder := (s.builder.finishFrom first kind payload).1 }
  | .setModifiers n modifiers => some { s with builder := s.builder.setModifiers n modifiers }

/-- Calls lead from the first session to the second. -/
def Leads : Session → Session → Prop := Relation.ReflTransGen fun s t => ∃ c, s.next? c = some t

/-- The source text so far. -/
def source (s : Session) : String := s.builder.source

/-! ### What calls keep -/

/-- The second session goes on from the first: text, nodes and marks are only added. -/
structure Extends (s t : Session) : Prop where
  source : ∃ more, t.source = s.source ++ more
  made : s.builder.made <+: t.builder.made
  marks : s.marks <+: t.marks

namespace Extends

variable {s t u : Session}

lemma refl (s : Session) : Extends s s :=
  ⟨⟨"", String.append_empty.symm⟩, List.prefix_rfl, List.prefix_rfl⟩

lemma trans (h : Extends s t) (h' : Extends t u) : Extends s u := by
  obtain ⟨more, hmore⟩ := h.source
  obtain ⟨more', hmore'⟩ := h'.source
  refine ⟨⟨more ++ more', ?_⟩, h.made.trans h'.made, h.marks.trans h'.marks⟩
  rw [hmore', hmore, String.append_assoc]

lemma size_le (h : Extends s t) : s.source.utf8ByteSize ≤ t.source.utf8ByteSize := by
  obtain ⟨more, hmore⟩ := h.source
  rw [hmore, String.utf8ByteSize_append]
  exact Nat.le_add_right _ _

/-- A token is put after what there is. -/
lemma push (s : Session) (text : String) :
    Extends s { s with builder := (s.builder.push text).1 } := by
  obtain ⟨gap, hpush⟩ := s.builder.exists_push text
  rw [hpush]
  exact ⟨⟨gap ++ text, String.append_assoc⟩, List.prefix_rfl, List.prefix_rfl⟩

lemma node (s : Session) (kind : Kind) (span : Span) (payload : Payload) :
    Extends s { s with builder := (s.builder.node kind span payload).1 } := by
  refine ⟨⟨"", String.append_empty.symm⟩, ?_, List.prefix_rfl⟩
  rw [made_node]
  exact List.prefix_append _ _

/-- The step lemma. -/
lemma of_next {c : Call} (h : s.next? c = some t) : Extends s t := by
  cases c with
  | mark =>
    obtain rfl := Option.some.inj h
    obtain ⟨gap, hmark, -⟩ := s.builder.exists_mark
    rw [hmark]
    exact ⟨⟨gap, rfl⟩, List.prefix_rfl, List.prefix_append _ _⟩
  | text text =>
    obtain rfl := Option.some.inj h
    exact push s text
  | newline =>
    obtain rfl := Option.some.inj h
    exact ⟨⟨"\n", rfl⟩, List.prefix_rfl, List.prefix_rfl⟩
  | comment text =>
    obtain rfl := Option.some.inj h
    exact (push s text).trans ⟨⟨"\n", rfl⟩, List.prefix_rfl, List.prefix_rfl⟩
  | leaf l =>
    obtain rfl := Option.some.inj h
    obtain ⟨kind, payload, hmake⟩ := l.exists_make s.builder
    rw [hmake]
    exact (push s l.text).trans (node _ kind _ payload)
  | finish i kind payload =>
    obtain ⟨mark, -, rfl⟩ := Option.map_eq_some_iff.1 h
    exact node s kind _ payload
  | finishFrom first kind payload =>
    obtain rfl := Option.some.inj h
    exact node s kind _ payload
  | setModifiers n modifiers =>
    obtain rfl := Option.some.inj h
    refine ⟨⟨"", String.append_empty.symm⟩, ?_, List.prefix_rfl⟩
    exact (made_setModifiers s.builder n modifiers).symm ▸ List.prefix_rfl

/-- The run lemma. -/
lemma of_leads (h : Leads s t) : Extends s t := by
  induction h with
  | refl => exact refl s
  | tail _ hstep ih =>
    obtain ⟨c, hc⟩ := hstep
    exact ih.trans (of_next hc)

/-- Nodes keep their places and their spans. -/
lemma spanAt? (h : Extends s t) {place : Nat} {span : Span}
    (hspan : s.builder.spanAt? place = some span) : t.builder.spanAt? place = some span := by
  rw [spanAt?_eq] at hspan ⊢
  obtain ⟨entry, hentry, rfl⟩ := Option.map_eq_some_iff.1 hspan
  obtain ⟨more, hmore⟩ := h.made
  have hlt := (List.getElem?_eq_some_iff.1 hentry).1
  rw [← hmore, List.getElem?_append_left hlt, hentry]
  rfl

lemma mark (h : Extends s t) {i : Nat} {m : UInt32} (hm : s.marks[i]? = some m) :
    t.marks[i]? = some m := by
  obtain ⟨more, hmore⟩ := h.marks
  have hlt := (List.getElem?_eq_some_iff.1 hm).1
  rw [← hmore, List.getElem?_append_left hlt, hm]

end Extends

namespace Leads

variable {s t u : Session}

lemma of_next {c : Call} (h : s.next? c = some t) : Leads s t := .single ⟨c, h⟩

lemma trans (h : Leads s t) (h' : Leads t u) : Leads s u := Relation.ReflTransGen.trans h h'

lemma size_lt (h : Leads s t) (ht : t.source.utf8ByteSize < UInt32.size) :
    s.source.utf8ByteSize < UInt32.size :=
  Nat.lt_of_le_of_lt (Extends.of_leads h).size_le ht

end Leads

/-- All marks are boundaries of the text, and all nodes have spans that fit it. -/
structure Sound (s : Session) : Prop where
  marks : ∀ m ∈ s.marks, Boundary s.source m
  spans : ∀ entry ∈ s.builder.made, entry.2.1.Fits s.source

namespace Sound

variable {s t : Session} {b : Builder} {marks : List UInt32}

lemma append (h : Sound ⟨b, marks⟩) (text : String) : Sound ⟨b.append text, marks⟩ where
  marks m hm := (h.marks m hm).append text
  spans entry hentry := (h.spans entry hentry).append text

lemma push (h : Sound ⟨b, marks⟩) (text : String) : Sound ⟨(b.push text).1, marks⟩ := by
  obtain ⟨gap, hpush⟩ := b.exists_push text
  rw [hpush]
  exact (h.append gap).append text

lemma node (h : Sound ⟨b, marks⟩) (kind : Kind) {span : Span} (payload : Payload)
    (hfits : span.Fits b.source) : Sound ⟨(b.node kind span payload).1, marks⟩ where
  marks := h.marks
  spans entry hentry := by
    rw [made_node] at hentry
    rcases List.mem_append.1 hentry with hentry | hentry
    · exact h.spans entry hentry
    · obtain rfl := List.mem_singleton.1 hentry
      exact hfits

/-- A node may be closed that starts at a boundary. -/
lemma finish (h : Sound ⟨b, marks⟩) {mark : UInt32} (hmark : Boundary b.source mark)
    (hsize : b.source.utf8ByteSize < UInt32.size) (kind : Kind) (payload : Payload) :
    Sound ⟨(b.finish mark kind payload).1, marks⟩ := by
  refine h.node kind payload ⟨?_, hmark, boundary_offset hsize⟩
  rw [UInt32.le_iff_toNat_le, toNat_offset hsize]
  exact hmark.le

/-- The place where a node starts is a boundary, and so is the beginning of the text. -/
lemma boundary_span (h : Sound s) (n : NodeId) :
    Boundary s.source (s.builder.arena.span n).start := by
  rw [Arena.span, Arena.get?]
  cases hnode : s.builder.arena.nodes[n.toNat]? with
  | none => exact ⟨"", s.source, String.empty_append.symm, rfl⟩
  | some node =>
    have hmem : node.made ∈ s.builder.made :=
      List.mem_map_of_mem (Array.mem_toList_iff.2 (Array.mem_of_getElem? hnode))
    exact (h.spans _ hmem).start

/-- The step lemma. -/
lemma next (h : Sound s) {c : Call} (hc : s.next? c = some t)
    (hsize : t.source.utf8ByteSize < UInt32.size) : Sound t := by
  cases c with
  | mark =>
    obtain rfl := Option.some.inj hc
    obtain ⟨gap, hmark, -⟩ := s.builder.exists_mark
    rw [hmark]
    have hgap : Sound ⟨s.builder.append gap, s.marks⟩ := Sound.append h gap
    refine ⟨fun m hm => ?_, hgap.spans⟩
    rcases List.mem_append.1 hm with hm | hm
    · exact hgap.marks m hm
    · obtain rfl := List.mem_singleton.1 hm
      refine boundary_offset ?_
      rw [hmark] at hsize
      exact hsize
  | text text =>
    obtain rfl := Option.some.inj hc
    exact Sound.push h text
  | newline =>
    obtain rfl := Option.some.inj hc
    exact Sound.append h "\n"
  | comment text =>
    obtain rfl := Option.some.inj hc
    exact (Sound.push h text).append "\n"
  | leaf l =>
    obtain rfl := Option.some.inj hc
    obtain ⟨kind, payload, hmake⟩ := l.exists_make s.builder
    obtain ⟨gap, hsource, hcuts⟩ := s.builder.exists_cuts_push l.text (by
      rw [source, hmake] at hsize
      exact hsize)
    rw [hmake]
    exact (Sound.push h l.text).node kind payload (hsource ▸ hcuts.fits)
  | finish i kind payload =>
    obtain ⟨mark, hmark, rfl⟩ := Option.map_eq_some_iff.1 hc
    exact Sound.finish h (h.marks mark (List.mem_of_getElem? hmark)) hsize kind payload
  | finishFrom first kind payload =>
    obtain rfl := Option.some.inj hc
    exact Sound.finish h (h.boundary_span first) hsize kind payload
  | setModifiers n modifiers =>
    obtain rfl := Option.some.inj hc
    exact ⟨h.marks, (made_setModifiers s.builder n modifiers).symm ▸ h.spans⟩

/-- The run lemma. -/
lemma of_leads (h : Leads s t) (hs : Sound s) (hsize : t.source.utf8ByteSize < UInt32.size) :
    Sound t := by
  induction h with
  | refl => exact hs
  | tail _ hstep ih =>
    obtain ⟨c, hc⟩ := hstep
    exact (ih ((Leads.of_next hc).size_lt hsize)).next hc hsize

lemma start : Sound {} where
  marks m hm := by cases hm
  spans entry hentry := by cases hentry

end Sound

/-! ### What calls hand out -/

section Handed

variable {s t u : Session}

/-- A mark stands at the end of the text, and nothing separates what follows. -/
lemma exists_mark (h : s.next? .mark = some u) (hsize : u.source.utf8ByteSize < UInt32.size) :
    ∃ m, u.marks = s.marks ++ [m] ∧ m.toNat = u.source.utf8ByteSize ∧ u.builder.Settled := by
  obtain rfl := Option.some.inj h
  obtain ⟨gap, hmark, hsettled⟩ := s.builder.exists_mark
  rw [source, hmark] at hsize
  refine ⟨_, rfl, ?_, ?_⟩
  · rw [source, hmark]
    exact toNat_offset hsize
  · rw [hmark]
    exact hsettled

/-- A leaf keeps its place and its span, which is where its text stands. -/
lemma exists_leaf {l : Leaf} (h : s.next? (.leaf l) = some u) (ht : Leads u t)
    (hsize : t.source.utf8ByteSize < UInt32.size) : ∃ gap span,
      u.source = s.source ++ gap ++ l.text ∧ t.builder.spanAt? s.builder.size = some span ∧
      span.Cuts (s.source ++ gap) l.text := by
  have hkept := Extends.of_leads ht
  have hu := ht.size_lt hsize
  obtain rfl := Option.some.inj h
  obtain ⟨gap, kind, span, payload, hsource, hmade, hcuts⟩ := l.exists_cuts_make s.builder hu
  refine ⟨gap, span, hsource, hkept.spanAt? ?_, hcuts⟩
  rw [spanAt?_eq, hmade, ← length_made, List.getElem?_concat_length]
  rfl

/-- A node that is closed spans from its mark to the end of the text. -/
lemma exists_finish {i : Nat} {kind : Kind} {payload : Payload}
    (h : s.next? (.finish i kind payload) = some u) (ht : Leads u t) :
    ∃ m, s.marks[i]? = some m ∧ u.source = s.source ∧
      t.builder.spanAt? s.builder.size = some ⟨m, s.builder.offset⟩ := by
  have hkept := Extends.of_leads ht
  obtain ⟨m, hm, rfl⟩ := Option.map_eq_some_iff.1 h
  exact ⟨m, hm, rfl, hkept.spanAt? (spanAt?_node _ _ _ _)⟩

/-- The span of the token that a call appends, where the call hands it out: for a comment as its
result, and for a leaf with its node. -/
def span? (s : Session) : Call → Option Span
  | .comment text => some (s.builder.comment text).2
  | .leaf l => (l.make s.builder).1.spanAt? s.builder.size
  | .mark | .text _ | .newline | .finish _ _ _ | .finishFrom _ _ _ | .setModifiers _ _ => none

/-- Where nothing separates it, a token starts where the text so far ends. -/
lemma starts_of_settled {c : Call} {text : String} (hsettled : s.builder.Settled)
    (h : s.next? c = some u) (htext : c.text? = some text) :
    (∃ ending, u.source = s.source ++ text ++ ending) ∧
      ∀ span, s.span? c = some span → span.start = s.builder.offset := by
  have hpush := push_of_settled hsettled text
  cases c with
  | text piece =>
    obtain rfl := Option.some.inj htext
    obtain rfl := Option.some.inj h
    refine ⟨⟨"", ?_⟩, fun span hspan => by cases hspan⟩
    rw [source, Builder.text, hpush, String.append_empty]
    rfl
  | comment piece =>
    obtain rfl := Option.some.inj htext
    obtain rfl := Option.some.inj h
    refine ⟨⟨"\n", ?_⟩, fun span hspan => ?_⟩
    · rw [source, comment, hpush]
      rfl
    · obtain rfl := Option.some.inj hspan
      rw [comment, hpush]
  | leaf l =>
    obtain rfl := Option.some.inj htext
    obtain rfl := Option.some.inj h
    obtain ⟨kind, payload, hmake⟩ := l.exists_make s.builder
    rw [hpush] at hmake
    refine ⟨⟨"", ?_⟩, fun span hspan => ?_⟩
    · rw [source, hmake, String.append_empty]
      rfl
    · rw [span?, hmake] at hspan
      obtain rfl := Option.some.inj ((spanAt?_node _ _ _ _).symm.trans hspan)
      rfl
  | mark | newline | finish | finishFrom | setModifiers => cases htext

end Handed

/-- The spans that were handed out on the way to a session index its text. -/
structure IndexesText (t : Session) : Prop where
  /-- The node of a leaf has the text that the leaf was made from: its span cuts this text out of
  the source, and whoever names its place reads this text. -/
  leaf_text : ∀ {s u : Session} {l : Leaf}, s.next? (.leaf l) = some u → Leads u t →
    l.text ≠ "" →
      (∃ span, t.builder.spanAt? s.builder.size = some span ∧ span.slice t.source = l.text) ∧
      ∀ n : NodeId, n.toNat = s.builder.size → t.builder.arena.text n = l.text
  /-- The call that makes a leaf names its place, as long as 32 bits can tell it. -/
  leaf_named : ∀ {s u : Session} {l : Leaf}, s.next? (.leaf l) = some u → Leads u t →
    s.builder.size < UInt32.size → (l.make s.builder).2.toNat = s.builder.size
  /-- When nothing has been appended since a mark, the next token starts at the mark. -/
  token_at_mark : ∀ {s u v w : Session} {c : Call} {text : String}, s.next? .mark = some u →
    Leads u v → v.source = u.source → v.next? c = some w → c.text? = some text → Leads w t →
      ∃ m ending, u.marks = s.marks ++ [m] ∧ m.toNat = v.source.utf8ByteSize ∧
        w.source = v.source ++ text ++ ending ∧ ∀ span, v.span? c = some span → span.start = m
  /-- A node that is closed spans from its mark to the end of the text at that time. -/
  finished : ∀ {s u : Session} {i : Nat} {kind : Kind} {payload : Payload},
    s.next? (.finish i kind payload) = some u → Leads u t →
      ∃ span, t.builder.spanAt? s.builder.size = some span ∧ s.marks[i]? = some span.start ∧
        span.stop.toNat = s.source.utf8ByteSize
  /-- A node that is closed contains the leaves that were made since its mark. -/
  finished_contains : ∀ {s u v w x y : Session} {l : Leaf} {kind : Kind} {payload : Payload},
    s.next? .mark = some u → Leads u v → v.next? (.leaf l) = some w → Leads w x →
    x.next? (.finish s.marks.length kind payload) = some y → Leads y t →
      ∃ outer inner, t.builder.spanAt? x.builder.size = some outer ∧
        t.builder.spanAt? v.builder.size = some inner ∧ outer.contains inner = true
  /-- A leaf ends before every later leaf begins. -/
  leaves_increase : ∀ {s u v w : Session} {l l' : Leaf}, s.next? (.leaf l) = some u →
    Leads u v → v.next? (.leaf l') = some w → Leads w t →
      ∃ first second, t.builder.spanAt? s.builder.size = some first ∧
        t.builder.spanAt? v.builder.size = some second ∧ first.stop ≤ second.start ∧
        (l.text ≠ "" → first.start < second.start)
  /-- The spans of all nodes run forward between boundaries of the text. -/
  fits : ∀ place span, t.builder.spanAt? place = some span → span.Fits t.source
  /-- So do the spans of comments, and the comment stands there. -/
  comment : ∀ {s u : Session} {text : String}, s.next? (.comment text) = some u → Leads u t →
    (s.builder.comment text).2.Fits t.source ∧ (s.builder.comment text).2.slice t.source = text

section Reached

variable {s t u v w x y : Session} {l l' : Leaf} {c : Call} {text : String} {i : Nat} {kind : Kind}
  {payload : Payload} (hsize : t.source.utf8ByteSize < UInt32.size)
include hsize

/-- The text of a leaf stays where it is, and its node reads as this text. -/
lemma leaf_text (h : s.next? (.leaf l) = some u) (ht : Leads u t) (hl : l.text ≠ "") :
    (∃ span, t.builder.spanAt? s.builder.size = some span ∧ span.slice t.source = l.text) ∧
    ∀ n : NodeId, n.toNat = s.builder.size → t.builder.arena.text n = l.text := by
  obtain ⟨gap, span, hsource, hspan, hcuts⟩ := exists_leaf h ht hsize
  obtain ⟨more, hmore⟩ := (Extends.of_leads ht).source
  have hslice : span.slice t.builder.arena.sourceText = l.text := by
    show span.slice t.source = l.text
    rw [hmore, hsource]
    exact hcuts.slice more
  refine ⟨⟨span, hspan, hslice⟩, fun n hn => ?_⟩
  obtain ⟨node, hnode, rfl⟩ := Option.map_eq_some_iff.1 hspan
  have hempty : l.text.isEmpty = false := by simpa using hl
  rw [Arena.text, Arena.get?, hn, hnode]
  dsimp only
  rw [hslice, hempty]
  rfl

/-- A mark keeps the text settled until something is appended. -/
lemma token_at_mark (h : s.next? .mark = some u) (hquiet : v.source = u.source)
    (hc : v.next? c = some w) (htext : c.text? = some text) (ht : Leads w t) :
    ∃ m ending, u.marks = s.marks ++ [m] ∧ m.toNat = v.source.utf8ByteSize ∧
      w.source = v.source ++ text ++ ending ∧ ∀ span, v.span? c = some span → span.start = m := by
  have hv : v.source.utf8ByteSize < UInt32.size := ((Leads.of_next hc).trans ht).size_lt hsize
  obtain ⟨m, hm, hmark, hsettled⟩ := exists_mark h (hquiet ▸ hv)
  rw [← hquiet] at hmark
  have hoffset : v.builder.offset = m := UInt32.toNat_inj.1 ((toNat_offset hv).trans hmark.symm)
  obtain ⟨⟨ending, hending⟩, hspan⟩ :=
    starts_of_settled (hsettled.of_source_eq hquiet) hc htext
  exact ⟨m, ending, hm, hmark, hending, fun span hs => (hspan span hs).trans hoffset⟩

lemma finished (h : s.next? (.finish i kind payload) = some u) (ht : Leads u t) :
    ∃ span, t.builder.spanAt? s.builder.size = some span ∧ s.marks[i]? = some span.start ∧
      span.stop.toNat = s.source.utf8ByteSize := by
  obtain ⟨m, hm, -, hspan⟩ := exists_finish h ht
  exact ⟨_, hspan, hm, toNat_offset (((Leads.of_next h).trans ht).size_lt hsize)⟩

/-- The leaf begins after the mark and ends before the node is closed. -/
lemma finished_contains (h : s.next? .mark = some u) (huv : Leads u v)
    (hleaf : v.next? (.leaf l) = some w) (hwx : Leads w x)
    (hfinish : x.next? (.finish s.marks.length kind payload) = some y) (ht : Leads y t) :
    ∃ outer inner, t.builder.spanAt? x.builder.size = some outer ∧
      t.builder.spanAt? v.builder.size = some inner ∧ outer.contains inner = true := by
  have hxt := (Leads.of_next hfinish).trans ht
  have hux := huv.trans ((Leads.of_next hleaf).trans hwx)
  obtain ⟨m, hmarks, hmark, -⟩ := exists_mark h ((hux.trans hxt).size_lt hsize)
  obtain ⟨gap, inner, hw, hinner, hspan⟩ := exists_leaf hleaf (hwx.trans hxt) hsize
  obtain ⟨outer, houter, hstart, hstop⟩ := finished hsize hfinish ht
  -- Marks keep their numbers, so the node is closed with the mark of the first call.
  have hm : outer.start = m := by
    have hkept := (Extends.of_leads hux).mark (hmarks ▸ List.getElem?_concat_length)
    exact Option.some.inj (hstart.symm.trans hkept)
  have hlow : outer.start ≤ inner.start := by
    have hle := (Extends.of_leads huv).size_le
    rw [UInt32.le_iff_toNat_le, hm, hmark, hspan.start, String.utf8ByteSize_append]
    omega
  have hhigh : inner.stop ≤ outer.stop := by
    rw [UInt32.le_iff_toNat_le, hspan.stop, hstop, ← hw]
    exact (Extends.of_leads hwx).size_le
  exact ⟨outer, inner, houter, hinner, by simp [Span.contains, hlow, hhigh]⟩

lemma leaves_increase (h : s.next? (.leaf l) = some u) (huv : Leads u v)
    (h' : v.next? (.leaf l') = some w) (ht : Leads w t) :
    ∃ first second, t.builder.spanAt? s.builder.size = some first ∧
      t.builder.spanAt? v.builder.size = some second ∧ first.stop ≤ second.start ∧
      (l.text ≠ "" → first.start < second.start) := by
  obtain ⟨gap, first, hu, hfirst, hcuts⟩ :=
    exists_leaf h (huv.trans ((Leads.of_next h').trans ht)) hsize
  obtain ⟨gap', second, -, hsecond, hcuts'⟩ := exists_leaf h' ht hsize
  -- The first leaf ends where the text then ended, and the second is put after that.
  have hle : first.stop.toNat ≤ second.start.toNat := by
    have hle := (Extends.of_leads huv).size_le
    rw [hcuts.stop, hcuts'.start, ← hu, String.utf8ByteSize_append]
    omega
  refine ⟨first, second, hfirst, hsecond, hle, fun hl => ?_⟩
  have hpos : 0 < l.text.utf8ByteSize :=
    Nat.pos_of_ne_zero fun hzero => hl (String.utf8ByteSize_eq_zero_iff.1 hzero)
  rw [hcuts.stop, String.utf8ByteSize_append] at hle
  rw [UInt32.lt_iff_toNat_lt, hcuts.start]
  omega

lemma comment_span (h : s.next? (.comment text) = some u) (ht : Leads u t) :
    (s.builder.comment text).2.Fits t.source ∧
      (s.builder.comment text).2.slice t.source = text := by
  obtain ⟨more, hmore⟩ := (Extends.of_leads ht).source
  have hu := ht.size_lt hsize
  obtain rfl := Option.some.inj h
  have hpush : (s.builder.push text).1.source.utf8ByteSize < UInt32.size := by
    have hsource : Session.source ⟨(s.builder.comment text).1, s.marks⟩
        = (s.builder.push text).1.source ++ "\n" := rfl
    rw [hsource, String.utf8ByteSize_append] at hu
    omega
  obtain ⟨gap, hsource, hcuts⟩ := s.builder.exists_cuts_push text hpush
  have ht : t.source = s.builder.source ++ gap ++ text ++ ("\n" ++ more) := by
    rw [hmore, ← hsource, ← String.append_assoc]
    rfl
  rw [ht]
  exact ⟨hcuts.fits.append _, hcuts.slice _⟩

end Reached

/-- However a builder is called: as long as the source has less than `2 ^ 32` bytes, the spans and
marks that it hands out index the source. -/
theorem spans_index_text {t : Session} (ht : Leads {} t)
    (hsize : t.source.utf8ByteSize < UInt32.size) : t.IndexesText where
  leaf_text := leaf_text hsize
  leaf_named _ _ hplace := by rw [Leaf.make_snd, NodeId.toNat_ofNat hplace]
  token_at_mark h _ := token_at_mark hsize h
  finished := finished hsize
  finished_contains := finished_contains hsize
  leaves_increase := leaves_increase hsize
  fits place span hspan := by
    rw [spanAt?_eq] at hspan
    obtain ⟨entry, hentry, rfl⟩ := Option.map_eq_some_iff.1 hspan
    exact (Sound.of_leads ht .start hsize).spans entry (List.mem_of_getElem? hentry)
  comment := comment_span hsize

/-- A construction is written and closed. -/
def newPoint : Session where
  builder := (((({} : Builder).text "new").identifier "Point").1.text "()").finish 0
    .newExpression (.call ⟨⟨0⟩, [], []⟩) |>.1
  marks := [0]

lemma leads_newPoint : ∃ s u, Leads {} s ∧ s.builder.size = 0 ∧
    s.next? (.leaf (.identifier "Point")) = some u ∧ Leads u newPoint := by
  refine ⟨⟨({} : Builder).text "new", [0]⟩, _, ?_, rfl, rfl, ?_⟩
  · exact (Leads.of_next (c := .mark) rfl).trans (.of_next (c := .text "new") rfl)
  · exact (Leads.of_next (c := .text "()") rfl).trans (.of_next (c := .finish 0 _ _) rfl)

/-- The name reads as the text that it was made from, and the span of the construction fits the
source. -/
theorem new_point_indexed : newPoint.source = "new Point()" ∧
    newPoint.builder.arena.text ⟨0⟩ = "Point" ∧ Span.Fits ⟨0, 11⟩ newPoint.source := by
  obtain ⟨s, u, hs, hsize, hleaf, ht⟩ := leads_newPoint
  have hsource : newPoint.source = "new Point()" := rfl
  have hindexes := spans_index_text ((hs.trans (.of_next hleaf)).trans ht) (by
    rw [hsource]
    decide)
  exact ⟨hsource, (hindexes.leaf_text hleaf ht (by decide)).2 ⟨0⟩ hsize.symm,
    hindexes.fits 1 ⟨0, 11⟩ rfl⟩

end Session

end Builder

end Gls
