/-
# Values that are read as they were written

`RoundTrips write read` says that what `write` makes of a value is clean, so that it survives being
printed, and that `read` makes the value of it again.  It holds of texts and numbers, and passes from
the parts of a list, of an option or of a map to the whole.  A record that is written with its own
field names, each of them once, is read as it was written.
-/
import Gls.Json.Decode
import Gls.Proofs.Json.Reading

namespace Gls

/-! ### Maps -/

namespace OrderedMap

variable {κ α : Type} [DecidableEq κ]

lemma put_of_not_mem {k : κ} {v : α} {es : List (κ × α)} (h : k ∉ es.map Prod.fst) :
    put k v es = es ++ [(k, v)] := by
  induction es with
  | nil => rfl
  | cons e es ih =>
    rw [List.map_cons, List.mem_cons, not_or] at h
    rw [put, if_neg (fun he => h.1 he.symm), ih h.2, List.cons_append]

/-- Entries with keys of their own are written one after the other. -/
lemma entries_foldl_insert {es : List (κ × α)} (m : OrderedMap κ α)
    (h : ((m.entries ++ es).map Prod.fst).Nodup) :
    (es.foldl (fun m e => m.insert e.1 e.2) m).entries = m.entries ++ es := by
  induction es generalizing m with
  | nil => simp
  | cons e es ih =>
    -- The key is new, so the entry goes to the end.
    have hput : (m.insert e.1 e.2).entries = m.entries ++ [e] := by
      refine put_of_not_mem fun hmem => ?_
      rw [List.map_append, List.nodup_append] at h
      exact h.2.2 _ hmem _ (List.mem_map_of_mem List.mem_cons_self) rfl
    rw [List.foldl_cons, ih _ (by rw [hput, List.append_assoc]; exact h), hput, List.append_assoc]
    rfl

/-- The map of the entries of a map is that map. -/
@[simp] lemma ofList_entries (m : OrderedMap κ α) : ofList m.entries = m := by
  refine ext_entries ?_
  rw [ofList, entries_foldl_insert empty (by simpa [empty] using m.nodup)]
  rfl

end OrderedMap

namespace Json

variable {α β : Type}

/-! ### Clean values -/

lemma clean_ofString (text : String) : Clean (ofString text) := .str text

lemma clean_ofMembers {ms : List (String × Json)} (h : ∀ m ∈ ms, Clean m.2) :
    Clean (ofMembers ms) := by
  refine .obj (fun m hm => ?_) (fun m hm => ?_)
  · obtain ⟨n, -, rfl⟩ := List.mem_map.1 hm
    exact ⟨n.1, rfl⟩
  · obtain ⟨n, hn, rfl⟩ := List.mem_map.1 hm
    exact h n hn

lemma clean_ofVariant (name : String) {payload : Json} (h : Clean payload) :
    Clean (ofVariant name payload) :=
  clean_ofMembers (by simpa using h)

/-! ### Writing and reading -/

/-- Items that are read one by one as they were written are read together. -/
lemma mapM_map_of_read {write : α → β} {read : β → Option α} (h : ∀ x, read (write x) = some x)
    (xs : List α) : (xs.map write).mapM read = some xs := by
  induction xs with
  | nil => rfl
  | cons x xs ih => rw [List.map_cons, List.mapM_cons, h, ih]; rfl

/-- What is written of a value is clean, and is read as that value. -/
structure RoundTrips (write : α → Json) (read : Json → Option α) : Prop where
  clean : ∀ x, Clean (write x)
  read : ∀ x, read (write x) = some x

namespace RoundTrips

variable {write : α → Json} {read : Json → Option α}

lemma string : RoundTrips ofString asString? where
  clean := clean_ofString
  read text := unescape?_escape text

lemma uint32 : RoundTrips (fun n : UInt32 => ofNat n.toNat) asUInt32? where
  clean n := .nat n.toNat
  read n := by
    show (if n.toNat < UInt32.size then some (UInt32.ofNat n.toNat) else none) = some n
    rw [if_pos n.toNat_lt, UInt32.ofNat_toNat]

/-- What is read may be wrapped, where writing unwraps it. -/
lemma wrap (h : RoundTrips write read) {f : α → β} {g : β → α} (hfg : ∀ y, f (g y) = y) :
    RoundTrips (fun y => write (g y)) (fun v => (read v).map f) where
  clean y := h.clean (g y)
  read y := by rw [h.read, Option.map_some, hfg]

lemma list (h : RoundTrips write read) : RoundTrips (ofList write) (asList? read) where
  clean xs := .arr fun v hv => by
    obtain ⟨x, -, rfl⟩ := List.mem_map.1 hv
    exact h.clean x
  read xs := mapM_map_of_read h.read xs

/-- A value that is never written as `null` may be absent. -/
lemma nullable (h : RoundTrips write read) (hnull : ∀ x, write x ≠ null) :
    RoundTrips (ofOption write) (asNullable? read) where
  clean o := by
    cases o with
    | none => exact .null
    | some x => exact h.clean x
  read o := by
    cases o with
    | none => rfl
    | some x =>
      have hvalue : asNullable? read (write x) = (read (write x)).map some := by
        unfold asNullable?
        split
        · rename_i heq
          exact absurd heq (hnull x)
        · rfl
      exact hvalue.trans (by rw [h.read, Option.map_some])

/-- A map is written with its keys as names, in order. -/
lemma map {κ : Type} [DecidableEq κ] (h : RoundTrips write read) (name : κ → String)
    (key : String → Option κ) (hkey : ∀ k, key (escape (name k)) = some k) :
    RoundTrips (fun m : OrderedMap κ α => ofMembers (m.entries.map fun e => (name e.1, write e.2)))
      (asMap? key read) where
  clean m := clean_ofMembers fun v hv => by
    obtain ⟨e, -, rfl⟩ := List.mem_map.1 hv
    exact h.clean e.2
  read m := by
    have hentry : ∀ e : κ × α, ((key (escape (name e.1))).bind fun k =>
        (read (write e.2)).map fun v => (k, v)) = some e := by
      intro e
      rw [hkey, Option.bind_some, h.read, Option.map_some]
    rw [ofMembers, asMap?, List.map_map, mapM_map_of_read hentry, Option.map_some,
      OrderedMap.ofList_entries]

end RoundTrips

/-! ### Records -/

namespace Record

lemma known?_escape {names : List String} {strict : Bool} {ms : List (String × Json)}
    (hnodup : (ms.map Prod.fst).Nodup) (hnames : ∀ m ∈ ms, m.1 ∈ names) :
    known? names strict (ms.map fun m => (escape m.1, m.2)) = some ms := by
  induction ms with
  | nil => rfl
  | cons m ms ih =>
    rw [List.map_cons, List.nodup_cons] at hnodup
    obtain ⟨hm, hms⟩ := List.forall_mem_cons.1 hnames
    have hfresh : ms.any (fun e => e.1 == m.1) = false := by
      rw [List.any_eq_false]
      intro e he heq
      exact hnodup.1 (beq_iff_eq.1 heq ▸ List.mem_map_of_mem he)
    simp [known?, ih hnodup.2 hms, hm, hfresh]

/-- A record that is written with its own names is read as it was written. -/
@[simp] lemma ofJson?_ofMembers {names : List String} {strict : Bool} {ms : List (String × Json)}
    (hnodup : (ms.map Prod.fst).Nodup) (hnames : ∀ m ∈ ms, m.1 ∈ names) :
    ofJson? names strict (ofMembers ms) = some ⟨true, ms⟩ := by
  rw [ofMembers, ofJson?, known?_escape hnodup hnames, Option.map_some]

@[simp] lemma find?_nil (keyed : Bool) (name : String) : find? ⟨keyed, []⟩ name = none := rfl

@[simp] lemma find?_cons (keyed : Bool) (m : String × Json) (ms : List (String × Json))
    (name : String) :
    find? ⟨keyed, m :: ms⟩ name = if m.1 = name then some m.2 else find? ⟨keyed, ms⟩ name := by
  by_cases h : m.1 = name <;> simp [find?, h]

attribute [simp] required? withDefault? optional? nullable?

end Record

/-! ### Variants -/

@[simp] lemma variant?_ofString (name : String) : variant? (ofString name) = some (name, none) := by
  simp [variant?, ofString]

@[simp] lemma variant?_ofVariant (name : String) (payload : Json) :
    variant? (ofVariant name payload) = some (name, some payload) := by
  simp [variant?, ofVariant, ofMembers]

end Json

end Gls
