/-
# Documents are read as they were written

A document that is written as text and read again is the same document with its parents linked.  So
nothing changes for a document that was itself read from text; and where the tree was built bottom
up, its parents are linked already, and the document that is read back is transformed as before.
-/
import Gls.Proofs.Tree.Parents
import Gls.Proofs.Types.Codec
import Gls.Transform

namespace Gls

open Json (RoundTrips clean_ofMembers)

namespace Document

lemma roundTrips : RoundTrips toJson ofJson? where
  clean d := clean_ofMembers (by
    simp [Json.clean_ofString, Arena.roundTrips.clean, TypeTable.roundTrips.clean])
  read d := by
    simp [ofJson?, toJson, RoundTrips.string.read, Arena.roundTrips.read,
      TypeTable.roundTrips.read]

lemma read?_write_eq (d : Document) : read? d.write = some d.linkParents := by
  rw [read?, write, Json.parse?_pretty (roundTrips.clean d), Option.bind_some, roundTrips.read,
    Option.map_some]

lemma linkParents_linkParents (d : Document) : d.linkParents.linkParents = d.linkParents := by
  simp [linkParents, Arena.linkParents_linkParents]

/-- A document that was read has its parents linked. -/
lemma linkParents_of_read? {text : String} {d : Document} (h : read? text = some d) :
    d.linkParents = d := by
  obtain ⟨d', -, rfl⟩ := Option.map_eq_some_iff.1 h
  exact d'.linkParents_linkParents

lemma linkParents_of_built {d : Document} (h : d.arena.Built) : d.linkParents = d := by
  rw [linkParents, h.linkParents_eq]

end Document

/-- Reading a document that was written gives the document with its parents linked; that is the
document itself when it was read before, and for a tree that was built bottom up the document that
is read comes to the same result, whatever the commands and the options. -/
theorem document_round_trip :
    (∀ d : Document, Document.read? d.write
      = some { d with arena := d.arena.linkParents }) ∧
    (∀ (text : String) (d : Document), Document.read? text = some d →
      Document.read? d.write = some d) ∧
    (∀ d : Document, d.arena.Built → ∀ (catalog : Catalog) (options : Options),
      (Document.read? d.write).map (fun d' => d'.transform catalog options)
        = some (d.transform catalog options)) := by
  refine ⟨Document.read?_write_eq, fun text d h => ?_, fun d h catalog options => ?_⟩
  · rw [d.read?_write_eq, Document.linkParents_of_read? h]
  · rw [d.read?_write_eq, Document.linkParents_of_built h, Option.map_some]

/-- A document of two nodes, with modifiers that have no name and a type that belongs to a node. -/
def flaggedDocument : Document where
  fileName := "a \"b\".ts"
  arena := (((({} : Arena).add .identifier ⟨0, 1⟩ (.identifier "a")).setModifiers ⟨0⟩
    ⟨0x8401#16⟩).add .sourceFile ⟨0, 1⟩ (.list [⟨0⟩]))
  root := ⟨1⟩
  types := {
    types := #[{ flags := ⟨0x80000084#32⟩ }]
    nodeTypes := OrderedMap.empty.insert ⟨0⟩ ⟨0⟩ }

theorem flagged_document_round_trip :
    flaggedDocument.arena.Built ∧
    Document.read? flaggedDocument.write = some flaggedDocument ∧
    (Document.read? flaggedDocument.write).map (fun d => d.transform Catalog.builtin {})
      = some (flaggedDocument.transform Catalog.builtin {}) := by
  have hbuilt : flaggedDocument.arena.Built :=
    .add .sourceFile ⟨0, 1⟩ (.setModifiers ⟨0⟩ ⟨0x8401#16⟩
      (.add .identifier ⟨0, 1⟩ (.empty "") (by decide))) (by decide)
  have hread : Document.read? flaggedDocument.write = some flaggedDocument := by
    rw [Document.read?_write_eq, Document.linkParents_of_built hbuilt]
  exact ⟨hbuilt, document_round_trip.2.1 _ _ hread,
    document_round_trip.2.2 flaggedDocument hbuilt Catalog.builtin {}⟩

end Gls
