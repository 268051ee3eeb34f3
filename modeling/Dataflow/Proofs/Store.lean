import Dataflow.Proofs.Editing
import Dataflow.Proofs.Record

/-!
# Documents in stores

A document is scattered over the records of a store: one for each node and one for the rest. Keys of
nodes begin alike and tell their ids apart, and none of them is the key of the outline, so whatever
the store held before, loading finds every record that saving wrote. A document that is normal
comes back as it was. All else in the store stays, but for nodes that the store listed before and
that are gone: their records become null.
-/

namespace Dataflow

namespace Document

/-- What a store gives back as it was: nodes with different ids, nothing to be made normal, and a
counter that a new document can be moved to. -/
structure Storable (document : Document) : Prop where
  /-- No two nodes have the same id. -/
  ids : document.nodeIds.Nodup
  /-- Normalizing succeeds and changes nothing. -/
  normal : ∃ count, document.normalize = (document, .ok count)
  /-- The counter is not before the first number. -/
  counter : firstOrdinal ≤ document.nextOrdinal

/-- A document that comes from edits of an empty one can be stored. -/
theorem Reachable.storable {document : Document} (h : Reachable document) : document.Storable where
  ids := h.wellFormed.ids
  normal := ⟨0, h.wellFormed.normalize_eq⟩
  counter := h.firstOrdinal_le

end Document

namespace Store

/-! ## Keys -/

/-- Different nodes have different keys. -/
theorem nodeKey_injective {first second : String} (h : nodeKey first = nodeKey second) :
    first = second := by
  have hlists := congrArg String.toList h
  simp only [nodeKey, String.toList_append, List.append_cancel_left_eq] at hlists
  exact String.toList_inj.mp hlists

/-- No node can take the place of the outline, whatever its id. -/
theorem nodeKey_ne_outlineKey (id : String) : nodeKey id ≠ outlineKey := by
  intro h
  have hheads := congrArg (fun key => key.toList.head?) h
  simp [nodeKey, outlineKey] at hheads

/-! ## Several records -/

/-- Set records one after another. -/
def setEach (store : Store) (entries : List (String × Json)) : Store :=
  entries.foldl (fun store entry => store.set entry.1 entry.2) store

@[simp] theorem cells_setEach (store : Store) (entries : List (String × Json)) :
    (store.setEach entries).cells = store.cells := by
  induction entries generalizing store with
  | nil => rfl
  | cons entry rest ih => exact ih (store.set entry.1 entry.2)

/-- A record whose key is not set stays. -/
theorem get?_setEach_of_notMem {store : Store} {entries : List (String × Json)} {key : String}
    (h : key ∉ entries.map Prod.fst) : (store.setEach entries).get? key = store.get? key := by
  induction entries generalizing store with
  | nil => rfl
  | cons entry rest ih =>
    have hne : key ≠ entry.1 := fun heq => h (heq ▸ List.mem_cons_self)
    have hrest : key ∉ rest.map Prod.fst := fun hmem => h (List.mem_cons_of_mem _ hmem)
    calc (store.setEach (entry :: rest)).get? key
        = (store.set entry.1 entry.2).get? key := ih hrest
      _ = store.get? key := Dictionary.get?_insert_of_ne store.records entry.2 hne

/-- A record is found where it was set, if nothing else was set there. -/
theorem get?_setEach_of_mem {store : Store} {entries : List (String × Json)} {key : String}
    {value : Json} (hmem : (key, value) ∈ entries)
    (hall : ∀ entry ∈ entries, entry.1 = key → entry.2 = value) :
    (store.setEach entries).get? key = some value := by
  induction entries generalizing store with
  | nil => exact absurd hmem List.not_mem_nil
  | cons entry rest ih =>
    have hrest : ∀ other ∈ rest, other.1 = key → other.2 = value :=
      fun other hother => hall other (List.mem_cons_of_mem _ hother)
    by_cases hlater : key ∈ rest.map Prod.fst
    · obtain ⟨other, hother, rfl⟩ := List.mem_map.mp hlater
      obtain rfl := hrest other hother rfl
      exact ih hother hrest
    · have hfirst : (key, value) = entry := by
        rcases List.mem_cons.mp hmem with heq | hin
        · exact heq
        · exact absurd (List.mem_map_of_mem hin) hlater
      calc (store.setEach (entry :: rest)).get? key
          = (store.set entry.1 entry.2).get? key := get?_setEach_of_notMem hlater
        _ = some value := by
          rw [← hfirst]
          exact Dictionary.get?_insert_self store.records key value

/-! ## What saving sets -/

/-- The records that saving a document sets. -/
def savedRecords (store : Store) (document : Document) : List (String × Json) :=
  document.nodes.map (fun node => (nodeKey node.id, node.toJson)) ++
    ((store.listedNodes.filter fun id => !document.contains id).map fun id =>
      (nodeKey id, Json.null)) ++
    [(outlineKey, (Outline.ofDocument document).toJson)]

/-- Saving a document is setting its records. -/
theorem save_eq_setEach (store : Store) (document : Document) :
    store.save document = store.setEach (store.savedRecords document) := by
  simp only [save, setEach, savedRecords, List.foldl_append, List.foldl_map, List.foldl_cons,
    List.foldl_nil]

/-- Saving sets a record for every node, empties those of nodes that are gone, and sets the outline.
-/
theorem mem_savedRecords {store : Store} {document : Document} {entry : String × Json} :
    entry ∈ store.savedRecords document ↔
      (∃ node ∈ document.nodes, entry = (nodeKey node.id, node.toJson)) ∨
      (∃ id ∈ store.listedNodes, id ∉ document.nodeIds ∧ entry = (nodeKey id, .null)) ∨
      entry = (outlineKey, (Outline.ofDocument document).toJson) := by
  have hgone (id : String) : (!document.contains id) = true ↔ id ∉ document.nodeIds := by
    rw [← Document.contains_iff]
    simp
  simp only [savedRecords, List.mem_append, List.mem_map, List.mem_filter, List.mem_singleton,
    hgone, or_assoc, and_assoc, @eq_comm _ _ entry]

variable (store : Store) {document : Document}

/-- After saving, the outline is that of the document. -/
theorem get?_save_outline :
    (store.save document).get? outlineKey = some (Outline.ofDocument document).toJson := by
  rw [save_eq_setEach]
  refine get?_setEach_of_mem (mem_savedRecords.mpr (.inr (.inr rfl))) fun entry hentry hkey => ?_
  rcases mem_savedRecords.mp hentry with ⟨node, -, rfl⟩ | ⟨id, -, -, rfl⟩ | rfl
  · exact absurd hkey (nodeKey_ne_outlineKey node.id)
  · exact absurd hkey (nodeKey_ne_outlineKey id)
  · rfl

/-- The record of a node is its own if no other node has its id. -/
theorem get?_save_node (hids : document.nodeIds.Nodup) {node : Node}
    (hnode : node ∈ document.nodes) :
    (store.save document).get? (nodeKey node.id) = some node.toJson := by
  rw [save_eq_setEach]
  refine get?_setEach_of_mem (mem_savedRecords.mpr (.inl ⟨node, hnode, rfl⟩))
    fun entry hentry hkey => ?_
  rcases mem_savedRecords.mp hentry with ⟨other, hother, rfl⟩ | ⟨id, -, hgone, rfl⟩ | rfl
  · rw [List.inj_on_of_nodup_map hids hother hnode (nodeKey_injective hkey)]
  · exact absurd (nodeKey_injective hkey ▸ List.mem_map_of_mem hnode) hgone
  · exact absurd hkey.symm (nodeKey_ne_outlineKey node.id)

/-- The record of a node that the store listed and that is gone becomes null. -/
theorem get?_save_stale {id : String} (hlisted : id ∈ store.listedNodes)
    (hgone : id ∉ document.nodeIds) : (store.save document).get? (nodeKey id) = some .null := by
  rw [save_eq_setEach]
  refine get?_setEach_of_mem (mem_savedRecords.mpr (.inr (.inl ⟨id, hlisted, hgone, rfl⟩)))
    fun entry hentry hkey => ?_
  rcases mem_savedRecords.mp hentry with ⟨other, hother, rfl⟩ | ⟨other, -, -, rfl⟩ | rfl
  · exact absurd (nodeKey_injective hkey ▸ List.mem_map_of_mem hother) hgone
  · rfl
  · exact absurd hkey.symm (nodeKey_ne_outlineKey id)

/-- Every other record stays. -/
theorem get?_save_other {key : String} (houtline : key ≠ outlineKey)
    (hnodes : ∀ id ∈ document.nodeIds, key ≠ nodeKey id)
    (hlisted : ∀ id ∈ store.listedNodes, key ≠ nodeKey id) :
    (store.save document).get? key = store.get? key := by
  rw [save_eq_setEach]
  refine get?_setEach_of_notMem fun hkey => ?_
  obtain ⟨entry, hentry, rfl⟩ := List.mem_map.mp hkey
  rcases mem_savedRecords.mp hentry with ⟨node, hnode, rfl⟩ | ⟨id, hid, -, rfl⟩ | rfl
  · exact hnodes node.id (List.mem_map_of_mem hnode) rfl
  · exact hlisted id hid rfl
  · exact houtline rfl

/-! ## Loading -/

/-- Nodes are loaded one by one from their records. -/
theorem loadNodes_of_records {store : Store} {nodes : List Node}
    (h : ∀ node ∈ nodes, store.get? (nodeKey node.id) = some node.toJson) :
    store.loadNodes (nodes.map Node.id) = .ok nodes := by
  induction nodes with
  | nil => rfl
  | cons node rest ih =>
    have hfirst := h node List.mem_cons_self
    have hrest := ih fun other hother => h other (List.mem_cons_of_mem _ hother)
    have hread := Node.readsBack node
    rw [Node.toJson] at hfirst hread
    simp only [List.map_cons, loadNodes, hfirst, hread, hrest]

/-- The counter of a new document only moves forward, so it ends at the one that was kept. -/
theorem assemble_ofDocument (h : firstOrdinal ≤ document.nextOrdinal) :
    assemble (Outline.ofDocument document) document.nodes = document := by
  unfold assemble Document.advance
  split
  · rfl
  · next hnot => exact absurd h hnot

/-- Loading gives what normalizing the saved document gives. -/
theorem load_save_of_normalize (hids : document.nodeIds.Nodup)
    (hcounter : firstOrdinal ≤ document.nextOrdinal) {normal : Document} {count : Nat}
    (hnormal : document.normalize = (normal, .ok count)) :
    (store.save document).load = .ok (some normal) := by
  have hnodes : (store.save document).loadNodes (Outline.ofDocument document).nodeIds =
      .ok document.nodes :=
    loadNodes_of_records fun node hnode => store.get?_save_node hids hnode
  simp only [load, store.get?_save_outline, Outline.readsBack (Outline.ofDocument document), hnodes,
    assemble_ofDocument hcounter, hnormal]

/-- Whatever a store holds, a normal document that is saved in it, and so every document that comes
from an empty one by edits, is loaded as it was. Saving leaves the cells and all records but the
outline, those of the nodes, and those of nodes that the store listed before: these become null if
the nodes are gone. -/
theorem load_save (store : Store) {document : Document}
    (h : document.Storable ∨ Document.Reachable document) :
    (store.save document).load = .ok (some document) ∧
      (store.save document).cells = store.cells ∧
      (∀ key, key ≠ outlineKey → (∀ id ∈ document.nodeIds, key ≠ nodeKey id) →
        (∀ id ∈ store.listedNodes, key ≠ nodeKey id) →
        (store.save document).get? key = store.get? key) ∧
      ∀ id ∈ store.listedNodes, id ∉ document.nodeIds →
        (store.save document).get? (nodeKey id) = some .null := by
  have hstorable : document.Storable := h.elim (fun h => h) Document.Reachable.storable
  obtain ⟨count, hnormal⟩ := hstorable.normal
  refine ⟨store.load_save_of_normalize hstorable.ids hstorable.counter hnormal, ?_, ?_, ?_⟩
  · rw [save_eq_setEach, cells_setEach]
  · exact fun key houtline hnodes hlisted => store.get?_save_other houtline hnodes hlisted
  · exact fun id hlisted hgone => store.get?_save_stale hlisted hgone

/-- A store with a cell, a record of its own, and an outline that lists a node without a record. -/
def sampleStore : Store where
  records := .ofList [(outlineKey, .object [("id", .string "q"), ("name", .string ""),
      ("nextOrdinal", .int 9), ("nodeIds", .array [.string "b", .string "gone"])]),
    (nodeKey "b", .null), ("note", .bool true)]
  cells := ["x = 1"]

/-- The sample document with another node that has the key of outlines for its id. -/
def sampleClash : Document := Document.sampleDocument.after (.insert outlineKey .unassigned)

/-- A node with the key of outlines for its id does no harm. -/
theorem load_save_sampleStore :
    sampleClash.Storable ∧ sampleClash.nodeIds = ["a", "b", "c", "__document__"] ∧
      sampleStore.listedNodes = ["b", "gone"] ∧
      (sampleStore.save sampleClash).load = .ok (some sampleClash) ∧
      (sampleStore.save sampleClash).cells = ["x = 1"] ∧
      (sampleStore.save sampleClash).get? "note" = some (.bool true) ∧
      (sampleStore.save sampleClash).get? "node:gone" = some .null := by
  have hids : sampleClash.nodeIds = ["a", "b", "c", "__document__"] := by rfl
  have hlisted : sampleStore.listedNodes = ["b", "gone"] := by rfl
  have hstorable : sampleClash.Storable := ⟨by rw [hids]; decide, ⟨0, by rfl⟩, by decide⟩
  obtain ⟨hload, hcells, hother, hgone⟩ := load_save sampleStore (.inl hstorable)
  refine ⟨hstorable, hids, hlisted, hload, hcells, ?_, ?_⟩
  · have hsame := hother "note" (by decide) (by rw [hids]; decide) (by rw [hlisted]; decide)
    exact hsame
  · exact hgone "gone" (by rw [hlisted]; decide) (by rw [hids]; decide)

end Store

end Dataflow
