import Dataflow.Proofs.Json
import Dataflow.Proofs.Session

/-!
# Documents without metadata

What passes have found never decides about an edit. Trying an edit on a document without metadata
gives what trying it on the whole document gives, without metadata, so both succeed or both fail for
the same cause. The same is true of reading a document back: metadata are nested so little that they
are never what prevents it.
-/

namespace Dataflow

/-- Changing the first match commutes with a map that respects the test and the change. -/
theorem map_modifyFirst_comm {α β : Type} {test : α → Bool} {change : α → α} {image : α → β}
    {testImage : β → Bool} {changeImage : β → β}
    (htest : ∀ item, testImage (image item) = test item)
    (hchange : ∀ item, image (change item) = changeImage (image item)) (items : List α) :
    (modifyFirst test change items).map image =
      modifyFirst testImage changeImage (items.map image) := by
  induction items with
  | nil => rfl
  | cons item rest ih =>
    rw [List.map_cons, modifyFirst, modifyFirst, htest]
    split
    · rw [List.map_cons, hchange]
    · rw [List.map_cons, ih]

namespace Node

/-- Bindings are made without looking at metadata. -/
theorem bare_ensureBound (node : Node) : node.ensureBound.bare = node.bare.ensureBound := by
  have hbound : node.bare.isBound = node.isBound := rfl
  unfold ensureBound
  rw [hbound]
  split <;> rfl

end Node

/-! ## Renumbering -/

namespace Renumbering

/-- Numbers are given out without a look at metadata. -/
theorem ofNodes_map_bare (seen : List UInt32) (next : UInt32) (nodes : List Node) :
    ofNodes seen next (nodes.map Node.bare) =
      { ofNodes seen next nodes with nodes := (ofNodes seen next nodes).nodes.map Node.bare } := by
  induction nodes generalizing seen next with
  | nil => rfl
  | cons node rest ih =>
    have hordinal : node.bare.ordinal = node.ordinal := rfl
    have hrenumber : node.bare.renumber next = (node.renumber next).bare := rfl
    rw [List.map_cons, ofNodes, ofNodes, hordinal, hrenumber]
    split
    · split
      · rfl
      · simp only [ih, List.map_cons]
    · simp only [ih, List.map_cons]

end Renumbering

namespace Document

/-! ## Looking things up -/

@[simp] theorem nodeIds_bare (document : Document) : document.bare.nodeIds = document.nodeIds := by
  simp [bare, nodeIds, Node.bare, Function.comp_def]

@[simp] theorem bare_bare (document : Document) : document.bare.bare = document.bare := by
  simp [bare, Node.bare, Function.comp_def]

@[simp] theorem node?_bare (document : Document) (id : String) :
    document.bare.node? id = (document.node? id).map Node.bare := by
  unfold node? bare
  rw [List.find?_map]
  rfl

@[simp] theorem contains_bare (document : Document) (id : String) :
    document.bare.contains id = document.contains id := by
  simp [contains]

/-- A change of a node that does not look at metadata commutes with dropping them. -/
theorem bare_modifyNode (document : Document) (id : String) (change : Node → Node)
    (h : ∀ node, (change node).bare = change node.bare) :
    (document.modifyNode id change).bare = document.bare.modifyNode id change := by
  have hnodes : (modifyFirst (fun node => node.id == id) change document.nodes).map Node.bare =
      modifyFirst (fun node => node.id == id) change (document.nodes.map Node.bare) := by
    apply map_modifyFirst_comm
    · exact fun _ => rfl
    · exact h
  exact congrArg (fun nodes => { document with nodes }) hnodes

/-! ## Edits -/

/-- A node is added to a bare document as to the document itself, with the same faults. -/
theorem insertNew_bare (document : Document) (id : String) (schema : Schema) :
    document.bare.insertNew id schema = (document.insertNew id schema).map bare := by
  have hcounter : document.bare.nextOrdinal = document.nextOrdinal := rfl
  unfold insertNew allocate
  rw [hcounter]
  by_cases hlast : document.nextOrdinal = lastOrdinal
  · simp only [if_pos hlast]
    rfl
  · simp only [if_neg hlast, Except.map, bare, List.map_append]
    rfl

/-- Whether an id is taken does not depend on metadata. -/
theorem insert_bare (document : Document) (id : String) (schema : Schema) :
    document.bare.insert id schema = (document.insert id schema).map bare := by
  unfold insert
  rw [contains_bare, insertNew_bare]
  split <;> rfl

/-- An update that does not look at metadata gives the same, with the same faults. -/
theorem updateNode_bare (document : Document) (id : String) (change : Node → Node)
    (h : ∀ node, (change node).bare = change node.bare) :
    document.bare.updateNode id change = (document.updateNode id change).map bare := by
  unfold updateNode
  rw [contains_bare, ← document.bare_modifyNode id change h]
  split <;> rfl

/-- An assignment removes the same edges from a bare document. -/
theorem assign_bare (document : Document) (id : String) (schema : Schema) :
    document.bare.assign id schema =
      (document.assign id schema).map fun found => (found.1.bare, found.2) := by
  have hmodify := document.bare_modifyNode id (fun node => (node.withSchema schema).ensureBound)
    fun node => (node.withSchema schema).bare_ensureBound
  unfold assign node
  rw [node?_bare]
  cases document.node? id with
  | none => rfl
  | some node =>
    simp only [Option.map_some, ← hmodify]
    rfl

/-- The faults of an edge do not depend on metadata. -/
theorem connectFault?_bare (document : Document) (source sourcePort target targetPort : String) :
    document.bare.connectFault? source sourcePort target targetPort =
      document.connectFault? source sourcePort target targetPort := by
  unfold connectFault?
  rw [node?_bare, node?_bare]
  cases document.node? source with
  | none => rfl
  | some sourceNode =>
    cases document.node? target with
    | none => rfl
    | some targetNode => rfl

/-- An edge is connected in a bare document as in the document itself. -/
theorem connect_bare (document : Document) (edge : Edge) :
    document.bare.connect edge = (document.connect edge).map bare := by
  unfold connect
  rw [connectFault?_bare]
  split <;> rfl

/-- The same edge is removed from a bare document. -/
theorem disconnect_bare (document : Document) (id : String) :
    document.bare.disconnect id =
      (document.disconnect id).map fun found => (found.1.bare, found.2) := by
  have hedges : document.bare.edges = document.edges := rfl
  unfold disconnect
  rw [hedges]
  split <;> rfl

/-- The same node and the same edges are removed from a bare document. -/
theorem delete_bare (document : Document) (id : String) :
    document.bare.delete id = (document.delete id).map fun found =>
      (found.1.bare, { found.2 with node := found.2.node.bare }) := by
  have hnodes : document.bare.nodes.eraseP (fun node => node.id == id) =
      (document.nodes.eraseP fun node => node.id == id).map Node.bare := by
    rw [bare, List.eraseP_map]
    rfl
  unfold delete node
  rw [node?_bare]
  cases document.node? id with
  | none => rfl
  | some node =>
    simp only [Option.map_some, hnodes]
    rfl

theorem pastHighest_bare (document : Document) :
    document.bare.pastHighest = document.pastHighest := by
  unfold pastHighest bare
  rw [List.foldl_map]
  rfl

/-- A bare document is made normal as the document itself. -/
theorem normalize_bare (document : Document) :
    document.bare.normalize.1 = document.normalize.1.bare := by
  have hadvance : document.bare.advance document.pastHighest =
      (document.advance document.pastHighest).bare := rfl
  have hnodes : document.bare.nodes = document.nodes.map Node.bare := rfl
  have hbound (nodes : List Node) :
      (nodes.map Node.bare).map Node.ensureBound = (nodes.map Node.ensureBound).map Node.bare := by
    simp [Function.comp_def, Node.bare_ensureBound]
  have hcounter : (document.advance document.pastHighest).bare.nextOrdinal =
      (document.advance document.pastHighest).nextOrdinal := rfl
  unfold normalize
  dsimp only
  rw [pastHighest_bare, hadvance, hnodes, hcounter, Renumbering.ofNodes_map_bare]
  dsimp only
  split
  · rfl
  · rw [hbound]
    rfl

/-- An edit does without metadata what it does with them. -/
theorem tryEdit_bare (document : Document) (edit : Edit) :
    document.bare.tryEdit edit =
      (document.tryEdit edit).map fun found => (found.1.bare, found.2) := by
  cases edit with
  | insertGenerated id schema =>
    rw [tryEdit, tryEdit, insertNew_bare]
    cases document.insertNew id schema <;> rfl
  | insert id schema =>
    rw [tryEdit, tryEdit, insert_bare]
    cases document.insert id schema <;> rfl
  | setValue id name value =>
    rw [tryEdit, tryEdit, setValue, setValue, updateNode_bare]
    · cases document.updateNode id _ <;> rfl
    · exact fun _ => rfl
  | setValues id values =>
    rw [tryEdit, tryEdit, setValues, setValues, updateNode_bare]
    · cases document.updateNode id _ <;> rfl
    · exact fun _ => rfl
  | assign id schema =>
    rw [tryEdit, tryEdit, assign_bare]
    cases document.assign id schema <;> rfl
  | connect edge =>
    rw [tryEdit, tryEdit, connect_bare]
    cases document.connect edge <;> rfl
  | disconnect id =>
    rw [tryEdit, tryEdit, disconnect_bare]
    cases document.disconnect id <;> rfl
  | delete id =>
    rw [tryEdit, tryEdit, delete_bare]
    cases document.delete id <;> rfl
  | allocate =>
    have hcounter : document.bare.nextOrdinal = document.nextOrdinal := rfl
    rw [tryEdit, tryEdit, allocate, allocate, hcounter]
    split <;> rfl
  | advance next => rfl
  | normalize =>
    rw [tryEdit, tryEdit, normalize_bare]
    rfl

/-- Every edit commutes with dropping metadata, also one that fails. -/
theorem after_bare (document : Document) (edit : Edit) :
    document.bare.after edit = (document.after edit).bare := by
  rw [after_eq_keeping, after_eq_keeping, tryEdit_bare]
  cases document.tryEdit edit <;> rfl

end Document

/-! ## Reading back -/

/-- Columns are nested at most three deep. -/
theorem PortColumns.depth_toJson_le (columns : PortColumns) : columns.toJson.depth ≤ 3 := by
  have hcolumn (column : Column) : column.toJson.depth = 1 := rfl
  have hlist (list : List Column) : (Json.array (list.map Column.toJson)).depth ≤ 2 := by
    rw [Json.depth]
    exact Nat.succ_le_succ (Json.itemsDepth_le_iff.mpr (by simp [hcolumn]))
  rw [toJson, Json.ofDictionary, Json.depth]
  refine Nat.succ_le_succ (Json.entriesDepth_le_iff.mpr fun entry hentry => ?_)
  obtain ⟨port, -, rfl⟩ := List.mem_map.mp hentry
  exact hlist port.2

/-- Metadata are nested at most four deep. -/
theorem Metadata.depth_toJson_le (metadata : Metadata) : metadata.toJson.depth ≤ 4 := by
  have hinputs := metadata.inputColumns.depth_toJson_le
  have houtputs := metadata.outputColumns.depth_toJson_le
  have hstatus : metadata.status.toJson.depth ≤ 1 := by
    cases metadata.status <;> simp [PassStatus.toJson, Json.depth, Json.entriesDepth]
  simp only [toJson, Json.depth, Json.entriesDepth]
  omega

/-- Only other parts of a node can be nested too deep. -/
theorem Node.depth_toJson_bare_le_iff (node : Node) {bound : Nat} (h : 4 ≤ bound) :
    node.bare.toJson.depth ≤ bound + 1 ↔ node.toJson.depth ≤ bound + 1 := by
  have hmetadata := node.metadata.depth_toJson_le.trans h
  have hinitial := Metadata.initial.depth_toJson_le.trans h
  simp [toJson, bare, Json.depth, Json.entriesDepth, hmetadata, hinitial]

namespace Document

/-- Whether a document can be read back does not depend on metadata, which are nested too little to
reach the limit. -/
theorem isReadable_bare (document : Document) :
    document.bare.isReadable = document.isReadable := by
  have hnode (node : Node) : node.bare.toJson.depth ≤ 125 ↔ node.toJson.depth ≤ 125 :=
    node.depth_toJson_bare_le_iff (by decide)
  have hnodes : Json.itemsDepth (document.bare.nodes.map Node.toJson) ≤ 125 ↔
      Json.itemsDepth (document.nodes.map Node.toJson) ≤ 125 := by
    simp [Json.itemsDepth_le_iff, bare, hnode]
  have hedges : document.bare.edges = document.edges := rfl
  unfold isReadable
  rw [decide_eq_decide]
  simp only [toJson, Json.depth, Json.entriesDepth, Json.nestingLimit, hedges]
  omega

/-- Reading back commutes with dropping metadata. -/
theorem readBack_bare (document : Document) :
    document.bare.readBack = document.readBack.map bare := by
  unfold readBack
  rw [isReadable_bare]
  split <;> rfl

end Document

end Dataflow
