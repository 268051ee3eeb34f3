import Dataflow.Proofs.Bare
import Dataflow.Proofs.Skipping

/-!
# What the code of a node depends on

The code of a node is made from the node itself, from the edges that enter it and from the variables
of the outputs that these edges leave. An edit elsewhere touches none of this: new nodes feed
nothing, the values of a node are not seen by others, and edges go only with a node or a port that
they use. What a pass writes is not part of any code. So the code of a node stays as it is, text for
text, along any sequence of edits elsewhere and passes.
-/

namespace Dataflow

/-! ## Lookups after a change elsewhere -/

/-- Removing the first match is not seen where it is looked for something else. -/
theorem find?_eraseP_of_ne {α : Type} {drop test : α → Bool} {items : List α}
    (h : ∀ item, drop item = true → test item = false) :
    (items.eraseP drop).find? test = items.find? test := by
  induction items with
  | nil => rfl
  | cons first rest ih =>
    cases hdrop : drop first with
    | true =>
      rw [List.eraseP_cons_of_pos hdrop, List.find?_cons_of_neg]
      simp [h first hdrop]
    | false =>
      rw [List.eraseP_cons_of_neg (by simp [hdrop]), List.find?_cons, List.find?_cons, ih]

/-- Removing the first match is not seen among items that it is not one of. -/
theorem filter_eraseP_of_find? {α : Type} {drop keep : α → Bool} {items : List α}
    (h : ∀ item ∈ items.find? drop, keep item = false) :
    (items.eraseP drop).filter keep = items.filter keep := by
  induction items with
  | nil => rfl
  | cons first rest ih =>
    cases hdrop : drop first with
    | true =>
      have hfirst : keep first = false := h first (List.find?_cons_of_pos hdrop)
      rw [List.eraseP_cons_of_pos hdrop, List.filter_cons_of_neg]
      simp [hfirst]
    | false =>
      have hnot : ¬drop first = true := by simp [hdrop]
      rw [List.find?_cons_of_neg hnot] at h
      rw [List.eraseP_cons_of_neg hnot, List.filter_cons, List.filter_cons, ih h]

namespace Document

variable {document edited : Document} {id other port : String}

/-- A changed node is found where it was found before. -/
theorem node?_modifyNode {change : Node → Node} (hid : ∀ node, (change node).id = node.id) :
    (document.modifyNode other change).node? id =
      (document.node? id).map fun node => if id = other then change node else node := by
  unfold node? modifyNode
  dsimp only
  induction document.nodes with
  | nil => rfl
  | cons first rest ih =>
    unfold modifyFirst
    by_cases hfirst : first.id = id
    · rw [List.find?_cons_of_pos (by simpa using hfirst), ← hfirst]
      by_cases hother : first.id = other
      · rw [if_pos (by simpa using hother), List.find?_cons_of_pos (by simp [hid])]
        simp [hother]
      · rw [if_neg (by simpa using hother), List.find?_cons_of_pos (by simp)]
        simp [hother]
    · rw [List.find?_cons_of_neg (by simpa using hfirst)]
      by_cases hother : first.id = other
      · have hne : id ≠ other := fun hsame => hfirst (hother.trans hsame.symm)
        rw [if_pos (by simpa using hother), List.find?_cons_of_neg (by simpa [hid] using hfirst)]
        simp [hne]
      · rw [if_neg (by simpa using hother), List.find?_cons_of_neg (by simpa using hfirst), ih]

/-- Nodes that exist are found in front of a new one. -/
theorem node?_append {nodes : List Node} {ordinal : UInt32}
    (h : id ∈ document.nodeIds) :
    { document with nodes := document.nodes ++ nodes, nextOrdinal := ordinal }.node? id =
      document.node? id := by
  obtain ⟨found, hfound⟩ := Option.isSome_iff_exists.mp ((contains_iff document id).mpr h)
  unfold node? at hfound ⊢
  rw [List.find?_append, hfound]
  rfl

/-! ## What is read -/

/-- Two documents agree on all that the code of a node is made from. -/
structure AgreeAt (id : String) (document edited : Document) : Prop where
  /-- The node is the same, metadata apart. -/
  node : (edited.node? id).map Node.bare = (document.node? id).map Node.bare
  /-- The same edges enter it. -/
  incoming : edited.incoming id = document.incoming id
  /-- These edges bring the same variables. -/
  supplied : ∀ edge ∈ document.incoming id, edited.variableOf? edge.source edge.sourcePort =
    document.variableOf? edge.source edge.sourcePort

namespace AgreeAt

theorem refl (id : String) (document : Document) : AgreeAt id document document :=
  ⟨rfl, rfl, fun _ _ => rfl⟩

theorem trans {last : Document} (h : AgreeAt id document edited)
    (hlast : AgreeAt id edited last) : AgreeAt id document last where
  node := hlast.node.trans h.node
  incoming := hlast.incoming.trans h.incoming
  supplied edge hedge :=
    (hlast.supplied edge (h.incoming ▸ hedge)).trans (h.supplied edge hedge)

theorem mem_nodeIds (h : AgreeAt id document edited) (hid : id ∈ document.nodeIds) :
    id ∈ edited.nodeIds := by
  rw [← contains_iff, contains] at hid ⊢
  have hsome := congrArg Option.isSome h.node
  simpa [hid] using hsome

/-- Where documents agree at a node, the same variables enter it. -/
theorem enteringVariables_eq (h : AgreeAt id document edited) :
    edited.enteringVariables id = document.enteringVariables id := by
  unfold enteringVariables
  rw [h.incoming]
  congr 1
  apply List.filterMap_congr
  intro edge hedge
  rw [h.supplied edge hedge]

/-- The code of a node is made from nothing else. -/
theorem nodeCode_eq (h : AgreeAt id document edited) (layout : Layout) :
    edited.nodeCode layout id = document.nodeCode layout id := by
  have hnode := h.node
  unfold nodeCode Document.node
  rw [h.enteringVariables_eq]
  cases hbefore : document.node? id with
  | none =>
    cases hafter : edited.node? id with
    | none => rfl
    | some node => simp [hbefore, hafter] at hnode
  | some old =>
    cases hafter : edited.node? id with
    | none => simp [hbefore, hafter] at hnode
    | some node =>
      have hsame : node.bare = old.bare := by simpa [hbefore, hafter] using hnode
      -- no text has a part of the metadata in it
      have htext : Listing.nodeText node.bare layout (document.enteringVariables id) =
          Listing.nodeText old.bare layout (document.enteringVariables id) := by rw [hsame]
      exact congrArg (fun text => Except.ok (String.ofList text)) htext

end AgreeAt

/-- The variable of a port does not depend on metadata. -/
theorem variableOf?_bare (document : Document) (id port : String) :
    document.bare.variableOf? id port = document.variableOf? id port := by
  unfold variableOf?
  rw [node?_bare, Option.bind_map]
  rfl

/-- Metadata are not read. -/
theorem agreeAt_of_bare_eq (h : edited.bare = document.bare) (id : String) :
    AgreeAt id document edited where
  node := by rw [← node?_bare, h, node?_bare]
  incoming := congrArg (fun document => document.incoming id) h
  supplied edge _ := by rw [← variableOf?_bare, h, variableOf?_bare]

/-! ## Edits elsewhere -/

/-- Nodes that are found as before have their variables as before. -/
theorem agreeAt_of_node? (hincoming : edited.incoming id = document.incoming id)
    (hnode : edited.node? id = document.node? id)
    (hsources : ∀ edge ∈ document.incoming id,
      edited.node? edge.source = document.node? edge.source) : AgreeAt id document edited where
  node := congrArg _ hnode
  incoming := hincoming
  supplied edge hedge := by
    unfold variableOf?
    rw [hsources edge hedge]

/-- Edges that are dropped elsewhere are not missed. -/
theorem incoming_filter {keep : Edge → Bool}
    (h : ∀ edge ∈ document.incoming id, keep edge = true) :
    ((document.edges.filter keep).filter fun edge => edge.target == id) =
      document.incoming id := by
  unfold incoming at h ⊢
  rw [List.filter_filter]
  apply List.filter_congr
  intro edge hedge
  by_cases htarget : edge.target = id
  · simp [h edge (List.mem_filter.mpr ⟨hedge, by simpa using htarget⟩)]
  · simp [htarget]

/-- A node that is put in feeds no node that was there before. -/
theorem agreeAt_of_insertNew (h : document.WellFormed) (hid : id ∈ document.nodeIds)
    {schema : Schema} (hok : document.insertNew other schema = .ok edited) :
    AgreeAt id document edited := by
  obtain rfl := insertNew_eq_ok hok
  refine agreeAt_of_node? rfl (node?_append hid) fun edge hedge => node?_append ?_
  -- an edge has its source in the document already, so no edge waited for the new id
  obtain ⟨node, hnode, hsource, -⟩ := h.sources edge (List.mem_of_mem_filter hedge)
  exact hsource ▸ List.mem_map_of_mem hnode

/-- The values of other nodes are not read. -/
theorem agreeAt_of_updateValues {values : Node → Values} (hne : other ≠ id)
    (hok : document.updateNode other (fun node => { node with values := values node }) =
      .ok edited) : AgreeAt id document edited := by
  obtain rfl := updateNode_eq_ok hok
  refine ⟨?_, rfl, fun edge _ => ?_⟩
  · simp [node?_modifyNode, hne.symm]
  · -- the other node may feed this one, but with its variables only
    unfold variableOf?
    rw [node?_modifyNode, Option.bind_map]
    · congr 1
      funext node
      by_cases hsource : edge.source = other
      · simp [hsource, Node.binding?]
      · simp [hsource]
    · exact fun _ => rfl

/-- Another schema is not seen by a node that it does not feed, and takes no edges from there. -/
theorem agreeAt_of_assign {schema : Schema} {change : SchemaChange} (hne : other ≠ id)
    (hfeeds : ∀ edge ∈ document.incoming id, edge.source ≠ other)
    (hok : document.assign other schema = .ok (edited, change)) : AgreeAt id document edited := by
  obtain ⟨rfl, -⟩ := assign_eq_ok hok
  have hid (node : Node) : (node.withSchema schema).ensureBound.id = node.id := by
    simp [Node.withSchema]
  have hfound {owner : String} (howner : owner ≠ other) :
      (document.modifyNode other fun node => (node.withSchema schema).ensureBound).node? owner =
        document.node? owner := by
    simp [node?_modifyNode hid, howner]
  refine agreeAt_of_node? (incoming_filter fun edge hedge => ?_) (hfound hne.symm)
    fun edge hedge => hfound (hfeeds edge hedge)
  have htarget : edge.target = id := by simpa using List.of_mem_filter hedge
  simp [orphaned, htarget, hfeeds edge hedge, hne.symm]

/-- A new edge changes nothing but at its target. -/
theorem agreeAt_of_connect {edge : Edge} (hne : edge.target ≠ id)
    (hok : document.connect edge = .ok edited) : AgreeAt id document edited := by
  obtain rfl := connect_eq_ok hok
  refine agreeAt_of_node? ?_ rfl fun _ _ => rfl
  simp [incoming, hne]

/-- Removing an edge changes nothing but at its target. -/
theorem agreeAt_of_disconnect {removed : Edge} (hne : removed.target ≠ id)
    (hok : document.disconnect other = .ok (edited, removed)) : AgreeAt id document edited := by
  obtain ⟨hfound, rfl⟩ := disconnect_eq_ok hok
  refine agreeAt_of_node? (filter_eraseP_of_find? ?_) rfl fun _ _ => rfl
  intro edge hedge
  obtain rfl := Option.some.inj (hfound.symm.trans hedge)
  simpa using hne

/-- A node is not missed where it fed nothing. -/
theorem agreeAt_of_delete {removal : Removal} (hne : other ≠ id)
    (hfeeds : ∀ edge ∈ document.incoming id, edge.source ≠ other)
    (hok : document.delete other = .ok (edited, removal)) : AgreeAt id document edited := by
  obtain ⟨rfl, -⟩ := delete_eq_ok hok
  have hfound {owner : String} (howner : owner ≠ other) :
      (document.nodes.eraseP fun node => node.id == other).find? (fun node => node.id == owner) =
        document.node? owner := by
    apply find?_eraseP_of_ne
    intro node hnode
    have hother : node.id = other := by simpa using hnode
    simp [hother, howner.symm]
  refine agreeAt_of_node? (incoming_filter fun edge hedge => ?_) (hfound hne.symm)
    fun edge hedge => hfound (hfeeds edge hedge)
  have htarget : edge.target = id := by simpa using List.of_mem_filter hedge
  simp [Edge.touches, htarget, hfeeds edge hedge, hne.symm]

end Document

/-- An edit that is made elsewhere than at a node: it leaves the node itself as it is, neither
deletes a node that feeds it nor gives that another schema, and adds or removes no edge that enters
it. -/
def Edit.Elsewhere (document : Document) (id : String) : Edit → Prop
  | .setValue other _ _ | .setValues other _ => other ≠ id
  | .assign other _ | .delete other =>
    other ≠ id ∧ ∀ edge ∈ document.incoming id, edge.source ≠ other
  | .connect edge => edge.target ≠ id
  | .disconnect name =>
    ∀ edge ∈ document.edges.find? fun edge => edge.id == name, edge.target ≠ id
  | .insertGenerated _ _ | .insert _ _ | .allocate | .advance _ | .normalize => True

namespace Document

variable {document : Document} {id : String}

/-- What an edit elsewhere leaves behind, if it succeeds or if it fails, agrees at the node. -/
theorem agreeAt_after (h : document.WellFormed) (hid : id ∈ document.nodeIds) {edit : Edit}
    (helsewhere : edit.Elsewhere document id) : AgreeAt id document (document.after edit) := by
  have hkeeping {attempt : Except Error Document}
      (hok : ∀ edited, attempt = .ok edited → AgreeAt id document edited) :
      AgreeAt id document (document.keeping attempt) := by
    cases attempt with
    | error cause => exact .refl id document
    | ok edited => exact hok edited rfl
  have hfst {α : Type} {attempt : Except Error (Document × α)}
      (hok : ∀ found, attempt = .ok found → AgreeAt id document found.1) :
      AgreeAt id document (document.keeping (attempt.map Prod.fst)) := by
    cases attempt with
    | error cause => exact .refl id document
    | ok found => exact hok found rfl
  cases edit with
  | insertGenerated other schema => exact hkeeping fun _ hok => agreeAt_of_insertNew h hid hok
  | insert other schema =>
    exact hkeeping fun _ hok => agreeAt_of_insertNew h hid (insert_eq_ok hok).2
  | setValue other name value =>
    exact hkeeping fun _ hok => agreeAt_of_updateValues helsewhere hok
  | setValues other values =>
    exact hkeeping fun _ hok => agreeAt_of_updateValues helsewhere hok
  | assign other schema =>
    exact hfst fun _ hok => agreeAt_of_assign helsewhere.1 helsewhere.2 hok
  | connect edge => exact hkeeping fun _ hok => agreeAt_of_connect helsewhere hok
  | disconnect name =>
    refine hfst fun found hok => agreeAt_of_disconnect ?_ hok
    exact helsewhere _ (disconnect_eq_ok hok).1
  | delete other => exact hfst fun _ hok => agreeAt_of_delete helsewhere.1 helsewhere.2 hok
  | allocate =>
    refine hfst fun found hok => ?_
    obtain ⟨-, -, hcounted⟩ := allocate_eq_ok hok
    rw [hcounted]
    exact agreeAt_of_node? rfl rfl fun _ _ => rfl
  | advance next => exact agreeAt_of_node? rfl rfl fun _ _ => rfl
  | normalize =>
    change AgreeAt id document document.normalize.1
    rw [h.normalize_eq]
    exact .refl id document

/-! ## Runs -/

/-- Something that happens to a document: an edit, or the end of a pass that may have begun on an
older copy. -/
inductive Step where
  /-- An edit is tried. -/
  | edit (edit : Edit)
  /-- What a pass found is written. -/
  | pass (pass : Pass) (registry : Registry) (library : Answers)

/-- The document after a step. -/
def next (document : Document) : Step → Document
  | .edit edit => document.after edit
  | .pass pass registry library =>
    (document.writeResults (pass.results registry library)).document

/-- A step is a pass, or an edit elsewhere than at a node with a new id for what it puts in. -/
def Step.Elsewhere (document : Document) (id : String) : Step → Prop
  | .edit change => change.Fresh document ∧ change.Elsewhere document id
  | .pass _ _ _ => True

/-- All steps of a run are passes or edits elsewhere. -/
def RunElsewhere (id : String) : Document → List Step → Prop
  | _, [] => True
  | document, step :: rest =>
    step.Elsewhere document id ∧ RunElsewhere id (document.next step) rest

/-- One step elsewhere leaves all that is read at the node, and edges still fit the nodes. -/
theorem agreeAt_next (h : document.WellFormed) (hid : id ∈ document.nodeIds) {step : Step}
    (helsewhere : step.Elsewhere document id) :
    (document.next step).WellFormed ∧ AgreeAt id document (document.next step) := by
  cases step with
  | edit edit => exact ⟨h.after helsewhere.1, agreeAt_after h hid helsewhere.2⟩
  | pass pass registry library =>
    have hbare := Session.bare_writeResults document (pass.results registry library)
    exact ⟨h.of_bare_eq hbare, agreeAt_of_bare_eq hbare id⟩

/-- So do any number of them. -/
theorem agreeAt_run (h : document.WellFormed) (hid : id ∈ document.nodeIds) {steps : List Step}
    (helsewhere : RunElsewhere id document steps) :
    AgreeAt id document (steps.foldl Document.next document) := by
  induction steps generalizing document with
  | nil => exact .refl id document
  | cons step rest ih =>
    obtain ⟨hnext, hagree⟩ := agreeAt_next h hid helsewhere.1
    exact hagree.trans (ih hnext (hagree.mem_nodeIds hid) helsewhere.2)

/-- The code of a node of a document that comes from an empty one by edits stays the same, whatever
the layout, along any run of edits elsewhere and passes. -/
theorem Reachable.nodeCode_run_elsewhere (h : document.Reachable) {node : Node}
    (hnode : node ∈ document.nodes) {steps : List Step}
    (helsewhere : RunElsewhere node.id document steps) (layout : Layout) :
    ∃ text, document.nodeCode layout node.id = .ok text ∧
      (steps.foldl Document.next document).nodeCode layout node.id = .ok text := by
  have hagree := agreeAt_run h.wellFormed (List.mem_map_of_mem hnode) helsewhere
  obtain ⟨text, htext⟩ : ∃ text, document.nodeCode layout node.id = .ok text := by
    unfold nodeCode Document.node
    rw [node?_eq_some_of_mem h.wellFormed.ids hnode]
    exact ⟨_, rfl⟩
  exact ⟨text, htext, (hagree.nodeCode_eq layout).trans htext⟩

/-- Steps around a node that another one feeds: its source gets a value, a pass writes columns of
both, a new node takes an edge from it and gives it up again, and a node beside it changes its
schema and goes. -/
def sampleBustle : List Step :=
  [.edit (.setValue "a" "path" (.string "t.csv")),
    .pass ⟨sampleDocument, sampleDocument.fingerprint, ["a", "b"]⟩ .empty Library.empty,
    .edit (.insertGenerated "d" (sampleSchema ["x_y"])),
    .edit (.connect ⟨"4", "b", "x_y", "d", "data"⟩), .edit (.disconnect "4"),
    .edit (.assign "c" (sampleSchema ["x_y"])), .edit (.connect ⟨"5", "c", "x_y", "d", "data"⟩),
    .edit (.delete "c"), .edit .normalize]

/-- The steps around the sample node leave its code as it is. -/
theorem nodeCode_run_elsewhere_sampleBustle :
    Reachable sampleDocument ∧ RunElsewhere "b" sampleDocument sampleBustle ∧
      (sampleBustle.foldl Document.next sampleDocument).nodeIds = ["a", "b", "d"] ∧
      ∀ layout, ∃ text, sampleDocument.nodeCode layout "b" = .ok text ∧
        (sampleBustle.foldl Document.next sampleDocument).nodeCode layout "b" = .ok text := by
  have hrun : RunElsewhere "b" sampleDocument sampleBustle := by
    simp only [RunElsewhere, sampleBustle, Step.Elsewhere, Edit.Elsewhere]
    decide
  obtain ⟨node, hnode, hid⟩ : ∃ node ∈ sampleDocument.nodes, node.id = "b" :=
    ⟨_, List.mem_cons_of_mem _ List.mem_cons_self, rfl⟩
  refine ⟨reachable_sampleDocument, hrun, by rfl, fun layout => ?_⟩
  rw [← hid] at hrun ⊢
  exact reachable_sampleDocument.nodeCode_run_elsewhere hnode hrun layout

end Document

end Dataflow
