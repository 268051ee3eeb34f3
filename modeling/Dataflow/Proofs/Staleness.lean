import Dataflow.Proofs.LostInputs
import Dataflow.Proofs.Readiness

/-!
# Stale outcomes

To delete a node, to give it another schema and to remove an edge all take edges away. Each of them
makes its own list of the nodes whose outcomes the session drops. In a well-formed document every
edge leaves a node that exists, so the structural status of a node rests on its own schema and on
the edges that enter it. A node outside of the list keeps both, so none of these edits leaves an
outcome to a node that looks different now.
-/

namespace Dataflow

theorem nodup_distinct (names : List String) : (distinct names).Nodup := by
  induction names with
  | nil => exact List.nodup_nil
  | cons name rest ih =>
    rw [distinct, List.nodup_cons]
    exact ⟨by simp, ih.filter _⟩

/-- With different ids, removing the first node with an id removes every node with that id. -/
theorem eraseP_eq_filter_of_nodup {nodes : List Node} (hids : (nodes.map Node.id).Nodup)
    (id : String) :
    nodes.eraseP (fun node => node.id == id) = nodes.filter fun node => node.id != id := by
  induction nodes with
  | nil => rfl
  | cons node rest ih =>
    rw [List.map_cons, List.nodup_cons] at hids
    by_cases hid : node.id = id
    · have hrest : ∀ other ∈ rest, (other.id != id) = true := by
        intro other hother
        have hne : other.id ≠ node.id := fun hsame => hids.1 (hsame ▸ List.mem_map_of_mem hother)
        simpa [← hid] using hne
      rw [List.eraseP_cons_of_pos (by simpa using hid),
        List.filter_cons_of_neg (by simpa using hid), List.filter_eq_self.mpr hrest]
    · rw [List.eraseP_cons_of_neg (by simpa using hid),
        List.filter_cons_of_pos (by simpa using hid), ih hids.2]

namespace Document

variable {document edited : Document} {id : String} {schema : Schema} {stale : List String}

/-! ## What a status rests on -/

/-- The edge into a port is the first of the incoming edges that ends there. -/
theorem edgeInto?_eq_find?_incoming (document : Document) (id port : String) :
    document.edgeInto? id port =
      (document.incoming id).find? fun edge => edge.targetPort == port := by
  rw [edgeInto?, incoming, List.find?_filter]
  simp only [Bool.decide_and, Bool.decide_eq_true]

/-- The structural status of a node is decided by the edges that enter it. -/
theorem WellFormed.structuralStatus_eq (h : document.WellFormed) (hedited : edited.WellFormed)
    {node : Node} (hincoming : edited.incoming node.id = document.incoming node.id) :
    edited.structuralStatus node = document.structuralStatus node := by
  simp only [structuralStatus, hedited.feeds_eq, h.feeds_eq, edgeInto?_eq_find?_incoming, hincoming]

/-! ## Edits that take edges away -/

/-- An edit that adds nothing, and outside of the stale nodes changes nothing. -/
structure Thins (document edited : Document) (stale : List String) : Prop where
  /-- The edited document is well-formed. -/
  formed : edited.WellFormed
  /-- The edges that are left stand in their order. -/
  edges : edited.edges.Sublist document.edges
  /-- A node that loses an edge is stale. -/
  lost : ∀ edge ∈ document.edges, edge ∉ edited.edges → edge.target ∈ stale
  /-- No node is new. -/
  ids : ∀ node ∈ edited.nodes, node.id ∈ document.nodeIds
  /-- A node that is not stale is as it was. -/
  kept : ∀ node ∈ edited.nodes, node.id ∉ stale → node ∈ document.nodes

/-- In a well-formed document no edge is listed twice. -/
theorem WellFormed.nodup_edges (h : document.WellFormed) : document.edges.Nodup :=
  h.inputs.of_map _

/-- The edges into a node that is not stale are those that entered it before. -/
theorem Thins.incoming_eq (h : document.Thins edited stale) (hformed : document.WellFormed)
    (hid : id ∉ stale) : edited.incoming id = document.incoming id := by
  have hsublist : (edited.incoming id).Sublist (document.incoming id) := h.edges.filter _
  have hsubset : document.incoming id ⊆ edited.incoming id := by
    intro edge hedge
    obtain ⟨hbefore, htarget⟩ := List.mem_filter.mp hedge
    refine List.mem_filter.mpr ⟨?_, htarget⟩
    by_contra hafter
    obtain rfl : edge.target = id := by simpa using htarget
    exact hid (h.lost edge hbefore hafter)
  -- no input has two edges, so what is left is as long as what was there
  have hnodup : (document.incoming id).Nodup := hformed.nodup_edges.filter _
  exact hsublist.eq_of_length_le (List.subperm_of_subset hnodup hsubset).length_le

/-- A node that looks different after the edit is stale. -/
theorem Thins.mem_stale (h : document.Thins edited stale) (hformed : document.WellFormed)
    {node : Node} (hnode : node ∈ edited.nodes) :
    ∃ old ∈ document.nodes, old.id = node.id ∧
      (edited.structuralStatus node ≠ document.structuralStatus old ∨
        edited.incoming node.id ≠ document.incoming node.id → node.id ∈ stale) := by
  by_cases hstale : node.id ∈ stale
  · obtain ⟨old, hold, hid⟩ := List.mem_map.mp (h.ids node hnode)
    exact ⟨old, hold, hid, fun _ => hstale⟩
  · have hincoming := h.incoming_eq hformed hstale
    refine ⟨node, h.kept node hnode hstale, rfl, ?_⟩
    rintro (hstatus | hedges)
    · exact absurd (hformed.structuralStatus_eq h.formed hincoming) hstatus
    · exact absurd hincoming hedges

/-- An assignment changes nothing but its node and the nodes that lose an edge by it. -/
theorem Thins.of_assign {change : SchemaChange} (h : document.WellFormed)
    (hok : document.assign id schema = .ok (edited, change)) :
    document.Thins edited (id :: change.removed.map Edge.target) := by
  have htried : document.Tried (.assign id schema) edited _ := .of_assign hok
  have hformed : edited.WellFormed := h.assign hok
  obtain ⟨rfl, -⟩ := assign_eq_ok hok
  have hid (node : Node) : (node.withSchema schema).ensureBound.id = node.id := by
    simp [Node.withSchema]
  refine ⟨hformed, List.filter_sublist, htried.lost, fun node hnode => ?_,
    fun node hnode hstale => ?_⟩
  · exact document.nodeIds_modifyNode id hid ▸ List.mem_map_of_mem hnode
  · rcases mem_modifyFirst hnode with hsame | ⟨old, -, htest, rfl⟩
    · exact hsame
    · -- the node that got the schema is stale
      rw [hid, show old.id = id by simpa using htest] at hstale
      exact absurd List.mem_cons_self hstale

/-- Without an edge nothing changes but at its target. -/
theorem Thins.of_disconnect {edge : Edge} (h : document.WellFormed)
    (hok : document.disconnect id = .ok (edited, edge)) : document.Thins edited [edge.target] := by
  have htried : document.Tried (.disconnect id) edited _ := .of_disconnect hok
  have hformed : edited.WellFormed := h.disconnect hok
  obtain ⟨-, rfl⟩ := disconnect_eq_ok hok
  exact ⟨hformed, List.eraseP_sublist, htried.lost, fun node hnode => List.mem_map_of_mem hnode,
    fun node hnode _ => hnode⟩

/-- A deletion changes nothing but at the nodes that the deleted one led to. -/
theorem Thins.of_delete {removal : Removal} (h : document.WellFormed)
    (hok : document.delete id = .ok (edited, removal)) :
    document.Thins edited (removal.affected ++ [removal.node.id]) := by
  have htried : document.Tried (.delete id) edited _ := .of_delete hok
  have hformed : edited.WellFormed := h.delete hok
  obtain ⟨rfl, -, -⟩ := delete_eq_ok hok
  exact ⟨hformed, List.filter_sublist, htried.lost,
    fun node hnode => List.mem_map_of_mem (List.mem_of_mem_eraseP hnode),
    fun node hnode _ => List.mem_of_mem_eraseP hnode⟩

/-- What the deletion of a node leaves and what it returns. -/
structure Deletes (document : Document) (id : String) (edited : Document) (removal : Removal) :
    Prop where
  /-- The node is returned. -/
  node : document.node? id = some removal.node
  /-- All other nodes are left as they were and in their order. -/
  nodes : edited.nodes = document.nodes.filter fun node => node.id != id
  /-- The edges that do not touch the node are left. -/
  edges : edited.edges = document.edges.filter fun edge => edge.source != id && edge.target != id
  /-- The edges that touch the node are returned. -/
  removed : removal.removed =
    document.edges.filter fun edge => edge.source == id || edge.target == id
  /-- No node is named twice. -/
  nodup : removal.affected.Nodup
  /-- The other nodes that an edge from the node entered are named. -/
  mem_affected : ∀ other, other ∈ removal.affected ↔
    other ≠ id ∧ ∃ edge ∈ document.edges, edge.source = id ∧ edge.target = other

/-- A deletion leaves no edge at the node, and tells each node that it led to once. -/
theorem WellFormed.deletes {removal : Removal} (h : document.WellFormed)
    (hok : document.delete id = .ok (edited, removal)) :
    document.Deletes id edited removal := by
  obtain ⟨hnode, hremoved⟩ := removal_eq_of_delete hok
  obtain ⟨rfl, -, haffected⟩ := delete_eq_ok hok
  refine ⟨hnode, eraseP_eq_filter_of_nodup h.ids id, ?_, hremoved, ?_, fun other => ?_⟩
  · refine List.filter_congr fun edge _ => ?_
    rw [Edge.touches, Bool.not_or]
    rfl
  · rw [haffected]
    exact nodup_distinct _
  · rw [haffected, mem_distinct_iff, List.mem_map]
    constructor
    · rintro ⟨edge, hedge, rfl⟩
      simp only [List.mem_filter, Bool.and_eq_true, beq_iff_eq, bne_iff_ne] at hedge
      exact ⟨hedge.2.2, edge, hedge.1.1, hedge.2.1, rfl⟩
    · rintro ⟨hne, edge, hedge, hsource, rfl⟩
      refine ⟨edge, ?_, rfl⟩
      simp [List.mem_filter, Edge.touches, hedge, hsource, hne]

end Document

namespace Session

variable {session next : Session}

/-- An edit drops the outcomes of stale nodes and of no others, and every node that is left with
another structural status or with other edges into it is stale. -/
structure Drops (session next : Session) (stale : List String) : Prop where
  /-- Stale nodes lose their outcomes, and the others keep them. -/
  overlay : ∀ id ∈ next.document.nodeIds, next.board.overlay.get? id =
    if id ∈ stale then none else session.board.overlay.get? id
  /-- A node that is left was there before. If it looks different, it is stale. -/
  complete : ∀ node ∈ next.document.nodes, ∃ old ∈ session.document.nodes, old.id = node.id ∧
    (next.document.structuralStatus node ≠ session.document.structuralStatus old ∨
      next.document.incoming node.id ≠ session.document.incoming node.id → node.id ∈ stale)

/-- An edit that changes nothing but at stale nodes drops their outcomes and no others. -/
theorem drops_accept (hformed : session.document.WellFormed) {document : Document}
    {stale : List String} (h : session.document.Thins document stale) :
    session.Drops (session.accept document stale) stale := by
  refine ⟨fun id hid => ?_, fun node hnode => h.mem_stale hformed hnode⟩
  rw [get?_overlay_accept]
  exact if_pos hid

/-- An edit that succeeds was accepted. -/
theorem accept_of_edit {α : Type} {change : Document → Except Error (Document × α)}
    {stale : α → List String} {found : α} (h : session.edit change stale = (next, .ok found)) :
    ∃ document, change session.document = .ok (document, found) ∧
      next = session.accept document (stale found) := by
  unfold edit at h
  split at h
  · cases h
  · next document made hok =>
    split at h
    · cases h
    · obtain ⟨rfl, hmade⟩ := Prod.mk.inj h
      obtain rfl := Except.ok.inj hmade
      exact ⟨document, hok, rfl⟩

/-- When a node is deleted, the other nodes are left as they were and in order, the edges that touch
it are taken away and returned, and each other node that it led to is named once. When a node is
deleted or gets another schema, or an edge is removed, the session drops the outcome of every node
that is left with another structural status or with other edges into it. -/
theorem drops_stale (h : session.document.Reachable) :
    (∀ id next removal, session.delete id = (next, .ok removal) →
      session.document.Deletes id next.document removal ∧
        session.Drops next (removal.affected ++ [removal.node.id])) ∧
    (∀ id schema next change, session.reassign id schema = (next, .ok change) →
      session.Drops next (id :: change.removed.map Edge.target)) ∧
    ∀ id next edge, session.disconnect id = (next, .ok edge) →
      session.Drops next [edge.target] := by
  have hformed := h.wellFormed
  refine ⟨fun id next removal hdone => ?_, fun id schema next change hdone => ?_,
    fun id next edge hdone => ?_⟩
  · obtain ⟨document, hok, rfl⟩ := accept_of_edit hdone
    exact ⟨hformed.deletes hok, drops_accept hformed (.of_delete hformed hok)⟩
  · cases schema with
    | error cause => cases hdone
    | ok schema =>
      rw [reassign] at hdone
      obtain ⟨document, hok, rfl⟩ := accept_of_edit hdone
      exact drops_accept hformed (.of_assign hformed hok)
  · obtain ⟨document, hok, rfl⟩ := accept_of_edit hdone
    exact drops_accept hformed (.of_disconnect hformed hok)

/-- A node that leads to two inputs of a second and to itself, while the second leads to a third. -/
def sampleFan : Document :=
  [Edit.insert "a" Document.sampleStepSchema, .insert "b" Document.sampleStepSchema,
    .insert "c" Document.sampleStepSchema, .connect ⟨"1", "a", "out", "b", "data"⟩,
    .connect ⟨"2", "a", "out", "b", "extra"⟩, .connect ⟨"3", "a", "out", "a", "data"⟩,
    .connect ⟨"4", "b", "out", "c", "data"⟩].foldl Document.after (.empty "p" "Pipeline")

/-- All three nodes have run. -/
def sampleFanned : Session :=
  { sampleStart with
    document := sampleFan
    board := ⟨.ofList [("a", .success), ("b", .success), ("c", .success)], .empty⟩ }

/-- Deleting the first of the sample nodes drops its outcome and that of the second, but not of the
third. -/
theorem drops_stale_sampleFanned :
    sampleFanned.document.Reachable ∧
      (∃ next removal, sampleFanned.delete "a" = (next, .ok removal) ∧
        removal.affected = ["b"] ∧ removal.removed.map Edge.id = ["1", "2", "3"] ∧
        sampleFanned.Drops next ["b", "a"] ∧
        next.board.overlay = .ofList [("c", .success)]) ∧
      (∃ next change, sampleFanned.reassign "b" (.ok (Document.sampleSchema [])) =
          (next, .ok change) ∧
        change.removed.map Edge.id = ["2", "4"] ∧ sampleFanned.Drops next ["b", "b", "c"] ∧
        next.board.overlay = .ofList [("a", .success)]) ∧
      ∃ next edge, sampleFanned.disconnect "2" = (next, .ok edge) ∧
        sampleFanned.Drops next ["b"] := by
  have hreachable : sampleFanned.document.Reachable :=
    Document.Reachable.run (.empty "p" "Pipeline") (by decide)
  obtain ⟨hdelete, hreassign, hdisconnect⟩ := drops_stale hreachable
  have hdeleted := (hdelete "a" _ _ rfl).2
  have hreassigned := hreassign "b" (.ok (Document.sampleSchema [])) _ _ rfl
  have hdisconnected := hdisconnect "2" _ _ rfl
  exact ⟨hreachable, ⟨_, _, rfl, rfl, rfl, hdeleted, by decide⟩,
    ⟨_, _, rfl, rfl, hreassigned, by decide⟩, ⟨_, _, rfl, hdisconnected⟩⟩

end Session

end Dataflow
