import Dataflow.Proofs.Editing
import Dataflow.Session

/-!
# Commands as edits

A command looks up a schema, if it needs one, and then tries one edit of the document. If the edit
succeeds and the document before it can be encoded, the edited document is accepted and the outcomes
of the nodes that lost something are dropped. If that document cannot be encoded, the command fails
and the edit stays. So what is true of every edit of a document is true of every command: different
ids stay different, and a node that loses an edge is among those whose outcomes are dropped.
-/

namespace Dataflow

theorem exists_of_map_eq_ok {α β : Type} {attempt : Except Error α} {change : α → β} {result : β}
    (h : attempt.map change = .ok result) :
    ∃ found, attempt = .ok found ∧ change found = result := by
  cases attempt with
  | error cause => cases h
  | ok found => exact ⟨found, rfl, Except.ok.inj h⟩

/-- An item that is lost when the first match is removed is that match. -/
theorem find?_eq_of_not_mem_eraseP {α : Type} {test : α → Bool} {items : List α} {item : α}
    (hmem : item ∈ items) (hlost : item ∉ items.eraseP test) : items.find? test = some item := by
  induction items with
  | nil => cases hmem
  | cons first rest ih =>
    cases htest : test first with
    | true =>
      rw [List.eraseP_cons_of_pos htest] at hlost
      rcases List.mem_cons.mp hmem with rfl | hrest
      · exact List.find?_cons_of_pos htest
      · exact absurd hrest hlost
    | false =>
      have hnot : ¬test first = true := by simp [htest]
      rw [List.eraseP_cons_of_neg hnot, List.mem_cons, not_or] at hlost
      rw [List.find?_cons_of_neg hnot]
      exact ih ((List.mem_cons.mp hmem).resolve_left hlost.1) hlost.2

namespace Document

variable {document edited : Document} {id : String} {schema : Schema}

/-! ## What single edits give -/

/-- A new node comes last and has the number of the counter. -/
theorem insertNew_eq_ok (h : document.insertNew id schema = .ok edited) :
    edited = { document with
      nodes := document.nodes ++ [Node.create id document.nextOrdinal schema]
      nextOrdinal := document.nextOrdinal + 1 } := by
  unfold insertNew at h
  split at h
  · contradiction
  · next counted ordinal hcount =>
    obtain ⟨rfl, -, rfl⟩ := allocate_eq_ok hcount
    exact (Except.ok.inj h).symm

/-- A node is inserted as a new one if its id is free. -/
theorem insert_eq_ok (h : document.insert id schema = .ok edited) :
    id ∉ document.nodeIds ∧ document.insertNew id schema = .ok edited := by
  unfold insert at h
  split at h
  · contradiction
  · next hnew => exact ⟨fun hmem => hnew ((contains_iff _ _).mpr hmem), h⟩

/-- An update that succeeds changes the first node with the id. -/
theorem updateNode_eq_ok {change : Node → Node} (h : document.updateNode id change = .ok edited) :
    edited = document.modifyNode id change := by
  unfold updateNode at h
  split at h
  · exact (Except.ok.inj h).symm
  · contradiction

/-- An assignment changes one node and removes the edges whose ports the schema lacks. -/
theorem assign_eq_ok {change : SchemaChange}
    (h : document.assign id schema = .ok (edited, change)) :
    edited = { document.modifyNode id fun node => (node.withSchema schema).ensureBound with
      edges := document.edges.filter fun edge => !orphaned id schema edge } ∧
      change.removed = document.edges.filter (orphaned id schema) := by
  unfold assign at h
  split at h
  · contradiction
  · obtain ⟨rfl, rfl⟩ := Prod.mk.inj (Except.ok.inj h)
    exact ⟨rfl, rfl⟩

theorem connect_eq_ok {edge : Edge} (h : document.connect edge = .ok edited) :
    edited = { document with edges := document.edges ++ [edge] } := by
  unfold connect at h
  split at h
  · contradiction
  · exact (Except.ok.inj h).symm

/-- The first edge with the id is removed. -/
theorem disconnect_eq_ok {edge : Edge} (h : document.disconnect id = .ok (edited, edge)) :
    (document.edges.find? fun edge => edge.id == id) = some edge ∧
      edited = { document with edges := document.edges.eraseP fun edge => edge.id == id } := by
  unfold disconnect at h
  split at h
  · contradiction
  · next hfound =>
    obtain ⟨rfl, rfl⟩ := Prod.mk.inj (Except.ok.inj h)
    exact ⟨hfound, rfl⟩

/-- A deletion tells the node and all edges that touched it. -/
theorem removal_eq_of_delete {removal : Removal} (h : document.delete id = .ok (edited, removal)) :
    document.node? id = some removal.node ∧
      removal.removed = document.edges.filter fun edge => edge.touches id := by
  unfold delete node at h
  cases hnode : document.node? id with
  | none => simp [hnode] at h
  | some node =>
    simp only [hnode] at h
    obtain ⟨-, rfl⟩ := Prod.mk.inj (Except.ok.inj h)
    exact ⟨rfl, rfl⟩

/-- The first node with the id is removed, with all edges that touch it. -/
theorem delete_eq_ok {removal : Removal} (h : document.delete id = .ok (edited, removal)) :
    edited = { document with
      nodes := document.nodes.eraseP fun node => node.id == id
      edges := document.edges.filter fun edge => !edge.touches id } ∧
      removal.node.id = id ∧
      removal.affected = distinct (((document.edges.filter fun edge => edge.touches id).filter
        fun edge => edge.source == id && edge.target != id).map Edge.target) := by
  obtain ⟨hnode, -⟩ := removal_eq_of_delete h
  simp only [delete, node, hnode] at h
  obtain ⟨rfl, hremoval⟩ := Prod.mk.inj (Except.ok.inj h)
  exact ⟨rfl, id_eq_of_node?_eq_some hnode, by rw [← hremoval]⟩

/-! ## All edits -/

/-- Try an edit. It gives the edited document and the nodes whose outcomes it makes stale. -/
def tryEdit (document : Document) : Edit → Except Error (Document × List String)
  | .insertGenerated id schema => (document.insertNew id schema).map fun edited => (edited, [])
  | .insert id schema => (document.insert id schema).map fun edited => (edited, [])
  | .setValue id name value => (document.setValue id name value).map fun edited => (edited, [])
  | .setValues id values => (document.setValues id values).map fun edited => (edited, [])
  | .assign id schema =>
    (document.assign id schema).map fun found => (found.1, id :: found.2.removed.map Edge.target)
  | .connect edge => (document.connect edge).map fun edited => (edited, [])
  | .disconnect id => (document.disconnect id).map fun found => (found.1, [found.2.target])
  | .delete id =>
    (document.delete id).map fun found => (found.1, found.2.affected ++ [found.2.node.id])
  | .allocate => document.allocate.map fun found => (found.1, [])
  | .advance next => .ok (document.advance next, [])
  | .normalize => .ok (document.normalize.1, [])

/-- What an edit leaves behind is the document that it gives, or else the old one. -/
theorem after_eq_keeping (document : Document) (edit : Edit) :
    document.after edit = document.keeping ((document.tryEdit edit).map Prod.fst) := by
  cases edit with
  | insertGenerated id schema => rw [after, tryEdit]; cases document.insertNew id schema <;> rfl
  | insert id schema => rw [after, tryEdit]; cases document.insert id schema <;> rfl
  | setValue id name value => rw [after, tryEdit]; cases document.setValue id name value <;> rfl
  | setValues id values => rw [after, tryEdit]; cases document.setValues id values <;> rfl
  | assign id schema => rw [after, tryEdit]; cases document.assign id schema <;> rfl
  | connect edge => rw [after, tryEdit]; cases document.connect edge <;> rfl
  | disconnect id => rw [after, tryEdit]; cases document.disconnect id <;> rfl
  | delete id => rw [after, tryEdit]; cases document.delete id <;> rfl
  | allocate => rw [after, tryEdit]; cases document.allocate <;> rfl
  | advance next => rfl
  | normalize => rfl

/-- Renumbering changes nothing but numbers and variables. -/
theorem map_nodes_ofNodes {β : Type} (part : Node → β)
    (hpart : ∀ node ordinal, part (node.renumber ordinal) = part node) (seen : List UInt32)
    (next : UInt32) (nodes : List Node) :
    (Renumbering.ofNodes seen next nodes).nodes.map part = nodes.map part := by
  induction nodes generalizing seen next with
  | nil => rfl
  | cons node rest ih =>
    unfold Renumbering.ofNodes
    split
    · split
      · rfl
      · simp [ih, hpart]
    · simp [ih]

theorem nodeIds_normalize (document : Document) :
    document.normalize.1.nodeIds = document.nodeIds := by
  have hids := map_nodes_ofNodes Node.id (fun _ _ => rfl) []
    (document.advance document.pastHighest).nextOrdinal document.nodes
  unfold normalize nodeIds
  dsimp only
  split
  · exact hids
  · simpa [Function.comp_def] using hids

theorem edges_normalize (document : Document) :
    document.normalize.1.edges = document.edges := by
  unfold normalize
  dsimp only
  split <;> rfl

theorem nodeIds_modifyNode (document : Document) (id : String) {change : Node → Node}
    (h : ∀ node, (change node).id = node.id) :
    (document.modifyNode id change).nodeIds = document.nodeIds :=
  map_modifyFirst h document.nodes

/-- What an edit that succeeds does to ids and edges. -/
structure Tried (document : Document) (edit : Edit) (edited : Document) (stale : List String) :
    Prop where
  /-- Different ids stay different, if an id that was made is new. -/
  ids : document.nodeIds.Nodup → edit.Fresh document → edited.nodeIds.Nodup
  /-- A node that loses an edge becomes stale. -/
  lost : ∀ edge ∈ document.edges, edge ∉ edited.edges → edge.target ∈ stale

variable {edit : Edit} {stale : List String}

/-- An edit that keeps ids and edges. -/
theorem Tried.of_kept (hids : edited.nodeIds = document.nodeIds)
    (hedges : document.edges ⊆ edited.edges) : document.Tried edit edited stale :=
  ⟨fun hnodup _ => hids ▸ hnodup, fun _ hbefore hafter => absurd (hedges hbefore) hafter⟩

/-- A new node makes nothing stale. -/
theorem Tried.of_insertNew (h : document.insertNew id schema = .ok edited)
    (hnew : edit.Fresh document → id ∉ document.nodeIds) :
    document.Tried edit edited stale := by
  obtain rfl := insertNew_eq_ok h
  refine ⟨fun hnodup hfresh => ?_, fun edge hbefore hafter => absurd hbefore hafter⟩
  simp only [nodeIds, List.map_append, List.map_cons, List.map_nil]
  refine List.nodup_append.mpr ⟨hnodup, List.nodup_singleton _, ?_⟩
  intro old hold made hmade hsame
  obtain rfl := List.mem_singleton.mp hmade
  exact hnew hfresh (hsame ▸ hold)

/-- An assignment makes its node stale, and all nodes that lose an edge by it. -/
theorem Tried.of_assign {change : SchemaChange}
    (h : document.assign id schema = .ok (edited, change)) :
    document.Tried edit edited (id :: change.removed.map Edge.target) := by
  obtain ⟨rfl, hremoved⟩ := assign_eq_ok h
  refine ⟨fun hnodup _ => ?_, fun edge hbefore hafter => ?_⟩
  · have hid (node : Node) : (node.withSchema schema).ensureBound.id = node.id := by
      simp [Node.withSchema]
    exact (document.nodeIds_modifyNode id hid).symm ▸ hnodup
  · have horphaned : orphaned id schema edge = true := by
      by_contra hnot
      exact hafter (List.mem_filter.mpr ⟨hbefore, by simpa using hnot⟩)
    refine List.mem_cons_of_mem _ (List.mem_map_of_mem ?_)
    rw [hremoved]
    exact List.mem_filter.mpr ⟨hbefore, horphaned⟩

/-- Removing an edge makes its target stale. -/
theorem Tried.of_disconnect {removed : Edge} (h : document.disconnect id = .ok (edited, removed)) :
    document.Tried edit edited [removed.target] := by
  obtain ⟨hfound, rfl⟩ := disconnect_eq_ok h
  refine ⟨fun hnodup _ => hnodup, fun edge hbefore hafter => ?_⟩
  have hlost := find?_eq_of_not_mem_eraseP hbefore hafter
  obtain rfl := Option.some.inj (hfound.symm.trans hlost)
  exact List.mem_singleton_self _

/-- A deletion makes the node stale and all nodes that it led to. -/
theorem Tried.of_delete {removal : Removal} (h : document.delete id = .ok (edited, removal)) :
    document.Tried edit edited (removal.affected ++ [removal.node.id]) := by
  obtain ⟨rfl, hid, haffected⟩ := delete_eq_ok h
  refine ⟨fun hnodup _ => hnodup.sublist (List.eraseP_sublist.map _),
    fun edge hbefore hafter => ?_⟩
  have htouches : edge.touches id = true := by
    by_contra hnot
    exact hafter (List.mem_filter.mpr ⟨hbefore, by simpa using hnot⟩)
  by_cases htarget : edge.target = id
  · rw [htarget, ← hid]
    exact List.mem_append_right _ (List.mem_singleton_self _)
  · have hsource : edge.source = id := by simpa [Edge.touches, htarget] using htouches
    refine List.mem_append_left _ ?_
    rw [haffected]
    refine mem_distinct_iff.mpr (List.mem_map_of_mem (List.mem_filter.mpr ⟨?_, ?_⟩))
    · exact List.mem_filter.mpr ⟨hbefore, htouches⟩
    · simp [hsource, htarget]

/-- An edit that makes nothing stale succeeds with what its attempt gives. -/
theorem eq_ok_of_map_eq_ok {attempt : Except Error Document}
    (h : (attempt.map fun made => (made, ([] : List String))) = .ok (edited, stale)) :
    attempt = .ok edited := by
  obtain ⟨made, hmade, heq⟩ := exists_of_map_eq_ok h
  rw [hmade, (Prod.mk.inj heq).1]

/-- An edit that succeeds keeps ids different, and nodes that lose an edge by it become stale. -/
theorem tried_of_tryEdit (h : document.tryEdit edit = .ok (edited, stale)) :
    document.Tried edit edited stale := by
  cases edit with
  | insertGenerated id schema =>
    exact .of_insertNew (eq_ok_of_map_eq_ok h) fun hfresh => hfresh id rfl
  | insert id schema =>
    obtain ⟨hnew, hmade⟩ := insert_eq_ok (eq_ok_of_map_eq_ok h)
    exact .of_insertNew hmade fun _ => hnew
  | setValue id name value =>
    obtain rfl := updateNode_eq_ok (eq_ok_of_map_eq_ok h)
    exact .of_kept (nodeIds_modifyNode document id fun _ => rfl) (List.Subset.refl _)
  | setValues id values =>
    obtain rfl := updateNode_eq_ok (eq_ok_of_map_eq_ok h)
    exact .of_kept (nodeIds_modifyNode document id fun _ => rfl) (List.Subset.refl _)
  | assign id schema =>
    obtain ⟨⟨_, change⟩, hmade, heq⟩ := exists_of_map_eq_ok h
    obtain ⟨rfl, rfl⟩ := Prod.mk.inj heq
    exact .of_assign hmade
  | connect edge =>
    obtain rfl := connect_eq_ok (eq_ok_of_map_eq_ok h)
    exact .of_kept rfl (List.subset_append_left _ _)
  | disconnect id =>
    obtain ⟨⟨_, removed⟩, hmade, heq⟩ := exists_of_map_eq_ok h
    obtain ⟨rfl, rfl⟩ := Prod.mk.inj heq
    exact .of_disconnect hmade
  | delete id =>
    obtain ⟨⟨_, removal⟩, hmade, heq⟩ := exists_of_map_eq_ok h
    obtain ⟨rfl, rfl⟩ := Prod.mk.inj heq
    exact .of_delete hmade
  | allocate =>
    obtain ⟨⟨_, ordinal⟩, hmade, heq⟩ := exists_of_map_eq_ok h
    obtain ⟨rfl, rfl⟩ := Prod.mk.inj heq
    obtain ⟨-, -, rfl⟩ := allocate_eq_ok hmade
    exact .of_kept rfl (List.Subset.refl _)
  | advance next =>
    obtain ⟨rfl, rfl⟩ := Prod.mk.inj (Except.ok.inj h)
    exact .of_kept rfl (List.Subset.refl _)
  | normalize =>
    obtain ⟨rfl, rfl⟩ := Prod.mk.inj (Except.ok.inj h)
    exact .of_kept document.nodeIds_normalize (by rw [edges_normalize]; exact List.Subset.refl _)

end Document

namespace Session

/-- A request to edit the document of a session, with the ids that were made for it. -/
inductive Command where
  /-- Add a node with a registered algorithm. -/
  | addNode (id algorithm : String)
  /-- Add a node with an algorithm that is registered or that the library knows. -/
  | addNodeFromLibrary (id algorithm : String)
  /-- Add a node without an algorithm. -/
  | addUnassigned (id : String)
  /-- Give a node a registered algorithm. -/
  | assign (id algorithm : String)
  /-- Give a node an algorithm that is registered or that the library knows. -/
  | assignFromLibrary (id algorithm : String)
  /-- Set a value of a node. -/
  | setValue (id name : String) (value : Json)
  /-- Add an edge. -/
  | connect (edge : Edge)
  /-- Remove an edge. -/
  | disconnect (id : String)
  /-- Delete a node. -/
  | delete (id : String)

namespace Command

/-- The id that was made for a new node, if there is one. -/
def generated? : Command → Option String
  | .addNode id _ | .addNodeFromLibrary id _ | .addUnassigned id => some id
  | _ => none

/-- Whether a command gives a node another schema. -/
def assigns : Command → Bool
  | .assign _ _ | .assignFromLibrary _ _ => true
  | _ => false

end Command

variable {session : Session}

/-- Obey a command. -/
def obey (session : Session) : Command → Session × Except Error Unit
  | .addNode id algorithm => session.addNode id algorithm
  | .addNodeFromLibrary id algorithm => session.addNodeFromLibrary id algorithm
  | .addUnassigned id => session.addUnassigned id
  | .assign id algorithm => forget (session.assign id algorithm)
  | .assignFromLibrary id algorithm => forget (session.assignFromLibrary id algorithm)
  | .setValue id name value => session.setValue id name value
  | .connect edge => session.connect edge
  | .disconnect id => forget (session.disconnect id)
  | .delete id => forget (session.delete id)
where
  /-- Keep whether a command succeeded, and not what it found. -/
  forget {α : Type} (answer : Session × Except Error α) : Session × Except Error Unit :=
    (answer.1, answer.2.map fun _ => ())

/-- The session after an edit that gave a document and made some outcomes stale. -/
def accept (session : Session) (document : Document) (stale : List String) : Session :=
  { session with
    document
    history := session.history.checkpoint session.document
    board := session.board.clearEach stale }.refresh

@[simp] theorem refresh_document (session : Session) :
    session.refresh.document = session.document := rfl

/-- Every document can be encoded for the history. -/
def Encodes (session : Session) : Prop := ∀ document, session.encode document = .ok ()

/-- The edit that a command asks for, unless its schema is not known. -/
def Command.edit (session : Session) : Command → Except Error Edit
  | .addNode id algorithm => (session.registeredSchema algorithm).map (.insertGenerated id)
  | .addNodeFromLibrary id algorithm => (session.knownSchema algorithm).map (.insertGenerated id)
  | .addUnassigned id =>
    .ok (.insertGenerated id
      ((session.registry.schema? Schema.unassignedId).getD Schema.unassigned))
  | .assign id algorithm => (session.registeredSchema algorithm).map (.assign id)
  | .assignFromLibrary id algorithm => (session.knownSchema algorithm).map (.assign id)
  | .setValue id name value => .ok (.setValue id name value)
  | .connect edge => .ok (.connect edge)
  | .disconnect id => .ok (.disconnect id)
  | .delete id => .ok (.delete id)

/-- The edits that a command can ask for. -/
inductive Command.Asks (command : Command) : Edit → Prop where
  /-- Append a node under the id that was made for it. -/
  | insert {id : String} (schema : Schema) : command.generated? = some id →
    Asks command (.insertGenerated id schema)
  /-- Give a node another schema. -/
  | assign (id : String) (schema : Schema) : command.assigns = true →
    Asks command (.assign id schema)
  /-- Set a value. -/
  | setValue {id name : String} {value : Json} : command = .setValue id name value →
    Asks command (.setValue id name value)
  /-- Append an edge. -/
  | connect (edge : Edge) : Asks command (.connect edge)
  /-- Remove an edge. -/
  | disconnect (id : String) : Asks command (.disconnect id)
  /-- Delete a node. -/
  | delete (id : String) : Asks command (.delete id)

/-- An id that the edit makes was made for the command. -/
theorem Command.Asks.mem_generated? {command : Command} {edit : Edit} (h : command.Asks edit)
    {id : String} (hid : id ∈ edit.generated?) : id ∈ command.generated? := by
  cases h with
  | insert schema hmade =>
    obtain rfl := Option.some.inj hid
    exact hmade
  | assign _ _ _ | setValue _ | connect _ | disconnect _ | delete _ => cases hid

/-- A command asks for an edit of its kind. -/
theorem Command.asks_of_edit {command : Command} {edit : Edit}
    (h : command.edit session = .ok edit) : command.Asks edit := by
  cases command with
  | addNode id algorithm | addNodeFromLibrary id algorithm =>
    obtain ⟨schema, -, rfl⟩ := exists_of_map_eq_ok h
    exact .insert schema rfl
  | addUnassigned id =>
    obtain rfl := Except.ok.inj h
    exact .insert _ rfl
  | assign id algorithm | assignFromLibrary id algorithm =>
    obtain ⟨schema, -, rfl⟩ := exists_of_map_eq_ok h
    exact .assign id schema rfl
  | setValue id name value =>
    obtain rfl := Except.ok.inj h
    exact .setValue rfl
  | connect edge =>
    obtain rfl := Except.ok.inj h
    exact .connect edge
  | disconnect id =>
    obtain rfl := Except.ok.inj h
    exact .disconnect id
  | delete id =>
    obtain rfl := Except.ok.inj h
    exact .delete id

/-- The session after an edit was tried. -/
def settle (session : Session) :
    Except Error (Document × List String) → Session × Except Error Unit
  | .error cause => (session, .error cause)
  | .ok (document, stale) =>
    match session.encode session.document with
    | .error cause => ({ session with document }, .error cause)
    | .ok () => (session.accept document stale, .ok ())

/-- An edit that makes nothing stale is settled. -/
theorem editOnly_eq (session : Session) (change : Document → Except Error Document) :
    session.editOnly change =
      session.settle ((change session.document).map fun edited => (edited, [])) := by
  unfold editOnly edit settle
  dsimp only
  cases change session.document with
  | error cause => rfl
  | ok edited => cases session.encode session.document <;> rfl

/-- An edit is settled with what it makes stale. -/
theorem forget_edit_eq {α : Type} (session : Session)
    (change : Document → Except Error (Document × α)) (stale : α → List String) :
    obey.forget (session.edit change stale) =
      session.settle ((change session.document).map fun found => (found.1, stale found.2)) := by
  unfold edit settle
  cases change session.document with
  | error cause => rfl
  | ok found =>
    dsimp only [Except.map]
    cases session.encode session.document <;> rfl

/-- A command is the edit that it asks for. -/
theorem obey_eq (session : Session) (command : Command) :
    session.obey command =
      session.settle ((command.edit session).bind session.document.tryEdit) := by
  have hinsert (id : String) (schema : Except Error Schema) : session.insert id schema =
      session.settle ((schema.map (Edit.insertGenerated id)).bind session.document.tryEdit) := by
    cases schema with
    | error cause => rfl
    | ok schema => exact session.editOnly_eq _
  have hassign (id : String) (schema : Except Error Schema) :
      obey.forget (session.reassign id schema) =
        session.settle ((schema.map (Edit.assign id)).bind session.document.tryEdit) := by
    cases schema with
    | error cause => rfl
    | ok schema => exact session.forget_edit_eq _ _
  cases command with
  | addNode id algorithm => exact hinsert id (session.registeredSchema algorithm)
  | addNodeFromLibrary id algorithm => exact hinsert id (session.knownSchema algorithm)
  | addUnassigned id => exact hinsert id (.ok _)
  | assign id algorithm => exact hassign id (session.registeredSchema algorithm)
  | assignFromLibrary id algorithm => exact hassign id (session.knownSchema algorithm)
  | setValue id name value =>
    exact session.editOnly_eq fun document => document.setValue id name value
  | connect edge => exact session.editOnly_eq fun document => document.connect edge
  | disconnect id => exact session.forget_edit_eq _ _
  | delete id => exact session.forget_edit_eq _ _

/-- A command fails and changes nothing, or its edit gives a document. That document is accepted, or
else the one before cannot be encoded, and the command fails after its edit. -/
theorem obey_cases (session : Session) (command : Command) :
    (∃ cause, session.obey command = (session, .error cause)) ∨
    ∃ edit document stale, command.edit session = .ok edit ∧
      session.document.tryEdit edit = .ok (document, stale) ∧
      (session.obey command = (session.accept document stale, .ok ()) ∨
        ∃ cause, session.encode session.document = .error cause ∧
          session.obey command = ({ session with document }, .error cause)) := by
  rw [obey_eq]
  cases hedit : command.edit session with
  | error cause => exact .inl ⟨cause, rfl⟩
  | ok edit =>
    dsimp only [Except.bind]
    cases htried : session.document.tryEdit edit with
    | error cause => exact .inl ⟨cause, rfl⟩
    | ok found =>
      refine .inr ⟨edit, found.1, found.2, rfl, htried, ?_⟩
      unfold settle
      cases session.encode session.document with
      | error cause => exact .inr ⟨cause, rfl, rfl⟩
      | ok _ => exact .inl rfl

/-- Where documents can be encoded, a command fails and changes nothing, or the document of its edit
is accepted. -/
theorem Encodes.obey_cases (h : session.Encodes) (command : Command) :
    (∃ cause, session.obey command = (session, .error cause)) ∨
    ∃ edit document stale, command.edit session = .ok edit ∧
      session.document.tryEdit edit = .ok (document, stale) ∧
      session.obey command = (session.accept document stale, .ok ()) := by
  rcases Session.obey_cases session command with
    hfailed | ⟨edit, document, stale, hedit, htried, haccepted | ⟨cause, hencode, -⟩⟩
  · exact .inl hfailed
  · exact .inr ⟨edit, document, stale, hedit, htried, haccepted⟩
  · rw [h] at hencode
    contradiction

end Session

end Dataflow
