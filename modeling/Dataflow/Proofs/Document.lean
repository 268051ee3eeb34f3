import Dataflow.Document.Normalize
import Dataflow.Proofs.Variable
import Mathlib.Data.List.Nodup

/-!
# Well-formed documents

A document is well-formed if its nodes have different ids and different numbers below the counter,
bind their outputs as a new node would, and if its edges join declared ports, at most one of them at
each input. Looking up a node by its id then finds the node that has it, and a change of the first
node with an id is a change of all nodes with that id. The variables of a well-formed document are
pairwise different identifiers.
-/

namespace Dataflow

namespace Schema

/-- A declared output is found by its name. -/
theorem isSome_output?_iff (schema : Schema) (name : String) :
    (schema.output? name).isSome = true ↔ name ∈ schema.outputNames := by
  simp [output?, outputNames, Port.names]

/-- A declared input is found by its name. -/
theorem isSome_input?_iff (schema : Schema) (name : String) :
    (schema.input? name).isSome = true ↔ name ∈ schema.inputNames := by
  simp [input?, inputNames, Port.names]

end Schema

namespace Node

/-- The node binds its outputs as a new node with its number and its schema would. -/
def Bound (node : Node) : Prop :=
  node.bindings = Variable.bindPorts node.ordinal node.schema.outputNames

/-- A node that binds its outputs by its number passes the check of its ports. -/
theorem Bound.isBound {node : Node} (h : node.Bound) : node.isBound = true := by
  rw [Node.isBound, h, Variable.map_port_bindPorts]
  exact beq_self_eq_true _

theorem bound_rebind (node : Node) : node.rebind.Bound := rfl

/-- A bound node is left as it is. -/
theorem Bound.ensureBound_eq {node : Node} (h : node.Bound) : node.ensureBound = node := by
  rw [ensureBound, h.isBound]
  rfl

/-- The names of the variables of a node carry its number. -/
def Tagged (node : Node) : Prop :=
  ∀ binding ∈ node.bindings, Variable.IsNameOf node.ordinal binding.name

/-- The variables of a bound node carry its number. -/
theorem Bound.tagged {node : Node} (h : node.Bound) : node.Tagged := by
  intro binding hbinding
  rw [h] at hbinding
  exact Variable.isNameOf_of_mem_bindPorts hbinding

/-- The variables of a bound node are different. -/
theorem Bound.nodup_names {node : Node} (h : node.Bound) :
    (node.bindings.map Binding.name).Nodup := by
  rw [h]
  exact Variable.nodup_names_bindPorts _ _

/-- Nodes with different numbers share no variable if their variables carry the numbers. -/
theorem Tagged.disjoint {node other : Node} (h : node.Tagged) (hother : other.Tagged)
    (hne : node.ordinal ≠ other.ordinal) :
    (node.bindings.map Binding.name).Disjoint (other.bindings.map Binding.name) := by
  intro name hname hsame
  obtain ⟨x, hx, rfl⟩ := List.mem_map.mp hname
  obtain ⟨y, hy, hxy⟩ := List.mem_map.mp hsame
  exact hne ((h x hx).ordinal_eq (hxy ▸ hother y hy))

/-- Another schema keeps the variables only if they belong to the same outputs, so they are still
those of a new node. -/
theorem Bound.withSchema {node : Node} (h : node.Bound) (schema : Schema) :
    (node.withSchema schema).ensureBound.Bound := by
  unfold ensureBound
  split
  · next hports =>
    have hsame : node.schema.outputNames = schema.outputNames := by
      have hp : node.bindings.map Binding.port = schema.outputNames := by
        simpa [Node.isBound, Node.withSchema] using hports
      rw [← hp, h, Variable.map_port_bindPorts]
    change node.bindings = Variable.bindPorts node.ordinal schema.outputNames
    rw [h, hsame]
  · rfl

@[simp] theorem ensureBound_id (node : Node) : node.ensureBound.id = node.id := by
  unfold ensureBound
  split <;> rfl

@[simp] theorem ensureBound_ordinal (node : Node) : node.ensureBound.ordinal = node.ordinal := by
  unfold ensureBound
  split <;> rfl

@[simp] theorem ensureBound_schema (node : Node) : node.ensureBound.schema = node.schema := by
  unfold ensureBound
  split <;> rfl

@[simp] theorem ensureBound_values (node : Node) : node.ensureBound.values = node.values := by
  unfold ensureBound
  split <;> rfl

/-- A bound node has a variable for each of its outputs. -/
theorem Bound.exists_binding? {node : Node} (h : node.Bound) {port : String}
    (hport : port ∈ node.schema.outputNames) :
    ∃ binding ∈ node.bindings, binding.port = port ∧ node.binding? port = some binding.name := by
  have hports : port ∈ node.bindings.map Binding.port := by
    rw [h, Variable.map_port_bindPorts]
    exact hport
  have hsome : (node.bindings.find? fun binding => binding.port == port).isSome = true := by
    simpa using hports
  obtain ⟨binding, hfound⟩ := Option.isSome_iff_exists.mp hsome
  refine ⟨binding, List.mem_of_find?_eq_some hfound, by simpa using List.find?_some hfound, ?_⟩
  rw [binding?, hfound, Option.map_some]

end Node

/-- Where the test picks at most one item, the first item that passes is every item that passes. -/
theorem modifyFirst_eq_map {α : Type} {test : α → Bool} {change : α → α} {items : List α}
    (h : items.Pairwise fun a b => test a = true → test b = false) :
    modifyFirst test change items =
      items.map fun item => if test item then change item else item := by
  induction items with
  | nil => rfl
  | cons item rest ih =>
    obtain ⟨hfirst, hrest⟩ := List.pairwise_cons.mp h
    unfold modifyFirst
    split
    · next htest =>
      have hsame : rest.map (fun item => if test item then change item else item) = rest := by
        conv_rhs => rw [← List.map_id rest]
        refine List.map_congr_left fun other hother => ?_
        simp [hfirst other hother htest]
      rw [List.map_cons, hsame]
      simp [htest]
    · next htest => simp [htest, ih hrest]

/-- What a change leaves alone in every item is the same along the list. -/
theorem map_modifyFirst {α β : Type} {test : α → Bool} {change : α → α} {part : α → β}
    (h : ∀ item, part (change item) = part item) (items : List α) :
    (modifyFirst test change items).map part = items.map part := by
  induction items with
  | nil => rfl
  | cons item rest ih =>
    unfold modifyFirst
    split
    · rw [List.map_cons, List.map_cons, h]
    · rw [List.map_cons, List.map_cons, ih]

/-- The first item that passes is replaced by what it changes to. -/
theorem modifyFirst_const {α : Type} {test : α → Bool} {items : List α} {item : α}
    (h : items.find? test = some item) (change : α → α) :
    modifyFirst test (fun _ => change item) items = modifyFirst test change items := by
  induction items with
  | nil => contradiction
  | cons first rest ih =>
    unfold modifyFirst
    cases htest : test first with
    | true =>
      rw [List.find?_cons_of_pos htest] at h
      obtain rfl := Option.some.inj h
      rfl
    | false =>
      rw [List.find?_cons_of_neg (by simp [htest])] at h
      simp [ih h]

/-- An item of the changed list is one of the list, or it is changed. -/
theorem mem_modifyFirst {α : Type} {test : α → Bool} {change : α → α} {items : List α} {item : α}
    (h : item ∈ modifyFirst test change items) :
    item ∈ items ∨ ∃ old ∈ items, test old = true ∧ item = change old := by
  induction items with
  | nil => exact .inl h
  | cons first rest ih =>
    unfold modifyFirst at h
    split at h
    · next htest =>
      rcases List.mem_cons.mp h with rfl | hmem
      · exact .inr ⟨first, List.mem_cons_self, htest, rfl⟩
      · exact .inl (List.mem_cons_of_mem _ hmem)
    · rcases List.mem_cons.mp h with rfl | hmem
      · exact .inl List.mem_cons_self
      · rcases ih hmem with hold | ⟨old, hold, hchanged⟩
        · exact .inl (List.mem_cons_of_mem _ hold)
        · exact .inr ⟨old, List.mem_cons_of_mem _ hold, hchanged⟩

namespace Document

/-- A node with this id declares this port, among its inputs or among its outputs as `ports` says.
-/
def Declares (document : Document) (ports : Schema → List String) (id port : String) : Prop :=
  ∃ node ∈ document.nodes, node.id = id ∧ port ∈ ports node.schema

/-- Ids, numbers, variables and edges of a document fit together. -/
structure WellFormed (document : Document) : Prop where
  /-- No two nodes have the same id. -/
  ids : document.nodeIds.Nodup
  /-- No two nodes have the same number. -/
  ordinals : (document.nodes.map Node.ordinal).Nodup
  /-- Numbers lie below the counter. -/
  below : ∀ node ∈ document.nodes, node.ordinal < document.nextOrdinal
  /-- Every node binds its outputs as a new node would. -/
  bound : ∀ node ∈ document.nodes, node.Bound
  /-- Every edge leaves a declared output of a node. -/
  sources : ∀ edge ∈ document.edges,
    document.Declares Schema.outputNames edge.source edge.sourcePort
  /-- Every edge enters a declared input of a node. -/
  targets : ∀ edge ∈ document.edges,
    document.Declares Schema.inputNames edge.target edge.targetPort
  /-- At most one edge enters each input. -/
  inputs : (document.edges.map fun edge => (edge.target, edge.targetPort)).Nodup

/-- The variables of all nodes, in document order. -/
def variableNames (document : Document) : List String :=
  document.nodes.flatMap fun node => node.bindings.map Binding.name

/-! ## Looking up nodes -/

theorem id_eq_of_node?_eq_some {document : Document} {id : String} {node : Node}
    (h : document.node? id = some node) : node.id = id := by
  simpa using List.find?_some h

theorem mem_of_node?_eq_some {document : Document} {id : String} {node : Node}
    (h : document.node? id = some node) : node ∈ document.nodes :=
  List.mem_of_find?_eq_some h

/-- A node is found for exactly the ids of the document. -/
theorem contains_iff (document : Document) (id : String) :
    document.contains id = true ↔ id ∈ document.nodeIds := by
  simp [contains, node?, nodeIds]

/-- Nodes with different ids are found by their id. -/
theorem node?_eq_some_of_mem {document : Document} (hids : document.nodeIds.Nodup) {node : Node}
    (hmem : node ∈ document.nodes) : document.node? node.id = some node := by
  obtain ⟨found, hfound⟩ := Option.isSome_iff_exists.mp
    ((contains_iff document node.id).mpr (List.mem_map_of_mem hmem))
  have hsame := List.inj_on_of_nodup_map hids (mem_of_node?_eq_some hfound) hmem
    (id_eq_of_node?_eq_some hfound)
  rw [hfound, hsame]

/-- With different ids, changing the first node with an id changes every node with that id. -/
theorem modifyNode_nodes {document : Document} (hids : document.nodeIds.Nodup) (id : String)
    (change : Node → Node) :
    (document.modifyNode id change).nodes =
      document.nodes.map fun node => if node.id == id then change node else node := by
  refine modifyFirst_eq_map ?_
  refine (List.pairwise_map.mp hids).imp fun {a b} hne ha => ?_
  have ha : a.id = id := by simpa using ha
  simpa [ha] using hne.symm

/-! ## Variables -/

/-- Every variable of a bound node carries its number. -/
theorem WellFormed.isNameOf {document : Document} (h : document.WellFormed) {node : Node}
    (hnode : node ∈ document.nodes) {binding : Binding} (hb : binding ∈ node.bindings) :
    Variable.IsNameOf node.ordinal binding.name :=
  (h.bound node hnode).tagged binding hb

/-- Nodes that share a variable are the same node. -/
theorem WellFormed.eq_of_isNameOf {document : Document} (h : document.WellFormed) {a b : Node}
    (ha : a ∈ document.nodes) (hb : b ∈ document.nodes) {name : String}
    (hna : Variable.IsNameOf a.ordinal name) (hnb : Variable.IsNameOf b.ordinal name) : a = b :=
  List.inj_on_of_nodup_map h.ordinals ha hb (hna.ordinal_eq hnb)

/-- The variables of a well-formed document are pairwise different. -/
theorem WellFormed.nodup_variableNames {document : Document} (h : document.WellFormed) :
    document.variableNames.Nodup := by
  refine List.nodup_flatMap.mpr ⟨fun node hnode => (h.bound node hnode).nodup_names, ?_⟩
  have hordinals := List.pairwise_map.mp h.ordinals
  exact hordinals.imp_of_mem fun {a b} ha hb hne =>
    (h.bound a ha).tagged.disjoint (h.bound b hb).tagged hne

/-- The variables of a well-formed document are identifiers. -/
theorem WellFormed.isIdentifier_of_mem_variableNames {document : Document} (h : document.WellFormed)
    {name : String} (hname : name ∈ document.variableNames) : Text.isIdentifier name = true := by
  obtain ⟨node, hnode, hbinding⟩ := List.mem_flatMap.mp hname
  obtain ⟨binding, hb, rfl⟩ := List.mem_map.mp hbinding
  exact (h.isNameOf hnode hb).isIdentifier

end Document

end Dataflow
