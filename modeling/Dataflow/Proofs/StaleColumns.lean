import Dataflow.Proofs.Walk

/-!
# Columns on cycles

A pass that goes on in spite of cycles walks in depth-first order. It reaches every node once, and
the outputs of each node are what belongs there for the inputs that it found. An input may hold what
its source had before the pass, but only if the node leads back to that source, so that both lie on
a cycle together. Along every other edge, whether it leads into a cycle, out of one or past one,
columns arrive as they are in the end.
-/

namespace Dataflow

/-- Each of two nodes leads to the other. -/
def Graph.Linked (graph : Graph) (first second : String) : Prop :=
  Relation.ReflTransGen graph.Leads first second ∧ Relation.ReflTransGen graph.Leads second first

namespace Document

variable {document : Document} {computed other : Dictionary Metadata}

/-- What supplies an input does not depend on metadata. -/
theorem supply?_withMetadata (document : Document) (computed : Dictionary Metadata)
    (id port : String) :
    (document.withMetadata computed).supply? id port = document.supply? id port := by
  have hcontains (source : String) :
      (document.withMetadata computed).contains source = document.contains source := by
    simp [contains, node?_withMetadata]
  simp only [supply?, hcontains]
  rfl

/-- The columns on an output are decided by what is held for its node. -/
theorem columnsOn_withMetadata_congr {id : String} (h : computed.get? id = other.get? id)
    (port : String) :
    (document.withMetadata computed).columnsOn id port =
      (document.withMetadata other).columnsOn id port := by
  simp only [columnsOn, node?_withMetadata]
  cases hnode : document.node? id with
  | none => rfl
  | some node =>
    obtain rfl := id_eq_of_node?_eq_some hnode
    simp only [Option.map_some, h]

/-- What supplies an input is an edge from one node to another. -/
theorem leads_of_supply? {id port : String} {edge : Edge} (hid : id ∈ document.nodeIds)
    (h : document.supply? id port = some edge) : document.graph.Leads edge.source id := by
  obtain ⟨hedge, htest⟩ := List.mem_filter.mp (List.mem_of_getLast? h)
  simp only [Bool.and_eq_true, beq_iff_eq] at htest
  obtain ⟨⟨rfl, -⟩, hsource⟩ := htest
  exact ⟨List.mem_map_of_mem hedge, (contains_iff _ _).mp hsource, hid⟩

end Document

namespace Propagation

variable {registry : Registry} {library : Answers}

/-- A pass has given the node metadata: for the columns on its inputs, the outputs have what belongs
there, or the status says why they are empty. -/
def Reached (registry : Registry) (library : Answers) (node : Node) : Prop :=
  ∃ result, Yields registry library node node.metadata.inputColumns result ∧
    node.metadata = metadataOf node.metadata.inputColumns result

/-- A node that a pass has reached is not pending. -/
theorem Reached.status_ne_pending {node : Node} (h : Reached registry library node) :
    node.metadata.status ≠ .pending := by
  obtain ⟨result, -, hmetadata⟩ := h
  rw [hmetadata]
  cases result <;> simp [metadataOf]

theorem inputColumns_metadataOf (inputs : PortColumns) (result : Except PassError PortColumns) :
    (metadataOf inputs result).inputColumns = inputs := by
  cases result <;> rfl

/-- A pass that visits every node once reaches all of them. On its inputs a node has what the walk
knew of their sources when it came there. -/
theorem exists_visit (pass : Pass) (hids : pass.snapshot.nodeIds.Nodup) (hnodup : pass.order.Nodup)
    (hall : ∀ id, id ∈ pass.order ↔ id ∈ pass.snapshot.nodeIds) {node : Node}
    (hnode : node ∈ (pass.snapshot.withMetadata
      (pass.walked registry library pass.order).computed).nodes) :
    ∃ before after, pass.order = before ++ node.id :: after ∧
      Reached registry library node ∧
      ∀ port, node.metadata.inputColumns.get? port =
        (pass.snapshot.supply? node.id port).map fun edge =>
          (pass.snapshot.withMetadata (pass.walked registry library before).computed).columnsOn
            edge.source edge.sourcePort := by
  obtain ⟨old, hold, rfl⟩ := List.mem_map.mp hnode
  obtain ⟨before, after, hsplit⟩ :=
    List.append_of_mem ((hall old.id).mpr (List.mem_map_of_mem hold))
  rw [hsplit] at hnodup
  have hfresh : old.id ∉ before ∧ old.id ∉ after := by
    have hmiddle := (List.nodup_cons.mp (List.nodup_middle.mp hnodup)).1
    simpa using hmiddle
  have hfound : (pass.walked registry library pass.order).computed.get? old.id =
      some (found registry library pass.snapshot
        (pass.walked registry library before).computed old) := by
    rw [hsplit]
    exact Pass.get?_computed_walked hids hold hfresh.1 hfresh.2
  have houtside : ∀ id, id ∉ pass.snapshot.nodeIds →
      (pass.walked registry library before).computed.get? id = none := by
    intro id hid
    apply Pass.get?_computed_walked_of_notMem
    intro hmem
    exact hid ((hall id).mp (hsplit ▸ List.mem_append_left _ hmem))
  simp only [hfound, Option.getD_some]
  refine ⟨before, after, hsplit, ?_, fun port => ?_⟩
  · have hfetched : old.schema.category = .source →
        (fetchAll registry library pass.snapshot).get? old.id =
          some (fetchColumns registry library old) := get?_fetchAll hids hold
    simp only [Reached, found, inputColumns_metadataOf]
    -- what is fetched does not depend on the metadata
    exact ⟨_, yields_outputColumns registry library _ _ hfetched, rfl⟩
  · simp only [found, inputColumns_metadataOf]
    rw [get?_inputColumns houtside, Document.supply?_withMetadata]

/-- What a walk in depth-first order knew of the source of an edge is what it finds in the end,
unless the target leads back to the source. -/
theorem columnsOn_visit (registry : Registry) (library : Answers) {pass : Pass}
    {before after : List String} {id : String}
    (hvisited : Graph.Visited pass.snapshot.graph [] pass.order)
    (hsplit : pass.order = before ++ id :: after) {source : String}
    (honeWay : pass.snapshot.graph.OneWay source id) (port : String) :
    (pass.snapshot.withMetadata (pass.walked registry library before).computed).columnsOn
        source port =
      (pass.snapshot.withMetadata (pass.walked registry library pass.order).computed).columnsOn
        source port := by
  have hbefore : source ∈ before := hvisited.follows before id after hsplit source honeWay
  have hlater : source ∉ id :: after := by
    have hnodup := hvisited.nodup
    rw [hsplit] at hnodup
    exact List.disjoint_of_nodup_append hnodup hbefore
  apply Document.columnsOn_withMetadata_congr
  rw [hsplit, Pass.get?_computed_walked_append hlater]

end Propagation

namespace Session

/-- After a pass that goes on in spite of cycles nothing but metadata has changed and every node has
been reached. An input has columns exactly if an edge from an existing node enters it. If the node
does not lead back to the source of the last such edge, they are those that the output has in the
end; and if they are not, the edge joins two nodes that lead to each other. -/
theorem propagate_silentStop (session : Session) (report : PassReport)
    (hids : session.document.nodeIds.Nodup) (hpolicy : session.config.cyclePolicy = .silentStop)
    (hdone : session.propagate.2 = .completed report) :
    session.propagate.1.document.bare = session.document.bare ∧
      ∀ node ∈ session.propagate.1.document.nodes,
        node.metadata.status ≠ .pending ∧
        Propagation.Reached session.registry session.library node ∧
        ∀ port, match session.document.supply? node.id port with
          | none => node.metadata.inputColumns.get? port = none
          | some edge => ∃ columns, node.metadata.inputColumns.get? port = some columns ∧
            (¬Relation.ReflTransGen session.document.graph.Leads node.id edge.source →
              columns = session.propagate.1.document.columnsOn edge.source edge.sourcePort) ∧
            (columns ≠ session.propagate.1.document.columnsOn edge.source edge.sourcePort →
              session.document.graph.Linked edge.source node.id) := by
  obtain ⟨order, horder, hpass⟩ := exists_passAlong_of_completed hdone
  have hdocument := session.document_passAlong order
  rw [hpolicy] at horder
  obtain rfl : session.document.graph.depthFirstOrder = order := Except.ok.inj horder
  obtain ⟨hvisited, hall⟩ := Graph.depthFirstOrder_visited session.document.graph
  rw [Document.writeResults_document hids, Pass.results_eq_walked, ← Pass.computed_walked]
    at hdocument
  rw [hpass, hdocument]
  refine ⟨Document.bare_withMetadata _ _, fun node hnode => ?_⟩
  obtain ⟨before, after, hsplit, hreached, hinputs⟩ :=
    Propagation.exists_visit ⟨session.document, _, _⟩ hids hvisited.nodup hall hnode
  have hid : node.id ∈ session.document.nodeIds := by
    rw [← Document.nodeIds_withMetadata]
    exact List.mem_map_of_mem hnode
  refine ⟨hreached.status_ne_pending, hreached, fun port => ?_⟩
  cases hsupply : session.document.supply? node.id port with
  | none => rw [hinputs, hsupply, Option.map_none]
  | some edge =>
    have hleads := Document.leads_of_supply? hid hsupply
    have hfresh (hback : ¬Relation.ReflTransGen session.document.graph.Leads node.id edge.source) :=
      Propagation.columnsOn_visit session.registry session.library hvisited hsplit
        ⟨hleads, hback⟩ edge.sourcePort
    refine ⟨_, by rw [hinputs, hsupply, Option.map_some], hfresh, fun hstale => ?_⟩
    refine ⟨.single hleads, ?_⟩
    by_contra hback
    exact hstale (hfresh hback)

/-- A source and a node that holds columns from an earlier pass both lead into one input of a node,
which leads back to the second of them. That one leads on to a sink. -/
def sampleRing : Session :=
  { sampleSession with
    document :=
      { Document.empty "p" "Pipeline" with
        nodes := [sampleNode "end" "show" .sink,
          { sampleNode "back" "missing" .transform with
            metadata := ⟨.empty, .ofList [("out", [⟨"old", "int"⟩])], .ready⟩ },
          sampleNode "pass" "copy" .transform, sampleNode "start" "read" .source]
        edges := [⟨"1", "start", "out", "pass", "in"⟩, ⟨"2", "back", "out", "pass", "in"⟩,
          ⟨"3", "pass", "out", "back", "in"⟩, ⟨"4", "back", "out", "end", "in"⟩] }
    config := { Config.default with cyclePolicy := .silentStop } }

/-- On a cycle the columns of an earlier pass go on, although the source has others now. -/
theorem propagate_silentStop_sampleRing :
    sampleRing.document.nodeIds.Nodup ∧ sampleRing.config.cyclePolicy = .silentStop ∧
      sampleRing.propagate.2 =
        .completed ⟨["start", "pass", "back", "end"], ["back"], []⟩ ∧
      sampleRing.propagate.1.document.nodes.map (fun node =>
          (node.id, node.metadata.inputColumns.get? "in", node.metadata.outputColumns.on "out")) =
        [("end", some [], []), ("back", some [⟨"old", "int"⟩], []),
          ("pass", some [⟨"old", "int"⟩], [⟨"old", "int"⟩]),
          ("start", none, [⟨"x", "float"⟩])] ∧
      (∀ node ∈ sampleRing.propagate.1.document.nodes, node.metadata.status ≠ .pending) ∧
      sampleRing.document.graph.Linked "back" "pass" := by
  have hids : sampleRing.document.nodeIds.Nodup := by decide
  have hdone : sampleRing.propagate.2 =
      .completed ⟨["start", "pass", "back", "end"], ["back"], []⟩ := by rfl
  have hlisted : sampleRing.propagate.1.document.nodes.map (fun node =>
        (node.id, node.metadata.inputColumns.get? "in", node.metadata.outputColumns.on "out")) =
      [("end", some [], []), ("back", some [⟨"old", "int"⟩], []),
        ("pass", some [⟨"old", "int"⟩], [⟨"old", "int"⟩]), ("start", none, [⟨"x", "float"⟩])] := by
    rfl
  have hreached := (propagate_silentStop sampleRing _ hids rfl hdone).2
  refine ⟨hids, rfl, hdone, hlisted, fun node hnode => (hreached node hnode).1, ?_⟩
  -- the input of this node still has the columns from before the pass
  obtain ⟨node, hnode, hpass⟩ : ∃ node ∈ sampleRing.propagate.1.document.nodes,
      (node.id, node.metadata.inputColumns.get? "in", node.metadata.outputColumns.on "out") =
        ("pass", some [⟨"old", "int"⟩], [⟨"old", "int"⟩]) := by
    apply List.mem_map.mp
    rw [hlisted]
    decide
  have hinputs := (hreached node hnode).2.2 "in"
  have hsupply : sampleRing.document.supply? "pass" "in" =
      some ⟨"2", "back", "out", "pass", "in"⟩ := by rfl
  have hfinal : sampleRing.propagate.1.document.columnsOn "back" "out" = [] := by rfl
  obtain ⟨hid, hcolumns, -⟩ : node.id = "pass" ∧
      node.metadata.inputColumns.get? "in" = some [⟨"old", "int"⟩] ∧ _ := by simpa using hpass
  simp only [hid, hsupply, hcolumns, hfinal] at hinputs
  obtain ⟨columns, hcolumns, -, hlinked⟩ := hinputs
  refine hlinked ?_
  rw [← Option.some.inj hcolumns]
  simp

end Session

end Dataflow
