import Dataflow.Proofs.Propagation

/-!
# The one outcome of a pass

A pass reads the ids, schemas and values of the nodes and the ways of the edges. The equations that
it solves have one solution if there is no cycle, because every node is decided by its sources and
what the nodes held before is never looked at. So all sorted orders lead to the same document, and a
pass over a document that holds the solution already finds nothing to write.
-/

namespace Dataflow

/-- The part of a node that a pass reads. -/
def Node.plan (node : Node) : Node :=
  { node with ordinal := 0, bindings := [], metadata := .initial }

/-- The part of an edge that a pass reads. -/
def Edge.route (edge : Edge) : Edge := { edge with id := "" }

namespace Document

variable {document other : Document} {computed : Dictionary Metadata}

/-- The part of a document that a pass reads. -/
def plan (document : Document) : Document where
  id := ""
  name := ""
  nodes := document.nodes.map Node.plan
  edges := document.edges.map Edge.route
  nextOrdinal := 0

/-- Every node holds what a dictionary has for it. -/
def Holds (document : Document) (computed : Dictionary Metadata) : Prop :=
  ∀ node ∈ document.nodes, computed.get? node.id = some node.metadata

@[simp] theorem nodeIds_plan (document : Document) : document.plan.nodeIds = document.nodeIds := by
  simp [plan, nodeIds, Node.plan, Function.comp_def]

@[simp] theorem graph_plan (document : Document) : document.plan.graph = document.graph := by
  rw [graph, graph, nodeIds_plan]
  simp [plan, Edge.route, Edge.link, Function.comp_def]

/-- A fingerprint looks at nothing but the plan. -/
theorem fingerprint_plan (document : Document) :
    document.plan.fingerprint = document.fingerprint := by
  simp only [plan, fingerprint, List.flatMap_map]
  rfl

/-- The plan of a document does not depend on metadata. -/
theorem plan_bare (document : Document) : document.bare.plan = document.plan := by
  simp [plan, bare, Node.plan, Node.bare, Function.comp_def]

theorem plan_withMetadata (document : Document) (computed : Dictionary Metadata) :
    (document.withMetadata computed).plan = document.plan := by
  rw [← plan_bare, bare_withMetadata, plan_bare]

/-- Documents that differ in metadata only have the same plan. -/
theorem plan_eq_of_bare_eq (h : document.bare = other.bare) : document.plan = other.plan := by
  rw [← plan_bare document, h, plan_bare]

/-- Documents that differ in metadata only agree in all that does not depend on them. -/
theorem map_nodes_eq_of_bare_eq (h : document.bare = other.bare) {α : Type} (part : Node → α)
    (hpart : ∀ node, part node.bare = part node) :
    document.nodes.map part = other.nodes.map part := by
  have hnodes := congrArg (fun d : Document => d.nodes.map part) h
  simpa [bare, Function.comp_def, hpart] using hnodes

theorem nodeIds_eq_of_plan_eq (h : document.plan = other.plan) :
    document.nodeIds = other.nodeIds := by
  rw [← nodeIds_plan document, h, nodeIds_plan]

theorem graph_eq_of_plan_eq (h : document.plan = other.plan) : document.graph = other.graph := by
  rw [← graph_plan document, h, graph_plan]

/-- Dictionaries with the same entries write the same metadata. -/
theorem withMetadata_congr (document : Document) {solution : Dictionary Metadata}
    (h : ∀ id, computed.get? id = solution.get? id) :
    document.withMetadata computed = document.withMetadata solution := by
  simp only [withMetadata, h]

end Document

namespace Propagation

variable {registry : Registry} {library : Answers} {document other : Document}
  {computed solution : Dictionary Metadata}

/-! ## The equations have one solution -/

/-- What is fetched for the sources depends on the plan alone. -/
theorem fetchAll_plan (document : Document) :
    fetchAll registry library document.plan = fetchAll registry library document := by
  simp only [fetchAll, sources, Document.plan, List.filter_map, List.map_map]
  rfl

/-- Where every node has been found, nothing that a node held before is looked at. -/
theorem Solves.inputColumns_plan (h : Solves registry library document computed) (id : String) :
    inputColumns document.plan computed id = inputColumns document computed id := by
  have hknown (source : String) :
      knownMetadata? document.plan computed source = knownMetadata? document computed source := by
    unfold knownMetadata?
    cases hheld : computed.get? source with
    | some metadata => rfl
    | none =>
      have habsent : source ∉ document.nodeIds := by
        intro hmem
        obtain ⟨node, hnode, rfl⟩ := List.mem_map.mp hmem
        simp [h.inside node hnode] at hheld
      have hmissing (d : Document) (hids : source ∉ d.nodeIds) : d.node? source = none := by
        rw [← Document.contains_iff, Document.contains] at hids
        simpa using hids
      rw [hmissing _ habsent, hmissing _ (by rwa [Document.nodeIds_plan])]
  simp only [inputColumns, Document.incoming, Document.plan, List.filter_map, List.filterMap_map]
  congr 1
  exact List.filterMap_congr fun edge _ => by
    simp only [Function.comp_apply]
    exact congrArg _ (hknown edge.source)

/-- The equations of a document are those of the part that a pass reads. -/
theorem Solves.plan (h : Solves registry library document computed) :
    Solves registry library document.plan computed := by
  refine ⟨fun id hid => h.outside id (by rwa [Document.nodeIds_plan] at hid), fun node hnode => ?_⟩
  obtain ⟨old, hold, rfl⟩ := List.mem_map.mp hnode
  have hfound : found registry library document.plan computed old.plan =
      found registry library document computed old := by
    unfold found
    rw [fetchAll_plan]
    have hinputs := h.inputColumns_plan old.id
    simp only [Node.plan] at hinputs ⊢
    rw [hinputs]
    rfl
  rw [hfound]
  exact h.inside old hold

/-- On a graph without cycles the equations leave no choice. -/
theorem Solves.get?_eq (h : Solves registry library document computed)
    (hother : Solves registry library document solution) (hacyclic : document.graph.Acyclic)
    (id : String) : computed.get? id = solution.get? id := by
  by_cases hid : id ∈ document.nodeIds
  · refine Graph.induction_from_sources (P := fun id => computed.get? id = solution.get? id) ?_ hid
      (hacyclic.not_behindCycle id)
    intro id hid ih
    obtain ⟨node, hnode, rfl⟩ := List.mem_map.mp hid
    -- a source is decided already, or it is no node and nothing is known of it
    have hsources : inputColumns document computed node.id =
        inputColumns document solution node.id := by
      refine inputColumns_congr fun edge hedge htarget => ?_
      by_cases hsource : edge.source ∈ document.nodeIds
      · exact ih edge.source ⟨List.mem_map.mpr ⟨edge, hedge, by simp [Edge.link, htarget]⟩,
          hsource, hid⟩
      · rw [h.outside _ hsource, hother.outside _ hsource]
    rw [h.inside node hnode, hother.inside node hnode, found, found, hsources]
  · rw [h.outside id hid, hother.outside id hid]

/-- Documents that a pass cannot tell apart have the same solution. -/
theorem Solves.get?_eq_of_plan_eq (h : Solves registry library document computed)
    (hother : Solves registry library other solution) (hplan : document.plan = other.plan)
    (hacyclic : document.graph.Acyclic) (id : String) : computed.get? id = solution.get? id :=
  h.plan.get?_eq (hplan ▸ hother.plan) (by rwa [Document.graph_plan]) id

/-- What is written is held. -/
theorem Solves.holds_withMetadata (h : Solves registry library document computed) :
    (document.withMetadata computed).Holds computed := by
  intro node hnode
  obtain ⟨old, hold, rfl⟩ := List.mem_map.mp hnode
  simp [h.inside old hold]

/-- What is written does not depend on what was held before. -/
theorem Solves.withMetadata_bare (h : Solves registry library document computed) :
    document.bare.withMetadata computed = document.withMetadata computed := by
  have hnodes : document.bare.nodes.map (fun node =>
      { node with metadata := (computed.get? node.id).getD node.metadata }) =
      document.nodes.map fun node =>
        { node with metadata := (computed.get? node.id).getD node.metadata } := by
    rw [Document.bare, List.map_map]
    refine List.map_congr_left fun node hnode => ?_
    simp [Node.bare, h.inside node hnode]
  rw [Document.withMetadata, hnodes]
  rfl

/-- A document holds its solution or does not, whichever way the solution was found. -/
theorem Solves.holds_iff (h : Solves registry library document computed)
    (hother : Solves registry library document solution) (hacyclic : document.graph.Acyclic) :
    document.Holds computed ↔ document.Holds solution := by
  simp only [Document.Holds, h.get?_eq hother hacyclic]

/-- If the nodes hold what a pass found, each result of the pass is held by its node. -/
theorem held_of_holds (pass : Pass) (hids : pass.snapshot.nodeIds.Nodup)
    (hsorted : pass.snapshot.graph.Sorted pass.order)
    (hholds : pass.snapshot.Holds (Dictionary.ofList (pass.results registry library))) :
    ∀ result ∈ pass.results registry library, ∃ node,
      pass.snapshot.node? result.1 = some node ∧ node.metadata = result.2 := by
  obtain ⟨walk, hresults, hwalk⟩ : ∃ walk, pass.results registry library = walk.results ∧
      Walk.Invariant registry library pass.snapshot pass.order walk := exists_walk pass hids hsorted
  rw [hresults] at hholds ⊢
  intro result hresult
  have hkeys : (walk.results.map Prod.fst).Nodup := by
    rw [hwalk.ids]
    exact hsorted.perm.nodup_iff.mpr hids
  have hid : result.1 ∈ pass.snapshot.nodeIds := by
    refine hsorted.perm.mem_iff.mp ?_
    rw [← hwalk.ids]
    exact List.mem_map_of_mem hresult
  obtain ⟨node, hnode, hsame⟩ := List.mem_map.mp hid
  refine ⟨node, hsame ▸ Document.node?_eq_some_of_mem hids hnode, ?_⟩
  have hfound : (Dictionary.ofList walk.results).get? node.id = some result.2 := by
    rw [hsame]
    refine Dictionary.get?_ofList_eq_some hresult fun entry hentry hkey => ?_
    rw [List.inj_on_of_nodup_map hkeys hentry hresult hkey]
  exact Option.some.inj ((hholds node hnode).symm.trans hfound)

end Propagation

/-! ## Writing what is held already -/

namespace Document

variable {document : Document} {results : List (String × Metadata)}

/-- Results that the nodes hold already are passed over. -/
theorem writeResults_eq_self
    (h : ∀ result ∈ results, ∃ node, document.node? result.1 = some node ∧
      node.metadata = result.2) :
    ∃ errors, document.writeResults results = ⟨document, ⟨[], errors, []⟩, []⟩ := by
  induction results using List.reverseRecOn with
  | nil => exact ⟨[], rfl⟩
  | append_singleton results last ih =>
    obtain ⟨errors, hbefore⟩ := ih fun result hresult => h result (List.mem_append_left _ hresult)
    obtain ⟨node, hnode, hsame⟩ := h last (by simp)
    refine ⟨if last.2.isError then errors ++ [last.1] else errors, ?_⟩
    rw [writeResults, List.foldl_append]
    change (document.writeResults results).write last = _
    rw [hbefore, Writing.write]
    simp only [hnode, hsame, ite_true]

/-- What is not reported as updated was not changed. -/
theorem document_write_of_updated_eq_nil {writing : Writing} {result : String × Metadata}
    (h : (writing.write result).report.updated = []) :
    writing.report.updated = [] ∧ (writing.write result).document = writing.document := by
  unfold Writing.write at h ⊢
  dsimp only at h ⊢
  split at h
  · exact ⟨h, rfl⟩
  · split at h
    · next hsame => exact ⟨h, by rw [if_pos hsame]⟩
    · simp at h

/-- If no node is updated, the document is as it was. -/
theorem document_writeResults_of_updated_eq_nil
    (h : (document.writeResults results).report.updated = []) :
    (document.writeResults results).document = document := by
  induction results using List.reverseRecOn with
  | nil => rfl
  | append_singleton results last ih =>
    rw [writeResults, List.foldl_append] at h ⊢
    obtain ⟨hbefore, hsame⟩ := document_write_of_updated_eq_nil h
    exact hsame.trans (ih hbefore)

end Document

/-! ## Passes -/

namespace Session

variable {session : Session}

/-- Without a cycle both policies find an order. -/
theorem exists_walkOrder {document : Document} (hids : document.nodeIds.Nodup)
    (hacyclic : document.graph.Acyclic) (policy : CyclePolicy) :
    ∃ order, Propagator.walkOrder policy document = .ok order := by
  cases policy with
  | failFast =>
    obtain ⟨order, horder, -⟩ := hacyclic.exists_queueOrder hids
    exact ⟨order, horder⟩
  | silentStop => exact ⟨_, rfl⟩

/-- After the last pass is forgotten, a pass over a document without cycles is carried through. -/
theorem exists_passAlong_of_invalidate (hidle : session.propagator.inFlight = false)
    (hids : session.document.nodeIds.Nodup) (hacyclic : session.document.graph.Acyclic) :
    ∃ order, session.document.graph.Sorted order ∧
      session.invalidate.propagate =
        ((session.passAlong order).1, .completed (session.passAlong order).2) := by
  obtain ⟨order, horder⟩ := exists_walkOrder hids hacyclic session.config.cyclePolicy
  refine ⟨order, Propagation.sorted_of_walkOrder_eq_ok hids hacyclic horder, ?_⟩
  have hbegin : session.invalidate.propagator.begin session.config.cyclePolicy session.document =
      ({ session.invalidate.propagator with inFlight := true },
        .begun ⟨session.document, session.document.fingerprint, order⟩, []) := by
    simp [Propagator.begin, invalidate, Propagator.invalidate, hidle, horder]
  exact propagate_eq_of_begun hbegin

/-- A pass along a sorted order writes the solution, and reports no update exactly if the document
holds the solution already. -/
theorem exists_solves_passAlong (hids : session.document.nodeIds.Nodup) {order : List String}
    (hsorted : session.document.graph.Sorted order) :
    ∃ computed, Propagation.Solves session.registry session.library session.document computed ∧
      (session.passAlong order).1.document = session.document.withMetadata computed ∧
      ((session.passAlong order).2.updated = [] ↔ session.document.Holds computed) := by
  let pass : Pass := ⟨session.document, session.document.fingerprint, order⟩
  have hsolves : Propagation.Solves session.registry session.library session.document
      (.ofList (pass.results session.registry session.library)) :=
    Propagation.solves_of_sorted pass hids hsorted
  refine ⟨_, hsolves, Document.writeResults_document hids _, fun hupdated => ?_, fun hholds => ?_⟩
  · have hsame := Document.document_writeResults_of_updated_eq_nil hupdated
    rw [Document.writeResults_document hids] at hsame
    have hwritten := hsolves.holds_withMetadata
    rwa [hsame] at hwritten
  · obtain ⟨errors, hwriting⟩ :=
      Document.writeResults_eq_self (Propagation.held_of_holds pass hids hsorted hholds)
    exact congrArg (fun writing => writing.report.updated) hwriting

/-- A pass over a document that holds the solution leaves a session as it was, but for the event
that it is finished. -/
theorem passAlong_eq_of_holds (hids : session.document.nodeIds.Nodup) {order : List String}
    (hsorted : session.document.graph.Sorted order) {computed : Dictionary Metadata}
    (hsolves : Propagation.Solves session.registry session.library session.document computed)
    (hholds : session.document.Holds computed)
    (hlast : session.propagator = ⟨false, some session.document.fingerprint⟩) :
    ∃ errors, session.passAlong order =
      (session.emit [.passCompleted session.document.id 0 errors.length], ⟨[], errors, []⟩) := by
  let pass : Pass := ⟨session.document, session.document.fingerprint, order⟩
  have hown := (hsolves.holds_iff (Propagation.solves_of_sorted pass hids hsorted)
    hsorted.acyclic).mp hholds
  obtain ⟨errors, hwriting⟩ :=
    Document.writeResults_eq_self (Propagation.held_of_holds pass hids hsorted hown)
  refine ⟨errors, ?_⟩
  rw [passAlong, finishPass, hwriting, Propagator.finish, ← hlast]
  rfl

/-- Passes over documents without cycles that differ in metadata only lead to the same document. -/
theorem document_propagate_eq {first second : Session} {report other : PassReport}
    (hids : first.document.nodeIds.Nodup) (hacyclic : first.document.graph.Acyclic)
    (hregistry : second.registry = first.registry) (hlibrary : second.library = first.library)
    (hbare : second.document.bare = first.document.bare)
    (hfirst : first.propagate.2 = .completed report)
    (hsecond : second.propagate.2 = .completed other) :
    second.propagate.1.document = first.propagate.1.document := by
  have hplan := Document.plan_eq_of_bare_eq hbare
  have hids' : second.document.nodeIds.Nodup := Document.nodeIds_eq_of_plan_eq hplan ▸ hids
  have hacyclic' : second.document.graph.Acyclic := Document.graph_eq_of_plan_eq hplan ▸ hacyclic
  obtain ⟨order, horder, hpass⟩ := exists_passAlong_of_completed hfirst
  obtain ⟨computed, hsolves, hdocument, -⟩ := exists_solves_passAlong hids
    (Propagation.sorted_of_walkOrder_eq_ok hids hacyclic horder)
  obtain ⟨order', horder', hpass'⟩ := exists_passAlong_of_completed hsecond
  obtain ⟨solution, hsolution, hdocument', -⟩ := exists_solves_passAlong hids'
    (Propagation.sorted_of_walkOrder_eq_ok hids' hacyclic' horder')
  rw [hregistry, hlibrary] at hsolution
  calc second.propagate.1.document
      = second.document.withMetadata solution := by rw [hpass', hdocument']
    _ = first.document.bare.withMetadata solution := by rw [← hsolution.withMetadata_bare, hbare]
    _ = first.document.bare.withMetadata computed :=
        Document.withMetadata_congr _ (hsolution.get?_eq_of_plan_eq hsolves hplan hacyclic')
    _ = first.propagate.1.document := by rw [hsolves.withMetadata_bare, hpass, hdocument]

/-- A pass that directly follows another is finished and finds nothing to change. -/
theorem propagate_again {report : PassReport} (hids : session.document.nodeIds.Nodup)
    (hacyclic : session.document.graph.Acyclic) (h : session.propagate.2 = .completed report) :
    ∃ errors, session.propagate.1.invalidate.propagate =
      (session.propagate.1.emit [.passCompleted session.document.id 0 errors.length],
        .completed ⟨[], errors, []⟩) := by
  obtain ⟨order, horder, hpass⟩ := exists_passAlong_of_completed h
  obtain ⟨computed, hsolves, hdocument, -⟩ := exists_solves_passAlong hids
    (Propagation.sorted_of_walkOrder_eq_ok hids hacyclic horder)
  rw [hpass]
  generalize hdone : (session.passAlong order).1 = done at hdocument
  have hkept : done.registry = session.registry ∧ done.library = session.library ∧
      done.propagator = ⟨false, some session.document.fingerprint⟩ := hdone ▸ ⟨rfl, rfl, rfl⟩
  obtain ⟨hregistry, hlibrary, hpropagator⟩ := hkept
  have hplan : done.document.plan = session.document.plan := by
    rw [hdocument, Document.plan_withMetadata]
  have hids' : done.document.nodeIds.Nodup := Document.nodeIds_eq_of_plan_eq hplan ▸ hids
  have hacyclic' : done.document.graph.Acyclic := Document.graph_eq_of_plan_eq hplan ▸ hacyclic
  have hname : done.document.id = session.document.id := by rw [hdocument]; rfl
  have hlast : done.propagator = ⟨false, some done.document.fingerprint⟩ := by
    rw [hpropagator, ← Document.fingerprint_plan done.document, hplan, Document.fingerprint_plan]
  obtain ⟨order', hsorted', hagain⟩ :=
    exists_passAlong_of_invalidate (by rw [hpropagator]) hids' hacyclic'
  obtain ⟨solution, hsolution, -⟩ := exists_solves_passAlong hids' hsorted'
  have hsame := hsolution.get?_eq_of_plan_eq (hregistry ▸ hlibrary ▸ hsolves) hplan hacyclic'
  have hholds : done.document.Holds solution := by
    intro node hnode
    rw [hsame]
    rw [hdocument] at hnode
    exact hsolves.holds_withMetadata node hnode
  obtain ⟨errors, hfound⟩ := passAlong_eq_of_holds hids' hsorted' hsolution hholds hlast
  exact ⟨errors, by rw [hagain, hfound, hname]⟩

/-- Two passes over documents without cycles that differ in metadata only lead to the same document,
whichever policies they follow, and a further pass finds nothing to change. -/
theorem propagate_confluent (first second : Session) (report other : PassReport)
    (hids : first.document.nodeIds.Nodup) (hacyclic : first.document.graph.Acyclic)
    (hregistry : second.registry = first.registry) (hlibrary : second.library = first.library)
    (hbare : second.document.bare = first.document.bare)
    (hfirst : first.propagate.2 = .completed report)
    (hsecond : second.propagate.2 = .completed other) :
    second.propagate.1.document = first.propagate.1.document ∧
      ∃ errors, first.propagate.1.invalidate.propagate =
        (first.propagate.1.emit [.passCompleted first.document.id 0 errors.length],
          .completed ⟨[], errors, []⟩) :=
  ⟨document_propagate_eq hids hacyclic hregistry hlibrary hbare hfirst hsecond,
    propagate_again hids hacyclic hfirst⟩

/-- The sample session with a policy, with a further node that has no edges, and with all nodes
holding the same metadata. -/
def sampleWideSession (policy : CyclePolicy) (metadata : Metadata) : Session :=
  { sampleSession with
    config := { Config.default with cyclePolicy := policy }
    document :=
      { sampleSession.document with
        nodes := (sampleSession.document.nodes ++ [sampleNode "apart" "show" .sink]).map
          fun node => { node with metadata } } }

/-- Metadata that no pass over the sample session finds. -/
def sampleStale : Metadata :=
  ⟨.empty, Dictionary.empty.insert "out" [⟨"old", "str"⟩], .error "old"⟩

/-- Two policies walk the sample in different orders and leave the same document. -/
theorem propagate_confluent_sampleWideSession :
    (sampleWideSession .failFast .initial).document.nodeIds.Nodup ∧
      (sampleWideSession .failFast .initial).document.graph.Acyclic ∧
      (sampleWideSession .silentStop sampleStale).document.bare =
        (sampleWideSession .failFast .initial).document.bare ∧
      (sampleWideSession .failFast .initial).propagate.2 =
        .completed ⟨["lost", "start", "apart", "pass", "end"], ["lost"], []⟩ ∧
      (sampleWideSession .silentStop sampleStale).propagate.2 =
        .completed ⟨["lost", "start", "pass", "end", "apart"], ["lost"], []⟩ ∧
      (sampleWideSession .silentStop sampleStale).propagate.1.document =
        (sampleWideSession .failFast .initial).propagate.1.document ∧
      ∃ errors, (sampleWideSession .failFast .initial).propagate.1.invalidate.propagate =
        ((sampleWideSession .failFast .initial).propagate.1.emit
          [.passCompleted "p" 0 errors.length], .completed ⟨[], errors, []⟩) := by
  have hids : (sampleWideSession .failFast .initial).document.nodeIds.Nodup := by decide
  have horder : (sampleWideSession .failFast .initial).document.graph.queueOrder =
      .ok ["lost", "start", "apart", "pass", "end"] := by rfl
  have hacyclic : (sampleWideSession .failFast .initial).document.graph.Acyclic :=
    (Graph.sorted_of_queueOrder_eq_ok hids horder).acyclic
  have hbare : (sampleWideSession .silentStop sampleStale).document.bare =
      (sampleWideSession .failFast .initial).document.bare := by rfl
  have hfirst : (sampleWideSession .failFast .initial).propagate.2 =
      .completed ⟨["lost", "start", "apart", "pass", "end"], ["lost"], []⟩ := by rfl
  have hsecond : (sampleWideSession .silentStop sampleStale).propagate.2 =
      .completed ⟨["lost", "start", "pass", "end", "apart"], ["lost"], []⟩ := by rfl
  exact ⟨hids, hacyclic, hbare, hfirst, hsecond,
    propagate_confluent _ _ _ _ hids hacyclic rfl rfl hbare hfirst hsecond⟩

end Session

end Dataflow
