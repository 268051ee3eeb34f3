import Dataflow.Proofs.DepthFirst
import Dataflow.Proofs.Dictionary
import Dataflow.Proofs.Document
import Dataflow.Proofs.LinkCounts
import Dataflow.Session

/-!
# Settled columns

The columns of a document are settled if every node has on its inputs what its sources have on their
outputs, and on its outputs what its algorithm makes of its inputs. These are equations between the
nodes of one document. A pass visits every node once, and in an order that puts sources first what
it has found for a node is never found anew, so the equations that it solves one after another all
hold in the end.
-/

namespace Dataflow

namespace Node

/-- A dictionary holds what the node holds, and what its schema falls back to where it holds none.
-/
def Completes (node : Node) (values : Values) : Prop :=
  ∀ name, values.get? name =
    (node.values.get? name).or ((node.schema.parameter? name).map Parameter.fallback)

/-- The column has the name of an index column, whatever the case of its letters. -/
def IsIndex (node : Node) (fetch : Fetch) (column : Column) : Prop :=
  ∃ parameter name, fetch.indexParameter = some parameter ∧
    (node.valueOrDefault parameter = .string name ∨
      ∃ items, node.valueOrDefault parameter = .array items ∧ .string name ∈ items) ∧
    name ≠ "" ∧ Text.lower name = Text.lower column.name

/-- The node without what passes have found for it. -/
def bare (node : Node) : Node := { node with metadata := .initial }

end Node

namespace Document

/-- The last edge from an existing node into an input. -/
def supply? (document : Document) (id port : String) : Option Edge :=
  (document.edges.filter fun edge =>
    edge.target == id && edge.targetPort == port && document.contains edge.source).getLast?

/-- The columns on an output of a node. -/
def columnsOn (document : Document) (id port : String) : List Column :=
  match document.node? id with
  | some node => node.metadata.outputColumns.on port
  | none => []

/-- The document without what passes have found for its nodes. -/
def bare (document : Document) : Document :=
  { document with nodes := document.nodes.map Node.bare }

end Document

namespace Propagation

/-- What asking a library for the columns of a source gives. -/
inductive Fetches (registry : Registry) (library : Answers) (node : Node) :
    Except PassError (List Column) → Prop where
  /-- Nothing says how the columns are fetched. -/
  | unknown : fetchOf registry node = none →
    Fetches registry library node (.error (.noFetch node.schema.id))
  /-- The parameter that tells what to fetch has no text. -/
  | unset {fetch : Fetch} : fetchOf registry node = some fetch →
    (∀ key, node.valueOrDefault fetch.source.parameter = .string key → key = "") →
    Fetches registry library node (.error (.unset fetch.source.parameter))
  /-- The library refuses. -/
  | refused {fetch : Fetch} {key : String} {cause : LibraryError} :
    fetchOf registry node = some fetch →
    node.valueOrDefault fetch.source.parameter = .string key → key ≠ "" →
    library.columns fetch.source key = .error cause →
    Fetches registry library node (.error (.library cause))
  /-- The library answers, and all columns count but the index columns. -/
  | answered {fetch : Fetch} {key : String} {columns : List Column} {keep : Column → Bool} :
    fetchOf registry node = some fetch →
    node.valueOrDefault fetch.source.parameter = .string key → key ≠ "" →
    library.columns fetch.source key = .ok columns →
    (∀ column, keep column = true ↔ ¬node.IsIndex fetch column) →
    Fetches registry library node (.ok (columns.filter keep))

/-- What belongs on the outputs of a node with these columns on its inputs. -/
inductive Yields (registry : Registry) (library : Answers) (node : Node) (inputs : PortColumns) :
    Except PassError PortColumns → Prop where
  /-- The columns of a source cannot be fetched. -/
  | unfetched {cause : PassError} : node.schema.category = .source →
    Fetches registry library node (.error cause) →
    Yields registry library node inputs (.error cause)
  /-- A source has what is fetched on each of its outputs. -/
  | fetched {columns : List Column} {outputs : PortColumns} : node.schema.category = .source →
    Fetches registry library node (.ok columns) →
    (∀ port, outputs.get? port =
      if port ∈ node.schema.outputNames then some columns else none) →
    Yields registry library node inputs (.ok outputs)
  /-- A transform has what its column transform makes of its inputs and its values. -/
  | transformed {run : Transform} {values : Values} : node.schema.category = .transform →
    registry.kind? node.schema.id = some (.transform run) → node.Completes values →
    Yields registry library node inputs ((run inputs values node.schema).mapError .transform)
  /-- No column transform is registered. -/
  | unregistered : node.schema.category = .transform →
    (∀ run, registry.kind? node.schema.id ≠ some (.transform run)) →
    Yields registry library node inputs (.error (.noTransform node.schema.id))
  /-- A sink and a node without an algorithm have no columns. -/
  | none : node.schema.category = .sink ∨ node.schema.category = .free →
    Yields registry library node inputs (.ok .empty)

/-- The metadata of a node fit to those of the other nodes. -/
structure Settled (registry : Registry) (library : Answers) (document : Document) (node : Node) :
    Prop where
  /-- An input has what the last edge into it brings. -/
  inputs : ∀ port, node.metadata.inputColumns.get? port =
    (document.supply? node.id port).map fun edge =>
      document.columnsOn edge.source edge.sourcePort
  /-- The outputs have what belongs there, or the status says why they are empty. -/
  outputs : ∃ result, Yields registry library node node.metadata.inputColumns result ∧
    match result with
    | .ok columns =>
      node.metadata.outputColumns = columns ∧ node.metadata.status = .ready
    | .error cause =>
      node.metadata.outputColumns = .empty ∧ node.metadata.status = .error cause.message

/-! ## What belongs on the outputs of one node -/

/-- A value that is held counts before all fallbacks, and of these the first for its name. -/
theorem get?_foldl_fallback (parameters : List Parameter) (values : Values) (name : String) :
    (parameters.foldl (fun values parameter =>
      if values.contains parameter.name then values
      else values.insert parameter.name parameter.fallback) values).get? name =
      (values.get? name).or
        ((parameters.find? fun parameter => parameter.name == name).map Parameter.fallback) := by
  induction parameters generalizing values with
  | nil => simp
  | cons parameter rest ih =>
    rw [List.foldl_cons, ih, List.find?_cons]
    by_cases hname : parameter.name = name
    · subst hname
      cases hheld : values.get? parameter.name <;> simp [Dictionary.contains, hheld]
    · have hmiss : (parameter.name == name) = false := by simpa using hname
      rw [hmiss]
      split
      · rfl
      · rw [Dictionary.get?_insert_of_ne _ _ (Ne.symm hname)]

/-- The effective values of a node complete it. -/
theorem completes_effectiveValues (node : Node) : node.Completes node.effectiveValues :=
  get?_foldl_fallback node.schema.parameters node.values

/-- The names of the index are the texts of its value in lower case, but not the empty one. -/
theorem mem_indexNames {value : Json} {lowered : String} :
    lowered ∈ indexNames value ↔
      ∃ name, (value = .string name ∨ ∃ items, value = .array items ∧ .string name ∈ items) ∧
        name ≠ "" ∧ Text.lower name = lowered := by
  have hstring (item : Json) (name : String) : item.string? = some name ↔ item = .string name := by
    cases item <;> simp [Json.string?]
  cases value <;> simp [indexNames, hstring, and_assoc]

/-- Dropping the index keeps the columns that do not have its names. -/
theorem exists_dropIndex_eq (node : Node) (fetch : Fetch) (columns : List Column) :
    ∃ keep : Column → Bool, (∀ column, keep column = true ↔ ¬node.IsIndex fetch column) ∧
      dropIndex node fetch columns = columns.filter keep := by
  unfold dropIndex
  cases hindex : fetch.indexParameter with
  | none =>
    refine ⟨fun _ => true, fun column => ?_, by simp⟩
    simp [Node.IsIndex, hindex]
  | some parameter =>
    refine ⟨_, fun column => ?_, rfl⟩
    simp [Node.IsIndex, hindex, mem_indexNames]

/-- The key to fetch is a text that is not empty, or else it is unset. -/
theorem fetchKey_cases (node : Node) (fetch : Fetch) :
    (∃ key, fetchKey node fetch = .ok key ∧
      node.valueOrDefault fetch.source.parameter = .string key ∧ key ≠ "") ∨
    fetchKey node fetch = .error (.unset fetch.source.parameter) ∧
      ∀ key, node.valueOrDefault fetch.source.parameter = .string key → key = "" := by
  unfold fetchKey
  split
  · next key hvalue =>
    by_cases hempty : key = ""
    · refine .inr ⟨by simp [hempty], fun other hother => ?_⟩
      exact (Json.string.inj (hvalue.symm.trans hother)).symm.trans hempty
    · exact .inl ⟨key, by simp [hempty], hvalue, hempty⟩
  · next hvalue => exact .inr ⟨rfl, fun key hkey => absurd hkey (hvalue key)⟩

/-- Fetching the columns of a source gives what its description asks the library for. -/
theorem fetches_fetchColumns (registry : Registry) (library : Answers) (node : Node) :
    Fetches registry library node (fetchColumns registry library node) := by
  unfold fetchColumns
  cases hfetch : fetchOf registry node with
  | none => exact .unknown hfetch
  | some fetch =>
    rcases fetchKey_cases node fetch with ⟨key, hkey, hvalue, hne⟩ | ⟨hkey, hvalue⟩
    · simp only [hkey]
      cases hcolumns : library.columns fetch.source key with
      | error cause => exact .refused hfetch hvalue hne hcolumns
      | ok columns =>
        obtain ⟨keep, hkeep, heq⟩ := exists_dropIndex_eq node fetch columns
        simp only [heq]
        exact .answered hfetch hvalue hne hcolumns hkeep
    · simp only [hkey]
      exact .unset hfetch hvalue

/-- All outputs get the same columns, and nothing else gets any. -/
theorem get?_publish (schema : Schema) (columns : List Column) (port : String) :
    (publish schema columns).get? port =
      if port ∈ schema.outputNames then some columns else none := by
  unfold publish
  split
  · next hport =>
    obtain ⟨output, houtput, rfl⟩ := List.mem_map.mp hport
    refine Dictionary.get?_ofList_eq_some (List.mem_map.mpr ⟨output, houtput, rfl⟩) ?_
    intro entry hentry _
    obtain ⟨_, -, rfl⟩ := List.mem_map.mp hentry
    rfl
  · next hport =>
    refine Dictionary.get?_ofList_eq_none ?_
    simpa [Schema.outputNames, Port.names, Function.comp_def] using hport

/-- The outputs that a walk finds for a node are those that belong there, if a source is handed the
columns that were fetched for it. -/
theorem yields_outputColumns (registry : Registry) (library : Answers) (node : Node)
    (inputs : PortColumns) {fetched : Option (Except PassError (List Column))}
    (hfetched : node.schema.category = .source →
      fetched = some (fetchColumns registry library node)) :
    Yields registry library node inputs (outputColumns registry node fetched inputs) := by
  unfold outputColumns
  cases hcategory : node.schema.category with
  | source =>
    have hspec := fetches_fetchColumns registry library node
    rw [hfetched hcategory]
    cases hresult : fetchColumns registry library node with
    | error cause => exact .unfetched hcategory (hresult ▸ hspec)
    | ok columns => exact .fetched hcategory (hresult ▸ hspec) (get?_publish node.schema columns)
  | transform =>
    change Yields registry library node inputs (transformColumns registry node inputs)
    unfold transformColumns
    split
    · next run hkind => exact .transformed hcategory hkind (completes_effectiveValues node)
    · next hkind => exact .unregistered hcategory hkind
  | sink => exact .none (.inl hcategory)
  | free => exact .none (.inr hcategory)

/-! ## The walk -/

section Walk

variable {registry : Registry} {library : Answers} {snapshot : Document}

/-- What a walk finds for a node, given what it has found for the others. -/
def found (registry : Registry) (library : Answers) (snapshot : Document)
    (computed : Dictionary Metadata) (node : Node) : Metadata :=
  let inputs := inputColumns snapshot computed node.id
  metadataOf inputs
    (outputColumns registry node ((fetchAll registry library snapshot).get? node.id) inputs)

/-- A node looks only at what was found for the sources of its edges. -/
theorem inputColumns_congr {computed other : Dictionary Metadata} {id : String}
    (h : ∀ edge ∈ snapshot.edges, edge.target = id →
      computed.get? edge.source = other.get? edge.source) :
    inputColumns snapshot computed id = inputColumns snapshot other id := by
  unfold inputColumns
  congr 1
  refine List.filterMap_congr fun edge hedge => ?_
  obtain ⟨hmem, htarget⟩ := List.mem_filter.mp hedge
  rw [knownMetadata?, knownMetadata?, h edge hmem (by simpa using htarget)]

/-- What is true of a walk that has visited these nodes. -/
structure Walk.Invariant (registry : Registry) (library : Answers) (snapshot : Document)
    (visited : List String) (walk : Walk) : Prop where
  /-- The results are those of the visited nodes, in their order. -/
  ids : walk.results.map Prod.fst = visited
  /-- The results are also held by node. -/
  computed : walk.computed = Dictionary.ofList walk.results
  /-- What was fetched for the other nodes is still there. -/
  fetched : ∀ id, id ∉ visited →
    walk.fetched.get? id = (fetchAll registry library snapshot).get? id
  /-- What was found for a node is what would be found for it now. -/
  settled : ∀ node ∈ snapshot.nodes, node.id ∈ visited →
    walk.computed.get? node.id = some (found registry library snapshot walk.computed node)

/-- In a sorted order no edge leads back to a node from itself or from what was visited before it.
-/
theorem source_ne_of_sorted {visited rest : List String} {id : String}
    (hids : snapshot.nodeIds.Nodup) (hsorted : snapshot.graph.Sorted (visited ++ id :: rest))
    {edge : Edge} (hedge : edge ∈ snapshot.edges) (htarget : edge.target ∈ visited ++ [id]) :
    edge.source ≠ id := by
  rintro rfl
  have hfresh : edge.source ∉ visited := by
    have hnodup := List.nodup_middle.mp (hsorted.perm.nodup_iff.mpr hids)
    exact fun hmem => (List.nodup_cons.mp hnodup).1 (List.mem_append_left _ hmem)
  have hfront : visited ++ [edge.source] ⊆ snapshot.nodeIds := by
    intro other hother
    rw [List.append_cons] at hsorted
    exact hsorted.perm.mem_iff.mp (List.mem_append_left _ hother)
  have hleads : snapshot.graph.Leads edge.source edge.target :=
    ⟨List.mem_map_of_mem hedge, hfront (by simp), hfront htarget⟩
  rcases List.mem_append.mp htarget with hmem | hmem
  · exact hfresh (hsorted.follows.mem_front hmem hleads)
  · have hself : edge.target = edge.source := by simpa using hmem
    exact hfresh (hsorted.follows visited _ rest rfl _ (hself ▸ hleads))

/-- A step finds its node, as long as what was fetched for it is still there. -/
theorem Walk.step_eq {walk : Walk} {node : Node} (hlookup : snapshot.node? node.id = some node)
    (hfetched : walk.fetched.get? node.id = (fetchAll registry library snapshot).get? node.id) :
    walk.step registry snapshot node.id =
      let metadata := found registry library snapshot walk.computed node
      { fetched :=
          if node.schema.category = .source then walk.fetched.erase node.id else walk.fetched
        computed := walk.computed.insert node.id metadata
        results := walk.results ++ [(node.id, metadata)] } := by
  rw [Walk.step, hlookup, found, ← hfetched]

/-- The next node has its sources among the visited ones and is the source of none of them, so no
equation is disturbed. -/
theorem Walk.Invariant.step {visited rest : List String} {id : String} {walk : Walk}
    (h : Walk.Invariant registry library snapshot visited walk)
    (hids : snapshot.nodeIds.Nodup) (hsorted : snapshot.graph.Sorted (visited ++ id :: rest)) :
    Walk.Invariant registry library snapshot (visited ++ [id])
      (walk.step registry snapshot id) := by
  obtain ⟨node, hnode, rfl⟩ := List.mem_map.mp (hsorted.perm.mem_iff.mp (by simp) : id ∈ _)
  have hfresh : node.id ∉ visited := by
    have hnodup := List.nodup_middle.mp (hsorted.perm.nodup_iff.mpr hids)
    exact fun hmem => (List.nodup_cons.mp hnodup).1 (List.mem_append_left _ hmem)
  have hstable : ∀ other : Node, other.id ∈ visited ++ [node.id] → ∀ metadata,
      found registry library snapshot (walk.computed.insert node.id metadata) other =
        found registry library snapshot walk.computed other := by
    intro other hother metadata
    have hinputs : inputColumns snapshot (walk.computed.insert node.id metadata) other.id =
        inputColumns snapshot walk.computed other.id :=
      inputColumns_congr fun edge hedge htarget =>
        Dictionary.get?_insert_of_ne _ _
          (source_ne_of_sorted hids hsorted hedge (htarget ▸ hother))
    rw [found, found, hinputs]
  rw [Walk.step_eq (Document.node?_eq_some_of_mem hids hnode) (h.fetched node.id hfresh)]
  refine ⟨?_, ?_, ?_, ?_⟩
  · rw [List.map_append, h.ids]
    rfl
  · rw [Dictionary.ofList_concat, ← h.computed]
  · intro other hother
    obtain ⟨hmem, hne⟩ : other ∉ visited ∧ other ≠ node.id := by simpa using hother
    rw [← h.fetched other hmem]
    dsimp only
    split
    · exact Dictionary.get?_erase_of_ne _ hne
    · rfl
  · intro other hother hvisited
    rw [hstable other hvisited]
    by_cases hsame : other.id = node.id
    · obtain rfl := List.inj_on_of_nodup_map hids hother hnode hsame
      exact Dictionary.get?_insert_self _ _ _
    · rw [Dictionary.get?_insert_of_ne _ _ hsame]
      exact h.settled other hother (by simpa [hsame] using hvisited)

/-- What holds of a walk holds when it goes on in a sorted order. -/
theorem Walk.Invariant.foldl {visited rest : List String} {walk : Walk}
    (h : Walk.Invariant registry library snapshot visited walk)
    (hids : snapshot.nodeIds.Nodup) (hsorted : snapshot.graph.Sorted (visited ++ rest)) :
    Walk.Invariant registry library snapshot (visited ++ rest)
      (rest.foldl (Walk.step registry snapshot) walk) := by
  induction rest generalizing visited walk with
  | nil => simpa using h
  | cons id rest ih =>
    rw [List.append_cons] at hsorted ⊢
    exact ih (h.step hids (by simpa using hsorted)) hsorted

/-- A pass hands on the results of a walk along its whole order. -/
theorem exists_walk (pass : Pass) (hids : pass.snapshot.nodeIds.Nodup)
    (hsorted : pass.snapshot.graph.Sorted pass.order) :
    ∃ walk, pass.results registry library = walk.results ∧
      Walk.Invariant registry library pass.snapshot pass.order walk := by
  have hstart : Walk.Invariant registry library pass.snapshot []
      ⟨fetchAll registry library pass.snapshot, .empty, []⟩ :=
    ⟨rfl, rfl, fun _ _ => rfl, fun _ _ hvisited => absurd hvisited List.not_mem_nil⟩
  exact ⟨_, rfl, hstart.foldl hids hsorted⟩

/-- A dictionary has for every node of a document what a walk would find for the node, given what
the dictionary has for the others, and it has nothing else. -/
structure Solves (registry : Registry) (library : Answers) (document : Document)
    (computed : Dictionary Metadata) : Prop where
  /-- Nothing is held for what is no node. -/
  outside : ∀ id, id ∉ document.nodeIds → computed.get? id = none
  /-- What is held for a node is what would be found for it. -/
  inside : ∀ node ∈ document.nodes,
    computed.get? node.id = some (found registry library document computed node)

/-- A walk along a sorted order solves the equations of all nodes. -/
theorem solves_of_sorted (pass : Pass) (hids : pass.snapshot.nodeIds.Nodup)
    (hsorted : pass.snapshot.graph.Sorted pass.order) :
    Solves registry library pass.snapshot
      (Dictionary.ofList (pass.results registry library)) := by
  obtain ⟨walk, hresults, hwalk⟩ : ∃ walk, pass.results registry library = walk.results ∧
      Walk.Invariant registry library pass.snapshot pass.order walk := exists_walk pass hids hsorted
  rw [hresults, ← hwalk.computed]
  refine ⟨fun id hid => ?_, fun node hnode => ?_⟩
  · rw [hwalk.computed]
    refine Dictionary.get?_ofList_eq_none ?_
    rw [hwalk.ids]
    exact fun hmem => hid (hsorted.perm.mem_iff.mp hmem)
  · exact hwalk.settled node hnode (hsorted.perm.mem_iff.mpr (List.mem_map_of_mem hnode))

end Walk

end Propagation

/-! ## Writing the results -/

namespace Document

/-- The document with other metadata for the nodes that a dictionary has some for. -/
def withMetadata (document : Document) (computed : Dictionary Metadata) : Document :=
  { document with
    nodes := document.nodes.map fun node =>
      { node with metadata := (computed.get? node.id).getD node.metadata } }

theorem nodeIds_withMetadata (document : Document) (computed : Dictionary Metadata) :
    (document.withMetadata computed).nodeIds = document.nodeIds := by
  simp [withMetadata, nodeIds, Function.comp_def]

/-- Documents that differ in metadata only have the same nodes but for their metadata. -/
theorem exists_mem_of_bare_eq {document other : Document}
    (h : document.bare = other.bare) {node : Node} (hnode : node ∈ document.nodes) :
    ∃ old ∈ other.nodes, old.bare = node.bare := by
  have hmem : node.bare ∈ other.bare.nodes := h ▸ List.mem_map_of_mem hnode
  exact List.mem_map.mp hmem

/-- Writing metadata changes nothing else. -/
theorem bare_withMetadata (document : Document) (computed : Dictionary Metadata) :
    (document.withMetadata computed).bare = document.bare := by
  simp [withMetadata, bare, Node.bare, Function.comp_def]

/-- The node that is found has the metadata that were written for it. -/
theorem node?_withMetadata (document : Document) (computed : Dictionary Metadata) (id : String) :
    (document.withMetadata computed).node? id = (document.node? id).map fun node =>
      { node with metadata := (computed.get? node.id).getD node.metadata } := by
  rw [node?, withMetadata, List.find?_map]
  rfl

/-- Writing what the nodes hold already changes nothing. -/
theorem withMetadata_eq_self {document : Document} {computed : Dictionary Metadata}
    (h : ∀ node ∈ document.nodes, (computed.get? node.id).getD node.metadata = node.metadata) :
    document.withMetadata computed = document := by
  have hnodes : document.nodes.map (fun node =>
      { node with metadata := (computed.get? node.id).getD node.metadata }) = document.nodes := by
    conv_rhs => rw [← List.map_id document.nodes]
    refine List.map_congr_left fun node hnode => ?_
    rw [h node hnode]
    rfl
  rw [withMetadata, hnodes]

/-- Writing metadata for one more node is writing them with the others. -/
theorem withMetadata_insert (document : Document) (computed : Dictionary Metadata) (id : String)
    (metadata : Metadata) :
    (document.withMetadata computed).withMetadata (Dictionary.empty.insert id metadata) =
      document.withMetadata (computed.insert id metadata) := by
  simp only [withMetadata, List.map_map, Dictionary.get?_insert, Function.comp_def]
  congr 2
  funext node
  split <;> rfl

/-- A result is written unless its node is gone or holds it already, when writing changes nothing.
-/
theorem write_document (writing : Writing) (hids : writing.document.nodeIds.Nodup) (id : String)
    (metadata : Metadata) :
    (writing.write (id, metadata)).document =
      writing.document.withMetadata (Dictionary.empty.insert id metadata) := by
  unfold Writing.write
  dsimp only
  split
  · next hgone =>
    refine (withMetadata_eq_self fun node hnode => ?_).symm
    have hne : node.id ≠ id := by
      rintro rfl
      simp [node?_eq_some_of_mem hids hnode] at hgone
    rw [Dictionary.get?_insert_of_ne _ _ hne]
    rfl
  · next found hfound =>
    split
    · next hsame =>
      refine (withMetadata_eq_self fun node hnode => ?_).symm
      by_cases hid : node.id = id
      · subst hid
        obtain rfl : node = found := by simpa [node?_eq_some_of_mem hids hnode] using hfound
        rw [Dictionary.get?_insert_self, hsame]
        rfl
      · rw [Dictionary.get?_insert_of_ne _ _ hid]
        rfl
    · have hnodes : (writing.document.modifyNode id fun node => { node with metadata }).nodes =
          (writing.document.withMetadata (Dictionary.empty.insert id metadata)).nodes := by
        rw [modifyNode_nodes hids]
        refine List.map_congr_left fun node _ => ?_
        by_cases hid : node.id = id <;> simp [hid, Dictionary.get?_insert]
      exact congrArg (fun nodes => { writing.document with nodes }) hnodes

/-- With different ids, writing results one by one writes the last one for every node. -/
theorem writeResults_document {document : Document} (hids : document.nodeIds.Nodup)
    (results : List (String × Metadata)) :
    (document.writeResults results).document =
      document.withMetadata (Dictionary.ofList results) := by
  induction results using List.reverseRecOn with
  | nil => simp [writeResults, withMetadata, Dictionary.ofList]
  | append_singleton results last ih =>
    rw [writeResults, List.foldl_append, Dictionary.ofList_concat]
    have hbefore : (document.writeResults results).document.nodeIds.Nodup := by
      rw [ih, nodeIds_withMetadata]
      exact hids
    rw [← withMetadata_insert, ← ih]
    exact write_document _ hbefore last.1 last.2

end Document

namespace Propagation

variable {registry : Registry} {library : Answers} {document : Document}
  {computed : Dictionary Metadata}

/-- If only nodes were visited, what is known in the end is what the document then holds. -/
theorem knownMetadata?_eq (hnodes : ∀ id, id ∉ document.nodeIds → computed.get? id = none)
    (id : String) :
    knownMetadata? document computed id =
      ((document.withMetadata computed).node? id).map Node.metadata := by
  rw [knownMetadata?, Document.node?_withMetadata]
  cases hnode : document.node? id with
  | none =>
    have habsent : id ∉ document.nodeIds := by
      rw [← Document.contains_iff, Document.contains, hnode]
      simp
    rw [hnodes id habsent]
    rfl
  | some node =>
    obtain rfl := Document.id_eq_of_node?_eq_some hnode
    simp only [Option.map_some]
    cases computed.get? node.id <;> rfl

/-- The inputs have what the last edges bring. -/
theorem get?_inputColumns (hnodes : ∀ id, id ∉ document.nodeIds → computed.get? id = none)
    (id port : String) :
    (inputColumns document computed id).get? port =
      ((document.withMetadata computed).supply? id port).map fun edge =>
        (document.withMetadata computed).columnsOn edge.source edge.sourcePort := by
  have hentries : ((document.incoming id).filterMap fun edge =>
      (knownMetadata? document computed edge.source).map fun metadata =>
        (edge.targetPort, metadata.outputColumns.on edge.sourcePort)).filter (·.1 == port) =
      ((document.withMetadata computed).edges.filter fun edge =>
        edge.target == id && edge.targetPort == port &&
          (document.withMetadata computed).contains edge.source).map fun edge =>
        (port, (document.withMetadata computed).columnsOn edge.source edge.sourcePort) := by
    rw [Document.incoming, List.filterMap_filter, List.filter_filterMap, ← List.filterMap_eq_map,
      List.filterMap_filter]
    refine List.filterMap_congr fun edge _ => ?_
    rcases Option.eq_none_or_eq_some ((document.withMetadata computed).node? edge.source)
      with hsource | ⟨node, hsource⟩
    · simp [knownMetadata?_eq hnodes, Document.contains, hsource]
    · by_cases htarget : edge.target = id <;> by_cases hport : edge.targetPort = port <;>
        simp [knownMetadata?_eq hnodes, Document.contains, Document.columnsOn, hsource, htarget,
          hport]
  rw [inputColumns, Dictionary.get?_ofList, hentries, List.getLast?_map, Document.supply?,
    Option.map_map]
  rfl

/-- What was fetched for a source of the document. -/
theorem get?_fetchAll (hids : document.nodeIds.Nodup) {node : Node} (hnode : node ∈ document.nodes)
    (hsource : node.schema.category = .source) :
    (fetchAll registry library document).get? node.id =
      some (fetchColumns registry library node) := by
  refine Dictionary.get?_ofList_eq_some ?_ ?_
  · exact List.mem_map.mpr ⟨node, List.mem_filter.mpr ⟨hnode, by simpa using hsource⟩, rfl⟩
  · intro entry hentry hid
    obtain ⟨other, hother, rfl⟩ := List.mem_map.mp hentry
    obtain rfl := List.inj_on_of_nodup_map hids (List.mem_filter.mp hother).1 hnode hid
    rfl

/-- A node that holds what belongs there, given the columns on its inputs, is settled. -/
theorem settled_of_metadata_eq {node : Node} {inputs : PortColumns}
    {result : Except PassError PortColumns} (hmetadata : node.metadata = metadataOf inputs result)
    (hinputs : ∀ port, inputs.get? port = (document.supply? node.id port).map fun edge =>
      document.columnsOn edge.source edge.sourcePort)
    (hyields : Yields registry library node inputs result) :
    Settled registry library document node := by
  cases result with
  | ok columns =>
    refine ⟨?_, .ok columns, ?_, ?_⟩ <;> rw [hmetadata]
    · exact hinputs
    · exact hyields
    · exact ⟨rfl, rfl⟩
  | error cause =>
    refine ⟨?_, .error cause, ?_, ?_⟩ <;> rw [hmetadata]
    · exact hinputs
    · exact hyields
    · exact ⟨rfl, rfl⟩

/-- In the document that a pass along a sorted order has written, every node is settled. -/
theorem settled_of_sorted (pass : Pass) (hids : pass.snapshot.nodeIds.Nodup)
    (hsorted : pass.snapshot.graph.Sorted pass.order) :
    ∀ node ∈ (pass.snapshot.writeResults (pass.results registry library)).document.nodes,
      Settled registry library
        (pass.snapshot.writeResults (pass.results registry library)).document node := by
  have hsolves : Solves registry library pass.snapshot _ := solves_of_sorted pass hids hsorted
  rw [Document.writeResults_document hids]
  intro node hnode
  obtain ⟨old, hold, rfl⟩ := List.mem_map.mp hnode
  refine settled_of_metadata_eq
    (congrArg (Option.getD · old.metadata) (hsolves.inside old hold))
    (get?_inputColumns hsolves.outside old.id) ?_
  have hfetched : old.schema.category = .source →
      (fetchAll registry library pass.snapshot).get? old.id =
        some (fetchColumns registry library old) := get?_fetchAll hids hold
  -- what is fetched does not depend on the metadata
  exact yields_outputColumns registry library _ _ hfetched

/-- Both policies walk a graph without cycles in a sorted order. -/
theorem sorted_of_walkOrder_eq_ok {policy : CyclePolicy} (hids : document.nodeIds.Nodup)
    (hacyclic : document.graph.Acyclic) {order : List String}
    (h : Propagator.walkOrder policy document = .ok order) : document.graph.Sorted order := by
  cases policy with
  | failFast => exact Graph.sorted_of_queueOrder_eq_ok hids h
  | silentStop =>
    obtain rfl := Except.ok.inj h
    exact hacyclic.sorted_depthFirstOrder hids

/-- Both policies walk the nodes of the document, all of them and nothing else. -/
theorem mem_iff_of_walkOrder_eq_ok {policy : CyclePolicy} {order : List String}
    (h : Propagator.walkOrder policy document = .ok order) (id : String) :
    id ∈ order ↔ id ∈ document.nodeIds := by
  cases policy with
  | failFast => exact (Graph.perm_of_queueOrder_eq_ok h).mem_iff
  | silentStop =>
    obtain rfl := Except.ok.inj h
    exact (Graph.depthFirstOrder_visited document.graph).2 id

/-- A walk visits nodes of the document only. -/
theorem subset_of_walkOrder_eq_ok {policy : CyclePolicy} {order : List String}
    (h : Propagator.walkOrder policy document = .ok order) : order ⊆ document.nodeIds :=
  fun id => (mem_iff_of_walkOrder_eq_ok h id).mp

/-- A walk along nodes of the document finds something for each of them. -/
theorem map_fst_results {pass : Pass} (registry : Registry) (library : Answers)
    (h : pass.order ⊆ pass.snapshot.nodeIds) :
    (pass.results registry library).map Prod.fst = pass.order := by
  have hwalk (ids : List String) (walk : Walk) (hids : ids ⊆ pass.snapshot.nodeIds) :
      (ids.foldl (Walk.step registry pass.snapshot) walk).results.map Prod.fst =
        walk.results.map Prod.fst ++ ids := by
    induction ids generalizing walk with
    | nil => simp
    | cons id rest ih =>
      obtain ⟨hid, hrest⟩ := List.cons_subset.mp hids
      obtain ⟨node, hnode⟩ :=
        Option.isSome_iff_exists.mp ((Document.contains_iff pass.snapshot id).mpr hid)
      rw [List.foldl_cons, ih _ hrest, Walk.step, hnode]
      simp
  unfold Pass.results
  exact hwalk pass.order _ h

end Propagation

/-- How a pass begins: it is skipped or breaks off, finds a cycle, or is under way. -/
theorem Propagator.begin_cases (propagator : Propagator) (policy : CyclePolicy)
    (document : Document) :
    (∃ outcome events, propagator.begin policy document = (propagator, .ended outcome, events) ∧
      (propagator.inFlight = true ∧ outcome = .dropped ∨
        propagator.last = some document.fingerprint ∧ outcome = .unchanged ∨
        ∃ overdraw, walkOrder policy document = .error (.overdrawn overdraw) ∧
          outcome = .overdrawn overdraw)) ∨
    (∃ cycle events, walkOrder policy document = .error (.cycle cycle) ∧
      propagator.begin policy document =
        ({ propagator with last := some document.fingerprint }, .ended (.cycle cycle), events)) ∨
    ∃ order, walkOrder policy document = .ok order ∧
      propagator.begin policy document = ({ propagator with inFlight := true },
        .begun ⟨document, document.fingerprint, order⟩, []) := by
  unfold Propagator.begin
  split
  · next hbusy => exact .inl ⟨_, _, rfl, .inl ⟨hbusy, rfl⟩⟩
  · split
    · next hsame => exact .inl ⟨_, _, rfl, .inr (.inl ⟨hsame, rfl⟩)⟩
    · split
      · next cycle horder => exact .inr (.inl ⟨cycle, _, horder, rfl⟩)
      · next overdraw horder => exact .inl ⟨_, _, rfl, .inr (.inr ⟨overdraw, horder, rfl⟩)⟩
      · next order horder => exact .inr (.inr ⟨order, horder, rfl⟩)

namespace Session

variable {session : Session}

/-- The session after a pass that walks its nodes in a given order, and the report of the pass. -/
def passAlong (session : Session) (order : List String) : Session × PassReport :=
  session.finishPass ⟨session.document, session.document.fingerprint, order⟩

/-- A pass along an order writes what the walk found. -/
theorem document_passAlong (session : Session) (order : List String) :
    (session.passAlong order).1.document = (session.document.writeResults
      (Pass.results ⟨session.document, session.document.fingerprint, order⟩
        session.registry session.library)).document := rfl

/-- A pass that begins is carried through. -/
theorem propagate_eq_of_begun {order : List String}
    (h : session.propagator.begin session.config.cyclePolicy session.document =
      ({ session.propagator with inFlight := true },
        .begun ⟨session.document, session.document.fingerprint, order⟩, [])) :
    session.propagate = ((session.passAlong order).1, .completed (session.passAlong order).2) := by
  rw [propagate, beginPass, h]
  simp [passAlong, finishPass, emit, Propagator.finish]

/-- An attempt at a pass is skipped or breaks off, finds a cycle, or is carried through. -/
theorem propagate_cases (session : Session) :
    (∃ events, session.propagate.1 = session.emit events ∧
      (session.propagator.inFlight = true ∧ session.propagate.2 = .dropped ∨
        session.propagator.last = some session.document.fingerprint ∧
          session.propagate.2 = .unchanged ∨
        ∃ overdraw, Propagator.walkOrder session.config.cyclePolicy session.document =
            .error (.overdrawn overdraw) ∧ session.propagate.2 = .overdrawn overdraw)) ∨
    (∃ cycle events,
      Propagator.walkOrder session.config.cyclePolicy session.document = .error (.cycle cycle) ∧
      session.propagate = ({ session with propagator :=
        { session.propagator with last := some session.document.fingerprint } }.emit events,
          .cycle cycle)) ∨
    ∃ order, Propagator.walkOrder session.config.cyclePolicy session.document = .ok order ∧
      session.propagate =
        ((session.passAlong order).1, .completed (session.passAlong order).2) := by
  rcases session.propagator.begin_cases session.config.cyclePolicy session.document with
    ⟨outcome, events, hbegin, hwhy⟩ | ⟨cycle, events, hcycle, hbegin⟩ | ⟨order, horder, hbegin⟩
  · refine .inl ⟨events, ?_, ?_⟩ <;> rw [propagate, beginPass, hbegin]
    rcases hwhy with ⟨hbusy, rfl⟩ | ⟨hsame, rfl⟩ | ⟨overdraw, horder, rfl⟩
    · exact .inl ⟨hbusy, rfl⟩
    · exact .inr (.inl ⟨hsame, rfl⟩)
    · exact .inr (.inr ⟨overdraw, horder, rfl⟩)
  · refine .inr (.inl ⟨cycle, events, hcycle, ?_⟩)
    rw [propagate, beginPass, hbegin]
  · exact .inr (.inr ⟨order, horder, propagate_eq_of_begun hbegin⟩)

/-- A pass that completes has walked the document in an order of its policy. -/
theorem exists_passAlong_of_completed {report : PassReport}
    (h : session.propagate.2 = .completed report) :
    ∃ order, Propagator.walkOrder session.config.cyclePolicy session.document = .ok order ∧
      session.propagate =
        ((session.passAlong order).1, .completed (session.passAlong order).2) := by
  rcases session.propagate_cases with
    ⟨events, -, ⟨-, hended⟩ | ⟨-, hended⟩ | ⟨overdraw, -, hended⟩⟩ |
      ⟨cycle, events, -, hcycle⟩ | hdone
  · rw [h] at hended
    contradiction
  · rw [h] at hended
    contradiction
  · rw [h] at hended
    contradiction
  · rw [hcycle] at h
    contradiction
  · exact hdone

/-- After a pass over a document without cycles every node is settled, and nothing but metadata has
changed. -/
theorem propagate_settled (session : Session) (report : PassReport)
    (hids : session.document.nodeIds.Nodup) (hacyclic : session.document.graph.Acyclic)
    (hdone : session.propagate.2 = .completed report) :
    session.propagate.1.document.bare = session.document.bare ∧
      ∀ node ∈ session.propagate.1.document.nodes,
        Propagation.Settled session.registry session.library session.propagate.1.document node := by
  obtain ⟨order, horder, hpass⟩ := exists_passAlong_of_completed hdone
  have hsorted := Propagation.sorted_of_walkOrder_eq_ok hids hacyclic horder
  rw [hpass, document_passAlong]
  refine ⟨?_, ?_⟩
  · rw [Document.writeResults_document hids, Document.bare_withMetadata]
  · exact Propagation.settled_of_sorted ⟨session.document, _, order⟩ hids hsorted

/-- A node with one input, one output and an algorithm of a category. -/
def sampleNode (id algorithm : String) (category : Category) : Node :=
  Node.create id 1
    { Schema.unassigned with
      id := algorithm
      category := category
      inputs := [Port.needed "in" "frame"]
      outputs := [Port.optional "out" "frame"]
      parameters := [⟨"path", "str", .string "t.csv", .plain, none⟩,
        ⟨"index", "str", .string "ID", .plain, none⟩]
      fetch := some ⟨.file "path", some "index"⟩ }

/-- A source, a transform behind it, one that is not registered, and a sink into whose input edges
lead from both and from a node that does not exist. -/
def sampleSession : Session where
  document :=
    { Document.empty "p" "Pipeline" with
      nodes := [sampleNode "end" "show" .sink, sampleNode "lost" "missing" .transform,
        sampleNode "pass" "copy" .transform, sampleNode "start" "read" .source]
      edges := [⟨"1", "start", "out", "pass", "in"⟩, ⟨"2", "lost", "out", "end", "in"⟩,
        ⟨"3", "pass", "out", "end", "in"⟩, ⟨"4", "gone", "out", "end", "in"⟩] }
  registry := ⟨Dictionary.empty.insert "copy"
    ⟨(sampleNode "" "copy" .transform).schema,
      .transform fun inputs _ schema => .ok (publish schema (inputs.on "in"))⟩⟩
  library := Library.empty.withFile "t.csv" [⟨"id", "int"⟩, ⟨"x", "float"⟩]
  config := .default
  encode := .total
  history := .start 1
  board := .empty
  propagator := .idle
  events := []

/-- The columns of the source reach the transform, and the node without an algorithm has an error.
-/
theorem propagate_settled_sampleSession :
    sampleSession.document.nodeIds.Nodup ∧ sampleSession.document.graph.Acyclic ∧
      sampleSession.propagate.2 =
        .completed ⟨["lost", "start", "pass", "end"], ["lost"], []⟩ ∧
      sampleSession.propagate.1.document.columnsOn "pass" "out" = [⟨"x", "float"⟩] ∧
      sampleSession.propagate.1.document.bare = sampleSession.document.bare ∧
      ∀ node ∈ sampleSession.propagate.1.document.nodes, Propagation.Settled
        sampleSession.registry sampleSession.library sampleSession.propagate.1.document node := by
  have hids : sampleSession.document.nodeIds.Nodup := by decide
  have horder : sampleSession.document.graph.queueOrder =
      .ok ["lost", "start", "pass", "end"] := by rfl
  have hacyclic : sampleSession.document.graph.Acyclic :=
    (Graph.sorted_of_queueOrder_eq_ok hids horder).acyclic
  have hdone : sampleSession.propagate.2 =
      .completed ⟨["lost", "start", "pass", "end"], ["lost"], []⟩ := by rfl
  exact ⟨hids, hacyclic, hdone, by rfl, propagate_settled sampleSession _ hids hacyclic hdone⟩

end Session

end Dataflow
