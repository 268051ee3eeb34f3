import Dataflow.Proofs.Reporting
import Dataflow.Proofs.Walk

/-!
# Algorithms that passes rely on

A pass takes the category of a node from the schema that the node holds, and looks up in the
registry how columns of that algorithm are found. The two fit together: a registry keeps each
algorithm under the id of its schema and accepts it only with what its category needs, a schema from
the library is accepted only if it needs nothing from the registry, and nodes get their schemas in
no other way. So a pass over the document of a session, whatever was done before, fails at a node
only for want of a parameter or because the library or a column transform refuses.
-/

namespace Dataflow

namespace Dictionary

variable {α : Type} {first second : Dictionary α}

/-- An entry of two dictionaries together is an entry of one of them. -/
theorem mem_entries_union {entry : String × α} (h : entry ∈ (first.union second).entries) :
    entry ∈ first.entries ∨ entry ∈ second.entries := by
  have hfold (entries : List (String × α)) (dict : Dictionary α)
      (hmem : entry ∈
        (entries.foldl (fun dict entry => dict.insert entry.1 entry.2) dict).entries) :
      entry ∈ dict.entries ∨ entry ∈ entries := by
    induction entries generalizing dict with
    | nil => exact .inl hmem
    | cons next rest ih =>
      rcases ih _ hmem with hinserted | hrest
      · rcases mem_insertEntry hinserted with rfl | hold
        · exact .inr List.mem_cons_self
        · exact .inl hold
      · exact .inr (List.mem_cons_of_mem _ hrest)
  exact hfold second.entries first h

end Dictionary

/-! ## Registries -/

/-- A source that is accepted says how its columns are fetched, and a transform comes with its
column transform. -/
theorem Kind.resolve_eq_ok {schema : Schema} {transform : Option Transform} {kind : Kind}
    (h : Kind.resolve schema transform = .ok kind) :
    (schema.category = .source → schema.fetch.isSome = true) ∧
      (schema.category = .transform → ∃ run, transform = some run ∧ kind = .transform run) := by
  unfold Kind.resolve at h
  cases hcategory : schema.category with
  | source =>
    simp only [hcategory] at h
    cases hfetch : schema.fetch with
    | none => simp [hfetch] at h
    | some fetch => simp
  | transform =>
    simp only [hcategory] at h
    cases transform with
    | none => simp at h
    | some run => exact ⟨by simp, fun _ => ⟨run, rfl, (Except.ok.inj h).symm⟩⟩
  | sink => simp
  | free => simp

namespace Registry

variable {registry other extended : Registry}

/-- A registry that comes from the empty one by registering algorithms and by merging. -/
inductive Built : Registry → Prop where
  | empty : Built .empty
  | register {registry extended : Registry} {registration : Registration} : Built registry →
    registry.register registration = .ok extended → Built extended
  | merge {registry other : Registry} : Built registry → Built other → Built (registry.merge other)

/-- Every algorithm has the id of its schema for a name, and was accepted with its schema. -/
def Sound (registry : Registry) : Prop :=
  ∀ entry ∈ registry.algorithms.entries, entry.2.schema.id = entry.1 ∧
    ∃ transform, Kind.resolve entry.2.schema transform = .ok entry.2.kind

/-- An algorithm is registered only with a kind that its schema allows. -/
theorem Sound.register {registration : Registration} (h : registry.Sound)
    (hok : registry.register registration = .ok extended) : extended.Sound := by
  unfold Registry.register at hok
  split at hok
  · contradiction
  · next kind hresolved =>
    obtain rfl := Except.ok.inj hok
    intro entry hentry
    rcases mem_insertEntry hentry with rfl | hold
    · exact ⟨rfl, registration.transform, hresolved⟩
    · exact h entry hold

/-- Merging takes every entry from one of two sound registries. -/
theorem Sound.merge (h : registry.Sound) (hother : other.Sound) : (registry.merge other).Sound := by
  intro entry hentry
  rcases Dictionary.mem_entries_union hentry with hfirst | hsecond
  · exact h entry hfirst
  · exact hother entry hsecond

/-- A registry that was built by registering and merging is sound. -/
theorem Built.sound (h : registry.Built) : registry.Sound := by
  induction h with
  | empty => exact fun entry hentry => absurd hentry List.not_mem_nil
  | register _ hok ih => exact ih.register hok
  | merge _ _ ih ihother => exact ih.merge ihother

end Registry

/-! ## Schemas that a session gives to nodes -/

/-- A schema has what a pass needs for its category: a source says how its columns are fetched, and
a transform is registered with its column transform. -/
structure Schema.Served (registry : Registry) (schema : Schema) : Prop where
  /-- A source says how its columns are fetched. -/
  fetch : schema.category = .source → schema.fetch.isSome = true
  /-- A transform is registered. -/
  transform : schema.category = .transform →
    ∃ run, registry.kind? schema.id = some (.transform run)

/-- What is registered has what it needs. -/
theorem Registry.Sound.served {registry : Registry} (h : registry.Sound) {name : String}
    {schema : Schema} (hfound : registry.schema? name = some schema) :
    schema.Served registry := by
  obtain ⟨algorithm, hget, rfl⟩ := Option.map_eq_some_iff.mp hfound
  obtain ⟨hid, transform, hresolved⟩ := h _ (Dictionary.mem_entries_of_get? hget)
  obtain ⟨hfetch, htransform⟩ := Kind.resolve_eq_ok hresolved
  refine ⟨hfetch, fun hcategory => ?_⟩
  obtain ⟨run, -, hkind⟩ := htransform hcategory
  dsimp only at hid hkind
  exact ⟨run, by rw [Registry.kind?, hid, hget, Option.map_some, hkind]⟩

/-- A schema that is accepted without a column transform needs nothing from the registry. -/
theorem Schema.served_of_resolve {schema : Schema} {kind : Kind}
    (h : Kind.resolve schema none = .ok kind) (registry : Registry) : schema.Served registry := by
  obtain ⟨hfetch, htransform⟩ := Kind.resolve_eq_ok h
  refine ⟨hfetch, fun hcategory => ?_⟩
  obtain ⟨run, hnone, -⟩ := htransform hcategory
  contradiction

/-- The schema that an edit gives to a node, if it does. -/
def Edit.schema? : Edit → Option Schema
  | .insertGenerated _ schema | .insert _ schema | .assign _ schema => some schema
  | _ => none

namespace Document

variable {document edited : Document} {edit : Edit} {stale : List String}

/-- Making a document normal changes no schema. -/
theorem schemas_normalize (document : Document) :
    document.normalize.1.nodes.map Node.schema = document.nodes.map Node.schema := by
  have hschemas := map_nodes_ofNodes Node.schema (fun _ _ => rfl) []
    (document.advance document.pastHighest).nextOrdinal document.nodes
  unfold normalize
  dsimp only
  split
  · exact hschemas
  · simpa [Function.comp_def] using hschemas

/-- What all schemas of a document have and the schema of an edit has too, all schemas of the edited
document have. -/
theorem forall_schemas_tryEdit {P : Schema → Prop} (h : ∀ node ∈ document.nodes, P node.schema)
    (hnew : ∀ schema ∈ edit.schema?, P schema)
    (htried : document.tryEdit edit = .ok (edited, stale)) :
    ∀ node ∈ edited.nodes, P node.schema := by
  have hinsert {id : String} {schema : Schema} (hschema : P schema)
      (hok : document.insertNew id schema = .ok edited) : ∀ node ∈ edited.nodes, P node.schema := by
    obtain rfl := insertNew_eq_ok hok
    intro node hnode
    rcases List.mem_append.mp hnode with hold | hmade
    · exact h node hold
    · obtain rfl := List.mem_singleton.mp hmade
      exact hschema
  have hchange {id : String} {change : Node → Node}
      (hkeeps : ∀ node, P node.schema → P (change node).schema) :
      ∀ node ∈ (document.modifyNode id change).nodes, P node.schema := by
    intro node hnode
    rcases mem_modifyFirst hnode with hold | ⟨old, hold, -, rfl⟩
    · exact h node hold
    · exact hkeeps old (h old hold)
  cases edit with
  | insertGenerated id schema => exact hinsert (hnew schema rfl) (eq_ok_of_map_eq_ok htried)
  | insert id schema =>
    exact hinsert (hnew schema rfl) (insert_eq_ok (eq_ok_of_map_eq_ok htried)).2
  | setValue id name value =>
    obtain rfl := updateNode_eq_ok (eq_ok_of_map_eq_ok htried)
    exact hchange fun _ hschema => hschema
  | setValues id values =>
    obtain rfl := updateNode_eq_ok (eq_ok_of_map_eq_ok htried)
    exact hchange fun _ hschema => hschema
  | assign id schema =>
    obtain ⟨⟨_, change⟩, hmade, heq⟩ := exists_of_map_eq_ok htried
    obtain ⟨rfl, -⟩ := Prod.mk.inj heq
    obtain ⟨rfl, -⟩ := assign_eq_ok hmade
    refine hchange fun node _ => ?_
    rw [Node.ensureBound_schema]
    exact hnew schema rfl
  | connect edge =>
    obtain rfl := connect_eq_ok (eq_ok_of_map_eq_ok htried)
    exact h
  | disconnect id =>
    obtain ⟨⟨_, removed⟩, hmade, heq⟩ := exists_of_map_eq_ok htried
    obtain ⟨rfl, -⟩ := Prod.mk.inj heq
    obtain ⟨-, rfl⟩ := disconnect_eq_ok hmade
    exact h
  | delete id =>
    obtain ⟨⟨_, removal⟩, hmade, heq⟩ := exists_of_map_eq_ok htried
    obtain ⟨rfl, -⟩ := Prod.mk.inj heq
    obtain ⟨rfl, -⟩ := delete_eq_ok hmade
    exact fun node hnode => h node (List.mem_of_mem_eraseP hnode)
  | allocate =>
    obtain ⟨⟨_, ordinal⟩, hmade, heq⟩ := exists_of_map_eq_ok htried
    obtain ⟨rfl, -⟩ := Prod.mk.inj heq
    obtain ⟨-, -, rfl⟩ := allocate_eq_ok hmade
    exact h
  | advance next =>
    obtain ⟨rfl, -⟩ := Prod.mk.inj (Except.ok.inj htried)
    exact h
  | normalize =>
    obtain ⟨rfl, -⟩ := Prod.mk.inj (Except.ok.inj htried)
    intro node hnode
    have hmem := List.mem_map_of_mem (f := Node.schema) hnode
    rw [schemas_normalize] at hmem
    obtain ⟨old, hold, hsame⟩ := List.mem_map.mp hmem
    exact hsame ▸ h old hold

/-- Documents that differ in metadata have the same schemas. -/
theorem forall_schemas_of_bare_eq {P : Schema → Prop} (hbare : edited.bare = document.bare)
    (h : ∀ node ∈ document.nodes, P node.schema) : ∀ node ∈ edited.nodes, P node.schema := by
  intro node hnode
  obtain ⟨old, hold, hsame⟩ := exists_mem_of_bare_eq hbare hnode
  have hschema : old.bare.schema = node.bare.schema := congrArg Node.schema hsame
  exact hschema ▸ h old hold

end Document

namespace Session

variable {session : Session}

/-- A sound registry serves the schemas that it gives. -/
theorem served_of_registeredSchema (hsound : session.registry.Sound) {algorithm : String}
    {schema : Schema} (h : session.registeredSchema algorithm = .ok schema) :
    schema.Served session.registry := by
  unfold registeredSchema at h
  split at h
  · next found hfound =>
    obtain rfl := Except.ok.inj h
    exact hsound.served hfound
  · contradiction

/-- A schema from the library needs no transform, so it is served as well. -/
theorem served_of_knownSchema (hsound : session.registry.Sound) {algorithm : String}
    {schema : Schema} (h : session.knownSchema algorithm = .ok schema) :
    schema.Served session.registry := by
  unfold knownSchema at h
  split at h
  · next found hfound =>
    obtain rfl := Except.ok.inj h
    exact hsound.served hfound
  · split at h
    · contradiction
    · contradiction
    · split at h
      · contradiction
      · next kind hresolved =>
        obtain rfl := Except.ok.inj h
        exact Schema.served_of_resolve hresolved _

/-- The schema of a node without an algorithm may be registered too. -/
theorem served_unassigned (hsound : session.registry.Sound) :
    ((session.registry.schema? Schema.unassignedId).getD Schema.unassigned).Served
      session.registry := by
  cases hfound : session.registry.schema? Schema.unassignedId with
  | none => exact ⟨nofun, nofun⟩
  | some schema => exact hsound.served hfound

/-- Commands give nodes only schemas that have what they need. -/
theorem Command.served_edit (hsound : session.registry.Sound) {command : Command} {edit : Edit}
    (h : command.edit session = .ok edit) :
    ∀ schema ∈ edit.schema?, schema.Served session.registry := by
  have hnone {edit : Edit} (hedit : edit.schema? = none) :
      ∀ schema ∈ edit.schema?, schema.Served session.registry := by
    intro schema hschema
    rw [hedit] at hschema
    cases hschema
  cases command with
  | addNode id algorithm =>
    obtain ⟨schema, hschema, rfl⟩ := exists_of_map_eq_ok h
    rintro _ ⟨rfl⟩
    exact served_of_registeredSchema hsound hschema
  | addNodeFromLibrary id algorithm =>
    obtain ⟨schema, hschema, rfl⟩ := exists_of_map_eq_ok h
    rintro _ ⟨rfl⟩
    exact served_of_knownSchema hsound hschema
  | addUnassigned id =>
    obtain rfl := Except.ok.inj h
    rintro _ ⟨rfl⟩
    exact served_unassigned hsound
  | assign id algorithm =>
    obtain ⟨schema, hschema, rfl⟩ := exists_of_map_eq_ok h
    rintro _ ⟨rfl⟩
    exact served_of_registeredSchema hsound hschema
  | assignFromLibrary id algorithm =>
    obtain ⟨schema, hschema, rfl⟩ := exists_of_map_eq_ok h
    rintro _ ⟨rfl⟩
    exact served_of_knownSchema hsound hschema
  | setValue id name value =>
    obtain rfl := Except.ok.inj h
    exact hnone rfl
  | connect edge =>
    obtain rfl := Except.ok.inj h
    exact hnone rfl
  | disconnect id =>
    obtain rfl := Except.ok.inj h
    exact hnone rfl
  | delete id =>
    obtain rfl := Except.ok.inj h
    exact hnone rfl

/-- In the document and in all that the history keeps, nodes have different ids and schemas that
have what they need. -/
structure Served (session : Session) : Prop where
  /-- No two nodes of a document have the same id. -/
  ids : ∀ document ∈ session.documents, document.nodeIds.Nodup
  /-- Every schema has what a pass needs for its category. -/
  schemas : ∀ document ∈ session.documents, ∀ node ∈ document.nodes,
    node.schema.Served session.registry

/-- An action brings in no schema that is not served. -/
theorem Served.act (h : session.Served) (hsound : session.registry.Sound) {action : Action}
    (hfresh : action.Fresh session) : (session.act action).Served := by
  have hcurrent := h.schemas session.document List.mem_cons_self
  refine ⟨nodup_nodeIds_act h.ids hfresh, ?_⟩
  rw [(session.sameSetup_act action).registry]
  refine forall_documents_act h.schemas ?_ (fun document hschemas => hschemas) ?_
  · rintro command rfl -
    rw [Session.act]
    rcases session.obey_cases command with
      ⟨cause, hfailed⟩ | ⟨edit, document, stale, hedit, htried, hanswer⟩
    · rw [hfailed]
      exact hcurrent
    · have hserved := Document.forall_schemas_tryEdit hcurrent
        (Command.served_edit hsound hedit) htried
      rcases hanswer with hdone | ⟨cause, -, hunkept⟩
      · rw [hdone]
        exact hserved
      · rw [hunkept]
        exact hserved
  · exact fun hbare => Document.forall_schemas_of_bare_eq hbare hcurrent

/-- All schemas are served along a run, by the registry of its beginning. -/
theorem Served.run (h : session.Served) (hsound : session.registry.Sound) {actions : List Action}
    (hfresh : FreshRun session actions) :
    (session.run actions).Served ∧ (session.run actions).registry = session.registry := by
  induction actions generalizing session with
  | nil => exact ⟨h, rfl⟩
  | cons action rest ih =>
    have hsame := (session.sameSetup_act action).registry
    obtain ⟨hserved, hregistry⟩ := ih (h.act hsound hfresh.1) (hsame ▸ hsound) hfresh.2
    exact ⟨hserved, hregistry.trans hsame⟩

/-- On an empty document every schema is served, and the registry is the one that was given. -/
theorem served_of_start_empty {id name : String} {registry : Registry} {library : Answers}
    {config : Config} {encode : Encoder}
    (h : Session.start (.empty id name) registry library config encode = .ok session) :
    session.Served ∧ session.registry = registry := by
  have hdocuments := documents_of_start_empty h
  refine ⟨⟨fun document hdocument => ?_, fun document hdocument node hnode => ?_⟩, ?_⟩
  · rw [hdocuments, List.mem_singleton] at hdocument
    rw [hdocument]
    exact List.nodup_nil
  · rw [hdocuments, List.mem_singleton] at hdocument
    rw [hdocument] at hnode
    exact absurd hnode List.not_mem_nil
  · unfold Session.start at h
    split at h
    · contradiction
    · rw [← Except.ok.inj h]

end Session

/-! ## What a pass meets -/

/-- The registry or the walk lacks what the category of a node asks for. -/
inductive PassError.Gap : PassError → Prop where
  /-- A source does not say how its columns are fetched. -/
  | noFetch (algorithm : String) : Gap (.noFetch algorithm)
  /-- Nothing was fetched for a source. -/
  | notFetched : Gap .notFetched
  /-- No column transform is registered. -/
  | noTransform (algorithm : String) : Gap (.noTransform algorithm)

namespace Pass

open Propagation

variable {pass : Pass} {registry : Registry} {library : Answers}

/-- The columns that come into a node when the walk has gone through other nodes. -/
def inputsAfter (pass : Pass) (registry : Registry) (library : Answers) (before : List String)
    (node : Node) : PortColumns :=
  inputColumns pass.snapshot (pass.walked registry library before).computed node.id

/-- The columns that a node gives when the walk has gone through other nodes. -/
def outputsAfter (pass : Pass) (registry : Registry) (library : Answers) (before : List String)
    (node : Node) : Except PassError PortColumns :=
  outputColumns registry node ((pass.walked registry library before).fetched.get? node.id)
    (pass.inputsAfter registry library before node)

/-- A pass comes to an error at a node: where it fetches the columns of sources, or where its walk
comes to the node. -/
inductive Meets (pass : Pass) (registry : Registry) (library : Answers) :
    Node → PassError → Prop where
  /-- The columns of a source are fetched. -/
  | fetching {node : Node} {cause : PassError} : node ∈ sources pass.snapshot →
    fetchColumns registry library node = .error cause → Meets pass registry library node cause
  /-- The walk comes to the node, behind those in front of it. -/
  | walking {node : Node} {cause : PassError} {before after : List String} :
    pass.order = before ++ node.id :: after → pass.snapshot.node? node.id = some node →
    pass.outputsAfter registry library before node = .error cause →
    Meets pass registry library node cause

/-- A step adds at most the result of the node that it comes to. -/
theorem mem_results_step {ids : List String} {last : String} {result : String × Metadata}
    (h : result ∈ (Walk.step registry pass.snapshot (pass.walked registry library ids)
      last).results) :
    result ∈ (pass.walked registry library ids).results ∨
      ∃ node, pass.snapshot.node? last = some node ∧
        result = (last, metadataOf (pass.inputsAfter registry library ids node)
          (pass.outputsAfter registry library ids node)) := by
  unfold Walk.step at h
  split at h
  · exact .inl h
  · next node hnode =>
    obtain rfl := Document.id_eq_of_node?_eq_some hnode
    rcases List.mem_append.mp h with hold | hlast
    · exact .inl hold
    · exact .inr ⟨node, hnode, List.mem_singleton.mp hlast⟩

/-- Every result of a walk was found when it came to the node. -/
theorem exists_visit_of_mem_results {ids : List String} {result : String × Metadata}
    (h : result ∈ (pass.walked registry library ids).results) :
    ∃ before after node, ids = before ++ node.id :: after ∧
      pass.snapshot.node? node.id = some node ∧
      result = (node.id, metadataOf (pass.inputsAfter registry library before node)
        (pass.outputsAfter registry library before node)) := by
  induction ids using List.reverseRecOn with
  | nil => exact absurd h List.not_mem_nil
  | append_singleton ids last ih =>
    rw [walked_append, List.foldl_cons, List.foldl_nil] at h
    rcases mem_results_step h with hold | ⟨node, hnode, hresult⟩
    · obtain ⟨before, after, node, hsplit, hfound⟩ := ih hold
      exact ⟨before, after ++ [last], node, by simp [hsplit], hfound⟩
    · obtain rfl := Document.id_eq_of_node?_eq_some hnode
      exact ⟨ids, [], node, rfl, hnode, hresult⟩

/-- A node whose columns are not found has the text of an error that the pass meets. -/
theorem exists_meets_of_mem_results {id message : String} {metadata : Metadata}
    (h : (id, metadata) ∈ pass.results registry library)
    (hstatus : metadata.status = .error message) :
    ∃ node cause, node.id = id ∧ message = cause.message ∧
      pass.Meets registry library node cause := by
  obtain ⟨before, after, node, hsplit, hnode, hresult⟩ := exists_visit_of_mem_results h
  obtain ⟨rfl, hmetadata⟩ := Prod.mk.inj hresult
  rw [hmetadata] at hstatus
  cases houtputs : pass.outputsAfter registry library before node with
  | ok columns =>
    rw [houtputs] at hstatus
    cases hstatus
  | error cause =>
    rw [houtputs] at hstatus
    exact ⟨node, cause, rfl, (PassStatus.error.inj hstatus).symm, .walking hsplit hnode houtputs⟩

/-- Fetching fails for want of a parameter, or the library refuses. -/
theorem not_gap_of_fetchColumns {node : Node} {cause : PassError}
    (hserved : node.schema.Served registry) (hcategory : node.schema.category = .source)
    (h : fetchColumns registry library node = .error cause) : ¬cause.Gap := by
  have hsome : fetchOf registry node ≠ none := by
    have hfetch := hserved.fetch hcategory
    unfold fetchOf
    split
    · simp
    · exact Option.isSome_iff_ne_none.mp hfetch
  have hspec := fetches_fetchColumns registry library node
  rw [h] at hspec
  cases hspec with
  | unknown hnone => exact absurd hnone hsome
  | unset => exact nofun
  | refused => exact nofun

/-- A pass over nodes that have what they need, in an order without repeats, meets no gap. -/
theorem Meets.not_gap {node : Node} {cause : PassError}
    (h : pass.Meets registry library node cause) (hids : pass.snapshot.nodeIds.Nodup)
    (horder : pass.order.Nodup)
    (hserved : ∀ node ∈ pass.snapshot.nodes, node.schema.Served registry) : ¬cause.Gap := by
  cases h with
  | fetching hsource hfetch =>
    obtain ⟨hnode, hcategory⟩ := List.mem_filter.mp hsource
    exact not_gap_of_fetchColumns (hserved node hnode) (by simpa using hcategory) hfetch
  | @walking before after hsplit hfound houtputs =>
    have hnode : node ∈ pass.snapshot.nodes := Document.mem_of_node?_eq_some hfound
    have hfresh : node.id ∉ before := by
      rw [hsplit] at horder
      have hmiddle := (List.nodup_cons.mp (List.nodup_middle.mp horder)).1
      exact fun hmem => hmiddle (List.mem_append_left _ hmem)
    unfold outputsAfter outputColumns at houtputs
    cases hcategory : node.schema.category with
    | source =>
      -- no step took what was fetched for this node
      rw [hcategory, get?_fetched_walked hfresh, get?_fetchAll hids hnode hcategory] at houtputs
      cases hfetch : fetchColumns registry library node with
      | ok columns =>
        rw [hfetch] at houtputs
        cases houtputs
      | error reason =>
        rw [hfetch] at houtputs
        obtain rfl := Except.error.inj houtputs
        exact not_gap_of_fetchColumns (hserved node hnode) hcategory hfetch
    | transform =>
      obtain ⟨run, hkind⟩ := (hserved node hnode).transform hcategory
      rw [hcategory] at houtputs
      simp only [transformColumns, hkind] at houtputs
      cases hrun : run (pass.inputsAfter registry library before node) node.effectiveValues
          node.schema with
      | ok columns =>
        rw [hrun] at houtputs
        cases houtputs
      | error reason =>
        rw [hrun] at houtputs
        obtain rfl := Except.error.inj houtputs
        exact nofun
    | sink =>
      rw [hcategory] at houtputs
      cases houtputs
    | free =>
      rw [hcategory] at houtputs
      cases houtputs

end Pass

/-- Both policies walk no node twice. -/
theorem Propagation.nodup_of_walkOrder_eq_ok {document : Document} {policy : CyclePolicy}
    (hids : document.nodeIds.Nodup) {order : List String}
    (h : Propagator.walkOrder policy document = .ok order) : order.Nodup := by
  cases policy with
  | failFast => exact (Graph.sorted_of_queueOrder_eq_ok hids h).perm.nodup_iff.mpr hids
  | silentStop =>
    obtain rfl := Except.ok.inj h
    exact (Graph.depthFirstOrder_visited document.graph).1.nodup

namespace Session

/-- A session begins on an empty document with any registry that was built by registering and
merging, and with any library. After any run, a pass over its document, or over a copy that differs
from it in metadata, meets no gap with any policy and any answers of a library; and if it does not
find the columns of a node, the node is given the text of another cause. -/
theorem run_meets_no_gap {start : Session} {id name : String} {registry : Registry}
    {library : Answers} {config : Config} {encode : Encoder} (hbuilt : registry.Built)
    (hstart : Session.start (.empty id name) registry library config encode = .ok start)
    {actions : List Action} (hfresh : FreshRun start actions) {pass : Pass} {policy : CyclePolicy}
    (hcopy : pass.snapshot.bare = (start.run actions).document.bare)
    (horder : Propagator.walkOrder policy pass.snapshot = .ok pass.order) (answers : Answers) :
    (∀ node cause, pass.Meets registry answers node cause → ¬cause.Gap) ∧
      ∀ result ∈ pass.results registry answers, ∀ message,
        result.2.status = .error message → ∃ cause : PassError, ¬cause.Gap ∧
          message = cause.message := by
  obtain ⟨hbegin, rfl⟩ := served_of_start_empty hstart
  obtain ⟨hserved, hregistry⟩ := hbegin.run hbuilt.sound hfresh
  have hids : pass.snapshot.nodeIds.Nodup := by
    rw [← Document.nodeIds_bare, hcopy, Document.nodeIds_bare]
    exact hserved.ids _ List.mem_cons_self
  have hschemas : ∀ node ∈ pass.snapshot.nodes, node.schema.Served start.registry := by
    rw [← hregistry]
    exact Document.forall_schemas_of_bare_eq hcopy (hserved.schemas _ List.mem_cons_self)
  have hnodup := Propagation.nodup_of_walkOrder_eq_ok hids horder
  have hgap (node : Node) (cause : PassError) (h : pass.Meets start.registry answers node cause) :
      ¬cause.Gap := h.not_gap hids hnodup hschemas
  refine ⟨hgap, fun result hresult message hstatus => ?_⟩
  obtain ⟨node, cause, -, hmessage, hmeets⟩ := Pass.exists_meets_of_mem_results hresult hstatus
  exact ⟨cause, hgap node cause hmeets, hmessage⟩

/-- An algorithm of one registry is overridden by another, and the library answers to every name
with a source that has an id of its own. -/
def sampleShelf : Session :=
  { sampleStart with
    registry := sampleStart.registry.merge ⟨Dictionary.empty.insert "copy"
      ⟨(sampleNode "" "copy" .transform).schema,
        .transform fun _ _ _ => .error (.unknownColumn "y")⟩⟩
    library :=
      { (sampleStart.library : Answers) with
        schema := fun _ => .ok (sampleNode "" "read" .source).schema } }

/-- A node gets an algorithm, a source from the library leads into it, and the edge is taken back
and made again around a pass. -/
def sampleStocking : List Action :=
  [.command (.addUnassigned "a"), .command (.assign "a" "copy"),
    .command (.addNodeFromLibrary "b" "table"), .command (.connect ⟨"1", "b", "out", "a", "in"⟩),
    .undo, .propagate, .redo, .command (.assignFromLibrary "b" "list")]

/-- A transform that fails is reported with its own text, and nothing is lacking. -/
theorem run_meets_no_gap_sampleShelf :
    let document := (sampleShelf.run sampleStocking).document
    let pass : Pass := ⟨document, document.fingerprint, ["b", "a"]⟩
    sampleShelf.registry.Built ∧
      Session.start (.empty "p" "Pipeline") sampleShelf.registry sampleShelf.library
        sampleShelf.config .total = .ok sampleShelf ∧
      FreshRun sampleShelf sampleStocking ∧
      Propagator.walkOrder .failFast document = .ok pass.order ∧
      (pass.results sampleShelf.registry sampleShelf.library).map
          (fun result => (result.1, result.2.status)) =
        [("b", .ready), ("a", .error (PassError.transform (.unknownColumn "y")).message)] ∧
      ∀ node cause, pass.Meets sampleShelf.registry sampleShelf.library node cause →
        ¬cause.Gap := by
  intro document pass
  have hcopy (run : Transform) : Registry.Built ⟨Dictionary.empty.insert "copy"
      ⟨(sampleNode "" "copy" .transform).schema, .transform run⟩⟩ :=
    .register .empty (show Registry.empty.register
      ⟨(sampleNode "" "copy" .transform).schema, some run⟩ = _ from rfl)
  have hbuilt : sampleShelf.registry.Built := .merge (hcopy _) (hcopy _)
  have hfresh : FreshRun sampleShelf sampleStocking := by decide
  have horder : Propagator.walkOrder .failFast document = .ok pass.order := by rfl
  exact ⟨hbuilt, rfl, hfresh, horder, by rfl,
    (run_meets_no_gap hbuilt rfl hfresh rfl horder _).1⟩

end Session

end Dataflow
