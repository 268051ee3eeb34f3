import Dataflow.Proofs.Document

/-!
# Documents under editing

Every edit that succeeds on a well-formed document gives a well-formed one, an edit that fails
leaves the document as it was, and a well-formed document is normal already. So a document that
comes from an empty one by any sequence of edits is well-formed, whichever of them fail.
-/

namespace Dataflow

/-- An edit of a document, with what it is given. -/
inductive Edit where
  /-- Append a node under an id that was made for it. -/
  | insertGenerated (id : String) (schema : Schema)
  /-- Append a node under a chosen id. -/
  | insert (id : String) (schema : Schema)
  /-- Set a value of a node. -/
  | setValue (id name : String) (value : Json)
  /-- Set all values of a node. -/
  | setValues (id : String) (values : Values)
  /-- Give a node another schema. -/
  | assign (id : String) (schema : Schema)
  /-- Append an edge, whose id was made for it. -/
  | connect (edge : Edge)
  /-- Remove an edge. -/
  | disconnect (id : String)
  /-- Delete a node. -/
  | delete (id : String)
  /-- Take the next number. -/
  | allocate
  /-- Move the counter forward. -/
  | advance (next : UInt32)
  /-- Make the document normal. -/
  | normalize

/-- The id that was made for a new node, if there is one. -/
def Edit.generated? : Edit → Option String
  | .insertGenerated id _ => some id
  | _ => none

/-- No node has the id that was made for a new one. -/
abbrev Edit.Fresh (document : Document) (edit : Edit) : Prop :=
  ∀ id ∈ edit.generated?, id ∉ document.nodeIds

namespace Document

/-- The document that an attempt leaves behind. -/
def keeping (document : Document) : Except Error Document → Document
  | .ok edited => edited
  | .error _ => document

/-- The document after an edit, whether that succeeds or fails. -/
def after (document : Document) : Edit → Document
  | .insertGenerated id schema => document.keeping (document.insertNew id schema)
  | .insert id schema => document.keeping (document.insert id schema)
  | .setValue id name value => document.keeping (document.setValue id name value)
  | .setValues id values => document.keeping (document.setValues id values)
  | .assign id schema => document.keeping ((document.assign id schema).map Prod.fst)
  | .connect edge => document.keeping (document.connect edge)
  | .disconnect id => document.keeping ((document.disconnect id).map Prod.fst)
  | .delete id => document.keeping ((document.delete id).map Prod.fst)
  | .allocate => document.keeping (document.allocate.map Prod.fst)
  | .advance next => document.advance next
  | .normalize => document.normalize.1

/-- A document that comes from an empty one by edits. -/
inductive Reachable : Document → Prop
  | empty (id name : String) : Reachable (.empty id name)
  | edit {document : Document} {edit : Edit} : Reachable document → edit.Fresh document →
      Reachable (document.after edit)

/-- Every id that a sequence of edits makes is new when it is made. -/
def FreshRun : Document → List Edit → Prop
  | _, [] => True
  | document, edit :: rest => edit.Fresh document ∧ FreshRun (document.after edit) rest

instance decidableFreshRun : (document : Document) → (edits : List Edit) →
    Decidable (FreshRun document edits)
  | _, [] => inferInstanceAs (Decidable True)
  | document, edit :: rest =>
    have := decidableFreshRun (document.after edit) rest
    inferInstanceAs (Decidable (_ ∧ _))

/-- Edits one after another lead from a reachable document to a reachable one. -/
theorem Reachable.run {document : Document} (h : Reachable document) {edits : List Edit}
    (hfresh : FreshRun document edits) : Reachable (edits.foldl Document.after document) := by
  induction edits generalizing document with
  | nil => exact h
  | cons edit rest ih => exact ih (h.edit hfresh.1) hfresh.2

/-- What holds of the document and of every outcome of an attempt holds of what is left behind. -/
theorem WellFormed.keeping {document : Document} (h : document.WellFormed)
    {attempt : Except Error Document} (hok : ∀ edited, attempt = .ok edited → edited.WellFormed) :
    (document.keeping attempt).WellFormed := by
  cases attempt with
  | error cause => exact h
  | ok edited => exact hok edited rfl

/-- The empty document is well formed. -/
theorem wellFormed_empty (id name : String) : (Document.empty id name).WellFormed where
  ids := List.nodup_nil
  ordinals := List.nodup_nil
  below _ hnode := absurd hnode List.not_mem_nil
  bound _ hnode := absurd hnode List.not_mem_nil
  sources _ hedge := absurd hedge List.not_mem_nil
  targets _ hedge := absurd hedge List.not_mem_nil
  inputs := List.nodup_nil

/-! ## The counter -/

/-- Before the last number the counter does not overflow. -/
theorem toNat_succ_of_ne_last {number : UInt32} (h : number ≠ lastOrdinal) :
    (number + 1).toNat = number.toNat + 1 := by
  have hlast : number.toNat ≠ lastOrdinal.toNat := fun he => h (UInt32.toNat_inj.mp he)
  have hlt := number.toNat_lt
  have hvalue : lastOrdinal.toNat = 4294967295 := rfl
  rw [UInt32.toNat_add]
  simp only [UInt32.toNat_one]
  omega

/-- Numbers below the counter stay below it when it moves forward. -/
theorem WellFormed.withCounter {document : Document} (h : document.WellFormed) {next : UInt32}
    (hnext : document.nextOrdinal ≤ next) : { document with nextOrdinal := next }.WellFormed :=
  { h with below := fun node hnode => UInt32.lt_of_lt_of_le (h.below node hnode) hnext }

theorem le_advance (document : Document) (next : UInt32) :
    document.nextOrdinal ≤ (document.advance next).nextOrdinal := by
  unfold advance
  simp only
  split
  · assumption
  · exact UInt32.le_refl _

/-- A document stays well formed when its counter goes on. -/
theorem WellFormed.advance {document : Document} (h : document.WellFormed) (next : UInt32) :
    (document.advance next).WellFormed :=
  h.withCounter (le_advance document next)

/-- A number is handed out below the last one only, and the counter moves behind it. -/
theorem allocate_eq_ok {document counted : Document} {ordinal : UInt32}
    (h : document.allocate = .ok (counted, ordinal)) :
    ordinal = document.nextOrdinal ∧ document.nextOrdinal < document.nextOrdinal + 1 ∧
      counted = { document with nextOrdinal := document.nextOrdinal + 1 } := by
  unfold allocate at h
  split at h
  · contradiction
  · next hne =>
    obtain ⟨rfl, rfl⟩ := Prod.mk.inj (Except.ok.inj h)
    refine ⟨rfl, ?_, rfl⟩
    rw [UInt32.lt_iff_toNat_lt, toNat_succ_of_ne_last hne]
    omega

/-! ## Nodes -/

/-- Ports stay declared when nodes are added. -/
theorem Declares.mono {document larger : Document} {ports : Schema → List String} {id port : String}
    (h : document.Declares ports id port) (hsub : document.nodes ⊆ larger.nodes) :
    larger.Declares ports id port := by
  obtain ⟨node, hnode, hport⟩ := h
  exact ⟨node, hsub hnode, hport⟩

/-- A new id and the number of the counter keep a document well formed. -/
theorem WellFormed.insertNew {document edited : Document} (h : document.WellFormed) {id : String}
    (hnew : id ∉ document.nodeIds) {schema : Schema}
    (hok : document.insertNew id schema = .ok edited) : edited.WellFormed := by
  unfold Document.insertNew at hok
  split at hok
  · contradiction
  · next counted ordinal hcount =>
    obtain ⟨rfl, hlt, rfl⟩ := allocate_eq_ok hcount
    obtain rfl := Except.ok.inj hok
    have hcounted := h.withCounter (UInt32.le_of_lt hlt)
    refine ⟨?_, ?_, ?_, ?_, ?_, ?_, h.inputs⟩
    · simp only [nodeIds, List.map_append, List.map_cons, List.map_nil]
      exact List.nodup_append.mpr ⟨h.ids, List.nodup_singleton _, by
        intro a ha b hb hab
        obtain rfl := List.mem_singleton.mp hb
        exact hnew (hab ▸ ha)⟩
    · simp only [List.map_append, List.map_cons, List.map_nil]
      refine List.nodup_append.mpr ⟨h.ordinals, List.nodup_singleton _, ?_⟩
      intro a ha b hb hab
      obtain rfl := List.mem_singleton.mp hb
      obtain ⟨node, hnode, rfl⟩ := List.mem_map.mp ha
      -- the new node has the number of the counter, and older ones lie below that
      exact UInt32.ne_of_lt (h.below node hnode) hab
    · intro node hnode
      rcases List.mem_append.mp hnode with hnode | hnode
      · exact hcounted.below node hnode
      · obtain rfl := List.mem_singleton.mp hnode
        exact hlt
    · intro node hnode
      rcases List.mem_append.mp hnode with hnode | hnode
      · exact h.bound node hnode
      · obtain rfl := List.mem_singleton.mp hnode
        rfl
    · exact fun edge hedge => (h.sources edge hedge).mono (List.subset_append_left _ _)
    · exact fun edge hedge => (h.targets edge hedge).mono (List.subset_append_left _ _)

/-- Inserting a node keeps a document well formed, since the id was checked. -/
theorem WellFormed.insert {document edited : Document} (h : document.WellFormed) {id : String}
    {schema : Schema} (hok : document.insert id schema = .ok edited) : edited.WellFormed := by
  unfold Document.insert at hok
  split at hok
  · contradiction
  · next hnew => exact h.insertNew (fun hmem => hnew ((contains_iff _ _).mpr hmem)) hok

/-- What every node has before a change and what the change keeps, every node has after it. -/
theorem forall_modifyNode_nodes {document : Document} (hids : document.nodeIds.Nodup) (id : String)
    {change : Node → Node} {P : Node → Prop} (h : ∀ node ∈ document.nodes, P node)
    (hchange : ∀ node, P node → P (change node)) :
    ∀ node ∈ (document.modifyNode id change).nodes, P node := by
  intro node hnode
  rw [modifyNode_nodes hids] at hnode
  obtain ⟨before, hbefore, rfl⟩ := List.mem_map.mp hnode
  split
  · exact hchange before (h before hbefore)
  · exact h before hbefore

/-- A port stays declared when the node that has it is left alone or keeps the port. -/
theorem Declares.modifyNode {document : Document} {ports : Schema → List String}
    {owner port : String}
    (h : document.Declares ports owner port) (hids : document.nodeIds.Nodup) {id : String}
    {change : Node → Node} (hid : ∀ node, (change node).id = node.id)
    (hport : owner = id → ∀ node : Node, port ∈ ports node.schema →
      port ∈ ports (change node).schema) :
    (document.modifyNode id change).Declares ports owner port := by
  obtain ⟨node, hnode, hsame, hdeclared⟩ := h
  refine ⟨if node.id == id then change node else node, ?_, ?_⟩
  · rw [modifyNode_nodes hids]
    exact List.mem_map_of_mem (f := fun node => if node.id == id then change node else node) hnode
  · split
    · next hmatch =>
      have heq : node.id = id := by simpa using hmatch
      exact ⟨(hid node).trans hsame, hport (hsame ▸ heq) node hdeclared⟩
    · exact ⟨hsame, hdeclared⟩

/-- A change of the node with an id, together with the loss of some edges, keeps a document
well-formed if the node keeps its id and its number and still declares the ports of the edges that
stay. -/
theorem WellFormed.modifyNode {document : Document} (h : document.WellFormed) {id : String}
    {change : Node → Node} {edges : List Edge} (hid : ∀ node, (change node).id = node.id)
    (hordinal : ∀ node, (change node).ordinal = node.ordinal)
    (hbound : ∀ node, node.Bound → (change node).Bound) (hedges : edges.Sublist document.edges)
    (hsource : ∀ edge ∈ edges, edge.source = id → ∀ node : Node,
      edge.sourcePort ∈ node.schema.outputNames →
        edge.sourcePort ∈ (change node).schema.outputNames)
    (htarget : ∀ edge ∈ edges, edge.target = id → ∀ node : Node,
      edge.targetPort ∈ node.schema.inputNames →
        edge.targetPort ∈ (change node).schema.inputNames) :
    { document.modifyNode id change with edges }.WellFormed where
  ids := (congrArg List.Nodup (map_modifyFirst hid document.nodes)).mpr h.ids
  ordinals := (congrArg List.Nodup (map_modifyFirst hordinal document.nodes)).mpr h.ordinals
  below := forall_modifyNode_nodes h.ids id h.below fun node hlt => (hordinal node).symm ▸ hlt
  bound := forall_modifyNode_nodes h.ids id h.bound hbound
  sources edge hedge :=
    (h.sources edge (hedges.subset hedge)).modifyNode h.ids hid (hsource edge hedge)
  targets edge hedge :=
    (h.targets edge (hedges.subset hedge)).modifyNode h.ids hid (htarget edge hedge)
  inputs := h.inputs.sublist (hedges.map _)

/-- A change of the values of a node keeps a document well-formed. -/
theorem WellFormed.updateValues {document edited : Document} (h : document.WellFormed) {id : String}
    {change : Node → Values}
    (hok : document.updateNode id (fun node => { node with values := change node }) = .ok edited) :
    edited.WellFormed := by
  unfold updateNode at hok
  split at hok
  · obtain rfl := Except.ok.inj hok
    exact h.modifyNode (fun _ => rfl) (fun _ => rfl) (fun _ hb => hb)
      (List.Sublist.refl document.edges) (fun _ _ _ _ hp => hp) (fun _ _ _ _ hp => hp)
  · contradiction

/-- The edges that an assignment leaves end at ports of the new schema. -/
theorem WellFormed.assign {document : Document} (h : document.WellFormed) {id : String}
    {schema : Schema} {edited : Document × SchemaChange}
    (hok : document.assign id schema = .ok edited) : edited.1.WellFormed := by
  unfold Document.assign at hok
  split at hok
  · contradiction
  · obtain rfl := Except.ok.inj hok
    refine h.modifyNode (fun node => by simp [Node.withSchema])
      (fun node => by simp [Node.withSchema]) (fun node hb => hb.withSchema schema)
      List.filter_sublist ?_ ?_
    · intro edge hedge hsame node _
      have hkept : orphaned id schema edge = false := by simpa using (List.mem_filter.mp hedge).2
      simp only [orphaned, Bool.or_eq_false_iff] at hkept
      simpa [Node.withSchema, hsame] using hkept.2
    · intro edge hedge hsame node _
      have hkept : orphaned id schema edge = false := by simpa using (List.mem_filter.mp hedge).2
      simp only [orphaned, Bool.or_eq_false_iff] at hkept
      simpa [Node.withSchema, hsame] using hkept.1

/-- Without a node, the edges that do not touch it still have both of their ends. -/
theorem WellFormed.delete {document : Document} (h : document.WellFormed) {id : String}
    {edited : Document × Removal} (hok : document.delete id = .ok edited) :
    edited.1.WellFormed := by
  unfold Document.delete at hok
  split at hok
  · contradiction
  · obtain rfl := Except.ok.inj hok
    have hsub : (document.nodes.eraseP fun node => node.id == id).Sublist document.nodes :=
      List.eraseP_sublist
    have hkeep {node : Node} (hnode : node ∈ document.nodes) (hne : node.id ≠ id) :
        node ∈ document.nodes.eraseP fun node => node.id == id :=
      (List.mem_eraseP_of_neg (by simpa using hne)).mpr hnode
    refine ⟨h.ids.sublist (hsub.map _), h.ordinals.sublist (hsub.map _),
      fun node hnode => h.below node (hsub.subset hnode),
      fun node hnode => h.bound node (hsub.subset hnode), ?_, ?_,
      h.inputs.sublist (List.filter_sublist.map _)⟩
    · intro edge hedge
      obtain ⟨hmem, huntouched⟩ := List.mem_filter.mp hedge
      simp only [Edge.touches, Bool.not_eq_true', Bool.or_eq_false_iff, beq_eq_false_iff_ne]
        at huntouched
      obtain ⟨node, hnode, hsame, hport⟩ := h.sources edge hmem
      exact ⟨node, hkeep hnode (hsame ▸ huntouched.1), hsame, hport⟩
    · intro edge hedge
      obtain ⟨hmem, huntouched⟩ := List.mem_filter.mp hedge
      simp only [Edge.touches, Bool.not_eq_true', Bool.or_eq_false_iff, beq_eq_false_iff_ne]
        at huntouched
      obtain ⟨node, hnode, hsame, hport⟩ := h.targets edge hmem
      exact ⟨node, hkeep hnode (hsame ▸ huntouched.2), hsame, hport⟩

/-! ## Edges -/

/-- An edge is accepted only if it joins declared ports and enters an input that is still free. -/
theorem connectFault?_eq_none {document : Document} {source sourcePort target targetPort : String}
    (h : document.connectFault? source sourcePort target targetPort = none) :
    document.Declares Schema.outputNames source sourcePort ∧
      document.Declares Schema.inputNames target targetPort ∧
      document.edgeInto? target targetPort = none := by
  unfold connectFault? at h
  split at h
  · contradiction
  · next sourceNode hsource =>
    split at h
    · contradiction
    · next hout =>
      split at h
      · contradiction
      · next targetNode htarget =>
        split at h
        · contradiction
        · next hin =>
          split at h
          · contradiction
          · next hfree =>
            refine ⟨⟨sourceNode, mem_of_node?_eq_some hsource, id_eq_of_node?_eq_some hsource, ?_⟩,
              ⟨targetNode, mem_of_node?_eq_some htarget, id_eq_of_node?_eq_some htarget, ?_⟩, ?_⟩
            · exact (Schema.isSome_output?_iff _ _).mp
                (Option.isSome_iff_ne_none.mpr (by simpa using hout))
            · exact (Schema.isSome_input?_iff _ _).mp
                (Option.isSome_iff_ne_none.mpr (by simpa using hin))
            · simpa using hfree

/-- An edge without a fault keeps a document well formed. -/
theorem WellFormed.connect {document edited : Document} (h : document.WellFormed) {edge : Edge}
    (hok : document.connect edge = .ok edited) : edited.WellFormed := by
  unfold Document.connect at hok
  split at hok
  · contradiction
  · next hfault =>
    obtain rfl := Except.ok.inj hok
    obtain ⟨hsource, htarget, hfree⟩ := connectFault?_eq_none hfault
    refine ⟨h.ids, h.ordinals, h.below, h.bound, ?_, ?_, ?_⟩
    · intro other hother
      rcases List.mem_append.mp hother with hother | hother
      · exact h.sources other hother
      · exact List.mem_singleton.mp hother ▸ hsource
    · intro other hother
      rcases List.mem_append.mp hother with hother | hother
      · exact h.targets other hother
      · exact List.mem_singleton.mp hother ▸ htarget
    · simp only [List.map_append, List.map_cons, List.map_nil]
      refine List.nodup_append.mpr ⟨h.inputs, List.nodup_singleton _, ?_⟩
      intro a ha b hb hab
      obtain rfl := List.mem_singleton.mp hb
      obtain ⟨other, hother, rfl⟩ := List.mem_map.mp ha
      have hnot := List.find?_eq_none.mp hfree other hother
      simp only [Prod.mk.injEq] at hab
      simp [hab.1, hab.2] at hnot

/-- A document stays well formed without one of its edges. -/
theorem WellFormed.disconnect {document : Document} (h : document.WellFormed) {id : String}
    {edited : Document × Edge} (hok : document.disconnect id = .ok edited) :
    edited.1.WellFormed := by
  unfold Document.disconnect at hok
  split at hok
  · contradiction
  · obtain rfl := Except.ok.inj hok
    have hsub : (document.edges.eraseP fun edge => edge.id == id).Sublist document.edges :=
      List.eraseP_sublist
    exact { h with
      sources := fun edge hedge => h.sources edge (hsub.subset hedge)
      targets := fun edge hedge => h.targets edge (hsub.subset hedge)
      inputs := h.inputs.sublist (hsub.map _) }

/-! ## Normal form -/

theorem nextAfter_le {ordinal next : UInt32} (h : ordinal < next) : nextAfter ordinal ≤ next := by
  unfold nextAfter
  split
  · next hlast => exact hlast ▸ UInt32.le_of_lt h
  · next hne =>
    rw [UInt32.lt_iff_toNat_lt] at h
    rw [UInt32.le_iff_toNat_le, toNat_succ_of_ne_last hne]
    omega

/-- The counter is behind the highest number if it is behind all numbers. -/
theorem pastHighest_le {document : Document} {next : UInt32}
    (h : ∀ node ∈ document.nodes, nextAfter node.ordinal ≤ next) : document.pastHighest ≤ next := by
  have hfold (nodes : List Node) (highest : UInt32) (hhighest : highest ≤ next)
      (hnodes : ∀ node ∈ nodes, nextAfter node.ordinal ≤ next) :
      nodes.foldl (fun highest node =>
        if highest ≤ nextAfter node.ordinal then nextAfter node.ordinal else highest) highest ≤
        next := by
    induction nodes generalizing highest with
    | nil => exact hhighest
    | cons node rest ih =>
      refine ih _ ?_ fun other hother => hnodes other (List.mem_cons_of_mem _ hother)
      beta_reduce
      split
      · exact hnodes node List.mem_cons_self
      · exact hhighest
  exact hfold document.nodes 0 UInt32.zero_le h

/-- The counter does not go back to an earlier number. -/
theorem advance_eq_self {document : Document} {next : UInt32} (h : next ≤ document.nextOrdinal) :
    document.advance next = document := by
  unfold advance
  split
  · next hle => rw [UInt32.le_antisymm h hle]
  · rfl

/-- Numbers that are pairwise different are all kept. -/
theorem Renumbering.ofNodes_eq_self {nodes : List Node} (seen : List UInt32) (next : UInt32)
    (hseen : ∀ node ∈ nodes, node.ordinal ∉ seen) (hnodup : (nodes.map Node.ordinal).Nodup) :
    Renumbering.ofNodes seen next nodes = ⟨nodes, next, 0, false⟩ := by
  induction nodes generalizing seen with
  | nil => rfl
  | cons node rest ih =>
    obtain ⟨hfirst, hrest⟩ := List.nodup_cons.mp hnodup
    have hnew : seen.contains node.ordinal = false := by
      simpa using hseen node List.mem_cons_self
    have hlater : ∀ other ∈ rest, other.ordinal ∉ node.ordinal :: seen := by
      intro other hother hmem
      rcases List.mem_cons.mp hmem with heq | hmem
      · exact hfirst (heq ▸ List.mem_map_of_mem hother)
      · exact hseen other (List.mem_cons_of_mem _ hother) hmem
    rw [Renumbering.ofNodes, hnew, ih _ hlater hrest]
    rfl

/-- A document is normal if its counter is behind its numbers, these are pairwise different, and
variables belong to the outputs of their nodes. -/
theorem normalize_eq_self {document : Document}
    (hcounter : document.pastHighest ≤ document.nextOrdinal)
    (hordinals : (document.nodes.map Node.ordinal).Nodup)
    (hbound : ∀ node ∈ document.nodes, node.isBound = true) :
    document.normalize = (document, .ok 0) := by
  have hadvance : document.advance document.pastHighest = document := advance_eq_self hcounter
  have hnumbers := Renumbering.ofNodes_eq_self [] document.nextOrdinal
    (fun _ _ => List.not_mem_nil) hordinals
  have hbindings : document.nodes.map Node.ensureBound = document.nodes := by
    conv_rhs => rw [← List.map_id document.nodes]
    exact List.map_congr_left fun node hnode => if_pos (hbound node hnode)
  have hcount : document.nodes.countP (fun node => !node.isBound) = 0 := by
    rw [List.countP_eq_zero]
    intro node hnode
    simp [hbound node hnode]
  simp [normalize, hadvance, hnumbers, hbindings, hcount]

/-- A well-formed document is normal already. -/
theorem WellFormed.normalize_eq {document : Document} (h : document.WellFormed) :
    document.normalize = (document, .ok 0) := by
  have hcounter : document.pastHighest ≤ document.nextOrdinal :=
    pastHighest_le fun node hnode => nextAfter_le (h.below node hnode)
  exact normalize_eq_self hcounter h.ordinals fun node hnode => (h.bound node hnode).isBound

/-! ## Runs -/

/-- An edit, successful or not, keeps a document well-formed. -/
theorem WellFormed.after {document : Document} (h : document.WellFormed) {edit : Edit}
    (hfresh : edit.Fresh document) : (document.after edit).WellFormed := by
  have hfst {α : Type} {attempt : Except Error (Document × α)}
      (hok : ∀ edited, attempt = .ok edited → edited.1.WellFormed) :
      (document.keeping (attempt.map Prod.fst)).WellFormed := by
    refine h.keeping fun edited hedited => ?_
    cases attempt with
    | error cause => contradiction
    | ok found =>
      obtain rfl := Except.ok.inj hedited
      exact hok found rfl
  cases edit with
  | insertGenerated id schema => exact h.keeping fun _ hok => h.insertNew (hfresh id rfl) hok
  | insert id schema => exact h.keeping fun _ hok => h.insert hok
  | setValue id name value => exact h.keeping fun _ hok => h.updateValues hok
  | setValues id values => exact h.keeping fun _ hok => h.updateValues hok
  | assign id schema => exact hfst fun _ hok => h.assign hok
  | connect edge => exact h.keeping fun _ hok => h.connect hok
  | disconnect id => exact hfst fun _ hok => h.disconnect hok
  | delete id => exact hfst fun _ hok => h.delete hok
  | allocate =>
    refine hfst fun edited hok => ?_
    obtain ⟨-, hlt, hcounted⟩ := allocate_eq_ok hok
    exact hcounted ▸ h.withCounter (UInt32.le_of_lt hlt)
  | advance next => exact h.advance next
  | normalize =>
    change document.normalize.1.WellFormed
    rw [h.normalize_eq]
    exact h

/-- Every document that comes from an empty one by edits is well-formed. -/
theorem Reachable.wellFormed {document : Document} (h : Reachable document) :
    document.WellFormed := by
  induction h with
  | empty id name => exact wellFormed_empty id name
  | edit _ hfresh ih => exact ih.after hfresh

/-- A new node takes the number of the counter, which moves on. -/
theorem lt_nextOrdinal_insertNew {document edited : Document} {id : String} {schema : Schema}
    (h : document.insertNew id schema = .ok edited) :
    document.nextOrdinal < edited.nextOrdinal := by
  unfold insertNew at h
  split at h
  · contradiction
  · next counted ordinal hcount =>
    obtain ⟨-, hlt, rfl⟩ := allocate_eq_ok hcount
    obtain rfl := Except.ok.inj h
    exact hlt

/-- An update gives out no number. -/
theorem nextOrdinal_updateNode {document edited : Document} {id : String} {change : Node → Node}
    (h : document.updateNode id change = .ok edited) :
    edited.nextOrdinal = document.nextOrdinal := by
  unfold updateNode at h
  split at h
  · obtain rfl := Except.ok.inj h
    rfl
  · contradiction

/-- No edit moves the counter of a well-formed document back. -/
theorem WellFormed.le_nextOrdinal_after {document : Document} (h : document.WellFormed)
    (edit : Edit) : document.nextOrdinal ≤ (document.after edit).nextOrdinal := by
  have hkeeping {attempt : Except Error Document}
      (hok : ∀ edited, attempt = .ok edited → document.nextOrdinal ≤ edited.nextOrdinal) :
      document.nextOrdinal ≤ (document.keeping attempt).nextOrdinal := by
    cases attempt with
    | error cause => exact UInt32.le_refl _
    | ok edited => exact hok edited rfl
  cases edit with
  | insertGenerated id schema =>
    exact hkeeping fun _ hok => UInt32.le_of_lt (lt_nextOrdinal_insertNew hok)
  | insert id schema =>
    refine hkeeping fun edited hok => ?_
    unfold Document.insert at hok
    split at hok
    · contradiction
    · exact UInt32.le_of_lt (lt_nextOrdinal_insertNew hok)
  | setValue id name value =>
    exact hkeeping fun _ hok => UInt32.le_of_eq (nextOrdinal_updateNode hok).symm
  | setValues id values =>
    exact hkeeping fun _ hok => UInt32.le_of_eq (nextOrdinal_updateNode hok).symm
  | assign id schema =>
    rw [Document.after, Document.assign]
    split <;> exact UInt32.le_refl _
  | connect edge =>
    rw [Document.after, Document.connect]
    split <;> exact UInt32.le_refl _
  | disconnect id =>
    rw [Document.after, Document.disconnect]
    split <;> exact UInt32.le_refl _
  | delete id =>
    rw [Document.after, Document.delete]
    split <;> exact UInt32.le_refl _
  | allocate =>
    cases hcount : document.allocate with
    | error cause =>
      rw [Document.after, hcount]
      exact UInt32.le_refl _
    | ok counted =>
      obtain ⟨-, hlt, hcounted⟩ := allocate_eq_ok hcount
      rw [Document.after, hcount]
      change document.nextOrdinal ≤ counted.1.nextOrdinal
      rw [hcounted]
      exact UInt32.le_of_lt hlt
  | advance next => exact le_advance document next
  | normalize =>
    change document.nextOrdinal ≤ document.normalize.1.nextOrdinal
    rw [h.normalize_eq]
    exact UInt32.le_refl _

/-- The counter of a document that began empty has not gone back. -/
theorem Reachable.firstOrdinal_le {document : Document} (h : Reachable document) :
    firstOrdinal ≤ document.nextOrdinal := by
  induction h with
  | empty id name => exact UInt32.le_refl _
  | edit hbefore hfresh ih => exact UInt32.le_trans ih (hbefore.wellFormed.le_nextOrdinal_after _)

/-- Whatever edits were tried on a document that began empty, its ids, numbers, variables and edges
fit together, no node has the last number, and its variables are pairwise different identifiers. -/
theorem Reachable.consistent {document : Document} (h : Reachable document) :
    document.WellFormed ∧ (∀ node ∈ document.nodes, node.ordinal ≠ lastOrdinal) ∧
      document.variableNames.Nodup ∧
      ∀ name ∈ document.variableNames, Text.isIdentifier name = true := by
  refine ⟨h.wellFormed, ?_, h.wellFormed.nodup_variableNames, ?_⟩
  · intro node hnode hlast
    have hbelow := h.wellFormed.below node hnode
    rw [hlast, UInt32.lt_iff_toNat_lt] at hbelow
    have hvalue : lastOrdinal.toNat = 4294967295 := rfl
    have hlt := document.nextOrdinal.toNat_lt
    omega
  · exact fun name hname => h.wellFormed.isIdentifier_of_mem_variableNames hname

/-- A call with some outputs and one input. -/
def sampleSchema (outputs : List String) : Schema :=
  { Schema.unassigned with
    inputs := [Port.needed "data" "frame"]
    outputs := outputs.map fun name => Port.optional name "frame"
    template := .call "f" }

/-- Edits that give two outputs one cleaned name, connect both nodes, try a second edge into one
input, take an output away together with its edge, and delete a node. -/
def sampleEdits : List Edit :=
  [.insert "a" (sampleSchema ["x y", "x_y"]), .insertGenerated "b" (sampleSchema ["x_y"]),
    .connect ⟨"1", "a", "x_y", "b", "data"⟩, .connect ⟨"2", "b", "x_y", "b", "data"⟩,
    .insert "c" (sampleSchema []), .connect ⟨"3", "a", "x y", "c", "data"⟩,
    .assign "a" (sampleSchema ["x_y", "result"]), .insert "d" (sampleSchema ["x_y"]), .delete "d",
    .normalize]

/-- A document after those edits. -/
def sampleDocument : Document := sampleEdits.foldl Document.after (.empty "p" "Pipeline")

theorem reachable_sampleDocument : Reachable sampleDocument :=
  Reachable.run (.empty "p" "Pipeline") (by decide)

/-- The sample document has an edge between nodes with variables of their own. -/
theorem consistent_sampleDocument :
    Reachable sampleDocument ∧ sampleDocument.nodeIds = ["a", "b", "c"] ∧
      sampleDocument.edges = [⟨"1", "a", "x_y", "b", "data"⟩] ∧ sampleDocument.WellFormed ∧
      (∀ node ∈ sampleDocument.nodes, node.ordinal ≠ lastOrdinal) ∧
      sampleDocument.variableNames.Nodup ∧
      ∀ name ∈ sampleDocument.variableNames, Text.isIdentifier name = true :=
  ⟨reachable_sampleDocument, by rfl, by rfl, reachable_sampleDocument.consistent⟩

end Document

end Dataflow
