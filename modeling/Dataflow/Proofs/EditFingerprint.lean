import Dataflow.Proofs.Commands
import Dataflow.Proofs.CompactText
import Dataflow.Proofs.Fingerprint

/-!
# Fingerprints after one edit

A fingerprint does not show where a node ends and where the edges begin, so documents that differ
can share one. A single edit cannot make such a pair. Every node adds two texts and two more for
each value, and every edge adds four. A new node or a new edge makes the fingerprint longer. What is
deleted or disconnected, or dropped because of another schema, makes it shorter. If the length stays
or only the values of one node are set, then the texts of all other nodes and of the edges stay in
their places, and the texts between them tell the outline of the node.
-/

namespace Dataflow

namespace Document

variable {document other edited : Document} {id : String} {schema : Schema}

/-! ## What a fingerprint depends on -/

/-- Nothing but outlines and routes is in a fingerprint. -/
theorem fingerprint_eq_of_outlines
    (hnodes : document.nodes.map Node.outline = other.nodes.map Node.outline)
    (hedges : document.edges.map Edge.route = other.edges.map Edge.route) :
    document.fingerprint = other.fingerprint := by
  have hnodeTexts : document.nodes.map nodeFingerprint = other.nodes.map nodeFingerprint := by
    refine map_eq_map_of_keys hnodes fun node _ old _ hsame => ?_
    simp only [Node.outline, Prod.mk.injEq] at hsame
    rw [nodeFingerprint, nodeFingerprint, hsame.1, hsame.2.1, hsame.2.2]
  have hedgeTexts : document.edges.map edgeFingerprint = other.edges.map edgeFingerprint := by
    refine map_eq_map_of_keys hedges fun edge _ old _ hsame => ?_
    simp only [Edge.route, Edge.mk.injEq, true_and] at hsame
    rw [edgeFingerprint, edgeFingerprint, hsame.1, hsame.2.1, hsame.2.2.1, hsame.2.2.2]
  rw [fingerprint, fingerprint, List.flatMap_def, List.flatMap_def, List.flatMap_def,
    List.flatMap_def, hnodeTexts, hedgeTexts]

/-- The texts of a node tell its outline. -/
theorem outline_eq_of_nodeFingerprint_eq {node old : Node}
    (h : nodeFingerprint node = nodeFingerprint old) : node.outline = old.outline := by
  -- nothing follows the values, so no id has to be told from their names
  have hlegible : Legible [] (node.values.entries ++ old.values.entries) :=
    ⟨fun _ _ => List.not_mem_nil, fun _ _ _ _ _ htext => Json.compact_injective htext⟩
  simp only [nodeFingerprint, List.cons.injEq] at h
  obtain ⟨hid, hschema, htexts⟩ := h
  rw [← List.append_nil (List.flatMap _ node.values.entries),
    ← List.append_nil (List.flatMap _ old.values.entries)] at htexts
  obtain ⟨hentries, -⟩ := hlegible.read_values (fun _ => List.mem_append_left _)
    (fun _ => List.mem_append_right _) (by simp) (by simp) htexts
  have hvalues : node.values = old.values := by
    rw [← Dictionary.ofList_entries node.values, hentries, Dictionary.ofList_entries]
  rw [Node.outline, Node.outline, hid, hschema, hvalues]

/-! ## Counting texts -/

theorem length_flatMap_of_const {α : Type} {texts : α → List String} {count : Nat}
    (h : ∀ item, (texts item).length = count) (items : List α) :
    (items.flatMap texts).length = count * items.length := by
  induction items with
  | nil => rfl
  | cons item rest ih =>
    rw [List.flatMap_cons, List.length_append, h, ih, List.length_cons, Nat.mul_succ, Nat.add_comm]

/-- A node gives its id and its algorithm, and two texts for every value. -/
theorem length_nodeFingerprint (node : Node) :
    (nodeFingerprint node).length = 2 + 2 * node.values.size := by
  have hvalues : (node.values.entries.flatMap fun entry => [entry.1, entry.2.compact]).length =
      2 * node.values.size := length_flatMap_of_const (by intro _; rfl) _
  rw [nodeFingerprint, List.length_cons, List.length_cons, hvalues]
  omega

/-- An edge gives four texts, whatever it connects. -/
theorem length_fingerprint (document : Document) :
    document.fingerprint.length =
      (document.nodes.flatMap nodeFingerprint).length + 4 * document.edges.length := by
  have hedges : (document.edges.flatMap edgeFingerprint).length = 4 * document.edges.length :=
    length_flatMap_of_const (by intro _; rfl) _
  rw [fingerprint, List.length_append, hedges]

/-- A new node makes the fingerprint longer. -/
theorem length_insertNew (h : document.insertNew id schema = .ok edited) :
    document.fingerprint.length < edited.fingerprint.length := by
  obtain rfl := insertNew_eq_ok h
  simp only [length_fingerprint, List.flatMap_append, List.length_append, List.flatMap_singleton,
    length_nodeFingerprint]
  omega

/-- A new edge makes the fingerprint longer. -/
theorem length_connect {edge : Edge} (h : document.connect edge = .ok edited) :
    document.fingerprint.length < edited.fingerprint.length := by
  obtain rfl := connect_eq_ok h
  simp only [length_fingerprint, List.length_append, List.length_singleton]
  omega

/-- Without an edge the fingerprint is shorter. -/
theorem length_disconnect {edge : Edge} (h : document.disconnect id = .ok (edited, edge)) :
    edited.fingerprint.length < document.fingerprint.length := by
  obtain ⟨hfound, rfl⟩ := disconnect_eq_ok h
  have hone :=
    List.length_eraseP_add_one (List.mem_of_find?_eq_some hfound) (List.find?_some hfound)
  simp only [length_fingerprint]
  omega

/-- Without a node the fingerprint is shorter. -/
theorem length_delete {removal : Removal} (h : document.delete id = .ok (edited, removal)) :
    edited.fingerprint.length < document.fingerprint.length := by
  obtain ⟨hnode, -⟩ := removal_eq_of_delete h
  obtain ⟨rfl, -, -⟩ := delete_eq_ok h
  obtain ⟨node, before, after, -, -, hnodes, hleft⟩ :=
    List.exists_of_eraseP (List.mem_of_find?_eq_some hnode) (List.find?_some hnode)
  have hedges := List.length_filter_le (fun edge => !edge.touches id) document.edges
  simp only [length_fingerprint, hleft]
  rw [hnodes]
  simp only [List.flatMap_append, List.flatMap_cons, List.length_append, length_nodeFingerprint]
  omega

/-! ## Texts in their places -/

section ModifyFirst

variable {test : Node → Bool} {change : Node → Node} {nodes : List Node}

/-- Where a change of a node leaves all texts as they are, it leaves all outlines. -/
theorem outlines_modifyFirst
    (h : (modifyFirst test change nodes).flatMap nodeFingerprint =
      nodes.flatMap nodeFingerprint) :
    (modifyFirst test change nodes).map Node.outline = nodes.map Node.outline := by
  induction nodes with
  | nil => rfl
  | cons node rest ih =>
    by_cases htest : test node = true
    · rw [modifyFirst, if_pos htest] at h ⊢
      rw [List.flatMap_cons, List.flatMap_cons] at h
      rw [List.map_cons, List.map_cons,
        outline_eq_of_nodeFingerprint_eq (List.append_cancel_right h)]
    · rw [modifyFirst, if_neg htest] at h ⊢
      rw [List.flatMap_cons, List.flatMap_cons] at h
      rw [List.map_cons, List.map_cons, ih (List.append_cancel_left h)]

/-- A node that keeps no more values than it had brings no more texts. -/
theorem length_modifyFirst_le
    (hchange : ∀ node, (change node).values.size ≤ node.values.size) (nodes : List Node) :
    ((modifyFirst test change nodes).flatMap nodeFingerprint).length ≤
      (nodes.flatMap nodeFingerprint).length := by
  induction nodes with
  | nil => exact Nat.le_refl _
  | cons node rest ih =>
    by_cases htest : test node = true
    · rw [modifyFirst, if_pos htest]
      simp only [List.flatMap_cons, List.length_append, length_nodeFingerprint]
      have := hchange node
      omega
    · rw [modifyFirst, if_neg htest]
      simp only [List.flatMap_cons, List.length_append]
      omega

end ModifyFirst

/-- Nodes and edges are as they were, as far as a fingerprint looks. -/
def SameOutlines (edited document : Document) : Prop :=
  edited.nodes.map Node.outline = document.nodes.map Node.outline ∧
    edited.edges.map Edge.route = document.edges.map Edge.route

/-- If only one node was changed, the texts of the edges stand at the same distance from the end. -/
theorem SameOutlines.of_updateNode {change : Node → Node}
    (h : document.updateNode id change = .ok edited)
    (hsame : edited.fingerprint = document.fingerprint) : edited.SameOutlines document := by
  obtain rfl := updateNode_eq_ok h
  exact ⟨outlines_modifyFirst (List.append_cancel_right hsame), rfl⟩

/-- Another schema takes values and edges away and adds none. If the number of texts is the same,
then no edge is gone, and what is left of the texts are those of the nodes. -/
theorem SameOutlines.of_assign {change : SchemaChange}
    (h : document.assign id schema = .ok (edited, change))
    (hsame : edited.fingerprint = document.fingerprint) : edited.SameOutlines document := by
  obtain ⟨rfl, -⟩ := assign_eq_ok h
  have hvalues (node : Node) :
      (node.withSchema schema).ensureBound.values.size ≤ node.values.size := by
    rw [Node.ensureBound_values]
    exact List.length_filter_le _ _
  have hnodes : ((document.modifyNode id fun node =>
      (node.withSchema schema).ensureBound).nodes.flatMap nodeFingerprint).length ≤
      (document.nodes.flatMap nodeFingerprint).length :=
    length_modifyFirst_le hvalues document.nodes
  have hfew := List.length_filter_le (fun edge => !orphaned id schema edge) document.edges
  -- neither part has more texts than before, so neither has fewer
  have hcount := congrArg List.length hsame
  simp only [length_fingerprint] at hcount
  have hedges : (document.edges.filter fun edge => !orphaned id schema edge) = document.edges :=
    List.filter_sublist.eq_of_length (by omega)
  simp only [fingerprint, hedges] at hsame
  exact ⟨outlines_modifyFirst (List.append_cancel_right hsame), by rw [hedges]⟩

/-- Making a document normal changes nothing that a fingerprint looks at. -/
theorem SameOutlines.of_normalize (document : Document) :
    document.normalize.1.SameOutlines document := by
  refine ⟨?_, by rw [edges_normalize]⟩
  have houtline (node : Node) : node.ensureBound.outline = node.outline := by simp [Node.outline]
  have houtlines := map_nodes_ofNodes Node.outline (fun _ _ => rfl) []
    (document.advance document.pastHighest).nextOrdinal document.nodes
  unfold normalize
  dsimp only
  split
  · exact houtlines
  · simpa [Function.comp_def, houtline] using houtlines

/-- After one edit, a fingerprint that is the same stands for the same outlines and routes. -/
theorem SameOutlines.of_tryEdit {edit : Edit} {stale : List String}
    (h : document.tryEdit edit = .ok (edited, stale))
    (hsame : edited.fingerprint = document.fingerprint) : edited.SameOutlines document := by
  have hcount := congrArg List.length hsame
  cases edit with
  | insertGenerated id schema => exact absurd hcount (length_insertNew (eq_ok_of_map_eq_ok h)).ne'
  | insert id schema =>
    obtain ⟨-, hmade⟩ := insert_eq_ok (eq_ok_of_map_eq_ok h)
    exact absurd hcount (length_insertNew hmade).ne'
  | setValue id name value => exact .of_updateNode (eq_ok_of_map_eq_ok h) hsame
  | setValues id values => exact .of_updateNode (eq_ok_of_map_eq_ok h) hsame
  | assign id schema =>
    obtain ⟨⟨_, change⟩, hmade, heq⟩ := exists_of_map_eq_ok h
    obtain ⟨rfl, rfl⟩ := Prod.mk.inj heq
    exact .of_assign hmade hsame
  | connect edge => exact absurd hcount (length_connect (eq_ok_of_map_eq_ok h)).ne'
  | disconnect id =>
    obtain ⟨⟨_, removed⟩, hmade, heq⟩ := exists_of_map_eq_ok h
    obtain ⟨rfl, rfl⟩ := Prod.mk.inj heq
    exact absurd hcount (length_disconnect hmade).ne
  | delete id =>
    obtain ⟨⟨_, removal⟩, hmade, heq⟩ := exists_of_map_eq_ok h
    obtain ⟨rfl, rfl⟩ := Prod.mk.inj heq
    exact absurd hcount (length_delete hmade).ne
  | allocate =>
    obtain ⟨⟨_, ordinal⟩, hmade, heq⟩ := exists_of_map_eq_ok h
    obtain ⟨rfl, rfl⟩ := Prod.mk.inj heq
    obtain ⟨-, -, rfl⟩ := allocate_eq_ok hmade
    exact ⟨rfl, rfl⟩
  | advance next =>
    obtain ⟨rfl, rfl⟩ := Prod.mk.inj (Except.ok.inj h)
    exact ⟨rfl, rfl⟩
  | normalize =>
    obtain ⟨rfl, rfl⟩ := Prod.mk.inj (Except.ok.inj h)
    exact .of_normalize document

/-- An edit that succeeds changes the fingerprint just when it changes the ids, algorithms and
values of the nodes or the ends and ports of the edges. Whatever else of a document is changed, in
one edit or in many, its fingerprint stays. -/
theorem fingerprint_tryEdit_ne_iff {edit : Edit} {stale : List String}
    (h : document.tryEdit edit = .ok (edited, stale)) :
    (edited.fingerprint ≠ document.fingerprint ↔
      edited.nodes.map Node.outline ≠ document.nodes.map Node.outline ∨
        edited.edges.map Edge.route ≠ document.edges.map Edge.route) ∧
      ∀ other : Document, other.nodes.map Node.outline = document.nodes.map Node.outline →
        other.edges.map Edge.route = document.edges.map Edge.route →
          other.fingerprint = document.fingerprint := by
  refine ⟨?_, fun other => fingerprint_eq_of_outlines⟩
  rw [ne_eq, ne_eq, ne_eq, ← not_and_or, not_iff_not]
  exact ⟨SameOutlines.of_tryEdit h, fun hsame => fingerprint_eq_of_outlines hsame.1 hsame.2⟩

/-- A document with one edge, from a node with a value. -/
def sampleWired : Document :=
  [Edit.insert "a" (sampleSchema ["x"]), .setValue "a" "rows" (.int 3),
    .insert "b" (sampleSchema []), .connect ⟨"1", "a", "x", "b", "data"⟩].foldl after
      (.empty "p" "Pipeline")

/-- Another schema takes the value and the edge away together. Another id of the edge and another
counter do not count. -/
theorem fingerprint_tryEdit_ne_iff_sampleWired :
    sampleWired.tryEdit (.assign "a" (sampleSchema ["y"])) =
        .ok (sampleWired.after (.assign "a" (sampleSchema ["y"])), ["a", "b"]) ∧
      (sampleWired.after (.assign "a" (sampleSchema ["y"]))).fingerprint ≠
        sampleWired.fingerprint ∧
      { sampleWired with
        edges := [⟨"2", "a", "x", "b", "data"⟩], nextOrdinal := 9 }.fingerprint =
          sampleWired.fingerprint := by
  have htried : sampleWired.tryEdit (.assign "a" (sampleSchema ["y"])) =
      .ok (sampleWired.after (.assign "a" (sampleSchema ["y"])), ["a", "b"]) := by rfl
  obtain ⟨hchanged, hkept⟩ := fingerprint_tryEdit_ne_iff htried
  exact ⟨htried, hchanged.mpr (.inr (by decide)), hkept _ rfl (by decide)⟩

end Document

end Dataflow
