import Dataflow.Proofs.Confluence
import Dataflow.Proofs.Editing

/-!
# Reading a fingerprint

A fingerprint is one list of texts, in which nothing marks where a node ends and where the edges
begin. It can be read back if no value has the name of a node: behind the two texts of a node come
pairs of texts until one of them begins with the id of a node. If that id is new, the next node
begins there, and otherwise it is the source of the first edge. So documents with the same
fingerprint have the same nodes, values and edges, up to what their schemas say besides their ids.
-/

namespace Dataflow

/-- What a fingerprint tells of a node. -/
def Node.outline (node : Node) : String × String × Values :=
  (node.id, node.schema.id, node.values)

/-- No value has the name of a node, and values of one name with the same text are the same. -/
structure Legible (ids : List String) (settings : List (String × Json)) : Prop where
  /-- No value has the name of a node. -/
  names : ∀ setting ∈ settings, setting.1 ∉ ids
  /-- The text of a value tells which it is. -/
  texts : ∀ first ∈ settings, ∀ second ∈ settings, first.1 = second.1 →
    first.2.compact = second.2.compact → first.2 = second.2

/-- What is left to read of a document when some of its nodes have been seen. -/
structure Unread (ids : List String) (settings : List (String × Json)) (seen : List String)
    (nodes : List Node) (edges : List Edge) : Prop where
  /-- No id comes twice. -/
  distinct : (seen ++ nodes.map Node.id).Nodup
  /-- All ids are among the given ones. -/
  known : ∀ id ∈ seen ++ nodes.map Node.id, id ∈ ids
  /-- All values are among the given ones. -/
  values : ∀ node ∈ nodes, ∀ entry ∈ node.values.entries, entry ∈ settings
  /-- Edges leave nodes. -/
  sources : ∀ edge ∈ edges, edge.source ∈ seen ++ nodes.map Node.id

section Reading

variable {ids : List String} {settings : List (String × Json)} {seen : List String}
  {nodes others : List Node} {edges ways : List Edge}

/-- Values are read until an id comes. -/
theorem Legible.read_values (hlegible : Legible ids settings) {first second : List (String × Json)}
    {rest tail : List String} (hfirst : ∀ entry ∈ first, entry ∈ settings)
    (hsecond : ∀ entry ∈ second, entry ∈ settings) (hrest : ∀ text ∈ rest.head?, text ∈ ids)
    (htail : ∀ text ∈ tail.head?, text ∈ ids)
    (h : first.flatMap (fun entry => [entry.1, entry.2.compact]) ++ rest =
      second.flatMap (fun entry => [entry.1, entry.2.compact]) ++ tail) :
    first = second ∧ rest = tail := by
  induction first generalizing second with
  | nil =>
    cases second with
    | nil => exact ⟨rfl, h⟩
    | cons entry second =>
      have hid : entry.1 ∈ ids := hrest entry.1 (by simp [show rest = _ from h])
      exact absurd hid (hlegible.names entry (hsecond entry List.mem_cons_self))
  | cons entry first ih =>
    have hset := hfirst entry List.mem_cons_self
    cases second with
    | nil =>
      have hid : entry.1 ∈ ids := htail entry.1 (by simp [← show _ = tail from h])
      exact absurd hid (hlegible.names entry hset)
    | cons other second =>
      simp only [List.flatMap_cons, List.cons_append, List.nil_append, List.cons.injEq] at h
      obtain ⟨hname, htext, hmore⟩ := h
      have hvalue := hlegible.texts entry hset other (hsecond other List.mem_cons_self) hname htext
      obtain ⟨rfl, hsame⟩ := ih (fun entry hentry => hfirst entry (List.mem_cons_of_mem _ hentry))
        (fun entry hentry => hsecond entry (List.mem_cons_of_mem _ hentry)) hmore
      exact ⟨by rw [Prod.ext hname hvalue], hsame⟩

/-- The texts of edges tell their ways. -/
theorem map_route_eq_of_flatMap_eq
    (h : edges.flatMap Document.edgeFingerprint = ways.flatMap Document.edgeFingerprint) :
    edges.map Edge.route = ways.map Edge.route := by
  induction edges generalizing ways with
  | nil =>
    cases ways with
    | nil => rfl
    | cons way ways => simp [Document.edgeFingerprint] at h
  | cons edge edges ih =>
    cases ways with
    | nil => simp [Document.edgeFingerprint] at h
    | cons way ways =>
      simp only [List.flatMap_cons, Document.edgeFingerprint, List.cons_append, List.nil_append,
        List.cons.injEq] at h
      obtain ⟨hsource, hsourcePort, htarget, htargetPort, hrest⟩ := h
      rw [List.map_cons, List.map_cons, ih hrest]
      simp [Edge.route, hsource, hsourcePort, htarget, htargetPort]

/-- The first text that is left to read is an id. -/
theorem Unread.head_mem (h : Unread ids settings seen nodes edges) {text : String}
    (htext : text ∈ (nodes.flatMap Document.nodeFingerprint ++
      edges.flatMap Document.edgeFingerprint).head?) : text ∈ ids := by
  cases nodes with
  | cons node nodes =>
    obtain rfl : node.id = text := by simpa [Document.nodeFingerprint] using htext
    exact h.known _ (by simp)
  | nil =>
    cases edges with
    | nil => simp at htext
    | cons edge edges =>
      obtain rfl : edge.source = text := by simpa [Document.edgeFingerprint] using htext
      exact h.known _ (h.sources edge List.mem_cons_self)

/-- When a node has been read, the rest is unread. -/
theorem Unread.next {node : Node} (h : Unread ids settings seen (node :: nodes) edges) :
    Unread ids settings (seen ++ [node.id]) nodes edges := by
  have hsame : seen ++ (node :: nodes).map Node.id = seen ++ [node.id] ++ nodes.map Node.id := by
    simp
  exact ⟨hsame ▸ h.distinct, hsame ▸ h.known,
    fun other hother => h.values other (List.mem_cons_of_mem _ hother), hsame ▸ h.sources⟩

/-- The texts of edges do not begin as those of nodes that have not been seen. -/
theorem Unread.edges_ne {node : Node} (h : Unread ids settings seen [] edges)
    (hother : Unread ids settings seen (node :: nodes) ways) (rest : List String) :
    edges.flatMap Document.edgeFingerprint ≠ node.id :: rest := by
  intro heq
  cases edges with
  | nil => simp at heq
  | cons edge edges =>
    have hid : edge.source = node.id := by
      simp only [List.flatMap_cons, Document.edgeFingerprint, List.cons_append,
        List.cons.injEq] at heq
      exact heq.1
    have hseen : node.id ∈ seen := by simpa [hid] using h.sources edge List.mem_cons_self
    exact (List.disjoint_of_nodup_append hother.distinct) hseen (by simp)

/-- What is left to read can be read in one way only. -/
theorem Unread.read_eq (hlegible : Legible ids settings) (h : Unread ids settings seen nodes edges)
    (hother : Unread ids settings seen others ways)
    (htexts : nodes.flatMap Document.nodeFingerprint ++ edges.flatMap Document.edgeFingerprint =
      others.flatMap Document.nodeFingerprint ++ ways.flatMap Document.edgeFingerprint) :
    nodes.map Node.outline = others.map Node.outline ∧
      edges.map Edge.route = ways.map Edge.route := by
  induction nodes generalizing seen others with
  | nil =>
    cases others with
    | nil => exact ⟨rfl, map_route_eq_of_flatMap_eq htexts⟩
    | cons other others => exact absurd htexts (h.edges_ne hother _)
  | cons node nodes ih =>
    cases others with
    | nil => exact absurd htexts.symm (hother.edges_ne h _)
    | cons other others =>
      simp only [List.flatMap_cons, Document.nodeFingerprint, List.cons_append, List.append_assoc,
        List.cons.injEq] at htexts
      obtain ⟨hid, hschema, hrest⟩ := htexts
      have hnext := hother.next
      rw [← hid] at hnext
      obtain ⟨hvalues, hmore⟩ := hlegible.read_values (h.values node List.mem_cons_self)
        (hother.values other List.mem_cons_self) (fun _ => h.next.head_mem)
        (fun _ => hnext.head_mem) hrest
      obtain ⟨hnodes, hedges⟩ := ih h.next hnext hmore
      refine ⟨?_, hedges⟩
      have hdictionary : node.values = other.values := by
        cases hfirst : node.values
        cases hsecond : other.values
        simpa [hfirst, hsecond] using hvalues
      rw [List.map_cons, List.map_cons, hnodes, Node.outline, Node.outline, hid, hschema,
        hdictionary]

end Reading

namespace Document

variable {document other : Document} {ids : List String} {settings : List (String × Json)}

/-- A well-formed document with given ids and values. -/
structure Over (ids : List String) (settings : List (String × Json)) (document : Document) :
    Prop where
  /-- The document is well-formed. -/
  formed : document.WellFormed
  /-- The ids of its nodes are among the given ones. -/
  ids : ∀ node ∈ document.nodes, node.id ∈ ids
  /-- Its values are among the given ones. -/
  values : ∀ node ∈ document.nodes, ∀ entry ∈ node.values.entries, entry ∈ settings

/-- At first the whole document is unread. -/
theorem Over.unread (h : document.Over ids settings) :
    Unread ids settings [] document.nodes document.edges := by
  refine ⟨h.formed.ids, fun id hid => ?_, h.values, fun edge hedge => ?_⟩
  · obtain ⟨node, hnode, rfl⟩ := List.mem_map.mp hid
    exact h.ids node hnode
  · obtain ⟨node, hnode, hid, -⟩ := h.formed.sources edge hedge
    exact List.mem_map.mpr ⟨node, hnode, hid⟩

/-- Documents with the same fingerprint have the same nodes, up to their schemas, and the same
edges. -/
theorem Over.read_eq (hlegible : Legible ids settings) (h : document.Over ids settings)
    (hother : other.Over ids settings) (heq : document.fingerprint = other.fingerprint) :
    document.nodes.map Node.outline = other.nodes.map Node.outline ∧
      document.edges.map Edge.route = other.edges.map Edge.route :=
  h.unread.read_eq hlegible hother.unread heq

end Document

/-! ## Documents with the same outlines -/

/-- Lists with the same keys have the same parts, if a key tells the part. -/
theorem map_eq_map_of_keys {α β γ : Type} {key : α → β} {part : α → γ} {xs ys : List α}
    (hkeys : xs.map key = ys.map key)
    (h : ∀ x ∈ xs, ∀ y ∈ ys, key x = key y → part x = part y) : xs.map part = ys.map part := by
  induction xs generalizing ys with
  | nil =>
    obtain rfl : ys = [] := List.map_eq_nil_iff.mp hkeys.symm
    rfl
  | cons x xs ih =>
    cases ys with
    | nil => simp at hkeys
    | cons y ys =>
      obtain ⟨hkey, hrest⟩ := List.cons.inj hkeys
      rw [List.map_cons, List.map_cons, h x List.mem_cons_self y List.mem_cons_self hkey,
        ih hrest fun x hx y hy => h x (List.mem_cons_of_mem _ hx) y (List.mem_cons_of_mem _ hy)]

namespace Document

variable {document other : Document} {computed : Dictionary Metadata}

theorem nodeIds_eq_of_outlines_eq
    (h : document.nodes.map Node.outline = other.nodes.map Node.outline) :
    document.nodeIds = other.nodeIds :=
  map_eq_map_of_keys h fun _ _ _ _ hsame => congrArg Prod.fst hsame

theorem graph_eq_of_outlines_eq
    (hnodes : document.nodes.map Node.outline = other.nodes.map Node.outline)
    (hedges : document.edges.map Edge.route = other.edges.map Edge.route) :
    document.graph = other.graph := by
  have hlinks : document.edges.map Edge.link = other.edges.map Edge.link := by
    refine map_eq_map_of_keys hedges fun edge _ way _ hsame => ?_
    simp only [Edge.route, Edge.mk.injEq] at hsame
    rw [Edge.link, Edge.link, hsame.2.1, hsame.2.2.2.1]
  rw [graph, graph, nodeIds_eq_of_outlines_eq hnodes, hlinks]

/-- With the same schemas a pass cannot tell the documents apart. -/
theorem plan_eq_of_outlines_eq
    (hnodes : document.nodes.map Node.outline = other.nodes.map Node.outline)
    (hedges : document.edges.map Edge.route = other.edges.map Edge.route)
    (hschemas : document.nodes.map Node.schema = other.nodes.map Node.schema) :
    document.plan = other.plan := by
  have hpairs := congrArg₂ List.zip hnodes hschemas
  rw [List.zip_map', List.zip_map'] at hpairs
  have hplans : document.nodes.map Node.plan = other.nodes.map Node.plan := by
    refine map_eq_map_of_keys hpairs fun node _ old _ hsame => ?_
    simp only [Node.outline, Prod.mk.injEq] at hsame
    obtain ⟨⟨hid, -, hvalues⟩, hschema⟩ := hsame
    rw [Node.plan, Node.plan, hid, hvalues, hschema]
  rw [plan, plan, hplans, hedges]

/-- Where one document holds a solution, another with the same ids holds it exactly if it has the
same metadata. -/
theorem Holds.iff_metadata_eq (h : other.Holds computed) (hids : document.nodeIds = other.nodeIds) :
    document.Holds computed ↔
      document.nodes.map Node.metadata = other.nodes.map Node.metadata := by
  constructor
  · intro hholds
    refine map_eq_map_of_keys hids fun node hnode old hold hsame => ?_
    have hfound := hholds node hnode
    rw [hsame, h old hold] at hfound
    exact (Option.some.inj hfound).symm
  · intro hmetadata node hnode
    have hpairs := congrArg₂ List.zip hids hmetadata
    rw [nodeIds, nodeIds, List.zip_map', List.zip_map'] at hpairs
    have hmem : (node.id, node.metadata) ∈ other.nodes.map fun node => (node.id, node.metadata) :=
      hpairs ▸ List.mem_map_of_mem hnode
    obtain ⟨old, hold, hsame⟩ := List.mem_map.mp hmem
    obtain ⟨hid, hheld⟩ := Prod.mk.inj hsame
    rw [← hid, ← hheld]
    exact h old hold

end Document

end Dataflow
