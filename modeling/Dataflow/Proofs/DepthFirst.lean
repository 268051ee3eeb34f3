import Dataflow.Proofs.Graph
import Mathlib.Data.List.Perm.Subperm

/-!
# The depth-first order

A visit puts a node behind the sources of its links. A source is passed over only while it waits for
this very node, and then the node leads back to it. So every node is listed once, and stands behind
the source of each link that it does not lead back along; without cycles these are all links.

The bound on the number of waiting nodes is never met: the order is the one and only outcome of the
visits without a bound.
-/

namespace Dataflow.Graph

variable {graph : Graph}

/-- A link leads from one node to another, and no links lead back. -/
def OneWay (graph : Graph) (source target : String) : Prop :=
  graph.Leads source target ∧ ¬Relation.ReflTransGen graph.Leads target source

/-- What holds of the nodes in order while others wait. -/
structure Visited (graph : Graph) (busy order : List String) : Prop where
  /-- No node is listed twice. -/
  nodup : order.Nodup
  /-- Only nodes of the graph are listed. -/
  listed : ∀ id ∈ order, id ∈ graph.nodes
  /-- A node that waits is not listed yet. -/
  apart : ∀ id ∈ order, id ∉ busy
  /-- Sources come first, except where the target leads back to them. -/
  follows : Follows graph.OneWay order

/-- At the beginning no node is listed. -/
theorem visited_nil (busy : List String) : Visited graph busy [] :=
  ⟨List.nodup_nil, by simp, by simp, follows_nil⟩

/-- The nodes that wait for a node: links lead from it to each of them. -/
structure Waiting (graph : Graph) (busy : List String) (id : String) : Prop where
  /-- No node waits twice. -/
  nodup : busy.Nodup
  /-- Only nodes of the graph wait. -/
  listed : ∀ other ∈ busy, other ∈ graph.nodes
  /-- The node leads to all that wait for it. -/
  leads : ∀ other ∈ busy, Relation.TransGen graph.Leads id other

/-- A node waits for its sources, with all that wait for it. -/
theorem Waiting.cons {busy : List String} {id source : String} (h : Waiting graph busy id)
    (hnew : id ∉ busy) (hsource : graph.Leads source id) : Waiting graph (id :: busy) source := by
  refine ⟨List.nodup_cons.mpr ⟨hnew, h.nodup⟩, ?_, ?_⟩
  · intro other hother
    rcases List.mem_cons.mp hother with rfl | hother
    · exact hsource.2.2
    · exact h.listed other hother
  · intro other hother
    rcases List.mem_cons.mp hother with rfl | hother
    · exact .single hsource
    · exact .head hsource (h.leads other hother)

/-- What a visit does: it lists more nodes, among them the one visited unless that waits. -/
def VisitSpec (graph : Graph) (visit : List String → String → List String) (busy : List String)
    (id : String) : Prop :=
  ∀ order, Visited graph busy order → Visited graph busy (visit order id) ∧
    order ⊆ visit order id ∧ (id ∈ visit order id ∨ id ∈ busy)

/-- Visits one after another list more nodes, among them all those visited unless they wait. -/
theorem foldl_visit {visit : List String → String → List String} {busy ids order : List String}
    (h : ∀ id ∈ ids, VisitSpec graph visit busy id) (hvisited : Visited graph busy order) :
    Visited graph busy (ids.foldl visit order) ∧ order ⊆ ids.foldl visit order ∧
      ∀ id ∈ ids, id ∈ ids.foldl visit order ∨ id ∈ busy := by
  induction ids generalizing order with
  | nil => exact ⟨hvisited, List.Subset.refl _, by simp⟩
  | cons first rest ih =>
    obtain ⟨hfirst, hsub, hdone⟩ := h first List.mem_cons_self order hvisited
    obtain ⟨hrest, hmore, hall⟩ :=
      ih (fun id hid => h id (List.mem_cons_of_mem _ hid)) hfirst
    refine ⟨hrest, List.Subset.trans hsub hmore, ?_⟩
    intro id hid
    rcases List.mem_cons.mp hid with rfl | hid
    · exact hdone.imp_left fun hmem => hmore hmem
    · exact hall id hid

/-- A node waits while its sources are visited. -/
theorem Visited.push {busy order : List String} {id : String} (h : Visited graph busy order)
    (hunlisted : id ∉ order) : Visited graph (id :: busy) order := by
  refine ⟨h.nodup, h.listed, fun other hother hmem => ?_, h.follows⟩
  rcases List.mem_cons.mp hmem with rfl | hmem
  · exact hunlisted hother
  · exact h.apart other hother hmem

/-- A node is listed once its sources are visited: one that was passed over waits, and then the node
leads back to it. -/
theorem Visited.pop {busy order : List String} {id : String} (h : Visited graph (id :: busy) order)
    (hid : id ∈ graph.nodes) (hwaiting : Waiting graph busy id) (hfree : id ∉ busy)
    (hdone : ∀ source ∈ graph.sourcesOf id, source ∈ order ∨ source ∈ id :: busy) :
    Visited graph busy (order ++ [id]) := by
  have hlast : id ∉ order := fun hmem => h.apart id hmem List.mem_cons_self
  refine ⟨?_, ?_, ?_, ?_⟩
  · refine List.nodup_append.mpr ⟨h.nodup, List.nodup_singleton _, ?_⟩
    intro a ha b hb hab
    exact hlast (List.mem_singleton.mp hb ▸ hab ▸ ha)
  · intro other hother
    rcases List.mem_append.mp hother with hother | hother
    · exact h.listed other hother
    · exact List.mem_singleton.mp hother ▸ hid
  · intro other hother hmem
    rcases List.mem_append.mp hother with hother | hother
    · exact h.apart other hother (List.mem_cons_of_mem _ hmem)
    · exact hfree (List.mem_singleton.mp hother ▸ hmem)
  · refine h.follows.concat fun source hsource => ?_
    rcases hdone source (mem_sourcesOf.mpr hsource.1) with hmem | hmem
    · exact hmem
    · rcases List.mem_cons.mp hmem with rfl | hmem
      · exact absurd .refl hsource.2
      · exact absurd (hwaiting.leads source hmem).to_reflTransGen hsource.2

/-- Once as many nodes wait as there are, every node waits. -/
theorem mem_busy_of_length_le {busy : List String} {id : String} (hnodup : busy.Nodup)
    (hlisted : ∀ other ∈ busy, other ∈ graph.nodes) (hlong : graph.nodes.length ≤ busy.length)
    (hid : id ∈ graph.nodes) : id ∈ busy :=
  ((List.subperm_of_subset hnodup hlisted).perm_of_length_le hlong).mem_iff.mpr hid

/-- Nodes can wait only as long as some node does not, so the depth is never used up. -/
theorem visit_spec (depth : Nat) {busy : List String} {id : String} (hid : id ∈ graph.nodes)
    (hwaiting : Waiting graph busy id) (hdepth : graph.nodes.length ≤ depth + busy.length) :
    VisitSpec graph (graph.visit depth busy) busy id := by
  induction depth generalizing busy id with
  | zero =>
    intro order hvisited
    have hlong : graph.nodes.length ≤ busy.length := by omega
    exact ⟨hvisited, List.Subset.refl _,
      Or.inr (mem_busy_of_length_le hwaiting.nodup hwaiting.listed hlong hid)⟩
  | succ depth ih =>
    intro order hvisited
    unfold visit
    split
    · next hskip =>
      refine ⟨hvisited, List.Subset.refl _, ?_⟩
      simpa using hskip
    · next hnew =>
      obtain ⟨hunlisted, hfree⟩ : id ∉ order ∧ id ∉ busy := by simpa using hnew
      have hvisits : ∀ source ∈ graph.sourcesOf id,
          VisitSpec graph (graph.visit depth (id :: busy)) (id :: busy) source := by
        intro source hsource
        have hleads := mem_sourcesOf.mp hsource
        exact ih hleads.2.1 (hwaiting.cons hfree hleads) (by rw [List.length_cons]; omega)
      obtain ⟨hsources, hsub, hdone⟩ := foldl_visit hvisits (hvisited.push hunlisted)
      refine ⟨hsources.pop hid hwaiting hfree hdone, ?_, Or.inl (by simp)⟩
      exact List.Subset.trans hsub (List.subset_append_left _ _)

/-- The depth-first order lists the nodes, each once, and sources before targets that do not lead
back to them. -/
theorem depthFirstOrder_visited (graph : Graph) :
    Visited graph [] graph.depthFirstOrder ∧
      ∀ id, id ∈ graph.depthFirstOrder ↔ id ∈ graph.nodes := by
  have hvisits : ∀ id ∈ graph.nodes,
      VisitSpec graph (graph.visit graph.nodes.length []) [] id := by
    intro id hid
    exact visit_spec _ hid ⟨List.nodup_nil, by simp, by simp⟩ (Nat.le_add_right _ _)
  obtain ⟨hvisited, -, hall⟩ := foldl_visit hvisits (visited_nil [])
  refine ⟨hvisited, fun id => ⟨hvisited.listed id, fun hid => ?_⟩⟩
  exact (hall id hid).resolve_right List.not_mem_nil

/-- Without a cycle no link can be led back along. -/
theorem Acyclic.oneWay (h : graph.Acyclic) {source target : String}
    (hleads : graph.Leads source target) : graph.OneWay source target :=
  ⟨hleads, fun hback => h source (.head' hleads hback)⟩

/-- Without a cycle the depth-first order is sorted. -/
theorem Acyclic.sorted_depthFirstOrder (h : graph.Acyclic) (hnodes : graph.nodes.Nodup) :
    graph.Sorted graph.depthFirstOrder := by
  obtain ⟨hvisited, hmem⟩ := depthFirstOrder_visited graph
  refine ⟨(List.perm_ext_iff_of_nodup hvisited.nodup hnodes).mpr hmem, ?_⟩
  exact hvisited.follows.mono fun _ _ hleads => h.oneWay hleads

/-! ## Visits without a bound -/

/-- Nodes are visited one after another, while others wait and with some listed already. However
many nodes wait, a node that neither waits nor is listed waits while its sources are visited. -/
inductive Explores (graph : Graph) :
    List String → List String → List String → List String → Prop where
  /-- No node is left. -/
  | done {busy order : List String} : Explores graph busy order [] order
  /-- The next node is listed or waits, and is passed over. -/
  | skip {busy order rest result : List String} {id : String} : id ∈ order ∨ id ∈ busy →
    Explores graph busy order rest result → Explores graph busy order (id :: rest) result
  /-- The next node is listed behind its sources. -/
  | enter {busy order sources rest result : List String} {id : String} : id ∉ order → id ∉ busy →
    Explores graph (id :: busy) order (graph.sourcesOf id) sources →
    Explores graph busy (sources ++ [id]) rest result →
    Explores graph busy order (id :: rest) result

/-- Visits have one outcome. -/
theorem Explores.eq {busy order ids result other : List String}
    (h : Explores graph busy order ids result) (hother : Explores graph busy order ids other) :
    result = other := by
  induction h generalizing other with
  | done =>
    cases hother
    rfl
  | skip hknown _ ih =>
    cases hother with
    | skip _ hrest => exact ih hrest
    | enter hunlisted hfree => exact absurd hknown (not_or.mpr ⟨hunlisted, hfree⟩)
  | enter hunlisted hfree _ _ ihsources ihrest =>
    cases hother with
    | skip hknown => exact absurd hknown (not_or.mpr ⟨hunlisted, hfree⟩)
    | enter _ _ hsources hrest =>
      obtain rfl := ihsources hsources
      exact ihrest hrest

/-- Visits with a bound that is large enough are visits without a bound. -/
theorem explores_foldl_visit (depth : Nat) {busy ids : List String} (order : List String)
    (hnodup : busy.Nodup) (hlisted : ∀ other ∈ busy, other ∈ graph.nodes)
    (hids : ∀ id ∈ ids, id ∈ graph.nodes) (hdepth : graph.nodes.length ≤ depth + busy.length) :
    Explores graph busy order ids (ids.foldl (graph.visit depth busy) order) := by
  -- the depth counts down along the sources, and the list of nodes at each depth
  induction depth generalizing busy ids order with
  | zero =>
    induction ids generalizing order with
    | nil => exact .done
    | cons id rest ih =>
      obtain ⟨hid, hrest⟩ := List.forall_mem_cons.mp hids
      have hlong : graph.nodes.length ≤ busy.length := by omega
      exact .skip (.inr (mem_busy_of_length_le hnodup hlisted hlong hid)) (ih order hrest)
  | succ depth ihdepth =>
    induction ids generalizing order with
    | nil => exact .done
    | cons id rest ih =>
      obtain ⟨hid, hrest⟩ := List.forall_mem_cons.mp hids
      rw [List.foldl_cons, visit]
      split
      · next hskip => exact .skip (by simpa using hskip) (ih order hrest)
      · next hnew =>
        obtain ⟨hunlisted, hfree⟩ : id ∉ order ∧ id ∉ busy := by simpa using hnew
        refine .enter hunlisted hfree (ihdepth order ?_ ?_ ?_ ?_) (ih _ hrest)
        · exact List.nodup_cons.mpr ⟨hfree, hnodup⟩
        · exact List.forall_mem_cons.mpr ⟨hid, hlisted⟩
        · exact fun source hsource => (mem_sourcesOf.mp hsource).2.1
        · rw [List.length_cons]
          omega

/-- Visits to all nodes end, and end in the depth-first order. -/
theorem explores_iff (graph : Graph) (order : List String) :
    Explores graph [] [] graph.nodes order ↔ order = graph.depthFirstOrder := by
  have hends : Explores graph [] [] graph.nodes graph.depthFirstOrder :=
    explores_foldl_visit _ [] List.nodup_nil (by simp) (fun _ hid => hid) (Nat.le_add_right _ _)
  exact ⟨fun h => h.eq hends, fun h => h ▸ hends⟩

/-- Whatever nodes are listed, once or more often, and whatever cycles the links form: the visits
end in the depth-first order, which has every node once and the source of a link before its target
where no links lead back. Without a cycle these are all links. -/
theorem depthFirstOrder_spec (graph : Graph) :
    (∀ order, Explores graph [] [] graph.nodes order ↔ order = graph.depthFirstOrder) ∧
      graph.depthFirstOrder.Nodup ∧
      (∀ id, id ∈ graph.depthFirstOrder ↔ id ∈ graph.nodes) ∧
      (∀ source target, graph.Leads source target →
        ¬Relation.ReflTransGen graph.Leads target source →
        graph.depthFirstOrder.idxOf source < graph.depthFirstOrder.idxOf target) ∧
      (graph.Acyclic → ∀ source target, graph.Leads source target →
        graph.depthFirstOrder.idxOf source < graph.depthFirstOrder.idxOf target) := by
  obtain ⟨hvisited, hmem⟩ := depthFirstOrder_visited graph
  have hbefore (source target : String) (honeWay : graph.OneWay source target) :
      graph.depthFirstOrder.idxOf source < graph.depthFirstOrder.idxOf target :=
    hvisited.follows.idxOf_lt honeWay ((hmem target).mpr honeWay.1.2.2)
  refine ⟨explores_iff graph, hvisited.nodup, hmem, ?_, ?_⟩
  · exact fun source target hleads hback => hbefore source target ⟨hleads, hback⟩
  · exact fun hacyclic source target hleads => hbefore source target (hacyclic.oneWay hleads)

/-- Two nodes on a cycle, of which one is listed twice, one behind them that is listed first, and a
link from outside. -/
def sampleTangle : Graph :=
  ⟨["c", "a", "b", "a"], [⟨"a", "b"⟩, ⟨"b", "a"⟩, ⟨"b", "c"⟩, ⟨"x", "c"⟩]⟩

/-- The same without the cycle. -/
def sampleFork : Graph := { sampleTangle with links := [⟨"b", "a"⟩, ⟨"b", "c"⟩, ⟨"a", "c"⟩] }

/-- The node behind the cycle comes last, although it is listed first. -/
theorem depthFirstOrder_spec_sampleTangle :
    sampleTangle.depthFirstOrder = ["a", "b", "c"] ∧
      Explores sampleTangle [] [] ["c", "a", "b", "a"] ["a", "b", "c"] ∧
      sampleTangle.Leads "b" "c" ∧ ¬Relation.ReflTransGen sampleTangle.Leads "c" "b" ∧
      ["a", "b", "c"].idxOf "b" < ["a", "b", "c"].idxOf "c" ∧
      sampleFork.Acyclic ∧ sampleFork.Leads "a" "c" ∧
      sampleFork.depthFirstOrder.idxOf "a" < sampleFork.depthFirstOrder.idxOf "c" := by
  have horder : sampleTangle.depthFirstOrder = ["a", "b", "c"] := by rfl
  have hleads : sampleTangle.Leads "b" "c" := by simp [Leads, sampleTangle]
  have hback : ¬Relation.ReflTransGen sampleTangle.Leads "c" "b" := by
    intro hway
    rcases Relation.ReflTransGen.cases_head hway with heq | ⟨next, hnext, -⟩
    · exact absurd heq (by decide)
    · simp [Leads, sampleTangle] at hnext
  have hacyclic : sampleFork.Acyclic := by
    refine acyclic_of_lt ["b", "a", "c"].idxOf fun source target hleads => ?_
    have hlink := hleads.1
    simp only [sampleFork, List.mem_cons, Link.mk.injEq, List.not_mem_nil, or_false] at hlink
    rcases hlink with ⟨rfl, rfl⟩ | ⟨rfl, rfl⟩ | ⟨rfl, rfl⟩ <;> decide
  have hfork : sampleFork.Leads "a" "c" := by simp [Leads, sampleFork, sampleTangle]
  obtain ⟨hends, -, -, hbefore, -⟩ := depthFirstOrder_spec sampleTangle
  obtain ⟨-, -, -, -, hsorted⟩ := depthFirstOrder_spec sampleFork
  refine ⟨horder, (hends _).mpr horder.symm, hleads, hback, ?_, hacyclic, hfork, ?_⟩
  · exact horder ▸ hbefore "b" "c" hleads hback
  · exact hsorted hacyclic "a" "c" hfork

end Dataflow.Graph
