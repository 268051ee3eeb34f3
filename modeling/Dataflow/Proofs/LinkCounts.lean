import Dataflow.Document.Normalize
import Dataflow.Proofs.Editing
import Dataflow.Proofs.QueueOrder
import Mathlib.Algebra.Order.BigOperators.Group.List
import Mathlib.Algebra.Order.Ring.Nat

/-!
# Counts of links where nodes repeat

A sweep counts, for every node, the links into it that are not passed yet. Where a node is listed
more than once, the count is still kept once for its name, but a node without links into it stands
in the queue as often as it is listed, and all its links are passed each time. So a link may come up
into a node whose count is used up, and the sweep breaks off there. The counts tell when: no node
but such a repeated root is ever taken twice, so a sweep that breaks off does so behind a repeated
root, and it does break off if a repeated root leads to a node that no cycle leads to.
-/

namespace Dataflow.Graph

variable {graph : Graph}

/-- A node without links into it that is listed more than once. -/
def RepeatedRoot (graph : Graph) (id : String) : Prop :=
  (∀ source, ¬graph.Leads source id) ∧ 1 < graph.nodes.count id

namespace Sweep

variable {sweep next : Sweep} {id : String} {rest : List String}

/-- What holds between two steps of a sweep, also where nodes are listed more than once. -/
structure Balanced (graph : Graph) (sweep : Sweep) : Prop where
  /-- The links into a node are those still counted and those from taken nodes, as often as these
  were taken. -/
  waiting : ∀ id, sweep.waiting id +
    ((graph.sourcesOf id).map fun source => sweep.order.count source).sum =
      (graph.sourcesOf id).length
  /-- A root is taken or waits as often as it is listed, and any other node once, as soon as its
  count is used up. -/
  held : ∀ id, (sweep.order ++ sweep.queue).count id =
    if graph.sourcesOf id = [] then graph.nodes.count id
    else if sweep.waiting id = 0 then 1 else 0

/-- One more node taken is one more for each link from it. -/
theorem sum_map_count_concat (sources order : List String) (id : String) :
    (sources.map fun source => (order ++ [id]).count source).sum =
      (sources.map fun source => order.count source).sum + sources.count id := by
  induction sources with
  | nil => rfl
  | cons source sources ih =>
    rw [List.map_cons, List.map_cons, List.sum_cons, List.sum_cons, ih, List.count_append,
      List.count_singleton, List.count_cons]
    by_cases hsource : source = id
    · simp [hsource]
      omega
    · simp [hsource, Ne.symm hsource]
      omega

/-- At the start all links are counted, and the roots wait. -/
theorem Balanced.seed (graph : Graph) : Balanced graph graph.seed := by
  refine ⟨fun id => by simp [Graph.seed], fun id => ?_⟩
  by_cases hsources : graph.sourcesOf id = []
  · rw [if_pos hsources]
    exact List.count_filter (by simp [hsources])
  · have hwaiting : graph.seed.waiting id ≠ 0 :=
      Nat.ne_of_gt (List.length_pos_iff.mpr hsources)
    rw [if_neg hsources, if_neg hwaiting]
    exact List.count_eq_zero.mpr (by simp [Graph.seed, hsources])

/-- A released node joins the queue once. -/
theorem count_released (graph : Graph) (sweep : Sweep) (id other : String) :
    (released graph sweep id).count other =
      if 0 < (graph.targetsOf id).count other ∧
        sweep.waiting other = (graph.targetsOf id).count other then 1 else 0 := by
  have hnodup : (released graph sweep id).Nodup := (List.nodup_dedup _).filter _
  rw [hnodup.count]
  simp only [mem_released, List.count_pos_iff]

/-- Taking a node keeps the balance. -/
theorem Balanced.take (h : Balanced graph sweep) (hqueue : sweep.queue = id :: rest)
    (hnext : sweep.take graph = .ok next) : Balanced graph next := by
  rcases take_cases graph hqueue with ⟨hcounted, htake⟩ | ⟨other, -, htake⟩
  · rw [htake] at hnext
    obtain rfl := Except.ok.inj hnext
    refine ⟨fun other => ?_, fun other => ?_⟩
    · have hbefore := h.waiting other
      have hle := hcounted other
      simp only
      rw [sum_map_count_concat, ← count_targetsOf]
      omega
    · have hbefore := h.held other
      have hle := hcounted other
      rw [hqueue] at hbefore
      simp only [List.count_append, List.count_cons, List.count_nil] at hbefore ⊢
      have hjoined := count_released graph sweep id other
      by_cases hsources : graph.sourcesOf other = []
      · have hnone : (graph.targetsOf id).count other = 0 := by
          rw [count_targetsOf, hsources, List.count_nil]
        rw [if_neg (by omega)] at hjoined
        rw [if_pos hsources] at hbefore ⊢
        omega
      · rw [if_neg hsources] at hbefore ⊢
        split_ifs at hbefore hjoined ⊢ <;> omega
  · rw [htake] at hnext
    contradiction

/-- No node is taken or waits more often than it is listed. -/
theorem Balanced.subperm (h : Balanced graph sweep) :
    (sweep.order ++ sweep.queue).Subperm graph.nodes := by
  refine List.subperm_ext_iff.mpr fun id _ => ?_
  rw [h.held]
  split_ifs with hroot
  · exact Nat.le_refl _
  · obtain ⟨source, hsource⟩ := List.exists_mem_of_ne_nil _ hroot
    exact List.count_pos_iff.mpr (mem_sourcesOf.mp hsource).2.2
  · exact Nat.zero_le _

/-- No more nodes are taken or wait than are listed. -/
theorem Balanced.length_le (h : Balanced graph sweep) :
    sweep.order.length + sweep.queue.length ≤ graph.nodes.length := by
  rw [← List.length_append]
  exact h.subperm.length_le

/-- Only a root that is listed more than once is taken or waits more than once. -/
theorem Balanced.repeatedRoot (h : Balanced graph sweep)
    (htwice : 1 < (sweep.order ++ sweep.queue).count id) : graph.RepeatedRoot id := by
  rw [h.held] at htwice
  by_cases hroot : graph.sourcesOf id = []
  · rw [if_pos hroot] at htwice
    refine ⟨fun source hleads => ?_, htwice⟩
    exact List.not_mem_nil (hroot ▸ mem_sourcesOf.mpr hleads)
  · rw [if_neg hroot] at htwice
    split_ifs at htwice <;> omega

/-- Where a sweep breaks off, a repeated root leads to the node whose count is used up. -/
theorem Balanced.exists_repeatedRoot (h : Balanced graph sweep) (hqueue : sweep.queue = id :: rest)
    {overdraw : Overdraw} (htake : sweep.take graph = .error overdraw) :
    ∃ source, graph.Leads source overdraw.target ∧ graph.RepeatedRoot source := by
  rcases take_cases graph hqueue with ⟨-, hdone⟩ | ⟨other, hfew, hbroken⟩
  · rw [hdone] at htake
    contradiction
  · rw [hbroken] at htake
    obtain rfl := Except.error.inj htake
    by_contra hnone
    -- without repeated roots the links from the nodes taken would not be more than all links
    have honce : ∀ source ∈ graph.sourcesOf other, (sweep.order ++ [id]).count source ≤ 1 := by
      intro source hsource
      refine Nat.le_of_not_lt fun htwice => hnone ⟨source, mem_sourcesOf.mp hsource, ?_⟩
      refine h.repeatedRoot (Nat.lt_of_lt_of_le htwice (List.Sublist.count_le _ ?_))
      rw [hqueue]
      exact (List.cons_sublist_cons.mpr (List.nil_sublist rest)).append_left sweep.order
    have hsum := List.sum_le_sum honce
    rw [sum_map_count_concat, ← count_targetsOf, List.map_const', List.sum_replicate_nat,
      Nat.mul_one] at hsum
    have hwaiting := h.waiting other
    omega

/-- Once the queue is empty, every node that no cycle leads to has been taken. -/
theorem Balanced.count_pos (h : Balanced graph sweep) (hqueue : sweep.queue = [])
    (hid : id ∈ graph.nodes) (hfree : ¬graph.BehindCycle id) : 1 ≤ sweep.order.count id := by
  refine induction_from_sources (P := fun id => 1 ≤ sweep.order.count id) ?_ hid hfree
  intro id hid hsources
  have hheld := h.held id
  rw [hqueue, List.append_nil] at hheld
  by_cases hroot : graph.sourcesOf id = []
  · rw [hheld, if_pos hroot]
    exact List.count_pos_iff.mpr hid
  · have hsum := List.sum_le_sum fun source hsource => hsources source (mem_sourcesOf.mp hsource)
    have hwaiting := h.waiting id
    rw [List.map_const', List.sum_replicate_nat, Nat.mul_one] at hsum
    rw [hheld, if_neg hroot, if_pos (by omega)]

end Sweep

/-! ## Sweeps that break off -/

/-- A sweep comes to its end with an empty queue and in balance, or breaks off behind a repeated
root. -/
theorem seed_run_cases (graph : Graph) :
    (∃ last, graph.seed.run graph graph.nodes.length = .ok last ∧ last.queue = [] ∧
      Sweep.Balanced graph last) ∨
    ∃ overdraw, graph.seed.run graph graph.nodes.length = .error overdraw ∧
      ∃ source, graph.Leads source overdraw.target ∧ graph.RepeatedRoot source := by
  have hstart := Sweep.Balanced.seed graph
  rcases Sweep.run_cases Sweep.Balanced.take hstart graph.nodes.length with
    ⟨last, hrun, hlast⟩ | ⟨before, id, rest, overdraw, hbefore, hqueue, htake, hrun⟩
  · have hempty := Sweep.queue_eq_nil_of_run_eq_ok Sweep.Balanced.take Sweep.Balanced.length_le
      hstart (Nat.le_add_left _ _) hrun
    exact .inl ⟨last, hrun, hempty, hlast⟩
  · exact .inr ⟨overdraw, hrun, hbefore.exists_repeatedRoot hqueue htake⟩

/-- The queue order holds every node as often as it is listed. -/
theorem perm_of_queueOrder_eq_ok {order : List String} (h : graph.queueOrder = .ok order) :
    order.Perm graph.nodes := by
  unfold queueOrder at h
  rcases graph.seed_run_cases with ⟨last, hrun, -, hlast⟩ | ⟨overdraw, hrun, -⟩
  · rw [hrun] at h
    dsimp only at h
    split at h
    · contradiction
    · next hlong =>
      obtain rfl := Except.ok.inj h
      have hsub := (List.sublist_append_left _ _).subperm.trans hlast.subperm
      exact hsub.perm_of_length_le (Nat.le_of_not_lt hlong)
  · rw [hrun] at h
    contradiction

/-- A queue order that breaks off does so at a node that a repeated root leads to. -/
theorem exists_repeatedRoot_of_queueOrder_eq_error {overdraw : Overdraw}
    (h : graph.queueOrder = .error (.overdrawn overdraw)) :
    ∃ source, graph.Leads source overdraw.target ∧ graph.RepeatedRoot source := by
  unfold queueOrder at h
  rcases graph.seed_run_cases with ⟨last, hrun, -⟩ | ⟨found, hrun, hsource⟩
  · rw [hrun] at h
    dsimp only at h
    split at h <;> cases h
  · rw [hrun] at h
    obtain rfl := OrderError.overdrawn.inj (Except.error.inj h)
    exact hsource

/-- Links from a repeated root are passed too often if all other links are passed too. -/
theorem RepeatedRoot.exists_overdraw {source target : String} (h : graph.RepeatedRoot source)
    (hleads : graph.Leads source target) (hfree : ¬graph.BehindCycle target) :
    ∃ overdraw, graph.queueOrder = .error (.overdrawn overdraw) := by
  rcases graph.seed_run_cases with ⟨last, -, hqueue, hlast⟩ | ⟨overdraw, hrun, -⟩
  · -- the node itself and all other sources are taken, so more links are passed than there are
    have hsources : ∀ other ∈ graph.sourcesOf target, 1 ≤ last.order.count other := by
      intro other hother
      have hother := mem_sourcesOf.mp hother
      exact hlast.count_pos hqueue hother.2.1 fun hbehind => hfree (hbehind.of_leads hother)
    have htwice : 1 < last.order.count source := by
      have hroot : graph.sourcesOf source = [] :=
        List.eq_nil_iff_forall_not_mem.mpr fun other hother => h.1 other (mem_sourcesOf.mp hother)
      have hheld := hlast.held source
      rw [hqueue, List.append_nil, if_pos hroot] at hheld
      rw [hheld]
      exact h.2
    have hsum := List.sum_lt_sum _ _ hsources ⟨source, mem_sourcesOf.mpr hleads, htwice⟩
    have hwaiting := hlast.waiting target
    rw [List.map_const', List.sum_replicate_nat, Nat.mul_one] at hsum
    omega
  · exact ⟨overdraw, by rw [queueOrder, hrun]⟩

/-- Where nodes may repeat, a link comes up into a node whose count is used up only if some repeated
root leads to the node. It does come up, and breaks the queue order off, if a repeated root leads to
a node that no cycle leads to. So in a graph without a cycle it comes up exactly if some repeated
root has a link, and it never does where the nodes are different. -/
theorem overdraws_spec (graph : Graph) :
    (∀ overdraw, graph.queueOrder = .error (.overdrawn overdraw) →
      ∃ source, graph.Leads source overdraw.target ∧ graph.RepeatedRoot source) ∧
    (∀ source target, graph.RepeatedRoot source → graph.Leads source target →
      ¬graph.BehindCycle target → ∃ overdraw, graph.queueOrder = .error (.overdrawn overdraw)) ∧
    (graph.Acyclic → ((∃ overdraw, graph.queueOrder = .error (.overdrawn overdraw)) ↔
      ∃ source target, graph.RepeatedRoot source ∧ graph.Leads source target)) ∧
    (graph.nodes.Nodup → ∀ overdraw, graph.queueOrder ≠ .error (.overdrawn overdraw)) := by
  refine ⟨fun overdraw => exists_repeatedRoot_of_queueOrder_eq_error,
    fun source target hroot hleads hfree => hroot.exists_overdraw hleads hfree,
    fun hacyclic => ⟨?_, ?_⟩, fun hnodes overdraw h => ?_⟩
  · rintro ⟨overdraw, h⟩
    obtain ⟨source, hleads, hroot⟩ := exists_repeatedRoot_of_queueOrder_eq_error h
    exact ⟨source, overdraw.target, hroot, hleads⟩
  · rintro ⟨source, target, hroot, hleads⟩
    exact hroot.exists_overdraw hleads (hacyclic.not_behindCycle target)
  · obtain ⟨source, -, -, hrepeated⟩ := exists_repeatedRoot_of_queueOrder_eq_error h
    have honce := List.nodup_iff_count_le_one.mp hnodes source
    omega

/-- A repeated root with a link, a node behind it, and one more behind that. -/
def sampleTwins : Graph := ⟨["a", "b", "a", "c"], [⟨"a", "b"⟩, ⟨"b", "c"⟩, ⟨"b", "c"⟩]⟩

/-- The second time the repeated root is taken, its link is not counted any more. -/
theorem overdraws_spec_sampleTwins :
    sampleTwins.Acyclic ∧ sampleTwins.RepeatedRoot "a" ∧ sampleTwins.Leads "a" "b" ∧
      (∃ overdraw, sampleTwins.queueOrder = .error (.overdrawn overdraw)) ∧
      ∀ overdraw, sampleTwins.queueOrder = .error (.overdrawn overdraw) →
        ∃ source, sampleTwins.Leads source overdraw.target := by
  have hacyclic : sampleTwins.Acyclic := by
    refine acyclic_of_lt ["a", "b", "c"].idxOf fun source target hleads => ?_
    have hlink := hleads.1
    simp only [sampleTwins, List.mem_cons, List.not_mem_nil, or_false, Link.mk.injEq] at hlink
    rcases hlink with ⟨rfl, rfl⟩ | ⟨rfl, rfl⟩ | ⟨rfl, rfl⟩ <;> decide
  have hroot : sampleTwins.RepeatedRoot "a" := by
    refine ⟨fun source hleads => ?_, by decide⟩
    exact List.not_mem_nil (mem_sourcesOf.mpr hleads : source ∈ sampleTwins.sourcesOf "a")
  have hleads : sampleTwins.Leads "a" "b" := mem_sourcesOf.mp (by decide)
  obtain ⟨hbehind, hbreaks, -, -⟩ := overdraws_spec sampleTwins
  refine ⟨hacyclic, hroot, hleads, hbreaks "a" "b" hroot hleads (hacyclic.not_behindCycle _), ?_⟩
  intro overdraw h
  obtain ⟨source, hsource, -⟩ := hbehind overdraw h
  exact ⟨source, hsource⟩

end Dataflow.Graph

namespace Dataflow.Document

/-- Two nodes with one id, and an edge from it. -/
def sampleTwins : Document :=
  { Document.empty "p" "Pipeline" with
    nodes := [Node.create "a" 1 (sampleSchema ["out"]), Node.create "a" 2 (sampleSchema ["out"]),
      Node.create "b" 3 (sampleSchema ["out"])]
    edges := [⟨"1", "a", "out", "b", "data"⟩]
    nextOrdinal := 4 }

/-- A document is normal with two nodes of one id, and the edge from them is counted once and passed
twice. -/
theorem overdraws_normalize_sampleTwins :
    sampleTwins.normalize = (sampleTwins, .ok 0) ∧
      sampleTwins.graph.queueOrder = .error (.overdrawn ⟨"b"⟩) := ⟨rfl, rfl⟩

end Dataflow.Document
