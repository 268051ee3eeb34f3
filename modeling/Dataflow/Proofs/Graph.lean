import Dataflow.Graph
import Mathlib.Data.Fintype.Card
import Mathlib.Data.List.Basic
import Mathlib.Data.Set.Finite.Basic
import Mathlib.Logic.Relation

/-!
# Links, cycles and sorted orders

A link leads from a listed node to a listed node; a link with an end outside the list leads nowhere.
Nodes on a cycle and nodes behind one can stand in no order that puts sources first, and everything
else follows from its sources: a finite graph has no infinite way against its links that avoids
cycles.
-/

namespace Dataflow.Graph

variable {graph : Graph}

/-- Some link leads from one listed node to another. -/
def Leads (graph : Graph) (source target : String) : Prop :=
  ⟨source, target⟩ ∈ graph.links ∧ source ∈ graph.nodes ∧ target ∈ graph.nodes

/-- The links of a node lead back to it. -/
def OnCycle (graph : Graph) (id : String) : Prop := Relation.TransGen graph.Leads id id

/-- No node lies on a cycle. -/
def Acyclic (graph : Graph) : Prop := ∀ id, ¬graph.OnCycle id

/-- A node lies on a cycle, or links lead to it from a cycle. -/
def BehindCycle (graph : Graph) (id : String) : Prop :=
  ∃ start, graph.OnCycle start ∧ Relation.ReflTransGen graph.Leads start id

theorem mem_innerLinks {source target : String} :
    ⟨source, target⟩ ∈ graph.innerLinks ↔ graph.Leads source target := by
  simp [innerLinks, Leads]

/-- The sources of a node are the nodes that lead to it. -/
theorem mem_sourcesOf {id source : String} :
    source ∈ graph.sourcesOf id ↔ graph.Leads source id := by
  rw [← mem_innerLinks, sourcesOf, List.mem_map]
  constructor
  · rintro ⟨link, hlink, rfl⟩
    obtain ⟨hmem, htarget⟩ := List.mem_filter.mp hlink
    have heq : link.target = id := by simpa using htarget
    exact heq ▸ hmem
  · intro hmem
    exact ⟨_, List.mem_filter.mpr ⟨hmem, by simp⟩, rfl⟩

/-- The targets of a node are the nodes that it leads to. -/
theorem mem_targetsOf {id target : String} :
    target ∈ graph.targetsOf id ↔ graph.Leads id target := by
  rw [← mem_innerLinks, targetsOf, List.mem_map]
  constructor
  · rintro ⟨link, hlink, rfl⟩
    obtain ⟨hmem, hsource⟩ := List.mem_filter.mp hlink
    have heq : link.source = id := by simpa using hsource
    exact heq ▸ hmem
  · intro hmem
    exact ⟨_, List.mem_filter.mpr ⟨hmem, by simp⟩, rfl⟩

/-! ## Behind a cycle -/

theorem OnCycle.behindCycle {id : String} (h : graph.OnCycle id) : graph.BehindCycle id :=
  ⟨id, h, .refl⟩

/-- What a node behind a cycle leads to lies behind the cycle too. -/
theorem BehindCycle.of_leads {source target : String} (h : graph.BehindCycle source)
    (hleads : graph.Leads source target) : graph.BehindCycle target := by
  obtain ⟨start, hcycle, hreach⟩ := h
  exact ⟨start, hcycle, hreach.tail hleads⟩

theorem OnCycle.mem_nodes {id : String} (h : graph.OnCycle id) : id ∈ graph.nodes := by
  obtain ⟨_, -, hlast⟩ := Relation.TransGen.tail'_iff.mp h
  exact hlast.2.2

theorem BehindCycle.mem_nodes {id : String} (h : graph.BehindCycle id) : id ∈ graph.nodes := by
  obtain ⟨start, hcycle, hreach⟩ := h
  rcases Relation.ReflTransGen.cases_tail hreach with rfl | ⟨_, -, hlast⟩
  · exact hcycle.mem_nodes
  · exact hlast.2.2

/-- What follows for a node from the sources of its links holds of every node that no cycle leads
to. -/
theorem induction_from_sources {P : String → Prop}
    (step : ∀ id ∈ graph.nodes, (∀ source, graph.Leads source id → P source) → P id) {id : String}
    (hid : id ∈ graph.nodes) (hfree : ¬graph.BehindCycle id) : P id := by
  -- on the finitely many nodes behind no cycle, the ways along links are well-founded
  let Free := { id : String // id ∈ graph.nodes ∧ ¬graph.BehindCycle id }
  have hfinite : Finite Free :=
    ((List.finite_toSet graph.nodes).subset fun id (h : id ∈ graph.nodes ∧ _) => h.1).to_subtype
  let way (a b : Free) : Prop := Relation.TransGen graph.Leads a.1 b.1
  have : IsTrans Free way := ⟨fun _ _ _ hab hbc => hab.trans hbc⟩
  have : Std.Irrefl way := ⟨fun a (h : graph.OnCycle a.1) => a.2.2 h.behindCycle⟩
  have hwf : WellFounded way := Finite.wellFounded_of_trans_of_irrefl way
  refine hwf.induction (C := fun a => P a.1) ⟨id, hid, hfree⟩ ?_
  intro a ih
  refine step a.1 a.2.1 fun source hsource => ?_
  exact ih ⟨source, hsource.2.1, fun hbehind => a.2.2 (hbehind.of_leads hsource)⟩ (.single hsource)

theorem Acyclic.not_behindCycle (h : graph.Acyclic) (id : String) : ¬graph.BehindCycle id :=
  fun ⟨start, hcycle, _⟩ => h start hcycle

/-- There is no cycle if every link leads to a higher place. -/
theorem acyclic_of_lt (place : String → Nat)
    (h : ∀ source target, graph.Leads source target → place source < place target) :
    graph.Acyclic := by
  intro id hcycle
  have hup {target : String} (hway : Relation.TransGen graph.Leads id target) :
      place id < place target := by
    induction hway with
    | single hleads => exact h _ _ hleads
    | tail _ hleads ih => exact ih.trans (h _ _ hleads)
  exact Nat.lt_irrefl _ (hup hcycle)

/-! ## Orders that put sources first -/

/-- Every item of an order stands behind the items that a relation puts before it. -/
def Follows (relation : String → String → Prop) (order : List String) : Prop :=
  ∀ before id after, order = before ++ id :: after → ∀ source, relation source id → source ∈ before

/-- Every node stands in the order, and behind the sources of its links. -/
structure Sorted (graph : Graph) (order : List String) : Prop where
  /-- The order holds every node as often as it is listed. -/
  perm : order.Perm graph.nodes
  /-- Sources come first. -/
  follows : Follows graph.Leads order

section Follows

variable {relation : String → String → Prop} {order : List String}

theorem follows_nil : Follows relation [] := by
  intro before id after h
  simp at h

/-- An item may be put at the end as soon as what belongs before it is there. -/
theorem Follows.concat (h : Follows relation order) {last : String}
    (hlast : ∀ source, relation source last → source ∈ order) :
    Follows relation (order ++ [last]) := by
  intro before id after hsplit source hsource
  rcases List.eq_nil_or_concat after with rfl | ⟨after', x, rfl⟩
  · obtain ⟨rfl, hid⟩ := List.append_inj' hsplit rfl
    obtain rfl : last = id := by simpa using hid
    exact hlast source hsource
  · have hsplit' : order ++ [last] = (before ++ id :: after') ++ [x] := by simpa using hsplit
    exact h before id after' (List.append_inj' hsplit' rfl).1 source hsource

/-- An order that respects a relation respects a part of it. -/
theorem Follows.mono {other : String → String → Prop} (h : Follows relation order)
    (hsub : ∀ source target, other source target → relation source target) : Follows other order :=
  fun before id after hsplit source hsource =>
    h before id after hsplit source (hsub source id hsource)

/-- What belongs before an item of the front stands in the front. -/
theorem Follows.mem_front {front rest : List String} (h : Follows relation (front ++ rest))
    {source id : String} (hid : id ∈ front) (hrelated : relation source id) : source ∈ front := by
  obtain ⟨before, after, rfl⟩ := List.append_of_mem hid
  have hsplit : before ++ id :: after ++ rest = before ++ id :: (after ++ rest) := by simp
  exact List.mem_append_left _ (h before id _ hsplit source hrelated)

/-- What belongs before an item has a lower place. -/
theorem Follows.idxOf_lt (h : Follows relation order) {source target : String}
    (hrelated : relation source target) (htarget : target ∈ order) :
    order.idxOf source < order.idxOf target := by
  obtain ⟨before, after, hsplit, hfirst⟩ := List.eq_append_cons_of_mem htarget
  have hsource := h before target after hsplit source hrelated
  rw [hsplit, List.idxOf_append_of_mem hsource, List.idxOf_append_of_notMem hfirst,
    List.idxOf_cons_self]
  exact Nat.lt_of_lt_of_le (List.idxOf_lt_length_of_mem hsource) (Nat.le_add_right _ _)

/-- What belongs before an item stands somewhere before it. -/
theorem Follows.pair_sublist (h : Follows relation order) {source target : String}
    (hrelated : relation source target) (htarget : target ∈ order) :
    [source, target].Sublist order := by
  obtain ⟨before, after, hsplit⟩ := List.append_of_mem htarget
  have hsource := h before target after hsplit source hrelated
  rw [hsplit]
  exact (List.singleton_sublist.mpr hsource).append (List.singleton_sublist.mpr List.mem_cons_self)

/-- Whatever leads to an item, by any number of steps, stands before it. -/
theorem Follows.mem_before (h : Follows relation order) {start id : String}
    (hway : Relation.TransGen relation start id) :
    ∀ before after, order = before ++ id :: after → start ∈ before := by
  induction hway with
  | single hstep => exact fun before after hsplit => h before _ after hsplit start hstep
  | @tail middle target _ hstep ih =>
    intro before after hsplit
    obtain ⟨first, second, hbefore⟩ := List.append_of_mem (h before _ after hsplit middle hstep)
    have hmiddle : order = first ++ middle :: (second ++ target :: after) := by
      rw [hsplit, hbefore, List.append_assoc, List.cons_append]
    rw [hbefore]
    exact List.mem_append_left _ (ih first _ hmiddle)

/-- No node of an order that puts sources first lies behind a cycle. -/
theorem Follows.not_behindCycle (h : Follows graph.Leads order) {id : String} (hid : id ∈ order) :
    ¬graph.BehindCycle id := by
  have hcycle {start : String} (hstart : start ∈ order) : ¬graph.OnCycle start := by
    intro hon
    obtain ⟨before, after, hsplit, hfirst⟩ := List.eq_append_cons_of_mem hstart
    exact hfirst (h.mem_before hon before after hsplit)
  rintro ⟨start, hon, hreach⟩
  rcases Relation.reflTransGen_iff_eq_or_transGen.mp hreach with rfl | hway
  · exact hcycle hid hon
  · obtain ⟨before, after, hsplit⟩ := List.append_of_mem hid
    have hstart := h.mem_before hway before after hsplit
    exact hcycle (hsplit ▸ List.mem_append_left _ hstart) hon

end Follows

/-- A graph with a sorted order has no cycle. -/
theorem Sorted.acyclic {order : List String} (h : graph.Sorted order) : graph.Acyclic :=
  fun _ hon => h.follows.not_behindCycle (h.perm.mem_iff.mpr hon.mem_nodes) hon.behindCycle

end Dataflow.Graph
