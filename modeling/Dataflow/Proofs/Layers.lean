import Dataflow.Proofs.QueueOrder
import Mathlib.Data.Set.Finite.Lattice
import Mathlib.Order.Lattice.Nat

/-!
# The layers of the queue order

A queue lets nodes out in the order in which they joined it. A node joins when its last link is
passed, that is, when the last of its sources is taken; and nodes that join together do so in the
order of their last links. So the queue order begins with the nodes without links into them, and the
rest of it is what its own nodes release one after another. This equation puts the nodes in layers
by the longest way to them, and settles the order inside each layer by the layer before.
-/

namespace Dataflow.Graph

variable {graph : Graph}

/-! ## The queue as what its nodes release -/

/-- The nodes whose last source is a node that is taken behind others, in the order of their last
links. -/
def heirs (graph : Graph) (taken : List String) (id : String) : List String :=
  (graph.targetsOf id).dedup.filter fun other =>
    ∀ source ∈ graph.sourcesOf other, source ∈ taken ++ [id]

/-- What nodes release that are taken one after another, behind others. -/
def heirsAlong (graph : Graph) : List String → List String → List String
  | _, [] => []
  | taken, id :: rest => graph.heirs taken id ++ graph.heirsAlong (taken ++ [id]) rest

/-- The nodes that no link leads to, as they are listed. -/
def roots (graph : Graph) : List String := graph.nodes.filter fun id => (graph.sourcesOf id).isEmpty

/-- Roots are the listed nodes that no node leads to. -/
theorem mem_roots {id : String} :
    id ∈ graph.roots ↔ id ∈ graph.nodes ∧ ∀ source, ¬graph.Leads source id := by
  simp [roots, ← mem_sourcesOf, List.eq_nil_iff_forall_not_mem]

/-- An heir is a node that is led to, and all of its sources are taken by then. -/
theorem mem_heirs {taken : List String} {id other : String} :
    other ∈ graph.heirs taken id ↔ graph.Leads id other ∧
      ∀ source, graph.Leads source other → source ∈ taken ++ [id] := by
  rw [heirs, List.mem_filter, List.mem_dedup, mem_targetsOf, decide_eq_true_iff]
  simp only [mem_sourcesOf]

/-- What is released along an order is released in its parts. -/
theorem heirsAlong_append (taken first second : List String) :
    graph.heirsAlong taken (first ++ second) =
      graph.heirsAlong taken first ++ graph.heirsAlong (taken ++ first) second := by
  induction first generalizing taken with
  | nil => simp [heirsAlong]
  | cons id rest ih => simp [heirsAlong, ih]

/-- Around one node, what is released comes before it, from it and after it. -/
theorem heirsAlong_split (before after : List String) (id : String) :
    graph.heirsAlong [] (before ++ id :: after) =
      graph.heirsAlong [] before ++ (graph.heirs before id ++
        graph.heirsAlong (before ++ [id]) after) := by
  rw [heirsAlong_append, heirsAlong, List.nil_append]

/-- What is released along an order is an heir of one of its nodes. -/
theorem mem_heirsAlong {taken order : List String} {other : String} :
    other ∈ graph.heirsAlong taken order ↔
      ∃ before id after, order = before ++ id :: after ∧
        other ∈ graph.heirs (taken ++ before) id := by
  constructor
  · intro h
    induction order generalizing taken with
    | nil => exact absurd h List.not_mem_nil
    | cons first rest ih =>
      rcases List.mem_append.mp h with hfirst | hrest
      · exact ⟨[], first, rest, rfl, by simpa using hfirst⟩
      · obtain ⟨before, id, after, hsplit, hmem⟩ := ih hrest
        exact ⟨first :: before, id, after, by simp [hsplit], by simpa using hmem⟩
  · rintro ⟨before, id, after, rfl, hmem⟩
    rw [heirsAlong_append, heirsAlong]
    exact List.mem_append_right _ (List.mem_append_left _ hmem)

namespace Sweep

variable {sweep next : Sweep} {id : String} {rest : List String}

/-- The nodes whose count is used up are those whose sources are all taken. -/
theorem Invariant.released_eq (h : Invariant graph sweep) (hqueue : sweep.queue = id :: rest) :
    released graph sweep id = graph.heirs sweep.order id := by
  refine List.filter_congr fun other _ => ?_
  have hnone :
      (graph.sourcesOf other).countP (fun source => !(sweep.order ++ [id]).contains source) = 0 ↔
        ∀ source ∈ graph.sourcesOf other, source ∈ sweep.order ++ [id] := by
    simp [List.countP_eq_zero, or_iff_not_imp_left]
  rw [decide_eq_decide, h.waiting, countP_not_taken graph (h.not_mem_order hqueue), ← hnone]
  omega

/-- All that was ever in the queue are the roots and what the taken nodes released. -/
def Lined (graph : Graph) (sweep : Sweep) : Prop :=
  sweep.order ++ sweep.queue = graph.roots ++ graph.heirsAlong [] sweep.order

/-- Taking a node keeps this. -/
theorem Lined.take (hlined : Lined graph sweep) (h : Invariant graph sweep)
    (hqueue : sweep.queue = id :: rest) (hnext : sweep.take graph = .ok next) :
    Lined graph next := by
  rw [h.take_eq hqueue, h.released_eq hqueue] at hnext
  obtain rfl := Except.ok.inj hnext
  unfold Lined at hlined ⊢
  rw [hqueue] at hlined
  calc sweep.order ++ [id] ++ (rest ++ graph.heirs sweep.order id)
      = sweep.order ++ id :: rest ++ graph.heirs sweep.order id := by simp
    _ = graph.roots ++ graph.heirsAlong [] sweep.order ++ graph.heirs sweep.order id := by
      rw [hlined]
    _ = graph.roots ++ graph.heirsAlong [] (sweep.order ++ [id]) := by
      simp [heirsAlong_append, heirsAlong]

end Sweep

/-- The queue order is made of the roots and of what its nodes release. -/
theorem eq_roots_append_of_queueOrder_eq_ok (hnodes : graph.nodes.Nodup) {order : List String}
    (h : graph.queueOrder = .ok order) : order = graph.roots ++ graph.heirsAlong [] order := by
  have hstart := Sweep.Invariant.seed hnodes
  have hseed : Sweep.Lined graph graph.seed := by
    simp [Sweep.Lined, seed, roots, heirsAlong]
  obtain ⟨last, hrun, -, hend⟩ := hstart.exists_run Sweep.Lined.take hseed graph.nodes.length
  have hqueue := Sweep.queue_eq_nil_of_run_eq_ok Sweep.Invariant.take Sweep.Invariant.length_le
    hstart (Nat.le_add_left _ _) hrun
  rw [queueOrder, hrun] at h
  dsimp only at h
  split at h
  · contradiction
  · obtain rfl := Except.ok.inj h
    simpa [Sweep.Lined, hqueue] using hend

/-! ## Places in an order -/

theorem idxOf_lt_of_pair_sublist {order : List String} {first second : String}
    (hnodup : order.Nodup) (h : [first, second].Sublist order) :
    order.idxOf first < order.idxOf second := by
  obtain ⟨front, back, rfl, hfirst, hsecond⟩ := List.cons_sublist_iff.mp h
  have hback : second ∈ back := List.singleton_sublist.mp hsecond
  have hfront : second ∉ front := fun hmem =>
    (List.nodup_append.mp hnodup).2.2 second hmem second hback rfl
  rw [List.idxOf_append_of_mem hfirst, List.idxOf_append_of_notMem hfront]
  exact Nat.lt_of_lt_of_le (List.idxOf_lt_length_of_mem hfirst) (Nat.le_add_right _ _)

theorem pair_sublist_of_idxOf_lt {order : List String} {first second : String}
    (hsecond : second ∈ order) (h : order.idxOf first < order.idxOf second) :
    [first, second].Sublist order := by
  obtain ⟨front, back, rfl, hfront⟩ := List.eq_append_cons_of_mem hsecond
  have hfirst : first ∈ front := by
    by_contra hmiss
    rw [List.idxOf_append_of_notMem hfront, List.idxOf_cons_self,
      List.idxOf_append_of_notMem hmiss] at h
    omega
  exact (List.singleton_sublist.mpr hfirst).append
    (List.singleton_sublist.mpr List.mem_cons_self)

theorem idxOf_eq_length {before after : List String} {id : String}
    (hnodup : (before ++ id :: after).Nodup) :
    (before ++ id :: after).idxOf id = before.length := by
  have hfresh : id ∉ before := fun hmem =>
    (List.nodup_append.mp hnodup).2.2 id hmem id List.mem_cons_self rfl
  rw [List.idxOf_append_of_notMem hfresh, List.idxOf_cons_self, Nat.add_zero]

/-- A node is the source of a link into another, and none of the other sources stands behind it. -/
structure LastSource (graph : Graph) (order : List String) (id source : String) : Prop where
  /-- The node is a source. -/
  leads : graph.Leads source id
  /-- It stands last. -/
  last : ∀ other, graph.Leads other id → order.idxOf other ≤ order.idxOf source

/-- The last link from a node to another comes before the last one to a third: counted from the end
of the links, the latter is found first. -/
def LinksFirst (graph : Graph) (source first second : String) : Prop :=
  graph.links.reverse.idxOf ⟨source, second⟩ < graph.links.reverse.idxOf ⟨source, first⟩

/-- A node has one last source. -/
theorem LastSource.eq {order : List String} {id source other : String}
    (h : graph.LastSource order id source) (hother : graph.LastSource order id other)
    (hmem : source ∈ order) : source = other :=
  (List.idxOf_inj hmem).mp
    (Nat.le_antisymm (hother.last source h.leads) (h.last other hother.leads))

/-- Behind the last link to one node there is a link to the other. -/
theorem LinksFirst.exists_split {source first second : String}
    (h : graph.LinksFirst source first second) (hfirst : graph.Leads source first) :
    ∃ before after, graph.links = before ++ ⟨source, first⟩ :: after ∧
      ⟨source, first⟩ ∉ after ∧ ⟨source, second⟩ ∈ after := by
  obtain ⟨back, front, hsplit, hlast⟩ :=
    List.eq_append_cons_of_mem (List.mem_reverse.mpr hfirst.1)
  refine ⟨front.reverse, back.reverse, ?_, by simpa using hlast, ?_⟩
  · rw [← List.reverse_reverse graph.links, hsplit]
    simp
  · rw [List.mem_reverse]
    by_contra hmiss
    unfold LinksFirst at h
    rw [hsplit, List.idxOf_append_of_notMem hlast, List.idxOf_cons_self,
      List.idxOf_append_of_notMem hmiss] at h
    omega

/-- Targets without their earlier mentions stand in the order of the last links to them. -/
theorem LinksFirst.pair_sublist {source first second : String}
    (h : graph.LinksFirst source first second) (hfirst : graph.Leads source first)
    (hsecond : graph.Leads source second) :
    [first, second].Sublist (graph.targetsOf source).dedup := by
  obtain ⟨before, after, hsplit, hlast, hlink⟩ := h.exists_split hfirst
  let behind : Graph := { graph with links := after }
  have htargets : graph.targetsOf source =
      ({ graph with links := before } : Graph).targetsOf source ++
        first :: behind.targetsOf source := by
    simp only [targetsOf, innerLinks, hsplit, List.filter_append, List.filter_cons, behind]
    simp [hfirst.2.1, hfirst.2.2]
  have hnotMem : first ∉ behind.targetsOf source := fun hmem => hlast (mem_targetsOf.mp hmem).1
  have hmem : second ∈ behind.targetsOf source := mem_targetsOf.mpr ⟨hlink, hsecond.2⟩
  rw [htargets, List.dedup_append, List.dedup_cons_of_notMem hnotMem]
  refine List.Sublist.trans ?_ (List.suffix_union_right _ _).sublist
  exact (List.singleton_sublist.mpr (List.mem_dedup.mpr hmem)).cons_cons first

/-- An order of the nodes that is made of the roots and of what its own nodes release. -/
structure Queued (graph : Graph) (order : List String) : Prop where
  /-- The order holds the nodes, each behind its sources. -/
  sorted : graph.Sorted order
  /-- No node stands twice. -/
  nodup : order.Nodup
  /-- The order releases itself. -/
  eq : order = graph.roots ++ graph.heirsAlong [] order

namespace Queued

variable {order : List String}

theorem source_mem (h : graph.Queued order) {source id : String} (hleads : graph.Leads source id) :
    source ∈ order := h.sorted.perm.mem_iff.mpr hleads.2.1

/-- A node that is no root is released by its last source. -/
theorem exists_mem_heirs (h : graph.Queued order) {id source : String}
    (hleads : graph.Leads source id) :
    ∃ before last after, order = before ++ last :: after ∧ id ∈ graph.heirs before last := by
  have hid : id ∈ order := h.sorted.perm.mem_iff.mpr hleads.2.2
  rw [h.eq] at hid
  rcases List.mem_append.mp hid with hroot | hheir
  · exact absurd hleads ((mem_roots.mp hroot).2 source)
  · simpa using mem_heirsAlong.mp hheir

/-- The node that releases another is its last source. -/
theorem lastSource_of_mem_heirs (h : graph.Queued order) {before after : List String}
    {id last : String} (hsplit : order = before ++ last :: after)
    (hheir : id ∈ graph.heirs before last) : graph.LastSource order id last := by
  obtain ⟨hleads, hall⟩ := mem_heirs.mp hheir
  refine ⟨hleads, fun other hother => ?_⟩
  have hnodup := h.nodup
  rw [hsplit] at hnodup ⊢
  rw [idxOf_eq_length hnodup]
  rcases List.mem_append.mp (hall other hother) with hmem | hmem
  · rw [List.idxOf_append_of_mem hmem]
    exact Nat.le_of_lt (List.idxOf_lt_length_of_mem hmem)
  · rw [List.mem_singleton.mp hmem, idxOf_eq_length hnodup]

/-- A node with sources has a last one. -/
theorem exists_lastSource (h : graph.Queued order) {id source : String}
    (hleads : graph.Leads source id) : ∃ last, graph.LastSource order id last := by
  obtain ⟨before, last, after, hsplit, hheir⟩ := h.exists_mem_heirs hleads
  exact ⟨last, h.lastSource_of_mem_heirs hsplit hheir⟩

/-- The last source of a node releases it. -/
theorem exists_split (h : graph.Queued order) {id last : String}
    (hlast : graph.LastSource order id last) :
    ∃ before after, order = before ++ last :: after ∧ id ∈ graph.heirs before last := by
  obtain ⟨before, found, after, hsplit, hheir⟩ := h.exists_mem_heirs hlast.leads
  have hfound := h.lastSource_of_mem_heirs hsplit hheir
  obtain rfl := hfound.eq hlast (h.source_mem hfound.leads)
  exact ⟨before, after, hsplit, hheir⟩

/-- What is released in turn stands in turn. -/
theorem sublist_order (h : graph.Queued order) {ids : List String}
    (hids : ids.Sublist (graph.heirsAlong [] order)) : ids.Sublist order := by
  rw [h.eq]
  exact hids.trans (List.sublist_append_right _ _)

/-- A node whose last source stands earlier stands earlier. -/
theorem idxOf_lt_of_lastSource_lt (h : graph.Queued order) {first second p q : String}
    (hfirst : graph.LastSource order first p) (hsecond : graph.LastSource order second q)
    (hlt : order.idxOf p < order.idxOf q) : order.idxOf first < order.idxOf second := by
  obtain ⟨before, after, hsplit, hheir⟩ := h.exists_split hfirst
  obtain ⟨front, back, hsplit', hheir'⟩ := h.exists_split hsecond
  have hshort : before.length < front.length := by
    have hp := idxOf_eq_length (hsplit ▸ h.nodup)
    have hq := idxOf_eq_length (hsplit' ▸ h.nodup)
    rw [← hsplit] at hp
    rw [← hsplit'] at hq
    omega
  obtain ⟨middle, rfl, hafter⟩ : ∃ middle, front = before ++ p :: middle ∧
      after = middle ++ q :: back := by
    rcases List.append_eq_append_iff.mp (hsplit.symm.trans hsplit') with
      ⟨extra, rfl, hextra⟩ | ⟨extra, rfl, -⟩
    · cases extra with
      | nil => simp at hshort
      | cons head middle =>
        obtain ⟨rfl, hafter⟩ := List.cons.inj hextra
        exact ⟨middle, rfl, hafter⟩
    · rw [List.length_append] at hshort
      omega
  have hbehind : second ∈ graph.heirsAlong (before ++ [p]) after :=
    mem_heirsAlong.mpr ⟨middle, q, back, hafter, by simpa using hheir'⟩
  refine idxOf_lt_of_pair_sublist h.nodup (h.sublist_order ?_)
  rw [hsplit, heirsAlong_split]
  refine List.Sublist.trans ?_ (List.sublist_append_right _ _)
  exact (List.singleton_sublist.mpr hheir).append (List.singleton_sublist.mpr hbehind)

/-- Of two nodes with one last source, the one whose last link comes first stands earlier. -/
theorem idxOf_lt_of_linksFirst (h : graph.Queued order) {first second p : String}
    (hfirst : graph.LastSource order first p) (hsecond : graph.LastSource order second p)
    (hlinks : graph.LinksFirst p first second) : order.idxOf first < order.idxOf second := by
  obtain ⟨before, after, hsplit, hheir⟩ := h.exists_split hfirst
  obtain ⟨front, back, hsplit', hheir'⟩ := h.exists_split hsecond
  obtain rfl : before = front := by
    have hlength := idxOf_eq_length (hsplit' ▸ h.nodup)
    rw [← hsplit', hsplit, idxOf_eq_length (hsplit ▸ h.nodup)] at hlength
    exact (List.append_inj (hsplit.symm.trans hsplit') hlength).1
  have hpair : [first, second].Sublist (graph.heirs before p) := by
    have hsub := (hlinks.pair_sublist hfirst.leads hsecond.leads).filter
      fun other => ∀ source ∈ graph.sourcesOf other, source ∈ before ++ [p]
    rwa [List.filter_eq_self.mpr] at hsub
    intro other hother
    rcases List.mem_pair.mp hother with rfl | rfl
    · exact (List.mem_filter.mp hheir).2
    · exact (List.mem_filter.mp hheir').2
  refine idxOf_lt_of_pair_sublist h.nodup (h.sublist_order ?_)
  rw [hsplit, heirsAlong_split]
  exact hpair.trans ((List.sublist_append_left _ _).trans (List.sublist_append_right _ _))

/-- The last sources and the last links decide which of two nodes stands earlier. -/
theorem idxOf_lt_iff (h : graph.Queued order) {first second p q : String}
    (hfirst : graph.LastSource order first p) (hsecond : graph.LastSource order second q) :
    order.idxOf first < order.idxOf second ↔
      order.idxOf p < order.idxOf q ∨ p = q ∧ graph.LinksFirst p first second := by
  constructor
  · intro hlt
    -- otherwise the sources and links would put the second node first
    rcases Nat.lt_trichotomy (order.idxOf p) (order.idxOf q) with hbefore | hsame | hbehind
    · exact .inl hbefore
    · obtain rfl := (List.idxOf_inj (h.source_mem hfirst.leads)).mp hsame
      refine .inr ⟨rfl, ?_⟩
      by_contra hlinks
      have hne : graph.links.reverse.idxOf ⟨p, first⟩ ≠ graph.links.reverse.idxOf ⟨p, second⟩ := by
        intro heq
        have hlink := (List.idxOf_inj (List.mem_reverse.mpr hfirst.leads.1)).mp heq
        rw [(Link.mk.inj hlink).2] at hlt
        exact Nat.lt_irrefl _ hlt
      have hother : graph.LinksFirst p second first := by
        unfold LinksFirst at hlinks ⊢
        omega
      exact Nat.lt_asymm hlt (h.idxOf_lt_of_linksFirst hsecond hfirst hother)
    · exact absurd (h.idxOf_lt_of_lastSource_lt hsecond hfirst hbehind) (Nat.lt_asymm hlt)
  · rintro (hbefore | ⟨rfl, hlinks⟩)
    · exact h.idxOf_lt_of_lastSource_lt hfirst hsecond hbefore
    · exact h.idxOf_lt_of_linksFirst hfirst hsecond hlinks

/-- The roots stand in front. -/
theorem idxOf_lt_of_root (h : graph.Queued order) {root id source : String}
    (hroot : root ∈ graph.roots) (hleads : graph.Leads source id) :
    order.idxOf root < order.idxOf id := by
  obtain ⟨before, last, after, hsplit, hheir⟩ := h.exists_mem_heirs hleads
  have hmem : id ∈ graph.heirsAlong [] order :=
    mem_heirsAlong.mpr ⟨before, last, after, hsplit, hheir⟩
  refine idxOf_lt_of_pair_sublist h.nodup ?_
  rw [h.eq]
  exact (List.singleton_sublist.mpr hroot).append (List.singleton_sublist.mpr hmem)

end Queued

/-! ## Depth -/

/-- A way of some number of links ends at a node. -/
inductive WayTo (graph : Graph) : Nat → String → Prop where
  /-- The way begins at the node. -/
  | start {id : String} : id ∈ graph.nodes → WayTo graph 0 id
  /-- The way goes on along a link. -/
  | link {length : Nat} {source target : String} : WayTo graph length source →
    graph.Leads source target → WayTo graph (length + 1) target

/-- The number of links on the longest way to a node. -/
noncomputable def depth (graph : Graph) (id : String) : Nat := sSup {length | graph.WayTo length id}

namespace Acyclic

/-- Without a cycle there is a longest way to each node. -/
theorem isGreatest_depth (h : graph.Acyclic) {id : String} (hid : id ∈ graph.nodes) :
    IsGreatest {length | graph.WayTo length id} (graph.depth id) := by
  have hbound : BddAbove {length | graph.WayTo length id} := by
    refine induction_from_sources
      (P := fun id => BddAbove {length | graph.WayTo length id}) ?_ hid (h.not_behindCycle id)
    intro id _ hsources
    obtain ⟨bound, hall⟩ := ((List.finite_toSet (graph.sourcesOf id)).bddAbove_biUnion).mpr
      fun source hsource => hsources source (mem_sourcesOf.mp hsource)
    refine ⟨bound + 1, fun length hway => ?_⟩
    cases hway with
    | start => exact Nat.zero_le _
    | link hway hleads =>
      exact Nat.succ_le_succ (hall (Set.mem_biUnion (mem_sourcesOf.mpr hleads) hway))
  exact ⟨Nat.sSup_mem ⟨0, .start hid⟩ hbound, fun _ hway => le_csSup hbound hway⟩

/-- Links lead to greater depth. -/
theorem depth_lt (h : graph.Acyclic) {source target : String}
    (hleads : graph.Leads source target) : graph.depth source < graph.depth target :=
  (h.isGreatest_depth hleads.2.2).2 (.link (h.isGreatest_depth hleads.2.1).1 hleads)

/-- The longest way to a node that is no root goes through one of its sources. -/
theorem exists_source_of_depth_pos (h : graph.Acyclic) {id : String} (hid : id ∈ graph.nodes)
    (hpos : 0 < graph.depth id) :
    ∃ source, graph.Leads source id ∧ graph.depth id = graph.depth source + 1 := by
  have hway : graph.WayTo (graph.depth id) id := (h.isGreatest_depth hid).1
  cases hdepth : graph.depth id with
  | zero => omega
  | succ length =>
    rw [hdepth] at hway
    obtain - | ⟨hshorter, hleads⟩ := hway
    have hlt := h.depth_lt hleads
    have hle := (h.isGreatest_depth hleads.2.1).2 hshorter
    exact ⟨_, hleads, by omega⟩

/-- At depth zero are the nodes that no node leads to. -/
theorem depth_eq_zero_iff (h : graph.Acyclic) {id : String} (hid : id ∈ graph.nodes) :
    graph.depth id = 0 ↔ ∀ source, ¬graph.Leads source id := by
  constructor
  · intro hzero source hleads
    have hlt := h.depth_lt hleads
    omega
  · intro hnone
    by_contra hne
    obtain ⟨source, hleads, -⟩ := h.exists_source_of_depth_pos hid (Nat.pos_of_ne_zero hne)
    exact hnone source hleads

end Acyclic

/-- A node never stands before one that lies less deep. -/
theorem Queued.depth_le {order : List String} (h : graph.Queued order) (hacyclic : graph.Acyclic)
    {first second : String} (hfirst : first ∈ order) (hsecond : second ∈ order)
    (hlt : order.idxOf first < order.idxOf second) : graph.depth first ≤ graph.depth second := by
  -- the places of the second nodes fall along their last sources
  induction hplace : order.idxOf second using Nat.strong_induction_on generalizing first second with
  | h place ih =>
    rcases Nat.eq_zero_or_pos (graph.depth first) with hzero | hpos
    · omega
    · have hnode : second ∈ graph.nodes := h.sorted.perm.mem_iff.mp hsecond
      obtain ⟨source, hsource, hdepth⟩ :=
        hacyclic.exists_source_of_depth_pos (h.sorted.perm.mem_iff.mp hfirst) hpos
      obtain ⟨other, hother⟩ : ∃ other, graph.Leads other second := by
        by_contra hnone
        have hroot : second ∈ graph.roots := mem_roots.mpr ⟨hnode, not_exists.mp hnone⟩
        exact Nat.lt_asymm hlt (h.idxOf_lt_of_root hroot hsource)
      obtain ⟨p, hp⟩ := h.exists_lastSource hsource
      obtain ⟨q, hq⟩ := h.exists_lastSource hother
      have hle : order.idxOf source ≤ order.idxOf q := by
        have hlast := hp.last source hsource
        rcases (h.idxOf_lt_iff hp hq).mp hlt with hbefore | ⟨rfl, -⟩ <;> omega
      have hup : order.idxOf q < order.idxOf second := h.sorted.follows.idxOf_lt hq.leads hsecond
      have hshallow : graph.depth source ≤ graph.depth q := by
        rcases Nat.eq_or_lt_of_le hle with hsame | hbefore
        · rw [(List.idxOf_inj (h.source_mem hsource)).mp hsame]
        · exact ih _ (by omega) (h.source_mem hsource) (h.source_mem hq.leads) hbefore rfl
      have hdeep := hacyclic.depth_lt hq.leads
      omega

/-! ## The order of the layers -/

/-- An order of the nodes by depth. Nodes at depth zero stand as they are listed. Which of two
deeper nodes stands earlier is decided by the places of their last sources, and if that is one node
by the last links from it. -/
structure Layered (graph : Graph) (order : List String) : Prop where
  /-- The order holds every node as often as it is listed. -/
  perm : order.Perm graph.nodes
  /-- The depth never falls. -/
  rising : order.Pairwise fun first second => graph.depth first ≤ graph.depth second
  /-- The first layer is as listed. -/
  listed : (order.filter fun id => graph.depth id = 0) =
    graph.nodes.filter fun id => graph.depth id = 0
  /-- The other layers follow the layers before them. -/
  settled : ∀ first ∈ order, ∀ second ∈ order, 0 < graph.depth first → 0 < graph.depth second →
    ∃ p q, graph.LastSource order first p ∧ graph.LastSource order second q ∧
      (order.idxOf first < order.idxOf second ↔
        order.idxOf p < order.idxOf q ∨ p = q ∧ graph.LinksFirst p first second)

/-- Without a cycle a queue order goes by depth. -/
theorem Queued.layered {order : List String} (h : graph.Queued order) (hacyclic : graph.Acyclic) :
    graph.Layered order := by
  refine ⟨h.sorted.perm, ?_, ?_, ?_⟩
  · rw [List.pairwise_iff_forall_sublist]
    intro first second hpair
    exact h.depth_le hacyclic (hpair.subset (by simp)) (hpair.subset (by simp))
      (idxOf_lt_of_pair_sublist h.nodup hpair)
  · have hzero (id : String) (hid : id ∈ graph.nodes) :
        graph.depth id = 0 ↔ id ∈ graph.roots := by
      rw [hacyclic.depth_eq_zero_iff hid, mem_roots, and_iff_right hid]
    have hroots : (graph.nodes.filter fun id => graph.depth id = 0) = graph.roots := by
      refine List.filter_congr fun id hid => ?_
      rw [Bool.eq_iff_iff, decide_eq_true_iff, hzero id hid, roots, List.mem_filter,
        and_iff_right hid]
    have hfront : ∀ id ∈ graph.roots, decide (graph.depth id = 0) = true := fun id hid =>
      decide_eq_true ((hzero id (mem_roots.mp hid).1).mpr hid)
    have hback : ∀ id ∈ graph.heirsAlong [] order, ¬decide (graph.depth id = 0) = true := by
      intro id hid
      obtain ⟨before, source, after, -, hheir⟩ := mem_heirsAlong.mp hid
      have hlt := hacyclic.depth_lt (mem_heirs.mp hheir).1
      simp only [decide_eq_true_iff]
      omega
    rw [hroots]
    conv_lhs => rw [h.eq]
    rw [List.filter_append, List.filter_eq_self.mpr hfront, List.filter_eq_nil_iff.mpr hback,
      List.append_nil]
  · intro first hfirst second hsecond hdeep hdeep'
    obtain ⟨source, hsource, -⟩ :=
      hacyclic.exists_source_of_depth_pos (h.sorted.perm.mem_iff.mp hfirst) hdeep
    obtain ⟨other, hother, -⟩ :=
      hacyclic.exists_source_of_depth_pos (h.sorted.perm.mem_iff.mp hsecond) hdeep'
    obtain ⟨p, hp⟩ := h.exists_lastSource hsource
    obtain ⟨q, hq⟩ := h.exists_lastSource hother
    exact ⟨p, q, hp, hq, h.idxOf_lt_iff hp hq⟩

namespace Layered

variable {order other : List String}

theorem depth_le (h : graph.Layered order) {first second : String} (hsecond : second ∈ order)
    (hlt : order.idxOf first < order.idxOf second) : graph.depth first ≤ graph.depth second :=
  List.pairwise_iff_forall_sublist.mp h.rising (pair_sublist_of_idxOf_lt hsecond hlt)

theorem nodup (h : graph.Layered order) (hnodes : graph.nodes.Nodup) : order.Nodup :=
  h.perm.nodup_iff.mpr hnodes

/-- Two layered orders agree about any two nodes. -/
theorem idxOf_lt (h : graph.Layered order) (h' : graph.Layered other) (hnodes : graph.nodes.Nodup)
    (hacyclic : graph.Acyclic) {first second : String} (hfirst : first ∈ graph.nodes)
    (hsecond : second ∈ graph.nodes) (hlt : order.idxOf first < order.idxOf second) :
    other.idxOf first < other.idxOf second := by
  -- by layers: what is known of the sources decides about the nodes behind them
  induction hbound : graph.depth second using Nat.strong_induction_on
    generalizing first second with
  | h bound ih =>
    have hmem {id : String} (hid : id ∈ graph.nodes) : id ∈ order ∧ id ∈ other :=
      ⟨h.perm.mem_iff.mpr hid, h'.perm.mem_iff.mpr hid⟩
    have hle := h.depth_le (hmem hsecond).1 hlt
    rcases Nat.eq_or_lt_of_le hle with hsame | hless
    · rcases Nat.eq_zero_or_pos (graph.depth second) with hzero | hpos
      · have hlisted : (order.filter fun id => graph.depth id = 0).Sublist other := by
          rw [h.listed, ← h'.listed]
          exact List.filter_sublist
        have hpair := (pair_sublist_of_idxOf_lt (hmem hsecond).1 hlt).filter
          fun id => graph.depth id = 0
        rw [List.filter_eq_self.mpr (by simp [hsame, hzero])] at hpair
        exact idxOf_lt_of_pair_sublist (h'.nodup hnodes) (hpair.trans hlisted)
      · obtain ⟨p, q, hp, hq, hiff⟩ := h.settled first (hmem hfirst).1 second (hmem hsecond).1
          (hsame ▸ hpos) hpos
        obtain ⟨p', q', hp', hq', hiff'⟩ := h'.settled first (hmem hfirst).2 second
          (hmem hsecond).2 (hsame ▸ hpos) hpos
        have hlast {id last last' : String} (hid : graph.depth id = bound)
            (hl : graph.LastSource order id last) (hl' : graph.LastSource other id last') :
            last = last' := by
          by_contra hne
          have hplace : order.idxOf last' < order.idxOf last :=
            Nat.lt_of_le_of_ne (hl.last last' hl'.leads) fun heq =>
              hne ((List.idxOf_inj (hmem hl'.leads.2.1).1).mp heq).symm
          have hdepth := hacyclic.depth_lt hl.leads
          have hother := ih _ (by omega) hl'.leads.2.1 hl.leads.2.1 hplace rfl
          have hlater := hl'.last last hl.leads
          omega
        obtain rfl := hlast (hsame.trans hbound) hp hp'
        obtain rfl := hlast hbound hq hq'
        have hdepth := hacyclic.depth_lt hq.leads
        refine hiff'.mpr ((hiff.mp hlt).imp_left fun hbefore => ?_)
        exact ih _ (by omega) hp.leads.2.1 hq.leads.2.1 hbefore rfl
    · by_contra hnot
      have hne : other.idxOf second ≠ other.idxOf first := fun heq => by
        rw [(List.idxOf_inj (hmem hsecond).2).mp heq] at hless
        exact Nat.lt_irrefl _ hless
      have hback := h'.depth_le (hmem hfirst).2 (by omega : other.idxOf second < other.idxOf first)
      omega

/-- There is at most one layered order. -/
theorem eq (h : graph.Layered order) (h' : graph.Layered other) (hnodes : graph.nodes.Nodup)
    (hacyclic : graph.Acyclic) : order = other := by
  refine @List.Perm.eq_of_pairwise _ (fun first second => order.idxOf first < order.idxOf second)
    _ _ (fun first second _ _ hlt hgt => absurd hlt (Nat.lt_asymm hgt)) ?_ ?_
    (h.perm.trans h'.perm.symm)
  · exact List.pairwise_iff_forall_sublist.mpr (idxOf_lt_of_pair_sublist (h.nodup hnodes))
  · refine List.pairwise_iff_forall_sublist.mpr fun {first second} hpair => ?_
    have hnode {id : String} (hid : id ∈ [first, second]) : id ∈ graph.nodes :=
      h'.perm.mem_iff.mp (hpair.subset hid)
    exact h'.idxOf_lt h hnodes hacyclic (hnode (by simp)) (hnode (by simp))
      (idxOf_lt_of_pair_sublist (h'.nodup hnodes) hpair)

end Layered

/-- In a graph of different nodes without a cycle, every node has a longest way that leads to it,
and the queue order is the one order of the nodes that goes by the lengths of these ways, keeps the
first layer as it is listed, and in all others goes by the last source and then by the last link
from it. -/
theorem queueOrder_layered (graph : Graph) (hnodes : graph.nodes.Nodup)
    (hacyclic : graph.Acyclic) :
    (∀ id ∈ graph.nodes, IsGreatest {length | graph.WayTo length id} (graph.depth id)) ∧
      (∃ order, graph.queueOrder = .ok order) ∧
      ∀ order, graph.queueOrder = .ok order ↔ graph.Layered order := by
  obtain ⟨order, horder, hsorted⟩ := hacyclic.exists_queueOrder hnodes
  have hlayered : graph.Layered order :=
    Queued.layered ⟨hsorted, hsorted.perm.nodup_iff.mpr hnodes,
      eq_roots_append_of_queueOrder_eq_ok hnodes horder⟩ hacyclic
  refine ⟨fun id hid => hacyclic.isGreatest_depth hid, ⟨order, horder⟩, fun other => ⟨?_, ?_⟩⟩
  · intro hother
    obtain rfl := Except.ok.inj (horder.symm.trans hother)
    exact hlayered
  · intro hother
    rw [horder, hlayered.eq hother hnodes hacyclic]

/-- Two roots, listed behind the other nodes. One of them leads to two nodes, to one of these twice
with the link to the other in between, and the last node is behind both roots. -/
def sampleFan : Graph :=
  ⟨["e", "d", "c", "b", "a"],
    [⟨"a", "c"⟩, ⟨"a", "d"⟩, ⟨"a", "c"⟩, ⟨"b", "e"⟩, ⟨"c", "e"⟩]⟩

/-- In the sample the last of two links to one node decides its place. -/
theorem queueOrder_layered_sampleFan :
    sampleFan.nodes.Nodup ∧ sampleFan.Acyclic ∧
      sampleFan.queueOrder = .ok ["b", "a", "d", "c", "e"] ∧
      IsGreatest {length | sampleFan.WayTo length "e"} (sampleFan.depth "e") ∧
      sampleFan.Layered ["b", "a", "d", "c", "e"] ∧ sampleFan.LinksFirst "a" "d" "c" := by
  have hnodes : sampleFan.nodes.Nodup := by decide
  have horder : sampleFan.queueOrder = .ok ["b", "a", "d", "c", "e"] := by rfl
  have hacyclic : sampleFan.Acyclic := (sorted_of_queueOrder_eq_ok hnodes horder).acyclic
  obtain ⟨hdepth, -, hlayered⟩ := queueOrder_layered sampleFan hnodes hacyclic
  exact ⟨hnodes, hacyclic, horder, hdepth "e" (by decide), (hlayered _).mp horder,
    by unfold LinksFirst; decide⟩

end Dataflow.Graph
