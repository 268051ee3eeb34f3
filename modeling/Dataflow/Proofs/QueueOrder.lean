import Dataflow.Proofs.Graph
import Mathlib.Data.List.Dedup
import Mathlib.Data.List.Perm.Subperm

/-!
# The queue order

A sweep takes a node once all links into it are passed. Parallel links are counted one by one, both
when they are counted and when they are passed, so a node joins the queue exactly when its last link
is passed. A link that is not counted any more breaks the sweep off, but with different nodes every
link is passed once and as many steps as there are nodes empty the queue. A node is then left out
exactly if a cycle leads to it, so the queue order exists for the graphs without a cycle and puts
the source of every link before its target.
-/

namespace Dataflow.Graph

variable {graph : Graph}

/-- Links between two nodes are as many seen from the one as from the other. -/
theorem count_targetsOf (graph : Graph) (source target : String) :
    (graph.targetsOf source).count target = (graph.sourcesOf target).count source := by
  simp only [targetsOf, sourcesOf, List.count, List.countP_map, List.countP_filter]
  refine List.countP_congr fun link _ => ?_
  simp only [Function.comp_apply, Bool.and_eq_true, beq_iff_eq]
  exact And.comm

namespace Sweep

variable {sweep next : Sweep} {id : String} {rest : List String}

/-! ## Passing links -/

/-- A link that is still counted is passed. -/
theorem pass_eq_ok {target : String} (h : sweep.waiting target ≠ 0) :
    sweep.pass target = .ok
      { sweep with
        waiting := fun id => sweep.waiting id - if target = id then 1 else 0
        queue := if sweep.waiting target = 1 then sweep.queue ++ [target] else sweep.queue } := by
  obtain ⟨left, hleft⟩ := Nat.exists_eq_succ_of_ne_zero h
  have hwaiting : (fun id => if id = target then left else sweep.waiting id) =
      fun id => sweep.waiting id - if target = id then 1 else 0 := by
    funext id
    by_cases hid : target = id
    · simp [← hid, hleft]
    · simp [hid, Ne.symm hid]
  unfold pass
  rw [hleft]
  simp only [hwaiting, Nat.succ_eq_add_one, Nat.add_eq_right]

/-- A link that is not counted breaks the sweep off. -/
theorem pass_eq_error {target : String} (h : sweep.waiting target = 0) :
    sweep.pass target = .error ⟨target⟩ := by
  unfold pass
  rw [h]

/-- The sweep after links that were all counted: the nodes whose count is used up join the queue,
each where its last link is passed. -/
def passed (sweep : Sweep) (targets : List String) : Sweep :=
  { sweep with
    queue := sweep.queue ++
      targets.dedup.filter fun id => sweep.waiting id = targets.count id
    waiting := fun id => sweep.waiting id - targets.count id }

/-- To pass links that are all counted is to pass the first and then the others. -/
theorem passed_cons {target : String} (h : ∀ id, (target :: rest).count id ≤ sweep.waiting id)
    (hnext : sweep.pass target = .ok next) : next.passed rest = sweep.passed (target :: rest) := by
  have hcount (id : String) : (target :: rest).count id =
      rest.count id + if target = id then 1 else 0 := by
    rw [List.count_cons]
    simp only [beq_iff_eq]
  have htarget := h target
  rw [hcount, if_pos rfl] at htarget
  rw [pass_eq_ok (by omega)] at hnext
  obtain rfl := Except.ok.inj hnext
  have hlast (id : String) : sweep.waiting id - (if target = id then 1 else 0) = rest.count id ↔
      sweep.waiting id = (target :: rest).count id := by
    have hid := h id
    rw [hcount] at hid ⊢
    omega
  have hleft (id : String) : sweep.waiting id - (if target = id then 1 else 0) - rest.count id =
      sweep.waiting id - (target :: rest).count id := by
    rw [hcount]
    omega
  simp only [passed, hlast, hleft, mk.injEq, and_true]
  by_cases hmore : target ∈ rest
  · -- another link into the target follows, so its count is not used up yet
    have hpos := List.count_pos_iff.mpr hmore
    rw [List.dedup_cons_of_mem hmore, if_neg (by omega)]
  · rw [List.dedup_cons_of_notMem hmore, List.filter_cons, hcount, List.count_eq_zero.mpr hmore]
    by_cases hone : sweep.waiting target = 1 <;> simp [hone]

/-- Links are passed if all of them are counted, and otherwise break the sweep off at a node with
too few. -/
theorem foldlM_pass_cases (targets : List String) (sweep : Sweep) :
    ((∀ id, targets.count id ≤ sweep.waiting id) ∧
      targets.foldlM pass sweep = .ok (sweep.passed targets)) ∨
    ∃ id, sweep.waiting id < targets.count id ∧ targets.foldlM pass sweep = .error ⟨id⟩ := by
  induction targets generalizing sweep with
  | nil => exact .inl ⟨fun id => Nat.zero_le _, by simp [passed, pure, Except.pure]⟩
  | cons target rest ih =>
    by_cases hzero : sweep.waiting target = 0
    · refine .inr ⟨target, by simp [hzero], ?_⟩
      rw [List.foldlM_cons, pass_eq_error hzero]
      rfl
    · obtain ⟨next, hnext⟩ : ∃ next, sweep.pass target = .ok next := ⟨_, pass_eq_ok hzero⟩
      have hcount (id : String) :
          rest.count id ≤ next.waiting id ↔ (target :: rest).count id ≤ sweep.waiting id := by
        rw [pass_eq_ok hzero] at hnext
        obtain rfl := Except.ok.inj hnext
        rw [List.count_cons]
        by_cases hid : target = id
        · subst hid
          simp only [beq_self_eq_true, ↓reduceIte]
          omega
        · simp [hid]
      rw [List.foldlM_cons, hnext]
      rcases ih next with ⟨hall, hdone⟩ | ⟨id, hfew, hbroken⟩
      · have hcounted (id : String) := (hcount id).mp (hall id)
        refine .inl ⟨hcounted, ?_⟩
        rw [← passed_cons hcounted hnext]
        exact hdone
      · exact .inr ⟨id, Nat.not_le.mp (mt (hcount id).mpr (Nat.not_le.mpr hfew)), hbroken⟩

/-- The nodes that have all their last links from one node, in the order of these links. -/
def released (graph : Graph) (sweep : Sweep) (id : String) : List String :=
  (graph.targetsOf id).dedup.filter fun other =>
    sweep.waiting other = (graph.targetsOf id).count other

/-- A released node has a link from the node, and as many as it still waited for. -/
theorem mem_released {other : String} : other ∈ released graph sweep id ↔
    other ∈ graph.targetsOf id ∧ sweep.waiting other = (graph.targetsOf id).count other := by
  simp [released]

/-- Taking a node lets those join the queue whose last links come from it, unless a node has more
links from it than are counted. -/
theorem take_cases (graph : Graph) (hqueue : sweep.queue = id :: rest) :
    ((∀ other, (graph.targetsOf id).count other ≤ sweep.waiting other) ∧
      sweep.take graph = .ok
        { queue := rest ++ released graph sweep id
          waiting := fun other => sweep.waiting other - (graph.targetsOf id).count other
          order := sweep.order ++ [id] }) ∨
    ∃ other, sweep.waiting other < (graph.targetsOf id).count other ∧
      sweep.take graph = .error ⟨other⟩ := by
  unfold take
  rw [hqueue]
  exact foldlM_pass_cases (graph.targetsOf id)
    { sweep with queue := rest, order := sweep.order ++ [id] }

/-! ## Runs -/

/-- A sweep with an empty queue stays as it is. -/
theorem run_of_queue_nil (h : sweep.queue = []) (steps : Nat) :
    sweep.run graph steps = .ok sweep := by
  induction steps with
  | zero => rfl
  | succ steps ih =>
    rw [run, take, h]
    exact ih

/-- A run goes on behind a node that could be taken. -/
theorem run_of_take_eq_ok (h : sweep.take graph = .ok next) (steps : Nat) :
    sweep.run graph (steps + 1) = next.run graph steps := by
  rw [run, h]
  rfl

/-- A run ends at a node that could not be taken. -/
theorem run_of_take_eq_error {overdraw : Overdraw} (h : sweep.take graph = .error overdraw)
    (steps : Nat) : sweep.run graph (steps + 1) = .error overdraw := by
  rw [run, h]
  rfl

/-- What taking a node keeps is kept by a run, and holds still where a run breaks off. -/
theorem run_cases {P : Sweep → Prop}
    (step : ∀ {sweep id rest next}, P sweep → sweep.queue = id :: rest →
      sweep.take graph = .ok next → P next)
    (h : P sweep) (steps : Nat) :
    (∃ last, sweep.run graph steps = .ok last ∧ P last) ∨
    ∃ before id rest overdraw, P before ∧ before.queue = id :: rest ∧
      before.take graph = .error overdraw ∧ sweep.run graph steps = .error overdraw := by
  induction steps generalizing sweep with
  | zero => exact .inl ⟨sweep, rfl, h⟩
  | succ steps ih =>
    cases hqueue : sweep.queue with
    | nil => exact .inl ⟨sweep, run_of_queue_nil hqueue _, h⟩
    | cons id rest =>
      cases htake : sweep.take graph with
      | error overdraw =>
        exact .inr ⟨sweep, id, rest, overdraw, h, hqueue, htake, run_of_take_eq_error htake _⟩
      | ok next =>
        rw [run_of_take_eq_ok htake]
        exact ih (step h hqueue htake)

/-- If no more nodes are ever taken or wait than there are, steps for all nodes that are not taken
yet empty the queue. -/
theorem queue_eq_nil_of_run_eq_ok {P : Sweep → Prop}
    (step : ∀ {sweep id rest next}, P sweep → sweep.queue = id :: rest →
      sweep.take graph = .ok next → P next)
    (hle : ∀ {sweep}, P sweep → sweep.order.length + sweep.queue.length ≤ graph.nodes.length)
    (h : P sweep) {steps : Nat} (hsteps : graph.nodes.length ≤ sweep.order.length + steps)
    {last : Sweep} (hrun : sweep.run graph steps = .ok last) : last.queue = [] := by
  induction steps generalizing sweep with
  | zero =>
    obtain rfl := Except.ok.inj hrun
    have hlength := hle h
    exact List.length_eq_zero_iff.mp (by omega)
  | succ steps ih =>
    cases hqueue : sweep.queue with
    | nil =>
      rw [run_of_queue_nil hqueue] at hrun
      exact Except.ok.inj hrun ▸ hqueue
    | cons id rest =>
      rcases take_cases graph hqueue with ⟨-, htake⟩ | ⟨other, -, htake⟩
      · rw [run_of_take_eq_ok htake] at hrun
        refine ih (step h hqueue htake) ?_ hrun
        rw [List.length_append, List.length_singleton]
        omega
      · rw [run_of_take_eq_error htake] at hrun
        contradiction

/-! ## What a sweep keeps -/

/-- What holds between two steps of a sweep. -/
structure Invariant (graph : Graph) (sweep : Sweep) : Prop where
  /-- No node is taken twice or waits twice. -/
  nodup : (sweep.order ++ sweep.queue).Nodup
  /-- The links counted for a node are those from nodes not yet taken. -/
  waiting : ∀ id, sweep.waiting id =
    (graph.sourcesOf id).countP fun source => !sweep.order.contains source
  /-- A node is taken or waits in the queue once all links into it are passed. -/
  ready : ∀ id, id ∈ sweep.order ++ sweep.queue ↔ id ∈ graph.nodes ∧ sweep.waiting id = 0
  /-- A node was taken behind the sources of its links. -/
  follows : Follows graph.Leads sweep.order

/-- Once a node is taken, the links from it are no longer counted. -/
theorem countP_not_taken (graph : Graph) {order : List String} {id : String} (hnew : id ∉ order)
    (other : String) :
    ((graph.sourcesOf other).countP fun source => !order.contains source) =
      ((graph.sourcesOf other).countP fun source => !(order ++ [id]).contains source) +
        (graph.targetsOf id).count other := by
  rw [count_targetsOf]
  generalize graph.sourcesOf other = sources
  induction sources with
  | nil => rfl
  | cons source sources ih =>
    rw [List.countP_cons, List.countP_cons, List.count_cons, ih]
    by_cases hsource : source = id
    · subst hsource
      simp [hnew]
      omega
    · simp [hsource]
      omega

/-- The next node has not been taken yet. -/
theorem Invariant.not_mem_order (h : Invariant graph sweep) (hqueue : sweep.queue = id :: rest) :
    id ∉ sweep.order := by
  intro hmem
  have hnodup := h.nodup
  rw [hqueue] at hnodup
  exact (List.nodup_append.mp hnodup).2.2 id hmem id List.mem_cons_self rfl

/-- All links from the next node are still counted. -/
theorem Invariant.count_le_waiting (h : Invariant graph sweep) (hqueue : sweep.queue = id :: rest)
    (other : String) : (graph.targetsOf id).count other ≤ sweep.waiting other := by
  rw [h.waiting, countP_not_taken graph (h.not_mem_order hqueue)]
  exact Nat.le_add_left _ _

/-- Taking a node lets those join the queue whose last links come from it. -/
theorem Invariant.take_eq (h : Invariant graph sweep) (hqueue : sweep.queue = id :: rest) :
    sweep.take graph = .ok
      { queue := rest ++ released graph sweep id
        waiting := fun other => sweep.waiting other - (graph.targetsOf id).count other
        order := sweep.order ++ [id] } := by
  rcases take_cases graph hqueue with ⟨-, htake⟩ | ⟨other, hfew, -⟩
  · exact htake
  · exact absurd (h.count_le_waiting hqueue other) (Nat.not_le.mpr hfew)

/-- Taking a node from the queue keeps the invariant. -/
theorem Invariant.take (h : Invariant graph sweep) (hqueue : sweep.queue = id :: rest)
    (hnext : sweep.take graph = .ok next) : Invariant graph next := by
  have hold (other : String) : other ∈ (sweep.order ++ [id]) ++ rest ↔
      other ∈ graph.nodes ∧ sweep.waiting other = 0 := by
    rw [← h.ready, hqueue, List.append_assoc, List.singleton_append]
  -- nodes that join still had links to pass, those taken or in the queue had none
  have hdisjoint : ∀ other ∈ (sweep.order ++ [id]) ++ rest, other ∉ released graph sweep id := by
    intro other hother hjoined
    obtain ⟨htarget, hwaits⟩ := mem_released.mp hjoined
    have hpos := List.count_pos_iff.mpr htarget
    have hzero := ((hold other).mp hother).2
    omega
  rw [h.take_eq hqueue] at hnext
  obtain rfl := Except.ok.inj hnext
  refine ⟨?_, ?_, ?_, ?_⟩
  · rw [← List.append_assoc]
    refine List.nodup_append.mpr ⟨?_, (List.nodup_dedup _).filter _, ?_⟩
    · simpa [hqueue] using h.nodup
    · intro a ha b hb hab
      exact hdisjoint a ha (hab ▸ hb)
  · intro other
    simp only
    rw [h.waiting, countP_not_taken graph (h.not_mem_order hqueue), Nat.add_sub_cancel]
  · intro other
    simp only
    rw [← List.append_assoc, List.mem_append, hold, mem_released]
    by_cases htarget : other ∈ graph.targetsOf id
    · have hpos := List.count_pos_iff.mpr htarget
      have hle := h.count_le_waiting hqueue other
      have hlisted : other ∈ graph.nodes := (mem_targetsOf.mp htarget).2.2
      simp only [hlisted, htarget, true_and]
      omega
    · rw [List.count_eq_zero.mpr htarget]
      simp [htarget]
  · refine h.follows.concat fun source hsource => ?_
    have hzero : (graph.sourcesOf id).countP (fun source => !sweep.order.contains source) = 0 := by
      rw [← h.waiting]
      exact ((h.ready id).mp (by simp [hqueue])).2
    simpa using List.countP_eq_zero.mp hzero source (mem_sourcesOf.mpr hsource)

/-- The invariant holds at the start. -/
theorem Invariant.seed (hnodes : graph.nodes.Nodup) : Invariant graph graph.seed where
  nodup := hnodes.filter _
  waiting id := by simp [Graph.seed]
  ready id := by simp [Graph.seed]
  follows := follows_nil

/-- No more nodes are taken or wait than there are. -/
theorem Invariant.length_le (h : Invariant graph sweep) :
    sweep.order.length + sweep.queue.length ≤ graph.nodes.length := by
  rw [← List.length_append]
  exact (List.subperm_of_subset h.nodup fun id hid => ((h.ready id).mp hid).1).length_le

/-- With different nodes a run does not break off, and keeps what taking a node keeps. -/
theorem Invariant.exists_run {P : Sweep → Prop}
    (step : ∀ {sweep id rest next}, P sweep → Invariant graph sweep → sweep.queue = id :: rest →
      sweep.take graph = .ok next → P next)
    (h : Invariant graph sweep) (hstart : P sweep) (steps : Nat) :
    ∃ last, sweep.run graph steps = .ok last ∧ Invariant graph last ∧ P last := by
  have hboth : ∀ {sweep id rest next}, Invariant graph sweep ∧ P sweep →
      sweep.queue = id :: rest → sweep.take graph = .ok next → Invariant graph next ∧ P next :=
    fun h hqueue htake => ⟨h.1.take hqueue htake, step h.2 h.1 hqueue htake⟩
  rcases run_cases hboth ⟨h, hstart⟩ steps with
    hdone | ⟨before, id, rest, overdraw, hbefore, hqueue, htake, -⟩
  · exact hdone
  · rw [hbefore.1.take_eq hqueue] at htake
    contradiction

/-- Once the queue is empty, the nodes taken are those that no cycle leads to. -/
theorem Invariant.mem_order_iff (h : Invariant graph sweep) (hqueue : sweep.queue = [])
    (hid : id ∈ graph.nodes) : id ∈ sweep.order ↔ ¬graph.BehindCycle id := by
  constructor
  · exact fun hmem => h.follows.not_behindCycle hmem
  · refine induction_from_sources ?_ hid
    intro id hid hsources
    have hpassed :
        (graph.sourcesOf id).countP (fun source => !sweep.order.contains source) = 0 := by
      rw [List.countP_eq_zero]
      intro source hsource
      simpa using hsources source (mem_sourcesOf.mp hsource)
    have hready := (h.ready id).mpr ⟨hid, by rw [h.waiting, hpassed]⟩
    simpa [hqueue] using hready

end Sweep

/-- What the sweep over a graph with different nodes ends with. -/
theorem exists_sweep (hnodes : graph.nodes.Nodup) :
    ∃ order : List String, order.Nodup ∧ Follows graph.Leads order ∧
      (∀ id, id ∈ order ↔ id ∈ graph.nodes ∧ ¬graph.BehindCycle id) ∧
      graph.queueOrder =
        if order.length < graph.nodes.length then
          .error (.cycle ⟨graph.nodes.filter fun id => !order.contains id⟩)
        else .ok order := by
  have hstart := Sweep.Invariant.seed hnodes
  obtain ⟨last, hrun, hend, -⟩ := hstart.exists_run (P := fun _ => True)
    (fun _ _ _ _ => trivial) trivial graph.nodes.length
  have hqueue := Sweep.queue_eq_nil_of_run_eq_ok Sweep.Invariant.take Sweep.Invariant.length_le
    hstart (Nat.le_add_left _ _) hrun
  refine ⟨last.order, (List.nodup_append.mp hend.nodup).1, hend.follows, ?_, ?_⟩
  · intro id
    constructor
    · intro hmem
      have hid := ((hend.ready id).mp (List.mem_append_left _ hmem)).1
      exact ⟨hid, (hend.mem_order_iff hqueue hid).mp hmem⟩
    · rintro ⟨hid, hfree⟩
      exact (hend.mem_order_iff hqueue hid).mpr hfree
  · rw [queueOrder, hrun]

/-- The sweep leaves out a node exactly if the order is too short. -/
theorem perm_nodes_iff {order : List String} (hnodup : order.Nodup)
    (hsub : ∀ id ∈ order, id ∈ graph.nodes) :
    order.Perm graph.nodes ↔ ¬order.length < graph.nodes.length := by
  constructor
  · intro hperm hshort
    exact absurd hperm.length_eq (Nat.ne_of_lt hshort)
  · intro hlong
    exact (List.subperm_of_subset hnodup hsub).perm_of_length_le (Nat.le_of_not_lt hlong)

/-- A graph without a cycle has a queue order, which is sorted. -/
theorem Acyclic.exists_queueOrder (h : graph.Acyclic) (hnodes : graph.nodes.Nodup) :
    ∃ order, graph.queueOrder = .ok order ∧ graph.Sorted order := by
  obtain ⟨order, hnodup, hfirst, hmem, hresult⟩ := exists_sweep hnodes
  have hperm : order.Perm graph.nodes := (List.perm_ext_iff_of_nodup hnodup hnodes).mpr fun id => by
    rw [hmem, and_iff_left (h.not_behindCycle id)]
  have hlong := (perm_nodes_iff hnodup fun id hid => ((hmem id).mp hid).1).mp hperm
  exact ⟨order, by rw [hresult, if_neg hlong], hperm, hfirst⟩

/-- The queue order is sorted. -/
theorem sorted_of_queueOrder_eq_ok (hnodes : graph.nodes.Nodup) {order : List String}
    (h : graph.queueOrder = .ok order) : graph.Sorted order := by
  obtain ⟨found, hnodup, hfirst, hmem, hresult⟩ := exists_sweep hnodes
  rw [hresult] at h
  split at h
  · contradiction
  · next hlong =>
    obtain rfl := Except.ok.inj h
    exact ⟨(perm_nodes_iff hnodup fun id hid => ((hmem id).mp hid).1).mpr hlong, hfirst⟩

/-- A sweep over different nodes fails only at a cycle, and what it reports are the nodes that a
cycle leads to. There are some. -/
theorem unsorted_of_queueOrder_eq_error (hnodes : graph.nodes.Nodup) {cause : OrderError}
    (h : graph.queueOrder = .error cause) :
    ∃ cycle, cause = .cycle cycle ∧ cycle.unsorted.Sublist graph.nodes ∧
      (∀ id, id ∈ cycle.unsorted ↔ graph.BehindCycle id) ∧ cycle.unsorted ≠ [] := by
  obtain ⟨order, hnodup, hfirst, hmem, hresult⟩ := exists_sweep hnodes
  rw [hresult] at h
  split at h
  · next hshort =>
    obtain rfl := Except.error.inj h
    have hbehind (id : String) :
        id ∈ graph.nodes.filter (fun id => !order.contains id) ↔ graph.BehindCycle id := by
      rw [List.mem_filter]
      simp only [Bool.not_eq_true', List.contains_eq_mem, decide_eq_false_iff_not, hmem, not_and,
        not_not]
      exact ⟨fun hid => hid.2 hid.1, fun hid => ⟨hid.mem_nodes, fun _ => hid⟩⟩
    refine ⟨_, rfl, List.filter_sublist, hbehind, ?_⟩
    intro (hnil : graph.nodes.filter _ = [])
    have hall : order.Perm graph.nodes :=
        (List.perm_ext_iff_of_nodup hnodup hnodes).mpr fun id => by
      rw [hmem, and_iff_left]
      rw [← hbehind, hnil]
      exact List.not_mem_nil
    exact (perm_nodes_iff hnodup fun id hid => ((hmem id).mp hid).1).mp hall hshort
  · contradiction

/-- The queue order exists exactly if there is no cycle. It holds every node once and the source of
every link before its target. Where it does not exist, the nodes reported are, as they are listed,
those that lie on a cycle or behind one. -/
theorem queueOrder_spec (graph : Graph) (hnodes : graph.nodes.Nodup) :
    ((∃ order, graph.queueOrder = .ok order) ↔ graph.Acyclic) ∧
      (∀ order, graph.queueOrder = .ok order → order.Perm graph.nodes ∧
        ∀ source target, graph.Leads source target → order.idxOf source < order.idxOf target) ∧
      ∀ cause, graph.queueOrder = .error cause →
        ∃ cycle, cause = .cycle cycle ∧ cycle.unsorted.Sublist graph.nodes ∧
          (∀ id, id ∈ cycle.unsorted ↔ graph.BehindCycle id) ∧ cycle.unsorted ≠ [] := by
  refine ⟨⟨?_, ?_⟩, ?_, fun cause h => unsorted_of_queueOrder_eq_error hnodes h⟩
  · rintro ⟨order, h⟩
    exact (sorted_of_queueOrder_eq_ok hnodes h).acyclic
  · intro hacyclic
    obtain ⟨order, h, -⟩ := hacyclic.exists_queueOrder hnodes
    exact ⟨order, h⟩
  · intro order h
    have hsorted := sorted_of_queueOrder_eq_ok hnodes h
    exact ⟨hsorted.perm, fun _ _ hleads => hsorted.follows.idxOf_lt hleads
      (hsorted.perm.mem_iff.mpr hleads.2.2)⟩

/-- Two nodes on a cycle, one behind it, one beside it with parallel links, a link that leads
nowhere. -/
def sampleGraph : Graph :=
  ⟨["d", "a", "b", "c", "e"], [⟨"a", "b"⟩, ⟨"b", "a"⟩, ⟨"b", "c"⟩, ⟨"d", "c"⟩, ⟨"d", "e"⟩,
    ⟨"d", "e"⟩, ⟨"x", "e"⟩]⟩

/-- The nodes on the cycle of the sample and the one behind it are reported. -/
theorem queueOrder_spec_sampleGraph :
    sampleGraph.nodes.Nodup ∧ sampleGraph.queueOrder = .error (.cycle ⟨["a", "b", "c"]⟩) ∧
      ¬sampleGraph.Acyclic ∧ (∀ id, id ∈ ["a", "b", "c"] ↔ sampleGraph.BehindCycle id) := by
  have hnodes : sampleGraph.nodes.Nodup := by decide
  have hresult : sampleGraph.queueOrder = .error (.cycle ⟨["a", "b", "c"]⟩) := by rfl
  obtain ⟨hacyclic, -, herror⟩ := queueOrder_spec sampleGraph hnodes
  obtain ⟨cycle, hcycle, -, hbehind, -⟩ := herror _ hresult
  obtain rfl := OrderError.cycle.inj hcycle
  refine ⟨hnodes, hresult, ?_, hbehind⟩
  rw [← hacyclic]
  rintro ⟨order, horder⟩
  rw [hresult] at horder
  contradiction

end Dataflow.Graph
