import Dataflow.Proofs.Editing
import Mathlib.Data.List.MinMax

/-!
# Normal documents

What normalizing makes of any document, whatever numbers, variables and counter it was read with.
The numbers that are given out start behind the counter and behind all numbers in use, and the nodes
that get them are those whose number an earlier node has. So it fails exactly if there are more of
these nodes than numbers left, and otherwise numbers end up pairwise different and below the
counter. Variables do not: those that belong to the outputs of their node are kept as they were
read, even where two nodes have the same ones.
-/

namespace Dataflow

theorem toNat_le_last (ordinal : UInt32) : ordinal.toNat ≤ lastOrdinal.toNat :=
  Nat.le_of_lt_succ ordinal.toNat_lt

/-- Up to the last number, numbers are kept as they are counted. -/
theorem toNat_ofNat_of_le_last {number : Nat} (h : number ≤ lastOrdinal.toNat) :
    (UInt32.ofNat number).toNat = number :=
  UInt32.toNat_ofNat_of_lt' (Nat.lt_succ_of_le h)

/-- The number after the last one is the last one. -/
theorem toNat_nextAfter (ordinal : UInt32) :
    (nextAfter ordinal).toNat = min (ordinal.toNat + 1) lastOrdinal.toNat := by
  have hle := toNat_le_last ordinal
  unfold nextAfter
  split
  · next heq =>
    subst heq
    omega
  · next hne =>
    have hnat : ordinal.toNat ≠ lastOrdinal.toNat := fun h => hne (UInt32.toNat_inj.mp h)
    rw [Document.toNat_succ_of_ne_last hne]
    omega

theorem toNat_max (first second : UInt32) :
    (if first ≤ second then second else first).toNat = max first.toNat second.toNat := by
  split
  · next hle =>
    rw [UInt32.le_iff_toNat_le] at hle
    omega
  · next hnot =>
    rw [UInt32.le_iff_toNat_le] at hnot
    omega

namespace Document

/-! ## Repeated numbers -/

/-- Whether the node at a place of a list has the number of an earlier node. -/
def repeats (nodes : List Node) (placed : Node × Nat) : Bool :=
  (nodes.take placed.2).any fun earlier => earlier.ordinal == placed.1.ordinal

/-- How many of the nodes before a place have the number of a node before them. -/
def repeatsBefore (nodes : List Node) (place : Nat) : Nat :=
  (nodes.zipIdx.take place).countP (repeats nodes)

/-- How many nodes have the number of a node before them. -/
def repeatCount (nodes : List Node) : Nat := nodes.zipIdx.countP (repeats nodes)

/-- The first number behind the counter and behind the numbers of all nodes. The last number has
none behind it, so it stands for its own successor. -/
def firstFree (document : Document) : Nat :=
  max document.nextOrdinal.toNat
    ((document.nodes.map fun node => min (node.ordinal.toNat + 1) lastOrdinal.toNat).foldr max 0)

/-- There are enough numbers for the nodes that repeat one. -/
abbrev Enough (document : Document) : Prop :=
  document.firstFree + repeatCount document.nodes ≤ lastOrdinal.toNat

/-- One place further there is one repetition more if the node there is one. -/
theorem repeatsBefore_succ {nodes : List Node} {place : Nat} (h : place < nodes.length) :
    repeatsBefore nodes (place + 1) =
      repeatsBefore nodes place + if repeats nodes (nodes[place], place) then 1 else 0 := by
  simp [repeatsBefore, List.take_add_one, List.countP_append, h, List.countP_cons]

/-- Before the end of the list are all repetitions. -/
theorem repeatsBefore_length (nodes : List Node) :
    repeatsBefore nodes nodes.length = repeatCount nodes := by
  rw [repeatsBefore, repeatCount, List.take_of_length_le (by simp)]

theorem repeatsBefore_mono (nodes : List Node) {first second : Nat} (h : first ≤ second) :
    repeatsBefore nodes first ≤ repeatsBefore nodes second :=
  List.Sublist.countP_le (List.take_sublist_take_left h)

theorem repeatsBefore_le (nodes : List Node) (place : Nat) :
    repeatsBefore nodes place ≤ repeatCount nodes :=
  List.Sublist.countP_le (List.take_sublist _ _)

/-- The node at a place with the number that it gets, given the first number that is free. -/
def renumberAt (nodes : List Node) (first : Nat) (placed : Node × Nat) : Node :=
  if repeats nodes placed then
    placed.1.renumber (UInt32.ofNat (first + repeatsBefore nodes placed.2))
  else placed.1

/-- Where renumbering stands between the nodes that are done and those that are left. -/
structure Along (all : List Node) (first : Nat) (done : List Node) (seen : List UInt32)
    (next : UInt32) (rest : List Node) : Prop where
  /-- The nodes are those that are done and those that are left. -/
  split : all = done ++ rest
  /-- The numbers that were seen are those of the nodes that are done. -/
  seen : ∀ number, number ∈ seen ↔ number ∈ done.map Node.ordinal
  /-- One number was given out for each node that is done and repeats a number. -/
  next : next.toNat = first + repeatsBefore all done.length

namespace Along

variable {all done rest : List Node} {node : Node} {seen : List UInt32} {next : UInt32}
  {first : Nat}

/-- The next node repeats a number if its number was seen. -/
theorem repeats_iff (h : Along all first done seen next (node :: rest)) :
    repeats all (node, done.length) = seen.contains node.ordinal := by
  rw [Bool.eq_iff_iff, List.contains_iff_mem, h.seen, h.split]
  simp [repeats]

/-- The node that comes next is a repetition if its number was seen. -/
theorem repeatsBefore_succ (h : Along all first done seen next (node :: rest)) :
    repeatsBefore all (done.length + 1) =
      repeatsBefore all done.length + if seen.contains node.ordinal then 1 else 0 := by
  have hlt : done.length < all.length := by simp [h.split]
  have hnode : all[done.length] = node := by simp [h.split]
  rw [Document.repeatsBefore_succ hlt, hnode, h.repeats_iff]

/-- A node with a new number keeps it. -/
theorem keep (h : Along all first done seen next (node :: rest))
    (hnew : seen.contains node.ordinal = false) :
    Along all first (done ++ [node]) (node.ordinal :: seen) next rest where
  split := by simp [h.split]
  seen number := by
    rw [List.mem_cons, h.seen, List.map_append, List.mem_append, or_comm, List.map_singleton,
      List.mem_singleton]
  next := by
    rw [List.length_append, List.length_singleton, h.repeatsBefore_succ, hnew, h.next]
    rfl

/-- A node with a number that was seen gets the next one. -/
theorem give (h : Along all first done seen next (node :: rest))
    (hold : seen.contains node.ordinal = true) (hleft : next ≠ lastOrdinal) :
    Along all first (done ++ [node]) seen (next + 1) rest where
  split := by simp [h.split]
  seen number := by
    have hmem := (h.seen node.ordinal).mp (List.contains_iff_mem.mp hold)
    simp only [h.seen, List.map_append, List.map_cons, List.map_nil, List.mem_append,
      List.mem_singleton]
    exact ⟨.inl, fun hor => hor.elim (fun hin => hin) fun heq => heq ▸ hmem⟩
  next := by
    rw [List.length_append, List.length_singleton, h.repeatsBefore_succ, if_pos hold,
      toNat_succ_of_ne_last hleft, h.next]
    omega

/-- At the end one number was given out for each repetition. -/
theorem next_eq_of_nil (h : Along all first done seen next []) :
    next.toNat = first + repeatCount all := by
  have hdone : done = all := by simp [h.split]
  rw [h.next, hdone, repeatsBefore_length]

/-- If a node is left that repeats a number, its new number lies below the end. -/
theorem next_lt (h : Along all first done seen next (node :: rest))
    (hold : seen.contains node.ordinal = true) : next.toNat < first + repeatCount all := by
  have hsucc := h.repeatsBefore_succ
  rw [if_pos hold] at hsucc
  have hle := repeatsBefore_le all (done.length + 1)
  rw [h.next]
  omega

/-- If there are enough numbers, they are given out one after another from the first. -/
theorem ofNodes_eq (h : Along all first done seen next rest)
    (hfits : first + repeatCount all ≤ lastOrdinal.toNat) :
    Renumbering.ofNodes seen next rest =
      { nodes := (rest.zipIdx done.length).map (renumberAt all first)
        nextOrdinal := UInt32.ofNat (first + repeatCount all)
        count := (rest.zipIdx done.length).countP (repeats all)
        exhausted := false } := by
  induction rest generalizing done seen next with
  | nil => simp [Renumbering.ofNodes, ← h.next_eq_of_nil]
  | cons node rest ih =>
    have hrepeats := h.repeats_iff
    unfold Renumbering.ofNodes
    split
    · next hold =>
      have hleft : next ≠ lastOrdinal := by
        rintro rfl
        have hlt := h.next_lt hold
        omega
      have hlater := ih (h.give hold hleft)
      rw [List.length_append, List.length_singleton] at hlater
      have hnode : renumberAt all first (node, done.length) = node.renumber next := by
        rw [renumberAt, if_pos (hrepeats.trans hold), ← h.next, UInt32.ofNat_toNat]
      rw [if_neg hleft, hlater, List.zipIdx_cons, List.map_cons, hnode,
        List.countP_cons_of_pos (hrepeats.trans hold)]
    · next hnew =>
      have hnew : seen.contains node.ordinal = false := by simpa using hnew
      have hlater := ih (h.keep hnew)
      rw [List.length_append, List.length_singleton] at hlater
      have hnode : renumberAt all first (node, done.length) = node := by
        rw [renumberAt, hrepeats, hnew]
        rfl
      rw [hlater, List.zipIdx_cons, List.map_cons, hnode,
        List.countP_cons_of_neg (by rw [hrepeats, hnew]; exact Bool.false_ne_true)]

/-- If there are not enough numbers, they run out. -/
theorem exhausted_ofNodes (h : Along all first done seen next rest)
    (hmany : lastOrdinal.toNat < first + repeatCount all) :
    (Renumbering.ofNodes seen next rest).exhausted = true := by
  induction rest generalizing done seen next with
  | nil =>
    have hend := h.next_eq_of_nil
    have hle := toNat_le_last next
    omega
  | cons node rest ih =>
    unfold Renumbering.ofNodes
    split
    · next hold =>
      split
      · rfl
      · next hleft => exact ih (h.give hold hleft)
    · next hnew => exact ih (h.keep (by simpa using hnew))

end Along

/-! ## The first free number -/

/-- The first number behind all nodes is the largest successor of their numbers. -/
theorem toNat_pastHighest (document : Document) :
    document.pastHighest.toNat =
      (document.nodes.map fun node =>
        min (node.ordinal.toNat + 1) lastOrdinal.toNat).foldr max 0 := by
  have hfold (nodes : List Node) (highest : UInt32) :
      (nodes.foldl (fun highest node =>
        if highest ≤ nextAfter node.ordinal then nextAfter node.ordinal else highest)
          highest).toNat =
        max highest.toNat
          ((nodes.map fun node => min (node.ordinal.toNat + 1) lastOrdinal.toNat).foldr max 0) := by
    induction nodes generalizing highest with
    | nil => simp
    | cons node rest ih =>
      rw [List.foldl_cons, ih, toNat_max, toNat_nextAfter, List.map_cons, List.foldr_cons,
        Nat.max_assoc]
  rw [pastHighest, hfold]
  simp

/-- Numbers are given out from the first that is free. -/
theorem toNat_nextOrdinal_advance (document : Document) :
    (document.advance document.pastHighest).nextOrdinal.toNat = document.firstFree := by
  rw [firstFree, ← toNat_pastHighest]
  exact toNat_max _ _

/-- Renumbering begins with the first number that is free. -/
theorem along_start (document : Document) :
    Along document.nodes document.firstFree [] []
      (document.advance document.pastHighest).nextOrdinal document.nodes where
  split := rfl
  seen number := by simp
  next := by simp [repeatsBefore, toNat_nextOrdinal_advance]

theorem firstFree_le (document : Document) : document.firstFree ≤ lastOrdinal.toNat := by
  rw [← toNat_nextOrdinal_advance]
  exact toNat_le_last _

/-- No number in use is free, unless it is the last. -/
theorem succ_le_firstFree {document : Document} {node : Node} (h : node ∈ document.nodes) :
    min (node.ordinal.toNat + 1) lastOrdinal.toNat ≤ document.firstFree := by
  have hmem : min (node.ordinal.toNat + 1) lastOrdinal.toNat ∈
      document.nodes.map fun node => min (node.ordinal.toNat + 1) lastOrdinal.toNat :=
    List.mem_map.mpr ⟨node, h, rfl⟩
  exact Nat.le_trans (List.le_max_of_le' 0 hmem (Nat.le_refl _)) (Nat.le_max_right _ _)

/-! ## Normalizing -/

/-- The node at a place of a document that was made normal. -/
def normalAt (document : Document) (placed : Node × Nat) : Node :=
  (renumberAt document.nodes document.firstFree placed).ensureBound

/-- Whether normalizing changes the node at a place. -/
def changesAt (document : Document) (placed : Node × Nat) : Bool :=
  repeats document.nodes placed || !placed.1.isBound

/-- The document that normalizing makes. -/
def normal (document : Document) : Document :=
  { document with
    nodes := document.nodes.zipIdx.map document.normalAt
    nextOrdinal := UInt32.ofNat (document.firstFree + repeatCount document.nodes) }

/-- Nodes are counted once, if they are renumbered or else bound anew. -/
theorem countP_renumberAt (nodes : List Node) (first : Nat) (entries : List (Node × Nat)) :
    entries.countP (repeats nodes) +
        (entries.map (renumberAt nodes first)).countP (fun node => !node.isBound) =
      entries.countP fun placed => repeats nodes placed || !placed.1.isBound := by
  induction entries with
  | nil => rfl
  | cons placed rest ih =>
    simp only [List.map_cons, List.countP_cons]
    by_cases hrepeats : repeats nodes placed = true
    · have hbound : (renumberAt nodes first placed).isBound = true := by
        rw [renumberAt, if_pos hrepeats]
        exact (Node.bound_rebind _).isBound
      simp only [hrepeats, hbound, Bool.true_or, ite_true, Bool.not_true, Bool.false_eq_true,
        ite_false]
      omega
    · have hsame : renumberAt nodes first placed = placed.1 := if_neg hrepeats
      simp only [hrepeats, hsame, Bool.false_or, Bool.false_eq_true, ite_false]
      omega

/-- If there are enough numbers, normalizing succeeds and counts every node that it changes once. -/
theorem normalize_eq_ok {document : Document} (h : document.Enough) :
    document.normalize =
      (document.normal, .ok (document.nodes.zipIdx.countP document.changesAt)) := by
  have hnumbered := document.along_start.ofNodes_eq h
  rw [List.length_nil] at hnumbered
  have hcount := countP_renumberAt document.nodes document.firstFree document.nodes.zipIdx
  simp only [normalize, hnumbered, hcount, List.map_map]
  rfl

/-- If there are not enough numbers, normalizing fails. -/
theorem normalize_eq_error {document : Document}
    (h : lastOrdinal.toNat < document.firstFree + repeatCount document.nodes) :
    document.normalize.2 = .error .ordinalsExhausted := by
  have hexhausted := document.along_start.exhausted_ofNodes h
  simp only [normalize, hexhausted, ite_true]

/-! ## Numbers of a normal document -/

/-- The number that the node at a place gets: its own, unless an earlier node has it. -/
def numberAt (document : Document) (placed : Node × Nat) : Nat :=
  if repeats document.nodes placed then
    document.firstFree + repeatsBefore document.nodes placed.2
  else placed.1.ordinal.toNat

/-- A node that repeats a number counts for all places after it. -/
theorem repeatsBefore_lt {nodes : List Node} {placed : Node × Nat} (hmem : placed ∈ nodes.zipIdx)
    (hrepeats : repeats nodes placed = true) {place : Nat} (hlt : placed.2 < place) :
    repeatsBefore nodes placed.2 < repeatsBefore nodes place := by
  obtain ⟨hplace, hnode⟩ := List.mem_zipIdx' hmem
  have hsucc := repeatsBefore_succ hplace
  rw [← hnode, if_pos hrepeats] at hsucc
  have hmono : repeatsBefore nodes (placed.2 + 1) ≤ repeatsBefore nodes place :=
    repeatsBefore_mono nodes hlt
  omega

variable {document : Document}

/-- A repetition is not counted among those before it. -/
theorem repeatsBefore_lt_repeatCount {placed : Node × Nat} (hmem : placed ∈ document.nodes.zipIdx)
    (hrepeats : repeats document.nodes placed = true) :
    repeatsBefore document.nodes placed.2 < repeatCount document.nodes := by
  rw [← repeatsBefore_length]
  exact repeatsBefore_lt hmem hrepeats (List.mem_zipIdx' hmem).1

/-- With enough numbers a node gets the number that it should. -/
theorem toNat_ordinal_normalAt (h : document.Enough) (placed : Node × Nat) :
    (document.normalAt placed).ordinal.toNat = document.numberAt placed := by
  have hbefore := repeatsBefore_le document.nodes placed.2
  rw [normalAt, Node.ensureBound_ordinal, renumberAt, numberAt]
  split
  · exact toNat_ofNat_of_le_last (by omega)
  · rfl

/-- Numbers in use lie below the free ones, if there is one to give out. -/
theorem ordinal_lt_firstFree {node : Node} (hnode : node ∈ document.nodes)
    (hfree : document.firstFree < lastOrdinal.toNat) : node.ordinal.toNat < document.firstFree := by
  have hsucc := succ_le_firstFree hnode
  omega

/-- Of two nodes the later does not get the number of the earlier. -/
theorem numberAt_ne (h : document.Enough)
    {earlier later : Node × Nat} (hearlier : earlier ∈ document.nodes.zipIdx)
    (hlater : later ∈ document.nodes.zipIdx) (hlt : earlier.2 < later.2) :
    document.numberAt earlier ≠ document.numberAt later := by
  have hfresh {placed : Node × Nat} (hmem : placed ∈ document.nodes.zipIdx)
      (hrepeats : repeats document.nodes placed = true) {node : Node}
      (hnode : node ∈ document.nodes) :
      node.ordinal.toNat < document.firstFree + repeatsBefore document.nodes placed.2 := by
    have hbefore := repeatsBefore_lt_repeatCount hmem hrepeats
    have hold := ordinal_lt_firstFree hnode (by omega)
    omega
  unfold numberAt
  split
  · next hrepeats =>
    split
    · have hbefore := repeatsBefore_lt hearlier hrepeats hlt
      omega
    · exact Nat.ne_of_gt (hfresh hearlier hrepeats (List.fst_mem_of_mem_zipIdx hlater))
  · split
    · next hrepeats =>
      exact Nat.ne_of_lt (hfresh hlater hrepeats (List.fst_mem_of_mem_zipIdx hearlier))
    · next hkept =>
      -- two nodes that keep one number: then the later would repeat it
      intro heq
      apply hkept
      obtain ⟨hplace, hnode⟩ := List.mem_zipIdx' hearlier
      have hmem : earlier.1 ∈ document.nodes.take later.2 :=
        List.mem_take_iff_getElem.mpr ⟨earlier.2, by omega, hnode.symm⟩
      exact List.any_eq_true.mpr ⟨earlier.1, hmem, by simpa using UInt32.toNat_inj.mp heq⟩

/-- With enough numbers nodes at different places get different ones. -/
theorem ordinal_normalAt_ne (h : document.Enough)
    {earlier later : Node × Nat} (hearlier : earlier ∈ document.nodes.zipIdx)
    (hlater : later ∈ document.nodes.zipIdx) (hlt : earlier.2 < later.2) :
    (document.normalAt earlier).ordinal ≠ (document.normalAt later).ordinal := by
  intro heq
  apply numberAt_ne h hearlier hlater hlt
  rw [← toNat_ordinal_normalAt h, ← toNat_ordinal_normalAt h]
  exact congrArg UInt32.toNat heq

theorem pairwise_zipIdx (nodes : List Node) :
    nodes.zipIdx.Pairwise fun earlier later => earlier.2 < later.2 := by
  rw [List.pairwise_iff_getElem]
  intro i j hi hj hlt
  simpa using hlt

/-- Numbers of a normal document are pairwise different. -/
theorem nodup_ordinals_normal (h : document.Enough) :
    (document.normal.nodes.map Node.ordinal).Nodup := by
  simp only [normal, List.map_map, List.nodup_iff_pairwise_ne, List.pairwise_map]
  exact (pairwise_zipIdx document.nodes).imp_of_mem fun hearlier hlater hlt =>
    ordinal_normalAt_ne h hearlier hlater hlt

/-- The counter goes on by the number of repetitions. -/
theorem toNat_nextOrdinal_normal (h : document.Enough) :
    document.normal.nextOrdinal.toNat = document.firstFree + repeatCount document.nodes :=
  toNat_ofNat_of_le_last h

/-- Numbers of a normal document lie below its counter, unless both are at their end. -/
theorem below_normal (h : document.Enough)
    {node : Node} (hnode : node ∈ document.normal.nodes) :
    node.ordinal < document.normal.nextOrdinal ∨
      node.ordinal = lastOrdinal ∧ document.normal.nextOrdinal = lastOrdinal := by
  obtain ⟨placed, hplaced, rfl⟩ := List.mem_map.mp hnode
  have hsucc := succ_le_firstFree (List.fst_mem_of_mem_zipIdx hplaced)
  have hnumber := toNat_ordinal_normalAt h placed
  have hle := toNat_le_last placed.1.ordinal
  rw [UInt32.lt_iff_toNat_lt, ← UInt32.toNat_inj, ← UInt32.toNat_inj, toNat_nextOrdinal_normal h,
    hnumber, numberAt]
  split
  · next hrepeats =>
    have hbefore := repeatsBefore_lt_repeatCount hplaced hrepeats
    omega
  · omega

/-! ## Other parts of a normal document -/

theorem isBound_ensureBound (node : Node) : node.ensureBound.isBound = true := by
  unfold Node.ensureBound
  split
  · assumption
  · exact node.bound_rebind.isBound

/-- All nodes of a normal document are bound. -/
theorem isBound_of_mem_normal {node : Node} (hnode : node ∈ document.normal.nodes) :
    node.isBound = true := by
  obtain ⟨placed, -, rfl⟩ := List.mem_map.mp hnode
  exact isBound_ensureBound _

/-- Normalizing leaves what neither depends on the number of a node nor on its variables. -/
theorem map_normal_nodes {β : Type} {part : Node → β}
    (hordinal : ∀ node ordinal, part (node.renumber ordinal) = part node)
    (hrebind : ∀ node, part node.rebind = part node) :
    document.normal.nodes.map part = document.nodes.map part := by
  have hpart (placed : Node × Nat) : part (document.normalAt placed) = part placed.1 := by
    have hensure (node : Node) : part node.ensureBound = part node := by
      unfold Node.ensureBound
      split
      · rfl
      · exact hrebind node
    rw [normalAt, hensure, renumberAt]
    split
    · exact hordinal placed.1 _
    · rfl
  calc document.normal.nodes.map part
      = document.nodes.zipIdx.map (fun placed => part placed.1) := by
        rw [normal, List.map_map]
        exact List.map_congr_left fun placed _ => hpart placed
    _ = (document.nodes.zipIdx.map Prod.fst).map part := by rw [List.map_map]; rfl
    _ = document.nodes.map part := by rw [List.zipIdx_map_fst]

/-- A normal document has nothing left to be made normal. -/
theorem normalize_normal (h : document.Enough) :
    document.normal.normalize = (document.normal, .ok 0) := by
  have hcounter : document.normal.pastHighest ≤ document.normal.nextOrdinal := by
    refine pastHighest_le fun node hnode => ?_
    rcases below_normal h hnode with hlt | ⟨hnumber, hlast⟩
    · exact nextAfter_le hlt
    · rw [hnumber, hlast]
      exact UInt32.le_refl _
  exact normalize_eq_self hcounter (nodup_ordinals_normal h) fun node => isBound_of_mem_normal

/-- What normalizing does to a document when it succeeds. -/
structure Normalized (before after : Document) (count : Nat) : Prop where
  /-- Numbers are pairwise different. -/
  distinct : (after.nodes.map Node.ordinal).Nodup
  /-- The first node with a number keeps it, and the others get the free numbers in order. -/
  numbers : after.nodes.map (fun node => node.ordinal.toNat) =
    before.nodes.zipIdx.map before.numberAt
  /-- The counter moves behind the numbers that were given out. -/
  counter : after.nextOrdinal.toNat = before.firstFree + repeatCount before.nodes
  /-- Numbers lie below the counter, unless both are at their end. -/
  below : ∀ node ∈ after.nodes, node.ordinal < after.nextOrdinal ∨
    node.ordinal = lastOrdinal ∧ after.nextOrdinal = lastOrdinal
  /-- Variables belong to the outputs of their node, in the same order. -/
  ports : ∀ node ∈ after.nodes, node.bindings.map Binding.port = node.schema.outputNames
  /-- Every node that got another number or other variables is counted once. -/
  count : count = before.nodes.zipIdx.countP before.changesAt
  /-- The other parts of nodes are as they were. -/
  parts : after.nodes.map (fun node => (node.id, node.schema, node.values, node.metadata)) =
    before.nodes.map fun node => (node.id, node.schema, node.values, node.metadata)
  /-- The name and the edges of the document are as they were. -/
  rest : after.id = before.id ∧ after.name = before.name ∧ after.edges = before.edges
  /-- A second time nothing changes. -/
  again : after.normalize = (after, .ok 0)

/-- With enough numbers the normal document is what normalizing should make. -/
theorem normalized_normal (h : document.Enough) :
    document.Normalized document.normal (document.nodes.zipIdx.countP document.changesAt) where
  distinct := nodup_ordinals_normal h
  numbers := by
    rw [normal, List.map_map]
    exact List.map_congr_left fun placed _ => toNat_ordinal_normalAt h placed
  counter := toNat_nextOrdinal_normal h
  below _ hnode := below_normal h hnode
  ports _ hnode := by simpa [Node.isBound] using isBound_of_mem_normal hnode
  count := rfl
  parts := map_normal_nodes (fun _ _ => rfl) fun _ => rfl
  rest := ⟨rfl, rfl, rfl⟩
  again := normalize_normal h

/-- Normalizing fails exactly if more nodes repeat a number than there are numbers from the first
free one on. Otherwise it leaves all but numbers, variables and the counter, numbers end up pairwise
different, and a second time changes nothing. -/
theorem normalize_outcome (document : Document) :
    (document.normalize.2 = .error .ordinalsExhausted ↔
      lastOrdinal.toNat - document.firstFree < repeatCount document.nodes) ∧
    (repeatCount document.nodes ≤ lastOrdinal.toNat - document.firstFree →
      ∃ after count, document.normalize = (after, .ok count) ∧
        document.Normalized after count) := by
  have hfirst := document.firstFree_le
  refine ⟨⟨fun hfailed => ?_, fun hmany => normalize_eq_error (by omega)⟩, fun hfits => ?_⟩
  · by_contra hnot
    rw [normalize_eq_ok (by omega)] at hfailed
    contradiction
  · have henough : document.Enough := by omega
    exact ⟨_, _, normalize_eq_ok henough, normalized_normal henough⟩

/-- A document with three nodes of one number and another number between them. -/
def sampleRead : Document :=
  { Document.empty "p" "Pipeline" with
    nodes := [Node.create "a" 3 (sampleSchema ["out"]), Node.create "b" 3 (sampleSchema ["out"]),
      Node.create "c" 7 (sampleSchema []), Node.create "a" 3 (sampleSchema ["x", "y"])] }

/-- The second and the third node of one number get numbers behind all others. -/
theorem normalize_outcome_sampleRead :
    sampleRead.firstFree = 8 ∧ repeatCount sampleRead.nodes = 2 ∧
      ∃ after count, sampleRead.normalize = (after, .ok count) ∧
        sampleRead.Normalized after count ∧ count = 2 ∧
        after.nodes.map (fun node => node.ordinal.toNat) = [3, 8, 7, 9] := by
  obtain ⟨after, count, hnormal, hspec⟩ := (normalize_outcome sampleRead).2 (by decide)
  exact ⟨by decide, by decide, after, count, hnormal, hspec, hspec.count, hspec.numbers⟩

/-! ## Variables of a normal document -/

/-- A node that normalizing does not change keeps its variables. -/
theorem normalAt_of_kept {placed : Node × Nat} (h : document.changesAt placed = false) :
    document.normalAt placed = placed.1 := by
  simp only [changesAt, Bool.or_eq_false_iff, Bool.not_eq_false'] at h
  rw [normalAt, renumberAt, h.1]
  exact if_pos h.2

/-- A node that normalizing changes gets the variables of a new node. -/
theorem bound_normalAt {placed : Node × Nat} (h : document.changesAt placed = true) :
    (document.normalAt placed).Bound := by
  rw [normalAt, renumberAt]
  split
  · rw [Node.renumber, (Node.bound_rebind _).ensureBound_eq]
    exact Node.bound_rebind _
  · next hnew =>
    have hunbound : ¬placed.1.isBound = true := by simpa [changesAt, hnew] using h
    rw [Node.ensureBound, if_neg hunbound]
    exact Node.bound_rebind _

/-- The variables of the normal document are those of its nodes. -/
theorem variableNames_normal (document : Document) :
    document.normal.variableNames =
      document.nodes.zipIdx.flatMap fun placed =>
        (document.normalAt placed).bindings.map Binding.name :=
  List.flatMap_map ..

/-- Two nodes that were changed share no variable. -/
theorem disjoint_of_changed (h : document.Enough)
    {earlier later : Node × Nat} (hearlier : earlier ∈ document.nodes.zipIdx)
    (hlater : later ∈ document.nodes.zipIdx) (hlt : earlier.2 < later.2)
    (hfirst : document.changesAt earlier = true) (hsecond : document.changesAt later = true) :
    ((document.normalAt earlier).bindings.map Binding.name).Disjoint
      ((document.normalAt later).bindings.map Binding.name) :=
  (bound_normalAt hfirst).tagged.disjoint (bound_normalAt hsecond).tagged
    (ordinal_normalAt_ne h hearlier hlater hlt)

/-- Only variables that are kept can clash. -/
theorem nodup_variableNames_normal (h : document.Enough) :
    document.normal.variableNames.Nodup ↔
      (∀ placed ∈ document.nodes.zipIdx, document.changesAt placed = false →
        (placed.1.bindings.map Binding.name).Nodup) ∧
      document.nodes.zipIdx.Pairwise fun earlier later =>
        document.changesAt earlier = false ∨ document.changesAt later = false →
          ((document.normalAt earlier).bindings.map Binding.name).Disjoint
            ((document.normalAt later).bindings.map Binding.name) := by
  rw [variableNames_normal, List.nodup_flatMap]
  constructor
  · rintro ⟨hnodup, hdisjoint⟩
    constructor
    · intro placed hplaced hkept
      rw [← normalAt_of_kept hkept]
      exact hnodup placed hplaced
    · refine hdisjoint.imp ?_
      exact fun hshared _ => hshared
  · rintro ⟨hkept, hshared⟩
    refine ⟨fun placed hplaced => ?_, ?_⟩
    · cases hchanges : document.changesAt placed with
      | false =>
        rw [normalAt_of_kept hchanges]
        exact hkept placed hplaced hchanges
      | true => exact (bound_normalAt hchanges).nodup_names
    · have hboth := (pairwise_zipIdx document.nodes).and hshared
      refine hboth.imp_of_mem fun {earlier later} hearlier hlater ⟨hlt, hclash⟩ => ?_
      by_cases hone : document.changesAt earlier = false ∨ document.changesAt later = false
      · exact hclash hone
      · simp only [not_or, Bool.not_eq_false] at hone
        exact disjoint_of_changed h hearlier hlater hlt hone.1 hone.2

/-- Kept variables do not clash if they carry the numbers of their nodes. -/
theorem disjoint_of_kept_tagged (h : document.Enough)
    (htagged : ∀ placed ∈ document.nodes.zipIdx, document.changesAt placed = false →
      placed.1.Tagged) :
    document.nodes.zipIdx.Pairwise fun earlier later =>
      ((document.normalAt earlier).bindings.map Binding.name).Disjoint
        ((document.normalAt later).bindings.map Binding.name) := by
  have hall (placed) (hplaced : placed ∈ document.nodes.zipIdx) :
      (document.normalAt placed).Tagged := by
    cases hchanges : document.changesAt placed with
    | false =>
      rw [normalAt_of_kept hchanges]
      exact htagged placed hplaced hchanges
    | true => exact (bound_normalAt hchanges).tagged
  exact (pairwise_zipIdx document.nodes).imp_of_mem fun {earlier later} hearlier hlater hlt =>
    (hall earlier hearlier).disjoint (hall later hlater)
      (ordinal_normalAt_ne h hearlier hlater hlt)

/-- The variables of a document that was normalized are pairwise different exactly if those that
were kept are different from one another and from all others. This holds in particular if the
variables that were kept differ within each node and carry the number of their node. -/
theorem variableNames_normalize {document after : Document} {count : Nat}
    (h : document.normalize = (after, .ok count)) :
    (after.variableNames.Nodup ↔
      (∀ placed ∈ document.nodes.zipIdx, document.changesAt placed = false →
        (placed.1.bindings.map Binding.name).Nodup) ∧
      document.nodes.zipIdx.Pairwise fun earlier later =>
        document.changesAt earlier = false ∨ document.changesAt later = false →
          ((document.normalAt earlier).bindings.map Binding.name).Disjoint
            ((document.normalAt later).bindings.map Binding.name)) ∧
    ((∀ placed ∈ document.nodes.zipIdx, document.changesAt placed = false →
        (placed.1.bindings.map Binding.name).Nodup ∧ placed.1.Tagged) →
      after.variableNames.Nodup) := by
  have henough : document.Enough := by
    by_contra hnot
    have herror := normalize_eq_error (Nat.lt_of_not_le hnot)
    rw [h] at herror
    contradiction
  obtain rfl : document.normal = after := by
    rw [normalize_eq_ok henough] at h
    exact congrArg Prod.fst h
  refine ⟨nodup_variableNames_normal henough, fun hkept => ?_⟩
  refine (nodup_variableNames_normal henough).mpr
    ⟨fun placed hplaced hchanges => (hkept placed hplaced hchanges).1, ?_⟩
  have hdisjoint := disjoint_of_kept_tagged henough fun placed hplaced hchanges =>
    (hkept placed hplaced hchanges).2
  refine hdisjoint.imp ?_
  exact fun hshared _ => hshared

/-- The nodes of the sample that had one number have different variables afterwards. -/
theorem variableNames_normalize_sampleRead :
    sampleRead.normalize = (sampleRead.normal, .ok 2) ∧
      sampleRead.normal.variableNames = ["n03_out", "n08_out", "n09_x", "n09_y"] ∧
      sampleRead.normal.variableNames.Nodup := by
  have hnormal : sampleRead.normalize = (sampleRead.normal, .ok 2) := rfl
  refine ⟨hnormal, rfl, (variableNames_normalize hnormal).2 ?_⟩
  have hbound : ∀ node ∈ sampleRead.nodes, node.Bound := by
    simp only [sampleRead, List.forall_mem_cons]
    exact ⟨rfl, rfl, rfl, rfl, fun _ hnode => absurd hnode List.not_mem_nil⟩
  intro placed hplaced _
  have hnode := hbound placed.1 (List.fst_mem_of_mem_zipIdx hplaced)
  exact ⟨hnode.nodup_names, hnode.tagged⟩

/-- Two copies of a node, of which the second got a number of its own. -/
def sampleCopies : Document :=
  { Document.empty "p" "Pipeline" with
    nodes := [Node.create "a" 1 (sampleSchema ["out"]),
      { Node.create "a" 1 (sampleSchema ["out"]) with id := "b", ordinal := 2 }]
    nextOrdinal := 3 }

/-- Copies keep the variable that they have in common. -/
theorem variableNames_normalize_sampleCopies :
    sampleCopies.normalize = (sampleCopies, .ok 0) ∧ ¬sampleCopies.variableNames.Nodup :=
  ⟨rfl, by decide⟩

end Document

end Dataflow
