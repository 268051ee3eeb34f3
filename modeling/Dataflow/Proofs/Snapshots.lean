import Dataflow.Document.Record
import Dataflow.History

/-!
# Snapshots

A history holds snapshots: states in an encoded form, which are read back when a step reaches them.
Snapshots that can be read back are as good as the states themselves, so a history of snapshots is
the image of a history of states under every sequence of calls. Only a checkpoint looks at the depth
of the history. Undo and redo move one state from one stack to the other, so they keep the number of
states, and the bound on both stacks together is what holds along a sequence of calls. A step is
taken back by the opposite step, and undo goes back along the states that were kept, the latest
first, until as many are gone as fit.
-/

namespace Dataflow

universe u v

namespace History

variable {α : Type u} {σ : Type v} {history : History α}

/-- A call on a history, with the state that is current. -/
inductive Call (α : Type u) where
  /-- Keep a state that is about to change. -/
  | checkpoint (state : α)
  /-- Step back. -/
  | undo (current : α)
  /-- Step forward. -/
  | redo (current : α)
  /-- Forget all states. -/
  | clear

/-- The same call with another state. -/
def Call.map (image : α → σ) : Call α → Call σ
  | .checkpoint state => .checkpoint (image state)
  | .undo current => .undo (image current)
  | .redo current => .redo (image current)
  | .clear => .clear

/-- The history after a call. Without a state to step to it stays as it is. -/
def after (history : History α) : Call α → History α
  | .checkpoint state => history.checkpoint state
  | .undo current => ((history.undo? current).map Prod.snd).getD history
  | .redo current => ((history.redo? current).map Prod.snd).getD history
  | .clear => history.clear

/-- The history after calls one after another. -/
def run (depth : Nat) (calls : List (Call α)) : History α := calls.foldl after (start depth)

theorem run_append (depth : Nat) (calls more : List (Call α)) :
    run depth (calls ++ more) = more.foldl after (run depth calls) :=
  List.foldl_append

/-! ## Steps -/

/-- Undo gives the latest state of the past. -/
theorem map_fst_undo? (history : History α) (current : α) :
    (history.undo? current).map Prod.fst = history.past.head? := by
  unfold undo?
  split <;> simp [*]

/-- Redo takes an undo back, with the whole history. -/
theorem redo?_of_undo? {current state : α} {next : History α}
    (h : history.undo? current = some (state, next)) :
    next.redo? state = some (current, history) := by
  obtain ⟨depth, past, future⟩ := history
  cases past with
  | nil => simp [undo?] at h
  | cons latest rest =>
    obtain ⟨rfl, rfl⟩ := Prod.mk.inj (Option.some.inj h)
    rfl

/-- Undo takes a redo back, with the whole history. -/
theorem undo?_of_redo? {current state : α} {next : History α}
    (h : history.redo? current = some (state, next)) :
    next.undo? state = some (current, history) := by
  obtain ⟨depth, past, future⟩ := history
  cases future with
  | nil => simp [redo?] at h
  | cons following rest =>
    obtain ⟨rfl, rfl⟩ := Prod.mk.inj (Option.some.inj h)
    rfl

/-! ## The bound -/

/-- The depth of a history, and what both of its stacks hold together. -/
structure Within (bound : Nat) (history : History α) : Prop where
  /-- The depth is the bound. -/
  depth : history.depth = bound
  /-- No more states are kept than the bound says. -/
  size : history.past.length + history.future.length ≤ bound

variable {bound : Nat}

/-- A call keeps the bound on both stacks together. -/
theorem Within.after (h : history.Within bound) (call : Call α) :
    (history.after call).Within bound := by
  obtain ⟨depth, past, future⟩ := history
  obtain ⟨rfl, hsize⟩ := h
  cases call with
  | checkpoint state => exact ⟨rfl, List.length_take_le _ _⟩
  | undo current =>
    cases past with
    | nil => exact ⟨rfl, hsize⟩
    | cons latest rest =>
      refine ⟨rfl, ?_⟩
      simp only [History.after, undo?, Option.map_some, Option.getD_some, List.length_cons]
        at hsize ⊢
      omega
  | redo current =>
    cases future with
    | nil => exact ⟨rfl, hsize⟩
    | cons following rest =>
      refine ⟨rfl, ?_⟩
      -- nothing is checked here, but the state that is pushed takes the place of the one popped
      simp only [History.after, redo?, Option.map_some, Option.getD_some, List.length_cons]
        at hsize ⊢
      omega
  | clear => exact ⟨rfl, Nat.zero_le _⟩

/-- Calls one after another keep the bound on both stacks together. -/
theorem Within.foldl (h : history.Within bound) (calls : List (Call α)) :
    (calls.foldl History.after history).Within bound := by
  induction calls generalizing history with
  | nil => exact h
  | cons call rest ih => exact ih (h.after call)

/-- However a history is used, both stacks together hold at most as much as its depth. -/
theorem within_run (depth : Nat) (calls : List (Call α)) :
    (run depth calls).Within (max depth 1) := by
  have hstart : (start depth : History α).Within (max depth 1) := ⟨rfl, Nat.zero_le _⟩
  exact hstart.foldl calls

/-! ## Going back -/

/-- Checkpoints put states before the earlier ones, and the oldest states beyond the depth go. -/
theorem past_checkpoints (hsize : history.past.length ≤ history.depth) (states : List α) :
    ((states.map Call.checkpoint).foldl after history).past =
      (states.reverse ++ history.past).take history.depth := by
  induction states generalizing history with
  | nil => exact (List.take_of_length_le hsize).symm
  | cons state rest ih =>
    have hkept : (history.checkpoint state).past.length ≤ (history.checkpoint state).depth :=
      List.length_take_le _ _
    have htake : (rest.reverse ++ (state :: history.past).take history.depth).take history.depth =
        (rest.reverse ++ state :: history.past).take history.depth := by
      rw [List.take_append, List.take_append, List.take_take, Nat.min_eq_left (Nat.sub_le _ _)]
    rw [List.map_cons, List.foldl_cons]
    refine (ih hkept).trans ?_
    rw [List.reverse_cons, List.append_assoc]
    exact htake

theorem past_after_undo (history : History α) (current : α) :
    (history.after (.undo current)).past = history.past.tail := by
  obtain ⟨depth, past, future⟩ := history
  cases past <;> rfl

/-- Several undos drop as many states from the past. -/
theorem past_undos (history : History α) (currents : List α) :
    ((currents.map Call.undo).foldl after history).past = history.past.drop currents.length := by
  induction currents generalizing history with
  | nil => rfl
  | cons current rest ih =>
    rw [List.map_cons, List.foldl_cons, ih, past_after_undo, List.length_cons, List.drop_tail]

/-- What undo gives after checkpoints and other undos. -/
theorem undo?_after_checkpoints (depth : Nat) (calls : List (Call α)) (states currents : List α)
    (current : α) :
    ((run depth (calls ++ (states.map .checkpoint ++ currents.map .undo))).undo? current).map
        Prod.fst =
      ((states.reverse ++ (run depth calls).past).take (max depth 1))[currents.length]? := by
  obtain ⟨hdepth, hsize⟩ := within_run depth calls
  have hpast : (run depth calls).past.length ≤ (run depth calls).depth := by
    rw [hdepth]
    exact Nat.le_trans (Nat.le_add_right _ _) hsize
  rw [map_fst_undo?, run_append, List.foldl_append, past_undos, List.head?_drop,
    past_checkpoints hpast, hdepth]

/-! ## Other states -/

/-- The same history of other states. -/
def map (image : α → σ) (history : History α) : History σ :=
  ⟨history.depth, history.past.map image, history.future.map image⟩

/-- A checkpoint does not look into states. -/
theorem checkpoint_map (image : α → σ) (history : History α) (state : α) :
    (history.map image).checkpoint (image state) = (history.checkpoint state).map image := by
  simp [map, checkpoint, List.map_take]

/-- Undo does not look into states. -/
theorem undo?_map (image : α → σ) (history : History α) (current : α) :
    (history.map image).undo? (image current) =
      (history.undo? current).map (Prod.map image (map image)) := by
  obtain ⟨depth, past, future⟩ := history
  cases past <;> rfl

/-- Redo does not look into states. -/
theorem redo?_map (image : α → σ) (history : History α) (current : α) :
    (history.map image).redo? (image current) =
      (history.redo? current).map (Prod.map image (map image)) := by
  obtain ⟨depth, past, future⟩ := history
  cases future <;> rfl

/-- No call looks into states. -/
theorem after_map (image : α → σ) (history : History α) (call : Call α) :
    (history.map image).after (call.map image) = (history.after call).map image := by
  cases call with
  | checkpoint state => exact history.checkpoint_map image state
  | undo current =>
    rw [Call.map, after, after, undo?_map]
    cases history.undo? current <;> rfl
  | redo current =>
    rw [Call.map, after, after, redo?_map]
    cases history.redo? current <;> rfl
  | clear => rfl

/-- What the states are makes no difference to any sequence of calls. -/
theorem run_map (image : α → σ) (depth : Nat) (calls : List (Call α)) :
    run depth (calls.map (Call.map image)) = (run depth calls).map image := by
  have hfold (history : History α) :
      (calls.map (Call.map image)).foldl after (history.map image) =
        (calls.foldl after history).map image := by
    induction calls generalizing history with
    | nil => rfl
    | cons call rest ih => rw [List.map_cons, List.foldl_cons, after_map, ih, List.foldl_cons]
  exact hfold (start depth)

end History

/-- A form of states from which they can be read back. -/
structure Encoding (α : Type u) (σ : Type v) where
  /-- The snapshot of a state. -/
  write : α → σ
  /-- The state of a snapshot, if it can be read. -/
  read? : σ → Option α
  /-- What was written can be read. -/
  read?_write (state : α) : read? (write state) = some state

/-- Documents are kept as they are, and those whose record is not nested too deep can be read. -/
def Document.snapshots :
    Encoding { document : Document // document.isReadable = true } Document where
  write := Subtype.val
  read? document := if h : document.isReadable = true then some ⟨document, h⟩ else none
  read?_write document := dif_pos document.2

/-- A snapshot of a document is read as a session reads it. -/
theorem Document.map_val_read?_snapshots (document : Document) :
    (snapshots.read? document).map Subtype.val = document.readBack.toOption := by
  unfold snapshots readBack
  dsimp only
  split <;> rfl

namespace Encoding

open History (Call)

variable {α : Type u} {σ : Type v} (encoding : Encoding α σ)

/-- Step back in a history of snapshots: what is read of the snapshot, and the history after it. -/
def undo? (history : History σ) (current : α) : Option (Option α × History σ) :=
  (history.undo? (encoding.write current)).map fun step => (encoding.read? step.1, step.2)

/-- Step forward in a history of snapshots. -/
def redo? (history : History σ) (current : α) : Option (Option α × History σ) :=
  (history.redo? (encoding.write current)).map fun step => (encoding.read? step.1, step.2)

/-- The history of snapshots after calls one after another. -/
def run (depth : Nat) (calls : List (Call α)) : History σ :=
  History.run depth (calls.map (Call.map encoding.write))

/-- A history of snapshots is the image of the history of states. -/
theorem run_eq_map (depth : Nat) (calls : List (Call α)) :
    encoding.run depth calls = (History.run depth calls).map encoding.write :=
  History.run_map encoding.write depth calls

/-- Undo reads the snapshot back as the state. -/
theorem undo?_map_write (history : History α) (current : α) :
    encoding.undo? (history.map encoding.write) current =
      (history.undo? current).map fun step => (some step.1, step.2.map encoding.write) := by
  rw [undo?, History.undo?_map]
  cases history.undo? current with
  | none => rfl
  | some step => simp [encoding.read?_write]

/-- Redo reads the snapshot back as the state. -/
theorem redo?_map_write (history : History α) (current : α) :
    encoding.redo? (history.map encoding.write) current =
      (history.redo? current).map fun step => (some step.1, step.2.map encoding.write) := by
  rw [redo?, History.redo?_map]
  cases history.redo? current with
  | none => rfl
  | some step => simp [encoding.read?_write]

theorem filterMap_read?_map_write (states : List α) :
    (states.map encoding.write).filterMap encoding.read? = states := by
  have hread : encoding.read? ∘ encoding.write = some := funext encoding.read?_write
  rw [List.filterMap_map, hread, List.filterMap_some]

/-- After any calls, past and future together hold no more snapshots than the depth says, a step
that gives a state is taken back by the opposite step, which gives the state that was current and
leaves the stacks as they were, and after further checkpoints undo gives the states that were kept,
the latest first, exactly as many as fit. -/
theorem run_answers (depth : Nat) (calls : List (Call α)) :
    let history := encoding.run depth calls
    history.past.length + history.future.length ≤ max depth 1 ∧
      (∀ current state next, encoding.undo? history current = some (some state, next) →
        encoding.redo? next state = some (some current, history)) ∧
      (∀ current state next, encoding.redo? history current = some (some state, next) →
        encoding.undo? next state = some (some current, history)) ∧
      ∀ states : List α,
        let kept := (states.reverse ++ history.past.filterMap encoding.read?).take (max depth 1)
        kept.length = min (states.length + history.past.length) (max depth 1) ∧
          ∀ (currents : List α) (current : α),
            (encoding.undo? (encoding.run depth
              (calls ++ (states.map .checkpoint ++ currents.map .undo))) current).map Prod.fst =
                kept[currents.length]?.map some := by
  intro history
  have hrun : history = (History.run depth calls).map encoding.write :=
    encoding.run_eq_map depth calls
  refine ⟨(History.within_run depth _).size, ?_, ?_, ?_⟩
  · intro current state next hundo
    rw [hrun, undo?_map_write] at hundo
    obtain ⟨⟨found, plain⟩, hstep, heq⟩ := Option.map_eq_some_iff.mp hundo
    obtain ⟨hfound, rfl⟩ := Prod.mk.inj heq
    obtain rfl := Option.some.inj hfound
    rw [redo?_map_write, History.redo?_of_undo? hstep, hrun]
    rfl
  · intro current state next hredo
    rw [hrun, redo?_map_write] at hredo
    obtain ⟨⟨found, plain⟩, hstep, heq⟩ := Option.map_eq_some_iff.mp hredo
    obtain ⟨hfound, rfl⟩ := Prod.mk.inj heq
    obtain rfl := Option.some.inj hfound
    rw [undo?_map_write, History.undo?_of_redo? hstep, hrun]
    rfl
  · intro states kept
    have hread : history.past.filterMap encoding.read? = (History.run depth calls).past := by
      rw [hrun]
      exact encoding.filterMap_read?_map_write _
    have hlength : history.past.length = (History.run depth calls).past.length := by
      rw [hrun]
      exact List.length_map _
    refine ⟨?_, fun currents current => ?_⟩
    · simp only [kept, hread, hlength, List.length_take, List.length_append, List.length_reverse]
      exact Nat.min_comm _ _
    · have hback := History.undo?_after_checkpoints depth calls states currents current
      rw [run_eq_map, undo?_map_write, Option.map_map]
      simp only [kept, hread, ← hback, Option.map_map]
      rfl

/-- Documents that differ in their names. -/
def sampleState (name : String) : { document : Document // document.isReadable = true } :=
  ⟨.empty "p" name, rfl⟩

/-- Three checkpoints where two states fit, and two steps back. -/
def sampleCalls : List (Call { document : Document // document.isReadable = true }) :=
  [.checkpoint (sampleState "0"), .checkpoint (sampleState "1"), .checkpoint (sampleState "2"),
    .undo (sampleState "3"), .undo (sampleState "2")]

/-- Where two states fit, the first of three checkpoints cannot be reached any more. -/
theorem run_answers_sampleCalls :
    let history := Document.snapshots.run 2 sampleCalls
    (history.past.length, history.future.length) = (0, 2) ∧
      history.past.length + history.future.length ≤ 2 ∧
      (∃ next, Document.snapshots.redo? history (sampleState "1") =
          some (some (sampleState "2"), next) ∧
        Document.snapshots.undo? next (sampleState "2") =
          some (some (sampleState "1"), history)) ∧
      ∀ current, (Document.snapshots.undo? (Document.snapshots.run 2
        (sampleCalls ++ [.checkpoint (sampleState "4"), .undo (sampleState "5")])) current).map
          Prod.fst = none := by
  intro history
  obtain ⟨hbound, -, hredo, hback⟩ := Document.snapshots.run_answers 2 sampleCalls
  refine ⟨rfl, hbound, ⟨_, rfl, hredo _ _ _ rfl⟩, fun current => ?_⟩
  exact (hback [sampleState "4"]).2 [sampleState "5"] current

end Encoding

end Dataflow
