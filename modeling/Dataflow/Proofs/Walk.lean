import Dataflow.Proofs.Propagation

/-!
# Walks along any order

A step of a walk touches the node that it visits and nothing else. So in every order without
repeats, also in one that does not put sources first, a source is handed what was fetched for it,
and what is found for a node is found from what the walk knew when it came there and stays as it is.
-/

namespace Dataflow

namespace Propagation

variable {registry : Registry} {snapshot : Document}

/-- A step leaves alone what belongs to other nodes. -/
theorem Walk.get?_step_of_ne (registry : Registry) (snapshot : Document) (walk : Walk)
    {id other : String} (h : other ≠ id) :
    (walk.step registry snapshot id).fetched.get? other = walk.fetched.get? other ∧
      (walk.step registry snapshot id).computed.get? other = walk.computed.get? other := by
  unfold Walk.step
  split
  · exact ⟨rfl, rfl⟩
  · constructor
    · dsimp only
      split
      · exact Dictionary.get?_erase_of_ne _ h
      · rfl
    · exact Dictionary.get?_insert_of_ne _ _ h

/-- Steps leave alone what belongs to nodes that they do not visit. -/
theorem Walk.get?_foldl_of_notMem {ids : List String} {other : String} (h : other ∉ ids)
    (walk : Walk) :
    (ids.foldl (Walk.step registry snapshot) walk).fetched.get? other = walk.fetched.get? other ∧
      (ids.foldl (Walk.step registry snapshot) walk).computed.get? other =
        walk.computed.get? other := by
  induction ids generalizing walk with
  | nil => exact ⟨rfl, rfl⟩
  | cons id rest ih =>
    obtain ⟨hne, hrest⟩ := List.ne_and_not_mem_of_not_mem_cons h
    obtain ⟨hfetched, hcomputed⟩ := ih hrest (walk.step registry snapshot id)
    obtain ⟨hfetchedStep, hcomputedStep⟩ := walk.get?_step_of_ne registry snapshot hne
    exact ⟨hfetched.trans hfetchedStep, hcomputed.trans hcomputedStep⟩

/-- The results of a walk are also held by node. -/
theorem Walk.computed_foldl (ids : List String) {walk : Walk}
    (h : walk.computed = Dictionary.ofList walk.results) :
    (ids.foldl (Walk.step registry snapshot) walk).computed =
      Dictionary.ofList (ids.foldl (Walk.step registry snapshot) walk).results := by
  induction ids generalizing walk with
  | nil => exact h
  | cons id rest ih =>
    apply ih
    unfold Walk.step
    split
    · exact h
    · rw [Dictionary.ofList_concat, ← h]

end Propagation

namespace Pass

open Propagation

variable {pass : Pass} {registry : Registry} {library : Answers}

/-- The walk of a pass after it has visited some nodes. -/
def walked (pass : Pass) (registry : Registry) (library : Answers) (ids : List String) : Walk :=
  ids.foldl (Walk.step registry pass.snapshot)
    ⟨fetchAll registry library pass.snapshot, .empty, []⟩

theorem results_eq_walked (pass : Pass) (registry : Registry) (library : Answers) :
    pass.results registry library = (pass.walked registry library pass.order).results := rfl

theorem walked_append (pass : Pass) (registry : Registry) (library : Answers)
    (ids more : List String) :
    pass.walked registry library (ids ++ more) =
      more.foldl (Walk.step registry pass.snapshot) (pass.walked registry library ids) :=
  List.foldl_append

/-- What a walk has computed are its results. -/
theorem computed_walked (pass : Pass) (registry : Registry) (library : Answers)
    (ids : List String) :
    (pass.walked registry library ids).computed =
      Dictionary.ofList (pass.walked registry library ids).results :=
  Walk.computed_foldl ids rfl

/-- What was fetched for a node is there until the walk visits it. -/
theorem get?_fetched_walked {ids : List String} {id : String} (h : id ∉ ids) :
    (pass.walked registry library ids).fetched.get? id =
      (fetchAll registry library pass.snapshot).get? id :=
  (Walk.get?_foldl_of_notMem h _).1

/-- Nothing is found for what the walk does not visit. -/
theorem get?_computed_walked_of_notMem {ids : List String} {id : String} (h : id ∉ ids) :
    (pass.walked registry library ids).computed.get? id = none :=
  (Walk.get?_foldl_of_notMem h _).2

/-- What was found stays as it is unless its node is visited again. -/
theorem get?_computed_walked_append {ids more : List String} {id : String} (h : id ∉ more) :
    (pass.walked registry library (ids ++ more)).computed.get? id =
      (pass.walked registry library ids).computed.get? id := by
  rw [walked_append]
  exact (Walk.get?_foldl_of_notMem h _).2

/-- What is found for a node is found from what the walk knew when it came there. -/
theorem get?_computed_walked {before after : List String} {node : Node}
    (hids : pass.snapshot.nodeIds.Nodup) (hnode : node ∈ pass.snapshot.nodes)
    (hbefore : node.id ∉ before) (hafter : node.id ∉ after) :
    (pass.walked registry library (before ++ node.id :: after)).computed.get? node.id =
      some (found registry library pass.snapshot
        (pass.walked registry library before).computed node) := by
  rw [List.append_cons, get?_computed_walked_append hafter, walked_append, List.foldl_cons,
    List.foldl_nil, Walk.step_eq (Document.node?_eq_some_of_mem hids hnode)
      (get?_fetched_walked hbefore)]
  exact Dictionary.get?_insert_self _ _ _

end Pass

end Dataflow
