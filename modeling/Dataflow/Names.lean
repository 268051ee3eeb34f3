/-!
# Lists of names

Repeats are dropped in favour of the first occurrence, so the order of first occurrences is kept.
-/

namespace Dataflow

/-- The names of a list, each at its first occurrence only. -/
def distinct : List String → List String
  | [] => []
  | name :: rest => name :: (distinct rest).filter fun other => other != name

/-- Dropping repetitions loses no name. -/
theorem mem_distinct_iff {name : String} {names : List String} :
    name ∈ distinct names ↔ name ∈ names := by
  induction names with
  | nil => exact Iff.rfl
  | cons first rest ih =>
    rw [distinct, List.mem_cons, List.mem_cons, List.mem_filter, ih]
    by_cases hfirst : name = first <;> simp [hfirst]

end Dataflow
