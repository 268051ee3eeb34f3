/-!
# History

Undo and redo as two stacks of states. A state is put on the past before it is changed, which ends
all redo. The past keeps a bounded number of states and drops the oldest.
-/

namespace Dataflow

universe u

/-- Earlier and later states. -/
structure History (α : Type u) where
  /-- How many earlier states are kept, at least one. -/
  depth : Nat
  /-- The states before the current one, the latest first. -/
  past : List α
  /-- The states that were undone, the next first. -/
  future : List α

namespace History

variable {α : Type u}

/-- How many earlier states are kept where nothing else is asked for. -/
def defaultDepth : Nat := 100

/-- A history without states that keeps at least one. -/
def start (depth : Nat) : History α := { depth := max depth 1, past := [], future := [] }

/-- Keep a state that is about to change. -/
def checkpoint (history : History α) (state : α) : History α :=
  { history with past := (state :: history.past).take history.depth, future := [] }

/-- The state before the current one, if there is one. -/
def undo? (history : History α) (current : α) : Option (α × History α) :=
  match history.past with
  | [] => none
  | state :: rest =>
    some (state, { history with past := rest, future := current :: history.future })

/-- The state that was undone last, if there is one. -/
def redo? (history : History α) (current : α) : Option (α × History α) :=
  match history.future with
  | [] => none
  | state :: rest =>
    some (state, { history with past := current :: history.past, future := rest })

/-- The history without the state before the current one. -/
def dropPast (history : History α) : History α := { history with past := history.past.tail }

/-- The history without the state that was undone last. -/
def dropFuture (history : History α) : History α := { history with future := history.future.tail }

/-- Whether there is an earlier state. -/
def canUndo (history : History α) : Bool := !history.past.isEmpty

/-- Whether there is a later state. -/
def canRedo (history : History α) : Bool := !history.future.isEmpty

/-- Forget all states. -/
def clear (history : History α) : History α := { history with past := [], future := [] }

/-- Whether no state is kept. -/
def isEmpty (history : History α) : Bool := history.past.isEmpty && history.future.isEmpty

end History

end Dataflow
