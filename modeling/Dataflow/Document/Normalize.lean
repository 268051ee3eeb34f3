import Dataflow.Document.Edit

/-!
# Normal documents

A document that was read may hold any numbers and variables. To normalize it, the counter is moved
behind all numbers, every node whose number an earlier node has gets a fresh one, and variables that
do not belong to the outputs of their node are bound afresh. If the numbers run out, what was done
until then stays.
-/

namespace Dataflow

/-- The number after another; the last has none after it. -/
def nextAfter (ordinal : UInt32) : UInt32 :=
  if ordinal = lastOrdinal then lastOrdinal else ordinal + 1

/-- Nodes with repeated numbers replaced. -/
structure Renumbering where
  /-- The nodes, those after a failure as they were. -/
  nodes : List Node
  /-- The counter after the numbers that were given out. -/
  nextOrdinal : UInt32
  /-- How many nodes got another number. -/
  count : Nat
  /-- Whether the numbers ran out. -/
  exhausted : Bool

namespace Renumbering

/-- Replace numbers that were seen before, given those of the earlier nodes. -/
def ofNodes (seen : List UInt32) (next : UInt32) : List Node → Renumbering
  | [] => ⟨[], next, 0, false⟩
  | node :: rest =>
    if seen.contains node.ordinal then
      if next = lastOrdinal then ⟨node :: rest, next, 0, true⟩
      else
        let later := ofNodes seen (next + 1) rest
        { later with nodes := node.renumber next :: later.nodes, count := later.count + 1 }
    else
      let later := ofNodes (node.ordinal :: seen) next rest
      { later with nodes := node :: later.nodes }

end Renumbering

namespace Document

/-- A number behind those of all nodes. -/
def pastHighest (document : Document) : UInt32 :=
  document.nodes.foldl (fun highest node =>
    if highest ≤ nextAfter node.ordinal then nextAfter node.ordinal else highest) 0

/-- Make a document normal, and count the nodes that changed. On failure the document keeps what was
changed before. -/
def normalize (document : Document) : Document × Except Error Nat :=
  let advanced := document.advance document.pastHighest
  let numbered := Renumbering.ofNodes [] advanced.nextOrdinal document.nodes
  let renumbered :=
    { advanced with nodes := numbered.nodes, nextOrdinal := numbered.nextOrdinal }
  if numbered.exhausted then (renumbered, .error .ordinalsExhausted)
  else
    ({ renumbered with nodes := numbered.nodes.map Node.ensureBound },
      .ok (numbered.count + numbered.nodes.countP fun node => !node.isBound))

end Document

end Dataflow
