import Dataflow.Proofs.Session

/-!
# Numbers are used once

Kept documents carry old counters, and undo and redo bring old nodes back. Still the counter of a
session never goes back, so a number belongs to the node that first got it for the rest of the run.
The invariant names the owner of every number below the counter: all nodes of the document and of
the history have the numbers that they own. An action gives at most the number of the counter to a
new owner. Variables begin with the number of their node, so they are used once as well.
-/

namespace Dataflow

namespace Document

/-- Every node has a number below a bound that belongs to its id, and binds its outputs with it. -/
def OwnedBy (owner : UInt32 → String) (bound : UInt32) (document : Document) : Prop :=
  ∀ node ∈ document.nodes, node.id = owner node.ordinal ∧ node.ordinal < bound ∧ node.Bound

variable {document : Document} {owner : UInt32 → String} {bound : UInt32}

/-- Owners do not depend on metadata. -/
theorem OwnedBy.of_bare_eq {other : Document} (h : other.OwnedBy owner bound)
    (hbare : document.bare = other.bare) : document.OwnedBy owner bound := by
  intro node hnode
  obtain ⟨old, hold, hsame⟩ := exists_mem_of_bare_eq hbare hnode
  simp only [Node.bare, Node.mk.injEq] at hsame
  obtain ⟨hid, hordinal, hschema, -, hbindings, -⟩ := hsame
  obtain ⟨howner, hbelow, hbound⟩ := h old hold
  rw [Node.Bound, hordinal, hschema, hbindings] at hbound
  exact ⟨hid ▸ hordinal ▸ howner, hordinal ▸ hbelow, hbound⟩

/-- Owners of numbers that are not in use do not matter. -/
theorem OwnedBy.mono {other : UInt32 → String} {next : UInt32} (h : document.OwnedBy owner bound)
    (hle : bound ≤ next) (hsame : ∀ number, number < bound → other number = owner number) :
    document.OwnedBy other next := by
  intro node hnode
  obtain ⟨howner, hbelow, hbound⟩ := h node hnode
  exact ⟨by rw [howner, hsame _ hbelow], UInt32.lt_of_lt_of_le hbelow hle, hbound⟩

/-- A command gives the number of the counter to the id that was made for it. -/
theorem OwnedBy.edit {before after : Document} {command : Session.Command}
    (h : before.OwnedBy owner before.nextOrdinal) (heffect : command.Effect before after)
    {other : UInt32 → String}
    (hsame : ∀ number, number < before.nextOrdinal → other number = owner number)
    (hnew : ∀ id ∈ command.generated?, other before.nextOrdinal = id) :
    after.OwnedBy other after.nextOrdinal := by
  have hold := h.mono heffect.counter hsame
  intro node hnode
  cases heffect.nodes node hnode with
  | kept hmem => exact hold node hmem
  | created schema hid hlt => exact ⟨(hnew _ hid).symm, hlt, rfl⟩
  | @valued old _ _ hmem _ => exact hold old hmem
  | @reassigned old schema hmem _ =>
    obtain ⟨howner, hbelow, hbound⟩ := hold old hmem
    exact ⟨by simpa [Node.withSchema] using howner, by simpa [Node.withSchema] using hbelow,
      hbound.withSchema schema⟩

end Document

namespace Session

variable {session : Session} {owner : UInt32 → String}

/-- All nodes of the document and of the history have numbers that they own. -/
def Numbered (owner : UInt32 → String) (session : Session) : Prop :=
  ∀ document ∈ session.documents, document.OwnedBy owner session.document.nextOrdinal

/-- An action leaves the owners of all numbers below the counter. -/
theorem Numbered.act (h : session.Numbered owner) (action : Action) :
    ∃ next : UInt32 → String,
      (∀ number, number < session.document.nextOrdinal → next number = owner number) ∧
      (session.act action).Numbered next := by
  let generated : String := match action with
    | .command command => command.generated?.getD ""
    | _ => ""
  let next (number : UInt32) : String :=
    if number = session.document.nextOrdinal then generated else owner number
  have hsame (number : UInt32) (hlt : number < session.document.nextOrdinal) :
      next number = owner number := if_neg (UInt32.ne_of_lt hlt)
  refine ⟨next, hsame, ?_⟩
  have hle := session.le_nextOrdinal_act action
  refine forall_documents_act (fun document hdocument => (h document hdocument).mono hle hsame)
    ?_ (fun document howned => howned) ?_
  · rintro command rfl heffect
    refine (h _ List.mem_cons_self).edit heffect hsame fun id hid => ?_
    have hgenerated : generated = id := by
      change command.generated?.getD "" = id
      rw [Option.mem_def.mp hid, Option.getD_some]
    simp only [next, ite_true, hgenerated]
  · exact fun hbare => ((h _ List.mem_cons_self).mono hle hsame).of_bare_eq hbare

/-- Along a run numbers keep their owners, and the counter does not go back. -/
theorem Numbered.run (h : session.Numbered owner) (actions : List Action) :
    ∃ next : UInt32 → String,
      (∀ number, number < session.document.nextOrdinal → next number = owner number) ∧
      (session.run actions).Numbered next ∧
      session.document.nextOrdinal ≤ (session.run actions).document.nextOrdinal := by
  induction actions generalizing session owner with
  | nil => exact ⟨owner, fun _ _ => rfl, h, UInt32.le_refl _⟩
  | cons action rest ih =>
    obtain ⟨middle, hmiddle, hstep⟩ := h.act action
    obtain ⟨next, hnext, hrest, hcounter⟩ := ih hstep
    have hle := session.le_nextOrdinal_act action
    refine ⟨next, fun number hlt => ?_, hrest, UInt32.le_trans hle hcounter⟩
    rw [hnext number (UInt32.lt_of_lt_of_le hlt hle), hmiddle number hlt]

/-- On an empty document every number is free. -/
theorem numbered_of_start_empty {id name : String} {registry : Registry} {library : Answers}
    {config : Config} {encode : Encoder}
    (h : Session.start (.empty id name) registry library config encode = .ok session)
    (owner : UInt32 → String) : session.Numbered owner := by
  intro document hdocument node hnode
  rw [documents_of_start_empty h] at hdocument
  obtain rfl := List.mem_singleton.mp hdocument
  exact absurd hnode List.not_mem_nil

/-- In a run that begins with an empty document the counter never goes back, and nodes of any two
moments that have the same number or share a variable have the same id. -/
theorem run_number_once {start : Session} {id name : String} {registry : Registry}
    {library : Answers} {config : Config} {encode : Encoder}
    (hstart : Session.start (.empty id name) registry library config encode = .ok start)
    (earlier later : List Action) :
    (start.run earlier).document.nextOrdinal ≤
        (start.run (earlier ++ later)).document.nextOrdinal ∧
      ∀ a ∈ (start.run earlier).document.nodes,
        ∀ b ∈ (start.run (earlier ++ later)).document.nodes,
          (a.ordinal = b.ordinal ∨
            ∃ x ∈ a.bindings, ∃ y ∈ b.bindings, x.name = y.name) → a.id = b.id := by
  obtain ⟨first, -, hfirst, -⟩ := (numbered_of_start_empty hstart fun _ => "").run earlier
  obtain ⟨second, hsame, hsecond, hcounter⟩ := hfirst.run later
  have hrun : start.run (earlier ++ later) = (start.run earlier).run later := List.foldl_append
  rw [hrun]
  refine ⟨hcounter, fun a ha b hb hshared => ?_⟩
  obtain ⟨haowner, hbelow, habound⟩ := hfirst _ List.mem_cons_self a ha
  obtain ⟨hbowner, -, hbbound⟩ := hsecond _ List.mem_cons_self b hb
  have hordinal : a.ordinal = b.ordinal := by
    rcases hshared with hsame | ⟨x, hx, y, hy, hname⟩
    · exact hsame
    · rw [habound] at hx
      rw [hbbound] at hy
      exact (Variable.isNameOf_of_mem_bindPorts hx).ordinal_eq
        (hname ▸ Variable.isNameOf_of_mem_bindPorts hy)
  rw [haowner, hbowner, ← hordinal, hsame _ hbelow]

/-- Two nodes are added. -/
def sampleAdditions : List Action :=
  [.command (.addNode "a" "copy"), .command (.addNode "b" "copy")]

/-- The second addition is taken back and another node added, an algorithm is looked for that does
not exist, the first node is deleted, and the deletion is taken back. -/
def sampleReplacements : List Action :=
  [.undo, .command (.addNode "c" "copy"), .command (.addNode "d" "none"), .command (.delete "a"),
    .undo]

/-- The number of the addition that was taken back is not given out again. -/
theorem run_number_once_sampleStart :
    Session.start (.empty "p" "Pipeline") sampleStart.registry sampleStart.library
        sampleStart.config .total = .ok sampleStart ∧
      (sampleStart.run sampleAdditions).document.variableNames = ["n01_out", "n02_out"] ∧
      (sampleStart.run (sampleAdditions ++ sampleReplacements)).document.variableNames =
        ["n01_out", "n03_out"] ∧
      (sampleStart.run sampleAdditions).document.nextOrdinal ≤
        (sampleStart.run (sampleAdditions ++ sampleReplacements)).document.nextOrdinal ∧
      ∀ a ∈ (sampleStart.run sampleAdditions).document.nodes,
        ∀ b ∈ (sampleStart.run (sampleAdditions ++ sampleReplacements)).document.nodes,
          (a.ordinal = b.ordinal ∨
            ∃ x ∈ a.bindings, ∃ y ∈ b.bindings, x.name = y.name) → a.id = b.id :=
  ⟨start_sampleStart, by rfl, by rfl,
    run_number_once start_sampleStart sampleAdditions sampleReplacements⟩

end Session

end Dataflow
