import Dataflow.Proofs.Commands
import Dataflow.Proofs.Propagation

/-!
# Sessions under way

What a host can do with a session, and what each of these actions does to the document and to its
history. A command that succeeds keeps the document before it, and every node of the edited document
is one of the old nodes, or new, or an old one with another value or another schema. A command that
fails changes nothing, unless the document before it cannot be encoded; then the edit stays, but
nothing is kept. Undo and redo exchange the document for one that was kept, and a pass changes
nothing but metadata.
-/

namespace Dataflow.Session

/-- Something that a host does with a session. -/
inductive Action where
  /-- Edit the document. -/
  | command (command : Command)
  /-- Take back the last edit. -/
  | undo
  /-- Make the last edit that was taken back again. -/
  | redo
  /-- List the document. -/
  | code
  /-- Make the code of a node. -/
  | nodeCode (id : String)
  /-- Run a node. -/
  | execute (backend : Backend) (id : String)
  /-- Forget the outcome of the run of a node. -/
  | clearExecution (id : String)
  /-- Make a pass. -/
  | propagate
  /-- Forget the last pass. -/
  | invalidate
  /-- Use another library. -/
  | useLibrary (library : Answers)

namespace Command

/-- Where a node of an edited document comes from. -/
inductive Origin (command : Command) (before after : Document) : Node → Prop where
  /-- It is there already. -/
  | kept {node : Node} : node ∈ before.nodes → Origin command before after node
  /-- It is new and has the number of the counter, which moves on. -/
  | created {id : String} (schema : Schema) : command.generated? = some id →
    before.nextOrdinal < after.nextOrdinal →
    Origin command before after (Node.create id before.nextOrdinal schema)
  /-- It is there already with other values. -/
  | valued {node : Node} {name : String} {value : Json} : node ∈ before.nodes →
    command = .setValue node.id name value →
    Origin command before after { node with values := node.values.insert name value }
  /-- It is there already with another schema. -/
  | reassigned {node : Node} (schema : Schema) : node ∈ before.nodes → command.assigns = true →
    Origin command before after (node.withSchema schema).ensureBound

/-- What a command that succeeds does to a document. -/
structure Effect (command : Command) (before after : Document) : Prop where
  /-- The counter does not go back. -/
  counter : before.nextOrdinal ≤ after.nextOrdinal
  /-- Every node comes from somewhere. -/
  nodes : ∀ node ∈ after.nodes, command.Origin before after node
  /-- With a new id the document stays well-formed. -/
  wellFormed : before.WellFormed → (∀ id ∈ command.generated?, id ∉ before.nodeIds) →
    after.WellFormed

variable {command : Command} {before after : Document}

/-- An edit that a command asks for does what the command may do. -/
theorem effect_of_tryEdit {edit : Edit} {stale : List String} (hasks : command.Asks edit)
    (h : before.tryEdit edit = .ok (after, stale)) : command.Effect before after := by
  have hafter : before.after edit = after := by
    rw [Document.after_eq_keeping, h]
    rfl
  -- an edit of another kind makes no id
  have hformed (hnone : edit.generated? = none) (hbefore : before.WellFormed) :
      after.WellFormed := by
    rw [← hafter]
    exact hbefore.after fun id hid => by simp [hnone] at hid
  cases hasks with
  | insert schema hid =>
    have hmade := Document.eq_ok_of_map_eq_ok h
    have hlt := Document.lt_nextOrdinal_insertNew hmade
    refine ⟨UInt32.le_of_lt hlt, fun node hnode => ?_, fun hbefore hfresh => ?_⟩
    · rw [Document.insertNew_eq_ok hmade] at hnode
      rcases List.mem_append.mp hnode with hold | hnew
      · exact .kept hold
      · obtain rfl := List.mem_singleton.mp hnew
        exact .created schema hid hlt
    · exact hbefore.insertNew (hfresh _ hid) hmade
  | setValue hcommand =>
    obtain rfl := Document.updateNode_eq_ok (Document.eq_ok_of_map_eq_ok h)
    refine ⟨UInt32.le_refl _, fun node hnode => ?_, fun hbefore _ => hformed rfl hbefore⟩
    rcases mem_modifyFirst hnode with hold | ⟨old, hold, htest, rfl⟩
    · exact .kept hold
    · obtain rfl := eq_of_beq htest
      exact .valued hold hcommand
  | assign id schema hassigns =>
    obtain ⟨⟨_, change⟩, hmade, heq⟩ := exists_of_map_eq_ok h
    obtain ⟨rfl, -⟩ := Prod.mk.inj heq
    obtain ⟨rfl, -⟩ := Document.assign_eq_ok hmade
    refine ⟨UInt32.le_refl _, fun node hnode => ?_, fun hbefore _ => hformed rfl hbefore⟩
    rcases mem_modifyFirst hnode with hold | ⟨old, hold, -, rfl⟩
    · exact .kept hold
    · exact .reassigned schema hold hassigns
  | connect edge =>
    obtain rfl := Document.connect_eq_ok (Document.eq_ok_of_map_eq_ok h)
    exact ⟨UInt32.le_refl _, fun node hnode => .kept hnode, fun hbefore _ => hformed rfl hbefore⟩
  | disconnect id =>
    obtain ⟨⟨_, edge⟩, hmade, heq⟩ := exists_of_map_eq_ok h
    obtain ⟨rfl, -⟩ := Prod.mk.inj heq
    obtain ⟨-, rfl⟩ := Document.disconnect_eq_ok hmade
    exact ⟨UInt32.le_refl _, fun node hnode => .kept hnode, fun hbefore _ => hformed rfl hbefore⟩
  | delete id =>
    obtain ⟨⟨_, removal⟩, hmade, heq⟩ := exists_of_map_eq_ok h
    obtain ⟨rfl, -⟩ := Prod.mk.inj heq
    obtain ⟨rfl, -⟩ := Document.delete_eq_ok hmade
    exact ⟨UInt32.le_refl _, fun node hnode => .kept (List.mem_of_mem_eraseP hnode),
      fun hbefore _ => hformed rfl hbefore⟩

end Command

variable {session : Session}

/-- The session after an action. -/
def act (session : Session) : Action → Session
  | .command command => (session.obey command).1
  | .undo => session.undo.1
  | .redo => session.redo.1
  | .code => session.code.1
  | .nodeCode id => (session.nodeCode id).1
  | .execute backend id => (session.execute backend id).1
  | .clearExecution id => session.clearExecution id
  | .propagate => session.propagate.1
  | .invalidate => session.invalidate
  | .useLibrary library => session.useLibrary library

/-- The session after actions one after another. -/
def run (session : Session) (actions : List Action) : Session := actions.foldl act session

/-- A session that comes from the start of one by actions. -/
inductive Reachable : Session → Prop where
  | start {document : Document} {registry : Registry} {library : Answers} {config : Config}
    {encode : Encoder} {session : Session} :
    Session.start document registry library config encode = .ok session → Reachable session
  | act {session : Session} (action : Action) : Reachable session → Reachable (session.act action)

/-! ## Commands -/

/-- A command fails and changes nothing, or it gives a document. That document is accepted, or else
the one before cannot be encoded, and the command fails after its edit. -/
theorem answered_obey (session : Session) (command : Command) :
    (∃ cause, session.obey command = (session, .error cause)) ∨
    ∃ document, command.Effect session.document document ∧
      ((∃ stale, session.obey command = (session.accept document stale, .ok ())) ∨
        ∃ cause, session.encode session.document = .error cause ∧
          session.obey command = ({ session with document }, .error cause)) := by
  rcases session.obey_cases command with
    hfailed | ⟨edit, document, stale, hedit, htried, hanswer⟩
  · exact .inl hfailed
  · refine .inr ⟨document, Command.effect_of_tryEdit (Command.asks_of_edit hedit) htried, ?_⟩
    exact hanswer.imp_left fun haccepted => ⟨stale, haccepted⟩

/-! ## Undo, redo and passes -/

/-- A document that is read back is the one that was kept. -/
theorem readBack_eq_ok {kept document : Document} (h : kept.readBack = .ok document) :
    document = kept := by
  unfold Document.readBack at h
  split at h
  · exact (Except.ok.inj h).symm
  · contradiction

/-- Without a kept document nothing happens. One is dropped if the current document cannot be
encoded and passed if it cannot be read back, and else it is restored. -/
theorem restore_cases (session : Session) (step : Option (Document × History Document))
    (dropped : History Document) :
    (step = none ∧ session.restore step dropped = (session, .ok false)) ∨
    ∃ kept history, step = some (kept, history) ∧
      ((∃ cause, session.encode session.document = .error cause ∧
        session.restore step dropped = ({ session with history := dropped }, .error cause)) ∨
      (∃ cause, session.restore step dropped = ({ session with history }, .error cause)) ∨
        session.restore step dropped = ({ session with
          document := kept.advance session.document.nextOrdinal
          history }.refresh, .ok true)) := by
  cases step with
  | none => exact .inl ⟨rfl, rfl⟩
  | some step =>
    obtain ⟨kept, history⟩ := step
    refine .inr ⟨kept, history, rfl, ?_⟩
    cases hencode : session.encode session.document with
    | error cause => exact .inl ⟨cause, rfl, by simp only [restore, hencode]⟩
    | ok _ =>
      cases hread : kept.readBack with
      | error cause => exact .inr (.inl ⟨cause, by simp only [restore, hencode, hread]⟩)
      | ok document =>
        obtain rfl := readBack_eq_ok hread
        exact .inr (.inr (by simp only [restore, hencode, hread]))

/-- Writing a result changes metadata only. -/
theorem bare_write (writing : Writing) (result : String × Metadata) :
    (writing.write result).document.bare = writing.document.bare := by
  unfold Writing.write
  dsimp only
  split
  · rfl
  · split
    · rfl
    · have hnodes : (modifyFirst (fun node => node.id == result.1)
          (fun node : Node => { node with metadata := result.2 }) writing.document.nodes).map
          Node.bare = writing.document.nodes.map Node.bare := by
        apply map_modifyFirst
        intro node
        rfl
      exact congrArg (fun nodes => { writing.document with nodes }) hnodes

/-- Writing results changes metadata only. -/
theorem bare_writeResults (document : Document) (results : List (String × Metadata)) :
    (document.writeResults results).document.bare = document.bare := by
  induction results using List.reverseRecOn with
  | nil => rfl
  | append_singleton results last ih =>
    rw [Document.writeResults, List.foldl_append]
    exact (bare_write _ last).trans ih

/-- A pass writes nothing but metadata. -/
theorem bare_propagate (session : Session) :
    session.propagate.1.document.bare = session.document.bare := by
  rcases session.propagate_cases with ⟨events, hskipped, -⟩ | ⟨cycle, events, -, hcycle⟩ |
    ⟨order, -, hdone⟩
  · rw [hskipped]
    rfl
  · rw [hcycle]
    rfl
  · rw [hdone]
    exact bare_writeResults _ _

/-! ## All actions -/

/-- The document that undo or redo brings back, and the history after it. -/
inductive Recalls (session : Session) (kept : Document) (history : History Document) :
    Action → Prop where
  | undo : session.history.undo? session.document = some (kept, history) →
    Recalls session kept history .undo
  | redo : session.history.redo? session.document = some (kept, history) →
    Recalls session kept history .redo

/-- The history that undo or redo leaves where it does not change the document. -/
inductive Passes (session : Session) : History Document → Action → Prop where
  /-- A document that cannot be read back is passed. -/
  | unread {kept : Document} {history : History Document} {action : Action} :
    session.Recalls kept history action → Passes session history action
  /-- Undo drops a document if the current one cannot be encoded. -/
  | undo {cause : Error} : session.encode session.document = .error cause →
    Passes session session.history.dropPast .undo
  /-- Redo drops a document if the current one cannot be encoded. -/
  | redo {cause : Error} : session.encode session.document = .error cause →
    Passes session session.history.dropFuture .redo

/-- What an action does to the document of a session and to its history. -/
inductive Step (session : Session) (action : Action) : Document → History Document → Prop where
  /-- Nothing. -/
  | still : Step session action session.document session.history
  /-- A command that succeeds edits the document and keeps the one before. -/
  | edited {command : Command} {document : Document} : action = .command command →
    command.Effect session.document document →
    Step session action document (session.history.checkpoint session.document)
  /-- A command whose document before cannot be encoded edits the document and keeps nothing. -/
  | unkept {command : Command} {document : Document} {cause : Error} :
    action = .command command → command.Effect session.document document →
    session.encode session.document = .error cause →
    Step session action document session.history
  /-- Undo or redo passes or drops a document. -/
  | passed {history : History Document} : session.Passes history action →
    Step session action session.document history
  /-- Undo or redo brings a document back, and the counter stays where it is or moves on. -/
  | restored {kept : Document} {history : History Document} : session.Recalls kept history action →
    Step session action (kept.advance session.document.nextOrdinal) history
  /-- A pass writes metadata. -/
  | found {document : Document} : action = .propagate → document.bare = session.document.bare →
    Step session action document session.history

/-- Undo and redo do what a step may do. -/
theorem step_restore {action : Action} {step : Option (Document × History Document)}
    {dropped : History Document}
    (h : ∀ kept history, step = some (kept, history) → session.Recalls kept history action)
    (hdropped : ∀ cause, session.encode session.document = .error cause →
      session.Passes dropped action) :
    Step session action (session.restore step dropped).1.document
      (session.restore step dropped).1.history := by
  rcases session.restore_cases step dropped with
    ⟨-, hnone⟩ | ⟨kept, history, hstep, ⟨cause, hencode, hlost⟩ | ⟨_, hpassed⟩ | hdone⟩
  · rw [hnone]
    exact .still
  · rw [hlost]
    exact .passed (hdropped cause hencode)
  · rw [hpassed]
    exact .passed (.unread (h kept history hstep))
  · rw [hdone]
    exact .restored (h kept history hstep)

/-- Every action does what a step may do. -/
theorem step_act (session : Session) (action : Action) :
    Step session action (session.act action).document (session.act action).history := by
  cases action with
  | command command =>
    rcases session.answered_obey command with
      ⟨cause, hfailed⟩ | ⟨document, heffect, ⟨stale, hdone⟩ | ⟨cause, hencode, hunkept⟩⟩
    · rw [act, hfailed]
      exact .still
    · rw [act, hdone]
      exact .edited rfl heffect
    · rw [act, hunkept]
      exact .unkept rfl heffect hencode
  | undo => exact step_restore (fun kept history hstep => .undo hstep) fun _ hcause => .undo hcause
  | redo => exact step_restore (fun kept history hstep => .redo hstep) fun _ hcause => .redo hcause
  | code =>
    unfold act code
    dsimp only
    split <;> exact .still
  | nodeCode id =>
    unfold act nodeCode
    dsimp only
    split <;> exact .still
  | execute backend id =>
    unfold act execute
    dsimp only
    split <;> exact .still
  | clearExecution id =>
    unfold act clearExecution
    dsimp only
    split <;> exact .still
  | propagate =>
    have hhistory : (session.act .propagate).history = session.history := by
      rcases session.propagate_cases with ⟨events, hskipped, -⟩ | ⟨cycle, events, -, hcycle⟩ |
        ⟨order, -, hdone⟩
      · rw [act, hskipped]
        rfl
      · rw [act, hcycle]
        rfl
      · rw [act, hdone]
        rfl
    rw [hhistory]
    exact .found rfl session.bare_propagate
  | invalidate => exact .still
  | useLibrary library => exact .still

/-- The document of a session and those that its history keeps. -/
def documents (session : Session) : List Document :=
  session.document :: (session.history.past ++ session.history.future)

/-- What undo or redo brings back was held, and so is all that the history keeps then. -/
theorem Recalls.held {kept : Document} {history : History Document} {action : Action}
    (h : session.Recalls kept history action) :
    kept ∈ session.documents ∧ ∀ document ∈ history.past ++ history.future,
      document ∈ session.documents := by
  cases h with
  | undo h =>
    unfold History.undo? at h
    split at h
    · contradiction
    · next state rest hpast =>
      obtain ⟨rfl, rfl⟩ := Prod.mk.inj (Option.some.inj h)
      simp only [documents, hpast]
      refine ⟨by simp, fun document hdocument => ?_⟩
      simp only [List.mem_append, List.mem_cons] at hdocument ⊢
      tauto
  | redo h =>
    unfold History.redo? at h
    split at h
    · contradiction
    · next state rest hfuture =>
      obtain ⟨rfl, rfl⟩ := Prod.mk.inj (Option.some.inj h)
      simp only [documents, hfuture]
      refine ⟨by simp, fun document hdocument => ?_⟩
      simp only [List.mem_append, List.mem_cons] at hdocument ⊢
      tauto

/-- What the history keeps after undo or redo was held before, also if the document stays. -/
theorem Passes.held {history : History Document} {action : Action}
    (h : session.Passes history action) :
    ∀ document ∈ history.past ++ history.future, document ∈ session.documents := by
  cases h with
  | unread hrecalls => exact hrecalls.held.2
  | undo _ =>
    intro document hdocument
    refine List.mem_cons_of_mem _ (List.mem_append.mpr ?_)
    exact (List.mem_append.mp hdocument).imp_left List.mem_of_mem_tail
  | redo _ =>
    intro document hdocument
    refine List.mem_cons_of_mem _ (List.mem_append.mpr ?_)
    exact (List.mem_append.mp hdocument).imp_right List.mem_of_mem_tail

/-- What every document of a session has, and what edits, passes and moves of the counter keep,
every document has after an action. -/
theorem forall_documents_act {P : Document → Prop} {action : Action}
    (h : ∀ document ∈ session.documents, P document)
    (hedit : ∀ command, action = .command command →
      command.Effect session.document (session.act action).document →
      P (session.act action).document)
    (hadvance : ∀ document, P document → P (document.advance session.document.nextOrdinal))
    (hpass : (session.act action).document.bare = session.document.bare →
      P (session.act action).document) :
    ∀ document ∈ (session.act action).documents, P document := by
  have hcurrent : P session.document := h _ List.mem_cons_self
  have hkept : ∀ document ∈ session.history.past ++ session.history.future, P document :=
    fun document hdocument => h document (List.mem_cons_of_mem _ hdocument)
  have hboth : P (session.act action).document ∧
      ∀ document ∈ (session.act action).history.past ++ (session.act action).history.future,
        P document := by
    generalize (session.act action).document = document, (session.act action).history = history,
      session.step_act action = hstep at hedit hpass
    cases hstep with
    | still => exact ⟨hcurrent, hkept⟩
    | edited haction heffect =>
      refine ⟨hedit _ haction heffect, fun other hother => ?_⟩
      have hmem : other ∈ session.document :: session.history.past :=
        List.mem_of_mem_take (by simpa [History.checkpoint] using hother)
      rcases List.mem_cons.mp hmem with rfl | hpast
      · exact hcurrent
      · exact hkept other (List.mem_append_left _ hpast)
    | unkept haction heffect _ => exact ⟨hedit _ haction heffect, hkept⟩
    | passed hpasses =>
      exact ⟨hcurrent, fun other hother => h other (hpasses.held other hother)⟩
    | restored hrecalls =>
      exact ⟨hadvance _ (h _ hrecalls.held.1),
        fun other hother => h other (hrecalls.held.2 other hother)⟩
    | found _ hbare => exact ⟨hpass hbare, hkept⟩
  intro document hdocument
  rcases List.mem_cons.mp hdocument with rfl | hheld
  · exact hboth.1
  · exact hboth.2 document hheld

/-- The counter is advanced at least as far as it is asked to. -/
theorem le_nextOrdinal_advance (document : Document) (next : UInt32) :
    next ≤ (document.advance next).nextOrdinal := by
  unfold Document.advance
  dsimp only
  split
  · exact UInt32.le_refl _
  · next hnot => exact UInt32.le_of_lt (UInt32.not_le.mp hnot)

/-- The counter never goes back. -/
theorem le_nextOrdinal_act (session : Session) (action : Action) :
    session.document.nextOrdinal ≤ (session.act action).document.nextOrdinal := by
  generalize (session.act action).document = document, (session.act action).history = history,
    session.step_act action = hstep
  cases hstep with
  | still => exact UInt32.le_refl _
  | edited _ heffect => exact heffect.counter
  | unkept _ heffect _ => exact heffect.counter
  | passed _ => exact UInt32.le_refl _
  | restored _ => exact le_nextOrdinal_advance _ _
  | found _ hbare =>
    have hcounter := congrArg Document.nextOrdinal hbare
    exact UInt32.le_of_eq hcounter.symm

/-! ## What stays -/

/-- Sessions with the same algorithms, settings and encoder. -/
structure SameSetup (session next : Session) : Prop where
  /-- The algorithms are the same. -/
  registry : next.registry = session.registry
  /-- The settings are the same. -/
  config : next.config = session.config
  /-- The encoder is the same. -/
  encode : next.encode = session.encode

theorem SameSetup.trans {session next last : Session} (h : SameSetup session next)
    (hlast : SameSetup next last) : SameSetup session last :=
  ⟨hlast.registry.trans h.registry, hlast.config.trans h.config, hlast.encode.trans h.encode⟩

/-- Sessions with the same setup and library that remember the same of passes. -/
structure SameMemory (session next : Session) : Prop extends SameSetup session next where
  /-- The library is the same. -/
  library : next.library = session.library
  /-- What is remembered of passes is the same. -/
  propagator : next.propagator = session.propagator

/-- Whether an action leaves the library and what is remembered of passes alone. -/
def Action.keepsMemory : Action → Bool
  | .propagate | .invalidate | .useLibrary _ => false
  | _ => true

/-- A session has the memory that it has. -/
theorem SameMemory.refl (session : Session) : SameMemory session session :=
  ⟨⟨rfl, rfl, rfl⟩, rfl, rfl⟩

/-- Commands keep the memory. -/
theorem sameMemory_obey (session : Session) (command : Command) :
    SameMemory session (session.obey command).1 := by
  rcases session.answered_obey command with
    ⟨cause, hfailed⟩ | ⟨document, -, ⟨stale, hdone⟩ | ⟨cause, -, hunkept⟩⟩
  · rw [hfailed]
    exact .refl session
  · rw [hdone]
    exact ⟨⟨rfl, rfl, rfl⟩, rfl, rfl⟩
  · rw [hunkept]
    exact ⟨⟨rfl, rfl, rfl⟩, rfl, rfl⟩

/-- Undo and redo keep the memory. -/
theorem sameMemory_restore (session : Session) (step : Option (Document × History Document))
    (dropped : History Document) : SameMemory session (session.restore step dropped).1 := by
  rcases session.restore_cases step dropped with
    ⟨-, hnone⟩ | ⟨_, _, -, ⟨_, -, hlost⟩ | ⟨_, hpassed⟩ | hdone⟩
  · rw [hnone]
    exact .refl session
  · rw [hlost]
    exact ⟨⟨rfl, rfl, rfl⟩, rfl, rfl⟩
  · rw [hpassed]
    exact ⟨⟨rfl, rfl, rfl⟩, rfl, rfl⟩
  · rw [hdone]
    exact ⟨⟨rfl, rfl, rfl⟩, rfl, rfl⟩

/-- All actions but passes, and those that forget passes, keep the memory. -/
theorem sameMemory_act {action : Action} (h : action.keepsMemory = true) :
    SameMemory session (session.act action) := by
  cases action with
  | command command => exact session.sameMemory_obey command
  | undo => exact session.sameMemory_restore _ _
  | redo => exact session.sameMemory_restore _ _
  | code =>
    unfold act code
    dsimp only
    split <;> exact ⟨⟨rfl, rfl, rfl⟩, rfl, rfl⟩
  | nodeCode id =>
    unfold act nodeCode
    dsimp only
    split <;> exact ⟨⟨rfl, rfl, rfl⟩, rfl, rfl⟩
  | execute backend id =>
    unfold act execute
    dsimp only
    split <;> exact ⟨⟨rfl, rfl, rfl⟩, rfl, rfl⟩
  | clearExecution id =>
    unfold act clearExecution
    dsimp only
    split <;> exact ⟨⟨rfl, rfl, rfl⟩, rfl, rfl⟩
  | propagate | invalidate | useLibrary _ => cases h

/-- No action changes the algorithms, the settings or the encoder. -/
theorem sameSetup_act (session : Session) (action : Action) :
    SameSetup session (session.act action) := by
  cases action with
  | propagate =>
    rcases session.propagate_cases with ⟨events, hskipped, -⟩ | ⟨cycle, events, -, hcycle⟩ |
      ⟨order, -, hdone⟩
    · rw [act, hskipped]
      exact ⟨rfl, rfl, rfl⟩
    · rw [act, hcycle]
      exact ⟨rfl, rfl, rfl⟩
    · rw [act, hdone]
      exact ⟨rfl, rfl, rfl⟩
  | invalidate => exact ⟨rfl, rfl, rfl⟩
  | useLibrary library => exact ⟨rfl, rfl, rfl⟩
  | command _ | undo | redo | code | nodeCode _ | execute _ _ | clearExecution _ =>
    exact (sameMemory_act rfl).toSameSetup

/-- Where documents can be encoded, they can be after a change that leaves the encoder alone. -/
theorem Encodes.of_eq {next : Session} (h : session.Encodes)
    (hsame : next.encode = session.encode) : next.Encodes := fun document => hsame ▸ h document

/-- Where documents can be encoded, they can be after every action. -/
theorem Encodes.act (h : session.Encodes) (action : Action) : (session.act action).Encodes :=
  h.of_eq (session.sameSetup_act action).encode

/-! ## The start -/

/-- A session begins with an empty history, and no pass has been made. -/
theorem eq_of_start_eq_ok {document : Document} {registry : Registry} {library : Answers}
    {config : Config} {encode : Encoder}
    (h : Session.start document registry library config encode = .ok session) :
    session.document = document.normalize.1 ∧ session.history = .start History.defaultDepth ∧
      session.propagator = .idle := by
  unfold start at h
  split at h
  · contradiction
  · next normal count hnormal =>
    obtain rfl := Except.ok.inj h
    exact ⟨by rw [hnormal], rfl, rfl⟩

/-- A session on an empty document holds nothing else. -/
theorem documents_of_start_empty {id name : String} {registry : Registry} {library : Answers}
    {config : Config} {encode : Encoder}
    (h : Session.start (.empty id name) registry library config encode = .ok session) :
    session.documents = [.empty id name] := by
  obtain ⟨hdocument, hhistory, -⟩ := eq_of_start_eq_ok h
  rw [documents, hdocument, hhistory, (Document.wellFormed_empty id name).normalize_eq]
  rfl

/-- A session on an empty document, with the algorithms and the library of the sample session. -/
def sampleStart : Session :=
  { sampleSession with
    document := .empty "p" "Pipeline"
    history := .start History.defaultDepth }

/-- The sample session is one at its start. -/
theorem start_sampleStart :
    Session.start (.empty "p" "Pipeline") sampleStart.registry sampleStart.library
      sampleStart.config .total = .ok sampleStart := rfl

end Dataflow.Session
