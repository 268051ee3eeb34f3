import Dataflow.Proofs.Session

/-!
# Failing operations

Hosts edit a session in place, and nothing takes a write back when a later step fails. The programs
here say in which order an operation looks things up, checks them and writes, and what they wrote
before a failure stays. Run in place, every operation of a session still does what the operation is
defined to do. The checks of an edit come before its first write, and one step that may fail follows
the writes: the document before the edit is encoded for the history. So if documents can be encoded,
an operation that fails leaves the whole session as it was, and if they cannot, what it leaves
differs in the document only.
-/

namespace Dataflow

/-- A program that changes a state in place. What it wrote before a failure stays. -/
abbrev InPlace (σ α : Type) := ExceptT Error (StateM σ) α

namespace InPlace

variable {σ α β : Type}

/-- The state that a program leaves, and its answer. -/
def on (program : InPlace σ α) (state : σ) : σ × Except Error α :=
  ((program.run.run state).2, (program.run.run state).1)

/-- Look something up. -/
def look (find : σ → Except Error α) : InPlace σ α := do
  match find (← get) with
  | .ok found => return found
  | .error cause => throw cause

/-- Fail if a test is met. -/
def refuse (test : σ → Bool) (cause : Error) : InPlace σ Unit :=
  look fun state => if test state then .error cause else .ok ()

@[simp] theorem on_pure (value : α) (state : σ) :
    (pure value : InPlace σ α).on state = (state, .ok value) := rfl

@[simp] theorem on_get (state : σ) : (get : InPlace σ σ).on state = (state, .ok state) := rfl

@[simp] theorem on_set (written state : σ) :
    (set written : InPlace σ Unit).on state = (written, .ok ()) := rfl

@[simp] theorem on_modify (change : σ → σ) (state : σ) :
    (modify change : InPlace σ Unit).on state = (change state, .ok ()) := rfl

/-- What a program leaves is where the next one begins, and a failure ends both. -/
@[simp] theorem on_bind (program : InPlace σ α) (next : α → InPlace σ β) (state : σ) :
    (program >>= next).on state =
      match program.on state with
      | (after, .ok value) => (next value).on after
      | (after, .error cause) => (after, .error cause) := by
  rcases hrun : program.run.run state with ⟨answer, after⟩
  simp only [on, ExceptT.run_bind, StateT.run_bind, hrun]
  cases answer <;> rfl

@[simp] theorem on_look (find : σ → Except Error α) (state : σ) :
    (look find).on state = (state, find state) := by
  rw [look, on_bind, on_get]
  dsimp only
  cases find state <;> rfl

/-- What a definition says that a program does: nothing on failure, and else all at once. -/
def outcome (state : σ) : Except Error (σ × α) → σ × Except Error α
  | .error cause => (state, .error cause)
  | .ok (after, value) => (after, .ok value)

/-- A program does what a definition says. -/
def Performs (program : InPlace σ α) (change : σ → Except Error (σ × α)) : Prop :=
  ∀ state, program.on state = outcome state (change state)

end InPlace

/-! ## Editing a document in place -/

namespace Document

open InPlace

/-- Change a node where it stands, and answer. -/
def atNode {α : Type} (id : String) (change : StateM Node α) : InPlace Document α := do
  let node ← look fun document => document.node id
  let result := change.run node
  modify fun document => document.modifyNode id fun _ => result.2
  return result.1

/-- Take the next number in place. -/
def allocateInPlace : InPlace Document UInt32 := do
  let ordinal := (← get).nextOrdinal
  refuse (fun document => document.nextOrdinal == lastOrdinal) .ordinalsExhausted
  modify fun document => { document with nextOrdinal := ordinal + 1 }
  return ordinal

/-- Append a node in place. -/
def insertInPlace (id : String) (schema : Schema) : InPlace Document Unit := do
  let ordinal ← allocateInPlace
  modify fun document =>
    { document with nodes := document.nodes ++ [Node.create id ordinal schema] }

/-- Set a value of a node in place. -/
def setValueInPlace (id name : String) (value : Json) : InPlace Document Unit :=
  atNode id do
    modify fun node => { node with values := node.values.insert name value }

/-- Give a node another schema in place, one field after another. Also says whether its variables
changed. -/
def assignNode (schema : Schema) : StateM Node Bool := do
  modify fun node => { node with values := node.values.filterKeys schema.takesValue }
  modify fun node => { node with schema }
  modify fun node => { node with metadata := .initial }
  let bound := (← get).isBound
  modify Node.ensureBound
  return !bound

/-- Give a node another schema in place, and then drop edges on ports that are gone. -/
def assignInPlace (id : String) (schema : Schema) : InPlace Document SchemaChange := do
  let bindingsChanged ← atNode id (assignNode schema)
  let edges := (← get).edges
  modify fun document =>
    { document with edges := edges.filter fun edge => !orphaned id schema edge }
  return { bindingsChanged, removed := edges.filter (orphaned id schema) }

/-- Append an edge in place. -/
def connectInPlace (edge : Edge) : InPlace Document Unit := do
  let source ← look fun document => document.node edge.source
  refuse (fun _ => (source.schema.output? edge.sourcePort).isNone)
    (.unknownPort edge.source edge.sourcePort)
  let target ← look fun document => document.node edge.target
  refuse (fun _ => (target.schema.input? edge.targetPort).isNone)
    (.unknownPort edge.target edge.targetPort)
  refuse (fun document => (document.edgeInto? edge.target edge.targetPort).isSome)
    (.portConnected edge.target edge.targetPort)
  modify fun document => { document with edges := document.edges ++ [edge] }

/-- Remove an edge in place. -/
def disconnectInPlace (id : String) : InPlace Document Edge := do
  let edge ← look fun document =>
    match document.edges.find? fun edge => edge.id == id with
    | some edge => .ok edge
    | none => .error (.edgeNotFound id)
  modify fun document =>
    { document with edges := document.edges.eraseP fun edge => edge.id == id }
  return edge

/-- Delete a node in place, and then every edge that touches it. -/
def deleteInPlace (id : String) : InPlace Document Removal := do
  let node ← look fun document => document.node id
  modify fun document =>
    { document with nodes := document.nodes.eraseP fun node => node.id == id }
  let edges := (← get).edges
  modify fun document => { document with edges := edges.filter fun edge => !edge.touches id }
  let removed := edges.filter fun edge => edge.touches id
  return { node, removed
           affected := distinct <| (removed.filter fun edge =>
             edge.source == id && edge.target != id).map Edge.target }

/-- Forget that an edit finds nothing. -/
def withoutAnswer (change : Document → Except Error Document) (document : Document) :
    Except Error (Document × Unit) :=
  (change document).map fun edited => (edited, ())

/-- The counter is checked before it is written. -/
theorem performs_allocate : Performs allocateInPlace allocate := by
  intro document
  simp only [allocateInPlace, refuse, on_bind, on_get, on_look, allocate]
  by_cases hspent : document.nextOrdinal = lastOrdinal <;> simp [hspent, outcome]

/-- A new node is pushed only after its number was given out. -/
theorem performs_insert (id : String) (schema : Schema) :
    Performs (insertInPlace id schema)
      (withoutAnswer fun document => document.insertNew id schema) := by
  intro document
  rw [insertInPlace, on_bind, performs_allocate document]
  simp only [withoutAnswer, insertNew]
  cases document.allocate <;> rfl

/-- A node that is found is changed where it stands. -/
theorem performs_atNode {α : Type} (id : String) {change : StateM Node α} {edit : Node → Node}
    {answer : Node → α} (h : ∀ node, change.run node = (answer node, edit node)) :
    Performs (atNode id change) fun document => (document.node id).map fun node =>
      (document.modifyNode id edit, answer node) := by
  intro document
  simp only [atNode, on_bind, on_look, h, node]
  cases hfound : document.node? id with
  | none => rfl
  | some node =>
    have hsame := modifyFirst_const hfound edit
    simp only [on_modify, on_pure, modifyNode, hsame]
    rfl

/-- An update changes the first node with the id, and fails if there is none. -/
theorem updateNode_eq (document : Document) (id : String) (change : Node → Node) :
    document.updateNode id change =
      (document.node id).map fun _ => document.modifyNode id change := by
  unfold updateNode node
  cases hfound : document.node? id with
  | none =>
    rw [if_neg (by simp [contains, hfound])]
    rfl
  | some node =>
    rw [if_pos (by simp [contains, hfound])]
    rfl

/-- The node is found before its value is written. -/
theorem performs_setValue (id name : String) (value : Json) :
    Performs (setValueInPlace id name value)
      (withoutAnswer fun document => document.setValue id name value) := by
  intro document
  have hnode (node : Node) :
      (modify fun node => { node with values := node.values.insert name value } :
        StateM Node Unit).run node = ((), { node with values := node.values.insert name value }) :=
    rfl
  rw [setValueInPlace, performs_atNode id hnode document]
  simp only [withoutAnswer, setValue, updateNode_eq]
  cases document.node id <;> rfl

/-- All that an assignment writes follows the one check, whether the node is there. -/
theorem performs_assign (id : String) (schema : Schema) :
    Performs (assignInPlace id schema) fun document => document.assign id schema := by
  intro document
  have hnode (node : Node) : (assignNode schema).run node =
      (!(node.withSchema schema).isBound, (node.withSchema schema).ensureBound) := rfl
  rw [assignInPlace, on_bind, performs_atNode id hnode document]
  simp only [assign]
  cases document.node id <;> rfl

/-- All faults of an edge are looked for before it is pushed. -/
theorem performs_connect (edge : Edge) :
    Performs (connectInPlace edge) (withoutAnswer fun document => document.connect edge) := by
  intro document
  simp only [connectInPlace, refuse, on_bind, on_look, withoutAnswer, connect, connectFault?, node]
  cases document.node? edge.source with
  | none => rfl
  | some source =>
    by_cases houtput : (source.schema.output? edge.sourcePort).isNone = true
    · simp only [houtput, ite_true]
      rfl
    · simp only [houtput, Bool.false_eq_true, ite_false]
      cases document.node? edge.target with
      | none => rfl
      | some target =>
        by_cases hinput : (target.schema.input? edge.targetPort).isNone = true
        · simp only [hinput, ite_true]
          rfl
        · simp only [hinput, Bool.false_eq_true, ite_false]
          by_cases hentered : (document.edgeInto? edge.target edge.targetPort).isSome = true
          · rw [if_pos hentered, if_pos hentered]
            rfl
          · rw [if_neg hentered, if_neg hentered]
            rfl

/-- The edge is found before it is removed. -/
theorem performs_disconnect (id : String) :
    Performs (disconnectInPlace id) fun document => document.disconnect id := by
  intro document
  simp only [disconnectInPlace, on_bind, on_look, disconnect]
  cases document.edges.find? fun edge => edge.id == id <;> rfl

/-- The node is found before it and its edges are removed. -/
theorem performs_delete (id : String) :
    Performs (deleteInPlace id) fun document => document.delete id := by
  intro document
  simp only [deleteInPlace, on_bind, on_look, delete]
  cases document.node id <;> rfl

end Document

/-! ## Operations of a session in place -/

namespace Session

open InPlace

variable {α : Type}

/-- Change the document of a session where it stands. -/
def onDocument (program : InPlace Document α) : InPlace Session α := do
  let session ← get
  let (document, answer) := program.on session.document
  set { session with document }
  look fun _ => answer

/-- Forget the outcomes of some nodes in place, one after another. -/
def clearInPlace (ids : List String) : InPlace Session Unit :=
  forM ids fun id => modify fun session => { session with board := session.board.clear id }

/-- Keep a document in place. It is encoded first, and nothing is kept if that fails. -/
def keepInPlace (before : Document) : InPlace Session Unit := do
  look fun session => session.encode before
  modify fun session => { session with history := session.history.checkpoint before }

/-- Edit the document in place. Only after that the history, the outcomes and the statuses follow,
and if the history fails, the edit stays. -/
def editInPlace (program : InPlace Document α) (stale : α → List String) : InPlace Session α := do
  let before := (← get).document
  let found ← onDocument program
  keepInPlace before
  clearInPlace (stale found)
  modify refresh
  return found

/-- Look up a schema and add a node with it in place. -/
def insertInPlace (id : String) (schema : Session → Except Error Schema) :
    InPlace Session Unit := do
  let schema ← look schema
  editInPlace (Document.insertInPlace id schema) fun _ => []

/-- Look up a schema and give it to a node in place. -/
def reassignInPlace (id : String) (schema : Session → Except Error Schema) :
    InPlace Session SchemaChange := do
  let schema ← look schema
  editInPlace (Document.assignInPlace id schema) fun change => id :: change.removed.map Edge.target

/-- Clearing outcomes one by one clears them all. -/
theorem on_clearInPlace (ids : List String) (session : Session) :
    (clearInPlace ids).on session =
      ({ session with board := session.board.clearEach ids }, .ok ()) := by
  induction ids generalizing session with
  | nil => rfl
  | cons id rest ih =>
    rw [clearInPlace, List.forM_cons, on_bind, on_modify]
    exact ih _

/-- An edit in place is the edit, if the same is true of what it does to the document. -/
theorem on_editInPlace {program : InPlace Document α}
    {change : Document → Except Error (Document × α)} (h : Performs program change)
    (stale : α → List String) (session : Session) :
    (editInPlace program stale).on session = session.edit change stale := by
  simp only [editInPlace, onDocument, on_bind, on_get, on_set, on_look, h session.document, edit]
  cases change session.document with
  | error cause => rfl
  | ok edited =>
    simp only [outcome, keepInPlace, on_bind, on_look]
    cases session.encode session.document with
    | error cause => rfl
    | ok _ => simp only [on_modify, on_clearInPlace, on_pure]

/-- Adding a node in place is adding it. -/
theorem on_insertInPlace (id : String) (schema : Session → Except Error Schema)
    (session : Session) :
    (insertInPlace id schema).on session = session.insert id (schema session) := by
  rw [insertInPlace, on_bind, on_look]
  unfold insert
  cases schema session with
  | error cause => rfl
  | ok schema => exact on_editInPlace (Document.performs_insert id schema) _ session

/-- Assigning an algorithm in place is assigning it. -/
theorem on_reassignInPlace (id : String) (schema : Session → Except Error Schema)
    (session : Session) :
    (reassignInPlace id schema).on session = session.reassign id (schema session) := by
  rw [reassignInPlace, on_bind, on_look]
  unfold reassign
  cases schema session with
  | error cause => rfl
  | ok schema => exact on_editInPlace (Document.performs_assign id schema) _ session

/-- A command in place. -/
def Command.inPlace : Command → InPlace Session Unit
  | .addNode id algorithm =>
    insertInPlace id fun session => session.registeredSchema algorithm
  | .addNodeFromLibrary id algorithm =>
    insertInPlace id fun session => session.knownSchema algorithm
  | .addUnassigned id =>
    insertInPlace id fun session =>
      .ok ((session.registry.schema? Schema.unassignedId).getD Schema.unassigned)
  | .assign id algorithm => do
    let _ ← reassignInPlace id fun session => session.registeredSchema algorithm
  | .assignFromLibrary id algorithm => do
    let _ ← reassignInPlace id fun session => session.knownSchema algorithm
  | .setValue id name value => editInPlace (Document.setValueInPlace id name value) fun _ => []
  | .connect edge => editInPlace (Document.connectInPlace edge) fun _ => []
  | .disconnect id => do
    let _ ← editInPlace (Document.disconnectInPlace id) fun edge => [edge.target]
  | .delete id => do
    let _ ← editInPlace (Document.deleteInPlace id) fun removal =>
      removal.affected ++ [removal.node.id]

/-- To drop the answer of a program changes nothing else about it. -/
theorem on_forget (program : InPlace Session α) (session : Session) :
    (do let _ ← program : InPlace Session Unit).on session = obey.forget (program.on session) := by
  rw [on_bind]
  rcases program.on session with ⟨after, _ | _⟩ <;> rfl

/-- A command in place is the command. -/
theorem on_inPlace (command : Command) (session : Session) :
    command.inPlace.on session = session.obey command := by
  cases command with
  | addNode id algorithm => exact on_insertInPlace id _ session
  | addNodeFromLibrary id algorithm => exact on_insertInPlace id _ session
  | addUnassigned id => exact on_insertInPlace id _ session
  | assign id algorithm =>
    rw [Command.inPlace, on_forget, on_reassignInPlace]
    rfl
  | assignFromLibrary id algorithm =>
    rw [Command.inPlace, on_forget, on_reassignInPlace]
    rfl
  | setValue id name value => exact on_editInPlace (Document.performs_setValue id name value) _ _
  | connect edge => exact on_editInPlace (Document.performs_connect edge) _ _
  | disconnect id =>
    rw [Command.inPlace, on_forget, on_editInPlace (Document.performs_disconnect id)]
    rfl
  | delete id =>
    rw [Command.inPlace, on_forget, on_editInPlace (Document.performs_delete id)]
    rfl

/-! ## Operations that fail -/

/-- Something that a host asks of a session, with the type of the answer. -/
inductive Operation : Type → Type where
  /-- Edit the document. -/
  | command (command : Command) : Operation Unit
  /-- Make the code of a node. -/
  | nodeCode (id : String) : Operation String
  /-- Run a node. -/
  | execute (backend : Backend) (id : String) : Operation RunReport

/-- Do what is asked. -/
def perform (session : Session) : Operation α → Session × Except Error α
  | .command command => session.obey command
  | .nodeCode id => session.nodeCode id
  | .execute backend id => session.execute backend id

/-- An operation in place. The code of a node is looked up before anything is reported or run. -/
def Operation.inPlace : Operation α → InPlace Session α
  | .command request => request.inPlace
  | .nodeCode id => do
    let code ← look fun session => session.document.nodeCode session.config.layout id
    modify fun session => session.emit [.codeGenerated session.document.id (some id) code]
    return code
  | .execute backend id => do
    let code ← look fun session => session.document.nodeCode session.config.layout id
    modify fun session => session.record id .running
    let report := (← get).runReport id (backend id code)
    modify fun session => session.record id report.outcome
    return report

/-- An operation does in place what it is defined to do. -/
theorem on_operation (operation : Operation α) (session : Session) :
    operation.inPlace.on session = session.perform operation := by
  cases operation with
  | command command => exact on_inPlace command session
  | nodeCode id =>
    simp only [Operation.inPlace, on_bind, on_look, perform, nodeCode]
    cases session.document.nodeCode session.config.layout id <;> rfl
  | execute backend id =>
    simp only [Operation.inPlace, on_bind, on_look, perform, execute]
    cases session.document.nodeCode session.config.layout id <;> rfl

/-- An operation that fails changes nothing, or else the document could not be encoded and holds an
edit now. -/
theorem perform_eq_of_error (session : Session) (operation : Operation α) {cause : Error}
    (hfailed : (session.perform operation).2 = .error cause) :
    (session.perform operation).1 = session ∨ session.encode session.document = .error cause ∧
      ∃ document, (session.perform operation).1 = { session with document } := by
  cases operation with
  | command command =>
    rw [perform] at hfailed ⊢
    rcases session.answered_obey command with
      ⟨_, hanswer⟩ | ⟨document, -, ⟨stale, hdone⟩ | ⟨found, hencode, hunkept⟩⟩
    · exact .inl (by rw [hanswer])
    · rw [hdone] at hfailed
      contradiction
    · rw [hunkept] at hfailed ⊢
      obtain rfl := Except.error.inj hfailed
      exact .inr ⟨hencode, document, rfl⟩
  | nodeCode id =>
    simp only [perform, nodeCode] at hfailed ⊢
    split at hfailed
    · exact .inl rfl
    · contradiction
  | execute backend id =>
    simp only [perform, execute] at hfailed ⊢
    split at hfailed
    · exact .inl rfl
    · contradiction

/-- An operation does in place what it is defined to do. If documents can be encoded and it fails,
the whole session is what it was. In any case a failure leaves all but the document as it was, and
an edit in the document only if the document before could not be encoded. -/
theorem perform_atomic (session : Session) (operation : Operation α) :
    operation.inPlace.on session = session.perform operation ∧
      ∀ cause, (session.perform operation).2 = .error cause →
        (session.Encodes → (session.perform operation).1 = session) ∧
        ((session.perform operation).1 = session ∨
          session.encode session.document = .error cause ∧
            ∃ document, (session.perform operation).1 = { session with document }) := by
  refine ⟨on_operation operation session, fun cause hfailed => ?_⟩
  have hleft := session.perform_eq_of_error operation hfailed
  refine ⟨fun hencodes => hleft.resolve_right fun hunkept => ?_, hleft⟩
  have hencode := hunkept.1
  rw [hencodes] at hencode
  contradiction

/-- Two nodes are connected, the second is run, and a third is added and taken back. -/
def sampleBusy : Session :=
  sampleStart.run
    [.command (.addNode "a" "copy"), .command (.addNode "b" "copy"),
      .command (.connect ⟨"1", "a", "out", "b", "in"⟩), .execute (fun _ _ => .ok "done") "b",
      .command (.addUnassigned "c"), .undo]

/-- Where documents can be encoded, three operations that fail in different ways change nothing. -/
theorem perform_atomic_sampleBusy :
    sampleBusy.Encodes ∧
      sampleBusy.history.canUndo = true ∧ sampleBusy.history.canRedo = true ∧
      sampleBusy.status? "b" = some (.ran .success) ∧
      sampleBusy.perform (.command (.addNode "d" "none")) =
        (sampleBusy, .error (.unknownAlgorithm "none")) ∧
      sampleBusy.perform (.command (.connect ⟨"2", "b", "out", "b", "in"⟩)) =
        (sampleBusy, .error (.portConnected "b" "in")) ∧
      sampleBusy.perform (.execute (fun _ _ => .ok "done") "c") =
        (sampleBusy, .error (.nodeNotFound "c")) :=
  have hencodes : sampleBusy.Encodes := fun _ => rfl
  ⟨hencodes, by rfl, by rfl, by rfl,
    Prod.ext (((perform_atomic sampleBusy _).2 _ rfl).1 hencodes) rfl,
    Prod.ext (((perform_atomic sampleBusy _).2 _ rfl).1 hencodes) rfl,
    Prod.ext (((perform_atomic sampleBusy _).2 _ rfl).1 hencodes) rfl⟩

/-- Where documents cannot be encoded, a value that could not be set is there. -/
example :
    let session := { sampleBusy with encode := fun _ => .error (.compression "full") }
    let (next, answer) := session.perform (.command (.setValue "a" "rows" (.int 1)))
    answer = .error (.compression "full") ∧
      (next.document.node? "a").map (fun node => node.values.get? "rows") = some (some (.int 1)) :=
  ⟨rfl, rfl⟩

end Session

end Dataflow
