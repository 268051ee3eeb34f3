import Dataflow.Proofs.Bare
import Dataflow.Proofs.Snapshots

/-!
# Passes among edits

A pass is not one action. It takes a flag, copies the document, walks the copy, writes what it found
and gives the flag back, and between any two of these steps others may edit the document or trigger
passes of their own. In every such interleaving at most one trigger holds the flag, one that finds
it taken ends without touching the document, and apart from metadata the document is the one that
the edits alone would have made, if documents can be encoded for the history. What was found for a
node that is gone by then is discarded, and nothing else is.
-/

namespace Dataflow

/-- The report of a pass that was finished. -/
def PassOutcome.report? : PassOutcome → Option PassReport
  | .completed report => some report
  | _ => none

namespace Session

variable {session : Session}

/-- How far the trigger of a pass has come. -/
inductive Stage where
  /-- It has not asked for the flag yet. -/
  | waiting
  /-- It found the flag taken. -/
  | refused
  /-- It has taken the flag. -/
  | claimed
  /-- It has a copy of the document. -/
  | copied (snapshot : Document)
  /-- It knows in which order it walks the copy. -/
  | begun (pass : Pass)
  /-- It has walked the copy. -/
  | walked (pass : Pass) (results : List (String × Metadata))
  /-- It has written what it found. -/
  | written (pass : Pass) (report : PassReport)
  /-- It has only to give the flag back. -/
  | leaving (outcome : PassOutcome)
  /-- It has come to its end. -/
  | ended (outcome : PassOutcome)

namespace Stage

/-- Whether a trigger has taken the flag and not given it back. -/
def holds : Stage → Bool
  | .waiting | .refused | .ended _ => false
  | _ => true

/-- The report of a trigger that has written what it found. -/
def report? : Stage → Option PassReport
  | .written _ report => some report
  | .leaving outcome | .ended outcome => outcome.report?
  | _ => none

end Stage

/-! ## One trigger -/

/-- Set or clear the flag that a pass is under way. -/
def flag (session : Session) (inFlight : Bool) : Session :=
  { session with propagator := { session.propagator with inFlight } }

/-- Remember the document of the last pass. -/
def remember (session : Session) (fingerprint : Fingerprint) : Session :=
  { session with propagator := { session.propagator with last := some fingerprint } }

/-- Find the order in which a copy of the document is walked, unless there is nothing to do. -/
def plan (session : Session) (snapshot : Document) : Session × Stage :=
  if session.propagator.last = some snapshot.fingerprint then
    (session.emit [.passSkipped snapshot.id "unchanged"], .leaving .unchanged)
  else match Propagator.walkOrder session.config.cyclePolicy snapshot with
    | .error (.overdrawn overdraw) => (session, .leaving (.overdrawn overdraw))
    | .error (.cycle cycle) =>
      ((session.remember snapshot.fingerprint).emit [.cycleFound snapshot.id cycle.unsorted],
        .leaving (.cycle cycle))
    | .ok order => (session, .begun ⟨snapshot, snapshot.fingerprint, order⟩)

/-- Write what a pass found into the document as it is by now. -/
def write (session : Session) (pass : Pass) (results : List (String × Metadata)) :
    Session × Stage :=
  let writing := session.document.writeResults results
  ({ session with document := writing.document }.emit writing.events, .written pass writing.report)

/-- Remember a pass and report that it is complete. -/
def conclude (session : Session) (pass : Pass) (report : PassReport) : Session × Stage :=
  ((session.remember pass.fingerprint).emit
    [.passCompleted pass.snapshot.id report.updated.length report.errors.length],
    .leaving (.completed report))

/-- The next step of a trigger. -/
def advance (session : Session) : Stage → Session × Stage
  | .waiting =>
    if session.propagator.inFlight then (session, .refused) else (session.flag true, .claimed)
  | .refused =>
    (session.emit [.passSkipped session.document.id "pass in flight"], .ended .dropped)
  | .claimed => (session, .copied session.document)
  | .copied snapshot => session.plan snapshot
  | .begun pass => (session, .walked pass (pass.results session.registry session.library))
  | .walked pass results => session.write pass results
  | .written pass report => session.conclude pass report
  | .leaving outcome => (session.flag false, .ended outcome)
  | .ended outcome => (session, .ended outcome)

/-- Steps of a trigger one after another. -/
def steps : Nat → Session × Stage → Session × Stage
  | 0, state => state
  | count + 1, state => steps count (state.1.advance state.2)

/-- Whether it ends at once or not, a pass begins with the first steps of a trigger. -/
theorem steps_beginPass (session : Session) : match session.beginPass with
    | (next, .begun pass) => steps 3 (session, .waiting) = (next, .begun pass)
    | (next, .ended outcome) => steps 4 (session, .waiting) = (next, .ended outcome) := by
  obtain ⟨document, registry, library, config, encode, history, board, ⟨inFlight, last⟩, events⟩ :=
    session
  unfold beginPass Propagator.begin
  cases inFlight with
  | true => rfl
  | false =>
    by_cases hlast : last = some document.fingerprint
    · simp [steps, advance, plan, flag, emit, hlast]
    · cases horder : Propagator.walkOrder config.cyclePolicy document with
      | error cause =>
        cases cause with
        | cycle cycle => simp [steps, advance, plan, flag, remember, emit, hlast, horder]
        | overdrawn overdraw => simp [steps, advance, plan, flag, emit, hlast, horder]
      | ok order => simp [steps, advance, plan, flag, emit, hlast, horder]

/-- The other steps finish it. -/
theorem steps_finishPass (session : Session) (pass : Pass) :
    steps 4 (session, .begun pass) =
      ((session.finishPass pass).1, .ended (.completed (session.finishPass pass).2)) := by
  simp [steps, advance, write, conclude, flag, remember, emit, finishPass, Propagator.finish]

/-- A trigger that has come to its end does nothing more. -/
theorem steps_ended (session : Session) (outcome : PassOutcome) (count : Nat) :
    steps count (session, .ended outcome) = (session, .ended outcome) := by
  induction count with
  | zero => rfl
  | succ count ih => exact ih

theorem steps_add (first second : Nat) (state : Session × Stage) :
    steps (first + second) state = steps second (steps first state) := by
  induction first generalizing state with
  | zero => rw [Nat.zero_add, steps]
  | succ first ih => rw [Nat.succ_add, steps, steps, ih]

/-- A trigger that nobody interrupts makes a pass. -/
theorem steps_propagate (session : Session) :
    steps 7 (session, .waiting) = (session.propagate.1, .ended session.propagate.2) := by
  have hbegin := session.steps_beginPass
  unfold propagate
  split at hbegin
  · next next pass hpass =>
    rw [hpass, steps_add 3 4, hbegin, steps_finishPass]
  · next next outcome hended =>
    rw [hended, steps_add 4 3, hbegin, steps_ended]

/-! ## Many triggers among edits -/

/-- What others do to a document while passes are under way. -/
inductive Change where
  /-- A command of the session. -/
  | command (command : Command)
  /-- The last edit is taken back. -/
  | undo
  /-- The last edit that was taken back is made again. -/
  | redo
  /-- The document is edited behind the back of the session. -/
  | direct (edit : Edit)
  /-- The last pass is forgotten. -/
  | invalidate

/-- The session after a change. -/
def change (session : Session) : Change → Session
  | .command command => (session.obey command).1
  | .undo => session.undo.1
  | .redo => session.redo.1
  | .direct edit => { session with document := session.document.after edit }
  | .invalidate => session.invalidate

/-- The session after changes one after another. -/
def changeAll (session : Session) (changes : List Change) : Session := changes.foldl change session

/-- What can happen next. -/
inductive Move where
  /-- Somebody changes something. -/
  | change (change : Change)
  /-- A trigger takes its next step. -/
  | advance (trigger : Nat)

/-- The change that a move makes, if it is not a step of a trigger. -/
def Move.change? : Move → Option Change
  | .change made => some made
  | .advance _ => none

/-- A session and how far each of its triggers has come. -/
structure Busy where
  /-- The session. -/
  session : Session
  /-- The stage of each trigger. -/
  stage : Nat → Stage

namespace Busy

/-- No trigger has begun. -/
def start (session : Session) : Busy := ⟨session, fun _ => .waiting⟩

/-- What comes of a move. -/
def move (busy : Busy) : Move → Busy
  | .change change => { busy with session := busy.session.change change }
  | .advance trigger =>
    let (session, stage) := busy.session.advance (busy.stage trigger)
    ⟨session, Function.update busy.stage trigger stage⟩

/-- What comes of moves one after another. -/
def run (busy : Busy) (moves : List Move) : Busy := moves.foldl move busy

end Busy

/-! ## Edits alone -/

/-- The session without metadata, and without all that passes, runs and reports leave behind. -/
def erase (session : Session) : Session :=
  { session with
    document := session.document.bare
    history := session.history.map Document.bare
    board := .empty
    propagator := .idle
    events := [] }

theorem map_bare_map_bare (history : History Document) :
    (history.map Document.bare).map Document.bare = history.map Document.bare := by
  simp [History.map, Function.comp_def]

@[simp] theorem erase_erase (session : Session) : session.erase.erase = session.erase := by
  simp only [erase, Document.bare_bare, map_bare_map_bare]

/-- Sessions that differ only in what is erased have the same setup. -/
theorem SameSetup.of_erase_eq {next : Session} (h : next.erase = session.erase) :
    SameSetup session next :=
  ⟨(congrArg Session.registry h :), (congrArg Session.config h :), (congrArg Session.encode h :)⟩

/-- What is erased does not matter for the document that is accepted. -/
theorem erase_accept (session : Session) (document : Document) (stale : List String) :
    (session.erase.accept document.bare stale).erase = (session.accept document stale).erase := by
  have hhistory := History.checkpoint_map Document.bare session.history session.document
  simp only [erase, accept, refresh, emit, Document.bare_bare, hhistory, map_bare_map_bare]

/-- Where documents can be encoded, a command does without metadata what it does with them. -/
theorem Encodes.erase_obey (h : session.Encodes) (command : Command) :
    (session.erase.obey command).1.erase = (session.obey command).1.erase := by
  have hedit : command.edit session.erase = command.edit session := by cases command <;> rfl
  have hdocument : session.erase.document = session.document.bare := rfl
  have hencode : session.erase.encode session.document.bare = .ok () := h _
  rw [obey_eq, obey_eq, hedit]
  cases command.edit session with
  | error cause => exact session.erase_erase
  | ok edit =>
    simp only [Except.bind, hdocument, Document.tryEdit_bare]
    cases session.document.tryEdit edit with
    | error cause => exact session.erase_erase
    | ok found =>
      simp only [Except.map, settle, hdocument, hencode, h session.document]
      exact session.erase_accept found.1 found.2

/-- Where documents can be encoded, undo and redo do without metadata what they do with them. -/
theorem Encodes.erase_restore (h : session.Encodes) (step : Option (Document × History Document))
    (dropped dropped' : History Document) :
    (session.erase.restore
      (step.map (Prod.map Document.bare (History.map Document.bare))) dropped).1.erase =
        (session.restore step dropped').1.erase := by
  cases step with
  | none => exact session.erase_erase
  | some step =>
    obtain ⟨kept, history⟩ := step
    have hencode : session.erase.encode session.erase.document = .ok () := h _
    simp only [Option.map_some, Prod.map_apply, restore, hencode, h session.document,
      Document.readBack_bare]
    cases kept.readBack with
    | error cause => simp only [Except.map, erase, Document.bare_bare, map_bare_map_bare]
    | ok document =>
      have hadvance (next : UInt32) : (document.bare.advance next).bare =
          (document.advance next).bare := by
        rw [← Document.bare_bare (document.advance next)]
        rfl
      simp only [Except.map, erase, refresh, emit, map_bare_map_bare]
      exact congrArg (fun document => Session.mk document _ _ _ _ _ _ _ _) (hadvance _)

/-- Where documents can be encoded, a change does without metadata what it does with them. -/
theorem Encodes.erase_change (h : session.Encodes) (change : Change) :
    (session.erase.change change).erase = (session.change change).erase := by
  cases change with
  | command command => exact h.erase_obey command
  | undo =>
    have hundo := History.undo?_map Document.bare session.history session.document
    exact (congrArg (fun step => (session.erase.restore step _).1.erase) hundo).trans
      (h.erase_restore _ _ _)
  | redo =>
    have hredo := History.redo?_map Document.bare session.history session.document
    exact (congrArg (fun step => (session.erase.restore step _).1.erase) hredo).trans
      (h.erase_restore _ _ _)
  | direct edit =>
    have hafter := session.document.after_bare edit
    simp only [Session.change, erase, hafter, Document.bare_bare, map_bare_map_bare]
  | invalidate => exact session.erase_erase

/-- Changes leave the flag and the setup alone. -/
theorem change_keeps (session : Session) (change : Change) :
    (session.change change).propagator.inFlight = session.propagator.inFlight ∧
      SameSetup session (session.change change) := by
  have hkeeps {next : Session} (hsame : SameMemory session next) :
      next.propagator.inFlight = session.propagator.inFlight ∧ SameSetup session next :=
    ⟨congrArg Propagator.inFlight hsame.propagator, hsame.toSameSetup⟩
  cases change with
  | command command => exact hkeeps (session.sameMemory_obey command)
  | undo => exact hkeeps (session.sameMemory_restore _ _)
  | redo => exact hkeeps (session.sameMemory_restore _ _)
  | direct edit => exact ⟨rfl, rfl, rfl, rfl⟩
  | invalidate => exact ⟨rfl, rfl, rfl, rfl⟩

/-- A trigger that has its copy leaves without a report, or it knows how to go on. -/
theorem plan_cases (session : Session) (snapshot : Document) :
    (∃ next outcome, session.plan snapshot = (next, .leaving outcome) ∧
      outcome.report? = none ∧ next.erase = session.erase ∧
      next.propagator.inFlight = session.propagator.inFlight) ∨
    ∃ order, Propagator.walkOrder session.config.cyclePolicy snapshot = .ok order ∧
      session.plan snapshot = (session, .begun ⟨snapshot, snapshot.fingerprint, order⟩) := by
  unfold plan
  split
  · exact .inl ⟨_, _, rfl, rfl, rfl, rfl⟩
  · split
    · exact .inl ⟨_, _, rfl, rfl, rfl, rfl⟩
    · exact .inl ⟨_, _, rfl, rfl, rfl, rfl⟩
    · next order horder => exact .inr ⟨order, horder, rfl⟩

/-- A step of a trigger changes nothing but metadata, the flag and what is remembered and
reported. -/
theorem erase_advance (session : Session) (stage : Stage) :
    (session.advance stage).1.erase = session.erase := by
  cases stage with
  | waiting =>
    simp only [advance]
    split <;> rfl
  | copied snapshot =>
    rcases session.plan_cases snapshot with ⟨next, outcome, hplan, -, herase, -⟩ | ⟨order, -, hplan⟩
    · rw [advance, hplan, herase]
    · rw [advance, hplan]
  | walked pass results =>
    have hbare := bare_writeResults session.document results
    simp only [advance, write, erase, emit, hbare]
  | refused | claimed | begun _ | written _ _ | leaving _ | ended _ => rfl

namespace Busy

theorem run_concat (busy : Busy) (moves : List Move) (last : Move) :
    busy.run (moves ++ [last]) = (busy.run moves).move last := by
  rw [run, List.foldl_append]
  rfl

/-- Moves keep the setup of the session. -/
theorem sameSetup_run (session : Session) (moves : List Move) :
    SameSetup session ((start session).run moves).session := by
  induction moves using List.reverseRecOn with
  | nil => exact ⟨rfl, rfl, rfl⟩
  | append_singleton moves last ih =>
    rw [run_concat]
    cases last with
    | change made => exact ih.trans (change_keeps _ made).2
    | advance trigger => exact ih.trans (.of_erase_eq (erase_advance _ _))

/-- Apart from what passes leave behind, the changes alone decide if documents can be encoded. -/
theorem erase_run {session : Session} (hencodes : session.Encodes) (moves : List Move) :
    ((start session).run moves).session.erase =
      (session.changeAll (moves.filterMap Move.change?)).erase := by
  induction moves using List.reverseRecOn with
  | nil => rfl
  | append_singleton moves last ih =>
    rw [run_concat, List.filterMap_append]
    cases last with
    | advance trigger =>
      rw [List.filterMap_cons_none rfl, List.filterMap_nil, List.append_nil, ← ih]
      exact erase_advance _ _
    | change made =>
      have hlast : [Move.change made].filterMap Move.change? = [made] := rfl
      rw [hlast, changeAll, List.foldl_append]
      change (Session.change _ made).erase = (Session.change _ made).erase
      -- what is left of the session decides how its documents are encoded
      have hmoved := hencodes.of_eq (sameSetup_run session moves).encode
      have hchanged := hmoved.of_eq (SameSetup.of_erase_eq ih.symm).encode
      rw [← hmoved.erase_change, ih, hchanged.erase_change]
      rfl

end Busy

/-! ## The flag -/

/-- A step of a trigger leaves the flag alone, or takes it where it is free, or gives it back. -/
theorem flag_advance (session : Session) (stage : Stage) :
    ((session.advance stage).2.holds = stage.holds ∧
      (session.advance stage).1.propagator.inFlight = session.propagator.inFlight) ∨
    (session.propagator.inFlight = false ∧
      (session.advance stage).2.holds = true ∧
      (session.advance stage).1.propagator.inFlight = true) ∨
    (stage.holds = true ∧ (session.advance stage).2.holds = false ∧
      (session.advance stage).1.propagator.inFlight = false) := by
  cases stage with
  | waiting =>
    simp only [advance]
    split
    · exact .inl ⟨rfl, rfl⟩
    · next hfree => exact .inr (.inl ⟨by simpa using hfree, rfl, rfl⟩)
  | copied snapshot =>
    rcases session.plan_cases snapshot with ⟨next, outcome, hplan, -, -, hflag⟩ | ⟨order, -, hplan⟩
    · rw [advance, hplan]
      exact .inl ⟨rfl, hflag⟩
    · rw [advance, hplan]
      exact .inl ⟨rfl, rfl⟩
  | leaving outcome => exact .inr (.inr ⟨rfl, rfl, rfl⟩)
  | refused | claimed | begun _ | walked _ _ | written _ _ | ended _ => exact .inl ⟨rfl, rfl⟩

namespace Busy

variable {busy : Busy}

/-- The flag is set for the one trigger that holds it, or it is free. -/
structure HeldBy (busy : Busy) (holder : Option Nat) : Prop where
  /-- The flag is set if there is a holder. -/
  flag : busy.session.propagator.inFlight = holder.isSome
  /-- Nobody else holds it. -/
  holds : ∀ trigger, (busy.stage trigger).holds = true ↔ holder = some trigger

/-- After a move the flag has at most one holder still. -/
theorem HeldBy.move {holder : Option Nat} (h : busy.HeldBy holder) (move : Move) :
    ∃ next, (busy.move move).HeldBy next := by
  cases move with
  | change made =>
    exact ⟨holder, (busy.session.change_keeps made).1.trans h.flag, h.holds⟩
  | advance trigger =>
    rcases busy.session.flag_advance (busy.stage trigger) with
      ⟨hholds, hflag⟩ | ⟨hfree, hholds, hflag⟩ | ⟨hheld, hholds, hflag⟩
    · refine ⟨holder, hflag.trans h.flag, fun other => ?_⟩
      by_cases hother : other = trigger
      · subst hother
        simpa [Busy.move, hholds] using h.holds other
      · simpa [Busy.move, Function.update_of_ne hother] using h.holds other
    -- the flag was free, so the trigger is now its only holder
    · have hnone : holder = none := by simpa [h.flag] using hfree
      refine ⟨some trigger, hflag, fun other => ?_⟩
      by_cases hother : other = trigger
      · subst hother
        simpa [Busy.move] using hholds
      · have hnot := h.holds other
        simpa [Busy.move, Function.update_of_ne hother, hnone, Ne.symm hother] using hnot
    -- the trigger was the only holder, so nobody holds the flag now
    · have hsome : holder = some trigger := (h.holds trigger).mp hheld
      refine ⟨none, hflag, fun other => ?_⟩
      by_cases hother : other = trigger
      · subst hother
        simpa [Busy.move] using hholds
      · have hnot := h.holds other
        simpa [Busy.move, Function.update_of_ne hother, hsome, Ne.symm hother] using hnot

/-- After several moves the flag has at most one holder still. -/
theorem HeldBy.run {holder : Option Nat} (h : busy.HeldBy holder) (moves : List Move) :
    ∃ last, (busy.run moves).HeldBy last := by
  induction moves generalizing busy holder with
  | nil => exact ⟨holder, h⟩
  | cons move rest ih =>
    obtain ⟨next, hnext⟩ := h.move move
    exact ih hnext

theorem move_advance_stage (busy : Busy) (trigger : Nat) :
    (busy.move (.advance trigger)).stage trigger =
      (busy.session.advance (busy.stage trigger)).2 := by
  simp [move]

theorem move_advance_stage_of_ne (busy : Busy) {trigger other : Nat} (h : other ≠ trigger) :
    (busy.move (.advance trigger)).stage other = busy.stage other := by
  simp [move, Function.update_of_ne h]

/-- What a trigger does while nothing else happens. -/
theorem run_replicate (busy : Busy) (trigger count : Nat) :
    ((busy.run (List.replicate count (.advance trigger))).session,
      (busy.run (List.replicate count (.advance trigger))).stage trigger) =
        steps count (busy.session, busy.stage trigger) := by
  induction count generalizing busy with
  | zero => rfl
  | succ count ih =>
    have hnext := ih (busy.move (.advance trigger))
    rw [move_advance_stage] at hnext
    exact hnext

/-- The trigger found the flag taken. -/
def TurnedAway (busy : Busy) (trigger : Nat) : Prop :=
  busy.stage trigger = .refused ∨ busy.stage trigger = .ended .dropped

/-- A trigger that was turned away is not let in later. -/
theorem TurnedAway.move {trigger : Nat} (h : busy.TurnedAway trigger) (move : Move) :
    (busy.move move).TurnedAway trigger := by
  cases move with
  | change made => exact h
  | advance other =>
    by_cases hother : trigger = other
    · subst hother
      rw [TurnedAway, move_advance_stage]
      rcases h with hrefused | hended
      · rw [hrefused]
        exact .inr rfl
      · rw [hended]
        exact .inr rfl
    · rw [TurnedAway, move_advance_stage_of_ne _ hother]
      exact h

theorem TurnedAway.run {trigger : Nat} (h : busy.TurnedAway trigger) (moves : List Move) :
    (busy.run moves).TurnedAway trigger := by
  induction moves generalizing busy with
  | nil => exact h
  | cons move rest ih => exact ih (h.move move)

/-- All that a trigger still does after it was turned away is to say so. -/
theorem TurnedAway.advance {trigger : Nat} (h : busy.TurnedAway trigger) :
    (busy.move (.advance trigger)).stage trigger = .ended .dropped ∧
      (busy.move (.advance trigger)).session.document = busy.session.document := by
  rw [move_advance_stage, Busy.move]
  rcases h with hrefused | hended
  · rw [hrefused]
    exact ⟨rfl, rfl⟩
  · rw [hended]
    exact ⟨rfl, rfl⟩

end Busy

/-! ## Reports -/

/-- What the report of a pass tells about the document into which the pass wrote. -/
structure Accounts (order : List String) (document : Document) (report : PassReport) : Prop where
  /-- The nodes that are gone are discarded. -/
  discarded : report.discarded = order.filter fun id => !document.contains id
  /-- What is updated was there. -/
  updated : ∀ id ∈ report.updated, document.contains id = true
  /-- What failed was there. -/
  errors : ∀ id ∈ report.errors, document.contains id = true

/-- Writing one more result accounts for its node: it is there, or it is discarded. -/
theorem Accounts.write {order : List String} {document : Document} {writing : Writing}
    (h : Accounts order document writing.report)
    (hsame : ∀ id, writing.document.contains id = document.contains id)
    (result : String × Metadata) :
    Accounts (order ++ [result.1]) document (writing.write result).report := by
  unfold Writing.write
  dsimp only
  cases hnode : writing.document.node? result.1 with
  | none =>
    have hgone : document.contains result.1 = false := by
      rw [← hsame, Document.contains, hnode]
      rfl
    refine ⟨?_, h.updated, h.errors⟩
    simp [h.discarded, hgone]
  | some node =>
    have hthere : document.contains result.1 = true := by
      rw [← hsame, Document.contains, hnode]
      rfl
    have hdiscarded : writing.report.discarded =
        (order ++ [result.1]).filter fun id => !document.contains id := by
      simp [h.discarded, hthere]
    have hgrown {ids : List String} (hids : ∀ id ∈ ids, document.contains id = true) :
        ∀ id ∈ ids ++ [result.1], document.contains id = true := by
      simpa [or_imp, forall_and, hthere] using hids
    have herrors : ∀ id ∈ if result.2.isError then writing.report.errors ++ [result.1]
        else writing.report.errors, document.contains id = true := by
      split
      · exact hgrown h.errors
      · exact h.errors
    dsimp only
    split
    · exact ⟨hdiscarded, h.updated, herrors⟩
    · exact ⟨hdiscarded, hgrown h.updated, herrors⟩

/-- The report of a pass accounts for all results. -/
theorem accounts_writeResults (document : Document) (results : List (String × Metadata)) :
    Accounts (results.map Prod.fst) document (document.writeResults results).report := by
  induction results using List.reverseRecOn with
  | nil => exact ⟨rfl, by simp [Document.writeResults, PassReport.empty],
      by simp [Document.writeResults, PassReport.empty]⟩
  | append_singleton results last ih =>
    have hsame (id : String) :
        (document.writeResults results).document.contains id = document.contains id := by
      rw [← Document.contains_bare, bare_writeResults, Document.contains_bare]
    rw [Document.writeResults, List.foldl_append, List.map_append]
    exact ih.write hsame last

/-- Nothing is done with a node that is discarded. -/
theorem Accounts.disjoint {order : List String} {document : Document} {report : PassReport}
    (h : Accounts order document report) :
    ∀ id ∈ report.discarded, id ∉ report.updated ∧ id ∉ report.errors := by
  intro id hid
  rw [h.discarded, List.mem_filter] at hid
  have hgone : ¬document.contains id = true := by simpa using hid.2
  exact ⟨fun hupdated => hgone (h.updated id hupdated), fun herror => hgone (h.errors id herror)⟩

/-- The trigger copied the document at an earlier moment. -/
def Copied (session : Session) (moves : List Move) (trigger : Nat) (snapshot : Document) : Prop :=
  ∃ earlier, earlier ++ [.advance trigger] <+: moves ∧
    ((Busy.start session).run earlier).stage trigger = .claimed ∧
    ((Busy.start session).run earlier).session.document = snapshot

/-- The trigger walks a copy of the document in the order that the settings ask for. -/
structure Planned (session : Session) (moves : List Move) (trigger : Nat) (pass : Pass) :
    Prop where
  /-- The copy is the document of an earlier moment. -/
  copied : Copied session moves trigger pass.snapshot
  /-- The order is one of the copy. -/
  order : Propagator.walkOrder session.config.cyclePolicy pass.snapshot = .ok pass.order

/-- The trigger wrote what it found at an earlier moment, and its report tells what it did. -/
def Written (session : Session) (moves : List Move) (trigger : Nat) (report : PassReport) : Prop :=
  ∃ earlier pass results, earlier ++ [.advance trigger] <+: moves ∧
    ((Busy.start session).run earlier).stage trigger = .walked pass results ∧
    Planned session earlier trigger pass ∧
    Accounts pass.order ((Busy.start session).run earlier).session.document report

/-- What lies behind the stage of a trigger. -/
def Backed (session : Session) (moves : List Move) (trigger : Nat) : Stage → Prop
  | .copied snapshot => Copied session moves trigger snapshot
  | .begun pass => Planned session moves trigger pass
  | .walked pass results =>
    Planned session moves trigger pass ∧ results.map Prod.fst = pass.order
  | stage => ∀ report, stage.report? = some report → Written session moves trigger report

variable {moves more : List Move} {trigger : Nat} {stage : Stage}

theorem Copied.mono {snapshot : Document} (h : Copied session moves trigger snapshot)
    (hmore : moves <+: more) : Copied session more trigger snapshot := by
  obtain ⟨earlier, hearlier, hrest⟩ := h
  exact ⟨earlier, hearlier.trans hmore, hrest⟩

theorem Planned.mono {pass : Pass} (h : Planned session moves trigger pass)
    (hmore : moves <+: more) : Planned session more trigger pass :=
  ⟨h.copied.mono hmore, h.order⟩

theorem Written.mono {report : PassReport} (h : Written session moves trigger report)
    (hmore : moves <+: more) : Written session more trigger report := by
  obtain ⟨earlier, pass, results, hearlier, hrest⟩ := h
  exact ⟨earlier, pass, results, hearlier.trans hmore, hrest⟩

/-- What lies behind a stage is not undone by later moves. -/
theorem Backed.mono (h : Backed session moves trigger stage) (hmore : moves <+: more) :
    Backed session more trigger stage := by
  cases stage with
  | copied snapshot => exact Copied.mono h hmore
  | begun pass => exact Planned.mono h hmore
  | walked pass results => exact ⟨h.1.mono hmore, h.2⟩
  | waiting | refused | claimed | written _ _ | leaving _ | ended _ =>
    exact fun report hreport => (h report hreport).mono hmore

/-- Behind a report there is a moment of writing. -/
theorem Backed.written {report : PassReport} (h : Backed session moves trigger stage)
    (hreport : stage.report? = some report) : Written session moves trigger report := by
  cases stage with
  | copied _ | begun _ | walked _ _ => cases hreport
  | waiting | refused | claimed | written _ _ | leaving _ | ended _ => exact h report hreport

/-- A step of a trigger is backed by what lies behind its stage before. -/
theorem Backed.advance
    (h : Backed session moves trigger (((Busy.start session).run moves).stage trigger)) :
    Backed session (moves ++ [.advance trigger]) trigger
      ((((Busy.start session).run moves).move (.advance trigger)).stage trigger) := by
  have hmore : moves <+: moves ++ [.advance trigger] := List.prefix_append _ _
  have hconfig := (Busy.sameSetup_run session moves).config
  rw [Busy.move_advance_stage]
  generalize hbusy : (Busy.start session).run moves = busy at h hconfig
  cases hstage : busy.stage trigger with
  | waiting =>
    simp only [Session.advance]
    split <;> exact fun report hreport => by cases hreport
  | refused => exact fun report hreport => by cases hreport
  | claimed => exact ⟨moves, List.prefix_rfl, hbusy ▸ hstage, by rw [hbusy]⟩
  | copied snapshot =>
    rw [hstage] at h
    rcases busy.session.plan_cases snapshot with
      ⟨next, outcome, hplan, hnone, -⟩ | ⟨order, horder, hplan⟩
    · rw [Session.advance, hplan]
      exact fun report hreport => absurd (hnone.symm.trans hreport) (by simp)
    · rw [Session.advance, hplan]
      exact ⟨Copied.mono h hmore, hconfig ▸ horder⟩
  | begun pass =>
    rw [hstage] at h
    have hsubset := Propagation.subset_of_walkOrder_eq_ok h.order
    exact ⟨Planned.mono h hmore, Propagation.map_fst_results _ _ hsubset⟩
  | walked pass results =>
    rw [hstage] at h
    intro report hreport
    obtain rfl := Option.some.inj hreport
    -- this is the moment of writing, and the moves until now are those before it
    refine ⟨moves, pass, results, List.prefix_rfl, hbusy ▸ hstage, h.1, ?_⟩
    rw [hbusy, ← h.2]
    exact accounts_writeResults _ _
  | written pass report =>
    rw [hstage] at h
    exact fun report hreport => (h report hreport).mono hmore
  | leaving outcome =>
    rw [hstage] at h
    exact fun report hreport => (h report hreport).mono hmore
  | ended outcome =>
    rw [hstage] at h
    exact h.mono hmore

/-- Every stage that a trigger reaches is backed. -/
theorem backed_run (session : Session) (moves : List Move) (trigger : Nat) :
    Backed session moves trigger (((Busy.start session).run moves).stage trigger) := by
  induction moves using List.reverseRecOn with
  | nil => exact fun report hreport => by cases hreport
  | append_singleton moves last ih =>
    rw [Busy.run_concat]
    cases last with
    | change made => exact ih.mono (List.prefix_append _ _)
    | advance other =>
      by_cases hother : trigger = other
      · subst hother
        exact ih.advance
      · rw [Busy.move_advance_stage_of_ne _ hother]
        exact ih.mono (List.prefix_append _ _)

/-! ## Every interleaving -/

/-- What is true at every moment, whatever the moves until then. -/
structure Orderly (session : Session) (moves : List Move) (busy : Busy) : Prop where
  /-- A trigger that is left to itself makes a pass. -/
  undisturbed : ∀ trigger, busy.stage trigger = .waiting →
    (busy.run (List.replicate 7 (.advance trigger))).session = busy.session.propagate.1 ∧
      (busy.run (List.replicate 7 (.advance trigger))).stage trigger =
        .ended busy.session.propagate.2
  /-- No two triggers hold the flag. -/
  alone : ∀ first second, (busy.stage first).holds = true → (busy.stage second).holds = true →
    first = second
  /-- The flag is set while a trigger holds it. -/
  flag : busy.session.propagator.inFlight = true ↔ ∃ holder, (busy.stage holder).holds = true
  /-- A trigger that asks for the flag gets it if no other holds it. -/
  free : ∀ trigger, busy.stage trigger = .waiting →
    (¬∃ holder, (busy.stage holder).holds = true) →
    (busy.move (.advance trigger)).stage trigger = .claimed
  /-- Else it will end as dropped whatever happens, and none of its steps touches the document. -/
  taken : ∀ trigger, busy.stage trigger = .waiting →
    (∃ holder, (busy.stage holder).holds = true) →
    (busy.move (.advance trigger)).session.document = busy.session.document ∧
    ∀ later, ((busy.move (.advance trigger)).run later).TurnedAway trigger ∧
      (((busy.move (.advance trigger)).run later).move (.advance trigger)).stage trigger =
        .ended .dropped ∧
      (((busy.move (.advance trigger)).run later).move (.advance trigger)).session.document =
        ((busy.move (.advance trigger)).run later).session.document
  /-- Apart from metadata the document is what the changes alone would have made, if documents can
  be encoded. -/
  changes : session.Encodes → busy.session.document.bare =
    (session.changeAll (moves.filterMap Move.change?)).document.bare
  /-- A report tells what a trigger did when it wrote, and what it discarded it did nothing else
  with. -/
  reports : ∀ trigger report, (busy.stage trigger).report? = some report →
    Written session moves trigger report ∧
      ∀ id ∈ report.discarded, id ∉ report.updated ∧ id ∉ report.errors

/-- However triggers and edits come between each other, passes exclude each other, and no pass takes
anything from an edit. -/
theorem run_orderly (session : Session) (hidle : session.propagator.inFlight = false)
    (moves : List Move) : Orderly session moves ((Busy.start session).run moves) := by
  have hstart : (Busy.start session).HeldBy none := by
    refine ⟨hidle, fun trigger => ?_⟩
    simp [Busy.start, Stage.holds]
  obtain ⟨holder, hheld⟩ := hstart.run moves
  have hbacked := backed_run session moves
  have herase (hencodes : session.Encodes) := Busy.erase_run hencodes moves
  generalize (Busy.start session).run moves = busy at hheld hbacked herase
  have hflag : busy.session.propagator.inFlight = true ↔
      ∃ holder, (busy.stage holder).holds = true := by
    rw [hheld.flag, Option.isSome_iff_exists]
    exact exists_congr fun trigger => (hheld.holds trigger).symm
  refine ⟨?_, ?_, hflag, ?_, ?_,
    fun hencodes => congrArg Session.document (herase hencodes), ?_⟩
  · intro trigger hwaiting
    have hsteps := busy.run_replicate trigger 7
    rw [hwaiting, steps_propagate] at hsteps
    exact Prod.mk.inj hsteps
  · intro first second hfirst hsecond
    have hsame := ((hheld.holds first).mp hfirst).symm.trans ((hheld.holds second).mp hsecond)
    exact Option.some.inj hsame
  · intro trigger hwaiting hfree
    rw [Busy.move_advance_stage, hwaiting, advance, if_neg (mt hflag.mp hfree)]
  · intro trigger hwaiting htaken
    have hrefused : busy.session.advance (busy.stage trigger) = (busy.session, .refused) := by
      rw [hwaiting, advance, if_pos (hflag.mpr htaken)]
    have hturned : (busy.move (.advance trigger)).TurnedAway trigger := by
      rw [Busy.TurnedAway, Busy.move_advance_stage, hrefused]
      exact .inl rfl
    refine ⟨?_, fun later => ⟨hturned.run later, (hturned.run later).advance⟩⟩
    rw [Busy.move, hrefused]
  · intro trigger report hreport
    have hwritten := (hbacked trigger).written hreport
    have hdisjoint : ∀ id ∈ report.discarded, id ∉ report.updated ∧ id ∉ report.errors := by
      obtain ⟨_, _, _, _, _, _, haccounts⟩ := hwritten
      exact haccounts.disjoint
    exact ⟨hwritten, hdisjoint⟩

/-- While a pass is under way, another is triggered, and a node is deleted and brought back. -/
def sampleMoves : List Move :=
  [.change (.command (.addNode "a" "copy")), .change (.command (.addNode "b" "copy")),
    .change (.command (.connect ⟨"1", "a", "out", "b", "in"⟩)), .advance 0, .advance 0, .advance 1,
    .advance 0, .change (.command (.delete "a")), .advance 0, .advance 1, .advance 0,
    .change .undo, .advance 0, .advance 0]

/-- The sample pass discards what it found for the deleted node, and the other trigger is turned
away. -/
theorem run_orderly_sampleMoves :
    sampleStart.propagator.inFlight = false ∧ sampleStart.Encodes ∧
      (((Busy.start sampleStart).run sampleMoves).stage 0).report? = some ⟨["b"], [], ["a"]⟩ ∧
      ((Busy.start sampleStart).run sampleMoves).stage 1 = .ended .dropped ∧
      Orderly sampleStart sampleMoves ((Busy.start sampleStart).run sampleMoves) :=
  ⟨rfl, fun _ => rfl, by decide, rfl, run_orderly sampleStart rfl sampleMoves⟩

end Session

end Dataflow
