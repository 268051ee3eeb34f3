import Dataflow.Proofs.Bare

/-!
# Statuses as a host hears them

A host that held the statuses of a session when it began, and has taken over every status that was
reported since, holds the statuses that the session has. Where documents can be encoded for the
history, what was last reported is always what is shown: an action that changes what is shown ends
with a report of all that differs, and other actions change neither. A node that is gone is
forgotten on the board, so it is reported again when undo brings it back, and what the host still
holds for it is overwritten.
-/

namespace Dataflow

namespace Document

/-- The status of a node does not depend on metadata. -/
theorem structuralStatus_bare (document : Document) (node : Node) :
    document.bare.structuralStatus node.bare = document.structuralStatus node := by
  have hfeeds (id port : String) : document.bare.feeds id port = document.feeds id port := by
    unfold feeds
    simp only [contains_bare]
    rfl
  unfold structuralStatus
  simp only [hfeeds]
  rfl

end Document

namespace Board

variable {board : Board} {document other : Document}

/-- There is a status for every node, in document order. -/
theorem map_fst_statuses (board : Board) (document : Document) :
    (board.statuses document).map Prod.fst = document.nodeIds := by
  simp [statuses, Document.nodeIds, Function.comp_def]

/-- The statuses that are shown do not depend on metadata. -/
theorem statuses_bare (board : Board) (document : Document) :
    board.statuses document.bare = board.statuses document := by
  unfold statuses Document.bare
  rw [List.map_map]
  refine List.map_congr_left fun node _ => ?_
  have hstatus : board.status document.bare node.bare = board.status document node := by
    unfold status
    rw [document.structuralStatus_bare node]
    rfl
  exact congrArg (Prod.mk node.id) hstatus

/-- Documents that differ in metadata only show the same statuses. -/
theorem statuses_eq_of_bare_eq (h : document.bare = other.bare) :
    board.statuses document = board.statuses other := by
  rw [← statuses_bare board document, h, statuses_bare]

/-- After a report only nodes of the document have an outcome, and these have the one they had. -/
theorem get?_overlay_refresh (board : Board) (document : Document) (id : String) :
    (board.refresh document).1.overlay.get? id =
      if id ∈ document.nodeIds then board.overlay.get? id else none := by
  have hkept := Dictionary.contains_ofList_iff (board.statuses document) id
  rw [map_fst_statuses] at hkept
  rw [refresh, Dictionary.get?_filterKeys]
  simp only [hkept]

/-- A report changes no status. -/
theorem statuses_refresh (board : Board) (document : Document) :
    (board.refresh document).1.statuses document = board.statuses document := by
  refine List.map_congr_left fun node hnode => ?_
  have hmem : node.id ∈ document.nodeIds := List.mem_map_of_mem hnode
  rw [status, status, get?_overlay_refresh, if_pos hmem]

end Board

/-! ## Hearing events -/

/-- Whether an event tells a status. -/
def Event.tellsStatus : Event → Bool
  | .statusChanged _ _ _ => true
  | _ => false

namespace Session

/-- What a host holds after an event: it takes over a status that it is told. -/
def hear (held : Dictionary Status) : Event → Dictionary Status
  | .statusChanged _ id status => held.insert id status
  | _ => held

/-- What a host holds after events one after another. -/
def hearAll (held : Dictionary Status) (events : List Event) : Dictionary Status :=
  events.foldl hear held

variable {held : Dictionary Status} {events : List Event}

theorem hearAll_append (held : Dictionary Status) (events more : List Event) :
    hearAll held (events ++ more) = hearAll (hearAll held events) more :=
  List.foldl_append

/-- Events that tell no status leave what a host holds. -/
theorem hearAll_of_silent (h : ∀ event ∈ events, event.tellsStatus = false) :
    hearAll held events = held := by
  induction events with
  | nil => rfl
  | cons event rest ih =>
    have hsame : hear held event = held := by
      have hsilent := h event List.mem_cons_self
      cases event with
      | statusChanged document node status => cases hsilent
      | _ => rfl
    rw [hearAll, List.foldl_cons, hsame]
    exact ih fun other hother => h other (List.mem_cons_of_mem _ hother)

/-- The last status that was told for a node counts, and else what the host held. -/
theorem get?_hearAll_reports (held : Dictionary Status) (document : String)
    (changed : List (String × Status)) (id : String) :
    (hearAll held (changed.map fun entry => .statusChanged document entry.1 entry.2)).get? id =
      ((Dictionary.ofList changed).get? id).or (held.get? id) := by
  induction changed using List.reverseRecOn with
  | nil => rfl
  | append_singleton changed last ih =>
    rw [List.map_append, hearAll_append, Dictionary.ofList_concat]
    change ((hearAll held _).insert last.1 last.2).get? id = _
    rw [Dictionary.get?_insert, Dictionary.get?_insert, ih]
    split <;> rfl

/-- A host that holds what was last reported holds all statuses after the next report. -/
theorem get?_hearAll_refresh {board : Board} {document : Document}
    (hids : document.nodeIds.Nodup)
    (h : ∀ id status, board.reported.get? id = some status → held.get? id = some status)
    {id : String} {status : Status} (hshown : (id, status) ∈ board.statuses document) :
    (hearAll held ((board.refresh document).2.map fun entry =>
      .statusChanged document.id entry.1 entry.2)).get? id = some status := by
  have hkeys : ((board.statuses document).map Prod.fst).Nodup := by
    rw [Board.map_fst_statuses]
    exact hids
  -- the entry of a node is the only one with its id
  have honly : ∀ entry ∈ board.statuses document, entry.1 = id → entry = (id, status) :=
    fun entry hentry hkey => List.inj_on_of_nodup_map hkeys hentry hshown hkey
  rw [get?_hearAll_reports, Board.refresh]
  by_cases hreported : board.reported.get? id = some status
  · have hunchanged : (Dictionary.ofList ((board.statuses document).filter fun entry =>
        board.reported.get? entry.1 != some entry.2)).get? id = none := by
      refine Dictionary.get?_ofList_eq_none fun hmem => ?_
      obtain ⟨entry, hentry, hkey⟩ := List.mem_map.mp hmem
      obtain ⟨hcurrent, hdiffers⟩ := List.mem_filter.mp hentry
      obtain rfl := honly entry hcurrent hkey
      simp [hreported] at hdiffers
    rw [hunchanged, Option.none_or, h id status hreported]
  · have hchanged : (Dictionary.ofList ((board.statuses document).filter fun entry =>
        board.reported.get? entry.1 != some entry.2)).get? id = some status := by
      refine Dictionary.get?_ofList_eq_some ?_ fun entry hentry hkey => ?_
      · exact List.mem_filter.mpr ⟨hshown, by simpa using hreported⟩
      · rw [honly entry (List.mem_filter.mp hentry).1 hkey]
    rw [hchanged, Option.some_or]

/-! ## A session and its host -/

/-- A host that held something at the start and has heard all events of a session knows what is
shown. -/
structure Follows (start : Dictionary Status) (session : Session) : Prop where
  /-- What was last reported is what is shown. -/
  current : session.board.reported = Dictionary.ofList session.statuses
  /-- The host holds what was last reported. -/
  informed : ∀ id status, session.board.reported.get? id = some status →
    (hearAll start session.events).get? id = some status

variable {start : Dictionary Status} {session : Session}

/-- After a report the host knows what is shown, if it knew what was reported before. -/
theorem Follows.of_refresh (hids : session.document.nodeIds.Nodup)
    (h : ∀ id status, session.board.reported.get? id = some status →
      (hearAll start session.events).get? id = some status) :
    Follows start session.refresh := by
  have hstatuses : session.refresh.statuses = session.board.statuses session.document :=
    session.board.statuses_refresh session.document
  refine ⟨congrArg Dictionary.ofList hstatuses.symm, fun id status hreported => ?_⟩
  have hkeys : ((session.board.statuses session.document).map Prod.fst).Nodup := by
    rw [Board.map_fst_statuses]
    exact hids
  have hshown : (id, status) ∈ session.board.statuses session.document :=
    (Dictionary.get?_ofList_eq_some_iff hkeys).mp hreported
  have hevents : session.refresh.events = session.events ++
      (session.board.refresh session.document).2.map fun entry =>
        .statusChanged session.document.id entry.1 entry.2 := rfl
  rw [hevents, hearAll_append]
  exact get?_hearAll_refresh hids h hshown

/-- An action that changes neither the board nor more than metadata, and tells no status, is
followed. -/
theorem Follows.of_silent (h : Follows start session) {next : Session}
    (hbare : next.document.bare = session.document.bare) (hboard : next.board = session.board)
    {events : List Event} (hevents : next.events = session.events ++ events)
    (hsilent : ∀ event ∈ events, event.tellsStatus = false) : Follows start next := by
  have hstatuses : next.statuses = session.statuses := by
    rw [statuses, statuses, hboard]
    exact Board.statuses_eq_of_bare_eq hbare
  refine ⟨?_, fun id status hreported => ?_⟩
  · rw [hboard, hstatuses]
    exact h.current
  · rw [hevents, hearAll_append, hearAll_of_silent hsilent]
    exact h.informed id status (hboard ▸ hreported)

/-- Clearing outcomes reports nothing. -/
theorem reported_clearEach (board : Board) (ids : List String) :
    (board.clearEach ids).reported = board.reported := by
  induction ids generalizing board with
  | nil => rfl
  | cons id rest ih => exact ih (board.clear id)

/-- Writing results tells no status. -/
theorem tellsStatus_writeResults (document : Document) (results : List (String × Metadata)) :
    ∀ event ∈ (document.writeResults results).events, event.tellsStatus = false := by
  induction results using List.reverseRecOn with
  | nil => exact fun event hevent => absurd hevent List.not_mem_nil
  | append_singleton results last ih =>
    rw [Document.writeResults, List.foldl_append]
    change ∀ event ∈ ((document.writeResults results).write last).events, event.tellsStatus = false
    generalize document.writeResults results = writing at ih
    unfold Writing.write
    dsimp only
    split
    · exact ih
    · split
      · exact ih
      · intro event hevent
        rcases List.mem_append.mp hevent with hold | hnew
        · exact ih event hold
        · rw [List.mem_singleton.mp hnew]
          rfl

/-- The beginning of a pass tells no status. -/
theorem tellsStatus_begin (propagator : Propagator) (policy : CyclePolicy) (document : Document) :
    ∀ event ∈ (propagator.begin policy document).2.2, event.tellsStatus = false := by
  intro event hevent
  unfold Propagator.begin at hevent
  split at hevent
  · rw [List.mem_singleton.mp hevent]
    rfl
  · split at hevent
    · rw [List.mem_singleton.mp hevent]
      rfl
    · split at hevent
      · rw [List.mem_singleton.mp hevent]
        rfl
      · cases hevent
      · cases hevent

/-- A pass tells no status and leaves the board alone. -/
theorem propagate_silent (session : Session) : session.propagate.1.board = session.board ∧
    ∃ events, session.propagate.1.events = session.events ++ events ∧
      ∀ event ∈ events, event.tellsStatus = false := by
  have hbegin := tellsStatus_begin session.propagator session.config.cyclePolicy session.document
  rw [propagate, beginPass]
  generalize session.propagator.begin session.config.cyclePolicy session.document = begun at hbegin
  obtain ⟨propagator, start, events⟩ := begun
  cases start with
  | ended outcome => exact ⟨rfl, events, rfl, hbegin⟩
  | begun pass =>
    refine ⟨rfl, _, List.append_assoc _ _ _, fun event hevent => ?_⟩
    rcases List.mem_append.mp hevent with hearly | hlate
    · exact hbegin event hearly
    · rcases List.mem_append.mp hlate with hwritten | hdone
      · exact tellsStatus_writeResults _ _ event hwritten
      · rw [List.mem_singleton.mp hdone]
        rfl

/-- An outcome that is recorded is reported. -/
theorem Follows.record (h : Follows start session) (hids : session.document.nodeIds.Nodup)
    (id : String) (outcome : Outcome) : Follows start (session.record id outcome) :=
  .of_refresh hids h.informed

/-- Where documents can be encoded, the host knows what is shown after every action. -/
theorem Follows.act (h : Follows start session) (hencodes : session.Encodes) {action : Action}
    (hids : (session.act action).document.nodeIds.Nodup) : Follows start (session.act action) := by
  have hrestore (step : Option (Document × History Document)) (dropped : History Document)
      (hstep : (session.restore step dropped).1.document.nodeIds.Nodup) :
      Follows start (session.restore step dropped).1 := by
    rcases session.restore_cases step dropped with
      ⟨-, hnone⟩ | ⟨kept, history, -, ⟨cause, -, hlost⟩ | ⟨cause, hpassed⟩ | hdone⟩
    · rw [hnone]
      exact h
    · rw [hlost]
      exact ⟨h.current, h.informed⟩
    · rw [hpassed]
      exact ⟨h.current, h.informed⟩
    · rw [hdone] at hstep ⊢
      exact .of_refresh hstep h.informed
  cases action with
  | command command =>
    rw [Session.act] at hids ⊢
    rcases hencodes.obey_cases command with
      ⟨cause, hfailed⟩ | ⟨edit, document, stale, -, -, hdone⟩
    · rw [hfailed]
      exact h
    · rw [hdone] at hids ⊢
      refine .of_refresh hids fun id status hreported => ?_
      rw [reported_clearEach] at hreported
      exact h.informed id status hreported
  | undo => exact hrestore _ _ hids
  | redo => exact hrestore _ _ hids
  | code =>
    rw [Session.act, code]
    split
    · exact h.of_silent rfl rfl rfl fun event hevent => by rw [List.mem_singleton.mp hevent]; rfl
    · exact h.of_silent rfl rfl rfl fun event hevent => by rw [List.mem_singleton.mp hevent]; rfl
    · exact h
  | nodeCode id =>
    rw [Session.act, nodeCode]
    split
    · exact h
    · exact h.of_silent rfl rfl rfl fun event hevent => by rw [List.mem_singleton.mp hevent]; rfl
  | execute backend id =>
    rw [Session.act, execute] at hids ⊢
    cases hcode : session.document.nodeCode session.config.layout id with
    | error cause => exact h
    | ok code =>
      rw [hcode] at hids
      exact (h.record hids id .running).record hids id _
  | clearExecution id =>
    rw [Session.act, clearExecution] at hids ⊢
    by_cases hshown : session.board.overlay.contains id = true
    · rw [if_pos hshown] at hids ⊢
      exact .of_refresh hids h.informed
    · rw [if_neg hshown]
      exact h
  | propagate =>
    obtain ⟨hboard, events, hevents, hsilent⟩ := session.propagate_silent
    exact h.of_silent session.bare_propagate hboard hevents hsilent
  | invalidate => exact ⟨h.current, h.informed⟩
  | useLibrary library => exact ⟨h.current, h.informed⟩

/-! ## Runs -/

/-- The id that was made for a new node, if there is one. -/
def Action.generated? : Action → Option String
  | .command request => request.generated?
  | _ => none

/-- No node has the id that was made for a new one. -/
abbrev Action.Fresh (session : Session) (action : Action) : Prop :=
  ∀ id ∈ action.generated?, id ∉ session.document.nodeIds

/-- Every id that a run makes is new when it is made. -/
def FreshRun : Session → List Action → Prop
  | _, [] => True
  | session, action :: rest => action.Fresh session ∧ FreshRun (session.act action) rest

instance decidableFreshRun : (session : Session) → (actions : List Action) →
    Decidable (FreshRun session actions)
  | _, [] => inferInstanceAs (Decidable True)
  | session, action :: rest =>
    have := decidableFreshRun (session.act action) rest
    inferInstanceAs (Decidable (_ ∧ _))

/-- Different ids stay different in the document and in all that the history keeps. -/
theorem nodup_nodeIds_act {action : Action}
    (h : ∀ document ∈ session.documents, document.nodeIds.Nodup) (hfresh : action.Fresh session) :
    ∀ document ∈ (session.act action).documents, document.nodeIds.Nodup := by
  have hcurrent := h session.document List.mem_cons_self
  refine forall_documents_act h ?_ (fun document hids => hids) ?_
  · rintro command rfl -
    rw [act]
    rcases session.obey_cases command with
      ⟨cause, hfailed⟩ | ⟨edit, document, stale, hedit, htried, hanswer⟩
    · rw [hfailed]
      exact hcurrent
    · have hnew : edit.Fresh session.document := fun id hid =>
        hfresh id ((Command.asks_of_edit hedit).mem_generated? hid)
      have hnodup := (Document.tried_of_tryEdit htried).ids hcurrent hnew
      rcases hanswer with hdone | ⟨cause, -, hunkept⟩
      · rw [hdone]
        exact hnodup
      · rw [hunkept]
        exact hnodup
  · intro hbare
    rw [← Document.nodeIds_bare, hbare, Document.nodeIds_bare]
    exact hcurrent

/-- Where documents can be encoded, the host knows what is shown after a run. -/
theorem Follows.run (h : Follows start session) (hencodes : session.Encodes)
    (hids : ∀ document ∈ session.documents, document.nodeIds.Nodup) {actions : List Action}
    (hfresh : FreshRun session actions) :
    Follows start (session.run actions) ∧ (session.run actions).document.nodeIds.Nodup := by
  induction actions generalizing session with
  | nil => exact ⟨h, hids session.document List.mem_cons_self⟩
  | cons action rest ih =>
    have hnext := nodup_nodeIds_act hids hfresh.1
    exact ih (h.act hencodes (hnext _ List.mem_cons_self)) (hencodes.act action) hnext hfresh.2

/-- The beginning of a run with new ids has new ids. -/
theorem FreshRun.of_append {actions more : List Action} (h : FreshRun session (actions ++ more)) :
    FreshRun session actions := by
  induction actions generalizing session with
  | nil => trivial
  | cons action rest ih => exact ⟨h.1, ih h.2⟩

/-- At the start of a session the statuses were reported and no event has been told. -/
theorem follows_of_start {document : Document} {registry : Registry} {library : Answers}
    {config : Config} {encode : Encoder} (hids : document.nodeIds.Nodup)
    (h : Session.start document registry library config encode = .ok session) :
    Follows (Dictionary.ofList session.statuses) session ∧
      ∀ document ∈ session.documents, document.nodeIds.Nodup := by
  obtain ⟨hdocument, hhistory, -⟩ := eq_of_start_eq_ok h
  have hnormal : session.document.nodeIds.Nodup := by
    rw [hdocument, Document.nodeIds_normalize]
    exact hids
  have hboard : session.board = (Board.empty.refresh session.document).1 ∧ session.events = [] := by
    unfold Session.start at h
    split at h
    · contradiction
    · obtain rfl := Except.ok.inj h
      exact ⟨rfl, rfl⟩
  have hcurrent : session.board.reported = Dictionary.ofList session.statuses := by
    rw [statuses, hboard.1, Board.statuses_refresh]
    rfl
  refine ⟨⟨hcurrent, fun id status hreported => ?_⟩, fun other hother => ?_⟩
  · rw [hboard.2, ← hcurrent]
    exact hreported
  · rw [documents, hhistory] at hother
    obtain rfl : other = session.document := by simpa [History.start] using hother
    exact hnormal

/-- A session begins on a document with different ids, and a host holds the statuses that are shown
then. It takes over every status that it is told, in the order in which it is told. If documents can
be encoded for the history, after each action of a run it holds for the nodes of the document
exactly the statuses that are shown. -/
theorem hearAll_iff_shown {document : Document} {registry : Registry} {library : Answers}
    {config : Config} {encode : Encoder} (hids : document.nodeIds.Nodup)
    (hstart : Session.start document registry library config encode = .ok session)
    (hencodes : session.Encodes) {actions : List Action} (hfresh : FreshRun session actions)
    {done : List Action} (hdone : done <+: actions) (id : String) (status : Status) :
    (id, status) ∈ (session.run done).statuses ↔
      id ∈ (session.run done).document.nodeIds ∧
        (hearAll (Dictionary.ofList session.statuses) (session.run done).events).get? id =
          some status := by
  obtain ⟨rest, rfl⟩ := hdone
  obtain ⟨hbegin, hdocuments⟩ := follows_of_start hids hstart
  obtain ⟨hfollows, hnodup⟩ := hbegin.run hencodes hdocuments hfresh.of_append
  have hkeys : ((session.run done).statuses.map Prod.fst).Nodup := by
    rw [statuses, Board.map_fst_statuses]
    exact hnodup
  have hholds {id : String} {status : Status}
      (hshown : (id, status) ∈ (session.run done).statuses) :
      (hearAll (Dictionary.ofList session.statuses) (session.run done).events).get? id =
        some status := by
    refine hfollows.informed id status ?_
    rw [hfollows.current]
    exact (Dictionary.get?_ofList_eq_some_iff hkeys).mpr hshown
  constructor
  · intro hshown
    refine ⟨?_, hholds hshown⟩
    have hid := List.mem_map_of_mem (f := Prod.fst) hshown
    rwa [statuses, Board.map_fst_statuses] at hid
  · rintro ⟨hid, hheld⟩
    rw [← Board.map_fst_statuses (session.run done).board] at hid
    obtain ⟨⟨_, shown⟩, hshown, rfl⟩ := List.mem_map.mp hid
    obtain rfl : shown = status := Option.some.inj ((hholds hshown).symm.trans hheld)
    exact hshown

/-- A producer and a consumer are connected and the consumer is run. The producer is deleted,
brought back and deleted again, and a third node is added. -/
def sampleTalk : List Action :=
  [.command (.addNode "a" "copy"), .command (.addNode "b" "copy"),
    .command (.connect ⟨"1", "a", "out", "b", "in"⟩), .execute (fun _ _ => .ok "done") "b",
    .command (.delete "a"), .undo, .execute (fun _ _ => .error (.execution "no")) "a", .redo,
    .command (.addUnassigned "c"), .clearExecution "a"]

/-- A host hears of the failure and of all that follows from the deletion. -/
theorem hearAll_iff_shown_sampleTalk :
    sampleStart.Encodes ∧ FreshRun sampleStart sampleTalk ∧
      (sampleStart.run (sampleTalk.take 7)).statuses =
        [("a", .ran .failed), ("b", .configured)] ∧
      (sampleStart.run sampleTalk).statuses = [("b", .unconfigured), ("c", .unconfigured)] ∧
      ∀ done, done <+: sampleTalk → ∀ id status, (id, status) ∈ (sampleStart.run done).statuses ↔
        id ∈ (sampleStart.run done).document.nodeIds ∧
          (hearAll (Dictionary.ofList sampleStart.statuses)
            (sampleStart.run done).events).get? id = some status := by
  have hfresh : FreshRun sampleStart sampleTalk := by decide
  have hencodes : sampleStart.Encodes := fun _ => rfl
  exact ⟨hencodes, hfresh, by rfl, by rfl, fun done hdone =>
    hearAll_iff_shown (by decide) start_sampleStart hencodes hfresh hdone⟩

end Session

end Dataflow
