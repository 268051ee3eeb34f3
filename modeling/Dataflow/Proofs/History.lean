import Dataflow.Proofs.Session

/-!
# Undo and redo

A session moves along the line of documents that its commands made. Each command that succeeds puts
the document before it on the past, undo walks back along the line and redo forward again. Only the
counter does not move back: every document that is brought back has the counter of the last one.
Documents must be encodable and readable for this, and the past must be deep enough.
-/

namespace Dataflow

namespace Document

variable {document : Document}

/-- The document with another counter. -/
def withCounter (document : Document) (next : UInt32) : Document :=
  { document with nextOrdinal := next }

@[simp] theorem nextOrdinal_withCounter (document : Document) (next : UInt32) :
    (document.withCounter next).nextOrdinal = next := rfl

theorem withCounter_self (document : Document) :
    document.withCounter document.nextOrdinal = document := rfl

/-- To advance the counter to a later number is to set it. -/
theorem advance_eq_withCounter {next : UInt32} (h : document.nextOrdinal ≤ next) :
    document.advance next = document.withCounter next := by
  rw [advance, if_pos h]
  rfl

/-- Whether a document is readable does not depend on its counter. -/
theorem readBack_withCounter (h : document.readBack = .ok document) (next : UInt32) :
    (document.withCounter next).readBack = .ok (document.withCounter next) := by
  have hreadable : document.isReadable = true := by
    unfold readBack at h
    split at h
    · assumption
    · contradiction
  have hsame : (document.withCounter next).isReadable = document.isReadable := rfl
  rw [readBack, hsame, hreadable]
  rfl

end Document

namespace Session

variable {session : Session}

/-- The session after commands one after another. -/
def obeyAll (session : Session) (commands : List Command) : Session :=
  commands.foldl (fun session command => (session.obey command).1) session

/-- The documents that the commands lead to, one for each command that succeeds. -/
def trail (session : Session) : List Command → List Document
  | [] => []
  | command :: rest =>
    match session.obey command with
    | (next, .ok _) => next.document :: next.trail rest
    | (next, .error _) => next.trail rest

/-- The session after a number of undos. -/
def undoTimes (session : Session) (times : Nat) : Session :=
  (fun session : Session => session.undo.1)^[times] session

/-- The session after a number of redos. -/
def redoTimes (session : Session) (times : Nat) : Session :=
  (fun session : Session => session.redo.1)^[times] session

theorem undoTimes_succ (session : Session) (times : Nat) :
    session.undoTimes (times + 1) = (session.undoTimes times).undo.1 :=
  Function.iterate_succ_apply' _ _ _

theorem redoTimes_succ (session : Session) (times : Nat) :
    session.redoTimes (times + 1) = (session.redoTimes times).redo.1 :=
  Function.iterate_succ_apply' _ _ _

/-- Where documents can be encoded, they can be after commands. -/
theorem Encodes.obeyAll (h : session.Encodes) (commands : List Command) :
    (session.obeyAll commands).Encodes := by
  induction commands generalizing session with
  | nil => exact h
  | cons command rest ih => exact ih (h.act (.command command))

/-- Where documents can be encoded, they can be after undos. -/
theorem Encodes.undoTimes (h : session.Encodes) (times : Nat) :
    (session.undoTimes times).Encodes := by
  induction times with
  | zero => exact h
  | succ times ih =>
    rw [undoTimes_succ]
    exact ih.act .undo

/-- Where documents can be encoded, they can be after redos. -/
theorem Encodes.redoTimes (h : session.Encodes) (times : Nat) :
    (session.redoTimes times).Encodes := by
  induction times with
  | zero => exact h
  | succ times ih =>
    rw [redoTimes_succ]
    exact ih.act .redo

/-! ## The depth of the history -/

/-- A step in the history keeps its depth. -/
theorem Recalls.depth_eq {kept : Document} {history : History Document} {action : Action}
    (h : session.Recalls kept history action) : history.depth = session.history.depth := by
  cases h with
  | undo h =>
    unfold History.undo? at h
    split at h
    · contradiction
    · obtain ⟨-, rfl⟩ := Prod.mk.inj (Option.some.inj h)
      rfl
  | redo h =>
    unfold History.redo? at h
    split at h
    · contradiction
    · obtain ⟨-, rfl⟩ := Prod.mk.inj (Option.some.inj h)
      rfl

/-- Undo and redo that leave the document alone keep the depth too. -/
theorem Passes.depth_eq {history : History Document} {action : Action}
    (h : session.Passes history action) : history.depth = session.history.depth := by
  cases h with
  | unread hrecalls => exact hrecalls.depth_eq
  | undo _ => rfl
  | redo _ => rfl

/-- No action changes the depth of the history. -/
theorem depth_act (session : Session) (action : Action) :
    (session.act action).history.depth = session.history.depth := by
  generalize (session.act action).document = document, (session.act action).history = history,
    session.step_act action = hstep
  cases hstep with
  | still => rfl
  | edited _ _ => rfl
  | unkept _ _ _ => rfl
  | passed hpasses => exact hpasses.depth_eq
  | restored hrecalls => exact hrecalls.depth_eq
  | found _ _ => rfl

/-- Every session keeps a hundred documents. -/
theorem Reachable.depth_eq (h : session.Reachable) : session.history.depth = 100 := by
  induction h with
  | start hstart =>
    obtain ⟨-, hhistory, -⟩ := eq_of_start_eq_ok hstart
    rw [hhistory]
    rfl
  | act action _ ih => exact (depth_act _ action).trans ih

/-! ## The line that commands make -/

theorem obeyAll_concat (session : Session) (commands : List Command) (last : Command) :
    session.obeyAll (commands ++ [last]) = ((session.obeyAll commands).obey last).1 := by
  rw [obeyAll, List.foldl_append]
  rfl

/-- The last of several commands adds at most its own document to the trail. -/
theorem trail_concat (session : Session) (commands : List Command) (last : Command) :
    session.trail (commands ++ [last]) =
      session.trail commands ++ (session.obeyAll commands).trail [last] := by
  induction commands generalizing session with
  | nil => rfl
  | cons command rest ih =>
    rw [List.cons_append, trail, trail]
    have hnext : session.obeyAll (command :: rest) = (session.obey command).1.obeyAll rest := rfl
    rw [hnext]
    cases hanswer : session.obey command with
    | mk next result =>
      cases result with
      | ok found => simp only [ih, List.cons_append]
      | error cause => simp only [ih]

/-- Where documents can be encoded, a command that fails leads nowhere, and one that succeeds leads
on with the counter and keeps the document before it. -/
theorem Encodes.trail_singleton (hencodes : session.Encodes) (command : Command) :
    (session.trail [command] = [] ∧ (session.obey command).1 = session) ∨
    ∃ document, session.trail [command] = [document] ∧
      (session.obey command).1.document = document ∧
      session.document.nextOrdinal ≤ document.nextOrdinal ∧
      (session.obey command).1.history = session.history.checkpoint session.document := by
  rcases session.answered_obey command with
    ⟨cause, hfailed⟩ | ⟨document, heffect, ⟨stale, hdone⟩ | ⟨cause, hencode, -⟩⟩
  · exact .inl ⟨by simp [trail, hfailed], by rw [hfailed]⟩
  · rw [hdone]
    exact .inr ⟨document, by simp [trail, hdone, accept], rfl, heffect.counter, rfl⟩
  · rw [hencodes] at hencode
    contradiction

/-- What commands leave behind, given the line of documents that they made. -/
structure Walked (stages : List Document) (session done : Session) : Prop where
  /-- The line ends at the current document. -/
  last : stages.getLast? = some done.document
  /-- No counter of the line lies ahead of the last one. -/
  counters : ∀ document ∈ stages, document.nextOrdinal ≤ done.document.nextOrdinal
  /-- The documents before the last one are kept, the latest first. -/
  past : stages.length ≤ session.history.depth + 1 → stages.dropLast.reverse <+: done.history.past
  /-- If there was a command that succeeded, there is nothing to redo. -/
  future : 1 < stages.length → done.history.future = []
  /-- The depth of the history is as before. -/
  depth : done.history.depth = session.history.depth

/-- Commands leave the line behind that they made. -/
theorem Encodes.walked_obeyAll (hencodes : session.Encodes) (commands : List Command) :
    Walked (session.document :: session.trail commands) session (session.obeyAll commands) := by
  induction commands using List.reverseRecOn with
  | nil =>
    exact ⟨rfl, by simp [trail, Session.obeyAll], fun _ => List.nil_prefix,
      fun hlong => absurd hlong (by simp [trail]), rfl⟩
  | append_singleton commands command ih =>
    rw [trail_concat, obeyAll_concat]
    rcases (hencodes.obeyAll commands).trail_singleton command with
      ⟨hnone, hsame⟩ | ⟨document, hone, hdocument, hcounter, hhistory⟩
    · rw [hnone, hsame, List.append_nil]
      exact ih
    · rw [hone, ← List.cons_append]
      refine ⟨?_, ?_, fun hdepth => ?_, fun _ => ?_, ?_⟩
      · rw [List.getLast?_concat, hdocument]
      · intro other hother
        rw [hdocument]
        rcases List.mem_append.mp hother with hold | hnew
        · exact UInt32.le_trans (ih.counters other hold) hcounter
        · exact List.mem_singleton.mp hnew ▸ UInt32.le_refl _
      · have hshort : (session.document :: session.trail commands).length ≤
            session.history.depth := by simpa using hdepth
        obtain ⟨before, hbefore⟩ := List.getLast?_eq_some_iff.mp ih.last
        have hkept := ih.past (Nat.le_succ_of_le hshort)
        rw [List.dropLast_concat, hhistory, History.checkpoint, List.prefix_take_iff, ih.depth]
        refine ⟨?_, by simpa using hshort⟩
        rw [hbefore, List.dropLast_concat] at hkept
        rw [hbefore, List.reverse_append]
        exact List.prefix_cons_inj _ |>.mpr hkept
      · rw [hhistory]
        rfl
      · rw [hhistory]
        exact ih.depth

/-! ## Walking back and forth -/

/-- Undo brings the latest document of the past back. -/
theorem Encodes.undo_eq_of_past (hencodes : session.Encodes) {kept : Document}
    {rest : List Document} (hpast : session.history.past = kept :: rest)
    (hread : kept.readBack = .ok kept) :
    session.undo = ({ session with
      document := kept.advance session.document.nextOrdinal
      history := { session.history with
        past := rest
        future := session.document :: session.history.future } }.refresh, .ok true) := by
  simp only [undo, History.undo?, hpast, restore, hencodes session.document, hread]

/-- Redo brings the next document of the future back. -/
theorem Encodes.redo_eq_of_future (hencodes : session.Encodes) {kept : Document}
    {rest : List Document} (hfuture : session.history.future = kept :: rest)
    (hread : kept.readBack = .ok kept) :
    session.redo = ({ session with
      document := kept.advance session.document.nextOrdinal
      history := { session.history with
        past := session.document :: session.history.past
        future := rest } }.refresh, .ok true) := by
  simp only [redo, History.redo?, hfuture, restore, hencodes session.document, hread]

/-- Without a future there is nothing to redo. -/
theorem redo_eq_self (h : session.history.future = []) : session.redo = (session, .ok false) := by
  simp only [redo, History.redo?, h, restore]

/-- After a command that succeeds there is nothing to redo. -/
theorem redo_obey {command : Command} (h : (session.obey command).2 = .ok ()) :
    (session.obey command).1.redo = ((session.obey command).1, .ok false) := by
  rcases session.answered_obey command with
    ⟨cause, hfailed⟩ | ⟨document, -, ⟨stale, hdone⟩ | ⟨cause, -, hunkept⟩⟩
  · rw [hfailed] at h
    contradiction
  · rw [hdone]
    exact redo_eq_self rfl
  · rw [hunkept] at h
    contradiction

/-- The documents that undo brings back, with the counter of the current document, while those
before it are readable and their counters are not ahead. -/
theorem Encodes.undoTimes_spec (hencodes : session.Encodes) {kept : List Document}
    (hpast : kept <+: session.history.past)
    (hread : ∀ document ∈ kept, document.readBack = .ok document)
    (hcounters : ∀ document ∈ kept, document.nextOrdinal ≤ session.document.nextOrdinal)
    {times : Nat} (htimes : times ≤ kept.length) :
    let stages := (session.document :: kept).map (·.withCounter session.document.nextOrdinal)
    stages[times]? = some (session.undoTimes times).document ∧
      (session.undoTimes times).history.past = session.history.past.drop times ∧
      (session.undoTimes times).history.future =
        (stages.take times).reverse ++ session.history.future := by
  intro stages
  induction times with
  | zero => exact ⟨rfl, rfl, rfl⟩
  | succ times ih =>
    obtain ⟨hdocument, hpassed, hahead⟩ := ih (Nat.le_of_succ_le htimes)
    -- the document to bring back is the first of the rest of the past
    obtain ⟨older, holder⟩ := hpast
    have hnext : (session.undoTimes times).history.past =
        kept[times] :: session.history.past.drop (times + 1) := by
      rw [hpassed, ← holder, List.drop_append_of_le_length (Nat.le_of_succ_le htimes),
        List.drop_append_of_le_length htimes, List.drop_eq_getElem_cons htimes, List.cons_append]
    have hmem : kept[times] ∈ kept := List.getElem_mem htimes
    have hcounter : (session.undoTimes times).document.nextOrdinal =
        session.document.nextOrdinal := by
      obtain ⟨document, -, hsame⟩ := List.mem_map.mp (List.mem_of_getElem? hdocument)
      rw [← hsame, Document.nextOrdinal_withCounter]
    rw [undoTimes_succ, (hencodes.undoTimes times).undo_eq_of_past hnext (hread _ hmem), hcounter,
      Document.advance_eq_withCounter (hcounters _ hmem)]
    refine ⟨?_, rfl, ?_⟩
    · simp [stages, List.getElem?_eq_getElem htimes]
    · have htake : stages.take (times + 1) =
          stages.take times ++ [(session.undoTimes times).document] := by
        rw [List.take_add_one, hdocument]
        rfl
      rw [htake, List.reverse_append]
      exact congrArg _ hahead

/-- Undo succeeds as long as there are such documents. -/
theorem Encodes.undo_undoTimes (hencodes : session.Encodes) {kept : List Document}
    (hpast : kept <+: session.history.past)
    (hread : ∀ document ∈ kept, document.readBack = .ok document)
    (hcounters : ∀ document ∈ kept, document.nextOrdinal ≤ session.document.nextOrdinal)
    {times : Nat} (htimes : times < kept.length) :
    (session.undoTimes times).undo.2 = .ok true := by
  obtain ⟨-, hpassed, -⟩ := hencodes.undoTimes_spec hpast hread hcounters (Nat.le_of_lt htimes)
  obtain ⟨older, holder⟩ := hpast
  rw [← holder, List.drop_append_of_le_length (Nat.le_of_lt htimes),
    List.drop_eq_getElem_cons htimes] at hpassed
  rw [(hencodes.undoTimes times).undo_eq_of_past hpassed (hread _ (List.getElem_mem htimes))]

/-- The documents that redo brings back, while they are readable and have the counter of the current
document. -/
theorem Encodes.redoTimes_spec (hencodes : session.Encodes)
    (hread : ∀ document ∈ session.history.future, document.readBack = .ok document)
    (hcounters : ∀ document ∈ session.history.future,
      document.nextOrdinal = session.document.nextOrdinal)
    {times : Nat} (htimes : times ≤ session.history.future.length) :
    (session.document :: session.history.future)[times]? =
        some (session.redoTimes times).document ∧
      (session.redoTimes times).history.future = session.history.future.drop times := by
  induction times with
  | zero => exact ⟨rfl, rfl⟩
  | succ times ih =>
    obtain ⟨hdocument, hahead⟩ := ih (Nat.le_of_succ_le htimes)
    rw [List.drop_eq_getElem_cons htimes] at hahead
    have hmem := List.getElem_mem htimes
    have hcounter : (session.redoTimes times).document.nextOrdinal =
        session.document.nextOrdinal := by
      rcases List.mem_cons.mp (List.mem_of_getElem? hdocument) with hsame | hlater
      · rw [hsame]
      · exact hcounters _ hlater
    have hsame : session.history.future[times].advance session.document.nextOrdinal =
        session.history.future[times] := by
      rw [← hcounters _ hmem, Document.advance_eq_withCounter (UInt32.le_refl _),
        Document.withCounter_self]
    rw [redoTimes_succ, (hencodes.redoTimes times).redo_eq_of_future hahead (hread _ hmem),
      hcounter, hsame]
    exact ⟨by simp [List.getElem?_eq_getElem htimes], rfl⟩

/-- Redo succeeds as long as there are such documents. -/
theorem Encodes.redo_redoTimes (hencodes : session.Encodes)
    (hread : ∀ document ∈ session.history.future, document.readBack = .ok document)
    (hcounters : ∀ document ∈ session.history.future,
      document.nextOrdinal = session.document.nextOrdinal)
    {times : Nat} (htimes : times < session.history.future.length) :
    (session.redoTimes times).redo.2 = .ok true := by
  obtain ⟨-, hahead⟩ := hencodes.redoTimes_spec hread hcounters (Nat.le_of_lt htimes)
  rw [List.drop_eq_getElem_cons htimes] at hahead
  rw [(hencodes.redoTimes times).redo_eq_of_future hahead (hread _ (List.getElem_mem htimes))]

/-! ## The whole line -/

section Line

variable {first : Document} {rest : List Document} {done : Session}

/-- The line backwards is the last document and the kept ones before it. -/
theorem Walked.reverse_eq (h : Walked (first :: rest) session done) :
    (first :: rest).reverse = done.document :: (first :: rest).dropLast.reverse := by
  obtain ⟨before, hbefore⟩ := List.getLast?_eq_some_iff.mp h.last
  rw [hbefore, List.dropLast_concat, List.reverse_append]
  rfl

/-- What lies before the last document of a line is on the line. -/
theorem mem_of_mem_dropLast_reverse {document : Document}
    (h : document ∈ (first :: rest).dropLast.reverse) : document ∈ first :: rest :=
  List.mem_of_mem_dropLast (List.mem_reverse.mp h)

/-- Every undo goes one document back along the line. -/
theorem Walked.undo (h : Walked (first :: rest) session done) (hencodes : done.Encodes)
    (hdepth : rest.length ≤ session.history.depth)
    (hread : ∀ document ∈ first :: rest, document.readBack = .ok document)
    {times : Nat} (htimes : times < rest.length) :
    (done.undoTimes times).undo.2 = .ok true ∧
      (first :: rest)[rest.length - (times + 1)]?.map
        (·.withCounter done.document.nextOrdinal) =
          some (done.undoTimes (times + 1)).document := by
  have hpast := h.past (Nat.succ_le_succ hdepth)
  have hkeptRead (document) (hmem : document ∈ (first :: rest).dropLast.reverse) :=
    hread document (mem_of_mem_dropLast_reverse hmem)
  have hkeptCounters (document) (hmem : document ∈ (first :: rest).dropLast.reverse) :=
    h.counters document (mem_of_mem_dropLast_reverse hmem)
  have hlength : times < (first :: rest).dropLast.reverse.length := by simpa using htimes
  refine ⟨hencodes.undo_undoTimes hpast hkeptRead hkeptCounters hlength, ?_⟩
  obtain ⟨hdocument, -⟩ := hencodes.undoTimes_spec hpast hkeptRead hkeptCounters hlength
  rw [← h.reverse_eq, List.getElem?_map,
    List.getElem?_reverse (Nat.succ_lt_succ htimes)] at hdocument
  exact hdocument

/-- After as many undos as commands that succeeded, the first document is back and all others are
ahead. -/
theorem Walked.undoTimes_length (h : Walked (first :: rest) session done) (hencodes : done.Encodes)
    (hdepth : rest.length ≤ session.history.depth) (hsome : 0 < rest.length)
    (hread : ∀ document ∈ first :: rest, document.readBack = .ok document) :
    (done.undoTimes rest.length).document = first.withCounter done.document.nextOrdinal ∧
      (done.undoTimes rest.length).history.future =
        rest.map (·.withCounter done.document.nextOrdinal) := by
  obtain ⟨hdocument, -, hahead⟩ := hencodes.undoTimes_spec (h.past (Nat.succ_le_succ hdepth))
    (fun document hmem => hread document (mem_of_mem_dropLast_reverse hmem))
    (fun document hmem => h.counters document (mem_of_mem_dropLast_reverse hmem))
    (by simp : rest.length ≤ (first :: rest).dropLast.reverse.length)
  rw [← h.reverse_eq, List.reverse_cons, List.map_append] at hdocument hahead
  have hlength : (rest.reverse.map (·.withCounter done.document.nextOrdinal)).length =
      rest.length := by simp
  constructor
  · rw [← hlength, List.getElem?_append_right (Nat.le_refl _), Nat.sub_self, hlength] at hdocument
    exact (Option.some.inj hdocument).symm
  · have hended : done.history.future = [] := h.future (Nat.succ_lt_succ hsome)
    rw [hahead, hended, List.append_nil, ← hlength, List.take_left, ← List.map_reverse,
      List.reverse_reverse]

/-- Once the line is walked back, every redo goes one document forward, up to its end. -/
theorem Walked.redo (h : Walked (first :: rest) session done) (hencodes : done.Encodes)
    (hdepth : rest.length ≤ session.history.depth) (hsome : 0 < rest.length)
    (hread : ∀ document ∈ first :: rest, document.readBack = .ok document) :
    let back := done.undoTimes rest.length
    (∀ times < rest.length, (back.redoTimes times).redo.2 = .ok true ∧
      (first :: rest)[times + 1]?.map (·.withCounter done.document.nextOrdinal) =
        some (back.redoTimes (times + 1)).document) ∧
      (back.redoTimes rest.length).redo = (back.redoTimes rest.length, .ok false) := by
  intro back
  obtain ⟨hback, hahead⟩ := h.undoTimes_length hencodes hdepth hsome hread
  have hbackEncodes : back.Encodes := hencodes.undoTimes rest.length
  have hlength : back.history.future.length = rest.length := by rw [hahead, List.length_map]
  have haheadRead (document) (hmem : document ∈ back.history.future) :
      document.readBack = .ok document := by
    rw [hahead] at hmem
    obtain ⟨made, hmade, rfl⟩ := List.mem_map.mp hmem
    exact Document.readBack_withCounter (hread made (List.mem_cons_of_mem _ hmade)) _
  have haheadCounters (document) (hmem : document ∈ back.history.future) :
      document.nextOrdinal = back.document.nextOrdinal := by
    rw [hahead] at hmem
    obtain ⟨made, -, rfl⟩ := List.mem_map.mp hmem
    rw [hback, Document.nextOrdinal_withCounter, Document.nextOrdinal_withCounter]
  refine ⟨fun times htimes => ?_, ?_⟩
  · rw [← hlength] at htimes
    refine ⟨hbackEncodes.redo_redoTimes haheadRead haheadCounters htimes, ?_⟩
    obtain ⟨hdocument, -⟩ := hbackEncodes.redoTimes_spec haheadRead haheadCounters htimes
    rw [List.getElem?_cons_succ, hahead, List.getElem?_map] at hdocument
    exact hdocument
  · obtain ⟨-, hended⟩ := hbackEncodes.redoTimes_spec haheadRead haheadCounters
      (Nat.le_of_eq hlength.symm)
    exact redo_eq_self (by rw [hended, ← hlength, List.drop_length])

end Line

/-- Where documents can be encoded and read back, undo walks back along the documents that commands
made and redo forward again, with the last counter all along. At the end of the line there is
nothing to redo, nor after a command that succeeds on the way. -/
theorem undo_redo_along_trail (hreachable : session.Reachable) (hencodes : session.Encodes)
    (commands : List Command)
    (hsome : 1 ≤ (session.trail commands).length)
    (hdepth : (session.trail commands).length ≤ 100)
    (hread : ∀ document ∈ session.document :: session.trail commands,
      document.readBack = .ok document) :
    let made := (session.trail commands).length
    let stages := session.document :: session.trail commands
    let done := session.obeyAll commands
    let back := done.undoTimes made
    let recalled (index : Nat) := stages[index]?.map (·.withCounter done.document.nextOrdinal)
    stages[made]? = some done.document ∧
      (∀ times < made, (done.undoTimes times).undo.2 = .ok true ∧
        recalled (made - (times + 1)) = some (done.undoTimes (times + 1)).document) ∧
      (∀ times < made, (back.redoTimes times).redo.2 = .ok true ∧
        recalled (times + 1) = some (back.redoTimes (times + 1)).document) ∧
      (back.redoTimes made).redo = (back.redoTimes made, .ok false) ∧
      ∀ times ≤ made, ∀ command next,
        (done.undoTimes times).obey command = (next, .ok ()) → next.redo = (next, .ok false) := by
  intro made stages done back recalled
  have hwalked : Walked stages session done := hencodes.walked_obeyAll commands
  have hdoneEncodes : done.Encodes := hencodes.obeyAll commands
  have hdeep : made ≤ session.history.depth := by rwa [hreachable.depth_eq]
  have hlast : stages[made]? = some done.document := by
    rw [← hwalked.last, List.getLast?_eq_getElem?]
    rfl
  obtain ⟨hforth, hended⟩ := hwalked.redo hdoneEncodes hdeep hsome hread
  refine ⟨hlast, fun times htimes => hwalked.undo hdoneEncodes hdeep hread htimes, hforth, hended,
    ?_⟩
  intro times _ command next hnext
  have hredo := redo_obey (congrArg Prod.snd hnext)
  rwa [hnext] at hredo

/-- Two additions and a deletion, with a deletion that fails between them. -/
def sampleCommands : List Command :=
  [.addNode "a" "copy", .delete "lost", .addNode "b" "copy", .delete "a"]

/-- Three of the four sample commands succeed, and three undos lead back to the start. -/
theorem undo_redo_along_trail_sampleStart :
    let done := sampleStart.obeyAll sampleCommands
    let back := done.undoTimes 3
    sampleStart.Reachable ∧ sampleStart.Encodes ∧
      (sampleStart.trail sampleCommands).map Document.nodeIds = [["a"], ["a", "b"], ["b"]] ∧
      (∀ document ∈ sampleStart.document :: sampleStart.trail sampleCommands,
        document.readBack = .ok document) ∧
      (back.document.nodeIds, back.document.nextOrdinal) = ([], 3) ∧
      (back.redoTimes 3).redo = (back.redoTimes 3, .ok false) := by
  have hreachable : sampleStart.Reachable := .start start_sampleStart
  have hread : ∀ document ∈ sampleStart.document :: sampleStart.trail sampleCommands,
      document.readBack = .ok document := by
    have hall : (sampleStart.document :: sampleStart.trail sampleCommands).all
        Document.isReadable = true := by rfl
    intro document hdocument
    rw [Document.readBack, List.all_eq_true.mp hall document hdocument]
    rfl
  have hencodes : sampleStart.Encodes := fun _ => rfl
  have hline := undo_redo_along_trail hreachable hencodes sampleCommands (by decide) (by decide)
    hread
  exact ⟨hreachable, hencodes, by rfl, hread, by rfl, hline.2.2.2.1⟩

end Session

end Dataflow
