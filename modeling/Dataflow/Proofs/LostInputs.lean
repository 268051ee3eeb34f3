import Dataflow.Proofs.Reporting

/-!
# Outcomes of nodes that lost an input

Where documents can be encoded for the history, a command that takes an edge away drops the outcome
of the node that the edge entered, so that the node shows again whether it can run. Undo and redo
take edges away as well, but they exchange the whole document and leave the outcome of every node
that is still there. So after undo a node can show that its run ended well while the input that the
run used is gone.
-/

namespace Dataflow

namespace Board

/-- Clearing takes the outcomes of the given nodes, and of no others. -/
theorem get?_overlay_clearEach (board : Board) (ids : List String) (id : String) :
    (board.clearEach ids).overlay.get? id =
      if id ∈ ids then none else board.overlay.get? id := by
  induction ids generalizing board with
  | nil => simp [clearEach]
  | cons first rest ih =>
    have hclear : (board.clear first).overlay.get? id =
        if id = first then none else board.overlay.get? id := board.overlay.get?_erase first id
    rw [clearEach, List.foldl_cons]
    refine (ih (board.clear first)).trans ?_
    rw [hclear]
    by_cases hfirst : id = first <;> by_cases hrest : id ∈ rest <;> simp [hfirst, hrest]

/-- A node shows its structural status exactly if it has no outcome or is free. -/
theorem status_eq_structuralStatus_iff (board : Board) (document : Document) (node : Node) :
    board.status document node = document.structuralStatus node ↔
      node.schema.category = .free ∨ board.overlay.get? node.id = none := by
  have hnever (outcome : Outcome) : document.structuralStatus node ≠ .ran outcome := by
    unfold Document.structuralStatus
    split
    · simp
    · split <;> simp
  unfold status
  split
  · next hfree => simp [hfree]
  · next hcategory =>
    cases board.overlay.get? node.id with
    | none => simp
    | some outcome => simpa [hcategory] using (hnever outcome).symm

end Board

namespace Session

variable {session : Session} {edge : Edge}

/-- Whether an action goes along the history. -/
def Action.travels : Action → Bool
  | .undo | .redo => true
  | _ => false

/-- An accepted edit keeps the outcomes of the nodes that are still there and not stale. -/
theorem get?_overlay_accept (session : Session) (document : Document) (stale : List String)
    (id : String) :
    (session.accept document stale).board.overlay.get? id =
      if id ∈ document.nodeIds then if id ∈ stale then none else session.board.overlay.get? id
      else none := by
  have hrefresh := (session.board.clearEach stale).get?_overlay_refresh document id
  rw [Board.get?_overlay_clearEach] at hrefresh
  exact hrefresh

/-- A command drops the outcome of a node that loses an edge, if documents can be encoded. -/
theorem overlay_obey_of_lost (hencodes : session.Encodes) {command : Command}
    (hbefore : edge ∈ session.document.edges)
    (hafter : edge ∉ (session.obey command).1.document.edges) :
    (session.obey command).1.board.overlay.get? edge.target = none := by
  rcases hencodes.obey_cases command with
    ⟨cause, hfailed⟩ | ⟨edit, document, stale, -, htried, hdone⟩
  · rw [hfailed] at hafter
    exact absurd hbefore hafter
  · rw [hdone] at hafter ⊢
    have hstale : edge.target ∈ stale :=
      (Document.tried_of_tryEdit htried).lost edge hbefore hafter
    have haccept := session.get?_overlay_accept document stale edge.target
    simp only [hstale, ite_true, ite_self] at haccept
    exact haccept

/-- Undo and redo keep the outcome of every node that is there afterwards. -/
theorem overlay_restore {step : Option (Document × History Document)} {dropped : History Document}
    {id : String} (hid : id ∈ (session.restore step dropped).1.document.nodeIds) :
    (session.restore step dropped).1.board.overlay.get? id = session.board.overlay.get? id := by
  rcases session.restore_cases step dropped with
    ⟨-, hnone⟩ | ⟨kept, history, -, ⟨cause, -, hlost⟩ | ⟨cause, hpassed⟩ | hdone⟩
  · rw [hnone]
  · rw [hlost]
  · rw [hpassed]
  · rw [hdone] at hid ⊢
    change id ∈ (kept.advance session.document.nextOrdinal).nodeIds at hid
    have hrefresh := session.board.get?_overlay_refresh
      (kept.advance session.document.nextOrdinal) id
    rw [if_pos hid] at hrefresh
    exact hrefresh

/-- Only commands, undo and redo take edges away. -/
theorem edges_act {action : Action} (hcommand : ∀ command, action ≠ .command command)
    (htravels : action.travels = false) :
    (session.act action).document.edges = session.document.edges := by
  generalize (session.act action).document = document, (session.act action).history = history,
    session.step_act action = hstep
  cases hstep with
  | still => rfl
  | edited haction _ => exact absurd haction (hcommand _)
  | unkept haction _ _ => exact absurd haction (hcommand _)
  | passed _ => rfl
  | restored hrecalls => cases hrecalls <;> cases htravels
  | found _ hbare => exact (congrArg Document.edges hbare :)

/-- What is left of the outcome of a node that loses an edge and is still there. -/
theorem overlay_act_of_lost (hencodes : session.Encodes) {action : Action}
    (hbefore : edge ∈ session.document.edges)
    (hafter : edge ∉ (session.act action).document.edges)
    (hkept : edge.target ∈ (session.act action).document.nodeIds) :
    (session.act action).board.overlay.get? edge.target =
      if action.travels then session.board.overlay.get? edge.target else none := by
  cases action with
  | command command => exact overlay_obey_of_lost hencodes hbefore hafter
  | undo => exact overlay_restore hkept
  | redo => exact overlay_restore hkept
  | code | nodeCode _ | execute _ _ | clearExecution _ | propagate | invalidate | useLibrary _ =>
    rw [edges_act] at hafter
    · exact absurd hbefore hafter
    · simp
    · rfl

/-- Where documents can be encoded, a node that loses an edge and is still there shows its
structural status again, except that undo and redo leave it the outcome that it had. -/
theorem act_loses_edge (session : Session) (hencodes : session.Encodes) {action : Action}
    {edge : Edge} (hbefore : edge ∈ session.document.edges)
    (hafter : edge ∉ (session.act action).document.edges)
    (hkept : edge.target ∈ (session.act action).document.nodeIds) :
    ((session.act action).board.overlay.get? edge.target = none ↔
      (action.travels = true → session.board.overlay.get? edge.target = none)) ∧
    ∀ node ∈ (session.act action).document.nodes, node.id = edge.target →
      ((session.act action).board.status (session.act action).document node =
        (session.act action).document.structuralStatus node ↔
          node.schema.category = .free ∨
            (action.travels = true → session.board.overlay.get? edge.target = none)) := by
  have hleft := overlay_act_of_lost hencodes hbefore hafter hkept
  have hiff : (session.act action).board.overlay.get? edge.target = none ↔
      (action.travels = true → session.board.overlay.get? edge.target = none) := by
    rw [hleft]
    by_cases htravels : action.travels = true <;> simp [htravels]
  refine ⟨hiff, fun node _ hid => ?_⟩
  rw [Board.status_eq_structuralStatus_iff, hid, hiff]

/-- What a run makes of a reachable session is reachable. -/
theorem Reachable.run (h : Reachable session) (actions : List Action) :
    Reachable (session.run actions) := by
  induction actions generalizing session with
  | nil => exact h
  | cons action rest ih => exact ih (h.act action)

/-- The edge from a producer to a consumer. -/
def sampleEdge : Edge := ⟨"1", "a", "out", "b", "in"⟩

/-- The consumer has run with what the producer gave it. -/
def sampleRan : Session :=
  sampleStart.run [.command (.addNode "a" "copy"), .command (.addNode "b" "copy"),
    .command (.connect sampleEdge), .execute (fun _ _ => .ok "done") "b"]

/-- The consumer has run after its edge was removed and brought back. -/
def sampleRanAgain : Session :=
  sampleStart.run [.command (.addNode "a" "copy"), .command (.addNode "b" "copy"),
    .command (.connect sampleEdge), .command (.disconnect "1"), .undo,
    .execute (fun _ _ => .ok "done") "b"]

/-- Deleting the source of the sample takes the success of the node behind it. -/
theorem act_loses_edge_sampleRan :
    sampleRan.Encodes ∧ sampleRan.board.overlay.get? "b" = some .success ∧
      sampleEdge ∈ sampleRan.document.edges ∧
      sampleEdge ∉ (sampleRan.act (.command (.delete "a"))).document.edges ∧
      "b" ∈ (sampleRan.act (.command (.delete "a"))).document.nodeIds ∧
      (sampleRan.act (.command (.delete "a"))).board.overlay.get? "b" = none ∧
      ∀ node ∈ (sampleRan.act (.command (.delete "a"))).document.nodes, node.id = "b" →
        (sampleRan.act (.command (.delete "a"))).board.status
          (sampleRan.act (.command (.delete "a"))).document node =
            (sampleRan.act (.command (.delete "a"))).document.structuralStatus node := by
  have hbefore : sampleEdge ∈ sampleRan.document.edges := by decide
  have hafter : sampleEdge ∉ (sampleRan.act (.command (.delete "a"))).document.edges := by decide
  have hkept : "b" ∈ (sampleRan.act (.command (.delete "a"))).document.nodeIds := by decide
  have hencodes : sampleRan.Encodes := fun _ => rfl
  obtain ⟨hoverlay, hstatus⟩ := sampleRan.act_loses_edge hencodes hbefore hafter hkept
  refine ⟨hencodes, by decide, hbefore, hafter, hkept, hoverlay.mpr (by decide),
    fun node hnode hid => ?_⟩
  exact (hstatus node hnode hid).mpr (.inr (by decide))

/-- Undo and redo each take away the edge that a run used, and the run is still shown as a success
though the node cannot run. -/
theorem outcome_outlives_edge :
    (Reachable sampleRan ∧ sampleEdge ∈ sampleRan.document.edges ∧
      sampleEdge ∉ (sampleRan.act .undo).document.edges ∧
      (sampleRan.act .undo).board.overlay.get? "b" = some .success ∧
      (sampleRan.act .undo).status? "b" = some (.ran .success) ∧
      ((sampleRan.act .undo).document.node? "b").map
        (sampleRan.act .undo).document.structuralStatus = some .unconfigured) ∧
    (Reachable sampleRanAgain ∧ sampleEdge ∈ sampleRanAgain.document.edges ∧
      sampleEdge ∉ (sampleRanAgain.act .redo).document.edges ∧
      (sampleRanAgain.act .redo).board.overlay.get? "b" = some .success ∧
      (sampleRanAgain.act .redo).status? "b" = some (.ran .success) ∧
      ((sampleRanAgain.act .redo).document.node? "b").map
        (sampleRanAgain.act .redo).document.structuralStatus = some .unconfigured) :=
  ⟨⟨(Reachable.start start_sampleStart).run _, by decide, by decide, by decide, by decide,
      by decide⟩,
    ⟨(Reachable.start start_sampleStart).run _, by decide, by decide, by decide, by decide,
      by decide⟩⟩

end Session

end Dataflow
