import Dataflow.Proofs.Fingerprint
import Dataflow.Proofs.Session

/-!
# Skipped passes

A pass is skipped if the document has the fingerprint that it had at the last one. In a run in which
fingerprints can be read, the document then has the nodes, values and edges that it had at the last
pass, and another pass would find nothing new exactly if every node still holds what that pass
wrote. It does if no schema was assigned and the history was not used since. Both can change
metadata without changing the fingerprint, so that a pass is skipped over a document that is out of
date.
-/

namespace Dataflow

namespace Session

/-! ## Ids and values of a run -/

/-- The value that a command sets, with its name. -/
def Command.setting? : Command → Option (String × Json)
  | .setValue _ name value => some (name, value)
  | _ => none

/-- The command of an action that is one. -/
def Action.command? : Action → Option Command
  | .command request => some request
  | _ => none

/-- The ids that were made for the new nodes of a run. -/
def generatedIds (actions : List Action) : List String :=
  actions.filterMap fun action => action.command?.bind Command.generated?

/-- The values that are set in a run, with their names. -/
def settings (actions : List Action) : List (String × Json) :=
  actions.filterMap fun action => action.command?.bind Command.setting?

/-- Whether nodes keep schema and metadata through an action that is no pass. -/
def Action.keepsMetadata : Action → Bool
  | .command request => !request.assigns
  | .undo | .redo => false
  | _ => true

theorem generatedIds_append (actions more : List Action) :
    generatedIds (actions ++ more) = generatedIds actions ++ generatedIds more :=
  List.filterMap_append

theorem settings_append (actions more : List Action) :
    settings (actions ++ more) = settings actions ++ settings more :=
  List.filterMap_append

theorem run_concat (session : Session) (actions : List Action) (last : Action) :
    session.run (actions ++ [last]) = (session.run actions).act last := by
  rw [run, List.foldl_append]
  rfl

end Session

namespace Document

variable {document other before after : Document} {ids more : List String}
  {settings further : List (String × Json)}

/-! ## Documents over ids and values -/

/-- Whether a document is well formed does not depend on metadata. -/
theorem WellFormed.of_bare_eq (h : other.WellFormed) (hbare : document.bare = other.bare) :
    document.WellFormed := by
  have hdeclares {ports : Schema → List String} {id port : String}
      (hport : other.Declares ports id port) : document.Declares ports id port := by
    obtain ⟨old, hmem, rfl, hin⟩ := hport
    obtain ⟨node, hnode, hsame⟩ := exists_mem_of_bare_eq hbare.symm hmem
    simp only [Node.bare, Node.mk.injEq] at hsame
    exact ⟨node, hnode, hsame.1, hsame.2.2.1 ▸ hin⟩
  have hids : document.nodeIds = other.nodeIds :=
    map_nodes_eq_of_bare_eq hbare Node.id fun _ => rfl
  have hordinals := map_nodes_eq_of_bare_eq hbare Node.ordinal fun _ => rfl
  have hedges : document.edges = other.edges := (congrArg Document.edges hbare :)
  have hcounter : document.nextOrdinal = other.nextOrdinal :=
    (congrArg Document.nextOrdinal hbare :)
  refine ⟨hids ▸ h.ids, hordinals ▸ h.ordinals, fun node hnode => ?_, fun node hnode => ?_,
    fun edge hedge => ?_, fun edge hedge => ?_, hedges ▸ h.inputs⟩
  · obtain ⟨old, hmem, hsame⟩ := exists_mem_of_bare_eq hbare hnode
    simp only [Node.bare, Node.mk.injEq] at hsame
    exact hcounter ▸ hsame.2.1 ▸ h.below old hmem
  · obtain ⟨old, hmem, hsame⟩ := exists_mem_of_bare_eq hbare hnode
    simp only [Node.bare, Node.mk.injEq] at hsame
    obtain ⟨-, hordinal, hschema, -, hbindings, -⟩ := hsame
    rw [Node.Bound, ← hordinal, ← hschema, ← hbindings]
    exact h.bound old hmem
  · exact hdeclares (h.sources edge (hedges ▸ hedge))
  · exact hdeclares (h.targets edge (hedges ▸ hedge))

theorem over_empty (id name : String) : (Document.empty id name).Over ids settings :=
  ⟨wellFormed_empty id name, fun _ hnode => absurd hnode List.not_mem_nil,
    fun _ hnode => absurd hnode List.not_mem_nil⟩

/-- A document has no other ids and values than a longer run. -/
theorem Over.mono (h : document.Over ids settings) (hids : ids ⊆ more)
    (hsettings : settings ⊆ further) : document.Over more further :=
  ⟨h.formed, fun node hnode => hids (h.ids node hnode),
    fun node hnode entry hentry => hsettings (h.values node hnode entry hentry)⟩

theorem Over.advance (h : document.Over ids settings) (next : UInt32) :
    (document.advance next).Over ids settings :=
  ⟨h.formed.advance next, h.ids, h.values⟩

theorem Over.of_bare_eq (h : other.Over ids settings) (hbare : document.bare = other.bare) :
    document.Over ids settings := by
  refine ⟨h.formed.of_bare_eq hbare, fun node hnode => ?_, fun node hnode => ?_⟩
  · obtain ⟨old, hmem, hsame⟩ := exists_mem_of_bare_eq hbare hnode
    simp only [Node.bare, Node.mk.injEq] at hsame
    exact hsame.1 ▸ h.ids old hmem
  · obtain ⟨old, hmem, hsame⟩ := exists_mem_of_bare_eq hbare hnode
    simp only [Node.bare, Node.mk.injEq] at hsame
    exact hsame.2.2.2.1 ▸ h.values old hmem

/-- A command adds the id that was made for it and the value that it sets. -/
theorem Over.edit {command : Session.Command} (h : before.Over ids settings)
    (heffect : command.Effect before after) (hfresh : ∀ id ∈ command.generated?, id ∉ ids)
    (hids : ids ⊆ more) (hsettings : settings ⊆ further)
    (hnew : ∀ id ∈ command.generated?, id ∈ more)
    (hset : ∀ setting ∈ command.setting?, setting ∈ further) : after.Over more further := by
  have hold := h.mono hids hsettings
  refine ⟨heffect.wellFormed h.formed fun id hid hmem => ?_, fun node hnode => ?_,
    fun node hnode entry hentry => ?_⟩
  · obtain ⟨node, hnode, rfl⟩ := List.mem_map.mp hmem
    exact hfresh _ hid (h.ids node hnode)
  · cases heffect.nodes node hnode with
    | kept hmem => exact hold.ids node hmem
    | created schema hid _ => exact hnew _ hid
    | @valued old _ _ hmem _ => exact hold.ids old hmem
    | @reassigned old schema hmem _ =>
      rw [Node.ensureBound_id]
      exact hold.ids old hmem
  · cases heffect.nodes node hnode with
    | kept hmem => exact hold.values node hmem entry hentry
    | created schema _ _ => exact absurd hentry List.not_mem_nil
    | @valued old name value hmem hcommand =>
      rcases mem_insertEntry hentry with rfl | hheld
      · exact hset _ (hcommand ▸ rfl)
      · exact hold.values old hmem entry hheld
    | @reassigned old schema hmem _ =>
      rw [Node.ensureBound_values] at hentry
      exact hold.values old hmem entry (List.mem_of_mem_filter hentry)

end Document

namespace Session

variable {session start : Session} {actions earlier later : List Action}

/-- All documents of a session have the ids and the values of a run. -/
def Traced (actions : List Action) (session : Session) : Prop :=
  ∀ document ∈ session.documents, document.Over (generatedIds actions) (settings actions)

/-- An action brings in no other ids and values than its own. -/
theorem Traced.act (h : session.Traced actions) (action : Action)
    (hfresh : (generatedIds (actions ++ [action])).Nodup) :
    (session.act action).Traced (actions ++ [action]) := by
  rw [generatedIds_append] at hfresh
  unfold Traced
  rw [generatedIds_append, settings_append]
  have hmoreIds : generatedIds actions ⊆ generatedIds actions ++ generatedIds [action] :=
    List.subset_append_left _ _
  have hmoreSettings : settings actions ⊆ settings actions ++ settings [action] :=
    List.subset_append_left _ _
  refine forall_documents_act
    (fun document hdocument => (h document hdocument).mono hmoreIds hmoreSettings) ?_
    (fun document hover => hover.advance _) fun hbare =>
      ((h _ List.mem_cons_self).mono hmoreIds hmoreSettings).of_bare_eq hbare
  rintro command rfl heffect
  have hid (id) (hid : id ∈ command.generated?) : id ∈ generatedIds [.command command] := by
    simp [generatedIds, Action.command?, Option.mem_def.mp hid]
  have hset (setting) (hsetting : setting ∈ command.setting?) :
      setting ∈ settings [.command command] := by
    simp [settings, Action.command?, Option.mem_def.mp hsetting]
  exact (h _ List.mem_cons_self).edit heffect
    (fun id hnew hold => List.disjoint_of_nodup_append hfresh hold (hid id hnew)) hmoreIds
    hmoreSettings (fun id hnew => List.mem_append_right _ (hid id hnew))
    fun setting hnew => List.mem_append_right _ (hset setting hnew)

/-- All documents of a run have the ids and the values of the run. -/
theorem traced_run {id name : String} {registry : Registry} {library : Answers} {config : Config}
    {encode : Encoder}
    (hstart : Session.start (.empty id name) registry library config encode = .ok start)
    (hfresh : (generatedIds actions).Nodup) : (start.run actions).Traced actions := by
  induction actions using List.reverseRecOn with
  | nil =>
    intro document hdocument
    have hempty : document ∈ [Document.empty id name] := documents_of_start_empty hstart ▸ hdocument
    rw [List.mem_singleton.mp hempty]
    exact Document.over_empty id name
  | append_singleton actions action ih =>
    have hbefore := hfresh
    rw [generatedIds_append] at hbefore
    rw [run_concat]
    exact (ih hbefore.of_append_left).act action hfresh

/-! ## What is remembered of the last pass -/

/-- Actions that are no passes leave alone what is remembered of the last pass, with the algorithms
and the library, or forget it. -/
theorem act_memory {action : Action} (hidle : session.propagator.inFlight = false)
    (haction : action ≠ .propagate) :
    (session.act action).propagator = .idle ∨
      (session.act action).propagator = session.propagator ∧
        (session.act action).registry = session.registry ∧
        (session.act action).library = session.library := by
  have hsame (hkeeps : action.keepsMemory = true) :
      (session.act action).propagator = session.propagator ∧
        (session.act action).registry = session.registry ∧
        (session.act action).library = session.library :=
    have hmemory := sameMemory_act hkeeps
    ⟨hmemory.propagator, hmemory.registry, hmemory.library⟩
  cases action with
  | propagate => exact absurd rfl haction
  | invalidate =>
    exact .inl (by simp [act, invalidate, Propagator.invalidate, hidle, Propagator.idle])
  | useLibrary library => exact .inl rfl
  | command _ | undo | redo | code | nodeCode _ | execute _ _ | clearExecution _ =>
    exact .inr (hsame rfl)

/-- Where nodes with one id are in both documents, they have the same schema and metadata. -/
def Unmoved (before after : Document) : Prop :=
  ∀ node ∈ after.nodes, ∀ old ∈ before.nodes, node.id = old.id →
    node.schema = old.schema ∧ node.metadata = old.metadata

/-- An action that keeps metadata moves no node that has an old id. -/
theorem Unmoved.act {before : Document} {action : Action}
    (h : Unmoved before session.document) (hkeeps : action.keepsMetadata = true)
    (haction : action ≠ .propagate)
    (hfresh : ∀ old ∈ before.nodes, old.id ∉ generatedIds [action]) :
    Unmoved before (session.act action).document := by
  generalize (session.act action).document = document, (session.act action).history = history,
    session.step_act action = hstep
  have hedited {command : Command} {document : Document} (haction : action = .command command)
      (heffect : command.Effect session.document document) : Unmoved before document := by
    subst haction
    intro node hnode old hold hid
    cases heffect.nodes node hnode with
    | kept hmem => exact h node hmem old hold hid
    | @created id schema hnew _ =>
      obtain rfl : id = old.id := hid
      exact absurd (by simp [generatedIds, Action.command?, hnew]) (hfresh old hold)
    | @valued current _ _ hmem _ => exact h current hmem old hold hid
    | reassigned schema hmem hassigns => simp [Action.keepsMetadata, hassigns] at hkeeps
  cases hstep with
  | still => exact h
  | edited haction heffect => exact hedited haction heffect
  | unkept haction heffect _ => exact hedited haction heffect
  | passed _ => exact h
  | restored hrecalls =>
    cases hrecalls <;> simp [Action.keepsMetadata] at hkeeps
  | found hpass _ => exact absurd hpass haction

/-- The last pass that the session remembers after a run, with what has happened since. -/
structure Remembers (start : Session) (actions earlier later : List Action) : Prop where
  /-- The run consists of what was before the pass, the pass, and what was later. -/
  split : actions = earlier ++ .propagate :: later
  /-- The pass was finished, or it found a cycle. -/
  ended : (∃ cycle, Propagator.walkOrder (start.run earlier).config.cyclePolicy
      (start.run earlier).document = .error (.cycle cycle)) ∨
    ∃ report, (start.run earlier).propagate.2 = .completed report
  /-- The fingerprint at the pass is remembered. -/
  last : (start.run actions).propagator.last = some (start.run earlier).document.fingerprint
  /-- The algorithms are the same. -/
  registry : (start.run actions).registry = (start.run earlier).registry
  /-- The library is the same. -/
  library : (start.run actions).library = (start.run earlier).library
  /-- The ids of the nodes at the pass were made in the run. -/
  known : ∀ old ∈ (start.run earlier).propagate.1.document.nodes, old.id ∈ generatedIds actions
  /-- If metadata was kept since, nodes hold what the pass wrote. -/
  kept : (∀ action ∈ later, action.keepsMetadata = true) →
    Unmoved (start.run earlier).propagate.1.document (start.run actions).document

/-- An action that leaves the memory alone leaves the pass that is remembered. -/
theorem Remembers.concat (h : Remembers start actions earlier later) {action : Action}
    (hpropagator : (start.run (actions ++ [action])).propagator = (start.run actions).propagator)
    (hregistry : (start.run (actions ++ [action])).registry = (start.run actions).registry)
    (hlibrary : (start.run (actions ++ [action])).library = (start.run actions).library)
    (hkept : action.keepsMetadata = true →
      Unmoved (start.run earlier).propagate.1.document (start.run actions).document →
      Unmoved (start.run earlier).propagate.1.document (start.run (actions ++ [action])).document) :
    Remembers start (actions ++ [action]) earlier (later ++ [action]) where
  split := by rw [h.split, List.append_assoc, List.cons_append]
  ended := h.ended
  last := by rw [hpropagator, h.last]
  registry := hregistry.trans h.registry
  library := hlibrary.trans h.library
  known := fun old hold => by
    rw [generatedIds_append]
    exact List.mem_append_left _ (h.known old hold)
  kept := fun hall => hkept (hall action (by simp))
    (h.kept fun other hother => hall other (List.mem_append_left _ hother))

/-- A pass that was not skipped is the one that is remembered. -/
theorem remembers_pass
    (htraced : (start.run (actions ++ [.propagate])).Traced (actions ++ [.propagate]))
    (hended : (∃ cycle, Propagator.walkOrder (start.run actions).config.cyclePolicy
        (start.run actions).document = .error (.cycle cycle)) ∨
      ∃ report, (start.run actions).propagate.2 = .completed report)
    (hlast : (start.run actions).propagate.1.propagator.last =
      some (start.run actions).document.fingerprint)
    (hregistry : (start.run actions).propagate.1.registry = (start.run actions).registry)
    (hlibrary : (start.run actions).propagate.1.library = (start.run actions).library) :
    Remembers start (actions ++ [.propagate]) actions [] := by
  rw [run_concat] at htraced
  have hover := htraced _ List.mem_cons_self
  refine ⟨rfl, hended, ?_, ?_, ?_, hover.ids, fun _ node hnode old hold hid => ?_⟩
  · rwa [run_concat]
  · rwa [run_concat]
  · rwa [run_concat]
  · rw [run_concat] at hnode
    obtain rfl := List.inj_on_of_nodup_map hover.formed.ids hnode hold hid
    exact ⟨rfl, rfl⟩

/-- Between actions no pass is under way, and a fingerprint that is remembered is that of a pass of
the run. -/
theorem remembers_run {id name : String} {registry : Registry} {library : Answers}
    {config : Config} {encode : Encoder}
    (hstart : Session.start (.empty id name) registry library config encode = .ok start)
    (hfresh : (generatedIds actions).Nodup) :
    (start.run actions).propagator.inFlight = false ∧
      ((start.run actions).propagator.last = none ∨
        ∃ earlier later, Remembers start actions earlier later) := by
  induction actions using List.reverseRecOn with
  | nil =>
    obtain ⟨-, -, hidle⟩ := eq_of_start_eq_ok hstart
    have hbegin : (start.run []).propagator = .idle := hidle
    rw [hbegin]
    exact ⟨rfl, .inl rfl⟩
  | append_singleton actions action ih =>
    have hboth := hfresh
    rw [generatedIds_append] at hboth
    obtain ⟨hidle, hmemory⟩ := ih hboth.of_append_left
    by_cases haction : action = .propagate
    · subst haction
      have htraced := traced_run hstart hfresh
      have hrun : start.run (actions ++ [.propagate]) = (start.run actions).propagate.1 :=
        run_concat start actions .propagate
      rcases (start.run actions).propagate_cases with
        ⟨events, hskipped, -⟩ | ⟨cycle, events, hcycle, hended⟩ | ⟨order, -, hdone⟩
      · rw [hskipped] at hrun
        rw [hrun]
        refine ⟨hidle, hmemory.imp_right ?_⟩
        rintro ⟨earlier, later, hremembers⟩
        refine ⟨earlier, later ++ [.propagate], hremembers.concat ?_ ?_ ?_ ?_⟩ <;> rw [hrun]
        · rfl
        · rfl
        · rfl
        · exact fun _ hunmoved => hunmoved
      · rw [hrun, hended]
        refine ⟨hidle, .inr ⟨actions, [], ?_⟩⟩
        refine remembers_pass htraced (.inl ⟨cycle, hcycle⟩) ?_ ?_ ?_ <;> rw [hended] <;> rfl
      · rw [hrun, hdone]
        refine ⟨rfl, .inr ⟨actions, [], ?_⟩⟩
        refine remembers_pass htraced (.inr ⟨_, by rw [hdone]⟩) ?_ ?_ ?_ <;> rw [hdone] <;> rfl
    · rw [run_concat]
      rcases act_memory hidle haction with hforgot | ⟨hpropagator, hregistry, hlibrary⟩
      · rw [hforgot]
        exact ⟨rfl, .inl rfl⟩
      · rw [hpropagator]
        refine ⟨hidle, hmemory.imp_right ?_⟩
        rintro ⟨earlier, later, hremembers⟩
        refine ⟨earlier, later ++ [action], hremembers.concat ?_ ?_ ?_ ?_⟩ <;> rw [run_concat]
        · exact hpropagator
        · exact hregistry
        · exact hlibrary
        · exact fun hkeeps hunmoved => hunmoved.act hkeeps haction fun old hold hnew =>
            List.disjoint_of_nodup_append hboth (hremembers.known old hold) hnew

/-! ## What another pass would find -/

/-- A pass over a document with the outlines that another had at its pass is finished, and with the
same schemas it finds nothing new exactly if every node holds what the other pass wrote. -/
theorem exists_again {before now : Session} {report : PassReport}
    (hids : before.document.nodeIds.Nodup) (hacyclic : before.document.graph.Acyclic)
    (hdone : before.propagate.2 = .completed report) (hidle : now.propagator.inFlight = false)
    (hregistry : now.registry = before.registry) (hlibrary : now.library = before.library)
    (hnodes : now.document.nodes.map Node.outline = before.document.nodes.map Node.outline)
    (hedges : now.document.edges.map Edge.route = before.document.edges.map Edge.route) :
    ∃ again, now.invalidate.propagate.2 = .completed again ∧
      (now.document.nodes.map Node.schema = before.document.nodes.map Node.schema →
        (again.updated = [] ↔ now.document.nodes.map Node.metadata =
          before.propagate.1.document.nodes.map Node.metadata)) := by
  have hsameIds := Document.nodeIds_eq_of_outlines_eq hnodes
  have hgraph := Document.graph_eq_of_outlines_eq hnodes hedges
  have hids' : now.document.nodeIds.Nodup := hsameIds ▸ hids
  have hacyclic' : now.document.graph.Acyclic := hgraph ▸ hacyclic
  obtain ⟨order, hsorted, hagain⟩ := exists_passAlong_of_invalidate hidle hids' hacyclic'
  refine ⟨(now.passAlong order).2, by rw [hagain], fun hschemas => ?_⟩
  obtain ⟨solution, hsolution, -, hupdated⟩ := exists_solves_passAlong hids' hsorted
  obtain ⟨order', horder', hpass⟩ := exists_passAlong_of_completed hdone
  obtain ⟨computed, hsolves, hdocument, -⟩ := exists_solves_passAlong hids
    (Propagation.sorted_of_walkOrder_eq_ok hids hacyclic horder')
  -- both passes solve the same equations
  rw [hregistry, hlibrary] at hsolution
  have hplan := Document.plan_eq_of_outlines_eq hnodes hedges hschemas
  have hsame := hsolution.get?_eq_of_plan_eq hsolves hplan hacyclic'
  have hholds : now.document.Holds solution ↔ now.document.Holds computed := by
    simp only [Document.Holds, hsame]
  have hwritten : before.propagate.1.document = before.document.withMetadata computed := by
    rw [hpass, hdocument]
  have hleft : before.propagate.1.document.Holds computed := by
    rw [hwritten]
    exact hsolves.holds_withMetadata
  have hleftIds : now.document.nodeIds = before.propagate.1.document.nodeIds := by
    rw [hsameIds, hwritten, Document.nodeIds_withMetadata]
  rw [hupdated, hholds, hleft.iff_metadata_eq hleftIds]

/-- A pass is skipped as unchanged only if it would begin on the fingerprint that is remembered. -/
theorem last_eq_of_unchanged {session : Session} (hidle : session.propagator.inFlight = false)
    (h : session.propagate.2 = .unchanged) :
    session.propagator.last = some session.document.fingerprint := by
  rcases session.propagate_cases with
    ⟨events, hkept, ⟨hbusy, -⟩ | ⟨hlast, -⟩ | ⟨overdraw, -, hbroken⟩⟩ |
      ⟨cycle, events, -, hcycle⟩ | ⟨order, -, hdone⟩
  · rw [hidle] at hbusy
    contradiction
  · exact hlast
  · rw [hbroken] at h
    contradiction
  · rw [hcycle] at h
    contradiction
  · rw [hdone] at h
    contradiction

/-- On a document without cycles the pass that is remembered was finished. -/
theorem Remembers.completed {earlier later : List Action}
    (h : Remembers start actions earlier later)
    (hids : (start.run earlier).document.nodeIds.Nodup)
    (hacyclic : (start.run earlier).document.graph.Acyclic) :
    ∃ report, (start.run earlier).propagate.2 = .completed report := by
  rcases h.ended with ⟨cycle, hcycle⟩ | hdone
  · obtain ⟨order, horder⟩ := exists_walkOrder hids hacyclic
      (start.run earlier).config.cyclePolicy
    rw [hcycle] at horder
    contradiction
  · exact hdone

/-- The document at the pass that is remembered has the ids and values of the whole run. -/
theorem Remembers.over {id name : String} {registry : Registry} {library : Answers}
    {config : Config} {encode : Encoder} {earlier later : List Action}
    (h : Remembers start actions earlier later)
    (hstart : Session.start (.empty id name) registry library config encode = .ok start)
    (hfresh : (generatedIds actions).Nodup) :
    (start.run earlier).document.Over (generatedIds actions) (settings actions) := by
  rw [h.split, generatedIds_append] at hfresh
  rw [h.split, generatedIds_append, settings_append]
  exact (traced_run hstart hfresh.of_append_left _ List.mem_cons_self).mono
    (List.subset_append_left _ _) (List.subset_append_left _ _)

/-- If a pass is skipped in a run that begins with an empty document, the document has the nodes,
values and edges that an earlier pass left. Another pass would be finished. With the same schemas it
would find nothing new exactly if every node holds what it held then, and it would find nothing new
if no schema was assigned and the history was not used since. -/
theorem propagate_unchanged_iff_unmoved {id name : String} {registry : Registry}
    {library : Answers} {config : Config} {encode : Encoder}
    (hstart : Session.start (.empty id name) registry library config encode = .ok start)
    (hfresh : (generatedIds actions).Nodup)
    (hlegible : Legible (generatedIds actions) (settings actions))
    (hskipped : (start.run actions).propagate.2 = .unchanged)
    (hacyclic : (start.run actions).document.graph.Acyclic) :
    ∃ earlier later report again, actions = earlier ++ .propagate :: later ∧
      (start.run earlier).propagate.2 = .completed report ∧
      (start.run actions).invalidate.propagate.2 = .completed again ∧
      let now := (start.run actions).document
      let left := (start.run earlier).propagate.1.document
      now.nodes.map Node.outline = left.nodes.map Node.outline ∧
        now.edges.map Edge.route = left.edges.map Edge.route ∧
        (now.nodes.map Node.schema = left.nodes.map Node.schema →
          (again.updated = [] ↔ now.nodes.map Node.metadata = left.nodes.map Node.metadata)) ∧
        ((∀ action ∈ later, action.keepsMetadata = true) → again.updated = []) := by
  obtain ⟨hidle, hmemory⟩ := remembers_run hstart hfresh
  have hlast := last_eq_of_unchanged hidle hskipped
  rcases hmemory with hnone | ⟨earlier, later, hremembers⟩
  · rw [hnone] at hlast
    contradiction
  have hnow := traced_run hstart hfresh _ List.mem_cons_self
  have hthen := hremembers.over hstart hfresh
  -- the fingerprints agree, so the documents do up to their schemas
  obtain ⟨hnodes, hedges⟩ := hnow.read_eq hlegible hthen
    (Option.some.inj (hlast.symm.trans hremembers.last))
  have hacyclic' : (start.run earlier).document.graph.Acyclic :=
    Document.graph_eq_of_outlines_eq hnodes hedges ▸ hacyclic
  obtain ⟨report, hdone⟩ := hremembers.completed hthen.formed.ids hacyclic'
  obtain ⟨again, hagain, hfound⟩ := exists_again hthen.formed.ids hacyclic' hdone hidle
    hremembers.registry hremembers.library hnodes hedges
  have hbare := (start.run earlier).bare_propagate
  have hleftNodes := Document.map_nodes_eq_of_bare_eq hbare Node.outline fun _ => rfl
  have hleftSchemas := Document.map_nodes_eq_of_bare_eq hbare Node.schema fun _ => rfl
  have hleftEdges : (start.run earlier).propagate.1.document.edges =
      (start.run earlier).document.edges := (congrArg Document.edges hbare :)
  refine ⟨earlier, later, report, again, hremembers.split, hdone, hagain,
    hnodes.trans hleftNodes.symm, hleftEdges ▸ hedges,
    fun hschemas => hfound (hschemas.trans hleftSchemas), fun hkeeps => ?_⟩
  have hunmoved := hremembers.kept hkeeps
  have hids := Document.nodeIds_eq_of_outlines_eq (hnodes.trans hleftNodes.symm)
  have hschemas := map_eq_map_of_keys hids fun node hnode old hold hid =>
    (hunmoved node hnode old hold hid).1
  have hmetadata := map_eq_map_of_keys hids fun node hnode old hold hid =>
    (hunmoved node hnode old hold hid).2
  exact (hfound (hschemas.trans hleftSchemas)).mpr hmetadata

/-- Two nodes with an edge, a pass, and edits that are taken back by further edits. -/
def sampleReturn : List Action :=
  [.command (.addNode "a" "copy"), .command (.addNode "b" "copy"),
    .command (.setValue "b" "rows" (.int 1)), .command (.connect ⟨"e", "a", "out", "b", "in"⟩),
    .propagate, .command (.setValue "b" "rows" (.int 2)), .command (.addNode "c" "copy"),
    .command (.delete "c"), .code, .command (.setValue "b" "rows" (.int 1))]

/-- The fingerprints of the sample run can be read in one way only. -/
theorem legible_sampleReturn : Legible (generatedIds sampleReturn) (settings sampleReturn) := by
  have hids : generatedIds sampleReturn = ["a", "b", "c"] := by rfl
  have hsettings : settings sampleReturn =
      [("rows", .int 1), ("rows", .int 2), ("rows", .int 1)] := by rfl
  have htexts : (Json.int 1).compact ≠ (Json.int 2).compact := by decide
  rw [hids, hsettings]
  refine ⟨by simp, ?_⟩
  simp [htexts, htexts.symm]

/-- After the sample edits a pass is skipped, and it would find nothing new. -/
theorem propagate_unchanged_iff_unmoved_sampleReturn :
    Session.start (.empty "p" "Pipeline") sampleStart.registry sampleStart.library
        sampleStart.config .total = .ok sampleStart ∧
      (generatedIds sampleReturn).Nodup ∧
      Legible (generatedIds sampleReturn) (settings sampleReturn) ∧
      (sampleStart.run sampleReturn).propagate.2 = .unchanged ∧
      (sampleStart.run sampleReturn).document.graph.Acyclic ∧
      ∃ again, (sampleStart.run sampleReturn).invalidate.propagate.2 = .completed again ∧
        again.updated = [] := by
  have hfresh : (generatedIds sampleReturn).Nodup := by decide
  have hskipped : (sampleStart.run sampleReturn).propagate.2 = .unchanged := by rfl
  have hacyclic : (sampleStart.run sampleReturn).document.graph.Acyclic := by
    have hids : (sampleStart.run sampleReturn).document.nodeIds.Nodup := by decide
    have horder : (sampleStart.run sampleReturn).document.graph.queueOrder = .ok ["a", "b"] := by
      rfl
    exact (Graph.sorted_of_queueOrder_eq_ok hids horder).acyclic
  have hkeeps : ∀ action ∈ sampleReturn, action.keepsMetadata = true := by
    simp [sampleReturn, Action.keepsMetadata, Command.assigns]
  obtain ⟨earlier, later, report, again, hsplit, -, hagain, -, -, -, hfound⟩ :=
    propagate_unchanged_iff_unmoved start_sampleStart hfresh legible_sampleReturn hskipped hacyclic
  refine ⟨start_sampleStart, hfresh, legible_sampleReturn, hskipped, hacyclic, again, hagain,
    hfound fun action haction => hkeeps action ?_⟩
  rw [hsplit]
  exact List.mem_append_right _ (List.mem_cons_of_mem _ haction)

/-- A session on an empty document with one algorithm, whose ports have numbers for names. -/
def samplePlain : Session :=
  { sampleStart with
    registry := ⟨Dictionary.empty.insert "show"
      ⟨{ (sampleNode "" "show" .sink).schema with
          inputs := [Port.optional "2" "frame"]
          outputs := [Port.optional "1" "frame"] }, .sink⟩⟩ }

/-- A node is given the algorithm that it has. -/
def sampleReassigned : List Action :=
  [.command (.addNode "a" "show"), .propagate, .command (.assign "a" "show")]

/-- A node is added and deleted, and both is taken back after a pass. -/
def sampleUndone : List Action :=
  [.command (.addNode "a" "show"), .command (.addNode "b" "show"), .command (.delete "b"),
    .propagate, .undo, .undo]

/-- An edge is replaced by values with the ids of nodes for names. -/
def sampleConfused : List Action :=
  [.command (.addNode "a" "show"), .command (.addNode "b" "show"),
    .command (.connect ⟨"e", "a", "1", "b", "2"⟩), .propagate, .command (.disconnect "e"),
    .command (.setValue "b" "a" (.int 1)), .command (.setValue "b" "b" (.int 2))]

/-- A pass is skipped over documents that are out of date: after a schema was assigned, after the
history was used, and where a fingerprint can be read in two ways. -/
theorem propagate_unchanged_outdated :
    Session.start (.empty "p" "Pipeline") samplePlain.registry samplePlain.library
        samplePlain.config .total = .ok samplePlain ∧
      ((samplePlain.run sampleReassigned).document.graph.Acyclic ∧
        (samplePlain.run sampleReassigned).propagate.2 = .unchanged ∧
        (samplePlain.run sampleReassigned).invalidate.propagate.2 = .completed ⟨["a"], [], []⟩) ∧
      ((samplePlain.run sampleUndone).document.graph.Acyclic ∧
        (samplePlain.run sampleUndone).propagate.2 = .unchanged ∧
        (samplePlain.run sampleUndone).invalidate.propagate.2 = .completed ⟨["a"], [], []⟩) ∧
      (samplePlain.run sampleConfused).document.graph.Acyclic ∧
        (samplePlain.run sampleConfused).propagate.2 = .unchanged ∧
        (samplePlain.run sampleConfused).invalidate.propagate.2 = .completed ⟨["b"], [], []⟩ := by
  have hacyclic {document : Document} {order : List String} (hids : document.nodeIds.Nodup)
      (horder : document.graph.queueOrder = .ok order) : document.graph.Acyclic :=
    (Graph.sorted_of_queueOrder_eq_ok hids horder).acyclic
  have hreassigned : (samplePlain.run sampleReassigned).document.graph.queueOrder = .ok ["a"] := by
    rfl
  have hundone : (samplePlain.run sampleUndone).document.graph.queueOrder = .ok ["a"] := by rfl
  have hconfused : (samplePlain.run sampleConfused).document.graph.queueOrder = .ok ["a", "b"] := by
    rfl
  exact ⟨rfl, ⟨hacyclic (by decide) hreassigned, by rfl, by rfl⟩,
    ⟨hacyclic (by decide) hundone, by rfl, by rfl⟩, hacyclic (by decide) hconfused, by rfl, by rfl⟩

end Session

end Dataflow
