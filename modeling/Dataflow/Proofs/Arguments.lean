import Dataflow.Proofs.FilePaths
import Dataflow.Proofs.Readiness
import Dataflow.Proofs.Templates

/-!
# Arguments of calls

A call has an argument for each input of its node. What a connected input stands for is the variable
of the output that its edge leaves, and as an identifier it is written bare. The exception is an
input with the name of the file parameter: its variable is taken for the path of a data set, put
under the folder of data sets and quoted, so the call gets a text in place of the data.
-/

namespace Dataflow

open Listing

namespace Node

variable {node : Node} {layout : Layout} {entering : Dictionary String} {name variableName : String}

/-- A connected input is written as its variable, unless it has the name of the file parameter. -/
theorem literal_of_entering (hrole : node.roleOf name = .input)
    (hentering : entering.get? name = some variableName)
    (hidentifier : Text.isIdentifier variableName = true) :
    node.literal layout entering name =
      if name = Literal.fileParameter then Literal.filePath variableName layout.rootDir
      else variableName.toList := by
  have hresolve : node.resolve entering name = .string variableName := by
    rw [resolve, hrole, hentering]
  have hsome : variableName.toList ≠ [] := by
    intro hnil
    rw [Text.isIdentifier, hnil] at hidentifier
    contradiction
  rw [literal, hresolve, Literal.parameter, Literal.value, if_pos hidentifier]
  by_cases hfile : name = Literal.fileParameter <;> simp [hfile, hsome]

end Node

/-- A quote stands in no identifier. -/
theorem Literal.filePath_ne_toList {name : String} (h : Text.isIdentifier name = true)
    (path : String) (root : Option String) : filePath path root ≠ name.toList := by
  intro heq
  have hquote : '\'' ∈ name.toList := heq ▸ List.mem_cons_self
  exact absurd (Text.isWordChar_of_isIdentifier h hquote) (by decide)

namespace Document

variable {document : Document}

/-- In a document that comes from an empty one by edits, every edge into a call gives its input an
argument: the bare variable of the output that the edge leaves, or, if the input has the name of the
file parameter, the quoted path of a data set with the name of that variable, which is never the
bare variable. -/
theorem Reachable.shows_connected (h : document.Reachable) {edge : Edge}
    (hedge : edge ∈ document.edges) {node : Node} (hnode : document.node? edge.target = some node)
    {function : String} (hcall : node.schema.template = .call function)
    (hroles : ∀ parameter ∈ node.schema.parameters, parameter.name = edge.targetPort →
      parameter.role = .input) (layout : Layout) :
    ∃ source name, document.node? edge.source = some source ∧
      source.binding? edge.sourcePort = some name ∧ Text.isIdentifier name = true ∧
      document.nodeCode layout edge.target = .ok (String.ofList
        (nodeText node layout (document.enteringVariables edge.target))) ∧
      node.Shows layout (document.enteringVariables edge.target) edge.targetPort
        (if edge.targetPort = Literal.fileParameter then Literal.filePath name layout.rootDir
        else name.toList) ∧
      Literal.filePath name layout.rootDir ≠ name.toList := by
  have hwell := h.wellFormed
  obtain ⟨name, hvariable⟩ := hwell.exists_variableOf? hedge
  obtain ⟨source, hsource, hbound⟩ := Option.bind_eq_some_iff.mp hvariable
  obtain ⟨target, htarget, hid, hport⟩ := hwell.targets edge hedge
  obtain rfl : target = node := by
    have hfound := node?_eq_some_of_mem hwell.ids htarget
    rw [hid, hnode] at hfound
    exact (Option.some.inj hfound).symm
  have hidentifier : Text.isIdentifier name = true := by
    obtain ⟨binding, hbinding, rfl⟩ := Option.map_eq_some_iff.mp hbound
    exact (hwell.isNameOf (mem_of_node?_eq_some hsource)
      (List.mem_of_find?_eq_some hbinding)).isIdentifier
  have hliteral := @Node.literal_of_entering target layout _ _ _
    (Node.roleOf_of_mem_inputNames hport hroles) (hwell.enteringVariables_eq hedge hvariable)
    hidentifier
  have hshows := @Node.shows_literal target layout (document.enteringVariables edge.target) _ _
    hcall (List.mem_append_left _ hport)
  rw [hliteral] at hshows
  refine ⟨source, name, hsource, hbound, hidentifier, ?_, hshows,
    Literal.filePath_ne_toList hidentifier name layout.rootDir⟩
  rw [nodeCode, Document.node, hnode]

/-- A call with two inputs, one of which has the name of the file parameter. -/
def sampleShow : Schema :=
  { sampleSchema [] with
    inputs := [Port.optional "data" "frame", Port.optional "filepath" "frame"]
    template := .call "show" }

/-- One output that is connected to both inputs of such a call. -/
def sampleShown : Document :=
  let edits : List Edit :=
    [.insert "a" (sampleSchema ["out"]), .insert "b" sampleShow,
      .connect ⟨"1", "a", "out", "b", "data"⟩, .connect ⟨"2", "a", "out", "b", "filepath"⟩]
  edits.foldl Document.after (.empty "p" "Pipeline")

theorem reachable_sampleShown : Reachable sampleShown :=
  Reachable.run (.empty "p" "Pipeline") (by decide)

/-- The variable stands as it is at one port of the sample, and as a path at the port of files. -/
theorem shows_connected_sampleShown :
    let node := Node.create "b" 2 sampleShow
    let layout : Layout := ⟨some "/srv", [], false⟩
    let entering := sampleShown.enteringVariables "b"
    Reachable sampleShown ∧
      sampleShown.edges = [⟨"1", "a", "out", "b", "data"⟩, ⟨"2", "a", "out", "b", "filepath"⟩] ∧
      sampleShown.node? "b" = some node ∧ node.schema.template = .call "show" ∧
      node.schema.parameters = [] ∧ sampleShown.variableOf? "a" "out" = some "n01_out" ∧
      sampleShown.nodeCode layout "b" =
        .ok "n02_result = show(data=n01_out, filepath='/srv/dataset/n01_out')" ∧
      node.Shows layout entering "data" "n01_out".toList ∧
      node.Shows layout entering "filepath" "'/srv/dataset/n01_out'".toList := by
  intro node layout entering
  have hvariable : sampleShown.variableOf? "a" "out" = some "n01_out" := by rfl
  have hshows {edge : Edge} (hedge : edge ∈ sampleShown.edges) (htarget : edge.target = "b")
      (hsource : sampleShown.variableOf? edge.source edge.sourcePort = some "n01_out") :
      node.Shows layout entering edge.targetPort
        (if edge.targetPort = Literal.fileParameter then Literal.filePath "n01_out" (some "/srv")
        else "n01_out".toList) := by
    obtain ⟨source, name, hnode, hbound, -, -, hshown, -⟩ :=
      reachable_sampleShown.shows_connected hedge (by rw [htarget]; rfl : _ = some node) rfl
        (fun _ hparameter => absurd hparameter List.not_mem_nil) layout
    rw [variableOf?, hnode, Option.bind_some, hbound] at hsource
    obtain rfl := Option.some.inj hsource
    rwa [htarget] at hshown
  have hedges : sampleShown.edges =
      [⟨"1", "a", "out", "b", "data"⟩, ⟨"2", "a", "out", "b", "filepath"⟩] := by rfl
  refine ⟨reachable_sampleShown, hedges, by rfl, rfl, rfl, hvariable, by rfl, ?_, ?_⟩
  · exact hshows (hedges ▸ List.mem_cons_self) rfl hvariable
  · exact hshows (hedges ▸ List.mem_cons_of_mem _ List.mem_cons_self) rfl hvariable

/-- The variable of an output that is connected to an input with the name of the file parameter
does not stand bare in the call. -/
theorem not_shows_variable_sampleShown :
    let node := Node.create "b" 2 sampleShow
    let layout : Layout := ⟨none, [], false⟩
    Reachable sampleShown ∧ ⟨"2", "a", "out", "b", "filepath"⟩ ∈ sampleShown.edges ∧
      sampleShown.node? "b" = some node ∧ node.schema.template = .call "show" ∧
      node.schema.parameters = [] ∧ sampleShown.variableOf? "a" "out" = some "n01_out" ∧
      sampleShown.nodeCode layout "b" =
        .ok "n02_result = show(data=n01_out, filepath='dataset/n01_out')" ∧
      ¬node.Shows layout (sampleShown.enteringVariables "b") "filepath" "n01_out".toList := by
  intro node layout
  refine ⟨reachable_sampleShown, by decide, by rfl, rfl, rfl, by rfl, by rfl, fun hshows => ?_⟩
  obtain ⟨rest, hrest⟩ := hshows.2 ["data"] [] rfl
  have hstarts : _ <+: nodeText node layout (sampleShown.enteringVariables "b") :=
    ⟨rest, hrest.symm⟩
  exact absurd hstarts (by decide)

end Document

end Dataflow
