import Dataflow.Proofs.Listing
import Dataflow.Status

/-!
# Readiness

The status of a node asks for an edge from an existing node into each required input. The code of a
node asks for a variable in each input. In a well-formed document every edge leaves a node that has
a variable for it, so both questions have the same answer. A required input then stands for the
variable of its producer or for nothing, and a node is configured exactly if its code has something
for each required input.
-/

namespace Dataflow

namespace Document

variable {document : Document}

/-- Every edge leaves a node that has a variable for it. -/
theorem WellFormed.exists_variableOf? (h : document.WellFormed) {edge : Edge}
    (hedge : edge ∈ document.edges) :
    ∃ name, document.variableOf? edge.source edge.sourcePort = some name := by
  obtain ⟨source, hsource, hid, hport⟩ := h.sources edge hedge
  obtain ⟨binding, -, -, hbound⟩ := (h.bound source hsource).exists_binding? hport
  refine ⟨binding.name, ?_⟩
  rw [variableOf?, ← hid, node?_eq_some_of_mem h.ids hsource, Option.bind_some, hbound]

/-- What enters an input is the variable of the output that its edge leaves. -/
theorem WellFormed.get?_enteringVariables (h : document.WellFormed) (id port : String) :
    (document.enteringVariables id).get? port = (document.edgeInto? id port).bind fun edge =>
      document.variableOf? edge.source edge.sourcePort := by
  cases hinto : document.edgeInto? id port with
  | some edge =>
    have hedge : edge ∈ document.edges := List.mem_of_find?_eq_some hinto
    obtain ⟨rfl, rfl⟩ : edge.target = id ∧ edge.targetPort = port := by
      simpa using List.find?_some hinto
    obtain ⟨name, hname⟩ := h.exists_variableOf? hedge
    rw [h.enteringVariables_eq hedge hname, Option.bind_some, hname]
  | none =>
    refine Dictionary.get?_ofList_eq_none ?_
    intro hmem
    obtain ⟨entry, hentry, hkey⟩ := List.mem_map.mp hmem
    obtain ⟨edge, hincoming, hvalue⟩ := List.mem_filterMap.mp hentry
    obtain ⟨hedge, htarget⟩ := List.mem_filter.mp hincoming
    obtain ⟨name, -, rfl⟩ := Option.map_eq_some_iff.mp hvalue
    have hother := List.find?_eq_none.mp hinto edge hedge
    exact hother (Bool.and_eq_true_iff.mpr ⟨htarget, by simpa using hkey⟩)

/-- An edge that enters an input feeds it, as its source exists. -/
theorem WellFormed.feeds_eq (h : document.WellFormed) (id port : String) :
    document.feeds id port = (document.edgeInto? id port).isSome := by
  rw [feeds]
  cases hinto : document.edgeInto? id port with
  | none => rfl
  | some edge =>
    have hsource : document.contains edge.source = true :=
      (contains_iff _ _).mpr (h.leads (List.mem_of_find?_eq_some hinto)).2.1
    rw [Option.any_some, hsource, Option.isSome_some]

/-- An input has an edge from an existing node exactly if a variable enters it. -/
theorem WellFormed.feeds_eq_contains (h : document.WellFormed) (id port : String) :
    document.feeds id port = (document.enteringVariables id).contains port := by
  rw [h.feeds_eq, Dictionary.contains, h.get?_enteringVariables]
  cases hinto : document.edgeInto? id port with
  | none => rfl
  | some edge =>
    obtain ⟨name, hname⟩ := h.exists_variableOf? (List.mem_of_find?_eq_some hinto)
    rw [Option.bind_some, hname]
    rfl

/-- A node with an algorithm is configured if all required inputs are fed. -/
theorem structuralStatus_eq_configured_iff {node : Node}
    (hcategory : node.schema.category ≠ .free) :
    document.structuralStatus node = .configured ↔
      ∀ port ∈ node.schema.requiredInputs, document.feeds node.id port.name = true := by
  rw [structuralStatus, if_neg hcategory, ← List.all_eq_true]
  cases node.schema.requiredInputs.all fun port => document.feeds node.id port.name <;> simp

end Document

namespace Node

variable {node : Node} {port : Port}

/-- Every parameter with the name of a required input takes its value from that input. -/
def YieldsInputs (node : Node) : Prop :=
  ∀ port ∈ node.schema.requiredInputs, ∀ parameter ∈ node.schema.parameters,
    parameter.name = port.name → parameter.role = .input

/-- An input takes its value from its edge if no parameter with its name says otherwise. -/
theorem roleOf_of_mem_inputNames {name : String} (hdeclared : name ∈ node.schema.inputNames)
    (hparameters : ∀ parameter ∈ node.schema.parameters, parameter.name = name →
      parameter.role = .input) :
    node.roleOf name = .input := by
  unfold roleOf
  split
  · next parameter hfound =>
    have hname : parameter.name = name := by simpa using List.find?_some hfound
    exact hparameters parameter (List.mem_of_find?_eq_some hfound) hname
  · rw [if_pos ((Schema.isSome_input?_iff _ _).mpr hdeclared)]

/-- The name of a required input takes its value from that input. -/
theorem YieldsInputs.roleOf_eq (h : node.YieldsInputs) (hport : port ∈ node.schema.requiredInputs) :
    node.roleOf port.name = .input :=
  roleOf_of_mem_inputNames (List.mem_map_of_mem (List.mem_filter.mp hport).1) (h port hport)

/-- With different names, a required input is the one that is found by its name. -/
theorem needsInput_of_mem (hnames : node.schema.inputNames.Nodup)
    (hport : port ∈ node.schema.requiredInputs) : node.needsInput port.name = true := by
  obtain ⟨hmem, hrequired⟩ := List.mem_filter.mp hport
  have hsome := (Schema.isSome_input?_iff node.schema port.name).mpr (List.mem_map_of_mem hmem)
  obtain ⟨found, hfound⟩ := Option.isSome_iff_exists.mp hsome
  have hsame : found = port :=
    List.inj_on_of_nodup_map hnames (List.mem_of_find?_eq_some hfound) hmem
      (by simpa using List.find?_some hfound)
  rw [needsInput, hfound, Option.any_some, hsame, hrequired]

/-- A required input stands for the variable that enters it, or for nothing. What the node holds
under its name is not looked at. -/
theorem YieldsInputs.resolve_eq (h : node.YieldsInputs) (hnames : node.schema.inputNames.Nodup)
    (hport : port ∈ node.schema.requiredInputs) (entering : Dictionary String) (values : Values) :
    { node with values }.resolve entering port.name =
      Json.ofOption .string (entering.get? port.name) := by
  have hrole : { node with values }.roleOf port.name = .input := h.roleOf_eq hport
  have hneeds : { node with values }.needsInput port.name = true := needsInput_of_mem hnames hport
  rw [resolve, hrole]
  cases entering.get? port.name with
  | some name => rfl
  | none => simp only [hneeds, ite_true]; rfl

end Node

namespace Document

variable {document : Document} {node : Node}

/-- In a well-formed document an input is fed if a variable enters it. -/
theorem WellFormed.configured_iff (h : document.WellFormed)
    (hcategory : node.schema.category ≠ .free) :
    document.structuralStatus node = .configured ↔ ∀ port ∈ node.schema.requiredInputs,
      (document.enteringVariables node.id).contains port.name = true := by
  simp only [structuralStatus_eq_configured_iff hcategory, h.feeds_eq_contains]

/-- In a document that comes from an empty one by edits, a node with an algorithm is configured
exactly if a variable enters each of its required inputs. If these are told apart by their names and
no parameter takes another value for them, each stands for the variable of its producer or, without
one, for nothing, whatever the node holds under its name, and the node is configured exactly if none
stands for nothing. -/
theorem Reachable.configured_iff_resolved (h : Reachable document)
    (hcategory : node.schema.category ≠ .free) :
    (document.structuralStatus node = .configured ↔ ∀ port ∈ node.schema.requiredInputs,
      (document.enteringVariables node.id).contains port.name = true) ∧
    (node.schema.inputNames.Nodup → node.YieldsInputs →
      (∀ port ∈ node.schema.requiredInputs, ∀ values,
        match document.edgeInto? node.id port.name with
        | none => { node with values }.resolve (document.enteringVariables node.id) port.name =
            .null
        | some edge => ∃ name, document.variableOf? edge.source edge.sourcePort = some name ∧
          { node with values }.resolve (document.enteringVariables node.id) port.name =
            .string name) ∧
      (document.structuralStatus node = .configured ↔ ∀ port ∈ node.schema.requiredInputs,
        node.resolve (document.enteringVariables node.id) port.name ≠ .null)) := by
  have hformed := h.wellFormed
  refine ⟨hformed.configured_iff hcategory, fun hnames hyields => ⟨fun port hport values => ?_, ?_⟩⟩
  · rw [hyields.resolve_eq hnames hport, hformed.get?_enteringVariables]
    cases hinto : document.edgeInto? node.id port.name with
    | none => rfl
    | some edge =>
      obtain ⟨name, hname⟩ := hformed.exists_variableOf? (List.mem_of_find?_eq_some hinto)
      exact ⟨name, hname, by rw [Option.bind_some, hname]; rfl⟩
  · rw [hformed.configured_iff hcategory]
    refine forall₂_congr fun port hport => ?_
    rw [hyields.resolve_eq hnames hport _ node.values, Dictionary.contains]
    cases (document.enteringVariables node.id).get? port.name <;> simp [Json.ofOption]

/-- A schema with an algorithm, one required input and one that is not, the first of which is also a
parameter. -/
def sampleStepSchema : Schema :=
  { sampleSchema ["out"] with
    category := .transform
    inputs := [Port.needed "data" "frame", Port.optional "extra" "frame"]
    parameters := [⟨"data", "frame", .string "fallback", .input, none⟩] }

/-- Edits that connect the second of two nodes and give both a value for the required input. -/
def sampleStepEdits : List Edit :=
  [.insert "a" sampleStepSchema, .insert "b" sampleStepSchema,
    .connect ⟨"1", "a", "out", "b", "data"⟩, .setValue "a" "data" (.string "n09_old"),
    .setValue "b" "data" (.string "n09_old")]

/-- A document after those edits. -/
def sampleSteps : Document := sampleStepEdits.foldl Document.after (.empty "p" "Pipeline")

theorem reachable_sampleSteps : Reachable sampleSteps :=
  Reachable.run (.empty "p" "Pipeline") (by decide)

/-- A value does not stand in for an input: only the connected node is configured. -/
theorem configured_iff_resolved_sampleSteps :
    Reachable sampleSteps ∧
      sampleSteps.nodes.map sampleSteps.structuralStatus = [.unconfigured, .configured] ∧
      ∀ node ∈ sampleSteps.nodes, node.schema.category ≠ .free ∧ node.schema.inputNames.Nodup ∧
        node.YieldsInputs ∧ (sampleSteps.structuralStatus node = .configured ↔
          ∀ port ∈ node.schema.requiredInputs,
            node.resolve (sampleSteps.enteringVariables node.id) port.name ≠ .null) := by
  refine ⟨reachable_sampleSteps, by rfl, fun node hnode => ?_⟩
  have hschemas : sampleSteps.nodes.map Node.schema = [sampleStepSchema, sampleStepSchema] := by rfl
  have hschema : node.schema = sampleStepSchema := by
    have hmem := List.mem_map_of_mem (f := Node.schema) hnode
    rw [hschemas] at hmem
    simpa using hmem
  have hcategory : node.schema.category ≠ .free := by
    rw [hschema]
    decide
  have hnames : node.schema.inputNames.Nodup := by
    rw [hschema]
    decide
  have hyields : node.YieldsInputs := by
    intro port _ parameter hparameter _
    rw [hschema] at hparameter
    obtain rfl := List.mem_singleton.mp hparameter
    rfl
  exact ⟨hcategory, hnames, hyields,
    ((reachable_sampleSteps.configured_iff_resolved hcategory).2 hnames hyields).2⟩

end Document

end Dataflow
