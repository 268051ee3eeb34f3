import Dataflow.Listing
import Dataflow.Proofs.Dictionary
import Dataflow.Proofs.Editing
import Dataflow.Proofs.QueueOrder

/-!
# Variables in listings

A listing reads a variable through an edge and sets it in the code of the node that the edge leaves.
The code of a call sets the variables of its own node only, at the start of a line each, and the
code of the source stands before that of the target. So the calls of a listing read no variable that
is not set, and none that another call sets.
-/

namespace Dataflow

/-- The end of a line stands in no identifier. -/
theorem Text.newline_not_mem_of_isIdentifier {text : String} (h : Text.isIdentifier text = true) :
    '\n' ∉ text.toList := fun hmem =>
  absurd (Text.isWordChar_of_isIdentifier h hmem) (by decide)

namespace Listing

/-- How a text begins, up to the end of its first line, a line of it begins. -/
theorem exists_line_of_prefix {start text : List Char} (hstart : start <+: text)
    (hbreak : '\n' ∉ start) : ∃ line ∈ text.splitOn '\n', start <+: line := by
  obtain ⟨rest, rfl⟩ := hstart
  by_cases hrest : '\n' ∈ rest
  · obtain ⟨before, after, rfl, hbefore⟩ := List.eq_append_cons_of_mem hrest
    refine ⟨start ++ before, ?_, List.prefix_append _ _⟩
    rw [← List.append_assoc, List.splitOn_append_cons_self_of_not_mem (by simp [hbreak, hbefore])]
    exact List.mem_cons_self
  · refine ⟨start ++ rest, ?_, List.prefix_append _ _⟩
    rw [List.splitOn_eq_singleton (by simp [hbreak, hrest])]
    exact List.mem_cons_self

/-- Each of several texts put below each other begins a line. -/
theorem exists_line_of_mem {texts : List (List Char)} {start text : List Char} (hmem : text ∈ texts)
    (hstart : start <+: text) (hbreak : '\n' ∉ start) :
    ∃ line ∈ (['\n'].intercalate texts).splitOn '\n', start <+: line := by
  induction texts with
  | nil => exact absurd hmem List.not_mem_nil
  | cons first rest ih =>
    cases rest with
    | nil =>
      obtain rfl := List.mem_singleton.mp hmem
      rw [List.intercalate_singleton]
      exact exists_line_of_prefix hstart hbreak
    | cons second others =>
      rw [List.intercalate_cons_cons, List.append_assoc, List.singleton_append,
        List.splitOn_append_cons_self]
      rcases List.mem_cons.mp hmem with rfl | hmem
      · obtain ⟨line, hline, hprefix⟩ := exists_line_of_prefix hstart hbreak
        exact ⟨line, List.mem_append_left _ hline, hprefix⟩
      · obtain ⟨line, hline, hprefix⟩ := ih hmem
        exact ⟨line, List.mem_append_right _ hline, hprefix⟩

/-! ## What a call sets -/

/-- The variables that the result of a call is handed on to. -/
def handedNames (node : Node) : List String :=
  match node.bindings with
  | [only] => if Text.isIdentifier only.name then [] else [only.name]
  | bindings => bindings.map Binding.name

/-- The variables that the code of a call sets: the one that takes the result, and those it is
handed on to. -/
def assignedNames (node : Node) : List String := callTarget node :: handedNames node

/-- Either the only variable of a node takes the result of its call itself, or a variable of its own
takes it and hands it on to all. -/
theorem call_cases (node : Node) :
    (∃ only, node.bindings = [only] ∧ callTarget node = only.name ∧ handedNames node = [] ∧
      handOver node = []) ∨
    (callTarget node = Variable.capture node.ordinal ∧
      handedNames node = node.bindings.map Binding.name ∧
      handOver node = node.bindings.map fun binding =>
        assignment binding.name.toList (callTarget node).toList) := by
  unfold handOver handedNames callTarget
  rcases hbindings : node.bindings with _ | ⟨first, _ | ⟨second, rest⟩⟩
  · exact Or.inr ⟨rfl, rfl, rfl⟩
  · by_cases hdirect : Text.isIdentifier first.name = true
    · exact Or.inl ⟨first, by simp [hdirect]⟩
    · exact Or.inr (by simp [hdirect])
  · exact Or.inr ⟨rfl, rfl, rfl⟩

/-- The result of a call is assigned to each variable that it is handed on to. -/
theorem handOver_eq (node : Node) : handOver node = (handedNames node).map fun name =>
    assignment name.toList (callTarget node).toList := by
  rcases call_cases node with ⟨only, -, -, hnames, hlines⟩ | ⟨-, hnames, hlines⟩
  · rw [hnames, hlines, List.map_nil]
  · rw [hnames, hlines, List.map_map]
    rfl

/-- The code of a call is a line for the result, a line for each variable it is handed on to, and
possibly lines that show it. -/
theorem exists_callCode_eq (node : Node) (layout : Layout) (entering : Dictionary String)
    (function : String) : ∃ (call : List Char) (shown : List (List Char)),
      callCode node layout entering function = ['\n'].intercalate
        (assignment (callTarget node).toList call :: ((handedNames node).map (fun name =>
          assignment name.toList (callTarget node).toList) ++ shown)) := by
  rw [← handOver_eq]
  exact ⟨_, _, rfl⟩

/-- Every variable that a call sets begins a line of its code, in front of an equals sign. -/
theorem exists_assignment_line {node : Node} {layout : Layout} {entering : Dictionary String}
    {function name : String} (hname : name ∈ assignedNames node)
    (hidentifier : Text.isIdentifier name = true) :
    ∃ line ∈ (callCode node layout entering function).splitOn '\n',
      (name.toList ++ " = ".toList) <+: line := by
  obtain ⟨call, shown, hcode⟩ := exists_callCode_eq node layout entering function
  have hbreak : '\n' ∉ name.toList ++ " = ".toList := by
    rw [List.mem_append]
    rintro (h | h)
    · exact Text.newline_not_mem_of_isIdentifier hidentifier h
    · exact absurd h (by decide)
  rw [hcode]
  rcases List.mem_cons.mp hname with rfl | hname
  · exact exists_line_of_mem List.mem_cons_self (List.prefix_append _ _) hbreak
  · refine exists_line_of_mem (List.mem_cons_of_mem _ (List.mem_append_left _
      (List.mem_map_of_mem hname))) (List.prefix_append _ _) hbreak

/-- A call sets all variables of its node. -/
theorem name_mem_assignedNames {node : Node} {binding : Binding} (h : binding ∈ node.bindings) :
    binding.name ∈ assignedNames node := by
  unfold assignedNames
  rcases call_cases node with ⟨only, honly, htarget, -⟩ | ⟨-, hnames, -⟩
  · rw [honly] at h
    rw [htarget, List.mem_singleton.mp h]
    exact List.mem_cons_self
  · rw [hnames]
    exact List.mem_cons_of_mem _ (List.mem_map_of_mem h)

/-- A call sets no variables but those of its node and the one that takes the result. -/
theorem mem_assignedNames {node : Node} {name : String} (h : name ∈ assignedNames node) :
    name = Variable.capture node.ordinal ∨ name ∈ node.bindings.map Binding.name := by
  unfold assignedNames at h
  rcases call_cases node with ⟨only, honly, htarget, hnames, -⟩ | ⟨htarget, hnames, -⟩
  · rw [htarget, hnames, List.mem_singleton] at h
    rw [honly, h]
    exact Or.inr List.mem_cons_self
  · rw [htarget, hnames, List.mem_cons] at h
    exact h

/-- The code of a call is not blank. -/
theorem isBlankText_callCode (node : Node) (layout : Layout) (entering : Dictionary String)
    (function : String) : Text.isBlankText (callCode node layout entering function) = false := by
  obtain ⟨call, shown, hcode⟩ := exists_callCode_eq node layout entering function
  have hequals : '=' ∈ callCode node layout entering function := by
    rw [hcode]
    generalize (handedNames node).map _ ++ shown = others
    cases others with
    | nil => simp [assignment]
    | cons second rest => simp [assignment, List.intercalate_cons_cons]
  rw [Text.isBlankText, List.all_eq_false]
  exact ⟨'=', hequals, by decide⟩

/-- Texts that are not blank are printed in the order of their nodes. -/
theorem sublist_parts {document : Document} {layout : Layout} {order : List String}
    {first second : String} {a b : Node} (hab : [first, second].Sublist order)
    (ha : document.node? first = some a) (hb : document.node? second = some b)
    (hfirst : Text.isBlankText (nodeText a layout (document.enteringVariables first)) = false)
    (hsecond : Text.isBlankText (nodeText b layout (document.enteringVariables second)) = false) :
    [nodeText a layout (document.enteringVariables first),
      nodeText b layout (document.enteringVariables second)].Sublist
        (parts document layout order) := by
  have htexts := (hab.filterMap fun id => (document.node? id).map fun node =>
    nodeText node layout (document.enteringVariables id)).filter fun text => !Text.isBlankText text
  simp only [List.filterMap_cons, ha, hb, Option.map_some, List.filterMap_nil, List.filter_cons,
    hfirst, hsecond, Bool.not_false, ite_true, List.filter_nil] at htexts
  exact htexts.trans (List.sublist_append_right _ _)

end Listing

namespace Document

/-- How an edge supplies its target in a listing: from which node, and with which variable. -/
structure Supplies (document : Document) (layout : Layout) (order : List String) (edge : Edge)
    (source : Node) (name : String) : Prop where
  /-- The edge leaves this node. -/
  node : document.node? edge.source = some source
  /-- The variable belongs to the output that the edge leaves. -/
  bound : source.binding? edge.sourcePort = some name
  /-- The variable enters the input that the edge enters. -/
  entering : (document.enteringVariables edge.target).get? edge.targetPort = some name
  /-- The source comes before the target. -/
  before : order.idxOf edge.source < order.idxOf edge.target
  /-- If the source is a call, a line of its code sets the variable. -/
  assigned : ∀ function, source.schema.template = .call function →
    ∃ line ∈ (Listing.nodeText source layout (document.enteringVariables edge.source)).splitOn '\n',
      (name.toList ++ " = ".toList) <+: line
  /-- If the source is a call, its code is printed, and above the code of the target if that is not
  blank. -/
  printed : ∀ function, source.schema.template = .call function →
    ∀ target, document.node? edge.target = some target →
      Text.isBlankText
        (Listing.nodeText target layout (document.enteringVariables edge.target)) = false →
      [Listing.nodeText source layout (document.enteringVariables edge.source),
        Listing.nodeText target layout (document.enteringVariables edge.target)].Sublist
          (Listing.parts document layout order)
  /-- No other node has the variable, takes the result of a call into it, or sets it by its call. -/
  unshared : ∀ other ∈ document.nodes, other.id ≠ edge.source →
    name ∉ other.bindings.map Binding.name ∧ name ≠ Variable.capture other.ordinal ∧
      name ∉ Listing.assignedNames other

/-- Both ends of an edge of a well-formed document are nodes. -/
theorem WellFormed.leads {document : Document} (h : document.WellFormed) {edge : Edge}
    (hedge : edge ∈ document.edges) : document.graph.Leads edge.source edge.target := by
  obtain ⟨source, hsource, hsid, -⟩ := h.sources edge hedge
  obtain ⟨target, htarget, htid, -⟩ := h.targets edge hedge
  refine ⟨List.mem_map_of_mem hedge, ?_, ?_⟩
  · exact hsid ▸ List.mem_map_of_mem hsource
  · exact htid ▸ List.mem_map_of_mem htarget

/-- Edges into one input of a well-formed document are the same edge. -/
theorem WellFormed.eq_of_same_input {document : Document} (h : document.WellFormed) {a b : Edge}
    (ha : a ∈ document.edges) (hb : b ∈ document.edges) (htarget : a.target = b.target)
    (hport : a.targetPort = b.targetPort) : a = b :=
  List.inj_on_of_nodup_map h.inputs ha hb (by rw [htarget, hport])

/-- The variable of the output that an edge leaves is what enters its input. -/
theorem WellFormed.enteringVariables_eq {document : Document} (h : document.WellFormed)
    {edge : Edge}
    (hedge : edge ∈ document.edges) {name : String}
    (hname : document.variableOf? edge.source edge.sourcePort = some name) :
    (document.enteringVariables edge.target).get? edge.targetPort = some name := by
  refine Dictionary.get?_ofList_eq_some ?_ ?_
  · refine List.mem_filterMap.mpr ⟨edge, ?_, by rw [hname]; rfl⟩
    exact List.mem_filter.mpr ⟨hedge, by simp⟩
  · intro entry hentry hkey
    obtain ⟨other, hother, hvalue⟩ := List.mem_filterMap.mp hentry
    obtain ⟨hmem, htarget⟩ := List.mem_filter.mp hother
    obtain ⟨found, hfound, rfl⟩ := Option.map_eq_some_iff.mp hvalue
    obtain rfl := h.eq_of_same_input hmem hedge (by simpa using htarget) hkey
    exact Option.some.inj (hfound.symm.trans hname)

/-- Every edge of a well-formed document supplies its target, whatever sorted order is listed. -/
theorem WellFormed.exists_supplies {document : Document} (h : document.WellFormed) (layout : Layout)
    {order : List String} (horder : document.graph.Sorted order) {edge : Edge}
    (hedge : edge ∈ document.edges) :
    ∃ source name, document.Supplies layout order edge source name := by
  obtain ⟨source, hsource, hid, hport⟩ := h.sources edge hedge
  obtain ⟨binding, hbinding, -, hbound⟩ := (h.bound source hsource).exists_binding? hport
  have hnode : document.node? edge.source = some source :=
    hid ▸ node?_eq_some_of_mem h.ids hsource
  have hname := h.isNameOf hsource hbinding
  have hleads := h.leads hedge
  have htarget : edge.target ∈ order := horder.perm.mem_iff.mpr hleads.2.2
  have hlower := horder.follows.idxOf_lt hleads htarget
  refine ⟨source, binding.name, hnode, hbound, ?_, hlower, ?_, ?_, ?_⟩
  · exact h.enteringVariables_eq hedge (by rw [variableOf?, hnode, Option.bind_some, hbound])
  · intro function hcall
    rw [Listing.nodeText, hcall]
    exact Listing.exists_assignment_line (Listing.name_mem_assignedNames hbinding)
      hname.isIdentifier
  · intro function hcall target hnext hblank
    refine Listing.sublist_parts (horder.follows.pair_sublist hleads htarget) hnode hnext ?_ hblank
    rw [Listing.nodeText, hcall]
    exact Listing.isBlankText_callCode source layout _ function
  · intro other hother hne
    -- a name carries the number of its node, so sharing one would make the nodes the same
    have hdifferent (hshared : Variable.IsNameOf other.ordinal binding.name) : False :=
      hne (h.eq_of_isNameOf hother hsource hshared hname ▸ hid)
    have hcapture : binding.name ≠ Variable.capture other.ordinal :=
      fun heq => hdifferent (heq ▸ Variable.isNameOf_capture other.ordinal)
    have hnames : binding.name ∉ other.bindings.map Binding.name := by
      intro hmem
      obtain ⟨shared, hshared, heq⟩ := List.mem_map.mp hmem
      exact hdifferent (heq ▸ h.isNameOf hother hshared)
    refine ⟨hnames, hcapture, fun hset => ?_⟩
    rcases Listing.mem_assignedNames hset with heq | hmem
    · exact hcapture heq
    · exact hnames hmem

/-- A document that comes from an empty one by edits and has no cycle has a listing, in which every
edge supplies its target with a variable that its source alone sets and that is set before it is
read. -/
theorem Reachable.exists_listing {document : Document} (h : Reachable document)
    (hacyclic : document.graph.Acyclic) (layout : Layout) :
    ∃ order, document.graph.queueOrder = .ok order ∧
      document.listing layout =
        .ok (String.ofList (Listing.join (Listing.parts document layout order))) ∧
      ∀ edge ∈ document.edges, ∃ source name,
        document.Supplies layout order edge source name := by
  obtain ⟨order, horder, hsorted⟩ := hacyclic.exists_queueOrder h.wellFormed.ids
  refine ⟨order, horder, by rw [listing, horder], ?_⟩
  exact fun edge hedge => h.wellFormed.exists_supplies layout hsorted hedge

/-- The sample document is listed, and its edge supplies its target. -/
theorem exists_listing_sampleDocument :
    Reachable sampleDocument ∧ sampleDocument.graph.Acyclic ∧
      sampleDocument.edges = [⟨"1", "a", "x_y", "b", "data"⟩] ∧
      ∃ order, sampleDocument.graph.queueOrder = .ok order ∧
        sampleDocument.listing ⟨none, [], true⟩ = .ok (String.ofList
          (Listing.join (Listing.parts sampleDocument ⟨none, [], true⟩ order))) ∧
        ∀ edge ∈ sampleDocument.edges, ∃ source name,
          sampleDocument.Supplies ⟨none, [], true⟩ order edge source name := by
  have horder : sampleDocument.graph.queueOrder = .ok ["a", "c", "b"] := by rfl
  have hacyclic : sampleDocument.graph.Acyclic :=
    (Graph.sorted_of_queueOrder_eq_ok (by decide) horder).acyclic
  exact ⟨reachable_sampleDocument, hacyclic, by rfl,
    reachable_sampleDocument.exists_listing hacyclic ⟨none, [], true⟩⟩

end Document

end Dataflow
