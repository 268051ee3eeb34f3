import Dataflow.Catalog
import Dataflow.Proofs.Capability
import Dataflow.Proofs.Locality
import Dataflow.Proofs.Templates

/-!
# Lists of column names in code

Algorithms of the catalog take the names of columns as a list of texts. Their column transforms
refuse anything else, so a node that a pass has found ready has a bracketed list of quoted names in
its code. The source that reads files is the exception: it accepts a single name as its index, which
then stands bare in the code.

Quotes do not protect a name from being filled: a placeholder in it is replaced if its turn comes
after that of the list.
-/

namespace Dataflow

open Listing

/-! ## Quoted lists -/

namespace Listing

/-- A bracketed list of entries in quotes. -/
def nameList (entries : List (List Char)) : List Char :=
  '[' :: (", ".toList.intercalate (entries.map fun entry => '\'' :: (entry ++ ['\''])) ++ [']'])

variable {literal : String → List Char} {names : List String}

/-- Entries are filled one by one, and nothing else in a list is. -/
theorem fill_nameList (hnames : ∀ name ∈ names, IsWord name) (entries : List (List Char)) :
    fill literal names (nameList entries) = nameList (entries.map (fill literal names)) := by
  have hsep : ", ".toList = [',', ' '] := rfl
  have hcomma : IsBoundary ',' := by decide
  have hblank : IsBoundary ' ' := by decide
  have hquote : IsBoundary '\'' := by decide
  have hopen : IsBoundary '[' := by decide
  have hclose : IsBoundary ']' := by decide
  unfold nameList
  rw [fill_boundary_cons hnames hopen, fill_boundary hnames hclose, fill_nil, hsep]
  congr 2
  induction entries with
  | nil => exact fill_nil _ _
  | cons entry rest ih =>
    cases rest with
    | nil =>
      simp only [List.map_cons, List.map_nil, List.intercalate_singleton]
      rw [fill_boundary_cons hnames hquote, fill_boundary hnames hquote, fill_nil]
    | cons second rest =>
      simp only [List.map_cons, List.intercalate_cons_cons, List.append_assoc, List.cons_append,
        List.nil_append] at ih ⊢
      rw [fill_boundary_cons hnames hquote, fill_boundary hnames hquote,
        fill_boundary_cons hnames hcomma, fill_boundary_cons hnames hblank, ih]

end Listing

namespace Text

/-- What begins an escaped text and holds no backslash begins the text itself. -/
theorem prefix_of_prefix_escape {pattern text : List Char} (hback : '\\' ∉ pattern)
    (h : pattern <+: escape text) : pattern <+: text := by
  induction text generalizing pattern with
  | nil => exact h
  | cons c rest ih =>
    cases pattern with
    | nil => exact List.nil_prefix
    | cons d front =>
      obtain ⟨hd, hfront⟩ := not_or.mp (mt List.mem_cons.mpr hback)
      rw [escape] at h
      split at h
      · exact absurd (List.cons_prefix_cons.mp h).1.symm hd
      · obtain ⟨rfl, hrest⟩ := List.cons_prefix_cons.mp h
        exact List.cons_prefix_cons.mpr ⟨rfl, ih hfront hrest⟩

/-- Escaping brings in no pattern without quotes and backslashes. -/
theorem infix_of_infix_escape {pattern text : List Char} (hpattern : pattern ≠ [])
    (hback : '\\' ∉ pattern) (hquote : '\'' ∉ pattern) (h : pattern <:+: escape text) :
    pattern <:+: text := by
  -- an occurrence at the start of a text begins with one of its characters
  have hstart {c : Char} {rest : List Char} (hc : c ∉ pattern) : ¬pattern <+: c :: rest := by
    intro hstarts
    cases pattern with
    | nil => exact hpattern rfl
    | cons d front =>
      exact hc ((List.cons_prefix_cons.mp hstarts).1 ▸ List.mem_cons_self)
  induction text with
  | nil => exact h
  | cons c rest ih =>
    rw [List.infix_cons_iff]
    rw [escape] at h
    split at h
    · next hspecial =>
      have hc : c ∉ pattern := by rcases hspecial with rfl | rfl <;> assumption
      rw [List.infix_cons_iff, List.infix_cons_iff] at h
      rcases h with hfirst | hsecond | hlater
      · exact absurd hfirst (hstart hback)
      · exact absurd hsecond (hstart hc)
      · exact .inr (ih hlater)
    · next hplain =>
      rcases List.infix_cons_iff.mp h with hfirst | hlater
      · refine .inl (prefix_of_prefix_escape hback ?_)
        rw [escape, if_neg hplain]
        exact hfirst
      · exact .inr (ih hlater)

end Text

/-- A name without placeholders that are filled is written as it is escaped. -/
theorem Listing.fill_escape {literal : String → List Char} {names : List String}
    (hnames : ∀ name ∈ names, IsWord name) {text : List Char}
    (h : ∀ name ∈ names, ¬placeholder name <:+: text) :
    fill literal names (Text.escape text) = Text.escape text := by
  refine fill_of_not_occurs fun name hname hoccurs => h name hname ?_
  have hword := hnames name hname
  exact Text.infix_of_infix_escape (placeholder_ne_nil name)
    (IsBoundary.not_mem_placeholder (by decide) hword)
    (IsBoundary.not_mem_placeholder (by decide) hword) hoccurs

/-- The literal of a list of texts. -/
theorem Literal.nested_names (names : List String) :
    nested (.array (names.map .string)) =
      nameList (names.map fun name => Text.escape name.toList) := by
  have hitems : nestedItems (names.map .string) =
      (names.map fun name => Text.escape name.toList).map
        fun entry => '\'' :: (entry ++ ['\'']) := by
    induction names with
    | nil => rfl
    | cons name rest ih => exact congrArg (nested (.string name) :: ·) ih
  exact congrArg (fun items => '[' :: (", ".toList.intercalate items ++ [']'])) hitems

/-! ## Values that column transforms accept -/

namespace Transform

/-- A column transform accepts nothing but lists of names as the value of a parameter. -/
def Checks (transform : Transform) (parameter : String) : Prop :=
  ∀ inputs values schema outputs, transform inputs values schema = .ok outputs →
    ∃ names, namesIn values parameter = .ok names

/-- A list that is read as names is a list of texts. -/
theorem eq_of_readNames {parameter : String} {items : List Json} {names : List String}
    (h : readNames parameter items = .ok names) : items = names.map .string := by
  induction items generalizing names with
  | nil =>
    obtain rfl := Except.ok.inj h
    rfl
  | cons item rest ih =>
    cases item with
    | string name =>
      rw [readNames] at h
      split at h
      · next found hrest =>
        obtain rfl := Except.ok.inj h
        rw [ih hrest, List.map_cons]
      · contradiction
    | _ => contradiction

/-- A value that lists names is a list of texts, or there is none. -/
theorem get?_of_namesIn {values : Values} {parameter : String} {names : List String}
    (h : namesIn values parameter = .ok names) :
    values.get? parameter = none ∨ values.get? parameter = some .null ∨
      values.get? parameter = some (.array (names.map .string)) := by
  unfold namesIn at h
  split at h
  · next hnone => exact .inl hnone
  · next hnull => exact .inr (.inl hnull)
  · next items hitems => exact .inr (.inr (eq_of_readNames h ▸ hitems))
  · contradiction

/-- Known names are names that are listed. -/
theorem namesIn_of_knownNames {columns : List Column} {values : Values} {parameter : String}
    {names : List String} (h : knownNames columns values parameter = .ok names) :
    namesIn values parameter = .ok names := by
  unfold knownNames at h
  split at h
  · contradiction
  · next found hfound =>
    split at h
    · contradiction
    · obtain rfl := Except.ok.inj h
      exact hfound

/-- A transform that fails where the names of a parameter cannot be read checks it. -/
theorem checks_of_knownNames {transform : Transform} {parameter : String}
    (columns : PortColumns → List Column)
    (h : ∀ inputs values schema cause,
      knownNames (columns inputs) values parameter = .error cause →
        transform inputs values schema = .error cause) :
    transform.Checks parameter := by
  intro inputs values schema outputs hdone
  cases hnames : knownNames (columns inputs) values parameter with
  | error cause =>
    rw [h _ _ _ _ hnames] at hdone
    contradiction
  | ok names => exact ⟨names, namesIn_of_knownNames hnames⟩

theorem checks_selectColumns : selectColumns.Checks "columns" :=
  checks_of_knownNames (·.on "frame") fun _ _ _ _ h => by simp only [selectColumns, h]

theorem checks_dropColumns : dropColumns.Checks "columns" :=
  checks_of_knownNames (·.on "frame") fun _ _ _ _ h => by simp only [dropColumns, h]

theorem checks_oneHotEncode : oneHotEncode.Checks "columns" :=
  checks_of_knownNames (·.on "data") fun _ _ _ _ h => by simp only [oneHotEncode, h]

/-- A check of names asks for a list of them. -/
theorem checks_checkNames (parameter : String) : (checkNames parameter).Checks parameter :=
  checks_of_knownNames (·.on "frame") fun _ _ _ _ h => by simp only [checkNames, h]

theorem checks_groupBy : groupBy.Checks "by" :=
  checks_of_knownNames (·.on "frame") fun _ _ _ _ h => by simp only [groupBy, h, bind, Except.bind]

/-- A merge asks for a list of keys. -/
theorem checks_merge : merge.Checks "on" := by
  intro inputs values schema outputs h
  unfold merge at h
  cases hnames : namesIn values "on" with
  | error cause =>
    -- the kind of the join is checked first
    cases hjoin : checkJoin values <;> simp [hjoin, joinKeys, hnames, bind, Except.bind] at h
  | ok names => exact ⟨names, rfl⟩

end Transform

/-! ## Algorithms of the catalog -/

namespace Catalog

/-- The parameters that name columns. -/
def columnParameters : List String := ["columns", "by", "on", "subset", "index_column"]

/-- The places of every algorithm of the catalog can be told apart. -/
theorem hasPlaces_of_mem {registration : Registration} (h : registration ∈ registrations) :
    registration.schema.HasPlaces := by
  have hwords : ∀ registration ∈ registrations, ∀ name ∈ registration.schema.inputNames ++
      registration.schema.outputNames ++ registration.schema.parameters.map Parameter.name,
      IsWord name := by decide +kernel
  refine ⟨hwords registration h, ?_⟩
  simp only [registrations, List.mem_cons, List.not_mem_nil, or_false] at h
  rcases h with rfl | rfl | rfl | rfl | rfl | rfl | rfl | rfl | rfl | rfl | rfl | rfl | rfl |
    rfl | rfl
  -- one-hot encoding is the only call
  on_goal 10 => exact trivial
  all_goals exact Template.isSpaced_flat (by decide +kernel)

/-- The parameters of algorithms that name columns. -/
theorem columnPlaces :
    (registrations.flatMap fun registration =>
      ((registration.schema.parameters.map Parameter.name).filter columnParameters.contains).map
        (registration, ·)) =
    [(⟨csvInput, none⟩, "index_column"), (⟨customCode, some Transform.customCode⟩, "columns"),
      (⟨dropColumns, some Transform.dropColumns⟩, "columns"),
      (⟨dropMissing, some Transform.dropMissing⟩, "subset"),
      (⟨groupBy, some Transform.groupBy⟩, "by"), (⟨merge, some Transform.merge⟩, "on"),
      (⟨oneHotEncode, some Transform.oneHotEncode⟩, "columns"),
      (⟨selectColumns, some Transform.selectColumns⟩, "columns"),
      (⟨sortRows, some Transform.sortRows⟩, "by")] := by
  rfl

/-- Where the code of an algorithm has a place for a parameter that names columns, its column
transform accepts nothing but lists of names, unless the algorithm reads files. -/
theorem checks_of_mentions {registration : Registration} (hmem : registration ∈ registrations)
    {name : String} (hname : name ∈ columnParameters)
    (hparameter : (registration.schema.parameter? name).isSome = true)
    (hmentions : registration.schema.mentions name = true) :
    registration.schema.id = csvInput.id ∨
      ∃ run, registration.transform = some run ∧ run.Checks name := by
  have hpair : (registration, name) ∈ registrations.flatMap fun registration =>
      ((registration.schema.parameters.map Parameter.name).filter columnParameters.contains).map
        (registration, ·) := by
    refine List.mem_flatMap.mpr ⟨registration, hmem, List.mem_map_of_mem ?_⟩
    obtain ⟨parameter, hdeclared, heq⟩ := List.find?_isSome.mp hparameter
    have heq : parameter.name = name := by simpa using heq
    exact List.mem_filter.mpr
      ⟨heq ▸ List.mem_map_of_mem hdeclared, List.contains_iff_mem.mpr hname⟩
  rw [columnPlaces] at hpair
  simp only [List.mem_cons, Prod.mk.injEq, List.not_mem_nil, or_false] at hpair
  rcases hpair with ⟨rfl, rfl⟩ | ⟨rfl, rfl⟩ | ⟨rfl, rfl⟩ | ⟨rfl, rfl⟩ | ⟨rfl, rfl⟩ | ⟨rfl, rfl⟩ |
    ⟨rfl, rfl⟩ | ⟨rfl, rfl⟩ | ⟨rfl, rfl⟩
  · exact .inl rfl
  · -- the columns that a user declares are not part of the code
    exact absurd hmentions (by decide +kernel)
  · exact .inr ⟨_, rfl, Transform.checks_dropColumns⟩
  · exact .inr ⟨_, rfl, Transform.checks_checkNames "subset"⟩
  · exact .inr ⟨_, rfl, Transform.checks_groupBy⟩
  · exact .inr ⟨_, rfl, Transform.checks_merge⟩
  · exact .inr ⟨_, rfl, Transform.checks_oneHotEncode⟩
  · exact .inr ⟨_, rfl, Transform.checks_selectColumns⟩
  · exact .inr ⟨_, rfl, Transform.checks_checkNames "by"⟩

/-- All parameters of the catalog take the values of the node. -/
theorem role_eq_plain {registration : Registration} (hmem : registration ∈ registrations)
    {parameter : Parameter} (h : parameter ∈ registration.schema.parameters) :
    parameter.role = .plain := by
  have hroles : ∀ registration ∈ registrations, ∀ parameter ∈ registration.schema.parameters,
      parameter.role = .plain := by decide
  exact hroles registration hmem parameter h

/-- A pass finds the column transform of an algorithm. -/
theorem kind?_registry {registration : Registration} (hmem : registration ∈ registrations)
    {run : Transform} (hrun : registration.transform = some run) :
    registration.schema.category = .transform ∧
      registry.kind? registration.schema.id = some (.transform run) := by
  simp only [registrations, List.mem_cons, List.not_mem_nil, or_false] at hmem
  rcases hmem with rfl | rfl | rfl | rfl | rfl | rfl | rfl | rfl | rfl | rfl | rfl | rfl | rfl |
    rfl | rfl <;> cases hrun <;> exact ⟨rfl, rfl⟩

end Catalog

/-! ## Nodes that a pass has found ready -/

namespace Document

/-- Writing a result changes the metadata of the node that is found under its id. -/
theorem node?_write (writing : Writing) (id other : String) (metadata : Metadata) :
    (writing.write (id, metadata)).document.node? other =
      (writing.document.node? other).map fun node =>
        if other = id then { node with metadata } else node := by
  unfold Writing.write
  dsimp only
  split
  · next hgone =>
    by_cases hother : other = id
    · rw [hother, hgone, Option.map_none]
    · simp [hother]
  · next found hfound =>
    split
    · next hsame =>
      by_cases hother : other = id
      · rw [hother, hfound, Option.map_some, if_pos rfl, ← hsame]
      · simp [hother]
    · exact node?_modifyNode fun _ => rfl

/-- A node with a result ends with the metadata of one. -/
theorem mem_results_of_node? {document : Document} {results : List (String × Metadata)}
    {id : String} {node : Node}
    (hnode : (document.writeResults results).document.node? id = some node)
    (hid : id ∈ results.map Prod.fst) : (id, node.metadata) ∈ results := by
  induction results using List.reverseRecOn generalizing node with
  | nil => exact absurd hid List.not_mem_nil
  | append_singleton results last ih =>
    rw [writeResults, List.foldl_append] at hnode
    obtain ⟨old, hold, rfl⟩ :=
      Option.map_eq_some_iff.mp ((node?_write _ last.1 id last.2).symm.trans hnode)
    rw [List.map_append, List.mem_append, List.map_singleton, List.mem_singleton] at hid
    by_cases hlast : id = last.1
    · simp [hlast]
    · simp only [hlast, if_false]
      exact List.mem_append_left _ (ih hold (hid.resolve_right hlast))

end Document

namespace Propagation

/-- The columns of a node with a transform are those that the transform gives. -/
theorem run_of_outputColumns {registry : Registry} {node : Node} {run : Transform}
    {fetched : Option (Except PassError (List Column))} {inputs outputs : PortColumns}
    (hcategory : node.schema.category = .transform)
    (hkind : registry.kind? node.schema.id = some (.transform run))
    (h : outputColumns registry node fetched inputs = .ok outputs) :
    run inputs node.effectiveValues node.schema = .ok outputs := by
  unfold outputColumns transformColumns at h
  simp only [hcategory, hkind] at h
  cases hrun : run inputs node.effectiveValues node.schema with
  | error cause =>
    rw [hrun] at h
    contradiction
  | ok columns =>
    rw [hrun] at h
    exact congrArg _ (Except.ok.inj h)

end Propagation

namespace Session

/-- A node that a pass has found ready was walked, and its columns were found. -/
theorem exists_outputColumns_of_ready {session : Session} {report : PassReport} {id : String}
    {node : Node} (hdone : session.propagate.2 = .completed report)
    (hnode : session.propagate.1.document.node? id = some node)
    (hready : node.metadata.status = .ready) :
    ∃ fetched inputs outputs,
      Propagation.outputColumns session.registry node fetched inputs = .ok outputs := by
  obtain ⟨order, horder, hpass⟩ := exists_passAlong_of_completed hdone
  have hold := session.document.node?_bare id
  rw [← session.bare_propagate, Document.node?_bare, hnode, Option.map_some] at hold
  obtain ⟨old, hfound, hbare⟩ := Option.map_eq_some_iff.mp hold.symm
  have hid : id ∈ session.document.nodeIds :=
    (Document.contains_iff _ _).mp (by rw [Document.contains, hfound]; rfl)
  rw [hpass, document_passAlong] at hnode
  have hresult := Document.mem_results_of_node? hnode (by
    rw [Propagation.map_fst_results _ _ (Propagation.subset_of_walkOrder_eq_ok horder)]
    exact (Propagation.mem_iff_of_walkOrder_eq_ok horder id).mpr hid)
  obtain ⟨before, after, walked, -, hwalked, hresult⟩ := Pass.exists_visit_of_mem_results hresult
  obtain ⟨rfl, hmetadata⟩ := Prod.mk.inj hresult
  obtain rfl : walked = old := Option.some.inj (hwalked.symm.trans hfound)
  unfold Pass.outputsAfter at hmetadata
  generalize hcolumns : Propagation.outputColumns _ _ _ _ = columns at hmetadata
  cases columns with
  | error cause =>
    rw [hmetadata] at hready
    contradiction
  | ok outputs =>
    -- metadata are not read
    change Propagation.outputColumns _ walked.bare _ _ = _ at hcolumns
    rw [hbare] at hcolumns
    exact ⟨_, _, outputs, hcolumns⟩

end Session

namespace Node

variable {node : Node} {layout : Layout} {entering : Dictionary String} {name : String}

/-- The values that a transform gets are those that stand in the code. -/
theorem get?_effectiveValues (h : (node.schema.parameter? name).isSome = true) :
    node.effectiveValues.get? name = some (node.valueOrDefault name) := by
  obtain ⟨parameter, hparameter⟩ := Option.isSome_iff_exists.mp h
  rw [Propagation.completes_effectiveValues node name, valueOrDefault, hparameter]
  cases node.values.get? name <;> rfl

/-- A parameter that the user sets, other than the path of a file, has its value as literal. -/
theorem literal_of_plain {parameter : Parameter}
    (hparameter : node.schema.parameter? name = some parameter) (hrole : parameter.role = .plain)
    (hname : name ≠ Literal.fileParameter) :
    node.literal layout entering name = Literal.value (node.valueOrDefault name) := by
  have hresolve : node.resolve entering name = node.valueOrDefault name := by
    simp only [resolve, roleOf, hparameter, hrole]
  rw [literal, hresolve]
  cases node.valueOrDefault name with
  | string text => simp [Literal.parameter, hname]
  | _ => rfl

/-- Every parameter has a placeholder. -/
theorem mem_placeholderNames (h : (node.schema.parameter? name).isSome = true) :
    name ∈ node.placeholderNames := by
  obtain ⟨parameter, hparameter⟩ := Option.isSome_iff_exists.mp h
  have heq : parameter.name = name := by simpa using List.find?_some hparameter
  exact List.mem_append_left _ (heq ▸ List.mem_map_of_mem (List.mem_of_find?_eq_some hparameter))

/-- An identifier holds no placeholder. -/
theorem refilled_of_isIdentifier {text : String} (h : Text.isIdentifier text = true) :
    node.refilled layout entering name text.toList = text.toList := by
  refine fill_of_not_occurs fun later _ hoccurs => ?_
  have hbrace : '\x7b' ∈ text.toList := hoccurs.subset List.mem_cons_self
  exact absurd (Text.isWordChar_of_isIdentifier h hbrace) (by decide)

/-- Places of a parameter whose literal is the value that the user has set. -/
theorem shows_value (hplaces : node.schema.HasPlaces) {parameter : Parameter}
    (hparameter : node.schema.parameter? name = some parameter) (hrole : parameter.role = .plain)
    (hname : name ≠ Literal.fileParameter) (hmentions : node.schema.mentions name = true) :
    node.Shows layout entering name
      (node.refilled layout entering name (Literal.value (node.valueOrDefault name))) := by
  have hfilled : name ∈ node.placeholderNames := mem_placeholderNames (by rw [hparameter]; rfl)
  have hshows := @shows_refilled node layout entering name hplaces hfilled hmentions
  rwa [literal_of_plain hparameter hrole hname] at hshows

end Node

namespace Session

/-- If a pass over nodes of the catalog has found a node ready, a parameter of it that names columns
and stands in its code is a list of names, unless it is the index of a file. A list of names stands
in the code as a bracketed list of quoted names; only where a name holds a placeholder that is
filled later does something else stand in its quotes. The index of a file may be a single name, and
then an identifier stands bare in the code. -/
theorem propagate_shows_names (session : Session) (layout : Layout) (id name : String)
    {report : PassReport} {node : Node} (hregistry : session.registry = Catalog.registry)
    (hdone : session.propagate.2 = .completed report)
    (hnode : session.propagate.1.document.node? id = some node)
    (hready : node.metadata.status = .ready)
    (hschema : ∃ registration ∈ Catalog.registrations, registration.schema = node.schema)
    (hname : name ∈ Catalog.columnParameters)
    (hparameter : (node.schema.parameter? name).isSome = true)
    (hmentions : node.schema.mentions name = true)
    (hvalue : (∃ text, node.valueOrDefault name = .string text) ∨
      ∃ items, node.valueOrDefault name = .array items) :
    let entering := session.propagate.1.document.enteringVariables id
    session.propagate.1.document.nodeCode layout id =
        .ok (String.ofList (nodeText node layout entering)) ∧
      (node.schema.id ≠ Catalog.csvInput.id →
        ∃ names : List String, node.valueOrDefault name = .array (names.map .string)) ∧
      (∀ names : List String, node.valueOrDefault name = .array (names.map .string) →
        node.Shows layout entering name (nameList (names.map fun column =>
          node.refilled layout entering name (Text.escape column.toList))) ∧
        ∀ column ∈ names,
          (∀ later ∈ node.namesAfter name, ¬placeholder later <:+: column.toList) →
          node.refilled layout entering name (Text.escape column.toList) =
            Text.escape column.toList) ∧
      ∀ text, node.valueOrDefault name = .string text → Text.isIdentifier text = true →
        node.Shows layout entering name text.toList := by
  intro entering
  obtain ⟨registration, hmem, heq⟩ := hschema
  have hplaces : node.schema.HasPlaces := heq ▸ Catalog.hasPlaces_of_mem hmem
  obtain ⟨parameter, hfound⟩ := Option.isSome_iff_exists.mp hparameter
  have hrole : parameter.role = .plain :=
    Catalog.role_eq_plain hmem (heq ▸ List.mem_of_find?_eq_some hfound)
  have hplain : name ≠ Literal.fileParameter := by
    rintro rfl
    exact absurd hname (by decide)
  have hshows := @Node.shows_value node layout entering name hplaces parameter hfound hrole hplain
    hmentions
  have hwords := @Node.isWord_of_mem_namesAfter node name hplaces
  refine ⟨by rw [Document.nodeCode, Document.node, hnode], fun hid => ?_, fun names hnames => ?_,
    fun text htext hidentifier => ?_⟩
  · obtain ⟨run, hrun, hchecks⟩ :=
      (Catalog.checks_of_mentions hmem hname (heq ▸ hparameter) (heq ▸ hmentions)).resolve_left
        (heq ▸ hid)
    obtain ⟨hcategory, hkind⟩ := Catalog.kind?_registry hmem hrun
    rw [heq] at hcategory hkind
    obtain ⟨fetched, inputs, outputs, hcolumns⟩ := exists_outputColumns_of_ready hdone hnode hready
    obtain ⟨names, hnames⟩ := hchecks _ _ _ _
      (Propagation.run_of_outputColumns hcategory (hregistry ▸ hkind) hcolumns)
    have hget := Transform.get?_of_namesIn hnames
    simp only [Node.get?_effectiveValues hparameter, reduceCtorEq, Option.some.injEq,
      false_or] at hget
    rcases hget with hnull | hlist
    · rw [hnull] at hvalue
      rcases hvalue with ⟨_, h⟩ | ⟨_, h⟩ <;> contradiction
    · exact ⟨names, hlist⟩
  · rw [hnames] at hshows
    refine ⟨?_, fun column _ hfree => fill_escape hwords hfree⟩
    change node.Shows layout entering name
      (node.refilled layout entering name (Literal.nested (.array (names.map .string)))) at hshows
    rw [Literal.nested_names, Node.refilled, fill_nameList hwords, List.map_map] at hshows
    exact hshows
  · rw [htext, Literal.value, if_pos hidentifier,
      Node.refilled_of_isIdentifier hidentifier] at hshows
    exact hshows

/-- A layout without a root, a header and a preview. -/
def samplePlainLayout : Layout := ⟨none, [], false⟩

/-- A session with nodes of the catalog: one that orders rows, one that reads a file, and one that
groups rows by a column whose name is a placeholder. -/
def sampleTables : Session :=
  { sampleSession with
    document :=
      { Document.empty "p" "Pipeline" with
        nodes := [
          { Node.create "sort" 1 Catalog.sortRows with
            values := Dictionary.empty.insert "by" (.array [.string "a b", .string "it's"]) },
          { Node.create "read" 2 Catalog.csvInput with
            values := (Dictionary.empty.insert "filepath" (.string "t.csv")).insert "index_column"
              (.string "id") },
          { Node.create "group" 3 Catalog.groupBy with
            values :=
              (Dictionary.empty.insert "by" (.array [.string "\x7baggregations\x7d"])).insert
                "aggregations" (.object [("total", .string "sum")]) }] }
    registry := Catalog.registry
    library := Library.empty.withFile "t.csv" [] }

/-- Names with blanks and quotes stand quoted and escaped in the code of the sample. -/
theorem propagate_shows_names_sampleTables :
    sampleTables.propagate.2 = .completed ⟨["sort", "read", "group"], [], []⟩ ∧
      ∃ node, sampleTables.propagate.1.document.node? "sort" = some node ∧
        node.metadata.status = .ready ∧
        node.Shows samplePlainLayout
          (sampleTables.propagate.1.document.enteringVariables "sort") "by"
          (nameList ["a b".toList, "it\\'s".toList]) := by
  have hdone : sampleTables.propagate.2 = .completed ⟨["sort", "read", "group"], [], []⟩ := by rfl
  have hsort : ∃ node, sampleTables.propagate.1.document.node? "sort" = some node ∧
      node.metadata.status = .ready ∧ node.schema = Catalog.sortRows ∧
      node.valueOrDefault "by" = .array (["a b", "it's"].map .string) := ⟨_, rfl, rfl, rfl, rfl⟩
  obtain ⟨node, hnode, hready, hschema, hvalue⟩ := hsort
  refine ⟨hdone, node, hnode, hready, ?_⟩
  obtain ⟨-, -, hlists, -⟩ := propagate_shows_names sampleTables samplePlainLayout "sort" "by"
    rfl hdone hnode hready
    ⟨⟨Catalog.sortRows, some Transform.sortRows⟩, by simp [Catalog.registrations], hschema.symm⟩
    (by decide) (by rw [hschema]; rfl) (by rw [hschema]; rfl) (.inr ⟨_, hvalue⟩)
  obtain ⟨hshows, hplain⟩ := hlists ["a b", "it's"] hvalue
  rw [List.map_cons, List.map_cons, List.map_nil,
    hplain "a b" (by decide) fun later _ h => absurd (h.subset List.mem_cons_self) (by decide),
    hplain "it's" (by decide) fun later _ h => absurd (h.subset List.mem_cons_self) (by decide)]
    at hshows
  exact hshows

/-- A single name as the index of a file stands bare in the code of a node that is ready, and a name
that is a placeholder is filled inside its quotes. -/
theorem propagate_shows_bare_index :
    sampleTables.propagate.2 = .completed ⟨["sort", "read", "group"], [], []⟩ ∧
      sampleTables.propagate.1.document.nodes.map (fun node => node.metadata.status) =
        [.ready, .ready, .ready] ∧
      sampleTables.propagate.1.document.nodeCode samplePlainLayout "read" =
        .ok "n02_data = pd.read_csv('dataset/t.csv', sep=',', index_col=id)" ∧
      sampleTables.propagate.1.document.nodeCode samplePlainLayout "group" = .ok
        "n03_data = None.groupby(['\x7b'total': 'sum'\x7d'], as_index=False).agg(\x7b'total': 'sum'\x7d)" := by
  refine ⟨by rfl, by rfl, by rfl, by rfl⟩

end Session

end Dataflow
