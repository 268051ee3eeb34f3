import Dataflow.Catalog
import Dataflow.Proofs.Dictionary
import Mathlib.Data.List.Nodup

/-!
# Stacked frames

Frames on top of each other have the names of the first, and then the names that only the second
has. The type under a name is joined from the frames that have it: types that are equal stay, and
all others become the type of mixed columns. That type takes in every other one, so joining is
associative and commutative although it is also the type of ordinary columns. Columns with different
names are told by their names in order and by the type under each name. So frames can be stacked in
any grouping, and in another order their columns are the same up to order.
-/

namespace Dataflow

/-- A function that keeps every item of a list keeps the list. -/
theorem map_eq_self {α : Type} {items : List α} {f : α → α} (h : ∀ item ∈ items, f item = item) :
    items.map f = items := by
  conv_rhs => rw [← List.map_id items]
  exact List.map_congr_left h

namespace Column

variable {columns first second : List Column} {column : Column} {name : String}

/-- The type of the first column with a name. -/
def typeOf? (columns : List Column) (name : String) : Option String :=
  (find? columns name).map typeLabel

theorem named_iff (columns : List Column) (name : String) :
    named columns name = true ↔ name ∈ names columns := by
  simp [named, names]

theorem find?_eq_none_iff : find? columns name = none ↔ name ∉ names columns := by
  simp [find?, names]

/-- With different names, a column is the one that is found under its name. -/
theorem find?_eq_some_of_mem (hnames : (names columns).Nodup) (hmem : column ∈ columns) :
    find? columns column.name = some column := by
  cases hfound : find? columns column.name with
  | none => exact absurd (List.mem_map_of_mem hmem) (find?_eq_none_iff.mp hfound)
  | some found =>
    have hname : found.name = column.name := by simpa using List.find?_some hfound
    rw [List.inj_on_of_nodup_map hnames (List.mem_of_find?_eq_some hfound) hmem hname]

/-- With different names a column is told by its name and its type. -/
theorem mem_iff_typeOf? (hnames : (names columns).Nodup) :
    column ∈ columns ↔ typeOf? columns column.name = some column.typeLabel := by
  constructor
  · intro hmem
    rw [typeOf?, find?_eq_some_of_mem hnames hmem, Option.map_some]
  · intro htype
    obtain ⟨found, hfound, hlabel⟩ := Option.map_eq_some_iff.mp htype
    have hname : found.name = column.name := by simpa using List.find?_some hfound
    obtain rfl : found = column := by
      cases found
      cases column
      simp_all
    exact List.mem_of_find?_eq_some hfound

/-- Columns with different names are made of their names and of the types under these. -/
theorem map_names_typeOf? (hnames : (names columns).Nodup) :
    (names columns).map (fun name => ⟨name, (typeOf? columns name).getD anyType⟩) = columns := by
  rw [names, List.map_map]
  refine map_eq_self fun column hmem => ?_
  rw [Function.comp_apply, typeOf?, find?_eq_some_of_mem hnames hmem]
  rfl

/-- With different names, columns are the same if their names and types are. -/
theorem eq_of_names_of_typeOf? (hnames : (names first).Nodup) (hsame : names first = names second)
    (htypes : ∀ name, typeOf? first name = typeOf? second name) : first = second := by
  have hsecond := map_names_typeOf? (hsame ▸ hnames)
  rw [← map_names_typeOf? hnames, hsame, funext htypes, hsecond]

end Column

namespace Transform

open Column (names find? named typeOf?)

variable {first second third : List Column}

/-! ## Types -/

/-- The type of a column that has one type above and another below. -/
def joinType (above below : String) : String := if below ≠ above then mixedType else above

instance associative_joinType : Std.Associative joinType where
  assoc a b c := by
    unfold joinType
    by_cases hab : b = a <;> by_cases hbc : c = b <;> simp_all

instance commutative_joinType : Std.Commutative joinType where
  comm a b := by
    unfold joinType
    by_cases hab : b = a
    · simp [hab]
    · simp [hab, Ne.symm hab]

instance idempotent_joinType : Std.IdempotentOp joinType where
  idempotent a := by simp [joinType]

@[simp] theorem name_stackColumn (below : List Column) (column : Column) :
    (stackColumn below column).name = column.name := by
  unfold stackColumn
  split
  · split <;> rfl
  · rfl

/-- A column keeps its type if the frame below has it too, or lacks the column. -/
theorem typeLabel_stackColumn (below : List Column) (column : Column) :
    some (stackColumn below column).typeLabel =
      Option.merge joinType (some column.typeLabel) (typeOf? below column.name) := by
  unfold stackColumn typeOf?
  cases find? below column.name with
  | none => rfl
  | some other => by_cases hsame : other.typeLabel = column.typeLabel <;> simp [joinType, hsame]

/-! ## Names and types of stacked frames -/

/-- Stacking appends the names that the upper frame lacks. -/
theorem names_stack (first second : List Column) :
    names (stack first second) =
      names first ++ (names second).filter fun name => name ∉ names first := by
  have hnamed (column : Column) :
      (!named first column.name) = decide (column.name ∉ names first) := by
    rw [Bool.eq_iff_iff, Bool.not_eq_true', decide_eq_true_iff, ← Column.named_iff,
      Bool.not_eq_true]
  simp only [stack, names, List.map_append, List.map_map, List.filter_map, Function.comp_def,
    name_stackColumn] at hnamed ⊢
  simp only [hnamed]

/-- Stacking changes the type of a column in its place. -/
theorem find?_map_stackColumn (below columns : List Column) (name : String) :
    find? (columns.map (stackColumn below)) name =
      (find? columns name).map (stackColumn below) := by
  have hname : (fun column : Column => column.name == name) ∘ stackColumn below =
      fun column => column.name == name := by
    funext column
    rw [Function.comp_apply, name_stackColumn]
  rw [find?, find?, List.find?_map, hname]

/-- Behind the columns of the first frame, a name is found if the first frame lacks it. -/
theorem find?_filter_not_named (first second : List Column) (name : String) :
    find? (second.filter fun column => !named first column.name) name =
      if name ∈ names first then none else find? second name := by
  rw [find?, List.find?_filter]
  split
  · next hfirst =>
    refine List.find?_eq_none.mpr fun column _ => ?_
    simp only [decide_eq_true_eq, not_and, beq_iff_eq]
    rintro hother rfl
    simp [(Column.named_iff _ _).mpr hfirst] at hother
  · next hother =>
    refine congrFun (congrArg List.find? (funext fun column => ?_)) second
    have hlacks : named first name = false :=
      Bool.eq_false_iff.mpr (mt (Column.named_iff _ _).mp hother)
    by_cases hname : column.name = name <;> simp [hname, hlacks]

/-- The type under a name is joined from the frames that have the name. -/
theorem typeOf?_stack (first second : List Column) (name : String) :
    typeOf? (stack first second) name =
      Option.merge joinType (typeOf? first name) (typeOf? second name) := by
  have hparts : find? (stack first second) name =
      ((find? first name).map (stackColumn second)).or
        (if name ∈ names first then none else find? second name) := by
    rw [← find?_map_stackColumn, ← find?_filter_not_named]
    exact List.find?_append
  rw [typeOf?, hparts]
  cases hfound : find? first name with
  | none =>
    rw [if_neg (Column.find?_eq_none_iff.mp hfound), typeOf?, hfound, Option.map_none,
      Option.map_none, Option.none_or, Option.merge_none_left]
    rfl
  | some column =>
    obtain rfl : column.name = name := by simpa using List.find?_some hfound
    rw [typeOf?, hfound, Option.map_some, Option.map_some, ← typeLabel_stackColumn]
    rfl

/-- Frames with different names are stacked to different names. -/
theorem nodup_names_stack (hfirst : (names first).Nodup) (hsecond : (names second).Nodup) :
    (names (stack first second)).Nodup := by
  rw [names_stack]
  refine List.nodup_append.mpr ⟨hfirst, hsecond.filter _, ?_⟩
  rintro name hname other hother rfl
  simp [hname] at hother

/-! ## Laws -/

/-- It does not matter which of three frames are stacked first. -/
theorem stack_assoc (hfirst : (names first).Nodup) (hsecond : (names second).Nodup)
    (hthird : (names third).Nodup) :
    stack (stack first second) third = stack first (stack second third) := by
  refine Column.eq_of_names_of_typeOf?
    (nodup_names_stack (nodup_names_stack hfirst hsecond) hthird) ?_ fun name => ?_
  · simp only [names_stack, List.filter_append, List.filter_filter, List.append_assoc]
    congr 2
    refine List.filter_congr fun name _ => ?_
    by_cases hname : name ∈ names first <;> simp [hname]
  · simp only [typeOf?_stack]
    exact Std.Associative.assoc _ _ _

/-- A frame that is stacked on itself stays as it is. -/
theorem stack_self (hfirst : (names first).Nodup) : stack first first = first := by
  refine Column.eq_of_names_of_typeOf? (nodup_names_stack hfirst hfirst) ?_ fun name => ?_
  · simp [names_stack]
  · rw [typeOf?_stack]
    exact Std.IdempotentOp.idempotent _

theorem stack_nil (first : List Column) : stack first [] = first := by
  simp only [stack, List.filter_nil, List.append_nil]
  exact List.map_id first

theorem nil_stack (second : List Column) : stack [] second = second := by
  simp [stack, named]

/-- Frames that change places give the same columns in another order. -/
theorem stack_perm_comm (hfirst : (names first).Nodup) (hsecond : (names second).Nodup) :
    (stack first second).Perm (stack second first) := by
  have hnames := nodup_names_stack hfirst hsecond
  have hswapped := nodup_names_stack hsecond hfirst
  have htypes (name : String) :
      Column.typeOf? (stack first second) name = Column.typeOf? (stack second first) name := by
    rw [typeOf?_stack, typeOf?_stack]
    exact Std.Commutative.comm _ _
  refine (List.perm_ext_iff_of_nodup (hnames.of_map _) (hswapped.of_map _)).mpr fun column => ?_
  rw [Column.mem_iff_typeOf? hnames, Column.mem_iff_typeOf? hswapped, htypes]

/-! ## The node of the catalog -/

/-- What a node that stacks two frames publishes, given the columns on its inputs. -/
def stacked (values : Values) (first second : List Column) : Except TransformError (List Column) :=
  (concat (.ofList [("first", first), ("second", second)]) values Catalog.concat).map fun outputs =>
    outputs.on "data"

/-- A node that stacks two frames publishes their stack and never fails. -/
theorem stacked_eq (values : Values) (first second : List Column) :
    stacked values first second = .ok (stack first second) := by
  have hinputs : PortColumns.on (.ofList [("first", first), ("second", second)]) "first" = first ∧
      PortColumns.on (.ofList [("first", first), ("second", second)]) "second" = second := by
    simp [PortColumns.on, Dictionary.get?_ofList]
  have houtput (columns : List Column) :
      PortColumns.on (publish Catalog.concat columns) "data" = columns := by
    simp [PortColumns.on, publish, Dictionary.get?_ofList, Catalog.concat, Catalog.transformSchema,
      Catalog.outputs, Port.optional]
  rw [stacked, concat, hinputs.1, hinputs.2, Except.map, houtput]

/-- Three frames without repeated names are stacked to the same columns in either grouping. A frame
on itself or on one without columns stays as it is, and two frames have the same columns without
repeats in either order, up to the order of the columns. -/
theorem stacked_semigroup (values : Values) {first second third : List Column}
    (hfirst : (names first).Nodup) (hsecond : (names second).Nodup)
    (hthird : (names third).Nodup) :
    (∃ upper lower all, stacked values first second = .ok upper ∧
      stacked values second third = .ok lower ∧ stacked values upper third = .ok all ∧
      stacked values first lower = .ok all) ∧
    stacked values first first = .ok first ∧
    stacked values first [] = .ok first ∧ stacked values [] first = .ok first ∧
    ∃ both swapped, stacked values first second = .ok both ∧
      stacked values second first = .ok swapped ∧ (names both).Nodup ∧ both.Perm swapped := by
  simp only [stacked_eq, Except.ok.injEq]
  refine ⟨⟨_, _, _, rfl, rfl, rfl, ?_⟩, stack_self hfirst, stack_nil first, nil_stack first,
    _, _, rfl, rfl, nodup_names_stack hfirst hsecond, stack_perm_comm hfirst hsecond⟩
  exact (stack_assoc hfirst hsecond hthird).symm

/-- Three frames in which one type is mixed from the start. -/
def sampleFrames : List Column × List Column × List Column :=
  ([⟨"a", "int64"⟩, ⟨"b", "int64"⟩], [⟨"b", "float64"⟩, ⟨"c", "object"⟩, ⟨"d", "bool"⟩],
    [⟨"d", "bool"⟩, ⟨"c", "any"⟩, ⟨"a", "int64"⟩])

/-- A type that is mixed in one step stays mixed in the next. -/
theorem stacked_semigroup_sampleFrames :
    let (first, second, third) := sampleFrames
    (names first).Nodup ∧ (names second).Nodup ∧ (names third).Nodup ∧
      ∃ upper lower all, stacked .empty first second = .ok upper ∧
        stacked .empty second third = .ok lower ∧ stacked .empty upper third = .ok all ∧
        stacked .empty first lower = .ok all ∧
        all = [⟨"a", "int64"⟩, ⟨"b", "object"⟩, ⟨"c", "object"⟩, ⟨"d", "bool"⟩] := by
  have hfirst : (names sampleFrames.1).Nodup := by decide
  have hsecond : (names sampleFrames.2.1).Nodup := by decide
  have hthird : (names sampleFrames.2.2).Nodup := by decide
  obtain ⟨⟨upper, lower, all, hupper, hlower, hall, hsame⟩, -⟩ :=
    stacked_semigroup .empty hfirst hsecond hthird
  refine ⟨hfirst, hsecond, hthird, upper, lower, all, hupper, hlower, hall, hsame, ?_⟩
  rw [stacked_eq] at hupper hall
  obtain rfl := Except.ok.inj hupper
  obtain rfl := Except.ok.inj hall
  decide

end Transform

end Dataflow
