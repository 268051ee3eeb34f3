import Dataflow.Proofs.NameLists
import Dataflow.Proofs.Renaming
import Mathlib.Data.Finset.Card
import Mathlib.Data.List.Forall2

/-!
# Columns of joined frames

A join has one column for every column of the left side, and one for every column of the right side
that is no key. A key is a column of both sides, so each key saves one column. Names that both sides
have and that are no keys get a suffix, which tells the two columns apart. The suffixed names are
compared with nothing: a join in which one of them is the name of a column without a suffix has two
columns with that name, and this is the only way in which a name can occur twice.
-/

namespace Dataflow.Transform

open Column (names named)

variable {left right : List Column} {values : Values} {given keys : List String}

/-! ## Keys -/

/-- The names that a value lists. A value that is absent or without content lists none. -/
def Lists (value : Option Json) (given : List String) : Prop :=
  (value = none ∨ value = some .null) ∧ given = [] ∨ value = some (.array (given.map .string))

/-- A list of texts is read as a list of names. -/
theorem readNames_strings (parameter : String) (given : List String) :
    readNames parameter (given.map .string) = .ok given := by
  induction given with
  | nil => rfl
  | cons name rest ih => rw [List.map_cons, readNames, ih]

/-- A parameter gives exactly the names that its value lists. -/
theorem namesIn_eq_ok_iff {parameter : String} :
    namesIn values parameter = .ok given ↔ Lists (values.get? parameter) given := by
  constructor
  · intro h
    rcases get?_of_namesIn h with hvalue | hvalue | hvalue
    · rw [namesIn, hvalue] at h
      exact .inl ⟨.inl hvalue, (Except.ok.inj h).symm⟩
    · rw [namesIn, hvalue] at h
      exact .inl ⟨.inr hvalue, (Except.ok.inj h).symm⟩
    · exact .inr hvalue
  · rintro (⟨hvalue | hvalue, rfl⟩ | hvalue)
    · rw [namesIn, hvalue]
    · rw [namesIn, hvalue]
    · rw [namesIn, hvalue]
      exact readNames_strings parameter given

/-- The set of keys: the names that are given, or those that both sides have if none are. -/
def keySet (left right : List Column) (given : List String) : Finset String :=
  if given = [] then (names left).toFinset ∩ (names right).toFinset else given.toFinset

theorem mem_sharedNames {name : String} :
    name ∈ sharedNames left right ↔ name ∈ names left ∧ name ∈ names right := by
  simp only [sharedNames, List.mem_map, List.mem_filter, Column.named_iff]
  constructor
  · rintro ⟨column, ⟨hleft, hright⟩, rfl⟩
    exact ⟨List.mem_map_of_mem hleft, hright⟩
  · rintro ⟨hleft, hright⟩
    obtain ⟨column, hcolumn, rfl⟩ := List.mem_map.mp hleft
    exact ⟨column, ⟨hcolumn, hright⟩, rfl⟩

/-- The keys as they are listed: the given names, or the shared ones if none are given. -/
def listedKeys (left right : List Column) (given : List String) : List String :=
  if given = [] then sharedNames left right else given

/-- The listed keys make up the set of keys. -/
theorem toFinset_listedKeys (left right : List Column) (given : List String) :
    (listedKeys left right given).toFinset = keySet left right given := by
  unfold listedKeys keySet
  split
  · ext name
    simp [mem_sharedNames]
  · rfl

/-- Shared names are on both sides, so only given names can be missing. -/
theorem forall_mem_listedKeys_iff :
    (∀ key ∈ listedKeys left right given, key ∈ names left ∧ key ∈ names right) ↔
      ∀ name ∈ given, name ∈ names left ∧ name ∈ names right := by
  unfold listedKeys
  split
  · next hnone =>
    subst hnone
    simp [mem_sharedNames]
  · rfl

/-- A join uses the listed keys. -/
theorem joinKeys_of_lists (h : Lists (values.get? "on") given) :
    joinKeys left right values = .ok (listedKeys left right given) := by
  rw [joinKeys, namesIn_eq_ok_iff.mpr h, listedKeys]
  simp only [List.isEmpty_iff]

/-! ## Success -/

variable {inputs outputs : PortColumns} {schema : Schema}

/-- A merge succeeds only if its keys are given as a list of names or not at all. -/
theorem exists_lists_of_merge (h : merge inputs values schema = .ok outputs) :
    ∃ given, Lists (values.get? "on") given := by
  obtain ⟨given, hgiven⟩ := checks_merge inputs values schema outputs h
  exact ⟨given, namesIn_eq_ok_iff.mp hgiven⟩

/-- A merge succeeds if its kind is known and both sides have all keys, and gives the columns of the
join. -/
theorem merge_eq_ok_iff (h : Lists (values.get? "on") given) :
    merge inputs values schema = .ok outputs ↔
      checkJoin values = .ok () ∧
      ensureKnown (inputs.on "left")
        (listedKeys (inputs.on "left") (inputs.on "right") given) = .ok () ∧
      ensureKnown (inputs.on "right")
        (listedKeys (inputs.on "left") (inputs.on "right") given) = .ok () ∧
      outputs = publish schema (joined (listedKeys (inputs.on "left") (inputs.on "right") given)
        (inputs.on "left") (inputs.on "right")) := by
  simp only [merge, bind_eq_ok_iff, joinKeys_of_lists h, Except.ok.injEq, exists_eq_left']
  constructor
  · rintro ⟨⟨⟩, hjoin, ⟨⟩, hleft, ⟨⟩, hright, hdone⟩
    exact ⟨hjoin, hleft, hright, (Except.ok.inj hdone).symm⟩
  · rintro ⟨hjoin, hleft, hright, rfl⟩
    exact ⟨(), hjoin, (), hleft, (), hright, rfl⟩

/-! ## Images -/

/-- How a column appears in a join: with the type that it has on its side, and with a suffix on its
name if it is marked. -/
structure IsImage (suffix : String) (marked : Prop) (column image : Column) : Prop where
  /-- The type is kept. -/
  typeLabel_eq : image.typeLabel = column.typeLabel
  /-- A marked column has a suffix. -/
  name_of_marked : marked → image.name = column.name ++ suffix
  /-- Any other column keeps its name. -/
  name_of_not_marked : ¬marked → image.name = column.name

/-- The columns of a join with a set of keys: those that stand for the columns of the left side, and
then those that stand for the columns of the right side that are no keys. -/
structure IsJoin (keys : Finset String) (left right columns : List Column) : Prop where
  /-- Each key saves one column. -/
  length_add : columns.length + keys.card = left.length + right.length
  /-- Every column has one image, in the order of its side. -/
  images : ∃ lefts rights, columns = lefts ++ rights ∧
    List.Forall₂ (fun column image => (column.name ∈ keys → image = column) ∧
      (column.name ∉ keys → IsImage "_x" (column.name ∈ names right) column image)) left lefts ∧
    List.Forall₂ (fun column image => IsImage "_y" (column.name ∈ names left) column image)
      (right.filter fun column => column.name ∉ keys) rights

/-- A column of the left side gets a suffix if the right side has its name and it is no key. -/
theorem leftImage_of_shared {column : Column} (hkey : column.name ∉ keys)
    (hright : column.name ∈ names right) :
    leftImage keys right column = suffixed "_x" column := by
  simp [leftImage, hkey, (Column.named_iff _ _).mpr hright]

theorem leftImage_of_not_shared {column : Column}
    (h : column.name ∈ keys ∨ column.name ∉ names right) :
    leftImage keys right column = column := by
  rcases h with hkey | hright
  · simp [leftImage, hkey]
  · rw [← Column.named_iff, Bool.not_eq_true] at hright
    simp [leftImage, hright]

theorem rightImage_of_mem {column : Column} (h : column.name ∈ names left) :
    rightImage left column = suffixed "_y" column :=
  if_pos ((Column.named_iff _ _).mpr h)

theorem rightImage_of_not_mem {column : Column} (h : column.name ∉ names left) :
    rightImage left column = column :=
  if_neg (mt (Column.named_iff _ _).mp h)

theorem isImage_suffixed {suffix : String} {marked : Prop} (h : marked) (column : Column) :
    IsImage suffix marked column (suffixed suffix column) :=
  ⟨rfl, fun _ => rfl, fun hnot => absurd h hnot⟩

theorem isImage_self {suffix : String} {marked : Prop} (h : ¬marked) (column : Column) :
    IsImage suffix marked column column :=
  ⟨rfl, fun hmarked => absurd hmarked h, fun _ => rfl⟩

/-- A column of the left side that is no key is marked if the right side has its name. -/
theorem isImage_leftImage {column : Column} (h : column.name ∉ keys) :
    IsImage "_x" (column.name ∈ names right) column (leftImage keys right column) := by
  by_cases hright : column.name ∈ names right
  · rw [leftImage_of_shared h hright]
    exact isImage_suffixed hright column
  · rw [leftImage_of_not_shared (.inr hright)]
    exact isImage_self hright column

/-- A column of the right side is marked if the left side has its name. -/
theorem isImage_rightImage (left : List Column) (column : Column) :
    IsImage "_y" (column.name ∈ names left) column (rightImage left column) := by
  by_cases hleft : column.name ∈ names left
  · rw [rightImage_of_mem hleft]
    exact isImage_suffixed hleft column
  · rw [rightImage_of_not_mem hleft]
    exact isImage_self hleft column

/-- As many columns of the right side are keys as there are keys. -/
theorem length_filter_mem {keys : Finset String} (hright : (names right).Nodup)
    (hkeys : ∀ key ∈ keys, key ∈ names right) :
    (right.filter fun column => column.name ∈ keys).length = keys.card := by
  have hset : ((names right).filter (· ∈ keys)).toFinset = keys := by
    ext key
    simpa using hkeys key
  have hcard := List.toFinset_card_of_nodup (hright.filter (· ∈ keys))
  rw [hset, names, List.filter_map, List.length_map] at hcard
  exact hcard.symm

/-- The columns of a merge are images of those of both sides, the left side first. -/
theorem joined_eq (keys : List String) (left right : List Column) :
    joined keys left right = left.map (leftImage keys right) ++
      (right.filter fun column => column.name ∉ keys.toFinset).map (rightImage left) := by
  simp [joined]

/-- The columns of a merge are those of a join. -/
theorem isJoin_joined (hright : (names right).Nodup) (hkeys : ∀ key ∈ keys, key ∈ names right) :
    IsJoin keys.toFinset left right (joined keys left right) := by
  rw [joined_eq]
  constructor
  · have hmem := length_filter_mem hright fun key hkey => hkeys key (List.mem_toFinset.mp hkey)
    have hsplit := List.length_eq_length_filter_add (l := right)
      fun column => decide (column.name ∈ keys.toFinset)
    simp only [List.length_append, List.length_map, decide_not] at hmem hsplit ⊢
    omega
  · refine ⟨_, _, rfl, ?_, ?_⟩
    · rw [List.forall₂_map_right_iff, List.forall₂_same]
      intro column _
      constructor
      · intro hkey
        exact leftImage_of_not_shared (.inl (List.mem_toFinset.mp hkey))
      · intro hkey
        exact isImage_leftImage (mt List.mem_toFinset.mpr hkey)
    · rw [List.forall₂_map_right_iff, List.forall₂_same]
      intro column _
      exact isImage_rightImage left column

/-- If all shared names are keys, no column has a suffix. -/
theorem joined_sharedNames (left right : List Column) :
    joined (sharedNames left right) left right =
      left ++ right.filter fun column => column.name ∉ names left := by
  have hlefts : left.map (leftImage (sharedNames left right) right) = left := by
    refine map_eq_self fun column hcolumn => leftImage_of_not_shared ?_
    by_cases hright : column.name ∈ names right
    · exact .inl (mem_sharedNames.mpr ⟨List.mem_map_of_mem hcolumn, hright⟩)
    · exact .inr hright
  have hrest : (right.filter fun column => column.name ∉ (sharedNames left right).toFinset) =
      right.filter fun column => column.name ∉ names left := by
    refine List.filter_congr fun column hcolumn => ?_
    have hright : column.name ∈ names right := List.mem_map_of_mem hcolumn
    simp [mem_sharedNames, hright]
  have hrights : (right.filter fun column => column.name ∉ names left).map (rightImage left) =
      right.filter fun column => column.name ∉ names left := by
    refine map_eq_self fun column hcolumn => rightImage_of_not_mem ?_
    simpa using (List.mem_filter.mp hcolumn).2
  rw [joined_eq, hlefts, hrest, hrights]

/-! ## Names that occur twice -/

/-- The names that get a suffix: those that both sides have and that are no keys. -/
def marked (keys : Finset String) (left right : List Column) : Finset String :=
  ((names left).toFinset ∩ (names right).toFinset) \ keys

theorem mem_marked {keys : Finset String} {name : String} :
    name ∈ marked keys left right ↔ name ∈ names left ∧ name ∈ names right ∧ name ∉ keys := by
  simp [marked, and_assoc]

/-- A name in a join, with a suffix if it gets one. -/
def imageName (marks : Finset String) (suffix name : String) : String :=
  if name ∈ marks then name ++ suffix else name

theorem name_leftImage {column : Column} (h : column ∈ left) :
    (leftImage keys right column).name =
      imageName (marked keys.toFinset left right) "_x" column.name := by
  have hname : column.name ∈ names left := List.mem_map_of_mem h
  unfold imageName
  split
  · next hmarked =>
    obtain ⟨-, hright, hkey⟩ := mem_marked.mp hmarked
    rw [leftImage_of_shared (mt List.mem_toFinset.mpr hkey) hright]
    rfl
  · next hplain =>
    rw [leftImage_of_not_shared]
    by_contra hshared
    push Not at hshared
    exact hplain (mem_marked.mpr ⟨hname, hshared.2, mt List.mem_toFinset.mp hshared.1⟩)

theorem name_rightImage {column : Column} (h : column ∈ right)
    (hkey : column.name ∉ keys.toFinset) :
    (rightImage left column).name =
      imageName (marked keys.toFinset left right) "_y" column.name := by
  have hname : column.name ∈ names right := List.mem_map_of_mem h
  unfold imageName
  split
  · next hmarked =>
    rw [rightImage_of_mem (mem_marked.mp hmarked).1]
    rfl
  · next hplain =>
    rw [rightImage_of_not_mem]
    intro hleft
    exact hplain (mem_marked.mpr ⟨hleft, hname, hkey⟩)

/-- The names of a join are images of the names of both sides. -/
theorem names_joined (keys : List String) (left right : List Column) :
    names (joined keys left right) =
      (names left).map (imageName (marked keys.toFinset left right) "_x") ++
      ((names right).filter (· ∉ keys.toFinset)).map
        (imageName (marked keys.toFinset left right) "_y") := by
  rw [joined_eq, names, names, names, List.map_append, List.filter_map, List.map_map, List.map_map,
    List.map_map, List.map_map]
  congr 1
  · exact List.map_congr_left fun column hcolumn => name_leftImage hcolumn
  · refine List.map_congr_left fun column hcolumn => ?_
    obtain ⟨hmem, hkey⟩ := List.mem_filter.mp hcolumn
    exact name_rightImage hmem (by simpa using hkey)

section Clashes

variable {marks : Finset String} {lefts rights : List String} {suffix name : String}

theorem imageName_of_mem (h : name ∈ marks) : imageName marks suffix name = name ++ suffix :=
  if_pos h

theorem imageName_of_not_mem (h : name ∉ marks) : imageName marks suffix name = name :=
  if_neg h

/-- Names stay different on a side if no suffixed name is that of a column without a suffix. -/
theorem eq_of_imageName_eq {taken : List String} {first second : String}
    (hclear : ∀ name ∈ marks, name ++ suffix ∈ taken → name ++ suffix ∈ marks)
    (hfirst : first ∈ taken) (hsecond : second ∈ taken)
    (heq : imageName marks suffix first = imageName marks suffix second) : first = second := by
  by_cases hone : first ∈ marks <;> by_cases htwo : second ∈ marks
  · rw [imageName_of_mem hone, imageName_of_mem htwo] at heq
    exact (String.append_left_inj _).mp heq
  · rw [imageName_of_mem hone, imageName_of_not_mem htwo] at heq
    exact absurd (heq ▸ hclear first hone (heq ▸ hsecond)) htwo
  · rw [imageName_of_not_mem hone, imageName_of_mem htwo] at heq
    exact absurd (heq ▸ hclear second htwo (heq ▸ hfirst)) hone
  · rw [imageName_of_not_mem hone, imageName_of_not_mem htwo] at heq
    exact heq

/-- The sides have different suffixes, so a suffixed name of one can only meet a plain name of the
other. -/
theorem imageName_ne {first second : String}
    (hmarks : ∀ name, name ∈ marks ↔ name ∈ lefts ∧ name ∈ rights)
    (hclear : ∀ name ∈ marks, ∀ suffix ∈ ["_x", "_y"],
      name ++ suffix ∈ lefts ++ rights → name ++ suffix ∈ marks)
    (hfirst : first ∈ lefts) (hsecond : second ∈ rights) :
    imageName marks "_x" first ≠ imageName marks "_y" second := by
  intro heq
  by_cases hone : first ∈ marks <;> by_cases htwo : second ∈ marks
  · rw [imageName_of_mem hone, imageName_of_mem htwo] at heq
    have hlast := congrArg (fun text => text.toList.getLast?) heq
    simp at hlast
  · rw [imageName_of_mem hone, imageName_of_not_mem htwo] at heq
    have hplain : first ++ "_x" ∈ lefts ++ rights := heq ▸ List.mem_append_right _ hsecond
    exact htwo (heq ▸ hclear first hone "_x" (by simp) hplain)
  · rw [imageName_of_not_mem hone, imageName_of_mem htwo] at heq
    have hplain : second ++ "_y" ∈ lefts ++ rights := heq ▸ List.mem_append_left _ hfirst
    exact hone (heq ▸ hclear second htwo "_y" (by simp) hplain)
  · rw [imageName_of_not_mem hone, imageName_of_not_mem htwo] at heq
    exact hone ((hmarks first).mpr ⟨hfirst, heq ▸ hsecond⟩)

/-- The names of two sides, of which shared ones get a suffix, are different exactly if no suffixed
name is one that stays without a suffix. -/
theorem nodup_imageNames_iff (hlefts : lefts.Nodup) (hrights : rights.Nodup)
    (hmarks : ∀ name, name ∈ marks ↔ name ∈ lefts ∧ name ∈ rights) :
    (lefts.map (imageName marks "_x") ++ rights.map (imageName marks "_y")).Nodup ↔
      ∀ name ∈ marks, ∀ suffix ∈ ["_x", "_y"],
        name ++ suffix ∈ lefts ++ rights → name ++ suffix ∈ marks := by
  rw [List.nodup_append]
  constructor
  · rintro ⟨honLeft, honRight, hapart⟩ name hname suffix hsuffix htaken
    obtain ⟨hleft, hright⟩ := (hmarks name).mp hname
    by_contra hplain
    -- the suffixed name and the plain one are images of different names
    have hne : name ≠ name ++ suffix := fun heq => hplain (heq ▸ hname)
    have hsame (other : String) :
        imageName marks suffix name = imageName marks other (name ++ suffix) := by
      rw [imageName_of_mem hname, imageName_of_not_mem hplain]
    simp only [List.mem_cons, List.not_mem_nil, or_false] at hsuffix
    rcases hsuffix with rfl | rfl <;> rcases List.mem_append.mp htaken with hother | hother
    · exact hne (List.inj_on_of_nodup_map honLeft hleft hother (hsame "_x"))
    · exact hapart _ (List.mem_map_of_mem hleft) _ (List.mem_map_of_mem hother) (hsame "_y")
    · exact hapart _ (List.mem_map_of_mem hother) _ (List.mem_map_of_mem hright) (hsame "_x").symm
    · exact hne (List.inj_on_of_nodup_map honRight hright hother (hsame "_y"))
  · intro hclear
    have hclearX (name) (hname : name ∈ marks) := hclear name hname "_x" (by simp)
    have hclearY (name) (hname : name ∈ marks) := hclear name hname "_y" (by simp)
    refine ⟨hlefts.map_on fun first hfirst second hsecond => ?_,
      hrights.map_on fun first hfirst second hsecond => ?_, ?_⟩
    · exact eq_of_imageName_eq hclearX (List.mem_append_left _ hfirst)
        (List.mem_append_left _ hsecond)
    · exact eq_of_imageName_eq hclearY (List.mem_append_right _ hfirst)
        (List.mem_append_right _ hsecond)
    · intro image himage other hother
      obtain ⟨first, hfirst, rfl⟩ := List.mem_map.mp himage
      obtain ⟨second, hsecond, rfl⟩ := List.mem_map.mp hother
      exact imageName_ne hmarks hclear hfirst hsecond

end Clashes

/-- No name occurs twice in a join exactly if no suffixed name is that of a column without a
suffix. -/
theorem nodup_names_joined_iff (hleft : (names left).Nodup) (hright : (names right).Nodup)
    (hkeys : left = [] ∨ ∀ key ∈ keys, key ∈ names left) :
    (names (joined keys left right)).Nodup ↔
      ∀ name ∈ marked keys.toFinset left right, ∀ suffix ∈ ["_x", "_y"],
        name ++ suffix ∈ names left ++ names right →
          name ++ suffix ∈ marked keys.toFinset left right := by
  have hmarks (name : String) : name ∈ marked keys.toFinset left right ↔
      name ∈ names left ∧ name ∈ (names right).filter (· ∉ keys.toFinset) := by
    simp [mem_marked]
  rw [names_joined, nodup_imageNames_iff hleft (hright.filter _) hmarks]
  refine forall₂_congr fun name hname => forall₂_congr fun suffix _ => imp_congr_left ?_
  -- a name is marked, so the left side has columns and hence all keys
  have hknown : ∀ key ∈ keys, key ∈ names left := by
    refine hkeys.resolve_left ?_
    rintro rfl
    exact List.not_mem_nil (mem_marked.mp hname).1
  rw [List.mem_append, List.mem_append, List.mem_filter]
  constructor
  · exact Or.imp_right And.left
  · rintro (hinLeft | hinRight)
    · exact .inl hinLeft
    · by_cases hkey : name ++ suffix ∈ keys
      · exact .inl (hknown _ hkey)
      · exact .inr ⟨hinRight, by simpa using hkey⟩

/-! ## Joins of frames -/

/-- A join of an accepted kind succeeds exactly if its keys are left open, or given as a list of
names that both sides have. It has the columns of a join with these keys, or with all shared names
as keys if none are given, and in this case no column has a suffix. -/
theorem merge_joins (schema : Schema) {how : String} (hhow : values.get? "how" = some (.string how))
    (hjoin : how ∈ joinTypes) (hleft : inputs.on "left" ≠ []) (hright : inputs.on "right" ≠ [])
    (hnames : (names (inputs.on "right")).Nodup) :
    let left := inputs.on "left"
    let right := inputs.on "right"
    ((∃ outputs, merge inputs values schema = .ok outputs) ↔
      ∃ given, Lists (values.get? "on") given ∧
        ∀ name ∈ given, name ∈ names left ∧ name ∈ names right) ∧
    ∀ given outputs, Lists (values.get? "on") given → merge inputs values schema = .ok outputs →
      ∃ columns, outputs = publish schema columns ∧
        IsJoin (keySet left right given) left right columns ∧
        (given = [] → columns = left ++ right.filter fun column => column.name ∉ names left) := by
  intro left right
  have hkind : checkJoin values = .ok () := by simp [checkJoin, hhow, hjoin]
  have hknown (given : List String) :
      (ensureKnown left (listedKeys left right given) = .ok () ∧
        ensureKnown right (listedKeys left right given) = .ok ()) ↔
      ∀ name ∈ given, name ∈ names left ∧ name ∈ names right := by
    rw [ensureKnown_eq_ok_iff, ensureKnown_eq_ok_iff, or_iff_right hleft, or_iff_right hright,
      ← forall₂_and, forall_mem_listedKeys_iff]
  refine ⟨⟨?_, ?_⟩, ?_⟩
  · rintro ⟨outputs, h⟩
    obtain ⟨given, hgiven⟩ := exists_lists_of_merge h
    obtain ⟨-, honLeft, honRight, -⟩ := (merge_eq_ok_iff hgiven).mp h
    exact ⟨given, hgiven, (hknown given).mp ⟨honLeft, honRight⟩⟩
  · rintro ⟨given, hgiven, hall⟩
    obtain ⟨honLeft, honRight⟩ := (hknown given).mpr hall
    exact ⟨_, (merge_eq_ok_iff hgiven).mpr ⟨hkind, honLeft, honRight, rfl⟩⟩
  · intro given outputs hgiven h
    obtain ⟨-, -, honRight, rfl⟩ := (merge_eq_ok_iff hgiven).mp h
    refine ⟨_, rfl, ?_, ?_⟩
    · rw [← toFinset_listedKeys]
      exact isJoin_joined hnames ((ensureKnown_eq_ok_iff.mp honRight).resolve_left hright)
    · rintro rfl
      exact joined_sharedNames left right

/-- Two frames that share a key and another column, with a value that gives the key twice. -/
def sampleSides : PortColumns × Values :=
  (.ofList [("left", [⟨"id", "int64"⟩, ⟨"name", "object"⟩, ⟨"total", "float64"⟩]),
      ("right", [⟨"total", "int64"⟩, ⟨"extra", "bool"⟩, ⟨"id", "object"⟩])],
    .ofList [("how", .string "outer"), ("on", .array [.string "id", .string "id"])])

/-- A key that is given twice is joined once, and the other shared column appears twice. -/
theorem merge_joins_sampleSides :
    let (inputs, values) := sampleSides
    values.get? "how" = some (.string "outer") ∧ "outer" ∈ joinTypes ∧
      inputs.on "left" ≠ [] ∧ inputs.on "right" ≠ [] ∧ (names (inputs.on "right")).Nodup ∧
      ∃ columns, merge inputs values Catalog.merge = .ok (publish Catalog.merge columns) ∧
        IsJoin {"id"} (inputs.on "left") (inputs.on "right") columns ∧ columns.length = 5 := by
  have hhow : sampleSides.2.get? "how" = some (.string "outer") := rfl
  have hgiven : Lists (sampleSides.2.get? "on") ["id", "id"] := .inr rfl
  have hleft : sampleSides.1.on "left" ≠ [] := by decide
  have hright : sampleSides.1.on "right" ≠ [] := by decide
  have hnames : (names (sampleSides.1.on "right")).Nodup := by decide
  obtain ⟨hiff, hafter⟩ := merge_joins Catalog.merge hhow (by decide) hleft hright hnames
  obtain ⟨outputs, hdone⟩ := hiff.mpr ⟨["id", "id"], hgiven, by decide⟩
  obtain ⟨columns, rfl, hcolumns, -⟩ := hafter _ outputs hgiven hdone
  have hkeys :
      keySet (sampleSides.1.on "left") (sampleSides.1.on "right") ["id", "id"] = {"id"} := by
    decide
  rw [hkeys] at hcolumns
  refine ⟨hhow, by decide, hleft, hright, hnames, columns, hdone, hcolumns, ?_⟩
  have hlength : columns.length + 1 = 3 + 3 := hcolumns.length_add
  omega

/-- Where no name occurs twice on either side of a join that succeeds, none occurs twice in the join
exactly if no suffixed name is that of a column without a suffix. -/
theorem nodup_names_merge_iff (hleft : (names (inputs.on "left")).Nodup)
    (hright : (names (inputs.on "right")).Nodup) (h : merge inputs values schema = .ok outputs) :
    let left := inputs.on "left"
    let right := inputs.on "right"
    ∃ given, Lists (values.get? "on") given ∧
      ∀ port columns, outputs.get? port = some columns →
        ((names columns).Nodup ↔
          ∀ name ∈ marked (keySet left right given) left right, ∀ suffix ∈ ["_x", "_y"],
            name ++ suffix ∈ names left ++ names right →
              name ++ suffix ∈ marked (keySet left right given) left right) := by
  intro left right
  obtain ⟨given, hgiven⟩ := exists_lists_of_merge h
  obtain ⟨-, hknown, -, rfl⟩ := (merge_eq_ok_iff hgiven).mp h
  refine ⟨given, hgiven, fun port columns hport => ?_⟩
  obtain rfl : joined (listedKeys left right given) left right = columns := by
    rw [Propagation.get?_publish] at hport
    split at hport
    · exact Option.some.inj hport
    · contradiction
  rw [← toFinset_listedKeys]
  exact nodup_names_joined_iff hleft hright (ensureKnown_eq_ok_iff.mp hknown)

/-- Two frames in which a suffixed name is that of a column, but one with a suffix of its own, and
the columns of their join. -/
def sampleChain : PortColumns × Values × List Column :=
  (.ofList [("left", [⟨"id", "int64"⟩, ⟨"a", "int64"⟩, ⟨"a_x", "object"⟩]),
      ("right", [⟨"a_x", "float64"⟩, ⟨"id", "int64"⟩, ⟨"a", "bool"⟩])],
    .ofList [("how", .string "inner"), ("on", .array [.string "id"])],
    [⟨"id", "int64"⟩, ⟨"a_x", "int64"⟩, ⟨"a_x_x", "object"⟩, ⟨"a_x_y", "float64"⟩, ⟨"a_y", "bool"⟩])

/-- A suffixed name that is taken does no harm where its column gets a suffix as well. -/
theorem nodup_names_merge_iff_sampleChain :
    let (inputs, values, columns) := sampleChain
    (names (inputs.on "left")).Nodup ∧ (names (inputs.on "right")).Nodup ∧
      merge inputs values Catalog.merge = .ok (publish Catalog.merge columns) ∧
      (names columns).Nodup := by
  have hleft : (names (sampleChain.1.on "left")).Nodup := by decide
  have hright : (names (sampleChain.1.on "right")).Nodup := by decide
  have hdone : merge sampleChain.1 sampleChain.2.1 Catalog.merge =
      .ok (publish Catalog.merge sampleChain.2.2) := rfl
  have hlisted : namesIn sampleChain.2.1 "on" = .ok ["id"] := rfl
  obtain ⟨given, hgiven, hnodup⟩ := nodup_names_merge_iff hleft hright hdone
  obtain rfl : given = ["id"] := by
    rw [namesIn_eq_ok_iff.mpr hgiven] at hlisted
    exact Except.ok.inj hlisted
  refine ⟨hleft, hright, hdone, (hnodup "data" sampleChain.2.2 rfl).mpr ?_⟩
  decide

/-- Two frames that share a key and another column, where the left one has a column under the name
that the other column gets. -/
def sampleClash : PortColumns × Values :=
  (.ofList [("left", [⟨"id", "int64"⟩, ⟨"a", "int64"⟩, ⟨"a_x", "object"⟩]),
      ("right", [⟨"id", "int64"⟩, ⟨"a", "bool"⟩])],
    .ofList [("how", .string "inner"), ("on", .array [.string "id"])])

/-- The join of these frames succeeds and has a name twice. -/
theorem names_merge_sampleClash :
    let (inputs, values) := sampleClash
    (names (inputs.on "left")).Nodup ∧ (names (inputs.on "right")).Nodup ∧
      ∃ outputs columns, merge inputs values Catalog.merge = .ok outputs ∧
        outputs.get? "data" = some columns ∧ names columns = ["id", "a_x", "a_x", "a_y"] ∧
        ¬(names columns).Nodup :=
  ⟨by decide, by decide, _, _, rfl, rfl, by decide, by decide⟩

end Dataflow.Transform
