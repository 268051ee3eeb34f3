import Dataflow.Proofs.Literals
import Mathlib.Data.List.DropRight

/-!
# Paths of data sets

The path of a data set is brought into one form: it has slashes only and begins with the folder of
data sets. A path in this form stays as it is. Under a root directory the separators at the end of
the root are dropped and the separator of the root takes the place of every slash, so what stands
there depends on the form of the path only.
-/

namespace Dataflow.Literal

/-! ## The form of a path -/

theorem backslash_not_mem_map_slashed (path : List Char) : '\\' ∉ path.map slashed := by
  intro h
  obtain ⟨c, -, hc⟩ := List.mem_map.mp h
  unfold slashed at hc
  split at hc
  · exact absurd hc (by decide)
  · contradiction

/-- Nothing is added to a path whose start is stripped. -/
theorem stripStart_suffix (path : List Char) : stripStart path <:+ path := by
  unfold stripStart
  refine List.IsSuffix.trans (List.dropWhile_suffix _) ?_
  split
  · exact ⟨['.', '/'], rfl⟩
  · exact List.suffix_refl _

/-- A path of a data set begins with the folder of data sets. -/
theorem datasetFolder_prefix_datasetPath (path : List Char) :
    datasetFolder <+: datasetPath path := by
  unfold datasetPath
  dsimp only
  split
  · next hstarts => exact List.isPrefixOf_iff_prefix.mp hstarts
  · exact List.prefix_append _ _

/-- A path under the folder has slashes only. -/
theorem backslash_not_mem_datasetPath (path : List Char) : '\\' ∉ datasetPath path := by
  have hstripped : '\\' ∉ stripStart (path.map slashed) := fun h =>
    backslash_not_mem_map_slashed path ((stripStart_suffix _).subset h)
  unfold datasetPath
  dsimp only
  split
  · exact hstripped
  · rw [List.mem_append, not_or]
    exact ⟨by decide, hstripped⟩

/-- A path under the folder has no character but those of the path and the folder. -/
theorem mem_datasetPath {path : List Char} {c : Char} (h : c ∈ datasetPath path) :
    c ∈ path ∨ c ∈ datasetFolder := by
  have hstripped : c ∈ stripStart (path.map slashed) → c ∈ path ∨ c ∈ datasetFolder := by
    intro hmem
    obtain ⟨d, hd, rfl⟩ := List.mem_map.mp ((stripStart_suffix _).subset hmem)
    unfold slashed
    split
    · exact .inr (by decide)
    · exact .inl hd
  unfold datasetPath at h
  dsimp only at h
  split at h
  · exact hstripped h
  · rcases List.mem_append.mp h with hfolder | hmem
    · exact .inr hfolder
    · exact hstripped hmem

/-- A path that begins with the folder of data sets and has no backslash stays as it is. -/
theorem datasetPath_eq_self {path : List Char} (hfolder : datasetFolder <+: path)
    (hback : '\\' ∉ path) : datasetPath path = path := by
  have hslashed : path.map slashed = path := by
    refine (List.map_congr_left fun c hc => ?_).trans (List.map_id path)
    have hne : c ≠ '\\' := fun heq => hback (heq ▸ hc)
    rw [slashed, if_neg hne, id]
  have hstripped : stripStart path = path := by
    obtain ⟨rest, rfl⟩ := hfolder
    rfl
  rw [datasetPath, hslashed, hstripped, if_pos (List.isPrefixOf_iff_prefix.mpr hfolder)]

/-- A path under the folder is left as it is. -/
theorem datasetPath_datasetPath (path : List Char) :
    datasetPath (datasetPath path) = datasetPath path :=
  datasetPath_eq_self (datasetFolder_prefix_datasetPath path) (backslash_not_mem_datasetPath path)

/-! ## Root directories -/

/-- The separator is a backslash if the root has backslashes and no slash. -/
theorem separator_eq_backslash_iff (root : List Char) :
    separator root = '\\' ↔ '\\' ∈ root ∧ '/' ∉ root := by
  unfold separator
  split <;> simp_all

theorem separator_cases (root : List Char) : separator root = '\\' ∨ separator root = '/' := by
  unfold separator
  split
  · exact .inl rfl
  · exact .inr rfl

/-- Trimming a root takes separators from its end until another character is last. -/
theorem exists_trimRoot_append (root : List Char) :
    (∃ count, root = trimRoot root ++ List.replicate count (separator root)) ∧
      (trimRoot root).getLast? ≠ some (separator root) := by
  have htrimmed : trimRoot root = root.rdropWhile (· == separator root) := rfl
  rw [htrimmed]
  refine ⟨⟨(root.rtakeWhile (· == separator root)).length, ?_⟩, fun hlast => ?_⟩
  · have hends : ∀ c ∈ root.rtakeWhile (· == separator root), c = separator root :=
      fun c hc => by simpa using List.mem_rtakeWhile_imp hc
    rw [← List.eq_replicate_of_mem hends, List.rdropWhile_append_rtakeWhile]
  · have hne : root.rdropWhile (· == separator root) ≠ [] := by
      intro hnil
      rw [hnil] at hlast
      contradiction
    refine List.rdropWhile_last_not _ root hne ?_
    rw [List.getLast?_eq_some_getLast hne, Option.some_inj] at hlast
    rw [hlast, beq_self_eq_true]

/-- Under a root with backslashes no slash is left. -/
theorem slash_not_mem_joinRoot {root : List Char} (h : separator root = '\\') (path : List Char) :
    '/' ∉ joinRoot root path := by
  have hroot : '/' ∉ trimRoot root := fun hmem =>
    ((separator_eq_backslash_iff root).mp h).2 ((List.rdropWhile_prefix _ root).subset hmem)
  have hpath : '/' ∉ path.map fun c => if c = '/' then separator root else c := by
    intro hmem
    obtain ⟨c, -, hc⟩ := List.mem_map.mp hmem
    rw [h] at hc
    split at hc
    · exact absurd hc (by decide)
    · contradiction
  rw [joinRoot, List.mem_append, List.mem_cons]
  rintro (hmem | hsep | hmem)
  · exact hroot hmem
  · rw [h] at hsep
    exact absurd hsep (by decide)
  · exact hpath hmem

/-- Joining brings in no character but the separator. -/
theorem mem_joinRoot {root path : List Char} {c : Char} (h : c ∈ joinRoot root path) :
    c ∈ root ∨ c = separator root ∨ c ∈ path := by
  rw [joinRoot, List.mem_append, List.mem_cons, List.mem_map] at h
  rcases h with hroot | hsep | ⟨d, hd, rfl⟩
  · exact .inl ((List.rdropWhile_prefix _ root).subset hroot)
  · exact .inr (.inl hsep)
  · by_cases hslash : d = '/'
    · exact .inr (.inl (if_pos hslash))
    · rw [if_neg hslash]
      exact .inr (.inr hd)

/-- A resolved path holds separators, the characters of the folder of data sets and those that the
path and the root have. -/
theorem mem_resolvePath {path : List Char} {root : Option String} {c : Char}
    (h : c ∈ resolvePath path root) :
    c ∈ path ∨ (∃ folder, root = some folder ∧ c ∈ folder.toList) ∨ c ∈ '\\' :: datasetFolder := by
  have hpath : c ∈ datasetPath path → c ∈ path ∨ c ∈ '\\' :: datasetFolder := fun hmem =>
    (mem_datasetPath hmem).imp_right (List.mem_cons_of_mem _)
  cases root with
  | none => exact (hpath h).imp_right .inr
  | some folder =>
    rw [resolvePath] at h
    split at h
    · exact (hpath h).imp_right .inr
    · rcases mem_joinRoot h with hfolder | hsep | hmem
      · exact .inr (.inl ⟨folder, rfl, hfolder⟩)
      · rcases separator_cases folder.toList with hback | hslash
        · rw [hsep, hback]
          exact .inr (.inr (by decide))
        · rw [hsep, hslash]
          exact .inr (.inr (by decide))
      · exact (hpath hmem).imp_right .inr

/-! ## What a path denotes -/

/-- The literal of a path is read back as the resolved path. -/
theorem read_filePath (path : String) (root : Option String) :
    read (filePath path root) = some (.string (String.ofList (resolvePath path.toList root))) := by
  have hread := read_nested (.string (String.ofList (resolvePath path.toList root)))
  rwa [nested, String.toList_ofList] at hread

/-- Under a root the path below the folder is joined to it. -/
theorem resolvePath_some {root : String} (h : root ≠ "") (path : List Char) :
    resolvePath path (some root) = joinRoot root.toList (datasetPath path) := by
  have hne : root.toList.isEmpty = false := by simpa using h
  rw [resolvePath, hne, if_neg Bool.false_ne_true]

/-- A path under a root directory: the root without the separators at its end, one separator, and
the path with that separator in place of slashes. -/
structure IsJoined (root relative joined : List Char) (sep : Char) (base : List Char) : Prop where
  /-- A backslash separates only if the root has one and no slash. -/
  backslash_iff : sep = '\\' ↔ '\\' ∈ root ∧ '/' ∉ root
  /-- Otherwise a slash separates. -/
  slash : sep ≠ '\\' → sep = '/'
  /-- Nothing but separators is taken from the root. -/
  root_eq : ∃ count, root = base ++ List.replicate count sep
  /-- No separator is left at its end. -/
  last : base.getLast? ≠ some sep
  /-- The path stands below what is left of the root. -/
  joined_eq : joined = base ++ sep :: relative.map fun c => if c = '/' then sep else c

/-- Joining puts one separator between the root and the path. -/
theorem isJoined_joinRoot (root relative : List Char) :
    IsJoined root relative (joinRoot root relative) (separator root) (trimRoot root) where
  backslash_iff := separator_eq_backslash_iff root
  slash := (separator_cases root).resolve_left
  root_eq := (exists_trimRoot_append root).1
  last := (exists_trimRoot_append root).2
  joined_eq := rfl

/-- Without a root a path denotes one that begins with the folder of data sets, has no backslash and
denotes itself. Under a root it denotes that path joined to the root, as does the path that it
denotes without a root; and if the separator of the root is a backslash, no slash is left. -/
theorem filePath_denotes (path : String) :
    ∃ relative : String, read (filePath path none) = some (.string relative) ∧
      "dataset/".toList <+: relative.toList ∧ '\\' ∉ relative.toList ∧
      read (filePath relative none) = some (.string relative) ∧
      ∀ root : String, root ≠ "" → ∃ (joined : String) (sep : Char) (base : List Char),
        read (filePath path (some root)) = some (.string joined) ∧
        IsJoined root.toList relative.toList joined.toList sep base ∧
        filePath relative (some root) = filePath path (some root) ∧
        (sep = '\\' → '/' ∉ joined.toList) := by
  have hrelative : (String.ofList (datasetPath path.toList)).toList = datasetPath path.toList :=
    String.toList_ofList
  refine ⟨String.ofList (datasetPath path.toList), read_filePath path none, ?_, ?_, ?_, ?_⟩
  · rw [hrelative]
    exact datasetFolder_prefix_datasetPath path.toList
  · rw [hrelative]
    exact backslash_not_mem_datasetPath path.toList
  · rw [read_filePath, resolvePath, hrelative, datasetPath_datasetPath]
  · intro root hroot
    refine ⟨_, separator root.toList, trimRoot root.toList, read_filePath path (some root), ?_, ?_,
      ?_⟩
    · rw [hrelative, String.toList_ofList, resolvePath_some hroot]
      exact isJoined_joinRoot root.toList (datasetPath path.toList)
    · rw [filePath, filePath, hrelative, resolvePath_some hroot, resolvePath_some hroot,
        datasetPath_datasetPath]
    · intro hsep
      rw [String.toList_ofList, resolvePath_some hroot]
      exact slash_not_mem_joinRoot hsep _

/-- Under a root with backslashes a path is written with backslashes throughout. -/
theorem filePath_denotes_sampleRoot :
    "C:\\work\\\\" ≠ "" ∧
      filePath ".\\data\\a'b.csv" (some "C:\\work\\\\") =
        "'C:\\\\work\\\\dataset\\\\data\\\\a\\'b.csv'".toList ∧
      ∃ (relative joined : String) (sep : Char) (base : List Char),
        read (filePath ".\\data\\a'b.csv" none) = some (.string relative) ∧
        read (filePath ".\\data\\a'b.csv" (some "C:\\work\\\\")) = some (.string joined) ∧
        IsJoined "C:\\work\\\\".toList relative.toList joined.toList sep base ∧
        sep = '\\' ∧ '/' ∉ joined.toList := by
  obtain ⟨relative, hrelative, -, -, -, hroots⟩ := filePath_denotes ".\\data\\a'b.csv"
  obtain ⟨joined, sep, base, hjoined, hunder, -, hslash⟩ := hroots "C:\\work\\\\" (by decide)
  have hsep : sep = '\\' := hunder.backslash_iff.mpr (by decide)
  exact ⟨by decide, by rfl, relative, joined, sep, base, hrelative, hjoined, hunder, hsep,
    hslash hsep⟩

end Dataflow.Literal
