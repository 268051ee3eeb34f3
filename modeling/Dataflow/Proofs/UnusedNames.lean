import Dataflow.Proofs.Variable

/-!
# The search for unused names

Ports are bound one after the other. The search for the variable of a port starts with the plain
name and goes on with numbers from two for as long as the name at hand is in use. Each turn gives up
a name in use and never comes back to it, so there are at most as many turns as earlier ports, also
when the name of one port looks like a numbered name of another. What is found depends on earlier
ports only, hence ports that are added behind others leave their variables alone.
-/

namespace Dataflow.Variable

/-! ## Turns -/

/-- A search under way. -/
structure Search where
  /-- The name at hand. -/
  current : String
  /-- The number of the name that comes next. -/
  number : Nat

namespace Search

variable {used : List String} {base : String}

/-- The search for an unused name begins with the name itself. -/
def start (base : String) : Search := ⟨base, 2⟩

/-- The search at the next name. -/
def advance (base : String) (search : Search) : Search :=
  ⟨numbered base search.number, search.number + 1⟩

/-- One turn. A name in use gives way to the next one, and a name that is not in use ends the
search. -/
def next? (used : List String) (base : String) (search : Search) : Option Search :=
  if search.current ∈ used then some (search.advance base) else none

/-- A search comes to its end after a number of turns, with a name. -/
inductive Ends (used : List String) (base : String) : Search → Nat → String → Prop where
  /-- The name at hand is not in use. -/
  | here {search : Search} (h : search.next? used base = none) :
    Ends used base search 0 search.current
  /-- The name at hand is in use, and the search goes on. -/
  | later {search next : Search} {turns : Nat} {name : String}
    (h : search.next? used base = some next) (hrest : Ends used base next turns name) :
    Ends used base search (turns + 1) name

/-- The name at hand and those behind it, `count` in all. -/
def upcoming (base : String) : Nat → Search → List String
  | 0, _ => []
  | count + 1, search => search.current :: upcoming base count (search.advance base)

theorem upcoming_succ (base : String) (count : Nat) (search : Search) :
    upcoming base (count + 1) search =
      search.current :: (List.range count).map fun i => numbered base (i + search.number) := by
  induction count generalizing search with
  | zero => rfl
  | succ count ih =>
    rw [upcoming, ih, List.range_succ_eq_map, List.map_cons, List.map_map, Nat.zero_add]
    congr 2
    refine List.map_congr_left fun i _ => congrArg (numbered base) ?_
    simp only [advance]
    omega

/-- The names that are tried are those of the search from its start. -/
theorem candidates_eq_upcoming (base : String) (count : Nat) :
    candidates base count = upcoming base (count + 1) (start base) :=
  (upcoming_succ base count (start base)).symm

/-- A search ends at the first name that is not in use, with one turn for each name before it. -/
theorem ends_of_find? {count : Nat} {search : Search} {found : String}
    (h : (upcoming base count search).find? (fun name => !used.contains name) = some found) :
    ∃ turns < count, Ends used base search turns found := by
  induction count generalizing search with
  | zero => contradiction
  | succ count ih =>
    rw [upcoming] at h
    by_cases hused : search.current ∈ used
    · rw [List.find?_cons_of_neg (by simpa using hused)] at h
      obtain ⟨turns, hturns, hends⟩ := ih h
      exact ⟨turns + 1, by omega, .later (if_pos hused) hends⟩
    · rw [List.find?_cons_of_pos (by simpa using hused)] at h
      obtain rfl := Option.some.inj h
      exact ⟨0, by omega, .here (if_neg hused)⟩

end Search

/-! ## What is found -/

variable (used : List String) (base : String)

/-- There are at most as many turns as names in use. -/
theorem ends_firstUnused :
    ∃ turns ≤ used.length, Search.Ends used base (.start base) turns (firstUnused used base) := by
  have hfound := find?_candidates used base
  rw [Search.candidates_eq_upcoming] at hfound
  obtain ⟨turns, hturns, hends⟩ := Search.ends_of_find? hfound
  exact ⟨turns, Nat.le_of_lt_succ hturns, hends⟩

/-- The plain name is found, or the plain name with a number from two to one more than the number of
names in use. -/
theorem firstUnused_cases :
    firstUnused used base = base ∨ ∃ number, 2 ≤ number ∧ number ≤ used.length + 1 ∧
      firstUnused used base = numbered base number := by
  rcases List.mem_cons.mp (firstUnused_spec used base).1 with hplain | hnumbered
  · exact .inl hplain
  · obtain ⟨i, hi, heq⟩ := List.mem_map.mp hnumbered
    have hlt := List.mem_range.mp hi
    exact .inr ⟨i + 2, by omega, by omega, heq.symm⟩

variable {used base}

/-- A name that is not in use is taken as it is. -/
theorem firstUnused_of_not_mem (h : base ∉ used) : firstUnused used base = base := by
  rw [firstUnused, candidates, List.find?_cons_of_pos (by simpa using h), Option.getD_some]

/-- The order of the names in use does not matter. -/
theorem firstUnused_perm {other : List String} (h : used.Perm other) :
    firstUnused used base = firstUnused other base := by
  have hcontains : used.contains = other.contains := by
    funext name
    rw [Bool.eq_iff_iff, List.contains_iff_mem, List.contains_iff_mem, h.mem_iff]
  rw [firstUnused, firstUnused, h.length_eq, hcontains]

/-! ## Ports in order -/

/-- The ports in front are bound without regard to those behind them, whose search starts with all
earlier variables in use. -/
theorem bindFrom_append (ordinal : UInt32) (used front rest : List String) :
    bindFrom ordinal used (front ++ rest) =
      bindFrom ordinal used front ++
        bindFrom ordinal (((bindFrom ordinal used front).map Binding.name).reverse ++ used)
          rest := by
  induction front generalizing used with
  | nil => rfl
  | cons port front ih => simp [bindFrom, ih]

/-- Further ports do not change how the first ones are bound. -/
theorem bindPorts_prefix (ordinal : UInt32) (ports more : List String) :
    bindPorts ordinal ports <+: bindPorts ordinal (ports ++ more) := by
  rw [bindPorts, bindPorts, bindFrom_append]
  exact List.prefix_append _ _

/-- The variable of a port is the one that the search finds behind earlier ports. -/
theorem name_eq_firstUnused {ordinal : UInt32} {ports : List String} {before after : List Binding}
    {binding : Binding} (h : bindPorts ordinal ports = before ++ binding :: after) :
    binding.name = firstUnused (before.map Binding.name) (name ordinal binding.port) := by
  have hports : ports = before.map Binding.port ++ binding.port :: after.map Binding.port := by
    rw [← map_port_bindPorts ordinal ports, h, List.map_append, List.map_cons]
  rw [bindPorts, hports, bindFrom_append, bindFrom, List.append_nil] at h
  have hlength : (bindFrom ordinal [] (before.map Binding.port)).length = before.length := by
    rw [← List.length_map Binding.port, map_port_bindFrom, List.length_map]
  obtain ⟨hbefore, hafter⟩ := List.append_inj h hlength
  rw [hbefore] at hafter
  have hname := congrArg Binding.name (List.cons.inj hafter).1
  rw [← hname]
  exact firstUnused_perm (List.reverse_perm _)

/-- How a port is bound behind ports whose variables are in use. -/
structure BoundAfter (ordinal : UInt32) (used : List String) (binding : Binding) : Prop where
  /-- The search ends at the variable, with at most one turn for each variable in use. -/
  ends : ∃ turns ≤ used.length, Search.Ends used (name ordinal binding.port)
    (.start (name ordinal binding.port)) turns binding.name
  /-- The variable is an identifier. -/
  isIdentifier : Text.isIdentifier binding.name = true
  /-- It has the name of the port, or that name with a number that is at least two. -/
  name_cases : binding.name = name ordinal binding.port ∨
    ∃ number, 2 ≤ number ∧ number ≤ used.length + 1 ∧
      binding.name = numbered (name ordinal binding.port) number
  /-- It has no number unless the name is in use. -/
  plain : name ordinal binding.port ∉ used → binding.name = name ordinal binding.port

/-- Every port is bound behind the ports before it. -/
theorem boundAfter_of_bindPorts {ordinal : UInt32} {ports : List String}
    {before after : List Binding} {binding : Binding}
    (h : bindPorts ordinal ports = before ++ binding :: after) :
    BoundAfter ordinal (before.map Binding.name) binding := by
  have hname := name_eq_firstUnused h
  have hmem : binding ∈ bindPorts ordinal ports := by simp [h]
  constructor
  · rw [hname]
    exact ends_firstUnused _ _
  · exact (isNameOf_of_mem_bindPorts hmem).isIdentifier
  · rw [hname]
    exact firstUnused_cases _ _
  · intro hunused
    rw [hname, firstUnused_of_not_mem hunused]

/-- Nodes with different ordinals have no variable in common. -/
theorem disjoint_names_bindPorts {ordinal other : UInt32} (h : ordinal ≠ other)
    (ports others : List String) :
    ((bindPorts ordinal ports).map Binding.name).Disjoint
      ((bindPorts other others).map Binding.name) := by
  intro text htext hshared
  obtain ⟨binding, hbinding, rfl⟩ := List.mem_map.mp htext
  obtain ⟨foreign, hforeign, heq⟩ := List.mem_map.mp hshared
  have hown := isNameOf_of_mem_bindPorts hbinding
  rw [← heq] at hown
  exact h (hown.ordinal_eq (isNameOf_of_mem_bindPorts hforeign))

/-- All ports are bound, in their order and to different variables. Each search has at most as many
turns as there are earlier ports and finds an identifier, which is the name of the port with a
number from two on if an earlier port has the name, and the plain name if none has. Ports that are
added behind others leave these bound as they are, and nodes with different ordinals share no
variable. -/
theorem bindPorts_searched (ordinal : UInt32) (ports : List String) :
    (bindPorts ordinal ports).map Binding.port = ports ∧
    ((bindPorts ordinal ports).map Binding.name).Nodup ∧
    (∀ before binding after, bindPorts ordinal ports = before ++ binding :: after →
      BoundAfter ordinal (before.map Binding.name) binding) ∧
    (∀ more, bindPorts ordinal ports <+: bindPorts ordinal (ports ++ more)) ∧
    ∀ other others, ordinal ≠ other →
      ((bindPorts ordinal ports).map Binding.name).Disjoint
        ((bindPorts other others).map Binding.name) := by
  refine ⟨map_port_bindPorts ordinal ports, nodup_names_bindPorts ordinal ports, ?_, ?_, ?_⟩
  · intro before binding after h
    exact boundAfter_of_bindPorts h
  · exact bindPorts_prefix ordinal ports
  · intro other others hne
    exact disjoint_names_bindPorts hne ports others

/-- Ports of which the second looks like a numbered name of the others. -/
def samplePorts : List String := ["a-b", "a_b_2", "a_b", "", "a.b"]

/-- Two earlier ports cost the third two turns. -/
theorem bindPorts_searched_samplePorts :
    (bindPorts 1 samplePorts).map Binding.name =
      ["n01_a_b", "n01_a_b_2", "n01_a_b_3", "n01_", "n01_a_b_4"] ∧
    BoundAfter 1 ["n01_a_b", "n01_a_b_2"] ⟨"a_b", "n01_a_b_3"⟩ ∧
    bindPorts 1 samplePorts <+: bindPorts 1 (samplePorts ++ ["a_b"]) ∧
    ((bindPorts 1 samplePorts).map Binding.name).Disjoint
      ((bindPorts 10 samplePorts).map Binding.name) := by
  have hbound : bindPorts 1 samplePorts = [⟨"a-b", "n01_a_b"⟩, ⟨"a_b_2", "n01_a_b_2"⟩] ++
      ⟨"a_b", "n01_a_b_3"⟩ :: [⟨"", "n01_"⟩, ⟨"a.b", "n01_a_b_4"⟩] := by
    decide
  obtain ⟨-, -, hafter, hprefix, hdisjoint⟩ := bindPorts_searched 1 samplePorts
  exact ⟨by rw [hbound]; rfl, hafter _ _ _ hbound, hprefix ["a_b"],
    hdisjoint 10 samplePorts (by decide)⟩

end Dataflow.Variable
