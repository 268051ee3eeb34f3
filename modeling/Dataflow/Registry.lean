import Dataflow.Transform

/-!
# Registries

A registry knows algorithms by name, each with its schema and with how its columns are found. That
is decided once, when an algorithm is registered: a transform without a column transform, or a
source that does not say how to fetch its columns, is refused.
-/

namespace Dataflow

/-- How the columns on the outputs of a node are found. -/
inductive Kind where
  /-- They are fetched. -/
  | source (fetch : Fetch)
  /-- They are computed from the inputs. -/
  | transform (run : Transform)
  /-- There are none. -/
  | sink
  /-- There is no algorithm yet. -/
  | free

/-- An algorithm that asks to be registered. -/
structure Registration where
  /-- The schema of the algorithm. -/
  schema : Schema
  /-- Its column transform. -/
  transform : Option Transform

/-- A registered algorithm. -/
structure Algorithm where
  /-- The schema of the algorithm. -/
  schema : Schema
  /-- How its columns are found. -/
  kind : Kind

/-- The registered algorithms by name. -/
structure Registry where
  /-- The algorithms. -/
  algorithms : Dictionary Algorithm

/-- The parameters that a fetch description names. -/
def Fetch.parameters (fetch : Fetch) : List String :=
  fetch.source.parameter :: fetch.indexParameter.toList

/-- How the columns of an algorithm are found, or why it is refused. -/
def Kind.resolve (schema : Schema) (transform : Option Transform) : Except RegistryError Kind :=
  match schema.category with
  | .source =>
    match schema.fetch with
    | none => .error (.missingFetch schema.id)
    | some fetch =>
      match fetch.parameters.find? fun name => (schema.parameter? name).isNone with
      | some name => .error (.unknownFetchParameter schema.id name)
      | none => .ok (.source fetch)
  | .transform =>
    match transform with
    | some run => .ok (.transform run)
    | none => .error (.missingTransform schema.id)
  | .sink => .ok .sink
  | .free => .ok .free

namespace Registry

/-- The registry without algorithms. -/
def empty : Registry := ⟨.empty⟩

/-- Register an algorithm, in place of one with the same name. -/
def register (registry : Registry) (registration : Registration) :
    Except RegistryError Registry :=
  match Kind.resolve registration.schema registration.transform with
  | .error cause => .error cause
  | .ok kind =>
    .ok ⟨registry.algorithms.insert registration.schema.id
      { schema := registration.schema, kind }⟩

/-- Register algorithms one after another, until one is refused. -/
def registerAll (registry : Registry) : List Registration → Except RegistryError Registry
  | [] => .ok registry
  | registration :: rest =>
    match registry.register registration with
    | .error cause => .error cause
    | .ok extended => extended.registerAll rest

/-- The algorithms of both registries, where the second decides about names that are in both. -/
def merge (registry other : Registry) : Registry :=
  ⟨registry.algorithms.union other.algorithms⟩

/-- The schema of an algorithm. -/
def schema? (registry : Registry) (name : String) : Option Schema :=
  (registry.algorithms.get? name).map Algorithm.schema

/-- How the columns of an algorithm are found. -/
def kind? (registry : Registry) (name : String) : Option Kind :=
  (registry.algorithms.get? name).map Algorithm.kind

/-- Whether an algorithm is registered. -/
def contains (registry : Registry) (name : String) : Bool := registry.algorithms.contains name

/-- The names of the algorithms in order. -/
def names (registry : Registry) : List String := registry.algorithms.keys

/-- The schemas, by category and then by name. -/
def schemas (registry : Registry) : List Schema :=
  (registry.algorithms.values.map Algorithm.schema).mergeSort fun a b =>
    a.category.rank ≤ b.category.rank

/-- The number of algorithms. -/
def size (registry : Registry) : Nat := registry.algorithms.size

end Registry

end Dataflow
