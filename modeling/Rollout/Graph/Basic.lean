import Rollout.Failure
import Rollout.Graph.Arrange
import Rollout.Graph.Cycle

/-!
# The dependency graph of a collection

Resources name the resources they need.  `Graph.build` turns a collection into a graph over its
positions, or says why it is not one: an identifier occurs twice, a needed resource is missing, or
resources need each other in a circle.  A recorded state may be what is left of a failed release, so
for it (`strict` unset) needs that name no resource are dropped.

* `Graph.order` : every resource after those it needs, the earliest possible position first;
* `Graph.destroyOrder` : the reverse.
-/

set_option autoImplicit false

namespace Rollout

/-- A collection without repeated identifiers and without closed paths. -/
structure Graph where
  resources : List Resource
  /-- For each position, the positions it depends on, in the order of its `dependsOn`. -/
  dependencies : List (List Nat)
  /-- For each position, the positions that depend on it, in ascending order. -/
  dependents : List (List Nat)
deriving Repr

namespace Graph

/-- The first identifier that occurs a second time. -/
def repeated? : List String → List String → Option String
  | _, [] => none
  | seen, id :: rest => if seen.contains id then some id else repeated? (id :: seen) rest

/-- The position of an identifier. -/
def position? (ids : List String) (id : String) : Option Nat := ids.findIdx? (· = id)

/-- The first resource that needs a missing one, with the first one missing. -/
def dangling? (ids : List String) (resources : List Resource) : Option (String × String) :=
  resources.findSome? fun r =>
    (r.dependsOn.find? fun need => !ids.contains need).map fun missing => (r.id, missing)

/-- The positions a resource depends on, each once. -/
def needs (ids : List String) (r : Resource) : List Nat :=
  (r.dependsOn.filterMap (position? ids)).eraseDups

/-- The entry of a list of positions. -/
def entry (adjacency : List (List Nat)) (i : Nat) : List Nat := adjacency.getD i []

/-- The positions that have a position among their dependencies, in ascending order. -/
def inverse (dependencies : List (List Nat)) (target : Nat) : List Nat :=
  (List.range dependencies.length).filter fun i => (entry dependencies i).contains target

/-- The graph of a collection. -/
def build (strict : Bool) (resources : List Resource) : Except GraphError Graph :=
  let ids := Resource.ids resources
  match repeated? [] ids with
  | some id => .error (.duplicate id)
  | none =>
    match if strict then dangling? ids resources else none with
    | some (id, missing) => .error (.dangling id missing)
    | none =>
      let dependencies := resources.map (needs ids)
      match findCycle (entry dependencies) resources.length with
      | some cycle => .error (.cycle (cycle.map fun i => ids.getD i ""))
      | none =>
        .ok ⟨resources, dependencies,
          (List.range resources.length).map (inverse dependencies)⟩

/-- The number of resources. -/
def size (g : Graph) : Nat := g.resources.length

/-- The identifiers in the order of the collection. -/
def ids (g : Graph) : List String := Resource.ids g.resources

/-- Whether a graph has a resource with an identifier. -/
def has (g : Graph) (id : String) : Bool := g.ids.contains id

/-- The resource with an identifier. -/
def find (g : Graph) (id : String) : Option Resource := Resource.find id g.resources

/-- The resources at the given positions. -/
def pick (g : Graph) (positions : List Nat) : List Resource :=
  positions.filterMap fun i => g.resources[i]?

/-- The resources that the one at a position depends on. -/
def dependenciesAt (g : Graph) (i : Nat) : List String :=
  Resource.ids (g.pick (entry g.dependencies i))

/-- The resources that depend on the one at a position. -/
def dependentsAt (g : Graph) (i : Nat) : List String :=
  Resource.ids (g.pick (entry g.dependents i))

/-- The resources in apply order: each after all it depends on, and of those that are ready at the
same time the first of the collection first. -/
def ordered (g : Graph) : List Resource := g.pick (arrange (entry g.dependencies) g.size).placed

/-- The identifiers in apply order. -/
def order (g : Graph) : List String := Resource.ids g.ordered

/-- The resources in destroy order: each before all it depends on. -/
def destroyOrdered (g : Graph) : List Resource := g.ordered.reverse

/-- The identifiers in destroy order. -/
def destroyOrder (g : Graph) : List String := Resource.ids g.destroyOrdered

end Graph

end Rollout
