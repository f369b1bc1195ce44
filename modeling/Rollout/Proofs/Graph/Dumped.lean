import Rollout.Proofs.Graph.Renamed
import Rollout.Proofs.Release.Dumped

/-!
# Graphs of records

A record leaves out no resource and no dependency, so that the graph of a collection is the graph of its
record.

* `Graph.build_map_dumped` : the two graphs are the same up to their resources;
* `Resource.accepted_map_dumped` : a collection is accepted exactly if its record is;
* `Graph.order_map_dumped` : both have one apply order.
-/

set_option autoImplicit false

namespace Rollout

namespace Graph

variable {resources : List Resource} {strict : Bool} {g : Graph}

theorem dangling?_map_dumped (ids : List String) (resources : List Resource) :
    dangling? ids (resources.map Resource.dumped) = dangling? ids resources := by
  unfold dangling?
  rw [List.findSome?_map]
  rfl

/-- **The graph of a record** is the one of what was written. -/
theorem build_map_dumped (strict : Bool) (resources : List Resource) :
    build strict (resources.map Resource.dumped)
      = (build strict resources).map (mapResources Resource.dumped) := by
  have hneeds : (resources.map Resource.dumped).map (needs (Resource.ids resources))
      = resources.map (needs (Resource.ids resources)) := by
    rw [List.map_map]
    rfl
  unfold build
  simp only [Resource.ids_map_dumped, dangling?_map_dumped, hneeds, List.length_map]
  cases repeated? [] (Resource.ids resources) with
  | some id => rfl
  | none =>
    cases (if strict then dangling? (Resource.ids resources) resources else none) with
    | some dangling => rfl
    | none =>
      cases findCycle (entry (resources.map (needs (Resource.ids resources)))) resources.length with
      | some cycle => rfl
      | none => rfl

theorem build_map_dumped_iff :
    (∃ g, build strict (resources.map Resource.dumped) = .ok g) ↔
      ∃ g, build strict resources = .ok g := by
  rw [build_map_dumped]
  cases build strict resources with
  | error e => simp [Except.map]
  | ok g => simp [Except.map]

/-- The apply order is the same. -/
theorem order_map_dumped (g : Graph) : (g.mapResources Resource.dumped).order = g.order := by
  rw [order, ordered_map, Resource.ids_map_dumped, order]

end Graph

/-- **A collection is accepted exactly if its record is.** -/
theorem Resource.accepted_map_dumped {strict : Bool} {resources : List Resource} :
    Accepted strict (resources.map dumped) ↔ Accepted strict resources := by
  rw [← Graph.build_isOk_iff, ← Graph.build_isOk_iff, Graph.build_map_dumped_iff]

end Rollout
