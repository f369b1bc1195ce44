import Rollout.Proofs.Graph.Build

/-!
# Graphs of renamed collections

Resources get new identifiers, and what they need follows.  As long as no two new identifiers are one,
every position depends on the positions that it depended on before, so that the graph is the same up to
its resources.

* `Graph.needs_renamed` : the positions that a renamed resource depends on;
* `Graph.build_renamed` : the graph of a renamed collection;
* `Graph.ordered_map` : its apply order is the old one.
-/

set_option autoImplicit false

namespace Rollout

/-- **A change of resources that renames them**: it gives each a new identifier, told from the old one
and nothing else, and makes its needs follow. -/
structure Resource.Renames (rename : String → String) (f : Resource → Resource)
    (resources : List Resource) : Prop where
  id : ∀ r ∈ resources, (f r).id = rename r.id
  dependsOn : ∀ r ∈ resources, (f r).dependsOn = r.dependsOn.map rename

/-- The resource at a position depends on the one at another position. -/
def Resource.DependsAt (resources : List Resource) (i j : Nat) : Prop :=
  ∃ r q, resources[i]? = some r ∧ resources[j]? = some q ∧ q.id ∈ r.dependsOn

namespace Resource.Renames

variable {rename : String → String} {f : Resource → Resource} {resources : List Resource}

theorem ids_map (h : Renames rename f resources) :
    ids (resources.map f) = (ids resources).map rename := by
  rw [ids, ids, List.map_map, List.map_map]
  exact List.map_congr_left h.id

/-- Where no two new identifiers are one, the old ones are told apart by them. -/
theorem injOn (h : Renames rename f resources) (hnodup : (ids (resources.map f)).Nodup)
    {id other : String} (hid : id ∈ ids resources) (hother : other ∈ ids resources)
    (heq : rename id = rename other) : id = other := by
  rw [h.ids_map] at hnodup
  exact List.inj_on_of_nodup_map hnodup hid hother heq

/-- **Who depends on whom is the same** before and after. -/
theorem dependsAt_map_iff (h : Renames rename f resources)
    (hnodup : (ids (resources.map f)).Nodup) (hclosed : Closed resources) {i j : Nat} :
    DependsAt (resources.map f) i j ↔ DependsAt resources i j := by
  have hmem : ∀ r ∈ resources, ∀ q ∈ resources,
      ((f q).id ∈ (f r).dependsOn ↔ q.id ∈ r.dependsOn) := by
    intro r hr q hq
    rw [h.id q hq, h.dependsOn r hr, List.mem_map]
    constructor
    · rintro ⟨need, hneed, heq⟩
      rwa [← h.injOn hnodup (hclosed r hr need hneed) (mem_ids_of_mem hq) heq]
    · exact fun hneed => ⟨q.id, hneed, rfl⟩
  simp only [DependsAt, List.getElem?_map, Option.map_eq_some_iff]
  constructor
  · rintro ⟨_, _, ⟨r, hr, rfl⟩, ⟨q, hq, rfl⟩, hneed⟩
    exact ⟨r, q, hr, hq,
      (hmem r (List.mem_of_getElem? hr) q (List.mem_of_getElem? hq)).mp hneed⟩
  · rintro ⟨r, q, hr, hq, hneed⟩
    exact ⟨_, _, ⟨r, hr, rfl⟩, ⟨q, hq, rfl⟩,
      (hmem r (List.mem_of_getElem? hr) q (List.mem_of_getElem? hq)).mpr hneed⟩

theorem closed_map (h : Renames rename f resources) (hclosed : Closed resources) :
    Closed (resources.map f) := by
  intro r hr need hneed
  obtain ⟨old, hold, rfl⟩ := List.mem_map.mp hr
  rw [h.dependsOn old hold] at hneed
  obtain ⟨id, hid, rfl⟩ := List.mem_map.mp hneed
  rw [h.ids_map]
  exact List.mem_map_of_mem (hclosed old hold id hid)

end Resource.Renames

namespace Graph

variable {rename : String → String} {f : Resource → Resource} {resources : List Resource}

/-- **A renamed resource depends on the positions that it depended on before.** -/
theorem needs_renamed (h : Resource.Renames rename f resources)
    (hold : (Resource.ids resources).Nodup) (hnew : (Resource.ids (resources.map f)).Nodup)
    (hclosed : Resource.Closed resources) {r : Resource} (hr : r ∈ resources) :
    needs (Resource.ids (resources.map f)) (f r) = needs (Resource.ids resources) r := by
  have hposition : ∀ need ∈ r.dependsOn,
      position? (Resource.ids (resources.map f)) (rename need) =
        position? (Resource.ids resources) need := by
    intro need hneed
    ext i
    rw [position?_eq_some_iff hnew, position?_eq_some_iff hold, h.ids_map, List.getElem?_map]
    constructor
    · intro hi
      obtain ⟨id, hget, hid⟩ := Option.map_eq_some_iff.mp hi
      rw [hget, h.injOn hnew (List.mem_of_getElem? hget) (hclosed r hr need hneed) hid]
    · intro hi
      rw [hi, Option.map_some]
  rw [needs, needs, h.dependsOn r hr, List.filterMap_map]
  congr 1
  exact List.filterMap_congr hposition

/-- The graph with its resources changed, each where it stands. -/
def mapResources (f : Resource → Resource) (g : Graph) : Graph :=
  { g with resources := g.resources.map f }

/-- **A renamed collection has the graph that it had**, with the renamed resources. -/
theorem build_renamed {g : Graph} (h : Resource.Renames rename f resources)
    (hbuild : build true resources = .ok g) (hnew : (Resource.ids (resources.map f)).Nodup) :
    build true (resources.map f) = .ok (g.mapResources f) := by
  obtain ⟨hrep, hdang, hcyc, -⟩ := build_inv hbuild
  rw [if_pos rfl] at hdang
  have hold := (Accepted.of_build hbuild).nodup
  have hclosed : Resource.Closed resources := (Accepted.of_build hbuild).present rfl
  have hneeds : (resources.map f).map (needs (Resource.ids (resources.map f))) =
      resources.map (needs (Resource.ids resources)) := by
    rw [List.map_map]
    exact List.map_congr_left fun r hr => needs_renamed h hold hnew hclosed hr
  have hrep' : repeated? [] (Resource.ids (resources.map f)) = none :=
    (repeated?_eq_none_iff _ _).mpr ⟨hnew, by simp⟩
  have hdang' : dangling? (Resource.ids (resources.map f)) (resources.map f) = none :=
    (dangling?_eq_none_iff _ _).mpr (h.closed_map hclosed)
  unfold build at hbuild ⊢
  simp only [hrep, if_true, hdang, hcyc] at hbuild
  simp only [hrep', if_true, hdang', hneeds, hcyc, List.length_map]
  cases hbuild
  rfl

/-- The apply order is a matter of positions. -/
theorem ordered_map (f : Resource → Resource) (g : Graph) :
    (g.mapResources f).ordered = g.ordered.map f := by
  have hpick : ∀ positions : List Nat,
      (g.mapResources f).pick positions = (g.pick positions).map f := by
    intro positions
    rw [pick, pick, List.map_filterMap]
    refine List.filterMap_congr fun i _ => ?_
    rw [mapResources, List.getElem?_map]
  have hsize : (g.mapResources f).size = g.size := List.length_map f
  rw [ordered, ordered, hpick, hsize]
  rfl

end Graph

end Rollout
