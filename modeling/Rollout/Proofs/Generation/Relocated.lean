import Rollout.Plan.Basic
import Rollout.Proofs.Generation.Moved
import Rollout.Proofs.Graph.Renamed

/-!
# Specs that were moved to a namespace

A pipeline generates resources and moves them to one namespace.  Identifiers change, but nobody comes
to depend on anybody else: unless two resources come to have one identifier, which every plan refuses,
the spec has the graph of the generated resources.

* `Pipeline.run_space` : the spec that such a pipeline produces;
* `Patch.renames` : its resources are the generated ones, renamed;
* `Pipeline.run_space_keeps_graph` : who depends on whom, and the apply order.
-/

set_option autoImplicit false

namespace Rollout

open Patch

namespace Pipeline

variable {generators : List Generator} {resources : List Resource} {space : String}

theorem patchAll_cons {p : Patcher} {rest : List Patcher} {b next : Workbench}
    (h : p.patch b = .ok next) : patchAll (p :: rest) b = patchAll rest next := by
  simp only [patchAll, h]

/-- The spec of a pipeline whose patchers take nothing away and add nothing. -/
theorem run_of_whole {patchers : List Patcher} {b : Workbench}
    (hgenerated : generateAll generators [] = .ok resources)
    (hpatched : patchAll patchers (.ofResources resources) = .ok b) (hb : b.Whole) :
    run ⟨generators, patchers⟩ = .ok b.items := by
  simp only [run, hgenerated, hpatched, hb.resources_eq]

/-- The bench of moved resources. -/
def movedBench (space : String) (resources : List Resource) : Workbench :=
  { Workbench.ofResources resources with items := relocated space resources }

theorem whole_movedBench : (movedBench space resources).Whole :=
  (Workbench.whole_ofResources resources).map _

theorem patch_space (h : ∀ r ∈ resources, Described r) :
    (Patch.space space).toPatcher.patch (.ofResources resources) =
      .ok (movedBench space resources) :=
  moveAll_eq (Workbench.whole_ofResources resources) h

/-- **The spec of a pipeline that moves what it generates.** -/
theorem run_space (hgenerated : generateAll generators [] = .ok resources)
    (h : ∀ r ∈ resources, Described r) :
    run ⟨generators, [(Patch.space space).toPatcher]⟩ = .ok (relocated space resources) :=
  run_of_whole hgenerated (patchAll_cons (patch_space h)) whole_movedBench

/-- **Moving a second time** changes nothing more. -/
theorem run_space_twice (hgenerated : generateAll generators [] = .ok resources)
    (h : ∀ r ∈ resources, Described r) :
    run ⟨generators, [(Patch.space space).toPatcher, (Patch.space space).toPatcher]⟩ =
      .ok (relocated space resources) := by
  have hagain : (Patch.space space).toPatcher.patch (movedBench space resources) =
      .ok (movedBench space resources) :=
    moveAll_settled whole_movedBench (settled_relocated h)
  exact run_of_whole hgenerated ((patchAll_cons (patch_space h)).trans (patchAll_cons hagain))
    whole_movedBench

/-- Nor does moving what was moved before. -/
theorem run_space_settled (hgenerated : generateAll generators [] = .ok resources)
    (h : ∀ r ∈ resources, Settled space r) :
    run ⟨generators, [(Patch.space space).toPatcher]⟩ = .ok resources := by
  have hwhole := Workbench.whole_ofResources resources
  have hagain : (Patch.space space).toPatcher.patch (.ofResources resources) =
      .ok (.ofResources resources) := moveAll_settled hwhole h
  exact run_of_whole hgenerated (patchAll_cons hagain) hwhole

end Pipeline

/-- **Moved resources are the generated ones, renamed.** -/
theorem Patch.renames (space : String) {resources : List Resource}
    (hnodup : (Resource.ids resources).Nodup) (h : ∀ r ∈ resources, Described r) :
    Resource.Renames (newId (gathered space (Workbench.ofResources resources).listed))
      (fun r => follow (gathered space (Workbench.ofResources resources).listed) (placed space r))
      resources where
  id r hr := by
    have hlisted := (Workbench.whole_ofResources resources).listed_perm
    exact (newId_of_mem ((hlisted.map Resource.id).nodup_iff.mpr hnodup)
      (hlisted.mem_iff.mpr hr)).symm
  dependsOn r hr := by rw [follow_dependsOn, placed_dependsOn (h r hr)]

theorem Patch.ids_relocated {space : String} {resources : List Resource}
    (h : ∀ r ∈ resources, Described r) :
    Resource.ids (relocated space resources) = resources.map (idIn space) := by
  rw [relocated, Resource.ids, List.map_map]
  exact List.map_congr_left fun r hr => placed_id (h r hr)

namespace Pipeline

variable {generators : List Generator} {resources : List Resource} {g : Graph}

/-- **To move resources to a namespace keeps their graph.**  From resources that have a graph comes a
spec with the new identifiers.  If these do not repeat, the spec has a graph, in which positions depend
on each other as they did before, and its apply order is the old one; if two are one, every plan of the
spec is refused for that.  To move the resources again, in the same pipeline or from the spec,
changes nothing more. -/
theorem run_space_keeps_graph (hgenerated : generateAll generators [] = .ok resources)
    (hbuild : Graph.build true resources = .ok g) (h : ∀ r ∈ resources, Described r)
    (space : String) :
    ∃ spec, run ⟨generators, [(Patch.space space).toPatcher]⟩ = .ok spec ∧
      Resource.ids spec = resources.map (idIn space) ∧
      ((Resource.ids spec).Nodup → ∃ moved, Graph.build true spec = .ok moved ∧
        (∀ i j, Resource.DependsAt spec i j ↔ Resource.DependsAt resources i j) ∧
        moved.dependencies = g.dependencies ∧ moved.order = g.ordered.map (idIn space)) ∧
      (¬ (Resource.ids spec).Nodup →
        ∀ last, ∃ id, Plan.compute spec last = .error (.graph (.duplicate id))) ∧
      run ⟨generators, [(Patch.space space).toPatcher, (Patch.space space).toPatcher]⟩ = .ok spec ∧
      ∀ others, generateAll others [] = .ok spec →
        run ⟨others, [(Patch.space space).toPatcher]⟩ = .ok spec := by
  have hnodup := (Graph.Accepted.of_build hbuild).nodup
  have hclosed : Resource.Closed resources := (Graph.Accepted.of_build hbuild).present rfl
  have hrenames := renames space hnodup h
  refine ⟨relocated space resources, run_space hgenerated h, ids_relocated h, fun hnew => ?_,
    fun hrepeats last => ?_, run_space_twice hgenerated h, fun others hothers => ?_⟩
  · refine ⟨_, Graph.build_renamed hrenames hbuild hnew,
      fun i j => hrenames.dependsAt_map_iff hnew hclosed, rfl, ?_⟩
    rw [Graph.order, Graph.ordered_map, Resource.ids, List.map_map]
    exact List.map_congr_left fun r hr => placed_id (h r ((Graph.mem_ordered hbuild).mp hr))
  · have hduplicate : ∃ id, Graph.build true (relocated space resources) = .error (.duplicate id) :=
      Graph.exists_duplicate_iff.mpr hrepeats
    obtain ⟨id, hid⟩ := hduplicate
    exact ⟨id, by rw [Plan.compute, hid]⟩
  · exact run_space_settled hothers (settled_relocated h)

end Pipeline

/-! ## A shop

The service and a password of another backend need a secret that stands behind them; the node is not
namespaced. -/

namespace Pipeline

namespace Shop

def resources : List Resource :=
  [⟨"v1:Service:default:web", .kubernetes, [("metadata", .object [("name", .str "web")])],
      ["v1:ConfigMap:default:secret"], []⟩,
    ⟨"hashicorp:random:random_password:pw", .terraform, [],
      ["v1:ConfigMap:default:secret", "v1:Node:a"], []⟩,
    ⟨"v1:Node:a", .kubernetes, [], [], []⟩,
    ⟨"v1:ConfigMap:default:secret", .kubernetes, [], ["v1:Node:a"], []⟩]

def graph : Graph := ⟨resources, [[3], [3, 2], [], [2]], [[], [], [1, 3], [0, 1]]⟩

def generators : List Generator := [⟨"shop", fun _ => .ok resources⟩]

theorem described : ∀ r ∈ resources, Described r := by
  simp [resources, Described, metadataOf, Assoc.lookup, metadataKey]

end Shop

/-- Moved to production, the node comes first, then the secret. -/
theorem run_space_keeps_graph_shop :
    generateAll Shop.generators [] = .ok Shop.resources ∧
      Graph.build true Shop.resources = .ok Shop.graph ∧ (∀ r ∈ Shop.resources, Described r) ∧
      ∃ spec moved, run ⟨Shop.generators, [(Patch.space "prod").toPatcher]⟩ = .ok spec ∧
        Graph.build true spec = .ok moved ∧
        (∀ i j, Resource.DependsAt spec i j ↔ Resource.DependsAt Shop.resources i j) ∧
        moved.order = ["v1:Node:a", "v1:ConfigMap:prod:secret", "v1:Service:prod:web",
          "hashicorp:random:random_password:pw"] := by
  have hgenerated : generateAll Shop.generators [] = .ok Shop.resources := rfl
  have hbuild : Graph.build true Shop.resources = .ok Shop.graph := rfl
  obtain ⟨spec, hrun, hids, hgraph, -⟩ :=
    run_space_keeps_graph hgenerated hbuild Shop.described "prod"
  obtain ⟨moved, hmoved, hdepends, -, horder⟩ := hgraph (by rw [hids]; decide)
  exact ⟨hgenerated, hbuild, Shop.described, spec, moved, hrun, hmoved, hdepends,
    horder.trans (by decide)⟩

end Pipeline

end Rollout
