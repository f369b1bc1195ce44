import Rollout.Proofs.Generation.Relocated
import Rollout.Proofs.Resource.Identity

/-!
# Which resources are moved to a namespace

Whether a Kubernetes resource is namespaced is told from its identifier alone: it is if that has four
segments.  An identifier is made of parts that may hold the separator themselves, as `system:node` does
among the names of roles, and then it has more segments than it was made of.

* `Patch.placed_eq_self_iff` : when a resource stays what it is;
* `Pipeline.run_space_scoped` : what becomes of a resource whose identifier was made with a namespace,
  and of one whose identifier was made without;
* `Pipeline.run_space_misplaces` : a role that is not moved, and a cluster-wide one that is.
-/

set_option autoImplicit false

namespace Rollout

/-! ## Resources that stay what they are -/

namespace Patch

variable {space : String} {r : Resource}

/-- The namespace that the metadata of a resource name. -/
def spaceOf (r : Resource) : Option Value :=
  match metadataOf r with
  | .object fields => Assoc.lookup "namespace" fields
  | _ => none

theorem spaceOf_eq {fields : Fields} (h : metadataOf r = .object fields) :
    spaceOf r = Assoc.lookup "namespace" fields := by
  simp only [spaceOf, h]

theorem spaceOf_movedTo (space id : String) (fields : Fields) (r : Resource) :
    spaceOf (movedTo space id fields r) = some (.str space) := by
  rw [spaceOf_eq (metadataOf_movedTo space id fields r), Assoc.lookup_put, if_pos rfl]

/-- To move a resource to where it is changes nothing. -/
theorem movedTo_self {fields : Fields} (hfields : metadataOf r = .object fields)
    (h : spaceOf r = some (.str space)) : movedTo space r.id fields r = r := by
  rw [spaceOf_eq hfields] at h
  have hattributes : Assoc.lookup metadataKey r.attributes = some (.object fields) := by
    cases hlookup : Assoc.lookup metadataKey r.attributes with
    | some v =>
      rw [metadataOf, hlookup] at hfields
      exact congrArg some hfields
    | none =>
      rw [metadataOf, hlookup] at hfields
      obtain rfl : [] = fields := Value.object.inj hfields
      cases h
  rw [movedTo, Assoc.put_of_lookup h, withMetadata, Assoc.put_of_lookup hattributes]

/-- **A resource stays what it is** if it is not namespaced, or is in the namespace already. -/
theorem placed_eq_self_iff (h : Described r) : placed space r = r ↔
    (r.backend = .kubernetes → movedId? space r.id = none ∨
      movedId? space r.id = some r.id ∧ spaceOf r = some (.str space)) := by
  rcases placed_cases space h with ⟨id, fields, hbackend, hid, hfields, _, hplaced⟩ |
    ⟨hstays, _, hplaced⟩
  · simp only [hplaced, hbackend, hid, true_implies, reduceCtorEq, false_or, Option.some.injEq]
    constructor
    · intro heq
      have hspace := spaceOf_movedTo space id fields r
      rw [heq] at hspace
      exact ⟨congrArg Resource.id heq, hspace⟩
    · rintro ⟨rfl, hspace⟩
      exact movedTo_self hfields hspace
  · exact iff_of_true hplaced fun hbackend => .inl (hstays hbackend)

/-- What is changed when the dependencies follow are dependencies only. -/
theorem placed_eq_of_follow {moves : List (String × String)} (h : Described r)
    (heq : follow moves (placed space r) = r) : placed space r = r :=
  calc placed space r =
        { follow moves (placed space r) with dependsOn := (placed space r).dependsOn } := rfl
    _ = { r with dependsOn := r.dependsOn } := by rw [heq, placed_dependsOn h]
    _ = r := rfl

/-! ## Resources with identifiers of Kubernetes objects -/

variable {version kind name old : String}

/-- **A resource whose identifier was made with a namespace** has the identifier of the new one, and
names it, exactly if no part of its identifier holds a separator, or it was in that namespace. -/
theorem placed_of_space (h : Described r) (hbackend : r.backend = .kubernetes)
    (hid : kubernetesId? version kind name old = .ok r.id) (hold : old ≠ "") (hspace : space ≠ "") :
    kubernetesId? version kind name space = .ok (placed space r).id ∧
        spaceOf (placed space r) = some (.str space) ↔
      Text.count ':' version + Text.count ':' kind + Text.count ':' old + Text.count ':' name = 0 ∨
        old = space ∧ spaceOf r = some (.str space) := by
  obtain ⟨hgiven, hr⟩ := kubernetesId?_eq_ok_iff.mp hid
  have hcount := count_kubernetesParts version kind name old
  rw [← hr, if_neg hold] at hcount
  rw [kubernetesId?_eq_ok_iff, and_iff_right hgiven]
  rw [kubernetesParts_of_space hold] at hr
  rw [kubernetesParts_of_space hspace]
  by_cases hnone : Text.count ':' version + Text.count ':' kind + Text.count ':' old +
      Text.count ':' name = 0
  · have hsplit : Text.split ':' r.id = [version, kind, old, name] := by
      rw [hr]
      refine Text.split_join_eq_self Text.colon_eq (List.cons_ne_nil _ _) ?_
      simp only [List.mem_cons, List.not_mem_nil, or_false, forall_eq_or_imp, forall_eq]
      omega
    have hmoved : movedId? space r.id = some (Text.join ":" [version, kind, space, name]) :=
      movedId?_eq_some_iff.mpr ⟨version, kind, old, name, hsplit, rfl⟩
    obtain ⟨fields, hfields⟩ := h hbackend
    rw [placed_of_id hbackend hmoved hfields]
    exact iff_of_true ⟨rfl, spaceOf_movedTo _ _ _ _⟩ (.inl hnone)
  · have hstays : movedId? space r.id = none := movedId?_eq_none_iff.mpr (by omega)
    rw [placed_of_none fun _ => hstays, or_iff_right hnone, hr]
    simp only [Text.join, String.intercalate_cons_cons, String.append_assoc,
      String.append_right_inj, String.append_left_inj]

/-- **A resource whose identifier was made without a namespace** stays what it is exactly unless one
separator is in the parts of its identifier, or if it was at home in what is then read as its
namespace. -/
theorem placed_of_cluster (h : Described r) (hbackend : r.backend = .kubernetes)
    (hid : kubernetesId? version kind name "" = .ok r.id) : placed space r = r ↔
      Text.count ':' version + Text.count ':' kind + Text.count ':' name ≠ 1 ∨
        movedId? space r.id = some r.id ∧ spaceOf r = some (.str space) := by
  obtain ⟨-, hr⟩ := kubernetesId?_eq_ok_iff.mp hid
  have hcount := count_kubernetesParts version kind name ""
  rw [← hr, if_pos rfl, show Text.count ':' "" = 0 from rfl] at hcount
  rw [placed_eq_self_iff h, movedId?_eq_none_iff]
  simp only [hbackend, true_implies]
  refine or_congr_left ?_
  omega

end Patch

namespace Pipeline

open Patch

variable {generators : List Generator} {resources : List Resource} {space : String} {i : Nat}
  {r : Resource} {version kind name old : String}

/-- **What a pipeline that moves resources to a namespace does to one of them**, whose identifier was
made of a version, a kind, a name and maybe a namespace.

If it was made with a namespace, the resource comes to have the identifier that is made with the new
one, and to name it, exactly if none of these holds a separator, or it was in that namespace before.
If it was made without, the resource stays what it is exactly unless the others hold one separator,
or if it was at home in what is then read as its namespace; what it needs is supposed to keep its
identifier, since dependencies follow. -/
theorem run_space_scoped (hgenerated : generateAll generators [] = .ok resources)
    (h : ∀ r ∈ resources, Described r) (hr : resources[i]? = some r)
    (hbackend : r.backend = .kubernetes) (hid : kubernetesId? version kind name old = .ok r.id)
    (hspace : space ≠ "") :
    ∃ spec r', run ⟨generators, [(Patch.space space).toPatcher]⟩ = .ok spec ∧
      spec[i]? = some r' ∧
      (old ≠ "" →
        ((kubernetesId? version kind name space = .ok r'.id ∧ spaceOf r' = some (.str space)) ↔
          Text.count ':' version + Text.count ':' kind + Text.count ':' old +
              Text.count ':' name = 0 ∨
            old = space ∧ spaceOf r = some (.str space))) ∧
      (old = "" →
        (∀ q ∈ resources, q.id ∈ r.dependsOn → q.id ≠ r.id → idIn space q = q.id) →
        (r' = r ↔ Text.count ':' version + Text.count ':' kind + Text.count ':' name ≠ 1 ∨
          movedId? space r.id = some r.id ∧ spaceOf r = some (.str space))) := by
  have hmem := List.mem_of_getElem? hr
  have hdescribed := h r hmem
  refine ⟨_, follow (gathered space (Workbench.ofResources resources).listed) (placed space r),
    run_space hgenerated h, ?_, fun hold => ?_, ?_⟩
  · rw [relocated, List.getElem?_map, hr, Option.map_some]
  · exact placed_of_space hdescribed hbackend hid hold hspace
  · rintro rfl hneeds
    rw [← placed_of_cluster hdescribed hbackend hid]
    refine ⟨placed_eq_of_follow hdescribed, fun hstays => ?_⟩
    rw [hstays]
    refine follow_eq_self fun need hneed => newId_of_kept fun q hq hqid => ?_
    have hq : q ∈ resources := (Workbench.whole_ofResources resources).listed_perm.mem_iff.mp hq
    rw [placed_id (h q hq)]
    -- whatever else has the identifier of this resource keeps it as well: nothing more is read
    by_cases hself : q.id = r.id
    · have hidIn : (placed space r).id = idIn space r := placed_id hdescribed
      rw [hstays, idIn, hbackend] at hidIn
      rw [← hqid, idIn, hself]
      cases q.backend with
      | kubernetes => exact hidIn.symm
      | terraform => rfl
    · exact (hneeds q hq (hqid ▸ hneed) hself).trans hqid

/-- Of the shop, the service is moved to production and the node stays what it is. -/
theorem run_space_scoped_shop :
    kubernetesId? "v1" "Service" "web" "default" = .ok "v1:Service:default:web" ∧
      kubernetesId? "v1" "Node" "a" "" = .ok "v1:Node:a" ∧
      ∃ spec service, run ⟨Shop.generators, [(Patch.space "prod").toPatcher]⟩ = .ok spec ∧
        spec[0]? = some service ∧ kubernetesId? "v1" "Service" "web" "prod" = .ok service.id ∧
        spaceOf service = some (.str "prod") ∧
        spec[2]? = some ⟨"v1:Node:a", .kubernetes, [], [], []⟩ := by
  have hservice : kubernetesId? "v1" "Service" "web" "default" = .ok "v1:Service:default:web" := rfl
  have hnode : kubernetesId? "v1" "Node" "a" "" = .ok "v1:Node:a" := rfl
  have hgenerated : generateAll Shop.generators [] = .ok Shop.resources := rfl
  obtain ⟨spec, service, hrun, hfirst, hspaced, -⟩ :=
    run_space_scoped (i := 0) hgenerated Shop.described rfl rfl hservice (by decide : "prod" ≠ "")
  obtain ⟨spec', node, hrun', hthird, -, hcluster⟩ :=
    run_space_scoped (i := 2) hgenerated Shop.described rfl rfl hnode (by decide : "prod" ≠ "")
  obtain rfl : spec = spec' := Except.ok.inj (hrun.symm.trans hrun')
  obtain ⟨hid, hspace⟩ := (hspaced (by decide)).mpr (.inl (by decide))
  have hsame := (hcluster rfl (by decide)).mpr (.inl (by decide))
  exact ⟨hservice, hnode, spec, service, hrun, hfirst, hid, hspace, hsame ▸ hthird⟩

/-! ## Roles with a separator in their names -/

/-- The rights of nodes, for a cluster. -/
def clusterRole : Resource :=
  ⟨"rbac.authorization.k8s.io/v1:ClusterRole:system:node", .kubernetes, [], [], []⟩

/-- The rights of nodes, in a namespace. -/
def role : Resource :=
  ⟨"rbac.authorization.k8s.io/v1:Role:default:system:node", .kubernetes, [], [], []⟩

/-- **The role of a cluster is moved, and that of a namespace is not**: one is read as `node` in the
namespace `system`, the other as no object at all. -/
theorem run_space_misplaces :
    kubernetesId? "rbac.authorization.k8s.io/v1" "ClusterRole" "system:node" "" =
        .ok clusterRole.id ∧
      kubernetesId? "rbac.authorization.k8s.io/v1" "Role" "system:node" "default" = .ok role.id ∧
      run ⟨[⟨"roles", fun _ => .ok [clusterRole, role]⟩], [(Patch.space "prod").toPatcher]⟩ =
        .ok [⟨"rbac.authorization.k8s.io/v1:ClusterRole:prod:node", .kubernetes,
          [("metadata", .object [("namespace", .str "prod")])], [], []⟩, role] ∧
      kubernetesId? "rbac.authorization.k8s.io/v1" "Role" "system:node" "prod" ≠ .ok role.id := by
  refine ⟨rfl, rfl, rfl, ?_⟩
  rw [Ne, kubernetesId?_eq_ok_iff]
  decide

end Pipeline

end Rollout
