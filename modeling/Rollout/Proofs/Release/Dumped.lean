import Rollout.Proofs.Value.Dumped
import Rollout.Release.Stored

/-!
# Releases that records can hold

* `Resource.dumped_eq_self_iff`, `Release.dumped_eq_self_iff` : records hold those whose attributes and
  extensions have finite numbers only as they are;
* `Release.problems_dumped` : a record is read back with the problems of what was written.
-/

set_option autoImplicit false

namespace Rollout

namespace Resource

variable {r : Resource} {rs : List Resource}

/-- Every number in the attributes and extensions is finite. -/
structure Finite (r : Resource) : Prop where
  attributes : Value.FiniteFields r.attributes
  extensions : Value.FiniteFields r.extensions

@[simp]
theorem dumped_id (r : Resource) : r.dumped.id = r.id := rfl

@[simp]
theorem dumped_backend (r : Resource) : r.dumped.backend = r.backend := rfl

@[simp]
theorem dumped_dependsOn (r : Resource) : r.dumped.dependsOn = r.dependsOn := rfl

@[simp]
theorem dumped_dumped (r : Resource) : r.dumped.dumped = r.dumped := by simp [dumped]

/-- **Records hold the resources that are finite, and no others, as they are.** -/
theorem dumped_eq_self_iff : r.dumped = r ↔ r.Finite := by
  obtain ⟨id, backend, attributes, dependsOn, extensions⟩ := r
  simp only [dumped, mk.injEq, true_and, Value.dumpedFields_eq_self_iff]
  exact ⟨fun ⟨ha, he⟩ => ⟨ha, he⟩, fun ⟨ha, he⟩ => ⟨ha, he⟩⟩

theorem map_dumped_eq_self_iff : rs.map dumped = rs ↔ ∀ r ∈ rs, r.Finite := by
  have hid := List.map_inj_left (f := dumped) (g := fun r => r) (l := rs)
  rw [List.map_id_fun', id_eq] at hid
  exact hid.trans (forall₂_congr fun _ _ => dumped_eq_self_iff)

@[simp]
theorem ids_map_dumped (rs : List Resource) : ids (rs.map dumped) = ids rs := by
  simp [ids]

/-- What is unnamed in a list is told from its identifiers. -/
theorem unnamed_congr {rs' : List Resource} (h : ids rs = ids rs') (path : List String) :
    unnamed path rs = unnamed path rs' := by
  have hids : ∀ rs : List Resource, unnamed path rs = (ids rs).zipIdx.filterMap fun (id, i) =>
      if id = "" then some ⟨path ++ ["resources", toString i, "id"], .emptyString⟩ else none := by
    intro rs
    unfold unnamed ids
    rw [List.zipIdx_map, List.filterMap_map]
    rfl
  rw [hids, hids, h]

@[simp]
theorem unnamed_map_dumped (path : List String) (rs : List Resource) :
    unnamed path (rs.map dumped) = unnamed path rs := unnamed_congr (ids_map_dumped rs) path

end Resource

namespace Release

variable {r : Release}

/-- The resources of a release, desired and confirmed, are finite. -/
structure Finite (r : Release) : Prop where
  spec : ∀ x ∈ r.spec.getD [], x.Finite
  state : ∀ x ∈ r.resources, x.Finite

@[simp]
theorem dumped_triple (r : Release) : r.dumped.triple = r.triple := rfl

@[simp]
theorem dumped_revision (r : Release) : r.dumped.revision = r.revision := rfl

@[simp]
theorem dumped_phase (r : Release) : r.dumped.phase = r.phase := rfl

@[simp]
theorem dumped_actions (r : Release) : r.dumped.actions = r.actions := rfl

@[simp]
theorem dumped_error (r : Release) : r.dumped.error = r.error := rfl

@[simp]
theorem dumped_label (r : Release) : r.dumped.label = r.label := rfl

@[simp]
theorem dumped_isTerminal (r : Release) : r.dumped.isTerminal = r.isTerminal := rfl

@[simp]
theorem dumped_resources (r : Release) : r.dumped.resources = r.resources.map Resource.dumped := by
  unfold resources dumped
  cases r.state <;> rfl

@[simp]
theorem dumped_dumped (r : Release) : r.dumped.dumped = r.dumped := by
  simp [dumped, Function.comp_def]

/-- **Records hold the releases that are finite, and no others, as they are.** -/
theorem dumped_eq_self_iff : r.dumped = r ↔ r.Finite := by
  have hmap : ∀ rs : Option (List Resource),
      rs.map (List.map Resource.dumped) = rs ↔ ∀ x ∈ rs.getD [], x.Finite := by
    intro rs
    cases rs with
    | none => simp
    | some rs => simp [Resource.map_dumped_eq_self_iff]
  obtain ⟨triple, revision, spec, state, phase, createTime, modifiedTime, actions, error⟩ := r
  simp only [dumped, mk.injEq, true_and, and_true, hmap]
  exact ⟨fun ⟨hspec, hstate⟩ => ⟨hspec, hstate⟩, fun ⟨hspec, hstate⟩ => ⟨hspec, hstate⟩⟩

theorem dumped_finite (r : Release) : r.dumped.Finite := dumped_eq_self_iff.mp r.dumped_dumped

theorem Finite.dumped_eq (h : r.Finite) : r.dumped = r := dumped_eq_self_iff.mpr h

/-- **What is wrong with a release is wrong with its record**, and nothing else. -/
@[simp]
theorem problems_dumped (r : Release) : r.dumped.problems = r.problems := by
  unfold problems
  rw [dumped_resources, Resource.unnamed_map_dumped]
  unfold dumped
  cases r.spec <;> cases r.state <;> simp

/-- A release that stores keep: it can be read back, and its record holds it as it is. -/
structure Sound (r : Release) : Prop where
  readable : r.problems = []
  finite : r.Finite

theorem sound_dumped (h : r.problems = []) : r.dumped.Sound :=
  ⟨by rwa [problems_dumped], r.dumped_finite⟩

end Release

end Rollout
