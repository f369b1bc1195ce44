import Rollout.Plan.Basic
import Rollout.Proofs.Graph.Accepted

/-!
# What a plan holds

* `Plan.Compares` : which changes turn the recorded resources into the desired ones, each resource
  having at most one delete and one other change;
* `Plan.compares_of` : so it is for every plan that is computed;
* `Plan.Compares.isEmpty_iff` : when there is nothing to do.
-/

set_option autoImplicit false

namespace Rollout

namespace Change

/-- A plan tells changes apart by their resource and by whether they delete it. -/
def key (c : Change) : Bool × String := (decide (c.action = .delete), c.id)

theorem action_eq_delete_iff {c : Change} : c.action = .delete ↔ ∃ r, c.sides = .delete r := by
  unfold action Sides.action
  cases c.sides <;> simp

theorem action_eq_noChange_iff {c : Change} :
    c.action = .noChange ↔ ∃ r d, c.sides = .noChange r d := by
  unfold action Sides.action
  cases c.sides <;> simp

/-- Every change but a delete is asked of the backend in its desired version. -/
theorem desired?_eq_some_iff {c : Change} {d : Resource} :
    c.desired? = some d ↔ c.action ≠ .delete ∧ c.resource = d := by
  unfold desired? action resource
  cases c.sides <;> simp [Sides.desired?, Sides.action, Sides.resource]

theorem sides_of_noChange {c : Change} {d : Resource} (hno : c.action = .noChange)
    (hd : c.desired? = some d) : ∃ r, c.sides = .noChange r d := by
  obtain ⟨r, d', hsides⟩ := action_eq_noChange_iff.mp hno
  rw [desired?, hsides, Sides.desired?, Option.some.injEq] at hd
  exact ⟨r, hd ▸ hsides⟩

end Change

namespace Plan

/-- The changes between recorded and desired resources. -/
structure Compares (plan : Plan) (desired last : List Resource) : Prop where
  nodup : (plan.changes.map Change.key).Nodup
  delete : ∀ c ∈ plan.changes, ∀ r, c.sides = .delete r → r ∈ last ∧ c.id = r.id ∧
    (∀ d ∈ desired, d.id = r.id → d.backend ≠ r.backend) ∧
    (c.replacement = true ↔ r.id ∈ Resource.ids desired)
  create : ∀ c ∈ plan.changes, ∀ d, c.sides = .create d → d ∈ desired ∧ c.id = d.id ∧
    (∀ r ∈ last, r.id = d.id → r.backend ≠ d.backend) ∧
    (c.replacement = true ↔ d.id ∈ Resource.ids last)
  update : ∀ c ∈ plan.changes, ∀ r d, c.sides = .update r d → d ∈ desired ∧ r ∈ last ∧
    c.id = d.id ∧ r.id = d.id ∧ r.backend = d.backend ∧
    differences "" r.attributes d.attributes ≠ []
  noChange : ∀ c ∈ plan.changes, ∀ r d, c.sides = .noChange r d → d ∈ desired ∧ r ∈ last ∧
    c.id = d.id ∧ r.id = d.id ∧ r.backend = d.backend ∧
    differences "" r.attributes d.attributes = []
  applied : ∀ d ∈ desired, ∃ c ∈ plan.changes, c.desired? = some d
  deleted : ∀ r ∈ last, (∀ d ∈ desired, d.id = r.id → d.backend ≠ r.backend) →
    ∃ c ∈ plan.changes, c.sides = .delete r

variable {plan : Plan} {desired last : List Resource}

theorem Compares.of_desired (h : plan.Compares desired last) {c : Change} {d : Resource}
    (hc : c ∈ plan.changes) (hd : c.desired? = some d) : d ∈ desired ∧ c.id = d.id := by
  cases hsides : c.sides with
  | delete r => simp [Change.desired?, hsides, Sides.desired?] at hd
  | create d' =>
    simp only [Change.desired?, hsides, Sides.desired?, Option.some.injEq] at hd
    obtain ⟨hmem, hid, _⟩ := h.create c hc d' hsides
    exact hd ▸ ⟨hmem, hid⟩
  | update r d' =>
    simp only [Change.desired?, hsides, Sides.desired?, Option.some.injEq] at hd
    obtain ⟨hmem, _, hid, _⟩ := h.update c hc r d' hsides
    exact hd ▸ ⟨hmem, hid⟩
  | noChange r d' =>
    simp only [Change.desired?, hsides, Sides.desired?, Option.some.injEq] at hd
    obtain ⟨hmem, _, hid, _⟩ := h.noChange c hc r d' hsides
    exact hd ▸ ⟨hmem, hid⟩

theorem Compares.id_of_desired (h : plan.Compares desired last) {c : Change} {d : Resource}
    (hc : c ∈ plan.changes) (hd : c.desired? = some d) : c.id = d.id := (h.of_desired hc hd).2

/-- **There is nothing to do** exactly when the desired resources and the recorded ones are the same, by
identifier, backend and attributes. -/
theorem Compares.isEmpty_iff (h : plan.Compares desired last) (hlast : (Resource.ids last).Nodup) :
    plan.isEmpty = true ↔
      (∀ d ∈ desired, ∃ r ∈ last, r.id = d.id ∧ r.backend = d.backend ∧
        differences "" r.attributes d.attributes = []) ∧
      ∀ r ∈ last, ∃ d ∈ desired, d.id = r.id ∧ d.backend = r.backend := by
  have hempty : plan.isEmpty = true ↔ ∀ c ∈ plan.changes, c.action = .noChange := by
    simp [isEmpty, actions, Change.isSignificant]
  rw [hempty]
  constructor
  · intro hno
    constructor
    · intro d hd
      obtain ⟨c, hc, hcd⟩ := h.applied d hd
      obtain ⟨r, hsides⟩ := Change.sides_of_noChange (hno c hc) hcd
      obtain ⟨_, hr, _, hid, hbackend, hsame⟩ := h.noChange c hc r d hsides
      exact ⟨r, hr, hid, hbackend, hsame⟩
    · intro r hr
      by_contra hall
      push Not at hall
      obtain ⟨c, hc, hsides⟩ := h.deleted r hr hall
      have hdelete := Change.action_eq_delete_iff.mpr ⟨r, hsides⟩
      rw [hno c hc] at hdelete
      cases hdelete
  · rintro ⟨hsame, hwanted⟩ c hc
    cases hsides : c.sides with
    | delete r =>
      obtain ⟨hr, _, hall, _⟩ := h.delete c hc r hsides
      obtain ⟨d, hd, hid, hbackend⟩ := hwanted r hr
      exact absurd hbackend (hall d hd hid)
    | create d =>
      obtain ⟨hd, _, hall, _⟩ := h.create c hc d hsides
      obtain ⟨r, hr, hid, hbackend, _⟩ := hsame d hd
      exact absurd hbackend (hall r hr hid)
    | update r d =>
      obtain ⟨hd, hr, _, hid, _, hdiffer⟩ := h.update c hc r d hsides
      obtain ⟨r', hr', hid', _, hnone⟩ := hsame d hd
      rw [Resource.eq_of_id_eq hlast hr' hr (hid'.trans hid.symm)] at hnone
      exact absurd hnone hdiffer
    | noChange r d => exact Change.action_eq_noChange_iff.mpr ⟨r, d, hsides⟩

/-- What computing a plan consists of. -/
theorem compute_inv (h : compute desired last = .ok plan) :
    ∃ wanted recorded, Graph.build true desired = .ok wanted ∧
      Graph.build false last = .ok recorded ∧ plan = between wanted recorded ∧
      ∀ c ∈ plan.changes, c.id ≠ "" := by
  unfold compute at h
  cases hd : Graph.build true desired with
  | error e => simp [hd] at h
  | ok wanted =>
    cases hl : Graph.build false last with
    | error e => simp [hd, hl] at h
    | ok recorded =>
      simp only [hd, hl] at h
      split at h
      · cases h
      · rename_i hids
        cases h
        exact ⟨wanted, recorded, rfl, rfl, rfl, by simpa using hids⟩

section

variable {wanted recorded : Graph} {c : Change} {r d : Resource}

/-- A delete, and what it is planned for. -/
theorem deleteOf_eq_some_iff (hnodup : (Resource.ids wanted.resources).Nodup) :
    deleteOf wanted r = some c ↔ c.id = r.id ∧ c.sides = .delete r ∧ c.differences = [] ∧
      (∀ d ∈ wanted.resources, d.id = r.id → d.backend ≠ r.backend) ∧
      (c.replacement = true ↔ r.id ∈ Resource.ids wanted.resources) := by
  obtain ⟨id, sides, found, replacement⟩ := c
  unfold deleteOf
  cases hf : wanted.find r.id with
  | none =>
    have hno := Resource.find_eq_none_iff.mp hf
    have hd : ∀ d ∈ wanted.resources, d.id ≠ r.id := fun d hd he =>
      hno (he ▸ Resource.mem_ids_of_mem hd)
    simp only [Option.some.injEq, Change.mk.injEq, hno, iff_false, Bool.not_eq_true]
    constructor
    · rintro ⟨rfl, rfl, rfl, rfl⟩
      exact ⟨rfl, rfl, rfl, fun d hmem he => absurd he (hd d hmem), rfl⟩
    · rintro ⟨rfl, rfl, rfl, -, rfl⟩
      exact ⟨rfl, rfl, rfl, rfl⟩
  | some d =>
    obtain ⟨hd, hid⟩ := (Resource.find_eq_some_iff hnodup).mp hf
    have hmem : r.id ∈ Resource.ids wanted.resources := hid ▸ Resource.mem_ids_of_mem hd
    have hall : (∀ d ∈ wanted.resources, d.id = r.id → d.backend ≠ r.backend) ↔
        d.backend ≠ r.backend := by
      refine ⟨fun h => h d hd hid, fun h d' hd' hid' => ?_⟩
      rw [Resource.eq_of_id_eq hnodup hd' hd (hid'.trans hid.symm)]
      exact h
    rw [hall]
    simp only
    split
    · rename_i heq
      simp [heq]
    · rename_i hne
      simp only [Option.some.injEq, Change.mk.injEq, hmem, iff_true]
      constructor
      · rintro ⟨rfl, rfl, rfl, rfl⟩
        exact ⟨rfl, rfl, rfl, hne, rfl⟩
      · rintro ⟨rfl, rfl, rfl, -, rfl⟩
        exact ⟨rfl, rfl, rfl, rfl⟩

/-- What can become of a desired resource. -/
theorem applyOf_cases (hnodup : (Resource.ids recorded.resources).Nodup) :
    (d.id ∉ Resource.ids recorded.resources ∧
      applyOf recorded d = { id := d.id, sides := .create d }) ∨
    (∃ r ∈ recorded.resources, r.id = d.id ∧ r.backend ≠ d.backend ∧
      applyOf recorded d = { id := d.id, sides := .create d, replacement := true }) ∨
    (∃ r ∈ recorded.resources, r.id = d.id ∧ r.backend = d.backend ∧
      Rollout.differences "" r.attributes d.attributes ≠ [] ∧
      applyOf recorded d =
        { id := d.id, sides := .update r d,
          differences := Rollout.differences "" r.attributes d.attributes }) ∨
    (∃ r ∈ recorded.resources, r.id = d.id ∧ r.backend = d.backend ∧
      Rollout.differences "" r.attributes d.attributes = [] ∧
      applyOf recorded d = { id := d.id, sides := .noChange r d }) := by
  unfold applyOf
  cases hf : recorded.find d.id with
  | none => exact .inl ⟨Resource.find_eq_none_iff.mp hf, rfl⟩
  | some r =>
    obtain ⟨hr, hid⟩ := (Resource.find_eq_some_iff hnodup).mp hf
    refine .inr ?_
    simp only
    by_cases hbackend : r.backend = d.backend
    · rw [if_pos hbackend]
      cases hfound : Rollout.differences "" r.attributes d.attributes with
      | nil => exact .inr (.inr ⟨r, hr, hid, hbackend, hfound, rfl⟩)
      | cons found rest =>
        exact .inr (.inl ⟨r, hr, hid, hbackend, by simp [hfound], by simp [hfound]⟩)
    · rw [if_neg hbackend]
      exact .inl ⟨r, hr, hid, hbackend, rfl⟩

theorem applyOf_id (recorded : Graph) (d : Resource) : (applyOf recorded d).id = d.id := by
  unfold applyOf
  split
  · rfl
  · simp only
    split <;> rfl

theorem applyOf_desired? (recorded : Graph) (d : Resource) :
    (applyOf recorded d).desired? = some d := by
  unfold applyOf
  split
  · rfl
  · simp only
    split
    · simp only [Change.desired?]
      split <;> rfl
    · rfl

theorem applyOf_action_ne_delete (recorded : Graph) (d : Resource) :
    (applyOf recorded d).action ≠ .delete :=
  (Change.desired?_eq_some_iff.mp (applyOf_desired? recorded d)).1

end

/-- A change is a delete of a recorded resource, or what becomes of a desired one. -/
theorem mem_between_iff {wanted recorded : Graph} (hwanted : Graph.build true desired = .ok wanted)
    (hrecorded : Graph.build false last = .ok recorded) {c : Change} :
    c ∈ (between wanted recorded).changes ↔
      (∃ r ∈ last, c.id = r.id ∧ c.sides = .delete r ∧ c.differences = [] ∧
        (∀ d ∈ desired, d.id = r.id → d.backend ≠ r.backend) ∧
        (c.replacement = true ↔ r.id ∈ Resource.ids desired)) ∨
      ∃ d ∈ desired, applyOf recorded d = c := by
  obtain ⟨_, _, _, hdesired, _⟩ := Graph.build_inv hwanted
  have hnodup := hdesired.symm ▸ (Graph.Accepted.of_build hwanted).nodup
  simp only [between, List.mem_append, List.mem_filterMap, List.mem_map, Graph.destroyOrdered,
    List.mem_reverse, Graph.mem_ordered hrecorded, Graph.mem_ordered hwanted]
  refine or_congr_left (exists_congr fun r => and_congr_right fun _ => ?_)
  rw [deleteOf_eq_some_iff hnodup, hdesired]

/-- What is kept of a list, under names that are those it was kept of. -/
theorem sublist_map_filterMap {α β γ : Type} {f : α → Option β} {g : β → γ} {k : α → γ} :
    ∀ {l : List α}, (∀ a ∈ l, ∀ b, f a = some b → g b = k a) →
      ((l.filterMap f).map g).Sublist (l.map k)
  | [], _ => .slnil
  | a :: rest, h => by
    have ih := sublist_map_filterMap fun a ha => h a (List.mem_cons_of_mem _ ha)
    rw [List.filterMap_cons]
    cases hb : f a with
    | none => exact .cons _ ih
    | some b =>
      simp only [List.map_cons, h a (by simp) b hb]
      exact .cons_cons _ ih

theorem key_of_deleteOf {wanted : Graph} {r : Resource} {c : Change}
    (h : deleteOf wanted r = some c) : c.key = (true, r.id) := by
  unfold deleteOf at h
  split at h
  · cases h
    rfl
  · split at h
    · cases h
    · cases h
      rfl

/-- No two changes of a plan have a key in common. -/
theorem nodup_keys (h : compute desired last = .ok plan) :
    (plan.changes.map Change.key).Nodup := by
  obtain ⟨wanted, recorded, hwanted, hrecorded, rfl, _⟩ := compute_inv h
  have hwantedIds : (wanted.ordered.map Resource.id).Nodup :=
    ((Graph.ordered_perm hwanted).map Resource.id).nodup_iff.mpr
      (Graph.Accepted.of_build hwanted).nodup
  have hrecordedIds : (recorded.destroyOrdered.map Resource.id).Nodup := by
    rw [Graph.destroyOrdered, List.map_reverse, List.nodup_reverse]
    exact ((Graph.ordered_perm hrecorded).map Resource.id).nodup_iff.mpr
      (Graph.Accepted.of_build hrecorded).nodup
  have happlies : (wanted.ordered.map (applyOf recorded)).map Change.key
      = (wanted.ordered.map Resource.id).map fun id => (false, id) := by
    simp only [List.map_map]
    refine List.map_congr_left fun d _ => ?_
    simp [Change.key, applyOf_id, applyOf_action_ne_delete]
  have hdeletes : ((recorded.destroyOrdered.filterMap (deleteOf wanted)).map Change.key).Sublist
      (recorded.destroyOrdered.map fun r => (true, r.id)) :=
    sublist_map_filterMap fun _ _ _ hc => key_of_deleteOf hc
  rw [between, List.map_append, happlies]
  refine List.nodup_append.mpr ⟨?_, ?_, ?_⟩
  · refine List.Nodup.sublist hdeletes ?_
    refine List.Nodup.of_map Prod.snd ?_
    simpa [Function.comp_def] using hrecordedIds
  · exact hwantedIds.map fun _ _ h => congrArg Prod.snd h
  · intro a ha b hb hab
    obtain ⟨r, _, rfl⟩ := List.mem_map.mp (hdeletes.subset ha)
    obtain ⟨id, _, rfl⟩ := List.mem_map.mp hb
    cases hab

/-- **What a computed plan holds.** -/
theorem compares_of (h : compute desired last = .ok plan) : plan.Compares desired last := by
  obtain ⟨wanted, recorded, hwanted, hrecorded, hplan, _⟩ := compute_inv h
  obtain ⟨_, _, _, hlast, _⟩ := Graph.build_inv hrecorded
  have hnodup := hlast.symm ▸ (Graph.Accepted.of_build hrecorded).nodup
  have hmem := @mem_between_iff desired last wanted recorded hwanted hrecorded
  rw [← hplan] at hmem
  -- a change that is no delete is what becomes of a desired resource
  have happly : ∀ c ∈ plan.changes, ∀ d, c.sides.desired? = some d →
      d ∈ desired ∧ c = applyOf recorded d := by
    intro c hc d hsides
    rcases hmem.mp hc with ⟨r, _, _, hdelete, _⟩ | ⟨d', hd', rfl⟩
    · simp [hdelete, Sides.desired?] at hsides
    · have := applyOf_desired? recorded d'
      rw [Change.desired?, hsides, Option.some.injEq] at this
      subst this
      exact ⟨hd', rfl⟩
  refine ⟨nodup_keys h, fun c hc r hsides => ?_, fun c hc d hsides => ?_,
    fun c hc r d hsides => ?_, fun c hc r d hsides => ?_, fun d hd => ?_, fun r hr hall => ?_⟩
  · rcases hmem.mp hc with ⟨r', hr', hid, hsides', _, hall, hrepl⟩ | ⟨d, _, rfl⟩
    · rw [hsides, Sides.delete.injEq] at hsides'
      subst hsides'
      exact ⟨hr', hid, hall, hrepl⟩
    · exact absurd (Change.action_eq_delete_iff.mpr ⟨r, hsides⟩)
        (applyOf_action_ne_delete recorded d)
  · obtain ⟨hd, rfl⟩ := happly c hc d (by rw [hsides]; rfl)
    rcases applyOf_cases (d := d) hnodup with ⟨hno, heq⟩ | ⟨r, hr, hid, hne, heq⟩ |
      ⟨r, hr, hid, hb, hdiff, heq⟩ | ⟨r, hr, hid, hb, hdiff, heq⟩
    all_goals rw [heq] at hsides ⊢
    · rw [hlast] at hno
      exact ⟨hd, rfl, fun r hr hid => absurd (hid ▸ Resource.mem_ids_of_mem hr) hno, by simp [hno]⟩
    · rw [hlast] at hr hnodup
      refine ⟨hd, rfl, fun r' hr' hid' => ?_, by simp [← hid, Resource.mem_ids_of_mem hr]⟩
      rw [Resource.eq_of_id_eq hnodup hr' hr (hid'.trans hid.symm)]
      exact hne
    · cases hsides
    · cases hsides
  · obtain ⟨hd, rfl⟩ := happly c hc d (by rw [hsides]; rfl)
    rcases applyOf_cases (d := d) hnodup with ⟨hno, heq⟩ | ⟨r', hr, hid, hne, heq⟩ |
      ⟨r', hr, hid, hb, hdiff, heq⟩ | ⟨r', hr, hid, hb, hdiff, heq⟩
    all_goals rw [heq] at hsides ⊢; cases hsides
    exact ⟨hd, hlast ▸ hr, rfl, hid, hb, hdiff⟩
  · obtain ⟨hd, rfl⟩ := happly c hc d (by rw [hsides]; rfl)
    rcases applyOf_cases (d := d) hnodup with ⟨hno, heq⟩ | ⟨r', hr, hid, hne, heq⟩ |
      ⟨r', hr, hid, hb, hdiff, heq⟩ | ⟨r', hr, hid, hb, hdiff, heq⟩
    all_goals rw [heq] at hsides ⊢; cases hsides
    exact ⟨hd, hlast ▸ hr, rfl, hid, hb, hdiff⟩
  · exact ⟨applyOf recorded d, hmem.mpr (.inr ⟨d, hd, rfl⟩), applyOf_desired? recorded d⟩
  · refine ⟨{ id := r.id, sides := .delete r,
              replacement := decide (r.id ∈ Resource.ids desired) },
      hmem.mpr (.inl ⟨r, hr, rfl, rfl, rfl, hall, by simp⟩), rfl⟩

/-- **When a plan is computed, and what is wrong if it is not**: one of the collections has no graph,
or a desired resource has no identifier. -/
theorem compute_cases (desired : List Resource) (hlast : ∀ r ∈ last, r.id ≠ "") :
    (¬ (Resource.Accepted true desired ∧ Resource.Accepted false last) ∧
      ∃ e, compute desired last = .error (.graph e)) ∨
    (Resource.Accepted true desired ∧ Resource.Accepted false last ∧ "" ∈ Resource.ids desired ∧
      compute desired last = .error (.change .emptyId)) ∨
    Resource.Accepted true desired ∧ Resource.Accepted false last ∧ "" ∉ Resource.ids desired ∧
      ∃ plan, compute desired last = .ok plan := by
  unfold compute
  cases hwanted : Graph.build true desired with
  | error e =>
    refine .inl ⟨fun ⟨hacc, _⟩ => ?_, e, rfl⟩
    obtain ⟨g, hg⟩ := (Graph.build_isOk_iff true desired).mpr hacc
    rw [hwanted] at hg
    cases hg
  | ok wanted =>
    cases hrecorded : Graph.build false last with
    | error e =>
      refine .inl ⟨fun ⟨_, hacc⟩ => ?_, e, rfl⟩
      obtain ⟨g, hg⟩ := (Graph.build_isOk_iff false last).mpr hacc
      rw [hrecorded] at hg
      cases hg
    | ok recorded =>
      have hempty : ((between wanted recorded).changes.any fun c => c.id = "") = true ↔
          "" ∈ Resource.ids desired := by
        rw [List.any_eq_true, Resource.mem_ids]
        constructor
        · rintro ⟨c, hc, hid⟩
          rcases (mem_between_iff hwanted hrecorded).mp hc with ⟨r, hr, hcr, _⟩ | ⟨d, hd, rfl⟩
          · exact absurd (hcr.symm.trans (by simpa using hid)) (hlast r hr)
          · exact ⟨d, hd, (applyOf_id recorded d).symm.trans (by simpa using hid)⟩
        · rintro ⟨d, hd, hid⟩
          exact ⟨applyOf recorded d, (mem_between_iff hwanted hrecorded).mpr (.inr ⟨d, hd, rfl⟩),
            by simp [applyOf_id, hid]⟩
      refine .inr ?_
      by_cases hmem : "" ∈ Resource.ids desired
      · exact .inl ⟨Graph.Accepted.of_build hwanted, Graph.Accepted.of_build hrecorded, hmem,
          if_pos (hempty.mpr hmem)⟩
      · exact .inr ⟨Graph.Accepted.of_build hwanted, Graph.Accepted.of_build hrecorded, hmem, _,
          if_neg fun h => hmem (hempty.mp h)⟩

end Plan

end Rollout
