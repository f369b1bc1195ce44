import Rollout.Proofs.Execution.Ordering
import Rollout.Proofs.Execution.Replay

/-!
# What a destroy leaves

Nothing is desired by a destroy, so it deletes every recorded resource, and none before everything
that needs it is gone.  However many of the deletes succeed, what is left needs nothing that is gone.

* `ExecutionResult.deleted` : whether the delete of a resource is confirmed;
* `ExecutionResult.Remains` : what is left of recorded resources of which some were deleted;
* `Plan.exists_ordered_deletes` : what has a graph can be destroyed;
* `Run.Reached.remains` : what is left of a run of a destroy.
-/

set_option autoImplicit false

namespace Rollout

open Relation

/-- Whether the delete of a resource is confirmed. -/
def ExecutionResult.deleted (result : ExecutionResult) (id : String) : Bool :=
  result.records.any fun r => r.resourceId = id && r.status = .succeeded

/-- **What is left of recorded resources of which some were deleted**: there is one record for the
delete of each resource; the resources whose delete is not confirmed are left, in their order, and
with each of them all that it needs; and nothing is left exactly if every delete succeeded. -/
structure ExecutionResult.Remains (baseline : List Resource) (result : ExecutionResult) : Prop where
  records : (result.records.map ActionRecord.subject).Perm
    (baseline.map fun r => (r.id, Action.delete))
  state : result.state = baseline.filter fun r => !result.deleted r.id
  closed : ∀ a b, TransGen (Resource.Needs baseline) a b → a ∈ Resource.ids result.state →
    b ∈ Resource.ids result.state
  nil_iff : result.state = [] ↔ ∀ r ∈ result.records, r.status = .succeeded

/-! ## The plan of a destroy -/

namespace Plan

variable {plan : Plan} {baseline : List Resource} {c : Change}

/-- Where nothing is desired, everything that is planned is a delete. -/
theorem exists_delete (hcompute : compute [] baseline = .ok plan) (hc : c ∈ plan.changes) :
    ∃ r ∈ baseline, c.id = r.id ∧ c.sides = .delete r := by
  obtain ⟨wanted, recorded, hwanted, hrecorded, rfl, _⟩ := compute_inv hcompute
  rcases (mem_between_iff hwanted hrecorded).mp hc with ⟨r, hr, hid, hsides, _⟩ | ⟨d, hd, _⟩
  · exact ⟨r, hr, hid, hsides⟩
  · cases hd

theorem action_of_destroy (hcompute : compute [] baseline = .ok plan) (hc : c ∈ plan.changes) :
    c.action = .delete := by
  obtain ⟨r, _, _, hsides⟩ := exists_delete hcompute hc
  rw [Change.action, hsides, Sides.action]

theorem actions_of_destroy (hcompute : compute [] baseline = .ok plan) :
    plan.actions = plan.changes := by
  refine List.filter_eq_self.mpr fun c hc => ?_
  simp [Change.isSignificant, action_of_destroy hcompute hc]

/-- Every recorded resource is deleted once. -/
theorem subjects_of_destroy (hcompute : compute [] baseline = .ok plan) :
    (plan.actions.map fun c => (c.id, c.action)).Perm
      (baseline.map fun r => (r.id, Action.delete)) := by
  obtain ⟨wanted, recorded, hwanted, hrecorded, hplan, _⟩ := compute_inv hcompute
  have hdeletes := deletes_between hwanted hrecorded
  have hnone : wanted.ordered = [] := List.eq_nil_iff_forall_not_mem.mpr fun d hd =>
    absurd ((Graph.mem_ordered hwanted).mp hd) List.not_mem_nil
  have hchanges : plan.changes = recorded.destroyOrdered.filterMap (deleteOf wanted) := by
    rw [hplan, between, hnone, List.map_nil, List.append_nil]
  have hids : (plan.changes.map Change.id).Perm (Resource.ids baseline) := by
    rw [hchanges]
    refine (List.perm_ext_iff_of_nodup hdeletes.nodup
      (Graph.Accepted.of_build hrecorded).nodup).mpr fun id => ?_
    rw [hdeletes.mem_iff]
    exact and_iff_left (.inl List.not_mem_nil)
  have hsubjects : (plan.actions.map fun c => (c.id, c.action)) =
      (plan.changes.map Change.id).map fun id => (id, Action.delete) := by
    rw [actions_of_destroy hcompute, List.map_map]
    exact List.map_congr_left fun c hc => by
      rw [action_of_destroy hcompute hc, Function.comp_apply]
  have hbaseline : (baseline.map fun r => (r.id, Action.delete)) =
      (Resource.ids baseline).map fun id => (id, Action.delete) := by
    rw [Resource.ids, List.map_map]
    rfl
  rw [hsubjects, hbaseline]
  exact hids.map _

/-- What a destroy leaves are the recorded resources whose delete is not confirmed. -/
theorem resultingState_of_destroy (hcompute : compute [] baseline = .ok plan)
    (statuses : List Status) (applied : List (Nat × Resource)) :
    plan.resultingState baseline statuses applied = baseline.filter fun r =>
      !plan.deletes.any fun c => c.id = r.id && plan.confirmed statuses c := by
  obtain ⟨_, _, _, hrecorded, _, _⟩ := compute_inv hcompute
  have happlies : (plan.changes.filter fun c => c.action ≠ .delete) = [] := by
    refine List.filter_eq_nil_iff.mpr fun c hc => ?_
    simp [action_of_destroy hcompute hc]
  simp only [resultingState, happlies, remaining,
    recorded_eq (Graph.Accepted.of_build hrecorded).nodup]
  simp [List.filter_map, Function.comp_def]

/-- **What has a graph can be destroyed**: the deletes are planned, and can be ordered. -/
theorem exists_ordered_deletes {g : Graph} (hgraph : Graph.build false baseline = .ok g)
    (hnamed : ∀ r ∈ baseline, r.id ≠ "") :
    ∃ plan s, compute [] baseline = .ok plan ∧ Schedule.of? plan baseline = .ok s := by
  rcases compute_cases [] hnamed with ⟨hno, _⟩ | ⟨_, _, hempty, _⟩ | ⟨_, _, _, plan, hplan⟩
  · exact absurd ⟨(Graph.build_isOk_iff true []).mp ⟨_, rfl⟩, Graph.Accepted.of_build hgraph⟩ hno
  · cases hempty
  · obtain ⟨s, hs⟩ := Schedule.exists_iff.mpr
      (acyclic_of_not_retyped hplan fun id hretyped => by cases hretyped.mem_desired)
    exact ⟨plan, s, hplan, hs⟩

end Plan

namespace Run

variable {plan : Plan} {baseline : List Resource} {s : Schedule} {limit : Int}
  {outcome : Nat → Outcome} {run final : Run}

/-! ## The runs of a destroy -/

theorem deleted_iff {plan' : Plan} {cancelled : Bool} {id : String} :
    (final.result plan' baseline cancelled).deleted id = true ↔
      ∃ (i : Nat) (r : ActionRecord),
        final.records[i]? = some r ∧ r.resourceId = id ∧ r.status = .succeeded := by
  simp only [ExecutionResult.deleted, result, List.any_eq_true, Bool.and_eq_true,
    decide_eq_true_eq, List.mem_iff_getElem?]
  constructor
  · rintro ⟨r, ⟨i, hr⟩, hfacts⟩
    exact ⟨i, r, hr, hfacts⟩
  · rintro ⟨i, r, hr, hfacts⟩
    exact ⟨r, ⟨i, hr⟩, hfacts⟩

section

variable (hcompute : Plan.compute [] baseline = .ok plan)
  (hlisted : final.records.map ActionRecord.subject = plan.actions.map fun c => (c.id, c.action))

include hcompute hlisted

/-- Which deletes are confirmed can be read off the records. -/
theorem confirmed_eq_deleted (cancelled : Bool) (id : String) :
    (plan.deletes.any fun c => c.id = id && plan.confirmed final.statuses c) =
      (final.result plan baseline cancelled).deleted id := by
  have hnodup := (Plan.compares_of hcompute).nodup
  rw [Bool.eq_iff_iff, deleted_iff, List.any_eq_true]
  constructor
  · rintro ⟨c, hc, hconfirmed⟩
    rw [Bool.and_eq_true, decide_eq_true_eq] at hconfirmed
    have hmem : c ∈ plan.actions := by
      rw [Plan.actions_of_destroy hcompute]
      exact (List.mem_filter.mp hc).1
    obtain ⟨i, hi⟩ := List.mem_iff_getElem?.mp hmem
    obtain ⟨r, hr, hid, _⟩ := record_of_action hlisted hi
    exact ⟨i, r, hr, hid.trans hconfirmed.1,
      (confirmed_iff_status hnodup hi hr).mp hconfirmed.2⟩
  · rintro ⟨i, r, hr, hid, hst⟩
    obtain ⟨c, hi, hcid, _⟩ := action_of_record hlisted hr
    have hc : c ∈ plan.changes := (Plan.mem_actions_iff.mp (List.mem_of_getElem? hi)).1
    refine ⟨c, List.mem_filter.mpr ⟨hc, ?_⟩, ?_⟩
    · exact decide_eq_true (Plan.action_of_destroy hcompute hc)
    · rw [Bool.and_eq_true, decide_eq_true_eq]
      exact ⟨hcid.symm.trans hid, (confirmed_iff_status hnodup hi hr).mpr hst⟩

theorem state_of_destroy (cancelled : Bool) :
    (final.result plan baseline cancelled).state =
      baseline.filter fun r => !(final.result plan baseline cancelled).deleted r.id := by
  simp only [← confirmed_eq_deleted hcompute hlisted]
  exact Plan.resultingState_of_destroy hcompute _ _

/-- A resource is not deleted before what needs it. -/
theorem deleted_of_needs (hschedule : Schedule.of? plan baseline = .ok s)
    (hgranted : ∀ i, final.status? i = some .succeeded → ∀ j ∈ s.waits i,
      final.status? j = some .succeeded)
    {cancelled : Bool} {a b : String} (hneeds : Resource.Needs baseline a b)
    (hb : (final.result plan baseline cancelled).deleted b = true) :
    (final.result plan baseline cancelled).deleted a = true := by
  obtain ⟨x, hx, rfl, hdepends, _⟩ := hneeds
  -- the delete of `b` waits for the delete of `x`
  obtain ⟨i, r, hr, rfl, hst⟩ := deleted_iff.mp hb
  obtain ⟨c, hi, hcid, _⟩ := action_of_record hlisted hr
  obtain ⟨d, hd, hdid⟩ : ∃ d ∈ plan.actions, d.id = x.id := by
    have hmem := (Plan.subjects_of_destroy hcompute).mem_iff.mpr (List.mem_map_of_mem hx)
    obtain ⟨d, hd, heq⟩ := List.mem_map.mp hmem
    exact ⟨d, hd, congrArg Prod.fst heq⟩
  obtain ⟨j, hj⟩ := List.mem_iff_getElem?.mp hd
  obtain ⟨_, _, _, hcsides⟩ := Plan.exists_delete hcompute
    (Plan.mem_actions_iff.mp (List.mem_of_getElem? hi)).1
  obtain ⟨_, _, _, hdsides⟩ := Plan.exists_delete hcompute (Plan.mem_actions_iff.mp hd).1
  have hwaits : j ∈ s.waits i := by
    refine (Schedule.mem_waits_iff hschedule).mpr
      ((Plan.single_of hcompute).waits_iff.mpr ⟨c, d, hi, hj, ?_⟩)
    simp only [Change.waitsFor, hcsides, hdsides, Change.recordedNeeds, List.any_eq_true,
      Bool.and_eq_true, decide_eq_true_eq, List.contains_iff_mem]
    exact ⟨x, hx, hdid.symm, hcid ▸ hdepends⟩
  have hsucceeded := hgranted i (status?_eq_some_iff.mpr ⟨r, hr, hst⟩) j hwaits
  obtain ⟨r', hr', hst'⟩ := status?_eq_some_iff.mp hsucceeded
  obtain ⟨d', hj', hid', _⟩ := action_of_record hlisted hr'
  rw [hj, Option.some.injEq] at hj'
  subst hj'
  exact deleted_iff.mpr ⟨j, r', hr', hid'.trans hdid, hst'⟩

end

/-- Every resource is deleted exactly if every delete succeeded. -/
theorem forall_deleted_iff (hcompute : Plan.compute [] baseline = .ok plan)
    (hsubjects : (final.records.map ActionRecord.subject).Perm
      (baseline.map fun r => (r.id, Action.delete))) (cancelled : Bool) :
    (∀ x ∈ baseline, (final.result plan baseline cancelled).deleted x.id = true) ↔
      ∀ r ∈ final.records, r.status = .succeeded := by
  obtain ⟨_, _, _, hrecorded, _, _⟩ := Plan.compute_inv hcompute
  have hnodup : (final.records.map ActionRecord.subject).Nodup := by
    refine hsubjects.nodup_iff.mpr (List.Nodup.of_map Prod.fst ?_)
    rw [List.map_map]
    exact (Graph.Accepted.of_build hrecorded).nodup
  have hdelete : ∀ r ∈ final.records, ∃ x ∈ baseline, r.subject = (x.id, Action.delete) := by
    intro r hr
    obtain ⟨x, hx, heq⟩ := List.mem_map.mp (hsubjects.mem_iff.mp (List.mem_map_of_mem hr))
    exact ⟨x, hx, heq.symm⟩
  constructor
  · intro h r hr
    obtain ⟨x, hx, hsubject⟩ := hdelete r hr
    obtain ⟨i, r', hr', hid, hst⟩ := deleted_iff.mp (h x hx)
    have hmem := List.mem_of_getElem? hr'
    obtain ⟨y, _, hsubject'⟩ := hdelete r' hmem
    have hy : r'.resourceId = y.id := congrArg Prod.fst hsubject'
    have hsame : r.subject = r'.subject := by
      rw [hsubject, hsubject', ← hid, hy]
    rw [List.inj_on_of_nodup_map hnodup hr hmem hsame]
    exact hst
  · intro h x hx
    obtain ⟨r, hr, hsubject⟩ := List.mem_map.mp
      (hsubjects.mem_iff.mpr (List.mem_map_of_mem (f := fun r => (r.id, Action.delete)) hx))
    obtain ⟨i, hi⟩ := List.mem_iff_getElem?.mp hr
    exact deleted_iff.mpr ⟨i, r, hi, congrArg Prod.fst hsubject, h r hr⟩

/-- **What is left of a run of a destroy**, however far it has come and however it is left. -/
theorem Reached.remains (hcompute : Plan.compute [] baseline = .ok plan)
    (hschedule : Schedule.of? plan baseline = .ok s) (hreached : Reached s limit outcome run)
    (hfinal : final = run ∨ final = run.cancelPending) (cancelled : Bool) :
    (final.result plan baseline cancelled).Remains baseline := by
  have hlisted := hreached.listed_left hschedule hfinal
  have hinv := hreached.inv (Schedule.lawful_of hschedule)
  have hsubjects : (final.records.map ActionRecord.subject).Perm
      (baseline.map fun r => (r.id, Action.delete)) :=
    hlisted ▸ Plan.subjects_of_destroy hcompute
  have hstate := state_of_destroy hcompute hlisted cancelled
  have hgranted : ∀ i, final.status? i = some .succeeded → ∀ j ∈ s.waits i,
      final.status? j = some .succeeded := fun i hi j hj =>
    (status?_left hfinal).mpr
      (hinv.granted i _ ((status?_left hfinal).mp hi) (.inr (.inl rfl)) j hj)
  have hmem : ∀ id, id ∈ Resource.ids (final.result plan baseline cancelled).state ↔
      id ∈ Resource.ids baseline ∧ (final.result plan baseline cancelled).deleted id = false := by
    intro id
    rw [hstate, Resource.mem_ids, Resource.mem_ids]
    simp only [List.mem_filter, Bool.not_eq_true']
    constructor
    · rintro ⟨r, ⟨hr, hno⟩, rfl⟩
      exact ⟨⟨r, hr, rfl⟩, hno⟩
    · rintro ⟨⟨r, hr, rfl⟩, hno⟩
      exact ⟨r, ⟨hr, hno⟩, rfl⟩
  have hstep : ∀ a b, Resource.Needs baseline a b →
      a ∈ Resource.ids (final.result plan baseline cancelled).state →
      b ∈ Resource.ids (final.result plan baseline cancelled).state := by
    intro a b hneeds ha
    refine (hmem b).mpr ⟨hneeds.mem.2, Bool.eq_false_iff.mpr fun hb => ?_⟩
    have hgone := deleted_of_needs hcompute hlisted hschedule hgranted hneeds hb
    rw [((hmem a).mp ha).2] at hgone
    cases hgone
  refine ⟨hsubjects, hstate, fun a b hneeds ha => ?_, ?_⟩
  · induction hneeds with
    | single hneeds => exact hstep _ _ hneeds ha
    | tail _ hneeds ih => exact hstep _ _ hneeds ih
  · rw [hstate, List.filter_eq_nil_iff]
    simp only [Bool.not_eq_true, Bool.not_eq_false']
    exact forall_deleted_iff hcompute hsubjects cancelled

end Run

end Rollout
