import Rollout.Proofs.Execution.Succeeded
import Rollout.Proofs.Graph.Least

/-!
# The order of what an execution leaves

What is left is listed by the desired apply order, also those resources that are still in their
recorded version.  Such a version may depend on resources that the desired one does not, and that
stand behind it.

* `Resource.InApplyOrder` : every resource stands behind all those of the list that it depends on;
* `Resource.Stranded` : a resource whose action did not succeed stands in front of one that its recorded
  version depends on;
* `Resource.KeepsOrder` : a list that came of another one is in apply order exactly unless a resource is
  stranded;
* `Resource.KeepsOrder.record` : so it is of the record of the list;
* `Run.Reached.keepsOrder` : so it is of every execution, however it is left.
-/

set_option autoImplicit false

namespace Rollout

/-! ## Lists in order -/

/-- What stands behind an item in a part of a list stands behind it in the whole list, and so does what
stands before it. -/
theorem sublist_around {α : Type} {a : α} {before after pre post : List α}
    (hnodup : (pre ++ a :: post).Nodup)
    (hsub : (before ++ a :: after).Sublist (pre ++ a :: post)) :
    before.Sublist pre ∧ after.Sublist post := by
  obtain ⟨hpre, hpost⟩ : a ∉ pre ∧ a ∉ post := by
    have hnd := List.nodup_append.mp hnodup
    exact ⟨fun h => hnd.2.2 a h a (by simp) rfl, (List.nodup_cons.mp hnd.2.1).1⟩
  obtain ⟨front, back, heq, hfront, hback⟩ := List.sublist_append_iff.mp hsub
  -- the front ends before the item, since the item is not among what precedes it
  have hnot : a ∉ front := fun h => hpre (hfront.subset h)
  rcases List.append_eq_append_iff.mp heq with ⟨rest, hrest, hcons⟩ | ⟨rest, rfl, rfl⟩
  · cases rest with
    | nil =>
      obtain rfl : front = before := by simpa using hrest
      obtain rfl : back = a :: after := by simpa using hcons.symm
      exact ⟨hfront, List.cons_sublist_cons.mp hback⟩
    | cons b rest =>
      obtain ⟨rfl, -⟩ := List.cons_eq_cons.mp hcons
      exact absurd (by simp [hrest]) hnot
  · -- nor does anything precede it in the back
    cases rest with
    | nil => exact ⟨by simpa using hfront, List.cons_sublist_cons.mp hback⟩
    | cons b rest =>
      have hmem : a ∈ post := by
        cases hback with
        | cons _ h => exact h.subset (by simp)
        | cons_cons _ h => exact h.subset (by simp)
      exact absurd hmem hpost

namespace Resource

/-- **A list in apply order**: no resource of it depends on itself or on one that stands behind it. -/
def InApplyOrder (resources : List Resource) : Prop :=
  ∀ before x after, resources = before ++ x :: after → ∀ y ∈ x :: after, y.id ∉ x.dependsOn

/-- **A resource whose action did not succeed stands in front of one that it depends on**: it is desired,
and still there in another version, whose dependency the desired order does not put before it. -/
def Stranded (order : List String) (records : List ActionRecord) (state : List Resource) : Prop :=
  ∃ x ∈ state, ∃ y ∈ state, y.id ∈ x.dependsOn ∧
    (∃ pre post, order = pre ++ x.id :: post ∧ y.id ∉ pre) ∧
    ∃ record ∈ records, record.resourceId = x.id ∧ record.status ≠ .succeeded

/-- The same, for the apply order of desired resources. -/
def StrandedFor (desired : List Resource) (records : List ActionRecord) (state : List Resource) :
    Prop :=
  ∃ g, Graph.build true desired = .ok g ∧ Stranded g.order records state

/-- **A list that came of another one is in apply order exactly unless a resource is stranded.** -/
structure KeepsOrder (desired baseline : List Resource) (records : List ActionRecord)
    (state : List Resource) : Prop where
  free : InApplyOrder state → ¬ StrandedFor desired records state
  inOrder : InApplyOrder baseline → ¬ StrandedFor desired records state → InApplyOrder state

theorem inApplyOrder_nil : InApplyOrder [] := by
  intro before x after h
  simp at h

/-- Nothing is stranded without an action. -/
theorem not_strandedFor_nil {desired state : List Resource} : ¬ StrandedFor desired [] state := by
  rintro ⟨_, _, _, _, _, _, _, _, _, hrecord, _⟩
  cases hrecord

theorem KeepsOrder.refl (desired state : List Resource) : KeepsOrder desired state [] state :=
  ⟨fun _ => not_strandedFor_nil, fun h _ => h⟩

/-- A record is in apply order exactly if what was written is. -/
theorem inApplyOrder_map_dumped {resources : List Resource} :
    InApplyOrder (resources.map dumped) ↔ InApplyOrder resources := by
  constructor
  · rintro h before x after rfl y hy
    exact h (before.map dumped) x.dumped (after.map dumped) (by simp) y.dumped
      (by simpa using List.mem_map_of_mem hy)
  · intro h before x after heq y hy
    obtain ⟨before', rest, rfl, -, hrest⟩ := List.map_eq_append_iff.mp heq
    obtain ⟨x', after', rfl, rfl, rfl⟩ := List.map_eq_cons_iff.mp hrest
    rw [← List.map_cons] at hy
    obtain ⟨y', hy', rfl⟩ := List.mem_map.mp hy
    exact h before' x' after' rfl y' hy'

/-- A resource is stranded in a record exactly if it is in what was written. -/
theorem strandedFor_map_dumped {desired state : List Resource} {records : List ActionRecord} :
    StrandedFor (desired.map dumped) records (state.map dumped) ↔
      StrandedFor desired records state := by
  have hstranded : ∀ order : List String,
      Stranded order records (state.map dumped) ↔ Stranded order records state := by
    intro order
    simp [Stranded]
  unfold StrandedFor
  rw [Graph.build_map_dumped]
  cases Graph.build true desired with
  | error e => simp [Except.map]
  | ok g => simp [Except.map, Graph.order_map_dumped, hstranded]

/-- What is written of a list that came of another one came of it, too. -/
theorem KeepsOrder.record {desired baseline state : List Resource} {records : List ActionRecord}
    (h : KeepsOrder desired baseline records state) :
    KeepsOrder (desired.map dumped) baseline records (state.map dumped) where
  free := by
    rw [inApplyOrder_map_dumped, strandedFor_map_dumped]
    exact h.free
  inOrder := by
    rw [inApplyOrder_map_dumped, strandedFor_map_dumped]
    exact h.inOrder

/-- Identifiers around one resource. -/
theorem ids_around (before : List Resource) (x : Resource) (after : List Resource) :
    ids (before ++ x :: after) = ids before ++ x.id :: ids after := by simp [ids]

end Resource

open Resource

/-- A resource that is recorded only stands behind all that it depends on, if it did so before. -/
theorem Resource.InApplyOrder.behind {baseline : List Resource} (h : InApplyOrder baseline)
    {order : List String} {x y : Resource} (hx : x ∈ baseline) (hno : x.id ∉ order)
    (hneeds : y.id ∈ x.dependsOn) :
    ∃ pre post, ((ids baseline).filter fun id => !order.contains id) = pre ++ x.id :: post ∧
      y.id ≠ x.id ∧ y.id ∉ post := by
  obtain ⟨before, after, rfl⟩ := List.append_of_mem hx
  have hbehind : ∀ id ∈ ids (x :: after), id ≠ y.id := by
    rintro id hid rfl
    obtain ⟨z, hz, hzid⟩ := mem_ids.mp hid
    exact h before x after rfl z hz (hzid ▸ hneeds)
  refine ⟨(ids before).filter fun id => !order.contains id,
    (ids after).filter fun id => !order.contains id, ?_, fun h => ?_, fun h => ?_⟩
  · simp [ids_around, hno]
  · exact hbehind x.id (by simp [ids]) h.symm
  · exact hbehind y.id (List.mem_cons_of_mem _ (List.mem_filter.mp h).1) rfl

/-- A resource in its desired version stands behind all that it depends on. -/
theorem Graph.desired_behind {desired : List Resource} {g : Graph}
    (hgraph : Graph.build true desired = .ok g) {x y : Resource} (hx : x ∈ desired)
    (hneeds : y.id ∈ x.dependsOn) : ∃ pre post, g.order = pre ++ x.id :: post ∧ y.id ∈ pre := by
  have harranges := Graph.arranges_order hgraph
  obtain ⟨pre, post, horder⟩ :=
    List.append_of_mem (harranges.perm.mem_iff.mpr (mem_ids_of_mem hx))
  exact ⟨pre, post, horder, harranges.behind pre x.id post horder y.id
    ⟨x, hx, rfl, hneeds, (Graph.Accepted.of_build hgraph).present rfl x hx _ hneeds⟩⟩

/-! ## What is left of a plan -/

section

variable {plan : Plan} {desired baseline before after : List Resource} {g : Graph}
  {statuses : List Status} {applied : List (Nat × Resource)} {x y : Resource} {pre post : List String}
  (hcompute : Plan.compute desired baseline = .ok plan)
  (hgraph : Graph.build true desired = .ok g) (hfaith : plan.Faithful applied)
  (hstate : plan.resultingState baseline statuses applied = before ++ x :: after)

include hcompute hgraph hfaith hstate

/-- What is left stands around a resource as the plan lists it. -/
theorem Plan.listed_around
    (hlisting : (g.order ++ (ids baseline).filter fun id => !g.order.contains id)
      = pre ++ x.id :: post) :
    (ids before).Sublist pre ∧ (ids after).Sublist post := by
  obtain ⟨_, _, _, hrecorded, _, _⟩ := compute_inv hcompute
  have hplan := compares_of hcompute
  have hbase := (Graph.Accepted.of_build hrecorded).nodup
  have hnodup := nodup_listing hplan hbase
  have hsub : (ids (plan.resultingState baseline statuses applied)).Sublist
      (plan.listing baseline) := ids_resultingState_sublist hplan hbase (hfaith.identified hplan)
  rw [listing_eq hcompute hgraph, hlisting] at hnodup hsub
  rw [hstate, ids_around] at hsub
  exact sublist_around hnodup hsub

/-- So nothing that stands behind a resource is listed before it. -/
theorem Plan.not_listed_before (hy : y ∈ x :: after)
    (hlisting : (g.order ++ (ids baseline).filter fun id => !g.order.contains id)
      = pre ++ x.id :: post) : y.id ∉ pre := by
  intro hpre
  obtain ⟨_, _, _, hrecorded, _, _⟩ := compute_inv hcompute
  obtain ⟨-, hafter⟩ := listed_around hcompute hgraph hfaith hstate hlisting
  have hpost : y.id ∈ x.id :: post := by
    rcases List.mem_cons.mp hy with rfl | hy
    · exact List.mem_cons_self
    · exact List.mem_cons_of_mem _ (hafter.subset (mem_ids_of_mem hy))
  have hnodup := nodup_listing (compares_of hcompute) (Graph.Accepted.of_build hrecorded).nodup
  rw [listing_eq hcompute hgraph, hlisting] at hnodup
  exact (List.nodup_append.mp hnodup).2.2 _ hpre _ hpost rfl

end

/-- Where what is left is in apply order, no resource is stranded. -/
theorem Plan.free_of_inApplyOrder {plan : Plan} {desired baseline : List Resource}
    {statuses : List Status} {applied : List (Nat × Resource)} {records : List ActionRecord}
    (hcompute : Plan.compute desired baseline = .ok plan) (hfaith : plan.Faithful applied)
    (hordered : InApplyOrder (plan.resultingState baseline statuses applied)) :
    ¬ StrandedFor desired records (plan.resultingState baseline statuses applied) := by
  rintro ⟨g, hgraph, x, hx, y, hy, hneeds, ⟨pre, post, hpre, hnot⟩, -⟩
  obtain ⟨before, after, hstate⟩ := List.append_of_mem hx
  obtain ⟨hbefore, -⟩ := listed_around hcompute hgraph hfaith hstate
    (by rw [hpre, List.append_assoc, List.cons_append])
  rw [hstate] at hy
  refine hordered before x after hstate y ((List.mem_append.mp hy).resolve_left fun h => ?_) hneeds
  exact hnot (hbefore.subset (mem_ids_of_mem h))

/-! ## Executions -/

namespace Run

variable {plan : Plan} {desired baseline : List Resource} {s : Schedule} {limit : Int}
  {outcome : Nat → Outcome} {run final : Run} {cancelled : Bool}

/-- The recorded version of a desired resource is left only where an action on it did not succeed. -/
theorem exists_unsucceeded (hplan : plan.Compares desired baseline)
    (hlisted : run.records.map ActionRecord.subject = plan.actions.map fun c => (c.id, c.action))
    {d : Resource} (hd : d ∈ desired)
    (hundone : ∀ c ∈ plan.changes, c.id = d.id → ¬ plan.Done run.statuses c) :
    ∃ record ∈ run.records, record.resourceId = d.id ∧ record.status ≠ .succeeded := by
  obtain ⟨c, hc, hcd⟩ := hplan.applied d hd
  have hcid := hplan.id_of_desired hc hcd
  have hno := hundone c hc hcid
  obtain ⟨i, hi⟩ := List.mem_iff_getElem?.mp (Plan.mem_actions_iff.mpr ⟨hc, fun h => hno (.inl h)⟩)
  obtain ⟨record, hrecord, hid, -⟩ := record_of_action hlisted hi
  refine ⟨record, List.mem_of_getElem? hrecord, hid.trans hcid, fun hst => hno ?_⟩
  exact (done_iff_record hplan.nodup hlisted hc).mpr (.inr ⟨i, record, hi, hrecord, hst⟩)

/-- **What an execution leaves is in apply order exactly unless a resource is stranded**, if it was so
before, and however the execution is left. -/
theorem Reached.keepsOrder (hcompute : Plan.compute desired baseline = .ok plan)
    (hschedule : Schedule.of? plan baseline = .ok s) (hfaith : s.Faithful outcome)
    (hreached : Reached s limit outcome run) (hfinal : final = run ∨ final = run.cancelPending) :
    KeepsOrder desired baseline (final.result plan baseline cancelled).records
      (final.result plan baseline cancelled).state := by
  obtain ⟨g, recorded, hgraph, hrecorded, _, _⟩ := Plan.compute_inv hcompute
  have hplan := Plan.compares_of hcompute
  have hbase := (Graph.Accepted.of_build hrecorded).nodup
  have hanswered : plan.Faithful final.applied :=
    (hreached.inv (Schedule.lawful_of hschedule)).toSound.faithful_left hschedule hfaith hfinal
  change KeepsOrder desired baseline final.records
    (plan.resultingState baseline final.statuses final.applied)
  refine ⟨Plan.free_of_inApplyOrder hcompute hanswered,
    fun hordered hfree before x after hstate y hy hneeds => ?_⟩
  have hmem : ∀ z ∈ x :: after, z ∈ plan.resultingState baseline final.statuses final.applied := by
    intro z hz
    rw [hstate]
    exact List.mem_append_right _ hz
  have hnotBefore : ∀ pre post, g.order = pre ++ x.id :: post → y.id ∉ pre := by
    rintro pre post hpre
    exact Plan.not_listed_before hcompute hgraph hanswered hstate hy
      (by rw [hpre, List.append_assoc, List.cons_append])
  rcases (Plan.mem_resultingState_iff hplan hbase hanswered).mp (hmem x List.mem_cons_self) with
    ⟨c, hc, -, hcx⟩ | ⟨hx, hundone⟩
  · -- the desired version
    obtain ⟨pre, post, hpre, hin⟩ :=
      Graph.desired_behind hgraph (hplan.of_desired hc hcx).1 hneeds
    exact hnotBefore pre post hpre hin
  · by_cases hin : x.id ∈ g.order
    · -- the recorded version of a desired resource
      obtain ⟨pre, post, hpre⟩ := List.append_of_mem hin
      obtain ⟨d, hd, hdx⟩ := mem_ids.mp ((Graph.arranges_order hgraph).perm.mem_iff.mp hin)
      obtain ⟨record, hrecord, hid, hst⟩ := exists_unsucceeded hplan
        (hreached.listed_left hschedule hfinal) hd fun c hc hcid => hundone c hc (hcid.trans hdx)
      exact hfree ⟨g, hgraph, x, hmem x List.mem_cons_self, y, hmem y hy, hneeds,
        ⟨pre, post, hpre, hnotBefore pre post hpre⟩, record, hrecord, hid.trans hdx, hst⟩
    · -- a resource that is recorded only
      obtain ⟨pre, post, hpre, hself, hnot⟩ := hordered.behind hx hin hneeds
      obtain ⟨-, hafter⟩ := Plan.listed_around hcompute hgraph hanswered hstate
        (by rw [hpre, List.append_assoc])
      rcases List.mem_cons.mp hy with rfl | hy
      · exact hself rfl
      · exact hnot (hafter.subset (mem_ids_of_mem hy))

end Run

end Rollout
