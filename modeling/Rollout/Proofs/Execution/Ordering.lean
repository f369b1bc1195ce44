import Rollout.Proofs.Execution.Schedule
import Rollout.Proofs.Execution.State
import Rollout.Proofs.Plan.Classified

/-!
# Which plans can be ordered

Creates and updates wait for each other along the desired dependencies, deletes against the recorded
ones.  A delete may also wait for an update, but nothing leads from a create or update back to a
delete, except from the create of a resource that moves to another backend to the delete of the old
one.  So actions that cannot be ordered have such a resource among them.

* `Plan.Wait` : the reasons for which one action of a plan waits for another;
* `Plan.acyclic_of_not_retyped` : no action waits for itself where nothing moves to another backend;
* `Schedule.exists_cycle_iff` : when the actions of a plan are refused.
-/

set_option autoImplicit false

namespace Rollout

open Relation

namespace Plan

/-- **Why an action waits for another one.** -/
inductive Wait (desired last : List Resource) (c d : Change) : Prop
  | applied (left : c.action ≠ .delete) (right : d.action ≠ .delete)
      (needs : Resource.Needs desired c.id d.id)
  | deleted (left : c.action = .delete) (right : d.action = .delete)
      (needs : Resource.Needs last d.id c.id)
  | released (left : c.action = .delete) (right : d.action = .update)
      (needs : Resource.Needs last d.id c.id)
  | replaced (left : c.action ≠ .delete) (right : d.action = .delete) (id : c.id = d.id)
      (retyped : Resource.Retyped desired last c.id)

variable {plan : Plan} {desired last : List Resource} {c d : Change} {i j : Nat}

theorem needs_of_recordedNeeds (hcompares : plan.Compares desired last) (hc : c ∈ plan.changes)
    (hdelete : c.action = .delete) (h : d.recordedNeeds last c.id = true) :
    Resource.Needs last d.id c.id := by
  obtain ⟨r, hr⟩ := Change.action_eq_delete_iff.mp hdelete
  obtain ⟨hmem, hid, _⟩ := hcompares.delete c hc r hr
  obtain ⟨x, hx, hneeds⟩ := List.any_eq_true.mp h
  rw [Bool.and_eq_true, decide_eq_true_eq, List.contains_iff_mem] at hneeds
  exact ⟨x, hx, hneeds.1, hneeds.2, hid ▸ Resource.mem_ids_of_mem hmem⟩

theorem needs_of_dependsOn (hcompares : plan.Compares desired last) (hc : c ∈ plan.changes)
    (hd : d ∈ plan.changes) {x : Resource} (hx : c.desired? = some x) (hright : d.action ≠ .delete)
    (h : x.dependsOn.contains d.id = true) : Resource.Needs desired c.id d.id := by
  obtain ⟨hmem, hid⟩ := hcompares.of_desired hc hx
  obtain ⟨hother, hotherId⟩ :=
    hcompares.of_desired hd (Change.desired?_eq_some_iff.mpr ⟨hright, rfl⟩)
  exact ⟨x, hmem, hid.symm, List.contains_iff_mem.mp h, hotherId ▸ Resource.mem_ids_of_mem hother⟩

/-- What is created and deleted at once moves to another backend. -/
theorem retyped_of_replaced (hcompares : plan.Compares desired last) (hc : c ∈ plan.changes)
    (hd : d ∈ plan.changes) {x r : Resource} (hx : c.desired? = some x) (hr : d.sides = .delete r)
    (hid : c.id = d.id) : Resource.Retyped desired last c.id := by
  obtain ⟨hmem, hcx⟩ := hcompares.of_desired hc hx
  obtain ⟨hrmem, hdr, hbackend, _⟩ := hcompares.delete d hd r hr
  have hxr : x.id = r.id := by rw [← hcx, hid, hdr]
  exact ⟨x, hmem, r, hrmem, hcx.symm, by rw [hid, hdr], hbackend x hmem hxr⟩

/-- An action waits for another one for one of four reasons. -/
theorem Compares.wait (hcompares : plan.Compares desired last) (hc : c ∈ plan.changes)
    (hd : d ∈ plan.changes) (h : c.waitsFor last d = true) : Wait desired last c d := by
  by_cases hdelete : c.action = .delete
  · obtain ⟨r, hcs⟩ := Change.action_eq_delete_iff.mp hdelete
    cases hds : d.sides with
    | delete x =>
      simp only [Change.waitsFor, hcs, hds] at h
      exact .deleted hdelete (Change.action_eq_delete_iff.mpr ⟨x, hds⟩)
        (needs_of_recordedNeeds hcompares hc hdelete h)
    | update x y =>
      simp only [Change.waitsFor, hcs, hds, Bool.and_eq_true] at h
      exact .released hdelete (by rw [Change.action, hds, Sides.action])
        (needs_of_recordedNeeds hcompares hc hdelete h.1)
    | create x => simp [Change.waitsFor, hcs, hds] at h
    | noChange x y => simp [Change.waitsFor, hcs, hds] at h
  · have hx : c.desired? = some c.resource := Change.desired?_eq_some_iff.mpr ⟨hdelete, rfl⟩
    rw [Schedule.waitsFor_of_desired hx] at h
    split at h
    · rename_i hright
      obtain ⟨r, hr⟩ := Change.action_eq_delete_iff.mp hright
      have hid : c.id = d.id := by
        rw [Bool.and_eq_true, decide_eq_true_eq] at h
        exact h.2.symm
      exact .replaced hdelete hright hid (retyped_of_replaced hcompares hc hd hx hr hid)
    · rename_i hright
      exact .applied hdelete hright (needs_of_dependsOn hcompares hc hd hx hright h)

theorem Compares.wait_of_waits (hcompares : plan.Compares desired last)
    (hwaits : plan.Waits last i j) :
    ∃ c d, plan.actions[i]? = some c ∧ plan.actions[j]? = some d ∧ Wait desired last c d := by
  obtain ⟨c, hc, d, ⟨hd, _⟩, hwait, _⟩ := hwaits
  exact ⟨c, d, hc, hd, hcompares.wait (mem_actions_iff.mp (List.mem_of_getElem? hc)).1
    (mem_actions_iff.mp (List.mem_of_getElem? hd)).1 hwait⟩

/-- Where nothing moves to another backend, a create or update waits for creates and updates only,
those of the resources it needs. -/
theorem waits_of_apply (hcompares : plan.Compares desired last)
    (hstay : ∀ id, ¬ Resource.Retyped desired last id) (hwaits : plan.Waits last i j)
    (hi : plan.actions[i]? = some c) (happly : c.action ≠ .delete) :
    ∃ d, plan.actions[j]? = some d ∧ d.action ≠ .delete ∧ Resource.Needs desired c.id d.id := by
  obtain ⟨c', d, hc, hd, hwait⟩ := hcompares.wait_of_waits hwaits
  obtain rfl : c' = c := Option.some.inj (hc.symm.trans hi)
  refine ⟨d, hd, ?_⟩
  cases hwait with
  | applied _ right needs => exact ⟨right, needs⟩
  | deleted left _ _ | released left _ _ => exact absurd left happly
  | replaced _ _ _ retyped => exact absurd retyped (hstay _)

/-- Then only deletes wait for a delete, those of the resources that need it. -/
theorem waits_of_delete (hcompares : plan.Compares desired last)
    (hstay : ∀ id, ¬ Resource.Retyped desired last id) (hwaits : plan.Waits last i j)
    (hj : plan.actions[j]? = some d) (hdelete : d.action = .delete) :
    ∃ c, plan.actions[i]? = some c ∧ c.action = .delete ∧ Resource.Needs last d.id c.id := by
  obtain ⟨c, d', hc, hd, hwait⟩ := hcompares.wait_of_waits hwaits
  obtain rfl : d' = d := Option.some.inj (hd.symm.trans hj)
  refine ⟨c, hc, ?_⟩
  cases hwait with
  | deleted left _ needs => exact ⟨left, needs⟩
  | applied _ right _ => exact absurd hdelete right
  | released _ right _ =>
    rw [hdelete] at right
    cases right
  | replaced _ _ _ retyped => exact absurd retyped (hstay _)

/-- **Where nothing moves to another backend, no action waits for itself**: what a create or update
waits for is needed by it as desired, and what waits for a delete is needed as recorded. -/
theorem acyclic_of_not_retyped (hcompute : compute desired last = .ok plan)
    (hstay : ∀ id, ¬ Resource.Retyped desired last id) :
    ∀ i, ¬ TransGen (plan.Waits last) i i := by
  have hcompares := compares_of hcompute
  obtain ⟨_, _, hwanted, hrecorded, _⟩ := compute_inv hcompute
  intro i hcycle
  have hforward : ∀ j, TransGen (plan.Waits last) i j → ∀ c, plan.actions[i]? = some c →
      c.action ≠ .delete → ∃ d, plan.actions[j]? = some d ∧ d.action ≠ .delete ∧
        TransGen (Resource.Needs desired) c.id d.id := by
    intro j hwaits c hc happly
    induction hwaits with
    | single hwait =>
      obtain ⟨d, hd, hright, hneeds⟩ := waits_of_apply hcompares hstay hwait hc happly
      exact ⟨d, hd, hright, .single hneeds⟩
    | tail _ hwait ih =>
      obtain ⟨m, hm, hmiddle, hpath⟩ := ih
      obtain ⟨d, hd, hright, hneeds⟩ := waits_of_apply hcompares hstay hwait hm hmiddle
      exact ⟨d, hd, hright, hpath.tail hneeds⟩
  have hbackward : ∀ j, TransGen (plan.Waits last) j i → ∀ d, plan.actions[i]? = some d →
      d.action = .delete → ∃ c, plan.actions[j]? = some c ∧ c.action = .delete ∧
        TransGen (Resource.Needs last) d.id c.id := by
    intro j hwaits d hd hdelete
    induction hwaits using TransGen.head_induction_on with
    | single hwait =>
      obtain ⟨c, hc, hleft, hneeds⟩ := waits_of_delete hcompares hstay hwait hd hdelete
      exact ⟨c, hc, hleft, .single hneeds⟩
    | head hwait _ ih =>
      obtain ⟨m, hm, hmiddle, hpath⟩ := ih
      obtain ⟨c, hc, hleft, hneeds⟩ := waits_of_delete hcompares hstay hwait hm hmiddle
      exact ⟨c, hc, hleft, hpath.tail hneeds⟩
  obtain ⟨_, ⟨c, hc, _⟩, _⟩ := TransGen.head'_iff.mp hcycle
  by_cases hdelete : c.action = .delete
  · obtain ⟨d, hd, _, hpath⟩ := hbackward i hcycle c hc hdelete
    obtain rfl : d = c := Option.some.inj (hd.symm.trans hc)
    exact (Graph.Accepted.of_build hrecorded).acyclic _ hpath
  · obtain ⟨d, hd, _, hpath⟩ := hforward i hcycle c hc hdelete
    obtain rfl : d = c := Option.some.inj (hd.symm.trans hc)
    exact (Graph.Accepted.of_build hwanted).acyclic _ hpath

end Plan

namespace Schedule

variable {plan : Plan} {baseline : List Resource}

/-- Actions that cannot be ordered are refused as a cycle. -/
theorem exists_error_iff :
    (∃ e, of? plan baseline = .error e) ↔ ∃ stuck, of? plan baseline = .error (.cycle stuck) := by
  constructor
  · rintro ⟨e, he⟩
    unfold of? at he ⊢
    simp only at he ⊢
    split at he
    · cases he
    · exact ⟨_, if_neg ‹_›⟩
  · exact fun ⟨_, h⟩ => ⟨_, h⟩

/-- **The actions of a plan are refused exactly if one of them waits for itself**, directly or
through others. -/
theorem exists_cycle_iff :
    (∃ stuck, of? plan baseline = .error (.cycle stuck)) ↔
      ∃ i, TransGen (plan.Waits baseline) i i := by
  rw [← exists_error_iff, ← not_iff_not]
  push Not
  rw [← exists_iff]
  cases of? plan baseline <;> simp

end Schedule

end Rollout
