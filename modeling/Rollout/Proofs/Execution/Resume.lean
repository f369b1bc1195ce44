import Rollout.Proofs.Execution.Applied
import Rollout.Proofs.Execution.Tracking

/-!
# Planning again what was not confirmed

What an execution leaves of a plan is compared with the desired resources again.  A resource whose
change is done needs no action any more; one that was left in its recorded version needs the same
action as before; and of a replacement of which only the delete is done, the create is left.

* `Plan.Leaves` : what an execution leaves of a plan;
* `Plan.Leaves.noChange_of_done`, `Plan.Leaves.action_eq_of_not_done`,
  `Plan.Leaves.delete_iff` : what the next plan holds for each resource;
* `Plan.Leaves.mem_actions_iff` : the actions of the next plan are those that were not confirmed;
* `Run.resume` : so it is for whatever is left of an execution.
-/

set_option autoImplicit false

namespace Rollout

open Relation

namespace Plan

/-- What an execution leaves of a plan: the desired version of every resource whose change is done,
and the recorded version of every resource no change of which is done. -/
structure Leaves (p : Plan) (desired baseline : List Resource) (statuses : List Status)
    (state : List Resource) : Prop where
  compares : p.Compares desired baseline
  distinct : (Resource.ids baseline).Nodup
  nodup : (Resource.ids state).Nodup
  mem_iff : ∀ x, x ∈ state ↔
    (∃ c ∈ p.changes, p.Done statuses c ∧ c.desired? = some x) ∨
      x ∈ baseline ∧ ∀ c ∈ p.changes, c.id = x.id → ¬ p.Done statuses c
  deletesFirst : ∀ c ∈ p.changes, ∀ d ∈ p.changes, c.id = d.id → c.action ≠ .delete →
    d.action = .delete → p.Done statuses c → p.Done statuses d

variable {p next : Plan} {desired baseline state : List Resource} {statuses : List Status}
  {applied : List (Nat × Resource)} {s : Schedule} {c n : Change} {x : Resource}

/-- A replacement is not confirmed before its delete. -/
theorem done_of_replaced (hcompute : compute desired baseline = .ok p)
    (hschedule : Schedule.of? p baseline = .ok s) (hgranted : Granted s statuses)
    {d : Change} (hc : c ∈ p.changes) (hd : d ∈ p.changes) (hid : c.id = d.id)
    (happly : c.action ≠ .delete) (hdelete : d.action = .delete) (hdone : p.Done statuses c) :
    p.Done statuses d := by
  have hplan := compares_of hcompute
  have hactions := (Schedule.of?_inv hschedule).1
  obtain ⟨_, _, _, hrecorded, _, _⟩ := compute_inv hcompute
  obtain ⟨⟨x, hx⟩, _⟩ := hplan.replacement (Graph.Accepted.of_build hrecorded).nodup hc hd happly
    hdelete hid
  have hcreate : c.action = .create := by
    rw [Change.action, hx, Sides.action]
  have hno : c.action ≠ .noChange := by
    rw [hcreate]
    decide
  have hno' : d.action ≠ .noChange := by
    rw [hdelete]
    decide
  obtain ⟨i, hi⟩ := Schedule.exists_index hschedule hc hno
  obtain ⟨j, hj⟩ := Schedule.exists_index hschedule hd hno'
  have hwaits : j ∈ s.waits i := by
    refine Schedule.deletesFirst_of hcompute hschedule i j c d hi hj happly hdelete ?_
    rw [hplan.resource_id hc, hplan.resource_id hd, hid]
  rw [hactions] at hi hj
  have hconfirmed := (confirmed_iff hplan.nodup hi).mp (hdone.resolve_left hno)
  exact .inr ((confirmed_iff hplan.nodup hj).mpr (hgranted i j hwaits hconfirmed))

theorem leaves_of (hcompute : compute desired baseline = .ok p)
    (hschedule : Schedule.of? p baseline = .ok s) (hgranted : Granted s statuses)
    (hfaith : p.Faithful applied) :
    p.Leaves desired baseline statuses (p.resultingState baseline statuses applied) := by
  have hplan := compares_of hcompute
  obtain ⟨_, _, _, hrecorded, _, _⟩ := compute_inv hcompute
  have hbase := (Graph.Accepted.of_build hrecorded).nodup
  constructor
  case compares => exact hplan
  case distinct => exact hbase
  case nodup => exact nodup_resultingState hplan hbase hfaith
  case mem_iff =>
    intro x
    exact mem_resultingState_iff hplan hbase hfaith
  case deletesFirst =>
    intro c hc d hd hid happly hdelete hdone
    exact done_of_replaced hcompute hschedule hgranted hc hd hid happly hdelete hdone

/-- What becomes of a desired resource: it is created, unless one of the same backend is recorded
under its identifier; then it is updated, unless that one has its attributes. -/
theorem Compares.apply_cases (h : p.Compares desired baseline) (hc : c ∈ p.changes)
    (hx : c.desired? = some x) :
    (c.sides = .create x ∧ ∀ r ∈ baseline, r.id = x.id → r.backend ≠ x.backend) ∨
    (∃ r ∈ baseline, r.id = x.id ∧ r.backend = x.backend ∧ c.sides = .update r x ∧
      differences "" r.attributes x.attributes ≠ []) ∨
    ∃ r ∈ baseline, r.id = x.id ∧ r.backend = x.backend ∧ c.sides = .noChange r x ∧
      differences "" r.attributes x.attributes = [] := by
  rw [Change.desired?] at hx
  cases hsides : c.sides with
  | delete r => simp [hsides, Sides.desired?] at hx
  | create d =>
    rw [hsides, Sides.desired?, Option.some.injEq] at hx
    obtain ⟨_, _, hbackend, _⟩ := h.create c hc d hsides
    subst hx
    exact .inl ⟨rfl, hbackend⟩
  | update r d =>
    rw [hsides, Sides.desired?, Option.some.injEq] at hx
    obtain ⟨_, hr, _, hid, hbackend, hdifferences⟩ := h.update c hc r d hsides
    subst hx
    exact .inr (.inl ⟨r, hr, hid, hbackend, rfl, hdifferences⟩)
  | noChange r d =>
    rw [hsides, Sides.desired?, Option.some.injEq] at hx
    obtain ⟨_, hr, _, hid, hbackend, hdifferences⟩ := h.noChange c hc r d hsides
    subst hx
    exact .inr (.inr ⟨r, hr, hid, hbackend, rfl, hdifferences⟩)

/-- Every recorded resource has a change. -/
theorem Compares.exists_change (h : p.Compares desired baseline) (hx : x ∈ baseline) :
    ∃ c ∈ p.changes, c.id = x.id := by
  by_cases hkept : ∃ d ∈ desired, d.id = x.id ∧ d.backend = x.backend
  · obtain ⟨d, hd, hid, _⟩ := hkept
    obtain ⟨c, hc, hcd⟩ := h.applied d hd
    exact ⟨c, hc, (h.id_of_desired hc hcd).trans hid⟩
  · push Not at hkept
    obtain ⟨c, hc, hsides⟩ := h.deleted x hx hkept
    obtain ⟨_, hid, _⟩ := h.delete c hc x hsides
    exact ⟨c, hc, hid⟩

/-- The identifiers that are left are those of changes. -/
theorem Leaves.exists_change (h : p.Leaves desired baseline statuses state) (hx : x ∈ state) :
    ∃ c ∈ p.changes, c.id = x.id := by
  rcases (h.mem_iff x).mp hx with ⟨c, hc, _, hd⟩ | ⟨hbase, _⟩
  · exact ⟨c, hc, h.compares.id_of_desired hc hd⟩
  · exact h.compares.exists_change hbase

namespace Leaves

variable (h : p.Leaves desired baseline statuses state) (hnext : next.Compares desired state)

include h

/-- A recorded resource is left as it was, if its own delete or update is not done. -/
theorem mem_of_not_done (hc : c ∈ p.changes) (hbase : x ∈ baseline) (hid : c.id = x.id)
    (hdone : ¬ p.Done statuses c)
    (hone : c.action = .delete ∨ ∀ d ∈ p.changes, d.id = x.id → d.action ≠ .delete) :
    x ∈ state := by
  refine (h.mem_iff x).mpr (.inr ⟨hbase, ?_⟩)
  intro d hd hdid hddone
  by_cases hsame : c.action = .delete ↔ d.action = .delete
  · rw [eq_of_key h.compares.nodup hc hd (hid.trans hdid.symm) hsame] at hdone
    exact hdone hddone
  · rcases hone with hdelete | hnone
    · -- the other change applies what this one deletes, so it is done after it
      have happly : d.action ≠ .delete := fun hd' => hsame (iff_of_true hdelete hd')
      exact hdone (h.deletesFirst d hd c hc (hdid.trans hid.symm) happly hdelete hddone)
    · have hcdelete : c.action ≠ .delete := hnone c hc hid
      exact hsame (iff_of_false hcdelete (hnone d hd hdid))

/-- Of a resource that is created anew, nothing is left under the new backend before that is done. -/
theorem backend_ne_of_create (hc : c ∈ p.changes) (hsides : c.sides = .create x)
    (hdone : ¬ p.Done statuses c) {r : Resource} (hr : r ∈ state) (hid : r.id = x.id) :
    r.backend ≠ x.backend := by
  obtain ⟨_, hcid, hbackend, _⟩ := h.compares.create c hc x hsides
  rcases (h.mem_iff r).mp hr with ⟨d, hd, hddone, hdr⟩ | ⟨hbase, _⟩
  · have hdid := h.compares.id_of_desired hd hdr
    have hcapply : c.action ≠ .delete := by
      rw [Change.action, hsides, Sides.action]
      decide
    have hdapply := (Change.desired?_eq_some_iff.mp hdr).1
    have hsame : d = c := eq_of_key h.compares.nodup hd hc (by rw [hdid, hid, hcid])
      (iff_of_false hdapply hcapply)
    exact absurd (hsame ▸ hddone) hdone
  · exact hbackend r hbase hid

/-- An updated resource is left as it was until that is done: it is not deleted. -/
theorem mem_of_update {r : Resource} (hc : c ∈ p.changes) (hsides : c.sides = .update r x)
    (hdone : ¬ p.Done statuses c) : r ∈ state := by
  obtain ⟨_, hr, hcid, hid, _⟩ := h.compares.update c hc r x hsides
  have hcapply : c.action ≠ .delete := by
    rw [Change.action, hsides, Sides.action]
    decide
  refine h.mem_of_not_done hc hr (hcid.trans hid.symm) hdone (.inr ?_)
  intro d hd hdid hdelete
  obtain ⟨⟨y, hcreate⟩, _⟩ := h.compares.replacement h.distinct hc hd hcapply hdelete
    (by rw [hcid, hdid, hid])
  rw [hsides] at hcreate
  cases hcreate

include hnext

/-- **A resource whose change is done needs no action any more.** -/
theorem noChange_of_done (hc : c ∈ p.changes) (hcx : c.desired? = some x)
    (hdone : p.Done statuses c) (hvalue : Value.Comparable (.object x.attributes))
    (hn : n ∈ next.changes) (hnx : n.desired? = some x) : n.sides = .noChange x x := by
  have hleft : x ∈ state := (h.mem_iff x).mpr (.inl ⟨c, hc, hdone, hcx⟩)
  have hsame : ∀ r ∈ state, r.id = x.id → r = x := fun r hr hid =>
    Resource.eq_of_id_eq h.nodup hr hleft hid
  rcases hnext.apply_cases hn hnx with ⟨_, hbackend⟩ | ⟨r, hr, hid, _, _, hdifferences⟩ |
    ⟨r, hr, hid, _, hsides, _⟩
  · exact absurd rfl (hbackend x hleft rfl)
  · have hequal := (differences_eq_nil_iff "" _ _).mpr (Value.same_self _ hvalue)
    rw [hsame r hr hid] at hdifferences
    exact absurd hequal hdifferences
  · rw [hsides, hsame r hr hid]

/-- **A resource that was not confirmed needs the same action as before.** -/
theorem action_eq_of_not_done (hc : c ∈ p.changes) (hcx : c.desired? = some x)
    (hdone : ¬ p.Done statuses c) (hn : n ∈ next.changes) (hnx : n.desired? = some x) :
    n.action = c.action := by
  rcases h.compares.apply_cases hc hcx with ⟨hsides, _⟩ |
    ⟨r, hr, hid, hbackend, hsides, hdifferences⟩ | ⟨r, _, _, _, hsides, _⟩
  · have hnone := fun r => h.backend_ne_of_create hc hsides hdone (r := r)
    rcases hnext.apply_cases hn hnx with ⟨hnsides, _⟩ | ⟨r, hr, hid, hequal, _⟩ |
      ⟨r, hr, hid, hequal, _⟩
    · rw [Change.action, Change.action, hnsides, hsides]
    · exact absurd hequal (hnone r hr hid)
    · exact absurd hequal (hnone r hr hid)
  · have hleft := h.mem_of_update hc hsides hdone
    rcases hnext.apply_cases hn hnx with ⟨_, hnone⟩ | ⟨r', _, _, _, hnsides, _⟩ |
      ⟨r', hr', hid', _, _, hequal⟩
    · exact absurd hbackend (hnone r hleft hid)
    · rw [Change.action, Change.action, hnsides, hsides]
      rfl
    · have hsame : r' = r := Resource.eq_of_id_eq h.nodup hr' hleft (hid'.trans hid.symm)
      rw [hsame] at hequal
      exact absurd hequal hdifferences
  · exact absurd (.inl (Change.action_eq_noChange_iff.mpr ⟨r, x, hsides⟩)) hdone

/-- **A delete is planned again exactly if it was not confirmed.** -/
theorem delete_iff :
    (∃ n ∈ next.changes, n.sides = .delete x) ↔
      ∃ c ∈ p.changes, c.sides = .delete x ∧ ¬ p.Done statuses c := by
  constructor
  · rintro ⟨n, hn, hsides⟩
    obtain ⟨hleft, _, hbackend, _⟩ := hnext.delete n hn x hsides
    rcases (h.mem_iff x).mp hleft with ⟨c, hc, _, hcx⟩ | ⟨hbase, hall⟩
    · have hdesired := (h.compares.of_desired hc hcx).1
      exact absurd rfl (hbackend x hdesired rfl)
    · obtain ⟨c, hc, hcsides⟩ := h.compares.deleted x hbase hbackend
      obtain ⟨_, hcid, _⟩ := h.compares.delete c hc x hcsides
      exact ⟨c, hc, hcsides, hall c hc hcid⟩
  · rintro ⟨c, hc, hsides, hdone⟩
    obtain ⟨hbase, hcid, hbackend, _⟩ := h.compares.delete c hc x hsides
    have hdelete := Change.action_eq_delete_iff.mpr ⟨x, hsides⟩
    exact hnext.deleted x (h.mem_of_not_done hc hbase hcid hdone (.inl hdelete)) hbackend

/-- **The actions of the next plan are those that were not confirmed.** -/
theorem mem_actions_iff (hvalues : ∀ d ∈ desired, Value.Comparable (.object d.attributes))
    {entry : Action × String} :
    entry ∈ next.actions.map (fun n => (n.action, n.id)) ↔
      ∃ c ∈ p.actions, p.confirmed statuses c = false ∧ (c.action, c.id) = entry := by
  have hnot : ∀ c ∈ p.changes, (c.action ≠ .noChange ∧ p.confirmed statuses c = false) ↔
      ¬ p.Done statuses c := by
    intro c _
    rw [Done, not_or, Bool.not_eq_true]
  rw [List.mem_map]
  constructor
  · rintro ⟨n, hn, rfl⟩
    obtain ⟨hn, hno⟩ := Plan.mem_actions_iff.mp hn
    by_cases hdelete : n.action = .delete
    · obtain ⟨r, hsides⟩ := Change.action_eq_delete_iff.mp hdelete
      obtain ⟨c, hc, hcsides, hdone⟩ := (h.delete_iff hnext).mp ⟨n, hn, hsides⟩
      obtain ⟨hcno, hconf⟩ := (hnot c hc).mpr hdone
      have hcdelete := Change.action_eq_delete_iff.mpr ⟨r, hcsides⟩
      obtain ⟨_, hcid, _⟩ := h.compares.delete c hc r hcsides
      obtain ⟨_, hnid, _⟩ := hnext.delete n hn r hsides
      exact ⟨c, Plan.mem_actions_iff.mpr ⟨hc, hcno⟩, hconf, by rw [hcdelete, hdelete, hcid, hnid]⟩
    · have hnx := Change.desired?_eq_some_iff.mpr ⟨hdelete, rfl⟩
      obtain ⟨hdesired, hnid⟩ := hnext.of_desired hn hnx
      obtain ⟨c, hc, hcx⟩ := h.compares.applied n.resource hdesired
      have hcid := h.compares.id_of_desired hc hcx
      have hdone : ¬ p.Done statuses c := by
        intro hdone
        have hsides := h.noChange_of_done hnext hc hcx hdone (hvalues _ hdesired) hn hnx
        exact hno (Change.action_eq_noChange_iff.mpr ⟨_, _, hsides⟩)
      obtain ⟨hcno, hconf⟩ := (hnot c hc).mpr hdone
      have haction := h.action_eq_of_not_done hnext hc hcx hdone hn hnx
      exact ⟨c, Plan.mem_actions_iff.mpr ⟨hc, hcno⟩, hconf, by rw [haction, hcid, hnid]⟩
  · rintro ⟨c, hc, hconf, rfl⟩
    obtain ⟨hc, hcno⟩ := Plan.mem_actions_iff.mp hc
    have hdone := (hnot c hc).mp ⟨hcno, hconf⟩
    by_cases hdelete : c.action = .delete
    · obtain ⟨r, hsides⟩ := Change.action_eq_delete_iff.mp hdelete
      obtain ⟨n, hn, hnsides⟩ := (h.delete_iff hnext).mpr ⟨c, hc, hsides, hdone⟩
      have hndelete := Change.action_eq_delete_iff.mpr ⟨r, hnsides⟩
      obtain ⟨_, hcid, _⟩ := h.compares.delete c hc r hsides
      obtain ⟨_, hnid, _⟩ := hnext.delete n hn r hnsides
      refine ⟨n, Plan.mem_actions_iff.mpr ⟨hn, ?_⟩, by rw [hndelete, hdelete, hcid, hnid]⟩
      rw [hndelete]
      decide
    · have hcx := Change.desired?_eq_some_iff.mpr ⟨hdelete, rfl⟩
      obtain ⟨hdesired, hcid⟩ := h.compares.of_desired hc hcx
      obtain ⟨n, hn, hnx⟩ := hnext.applied c.resource hdesired
      have hnid := hnext.id_of_desired hn hnx
      have haction := h.action_eq_of_not_done hnext hc hcx hdone hn hnx
      refine ⟨n, Plan.mem_actions_iff.mpr ⟨hn, ?_⟩, by rw [haction, hnid, hcid]⟩
      rw [haction]
      exact hcno

end Leaves

/-- Where what is left has a graph, the desired resources can be planned against it. -/
theorem Leaves.exists_plan (h : p.Leaves desired baseline statuses state)
    (hcompute : compute desired baseline = .ok p) (hgraph : ∃ g, Graph.build false state = .ok g) :
    ∃ next, compute desired state = .ok next := by
  obtain ⟨_, _, hwanted, _, _, hids⟩ := compute_inv hcompute
  have hnamed : ∀ x ∈ state, x.id ≠ "" := by
    intro x hx
    obtain ⟨c, hc, hid⟩ := h.exists_change hx
    rw [← hid]
    exact hids c hc
  rcases compute_cases desired hnamed with ⟨hrefused, _⟩ | ⟨_, _, hempty, _⟩ | ⟨_, _, _, hnext⟩
  · have haccepted := (Graph.build_isOk_iff _ _).mp hgraph
    exact absurd ⟨Graph.Accepted.of_build hwanted, haccepted⟩ hrefused
  · obtain ⟨d, hd, hid⟩ := Resource.mem_ids.mp hempty
    obtain ⟨c, hc, hcd⟩ := h.compares.applied d hd
    exact absurd ((h.compares.id_of_desired hc hcd).trans hid) (hids c hc)
  · exact hnext

/-- No plan names an action on a resource twice. -/
theorem Compares.nodup_actions (h : p.Compares desired baseline) :
    (p.actions.map fun c => (c.action, c.id)).Nodup := by
  have hkeys := Plan.nodup_actions h.nodup
  refine List.Nodup.of_map (fun entry => (decide (entry.1 = .delete), entry.2)) ?_
  rw [List.map_map]
  exact hkeys

/-- Where everything is done, what is left has a graph. -/
theorem accepted_of_done (hcompute : compute desired baseline = .ok p)
    (hschedule : Schedule.of? p baseline = .ok s) (hgranted : Granted s statuses)
    (hfaith : p.Faithful applied) (hdone : ∀ c ∈ p.changes, p.Done statuses c) :
    Resource.Accepted false (p.resultingState baseline statuses applied) := by
  rw [accepted_resultingState_iff hcompute hschedule hgranted hfaith]
  rintro ⟨v, w, ⟨_, _, _, _, _, _, _, hw, hall⟩, _⟩
  obtain ⟨x, hx, rfl⟩ := Resource.mem_ids.mp hw
  obtain ⟨c, hc, hid⟩ := (compares_of hcompute).exists_change hx
  exact hall c hc hid (hdone c hc)

end Plan

/-! ### A move that stops halfway

A resource is to be moved to another backend.  Its old version is deleted, and the new one cannot be
created. -/

namespace Move

/-- The resource under its old backend. -/
def old : Resource := { id := "a", backend := .kubernetes }

/-- The resource under its new backend. -/
def new : Resource := { id := "a", backend := .terraform, attributes := [("x", .int 1)] }

/-- The creation of the new version. -/
def create : Change := { id := "a", sides := .create new, replacement := true }

/-- The move. -/
def plan : Plan := ⟨[{ id := "a", sides := .delete old, replacement := true }, create]⟩

/-- Its schedule: the old version is deleted before the new one is created. -/
def schedule : Schedule := ⟨plan.changes, [[], [0]], [0, 1]⟩

/-- The delete succeeds, the create fails. -/
def outcome (i : Nat) : Outcome := if i = 0 then .succeeded none else .failed "boom"

/-- The old version was deleted. -/
def deleted : Run := ((Run.init schedule).start default 0).settle schedule default (0, outcome 0)

/-- The new version was not created. -/
def final : Run := (deleted.start default 1).settle schedule default (1, outcome 1)

theorem reached : Run.Reached schedule 1 outcome final := by
  have hdeleted : Run.Reached schedule 1 outcome deleted :=
    .tail (.single (.start default rfl (by decide))) (.settle default (List.mem_singleton_self 0))
  exact (hdeleted.tail (.start default rfl (by decide))).tail
    (.settle default (List.mem_singleton_self 1))

theorem faithful : schedule.Faithful outcome := by
  intro i c returned _ hsucceeds
  unfold outcome at hsucceeds
  split at hsucceeds
  · rw [Outcome.succeeded.injEq] at hsucceeds
    exact .inl hsucceeds.symm
  · cases hsucceeds

end Move

namespace Run

variable {plan : Plan} {desired baseline : List Resource} {s : Schedule} {limit : Int}
  {outcome : Nat → Outcome} {run : Run} {state : List Resource} {i : Nat}

/-- The records of a plan's actions that were not confirmed. -/
def unconfirmed (run : Run) : List ActionRecord :=
  run.records.filter fun r => r.status ≠ .succeeded

/-- Which actions were not confirmed can be read off the records. -/
theorem mem_unconfirmed_iff (hplan : plan.Compares desired baseline)
    (hlisted : run.records.map ActionRecord.subject = plan.actions.map fun c => (c.id, c.action))
    {entry : Action × String} :
    entry ∈ run.unconfirmed.map (fun r => (r.action, r.resourceId)) ↔
      ∃ c ∈ plan.actions, plan.confirmed run.statuses c = false ∧ (c.action, c.id) = entry := by
  simp only [unconfirmed, List.mem_map, List.mem_filter, decide_eq_true_eq]
  constructor
  · rintro ⟨r, ⟨hr, hstatus⟩, rfl⟩
    obtain ⟨i, hi⟩ := List.mem_iff_getElem?.mp hr
    obtain ⟨c, hc, hid, haction⟩ := action_of_record hlisted hi
    refine ⟨c, List.mem_of_getElem? hc, ?_, by rw [hid, haction]⟩
    rwa [← Bool.not_eq_true, confirmed_iff_status hplan.nodup hc hi]
  · rintro ⟨c, hc, hconf, rfl⟩
    obtain ⟨i, hi⟩ := List.mem_iff_getElem?.mp hc
    obtain ⟨r, hr, hid, haction⟩ := record_of_action hlisted hi
    rw [← Bool.not_eq_true, confirmed_iff_status hplan.nodup hi hr] at hconf
    exact ⟨r, ⟨List.mem_of_getElem? hr, hconf⟩, by rw [hid, haction]⟩

/-- A change whose action every record on it shows as succeeded is done. -/
theorem done_of_records (hplan : plan.Compares desired baseline)
    (hlisted : run.records.map ActionRecord.subject = plan.actions.map fun c => (c.id, c.action))
    {c : Change} (hc : c ∈ plan.changes)
    (hall : ∀ r ∈ run.records, r.resourceId = c.id → r.action = c.action →
      r.status = .succeeded) : plan.Done run.statuses c := by
  rw [done_iff_record hplan.nodup hlisted hc]
  by_cases hno : c.action = .noChange
  · exact .inl hno
  · obtain ⟨i, hi⟩ := List.mem_iff_getElem?.mp (Plan.mem_actions_iff.mpr ⟨hc, hno⟩)
    obtain ⟨r, hr, hid, haction⟩ := record_of_action hlisted hi
    exact .inr ⟨i, r, hi, hr, hall r (List.mem_of_getElem? hr) hid haction⟩

/-- The actions that were not confirmed are recorded once each. -/
theorem nodup_unconfirmed (hplan : plan.Compares desired baseline)
    (hlisted : run.records.map ActionRecord.subject = plan.actions.map fun c => (c.id, c.action)) :
    (run.unconfirmed.map fun r => (r.action, r.resourceId)).Nodup := by
  have hswap := congrArg (List.map Prod.swap) hlisted
  rw [List.map_map, List.map_map] at hswap
  have hentries : (run.records.map fun r => (r.action, r.resourceId))
      = plan.actions.map fun c => (c.action, c.id) := hswap
  have hnodup := hplan.nodup_actions
  rw [← hentries] at hnodup
  exact hnodup.sublist (List.filter_sublist.map _)

/-- The actions of the next plan are those that the records do not show as succeeded. -/
theorem actions_perm (hlisted : run.records.map ActionRecord.subject
      = plan.actions.map fun c => (c.id, c.action))
    (hleaves : plan.Leaves desired baseline run.statuses state)
    (hvalues : ∀ d ∈ desired, Value.Comparable (.object d.attributes)) {next : Plan}
    (hnext : next.Compares desired state) :
    (next.actions.map fun c => (c.action, c.id)).Perm
      (run.unconfirmed.map fun r => (r.action, r.resourceId)) := by
  have hnodup := nodup_unconfirmed hleaves.compares hlisted
  refine (List.perm_ext_iff_of_nodup hnext.nodup_actions hnodup).mpr ?_
  intro entry
  rw [hleaves.mem_actions_iff hnext hvalues, mem_unconfirmed_iff hleaves.compares hlisted]

/-- **Planning from what is left of an execution plans exactly what was not confirmed.**  Where that
has a graph, the desired resources can be planned against it; the actions of that plan are those that
did not succeed, each once, and a resource whose action succeeded, or that needed none, needs none
now.  After an execution in which everything succeeded, nothing is left to be done. -/
theorem resume (hcompute : Plan.compute desired baseline = .ok plan)
    (hschedule : Schedule.of? plan baseline = .ok s) (hfaith : s.Faithful outcome)
    (hvalues : ∀ d ∈ desired, Value.Comparable (.object d.attributes))
    (hreached : Reached s limit outcome run) {final : Run}
    (hfinal : final = run ∨ final = run.cancelPending) (cancelled : Bool)
    (hstate : (final.result plan baseline cancelled).state = state) :
    ((∃ g, Graph.build false state = .ok g) →
      ∃ next, Plan.compute desired state = .ok next ∧
        (next.actions.map fun c => (c.action, c.id)).Nodup ∧
        (next.actions.map fun c => (c.action, c.id)).Perm
          (final.unconfirmed.map fun r => (r.action, r.resourceId)) ∧
        ∀ d ∈ desired, (∀ r ∈ final.records, r.resourceId = d.id → r.action ≠ .delete →
            r.status = .succeeded) →
          ∃ c ∈ next.changes, c.id = d.id ∧ c.sides = .noChange d d) ∧
    ((final.result plan baseline cancelled).succeeded = true →
      ∃ next, Plan.compute desired state = .ok next ∧ next.isEmpty = true) := by
  have hsound := (hreached.inv (Schedule.lawful_of hschedule)).toSound
  have hplan := Plan.compares_of hcompute
  have hgranted := hsound.granted_left hfinal
  have happlied := hsound.faithful_left hschedule hfaith hfinal
  have hlisted := hreached.listed_left hschedule hfinal
  have hplanned : plan.resultingState baseline final.statuses final.applied = state := hstate
  have hleaves : plan.Leaves desired baseline final.statuses state := by
    rw [← hplanned]
    exact Plan.leaves_of hcompute hschedule hgranted happlied
  constructor
  · intro hgraph
    obtain ⟨next, hcomputed⟩ := hleaves.exists_plan hcompute hgraph
    have hnext := Plan.compares_of hcomputed
    refine ⟨next, hcomputed, hnext.nodup_actions, actions_perm hlisted hleaves hvalues hnext, ?_⟩
    intro d hd hall
    obtain ⟨c, hc, hcd⟩ := hplan.applied d hd
    obtain ⟨n, hn, hnd⟩ := hnext.applied d hd
    have hcid := hplan.id_of_desired hc hcd
    have hcapply := (Change.desired?_eq_some_iff.mp hcd).1
    have hdone : plan.Done final.statuses c := by
      refine done_of_records hplan hlisted hc ?_
      intro r hr hid haction
      exact hall r hr (hid.trans hcid) (by rw [haction]; exact hcapply)
    exact ⟨n, hn, hnext.id_of_desired hn hnd,
      hleaves.noChange_of_done hnext hc hcd hdone (hvalues d hd) hn hnd⟩
  · intro hsucceeded
    have hall : ∀ r ∈ final.records, r.status = .succeeded := by
      simpa [ExecutionResult.succeeded, result] using hsucceeded
    have hdone : ∀ c ∈ plan.changes, plan.Done final.statuses c := fun c hc =>
      done_of_records hplan hlisted hc fun r hr _ _ => hall r hr
    have haccepted := Plan.accepted_of_done hcompute hschedule hgranted happlied hdone
    rw [hplanned, ← Graph.build_isOk_iff] at haccepted
    obtain ⟨next, hcomputed⟩ := hleaves.exists_plan hcompute haccepted
    have hnone : final.unconfirmed = [] := by
      rw [unconfirmed, List.filter_eq_nil_iff]
      intro r hr
      simp [hall r hr]
    have hperm := actions_perm hlisted hleaves hvalues (Plan.compares_of hcomputed)
    rw [hnone, List.map_nil, List.perm_nil, List.map_eq_nil_iff] at hperm
    exact ⟨next, hcomputed, by rw [Plan.isEmpty, hperm]; rfl⟩

/-- After the move that stopped halfway, the create is left. -/
theorem resume_move :
    Plan.compute [Move.new] [Move.old] = .ok Move.plan ∧
      Schedule.of? Move.plan [Move.old] = .ok Move.schedule ∧
      Move.final.statuses = [.succeeded, .failed] ∧
      ∃ next, Plan.compute [Move.new] [] = .ok next ∧
        (next.actions.map fun c => (c.action, c.id)) = [(.create, "a")] := by
  have hcompute : Plan.compute [Move.new] [Move.old] = .ok Move.plan := rfl
  have hschedule : Schedule.of? Move.plan [Move.old] = .ok Move.schedule := rfl
  have hvalues : ∀ d ∈ [Move.new], Value.Comparable (.object d.attributes) := by
    simp [Move.new, Value.Comparable, Value.ComparableFields]
  have hstate : (Move.final.result Move.plan [Move.old] false).state = [] := rfl
  obtain ⟨hresumed, _⟩ := resume hcompute hschedule Move.faithful hvalues Move.reached (.inl rfl)
    false hstate
  obtain ⟨next, hnext, _, hperm, _⟩ := hresumed ⟨_, rfl⟩
  refine ⟨hcompute, hschedule, rfl, next, hnext, ?_⟩
  exact List.perm_singleton.mp hperm

end Run

end Rollout
