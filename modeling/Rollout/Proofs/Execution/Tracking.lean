import Rollout.Proofs.Execution.Backend
import Rollout.Proofs.Execution.Replan
import Rollout.Proofs.Plan.Difference
import Rollout.Proofs.Release.Dumped

/-!
# The recorded state and the live resources

* `Tracks` : what is recorded is live, with the same attributes, and what is live is recorded;
* `Tracks.execute` : an execution keeps it so, however it is stopped and whatever fails;
* `Tracks.record` : and so does writing a record.
-/

set_option autoImplicit false

namespace Rollout

namespace Resource

variable {x y found : Resource}

/-- A live version of a resource has the same attributes, once both have been written. -/
def LivesAs (x found : Resource) : Prop :=
  Value.same (Value.object x.attributes).dumped (Value.object found.attributes).dumped = true

theorem LivesAs.of_same (h : Value.same (.object x.attributes) (.object y.attributes) = true)
    (hlives : y.LivesAs found) : x.LivesAs found :=
  Value.same_trans _ _ _ (Value.same_dumped _ _ h) hlives

theorem LivesAs.refl (h : Value.Comparable (.object x.attributes)) : x.LivesAs x :=
  Value.same_dumped _ _ (Value.same_self _ h)

theorem livesAs_dumped : x.dumped.LivesAs found ↔ x.LivesAs found := by
  simp only [LivesAs, dumped, Value.dumped, Value.dumpedFields_dumpedFields]

/-- The attributes are the same as they are where they are finite. -/
theorem LivesAs.same (h : x.LivesAs found) (hx : Value.FiniteFields x.attributes)
    (hfound : Value.FiniteFields found.attributes) :
    Value.same (.object x.attributes) (.object found.attributes) = true := by
  unfold LivesAs at h
  rwa [Value.Finite.dumped_eq (v := .object x.attributes) hx,
    Value.Finite.dumped_eq (v := .object found.attributes) hfound] at h

end Resource

/-- **The recorded resources are the live ones**, with the same attributes. -/
structure Tracks (state : List Resource) (s : Sandbox) : Prop where
  nodup : (Resource.ids state).Nodup
  live : ∀ x ∈ state, ∃ found, Assoc.lookup x.id (s.held x.backend) = some found ∧
    x.LivesAs found
  recorded : ∀ b id found, Assoc.lookup id (s.held b) = some found →
    ∃ x ∈ state, x.id = id ∧ s.Shares x.backend b
  served : ∀ x ∈ state, s.serves.contains x.backend = true

namespace Plan

variable {plan : Plan} {desired baseline : List Resource} {c d : Change}

theorem Compares.resource_id (h : plan.Compares desired baseline) (hc : c ∈ plan.changes) :
    c.resource.id = c.id := by
  cases hsides : c.sides with
  | create d => simp [Change.resource, hsides, Sides.resource, (h.create c hc d hsides).2.1]
  | update r d => simp [Change.resource, hsides, Sides.resource, (h.update c hc r d hsides).2.2.1]
  | delete r => simp [Change.resource, hsides, Sides.resource, (h.delete c hc r hsides).2.1]
  | noChange r d =>
    simp [Change.resource, hsides, Sides.resource, (h.noChange c hc r d hsides).2.2.1]

/-- Where a resource is deleted and applied, the two are halves of a replacement. -/
theorem Compares.replacement (h : plan.Compares desired baseline)
    (hbase : (Resource.ids baseline).Nodup) (hc : c ∈ plan.changes) (hd : d ∈ plan.changes)
    (happly : c.action ≠ .delete) (hdelete : d.action = .delete) (hid : c.id = d.id) :
    (∃ x, c.sides = .create x) ∧ c.replacement = true := by
  obtain ⟨r, hr⟩ := Change.action_eq_delete_iff.mp hdelete
  obtain ⟨hrmem, hrid, hbackend, _⟩ := h.delete d hd r hr
  -- a resource that keeps its backend is not deleted
  have hkept : ∀ r' x, r' ∈ baseline → x ∈ desired → c.id = x.id → r'.id = x.id →
      r'.backend = x.backend → False := fun r' x hr' hx hcx hr'x heq => by
    have : r' = r := Resource.eq_of_id_eq hbase hr' hrmem (by rw [hr'x, ← hcx, hid, hrid])
    exact hbackend x hx (by rw [← hcx, hid, hrid]) (by rw [← heq, this])
  cases hsides : c.sides with
  | create x =>
    obtain ⟨_, hcx, _, hreplace⟩ := h.create c hc x hsides
    refine ⟨⟨x, rfl⟩, hreplace.mpr ?_⟩
    rw [← hcx, hid, hrid]
    exact Resource.mem_ids_of_mem hrmem
  | update r' x =>
    obtain ⟨hx, hr', hcx, hr'x, heq, _⟩ := h.update c hc r' x hsides
    exact (hkept r' x hr' hx hcx hr'x heq).elim
  | noChange r' x =>
    obtain ⟨hx, hr', hcx, hr'x, heq, _⟩ := h.noChange c hc r' x hsides
    exact (hkept r' x hr' hx hcx hr'x heq).elim
  | delete r' => exact absurd (Change.action_eq_delete_iff.mpr ⟨r', hsides⟩) happly

/-- What applies a resource waits for what deletes it. -/
theorem Compares.waits_delete (h : plan.Compares desired baseline)
    (hbase : (Resource.ids baseline).Nodup) {i j : Nat} (hc : plan.actions[i]? = some c)
    (hd : plan.actions[j]? = some d) (happly : c.action ≠ .delete) (hdelete : d.action = .delete)
    (hid : c.id = d.id) : plan.Waits baseline i j := by
  have hcmem := (mem_actions_iff.mp (List.mem_of_getElem? hc)).1
  have hdmem := (mem_actions_iff.mp (List.mem_of_getElem? hd)).1
  obtain ⟨⟨y, hy⟩, hreplace⟩ := h.replacement hbase hcmem hdmem happly hdelete hid
  obtain ⟨r, hr⟩ := Change.action_eq_delete_iff.mp hdelete
  refine (h.single hbase).waits_iff.mpr ⟨c, d, hc, hd, ?_⟩
  simp [Change.waitsFor, hy, hr, hreplace, hid]

/-- A recorded resource that is created anew is deleted. -/
theorem Compares.deleted_of_create (h : plan.Compares desired baseline)
    (hdesired : (Resource.ids desired).Nodup) {x y : Resource} (hc : c ∈ plan.changes)
    (hsides : c.sides = .create y) (hx : x ∈ baseline) (hid : c.id = x.id) :
    ∃ d ∈ plan.changes, d.sides = .delete x := by
  obtain ⟨hy, hcy, hbackend, _⟩ := h.create c hc y hsides
  refine h.deleted x hx fun y' hy' hid' => ?_
  rw [Resource.eq_of_id_eq hdesired hy' hy (by rw [hid', ← hid, hcy])]
  exact (hbackend x hx (by rw [← hid, hcy])).symm

end Plan

variable {plan : Plan} {desired baseline : List Resource} {s : Schedule} {limits : Limits}
  {start sandbox : Sandbox} {run : Run}

/-- The actions of a schedule are changes of its plan. -/
theorem Schedule.mem_changes (hschedule : Schedule.of? plan baseline = .ok s) {i : Nat} {c : Change}
    (hi : s.actions[i]? = some c) : c ∈ plan.changes ∧ c.action ≠ .noChange :=
  Plan.mem_actions_iff.mp (List.mem_of_getElem? ((of?_inv hschedule).1 ▸ hi))

/-- A change that needs an action has one. -/
theorem Schedule.exists_index (hschedule : Schedule.of? plan baseline = .ok s) {c : Change}
    (hc : c ∈ plan.changes) (hno : c.action ≠ .noChange) : ∃ i : Nat, s.actions[i]? = some c := by
  rw [(of?_inv hschedule).1]
  exact List.mem_iff_getElem?.mp (Plan.mem_actions_iff.mpr ⟨hc, hno⟩)

/-- The schedule of a plan deletes first. -/
theorem Schedule.deletesFirst_of (hcompute : Plan.compute desired baseline = .ok plan)
    (hschedule : Schedule.of? plan baseline = .ok s) : s.DeletesFirst := by
  intro i j c d hc hd happly hdelete hid
  have hplan := Plan.compares_of hcompute
  obtain ⟨_, _, _, hrecorded, _, _⟩ := Plan.compute_inv hcompute
  have hid' : c.id = d.id := by
    rw [← hplan.resource_id (mem_changes hschedule hc).1, hid,
      hplan.resource_id (mem_changes hschedule hd).1]
  refine (mem_waits_iff hschedule).mpr ?_
  rw [(of?_inv hschedule).1] at hc hd
  exact hplan.waits_delete (Graph.Accepted.of_build hrecorded).nodup hc hd happly hdelete hid'

/-- No two actions apply a resource under one identifier. -/
theorem Schedule.eq_of_touches {x : Resource} {c d : Change} {i : Nat}
    (hplan : plan.Compares desired baseline) (hschedule : Schedule.of? plan baseline = .ok s)
    (hi : s.actions[i]? = some d) (hd : d.action ≠ .delete)
    (htouches : d.Touches start x.backend x.id) (hc : c ∈ plan.changes) (happly : c.action ≠ .delete)
    (hid : c.id = x.id) : d = c := by
  obtain ⟨hmem, _⟩ := Schedule.mem_changes hschedule hi
  refine Plan.eq_of_key hplan.nodup hmem hc ?_ (iff_of_false hd happly)
  rw [← hplan.resource_id hmem, htouches.1, hid]

/-- Backends that answer nothing of their own answer the versions they are given. -/
theorem Schedule.faithful_outcomes (hanswer : ∀ id, start.answer? id = none) (s : Schedule)
    (limits : Limits) : s.Faithful (s.outcomes limits start) := by
  intro i c returned hc hsucceeded
  rw [← answerOf_of_succeeded hc hsucceeded]
  unfold Sandbox.answerOf Change.resource
  cases c.sides <;> simp [hanswer, Sides.resource]

/-- A change is done once its action, if it needs one, has succeeded. -/
theorem Plan.done_iff {c : Change} (hplan : plan.Compares desired baseline)
    (hschedule : Schedule.of? plan baseline = .ok s) (hc : c ∈ plan.changes) :
    plan.Done run.cancelPending.statuses c ↔
      c.action = .noChange ∨ ∃ i, s.actions[i]? = some c ∧ run.status? i = some .succeeded := by
  have hactions := (Schedule.of?_inv hschedule).1
  have hstatus : ∀ i, run.cancelPending.statuses[i]? = some .succeeded ↔
      run.status? i = some .succeeded := fun i => by
    rw [Run.cancelPending_succeeded, Run.statuses_getElem?]
  unfold Plan.Done
  constructor
  · rintro (hno | hconfirmed)
    · exact .inl hno
    · by_cases hno : c.action = .noChange
      · exact .inl hno
      obtain ⟨i, hi⟩ := Schedule.exists_index hschedule hc hno
      have hconfirmed := (Plan.confirmed_iff hplan.nodup (hactions ▸ hi)).mp hconfirmed
      exact .inr ⟨i, hi, (hstatus i).mp hconfirmed⟩
  · rintro (hno | ⟨i, hi, hsucceeded⟩)
    · exact .inl hno
    · rw [hactions] at hi
      exact .inr ((Plan.confirmed_iff hplan.nodup hi).mpr ((hstatus i).mpr hsucceeded))

namespace Tracks

variable (h : Tracks baseline start) (hcompute : Plan.compute desired baseline = .ok plan)
  (hschedule : Schedule.of? plan baseline = .ok s) (hanswer : ∀ id, start.answer? id = none)
  (hvalues : ∀ d ∈ desired, Value.Comparable (.object d.attributes))
  (hreached : Execution.Reached s limits start (run, sandbox))

include h hcompute hschedule hvalues hreached in
/-- A resource that needed no action is live as it was. -/
theorem live_of_noChange {c : Change} {x : Resource} (hc : c ∈ plan.changes)
    (hno : c.action = .noChange) (hx : c.desired? = some x) :
    ∃ found, Assoc.lookup x.id (sandbox.held x.backend) = some found ∧
      x.LivesAs found := by
  have hplan := Plan.compares_of hcompute
  obtain ⟨happly, _⟩ := Change.desired?_eq_some_iff.mp hx
  obtain ⟨hdesired, hid⟩ := hplan.of_desired hc hx
  obtain ⟨r, hsides⟩ := Change.sides_of_noChange hno hx
  obtain ⟨_, hr, _, hrid, hbackend, hdifferences⟩ := hplan.noChange c hc r x hsides
  have hshows := hreached.shows (Schedule.lawful_of hschedule)
    (Schedule.deletesFirst_of hcompute hschedule) x.backend x.id
  generalize Assoc.lookup x.id (sandbox.held x.backend) = live at hshows
  cases hshows with
  | put action _ applies touches =>
    obtain rfl := Schedule.eq_of_touches hplan hschedule action applies touches hc happly hid
    exact absurd hno (Schedule.mem_changes hschedule action).2
  | drop action _ deletes touches _ =>
    -- what is deleted and applied is created
    have hother := (Schedule.mem_changes hschedule action).1
    obtain ⟨⟨_, hcreate⟩, _⟩ := hplan.replacement h.nodup hc hother happly deletes
      (by rw [hid, ← touches.1, hplan.resource_id hother])
    rw [hsides] at hcreate
    cases hcreate
  | kept _ =>
    obtain ⟨found, hfound, hlike⟩ := h.live r hr
    rw [hrid, hbackend] at hfound
    have hsame := (differences_eq_nil_iff "" _ _).mp hdifferences
    exact ⟨found, hfound, .of_same (Value.same_symm _ _ (hvalues x hdesired) hsame) hlike⟩

include hcompute hschedule hvalues hreached in
/-- A resource whose action has succeeded is live in its desired version. -/
theorem live_of_succeeded {c : Change} {x : Resource} {i : Nat} (hc : c ∈ plan.changes)
    (hi : s.actions[i]? = some c) (hsucceeded : run.status? i = some .succeeded)
    (hx : c.desired? = some x) :
    ∃ found, Assoc.lookup x.id (sandbox.held x.backend) = some found ∧
      x.LivesAs found := by
  have hplan := Plan.compares_of hcompute
  obtain ⟨happly, hresource⟩ := Change.desired?_eq_some_iff.mp hx
  obtain ⟨hdesired, hid⟩ := hplan.of_desired hc hx
  have htouches : c.Touches start x.backend x.id := by
    rw [Change.Touches, hresource]
    exact ⟨rfl, rfl⟩
  have hshows := hreached.shows (Schedule.lawful_of hschedule)
    (Schedule.deletesFirst_of hcompute hschedule) x.backend x.id
  generalize Assoc.lookup x.id (sandbox.held x.backend) = live at hshows
  cases hshows with
  | put action _ applies touches =>
    obtain rfl := Schedule.eq_of_touches hplan hschedule action applies touches hc happly hid
    rw [hresource]
    exact ⟨x, rfl, .refl (hvalues x hdesired)⟩
  | drop _ _ _ _ last => exact absurd htouches (last i c hi hsucceeded happly)
  | kept untouched => exact absurd htouches (untouched i c hi hsucceeded)

include h hcompute hschedule hvalues hreached in
/-- What is recorded in its desired version is live. -/
theorem live_of_done {c : Change} {x : Resource} (hc : c ∈ plan.changes)
    (hdone : plan.Done run.cancelPending.statuses c) (hx : c.desired? = some x) :
    ∃ found, Assoc.lookup x.id (sandbox.held x.backend) = some found ∧
      x.LivesAs found := by
  rcases (Plan.done_iff (Plan.compares_of hcompute) hschedule hc).mp hdone with
    hno | ⟨i, hi, hsucceeded⟩
  · exact h.live_of_noChange hcompute hschedule hvalues hreached hc hno hx
  · exact live_of_succeeded hcompute hschedule hvalues hreached hc hi hsucceeded hx

include h hcompute hschedule hreached in
theorem served_of_done {c : Change} {x : Resource} (hc : c ∈ plan.changes)
    (hdone : plan.Done run.cancelPending.statuses c) (hx : c.desired? = some x) :
    start.serves.contains x.backend = true := by
  have hplan := Plan.compares_of hcompute
  obtain ⟨_, hresource⟩ := Change.desired?_eq_some_iff.mp hx
  rcases (Plan.done_iff hplan hschedule hc).mp hdone with hno | ⟨i, hi, hsucceeded⟩
  · obtain ⟨r, hsides⟩ := Change.sides_of_noChange hno hx
    obtain ⟨_, hr, _, _, hbackend, _⟩ := hplan.noChange c hc r x hsides
    exact hbackend ▸ h.served r hr
  · have hsound := ((Execution.Reached.run hreached).inv (Schedule.lawful_of hschedule)).toSound
    obtain ⟨returned, hreturned⟩ := hsound.succeeded i hsucceeded
    simp only [Schedule.outcomes, hi] at hreturned
    rw [← hresource]
    exact Flight.serves_of_succeeded hreturned

include h hcompute hschedule hreached in
/-- What is left in its recorded version is live. -/
theorem live_of_left {x : Resource} (hx : x ∈ baseline)
    (hleft : ∀ c ∈ plan.changes, c.id = x.id → ¬ plan.Done run.cancelPending.statuses c) :
    ∃ found, Assoc.lookup x.id (sandbox.held x.backend) = some found ∧
      x.LivesAs found := by
  have hplan := Plan.compares_of hcompute
  have hshows := hreached.shows (Schedule.lawful_of hschedule)
    (Schedule.deletesFirst_of hcompute hschedule) x.backend x.id
  have huntouched : ∀ i c, s.actions[i]? = some c → run.status? i = some .succeeded →
      ¬ c.Touches start x.backend x.id := by
    intro i c hi hsucceeded htouches
    obtain ⟨hc, _⟩ := Schedule.mem_changes hschedule hi
    refine hleft c hc ((hplan.resource_id hc).symm.trans htouches.1) ?_
    exact (Plan.done_iff hplan hschedule hc).mpr (.inr ⟨i, hi, hsucceeded⟩)
  generalize Assoc.lookup x.id (sandbox.held x.backend) = live at hshows
  cases hshows with
  | put action succeeded _ touches => exact absurd touches (huntouched _ _ action succeeded)
  | drop action succeeded _ touches _ => exact absurd touches (huntouched _ _ action succeeded)
  | kept _ => exact h.live x hx

include h hcompute hschedule hreached in
/-- A recorded resource whose live version no action has touched needs no action, or is left. -/
theorem noChange_of_untouched {x : Resource} (hx : x ∈ baseline)
    (huntouched : ∀ i c, s.actions[i]? = some c → run.status? i = some .succeeded →
      ¬ c.Touches start x.backend x.id) {c : Change} (hc : c ∈ plan.changes) (hid : c.id = x.id)
    (hdone : plan.Done run.cancelPending.statuses c) : ∃ d, c.sides = .noChange x d := by
  have hplan := Plan.compares_of hcompute
  have hself : ∀ r ∈ baseline, r.id = c.id → r = x := fun r hr hrc =>
    Resource.eq_of_id_eq h.nodup hr hx (hrc.trans hid)
  rcases (Plan.done_iff hplan hschedule hc).mp hdone with hno | ⟨i, hi, hsucceeded⟩
  · obtain ⟨r, d, hsides⟩ := Change.action_eq_noChange_iff.mp hno
    obtain ⟨_, hr, hcd, hrd, _⟩ := hplan.noChange c hc r d hsides
    exact ⟨d, hself r hr (hrd.trans hcd.symm) ▸ hsides⟩
  have hbackend : c.resource.backend ≠ x.backend := fun heq =>
    huntouched i c hi hsucceeded ⟨by rw [hplan.resource_id hc, hid], by rw [heq]; rfl⟩
  -- only a replacement is of another backend, and it deletes the recorded version first
  cases hsides : c.sides with
  | noChange r d =>
    obtain ⟨_, hr, hcd, hrd, _⟩ := hplan.noChange c hc r d hsides
    exact ⟨d, by rw [hself r hr (hrd.trans hcd.symm)]⟩
  | delete r =>
    obtain ⟨hr, hcr, _⟩ := hplan.delete c hc r hsides
    rw [Change.resource, hsides, Sides.resource, hself r hr hcr.symm] at hbackend
    exact absurd rfl hbackend
  | update r d =>
    obtain ⟨_, hr, hcd, hrd, heq, _⟩ := hplan.update c hc r d hsides
    rw [Change.resource, hsides, Sides.resource, ← heq, hself r hr (hrd.trans hcd.symm)] at hbackend
    exact absurd rfl hbackend
  | create d =>
    obtain ⟨_, _, hwanted, _, _, _⟩ := Plan.compute_inv hcompute
    obtain ⟨e, he, hdelete⟩ := hplan.deleted_of_create (Graph.Accepted.of_build hwanted).nodup hc
      hsides hx hid
    have hdeletes := Change.action_eq_delete_iff.mpr ⟨x, hdelete⟩
    have hresource : e.resource = x := by rw [Change.resource, hdelete, Sides.resource]
    obtain ⟨j, hj⟩ := Schedule.exists_index hschedule he (by rw [hdeletes]; decide)
    have hwaits : j ∈ s.waits i := Schedule.deletesFirst_of hcompute hschedule i j c e hi hj
      (by simp [Change.action, hsides, Sides.action]) hdeletes
      (by rw [hplan.resource_id hc, hid, hresource])
    have hsound := ((Execution.Reached.run hreached).inv (Schedule.lawful_of hschedule)).toSound
    have hdeleted := hsound.granted i _ hsucceeded (.inr (.inl rfl)) j hwaits
    refine absurd ?_ (huntouched j e hj hdeleted)
    rw [Change.Touches, hresource]
    exact ⟨rfl, rfl⟩

include h hcompute hschedule hreached in
/-- What is live is recorded in its desired version, or left in its recorded one. -/
theorem recorded_of_live {b : Backend} {id : String} {found : Resource}
    (hfound : Assoc.lookup id (sandbox.held b) = some found) :
    ∃ x, ((∃ c ∈ plan.changes, plan.Done run.cancelPending.statuses c ∧ c.desired? = some x) ∨
      x ∈ baseline ∧ ∀ c ∈ plan.changes, c.id = x.id → ¬ plan.Done run.cancelPending.statuses c) ∧
      x.id = id ∧ start.Shares x.backend b := by
  have hplan := Plan.compares_of hcompute
  have hshows := hreached.shows (Schedule.lawful_of hschedule)
    (Schedule.deletesFirst_of hcompute hschedule) b id
  rw [hfound] at hshows
  generalize hlive : some found = live at hshows
  cases hshows with
  | put action succeeded applies touches =>
    obtain ⟨hc, _⟩ := Schedule.mem_changes hschedule action
    refine ⟨_, .inl ⟨_, hc, ?_, Change.desired?_eq_some_iff.mpr ⟨applies, rfl⟩⟩, touches⟩
    exact (Plan.done_iff hplan hschedule hc).mpr (.inr ⟨_, action, succeeded⟩)
  | drop _ _ _ _ _ => cases hlive
  | kept untouched =>
    obtain ⟨x, hx, rfl, hshares⟩ := h.recorded b id found hlive.symm
    by_cases hleft : ∀ c ∈ plan.changes, c.id = x.id → ¬ plan.Done run.cancelPending.statuses c
    · exact ⟨x, .inr ⟨hx, hleft⟩, rfl, hshares⟩
    · push Not at hleft
      obtain ⟨c, hc, hid, hdone⟩ := hleft
      obtain ⟨d, hsides⟩ := h.noChange_of_untouched hcompute hschedule hreached hx
        (fun i c hi hsucceeded htouches =>
          untouched i c hi hsucceeded ⟨htouches.1, htouches.2.trans hshares⟩) hc hid hdone
      obtain ⟨_, _, hcd, hxd, hbackend, _⟩ := hplan.noChange c hc x d hsides
      refine ⟨d, .inl ⟨c, hc, hdone, ?_⟩, hxd.symm, hbackend ▸ hshares⟩
      simp [Change.desired?, hsides, Sides.desired?]

include h hcompute hschedule hanswer hvalues hreached in
/-- **An execution keeps the recorded state and the live resources together**, whatever fails and
wherever it is stopped. -/
theorem execute (cancelled : Bool) :
    Tracks (run.cancelPending.result plan baseline cancelled).state sandbox := by
  have hplan := Plan.compares_of hcompute
  have happlied : plan.Faithful run.applied :=
    ((Execution.Reached.run hreached).inv (Schedule.lawful_of hschedule)).toSound.faithful_applied
      hschedule (Schedule.faithful_outcomes hanswer s limits)
  have hfaith : plan.Faithful run.cancelPending.applied := happlied
  have hmem : ∀ x, x ∈ (run.cancelPending.result plan baseline cancelled).state ↔
      (∃ c ∈ plan.changes, plan.Done run.cancelPending.statuses c ∧ c.desired? = some x) ∨
        x ∈ baseline ∧ ∀ c ∈ plan.changes, c.id = x.id →
          ¬ plan.Done run.cancelPending.statuses c :=
    fun x => Plan.mem_resultingState_iff hplan h.nodup hfaith
  have halike := Execution.Reached.alike hreached
  refine ⟨Plan.nodup_resultingState hplan h.nodup hfaith, fun x hx => ?_,
    fun b id found hfound => ?_, fun x hx => ?_⟩
  · rcases (hmem x).mp hx with ⟨c, hc, hdone, hd⟩ | ⟨hbase, hleft⟩
    · exact h.live_of_done hcompute hschedule hvalues hreached hc hdone hd
    · exact h.live_of_left hcompute hschedule hreached hbase hleft
  · obtain ⟨x, hx, hid, hshares⟩ := h.recorded_of_live hcompute hschedule hreached hfound
    refine ⟨x, (hmem x).mpr hx, hid, ?_⟩
    unfold Sandbox.Shares at hshares ⊢
    rwa [halike.apart]
  · rw [halike.serves]
    rcases (hmem x).mp hx with ⟨c, hc, hdone, hd⟩ | ⟨hbase, _⟩
    · exact h.served_of_done hcompute hschedule hreached hc hdone hd
    · exact h.served x hbase

/-- **To write a record** of the recorded state keeps it and the live resources together. -/
theorem record {state : List Resource} (h : Tracks state sandbox) :
    Tracks (state.map Resource.dumped) sandbox := by
  refine ⟨?_, fun x hx => ?_, fun b id found hfound => ?_, fun x hx => ?_⟩
  · rw [Resource.ids_map_dumped]
    exact h.nodup
  · obtain ⟨y, hy, rfl⟩ := List.mem_map.mp hx
    obtain ⟨found, hfound, hlives⟩ := h.live y hy
    exact ⟨found, hfound, Resource.livesAs_dumped.mpr hlives⟩
  · obtain ⟨y, hy, hid, hshares⟩ := h.recorded b id found hfound
    exact ⟨y.dumped, List.mem_map_of_mem hy, hid, hshares⟩
  · obtain ⟨y, hy, rfl⟩ := List.mem_map.mp hx
    exact h.served y hy

end Tracks

end Rollout
