import Rollout.Proofs.Execution.Accounted

/-!
# What an execution applies

The state that is left of an execution is the recorded one with the actions applied that succeeded,
whatever the backends answered and however the execution is left.

* `Plan.AppliesSucceeded` : the state is the recorded one with exactly those actions applied that the
  records show as succeeded;
* `Run.Sound.doneVersion_eq` : an action that succeeded is recorded in the version it was answered;
* `Run.Reached.appliesSucceeded` : so it is for the state of every run.
-/

set_option autoImplicit false

namespace Rollout

/-- **A state is the recorded one with exactly those actions applied that succeeded**, by the records
and by what the backends answered to each action.  A resource is left in the version an action that
succeeded was answered; in its desired version, if it needed no action; or as it was recorded, if no
action on it succeeded and it is not desired unchanged. -/
def Plan.AppliesSucceeded (p : Plan) (baseline : List Resource) (answer? : Nat → Option Resource)
    (records : List ActionRecord) (state : List Resource) : Prop :=
  ∀ x, x ∈ state ↔
    (∃ i r, records[i]? = some r ∧ r.status = .succeeded ∧ answer? i = some x) ∨
    (∃ c ∈ p.changes, c.action = .noChange ∧ c.desired? = some x) ∨
    x ∈ baseline ∧ (∀ r ∈ records, r.resourceId = x.id → r.status ≠ .succeeded) ∧
      ∀ c ∈ p.changes, c.action = .noChange → c.id ≠ x.id

namespace Run

variable {plan : Plan} {desired baseline : List Resource} {s : Schedule} {limit : Int}
  {outcome : Nat → Outcome} {run final : Run} {c : Change} {x : Resource} {i : Nat}

/-! ## Records and actions -/

/-- However a run is left, its records are those of the actions of the plan. -/
theorem Reached.listed_left (hschedule : Schedule.of? plan baseline = .ok s)
    (h : Reached s limit outcome run) {final : Run}
    (hfinal : final = run ∨ final = run.cancelPending) :
    final.records.map ActionRecord.subject = plan.actions.map fun c => (c.id, c.action) := by
  have hrecorded := h.recorded (Schedule.lawful_of hschedule)
  rw [← (Schedule.of?_inv hschedule).1]
  rcases hfinal with rfl | rfl
  · exact hrecorded.listed
  · exact hrecorded.cancelPending.listed

section

variable (hlisted : run.records.map ActionRecord.subject = plan.actions.map fun c => (c.id, c.action))
  {r : ActionRecord}

include hlisted

/-- A record is about the action at its position. -/
theorem action_of_record (hr : run.records[i]? = some r) :
    ∃ c, plan.actions[i]? = some c ∧ r.resourceId = c.id ∧ r.action = c.action := by
  have hsubject := congrArg (fun l => l[i]?) hlisted
  simp only [List.getElem?_map, hr, Option.map_some] at hsubject
  obtain ⟨c, hc, hsame⟩ := Option.map_eq_some_iff.mp hsubject.symm
  rw [ActionRecord.subject, Prod.mk.injEq] at hsame
  exact ⟨c, hc, hsame.1.symm, hsame.2.symm⟩

/-- An action has a record at its position. -/
theorem record_of_action (hc : plan.actions[i]? = some c) :
    ∃ r, run.records[i]? = some r ∧ r.resourceId = c.id ∧ r.action = c.action := by
  have hsubject := congrArg (fun l => l[i]?) hlisted
  simp only [List.getElem?_map, hc, Option.map_some] at hsubject
  obtain ⟨r, hr, hsame⟩ := Option.map_eq_some_iff.mp hsubject
  rw [ActionRecord.subject, Prod.mk.injEq] at hsame
  exact ⟨r, hr, hsame.1, hsame.2⟩

end

/-- Whether an action is confirmed can be read off its record. -/
theorem confirmed_iff_status (hnodup : (plan.changes.map Change.key).Nodup)
    (hc : plan.actions[i]? = some c) {r : ActionRecord} (hr : run.records[i]? = some r) :
    plan.confirmed run.statuses c = true ↔ r.status = .succeeded := by
  rw [Plan.confirmed_iff hnodup hc, statuses_getElem?, status?, hr, Option.map_some,
    Option.some.injEq]

/-- Whether a change is done can be read off the records. -/
theorem done_iff_record (hnodup : (plan.changes.map Change.key).Nodup)
    (hlisted : run.records.map ActionRecord.subject = plan.actions.map fun c => (c.id, c.action))
    (hc : c ∈ plan.changes) :
    plan.Done run.statuses c ↔ c.action = .noChange ∨
      ∃ (i : Nat) (r : ActionRecord),
        plan.actions[i]? = some c ∧ run.records[i]? = some r ∧ r.status = .succeeded := by
  constructor
  · intro hdone
    by_cases hno : c.action = .noChange
    · exact .inl hno
    · obtain ⟨i, hi⟩ := List.mem_iff_getElem?.mp (Plan.mem_actions_iff.mpr ⟨hc, hno⟩)
      obtain ⟨r, hr, _, _⟩ := record_of_action hlisted hi
      exact .inr ⟨i, r, hi, hr,
        (confirmed_iff_status hnodup hi hr).mp (hdone.resolve_left hno)⟩
  · rintro (hno | ⟨i, r, hi, hr, hst⟩)
    · exact .inl hno
    · exact .inr ((confirmed_iff_status hnodup hi hr).mpr hst)

/-! ## Answers -/

/-- An action that succeeded has an answer, unless it is a delete. -/
theorem exists_answer? (hc : s.actions[i]? = some c) (happly : c.action ≠ .delete)
    {returned : Option Resource} (hsucceeds : outcome i = .succeeded returned) :
    ∃ x, s.answer? outcome i = some x := by
  simp only [Schedule.answer?, hc, hsucceeds, confirmedVersion]
  unfold Change.action at happly
  cases hsides : c.sides with
  | delete r =>
    rw [hsides] at happly
    exact absurd rfl happly
  | create d => exact ⟨_, rfl⟩
  | update r d => exact ⟨_, rfl⟩
  | noChange r d => exact ⟨_, rfl⟩

theorem exists_action_of_answer? (h : s.answer? outcome i = some x) :
    ∃ c, s.actions[i]? = some c ∧ c.action ≠ .delete := by
  unfold Schedule.answer? at h
  split at h
  · rename_i c returned hc hsucceeds
    refine ⟨c, hc, ?_⟩
    intro hdelete
    obtain ⟨r, hsides⟩ := Change.action_eq_delete_iff.mp hdelete
    rw [confirmedVersion, hsides] at h
    cases h
  · cases h

/-- **An action that succeeded is recorded in the version it was answered.** -/
theorem Sound.doneVersion_eq (hplan : plan.Compares desired baseline)
    (hactions : s.actions = plan.actions) (h : Sound s outcome run)
    (hc : plan.actions[i]? = some c) (happly : c.action ≠ .delete)
    (hst : run.status? i = some .succeeded) :
    plan.doneVersion run.applied c = s.answer? outcome i := by
  obtain ⟨returned, hsucceeds⟩ := h.succeeded i hst
  obtain ⟨x, hx⟩ := exists_answer? (hactions ▸ hc) happly hsucceeds
  obtain ⟨r, hr⟩ := Plan.exists_lookup_results hc ((h.mem_applied i x).mpr ⟨hst, hx⟩)
  -- what is looked up by the resource was answered to this very action
  obtain ⟨j, d, hd, hid, hmem⟩ := Plan.lookup_results hr
  obtain ⟨_, hanswer⟩ := (h.mem_applied j r).mp hmem
  obtain ⟨d', hd', hdelete⟩ := exists_action_of_answer? hanswer
  rw [hactions, hd, Option.some.injEq] at hd'
  subst hd'
  have hsame : j = i := by
    apply Plan.actions_inj hplan.nodup hd hc
    simp [Change.key, hid, hdelete, happly]
  subst hsame
  have hno : c.action ≠ .noChange := (Plan.mem_actions_iff.mp (List.mem_of_getElem? hc)).2
  have hdesired := Change.desired?_eq_some_iff.mpr ⟨happly, rfl⟩
  rw [Plan.doneVersion, hdesired, Option.map_some, if_neg hno, hr, Option.getD_some, hanswer]

/-- However a run is left, what has succeeded has succeeded. -/
theorem status?_left (hfinal : final = run ∨ final = run.cancelPending) :
    final.status? i = some .succeeded ↔ run.status? i = some .succeeded := by
  rcases hfinal with rfl | rfl
  · rfl
  · exact status?_cancelPending_iff (by decide) (by decide)

/-- **What is left of a run is the recorded state with exactly the actions applied that
succeeded**. -/
theorem Reached.appliesSucceeded (hcompute : Plan.compute desired baseline = .ok plan)
    (hschedule : Schedule.of? plan baseline = .ok s) (hreached : Reached s limit outcome run)
    (hfinal : final = run ∨ final = run.cancelPending) (cancelled : Bool) :
    plan.AppliesSucceeded baseline (s.answer? outcome) final.records
      (final.result plan baseline cancelled).state := by
  have hplan := Plan.compares_of hcompute
  obtain ⟨_, _, _, hrecorded, _, _⟩ := Plan.compute_inv hcompute
  have hbase := (Graph.Accepted.of_build hrecorded).nodup
  have hsound := (hreached.inv (Schedule.lawful_of hschedule)).toSound
  have hactions := (Schedule.of?_inv hschedule).1
  have hlisted := hreached.listed_left hschedule hfinal
  have happlied : final.applied = run.applied := by
    rcases hfinal with rfl | rfl <;> rfl
  -- an action is recorded in the version it was answered
  have hversion : ∀ i c r, plan.actions[i]? = some c → c.action ≠ .delete →
      final.records[i]? = some r → r.status = .succeeded →
      plan.doneVersion final.applied c = s.answer? outcome i := by
    intro i c r hc happly hr hst
    have hstatus := (status?_left hfinal).mp (status?_eq_some_iff.mpr ⟨r, hr, hst⟩)
    rw [happlied]
    exact hsound.doneVersion_eq hplan hactions hc happly hstatus
  intro x
  rw [result, Plan.mem_resultingState_iff_doneVersion hplan hbase]
  constructor
  · rintro (⟨c, hc, hdone, hx⟩ | ⟨hx, hall⟩)
    · obtain ⟨d, hd, _⟩ := Option.map_eq_some_iff.mp hx
      have happly := (Change.desired?_eq_some_iff.mp hd).1
      rcases (done_iff_record hplan.nodup hlisted hc).mp hdone with hno | ⟨i, r, hi, hr, hst⟩
      · rw [Plan.doneVersion, hd, Option.map_some, if_pos hno, ← hd] at hx
        exact .inr (.inl ⟨c, hc, hno, hx⟩)
      · rw [hversion i c r hi happly hr hst] at hx
        exact .inl ⟨i, r, hr, hst, hx⟩
    · refine .inr (.inr ⟨hx, ?_, ?_⟩)
      · intro r hr hid hst
        obtain ⟨i, hi⟩ := List.mem_iff_getElem?.mp hr
        obtain ⟨c, hc, hcid, _⟩ := action_of_record hlisted hi
        have hmem := (Plan.mem_actions_iff.mp (List.mem_of_getElem? hc)).1
        exact hall c hmem (hcid.symm.trans hid)
          ((done_iff_record hplan.nodup hlisted hmem).mpr (.inr ⟨i, r, hc, hi, hst⟩))
      · intro c hc hno hid
        exact hall c hc hid (.inl hno)
  · rintro (⟨i, r, hr, hst, hx⟩ | ⟨c, hc, hno, hx⟩ | ⟨hx, hrecords, hno⟩)
    · obtain ⟨c, hc, happly⟩ := exists_action_of_answer? hx
      rw [hactions] at hc
      have hmem := (Plan.mem_actions_iff.mp (List.mem_of_getElem? hc)).1
      refine .inl ⟨c, hmem, ?_, ?_⟩
      · exact (done_iff_record hplan.nodup hlisted hmem).mpr (.inr ⟨i, r, hc, hr, hst⟩)
      · rw [hversion i c r hc happly hr hst, hx]
    · refine .inl ⟨c, hc, .inl hno, ?_⟩
      rw [Plan.doneVersion, hx, Option.map_some, if_pos hno]
    · refine .inr ⟨hx, ?_⟩
      intro c hc hid hdone
      rcases (done_iff_record hplan.nodup hlisted hc).mp hdone with hdone | ⟨i, r, hi, hr, hst⟩
      · exact hno c hc hdone hid
      · obtain ⟨r', hr', hrid, _⟩ := record_of_action hlisted hi
        rw [hr, Option.some.injEq] at hr'
        subst hr'
        exact hrecords r (List.mem_of_getElem? hr) (hrid.trans hid) hst

end Run

end Rollout
