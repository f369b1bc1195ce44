import Rollout.Proofs.Execution.Gating
import Rollout.Proofs.Execution.Tracking

/-!
# The course of an execution

What happens in an execution, event by event: actions start and end, progress is reported, and at some
point the execution may be stopped, or its task cancelled.

* `Course` : the courses that an execution can take.  An action starts only if it is ready, there is
  room for it, and nothing has closed the execution before;
* `Course.of_append` : every moment of a course is a course, so what holds of all courses holds at
  every moment;
* `Course.started_iff` : the actions that were started are those that have begun, and those only once;
* `Run.Granted` : what has happened when an action starts, told by the resources;
* `Course.guarded` : no course starts an action too early, twice, or after it was closed.
-/

set_option autoImplicit false

namespace Rollout

/-- What happens in an execution. -/
inductive Event where
  /-- The action at a position is started. -/
  | start (i : Nat) (at_ : Instant)
  /-- The execution wakes up, since some action has ended. -/
  | wake (at_ : Instant)
  /-- The action at a position ends. -/
  | settle (i : Nat)
  /-- Progress is reported. -/
  | report (result : ExecutionResult) (reception : Reception)
  /-- The execution is stopped. -/
  | stop
  /-- The task of the execution is cancelled. -/
  | cancel

namespace Event

/-- Whether an event interrupts an execution: its task is cancelled, or a report fails. -/
def interrupts : Event → Bool
  | report _ reception => reception.failure?.isSome
  | cancel => true
  | _ => false

/-- Whether an event keeps further actions from starting: it stops an execution, or interrupts it. -/
def closes : Event → Bool
  | report _ reception => reception.failure?.isSome || reception.stop
  | stop | cancel => true
  | start _ _ | wake _ | settle _ => false

/-- The action that an event starts. -/
def started? : Event → Option Nat
  | start i _ => some i
  | _ => none

/-- The report that an event is, and how it was received. -/
def report? : Event → Option (ExecutionResult × Reception)
  | report result reception => some (result, reception)
  | _ => none

end Event

/-- What may happen after some events that have led to a run, and what it makes of the run. -/
inductive Happens (plan : Plan) (baseline : List Resource) (s : Schedule) (limit : Int)
    (outcome : Nat → Outcome) (events : List Event) (run : Run) : Event → Run → Prop
  | start {i : Nat} (now : DateTime) (at_ : Instant) (opened : ∀ e ∈ events, e.closes = false)
      (ready : Run.isReady s run i = true) (room : (run.running.length : Int) < limit) :
      Happens plan baseline s limit outcome events run (.start i at_) (run.start now i)
  | wake (at_ : Instant) : Happens plan baseline s limit outcome events run (.wake at_) run
  | settle {i : Nat} (now : DateTime) (running : i ∈ run.running) :
      Happens plan baseline s limit outcome events run (.settle i)
        (run.settle s now (i, outcome i))
  | report (reception : Reception) :
      Happens plan baseline s limit outcome events run
        (.report (run.result plan baseline false) reception) run
  | stop : Happens plan baseline s limit outcome events run .stop run
  | cancel : Happens plan baseline s limit outcome events run .cancel run

/-- A course of an execution, and the run that it leads to. -/
inductive Course (plan : Plan) (baseline : List Resource) (s : Schedule) (limit : Int)
    (outcome : Nat → Outcome) : List Event → Run → Prop
  | init : Course plan baseline s limit outcome [] (Run.init s)
  | snoc {events : List Event} {run run' : Run} {e : Event}
      (before : Course plan baseline s limit outcome events run)
      (happens : Happens plan baseline s limit outcome events run e run') :
      Course plan baseline s limit outcome (events ++ [e]) run'

variable {plan : Plan} {baseline : List Resource} {s : Schedule} {limit : Int}
  {outcome : Nat → Outcome} {events before after : List Event} {run run' : Run} {e : Event} {i : Nat}

/-- What happens is a step of the run, or changes nothing. -/
theorem Happens.step (h : Happens plan baseline s limit outcome events run e run') :
    Run.Step s limit outcome run run' ∨ run' = run := by
  cases h with
  | start now at_ _ ready room => exact .inl (.start now ready room)
  | wake _ => exact .inr rfl
  | settle now running => exact .inl (.settle now running)
  | report _ => exact .inr rfl
  | stop => exact .inr rfl
  | cancel => exact .inr rfl

namespace Course

/-- A course leads to a run that is reached by steps. -/
theorem reached (h : Course plan baseline s limit outcome events run) :
    Run.Reached s limit outcome run := by
  induction h with
  | init => exact .refl
  | snoc _ happens ih =>
    rcases happens.step with hstep | rfl
    · exact ih.tail hstep
    · exact ih

/-- **Every moment of a course is a course.** -/
theorem exists_earlier (h : Course plan baseline s limit outcome events run) :
    ∀ before after, events = before ++ after →
      ∃ earlier, Course plan baseline s limit outcome before earlier := by
  induction h with
  | init =>
    intro before after heq
    obtain ⟨rfl, rfl⟩ := List.append_eq_nil_iff.mp heq.symm
    exact ⟨_, .init⟩
  | snoc course happens ih =>
    intro before after heq
    rcases List.eq_nil_or_concat after with rfl | ⟨rest, last, rfl⟩
    · rw [List.append_nil] at heq
      exact heq ▸ ⟨_, .snoc course happens⟩
    · rw [List.concat_eq_append, ← List.append_assoc] at heq
      exact ih before rest (List.append_inj' heq rfl).1

/-- What happens next in a course, at the moment before it does. -/
theorem exists_happens (h : Course plan baseline s limit outcome events run) :
    ∀ before e after, events = before ++ e :: after →
      ∃ earlier later, Course plan baseline s limit outcome before earlier ∧
        Happens plan baseline s limit outcome before earlier e later := by
  intro before e after heq
  obtain ⟨later, hlater⟩ := h.exists_earlier (before ++ [e]) after (by simp [heq])
  generalize hevents : before ++ [e] = all at hlater
  cases hlater with
  | init => simp at hevents
  | snoc course happens =>
    obtain ⟨rfl, hlast⟩ := List.append_inj' hevents rfl
    rw [List.singleton_inj] at hlast
    exact ⟨_, _, course, hlast ▸ happens⟩

/-! ## What holds of every course -/

/-- There is never more running than there is room for. -/
theorem length_running_le (h : Course plan baseline s limit outcome events run) :
    run.running.length ≤ limit.toNat := by
  induction h with
  | init => exact Nat.zero_le _
  | snoc _ happens ih =>
    cases happens with
    | start now at_ _ _ room =>
      rw [Run.start, List.length_append, List.length_singleton]
      omega
    | wake _ => exact ih
    | settle now _ =>
      rw [Run.settle_running]
      exact (List.length_erase_le).trans ih
    | report _ => exact ih
    | stop => exact ih
    | cancel => exact ih

/-- The actions that were started are those that have begun. -/
theorem started_iff (hs : s.Lawful) (h : Course plan baseline s limit outcome events run) :
    ∀ i, i ∈ events.filterMap Event.started? ↔ ∃ st, run.status? i = some st ∧ st.IsBegun := by
  induction h with
  | init =>
    intro i
    refine iff_of_false (by simp) ?_
    rintro ⟨st, hst, hbegun⟩
    exact hbegun.ne_pending (Run.status?_init hst)
  | @snoc events run run' e course happens ih =>
    intro i
    have hinv := course.reached.inv hs
    rw [List.filterMap_append, List.mem_append, ih]
    cases happens with
    | @start k now at_ _ ready _ =>
      have hp := (Run.isReady_iff.mp ready).1
      rw [Run.status?_start now (Run.lt_of_status? hp)]
      by_cases hik : i = k
      · subst hik
        simp [Event.started?, Status.IsBegun]
      · simp [Event.started?, hik]
    | wake _ => simp [Event.started?]
    | @settle k now running =>
      have hrunning := (hinv.mem_running k).mp running
      obtain ⟨hown, hothers⟩ := hinv.toSound.status?_settle running now (outcome k)
      simp only [Event.started?, List.filterMap_cons, List.filterMap_nil, List.not_mem_nil, or_false]
      by_cases hik : i = k
      · subst hik
        refine iff_of_true ⟨_, hrunning, .inl rfl⟩ ?_
        rcases hown with ⟨hst, _⟩ | ⟨hst, _⟩
        · exact ⟨_, hst, .inr (.inl rfl)⟩
        · exact ⟨_, hst, .inr (.inr rfl)⟩
      · rcases hothers i hik with heq | ⟨hp, hskipped⟩
        · rw [heq]
        · rw [hp, hskipped]
          simp [Status.IsBegun]
    | report _ => simp [Event.started?]
    | stop => simp [Event.started?]
    | cancel => simp [Event.started?]

/-- No action is started twice. -/
theorem nodup_started (hs : s.Lawful) (h : Course plan baseline s limit outcome events run) :
    (events.filterMap Event.started?).Nodup := by
  induction h with
  | init => exact List.nodup_nil
  | @snoc events run run' e course happens ih =>
    rw [List.filterMap_append]
    cases happens with
    | @start k now at_ _ ready _ =>
      have hp := (Run.isReady_iff.mp ready).1
      refine List.nodup_append.mpr ⟨ih, by simp [Event.started?], fun a ha b hb hab => ?_⟩
      have hb' : b = k := by simpa [Event.started?] using hb
      obtain ⟨st, hst, hbegun⟩ := (course.started_iff hs a).mp ha
      rw [hab, hb', hp, Option.some.injEq] at hst
      exact hbegun.ne_pending hst.symm
    | wake _ => simpa [List.filterMap_cons, Event.started?] using ih
    | settle _ _ => simpa [List.filterMap_cons, Event.started?] using ih
    | report _ => simpa [List.filterMap_cons, Event.started?] using ih
    | stop => simpa [List.filterMap_cons, Event.started?] using ih
    | cancel => simpa [List.filterMap_cons, Event.started?] using ih

end Course

/-! ## What has happened when an action starts -/

namespace Run

/-- A change has been carried out: it is an action that has succeeded. -/
def HasSucceeded (s : Schedule) (run : Run) (c : Change) : Prop :=
  ∃ j : Nat, s.actions[j]? = some c ∧ run.status? j = some .succeeded

/-- What has happened when an action starts: what it creates or updates finds the creates and updates
of all it needs carried out, and what it is to replace deleted; what it deletes for good is not needed
any more by any recorded resource. -/
structure Granted (plan : Plan) (baseline : List Resource) (s : Schedule) (run : Run) (c : Change) :
    Prop where
  needs : ∀ wanted, c.desired? = some wanted → ∀ d ∈ plan.actions,
    d.action = .create ∨ d.action = .update → d.id ∈ wanted.dependsOn → HasSucceeded s run d
  replaced : c.action = .create → c.replacement = true →
    ∃ d ∈ plan.actions, d.action = .delete ∧ d.id = c.id ∧ HasSucceeded s run d
  dropped : c.action = .delete → c.replacement = false →
    ∀ r ∈ baseline, c.id ∈ r.dependsOn → ∃ d ∈ plan.changes, d.id = r.id ∧
      (d.action = .delete ∧ HasSucceeded s run d ∨ d.action = .update ∧ HasSucceeded s run d ∨
        d.action = .noChange)

end Run

variable {desired : List Resource} {c d : Change}

namespace Plan

/-- A recorded resource is deleted, updated, or stays. -/
theorem Compares.exists_of_recorded (h : plan.Compares desired baseline)
    (hbase : (Resource.ids baseline).Nodup) {r : Resource} (hr : r ∈ baseline) :
    ∃ d ∈ plan.changes, d.id = r.id ∧ d.current? = some r := by
  by_cases hkept : ∀ x ∈ desired, x.id = r.id → x.backend ≠ r.backend
  · obtain ⟨d, hd, hsides⟩ := h.deleted r hr hkept
    exact ⟨d, hd, (h.delete d hd r hsides).2.1, by simp [Change.current?, hsides, Sides.current?]⟩
  · simp only [not_forall, not_not] at hkept
    obtain ⟨x, hx, hid, hbackend⟩ := hkept
    obtain ⟨d, hd, hdesired⟩ := h.applied x hx
    have hsame : ∀ r' ∈ baseline, r'.id = x.id → r' = r := fun r' hr' hid' =>
      Resource.eq_of_id_eq hbase hr' hr (hid'.trans hid)
    refine ⟨d, hd, (h.of_desired hd hdesired).2.trans hid, ?_⟩
    cases hsides : d.sides with
    | delete r' => simp [Change.desired?, hsides, Sides.desired?] at hdesired
    | create x' =>
      simp only [Change.desired?, hsides, Sides.desired?, Option.some.injEq] at hdesired
      subst hdesired
      exact absurd hbackend.symm ((h.create d hd _ hsides).2.2.1 r hr hid.symm)
    | update r' x' =>
      simp only [Change.desired?, hsides, Sides.desired?, Option.some.injEq] at hdesired
      subst hdesired
      obtain ⟨_, hr', _, hid', _⟩ := h.update d hd r' _ hsides
      simp [Change.current?, hsides, Sides.current?, hsame r' hr' hid']
    | noChange r' x' =>
      simp only [Change.desired?, hsides, Sides.desired?, Option.some.injEq] at hdesired
      subst hdesired
      obtain ⟨_, hr', _, hid', _⟩ := h.noChange d hd r' _ hsides
      simp [Change.current?, hsides, Sides.current?, hsame r' hr' hid']

/-- What a replaced resource is created anew waits for: its delete. -/
theorem Compares.exists_replaced (h : plan.Compares desired baseline)
    (hdesired : (Resource.ids desired).Nodup) (hc : c ∈ plan.changes) (hcreate : c.action = .create)
    (hreplace : c.replacement = true) :
    ∃ d ∈ plan.changes, d.action = .delete ∧ d.id = c.id ∧ c.waitsFor baseline d = true := by
  obtain ⟨x, hx⟩ : ∃ x, c.sides = .create x := by
    unfold Change.action at hcreate
    cases hsides : c.sides with
    | create x => exact ⟨x, rfl⟩
    | update _ _ => simp [hsides, Sides.action] at hcreate
    | delete _ => simp [hsides, Sides.action] at hcreate
    | noChange _ _ => simp [hsides, Sides.action] at hcreate
  obtain ⟨_, hcx, _, hiff⟩ := h.create c hc x hx
  obtain ⟨r, hr, hrid⟩ := Resource.mem_ids.mp (hiff.mp hreplace)
  obtain ⟨d, hd, hsides⟩ := h.deleted_of_create hdesired hc hx hr (hcx.trans hrid.symm)
  have hid : d.id = c.id := by rw [(h.delete d hd r hsides).2.1, hrid, hcx]
  refine ⟨d, hd, Change.action_eq_delete_iff.mpr ⟨r, hsides⟩, hid, ?_⟩
  simp [Change.waitsFor, hx, hsides, hreplace, hid]

/-- **A delete for good waits for every recorded resource that needs what it deletes**, unless that one
stays as it is: no desired resource can need what is not desired any more. -/
theorem Compares.exists_dependent (h : plan.Compares desired baseline)
    (hdesired : Resource.Accepted true desired) (hbase : (Resource.ids baseline).Nodup)
    (hc : c ∈ plan.changes) (hdelete : c.action = .delete) (hkeep : c.replacement = false)
    {r : Resource} (hr : r ∈ baseline) (hneeds : c.id ∈ r.dependsOn) :
    ∃ d ∈ plan.changes, d.id = r.id ∧ (d.action = .noChange ∨
      (d.action = .delete ∨ d.action = .update) ∧ c.waitsFor baseline d = true) := by
  obtain ⟨q, hq⟩ := Change.action_eq_delete_iff.mp hdelete
  obtain ⟨_, hcq, _, hiff⟩ := h.delete c hc q hq
  obtain ⟨d, hd, hdid, hcurrent⟩ := h.exists_of_recorded hbase hr
  have hrecordedNeeds : d.recordedNeeds baseline c.id = true := by
    unfold Change.recordedNeeds
    rw [List.any_eq_true]
    exact ⟨r, hr, by simp [hdid, hneeds]⟩
  have hdropped : ∀ x ∈ desired, c.id ∉ x.dependsOn := by
    intro x hx hmem
    have hin := hdesired.present rfl x hx c.id hmem
    rw [hcq] at hin
    rw [hiff.mpr hin] at hkeep
    cases hkeep
  refine ⟨d, hd, hdid, ?_⟩
  cases hsides : d.sides with
  | create x => simp [Change.current?, hsides, Sides.current?] at hcurrent
  | delete r' =>
    refine .inr ⟨.inl (Change.action_eq_delete_iff.mpr ⟨r', hsides⟩), ?_⟩
    simp [Change.waitsFor, hq, hsides, hrecordedNeeds]
  | update r' x =>
    refine .inr ⟨.inr (by simp [Change.action, hsides, Sides.action]), ?_⟩
    have hx := hdropped x (h.update d hd r' x hsides).1
    simp [Change.waitsFor, hq, hsides, hrecordedNeeds, hx]
  | noChange r' x => exact .inl (by simp [Change.action, hsides, Sides.action])

end Plan

/-- What a ready action waits for has succeeded. -/
theorem Run.hasSucceeded_of_waitsFor (hsingle : plan.Single)
    (hschedule : Schedule.of? plan baseline = .ok s)
    (hi : s.actions[i]? = some c) (hready : Run.isReady s run i = true) (hd : d ∈ plan.changes)
    (hdno : d.action ≠ .noChange) (hwaits : c.waitsFor baseline d = true) :
    Run.HasSucceeded s run d := by
  obtain ⟨j, hj⟩ := Schedule.exists_index hschedule hd hdno
  have hactions := (Schedule.of?_inv hschedule).1
  exact ⟨j, hj, (Run.isReady_iff.mp hready).2 j ((Schedule.mem_waits_iff hschedule).mpr
    (hsingle.waits_iff.mpr ⟨c, d, hactions ▸ hi, hactions ▸ hj, hwaits⟩))⟩

/-- **An action that is ready is granted.** -/
theorem Run.granted_of_ready (hcompute : Plan.compute desired baseline = .ok plan)
    (hschedule : Schedule.of? plan baseline = .ok s) (hi : s.actions[i]? = some c)
    (hready : Run.isReady s run i = true) : Run.Granted plan baseline s run c := by
  have hplan := Plan.compares_of hcompute
  have hsingle := Plan.single_of hcompute
  obtain ⟨wanted, recorded, hdesired, hrecorded, _, _⟩ := Plan.compute_inv hcompute
  have hwanted := Graph.Accepted.of_build hdesired
  have hbase := (Graph.Accepted.of_build hrecorded).nodup
  obtain ⟨hc, hcno⟩ := Schedule.mem_changes hschedule hi
  constructor
  case needs =>
    intro x hx d hd hdaction hneeds
    obtain ⟨hdmem, hdno⟩ := Plan.mem_actions_iff.mp hd
    obtain ⟨y, hy⟩ := Plan.exists_desired hdaction
    exact hasSucceeded_of_waitsFor hsingle hschedule hi hready hdmem hdno
      (Plan.waitsFor_of_needs hx hy hneeds)
  case replaced =>
    intro hcreate hreplace
    obtain ⟨d, hd, hdelete, hid, hwaits⟩ :=
      hplan.exists_replaced hwanted.nodup hc hcreate hreplace
    have hdno : d.action ≠ .noChange := by rw [hdelete]; decide
    exact ⟨d, Plan.mem_actions_iff.mpr ⟨hd, hdno⟩, hdelete, hid,
      hasSucceeded_of_waitsFor hsingle hschedule hi hready hd hdno hwaits⟩
  case dropped =>
    intro hdelete hkeep r hr hneeds
    obtain ⟨d, hd, hid, hstays | ⟨haction, hwaits⟩⟩ :=
      hplan.exists_dependent hwanted hbase hc hdelete hkeep hr hneeds
    · exact ⟨d, hd, hid, .inr (.inr hstays)⟩
    · have hdno : d.action ≠ .noChange := by rcases haction with h | h <;> rw [h] <;> decide
      have hsucceeded := hasSucceeded_of_waitsFor hsingle hschedule hi hready hd hdno hwaits
      exact ⟨d, hd, hid, haction.imp (⟨·, hsucceeded⟩) fun h => .inl ⟨h, hsucceeded⟩⟩

/-! ## The guards of every course -/

/-- A course starts no action too early, twice, or after it was closed, and never more at a time than
there is room for. -/
structure Course.Guarded (plan : Plan) (baseline : List Resource) (s : Schedule) (limit : Int)
    (outcome : Nat → Outcome) (events : List Event) : Prop where
  room : ∀ before after, events = before ++ after → ∃ run,
    Course plan baseline s limit outcome before run ∧ run.running.length ≤ limit.toNat
  once : (events.filterMap Event.started?).Nodup
  opened : ∀ before i at_ after, events = before ++ .start i at_ :: after →
    ∀ e ∈ before, e.closes = false
  granted : ∀ before i at_ after, events = before ++ .start i at_ :: after → ∃ run c,
    Course plan baseline s limit outcome before run ∧ s.actions[i]? = some c ∧
      Run.Granted plan baseline s run c

/-- **No course starts an action too early, twice, or after it was closed.** -/
theorem Course.guarded (hcompute : Plan.compute desired baseline = .ok plan)
    (hschedule : Schedule.of? plan baseline = .ok s)
    (h : Course plan baseline s limit outcome events run) :
    Course.Guarded plan baseline s limit outcome events := by
  have hs := Schedule.lawful_of hschedule
  constructor
  case room =>
    intro before after heq
    obtain ⟨earlier, hearlier⟩ := h.exists_earlier before after heq
    exact ⟨earlier, hearlier, hearlier.length_running_le⟩
  case once => exact h.nodup_started hs
  case opened =>
    intro before i at_ after heq
    obtain ⟨_, _, _, happens⟩ := h.exists_happens before (.start i at_) after heq
    cases happens with
    | start _ _ opened _ _ => exact opened
  case granted =>
    intro before i at_ after heq
    obtain ⟨earlier, _, hearlier, happens⟩ := h.exists_happens before (.start i at_) after heq
    cases happens with
    | start _ _ _ ready _ =>
      have hlt := Run.lt_of_status? (Run.isReady_iff.mp ready).1
      obtain ⟨c, hc⟩ := s.exists_action ((hearlier.reached.inv hs).size ▸ hlt)
      exact ⟨earlier, c, hearlier, hc, Run.granted_of_ready hcompute hschedule hc ready⟩

end Rollout
