import Rollout.Execution.Executor
import Rollout.Proofs.Execution.Ended

/-!
# Executions are runs

An execution in a sandbox starts and ends actions one by one, and the live resources change with the
actions that end.

* `Schedule.outcomes`, `Schedule.effects` : how an action ends in a sandbox, whenever it is started;
* `Execution.Step` : a step of a run together with the live resources;
* `Execution.complete_ends` : an execution goes through such steps until nothing is running, unless
  its task is cancelled once more while it waits;
* `Execution.complete_ended` : an execution that nobody stops goes on until nothing can be started.
-/

set_option autoImplicit false

namespace Rollout

open Relation

/-- Two sandboxes that behave alike, whatever is live in them. -/
structure Sandbox.Alike (s s' : Sandbox) : Prop where
  serves : s'.serves = s.serves
  apart : s'.apart = s.apart
  delay : s'.delay = s.delay
  failure : s'.failure? = s.failure?
  answer : s'.answer? = s.answer?

namespace Sandbox.Alike

variable {s s' s'' : Sandbox}

theorem refl (s : Sandbox) : Alike s s := ⟨rfl, rfl, rfl, rfl, rfl⟩

theorem trans (h : Alike s s') (h' : Alike s' s'') : Alike s s'' :=
  ⟨h'.serves.trans h.serves, h'.apart.trans h.apart, h'.delay.trans h.delay,
    h'.failure.trans h.failure, h'.answer.trans h.answer⟩

theorem changeHeld (s : Sandbox) (b : Backend)
    (f : List (String × Resource) → List (String × Resource)) : Alike s (s.changeHeld b f) := by
  unfold Sandbox.changeHeld
  split <;> exact ⟨rfl, rfl, rfl, rfl, rfl⟩

theorem affect (h : Alike s s') (e : Effect) : Alike s (s'.affect e) := by
  refine h.trans ?_
  cases e with
  | none => exact refl s'
  | put r => exact changeHeld s' _ _
  | drop r => exact changeHeld s' _ _

end Sandbox.Alike

/-! ## How actions end -/

/-- What is answered for a resource that is applied: that resource, unless told otherwise. -/
theorem Sandbox.answerOf_of_apply {c : Change} (h : c.action ≠ .delete) (s : Sandbox) :
    s.answerOf c = (s.answer? c.resource.id).getD (some c.resource) := by
  unfold answerOf Change.resource
  unfold Change.action at h
  cases hsides : c.sides with
  | delete r => exact absurd (by rw [hsides]; rfl) h
  | create d => rfl
  | update r d => rfl
  | noChange r d => rfl

namespace Flight

/-- How an action ends in a sandbox, and what it does to the live resources. -/
def endOf (limits : Limits) (s : Sandbox) (c : Change) : Outcome × Effect :=
  let flight := (launch limits default 0 c s).1
  (flight.outcome, flight.effect)

/-- An action fails without effect, or takes its effect and is answered. -/
theorem endOf_cases (limits : Limits) (s : Sandbox) (c : Change) :
    (∃ text, endOf limits s c = (.failed text, .none)) ∨
      endOf limits s c = (.succeeded (s.answerOf c), Sandbox.effectOf c) := by
  unfold endOf launch
  simp only
  split
  · exact .inl ⟨_, rfl⟩
  · split
    · exact .inl ⟨_, rfl⟩
    · simp only [Sandbox.perform, Sandbox.log, Sandbox.answerOf]
      split
      · rename_i e _
        refine .inl ?_
        cases e <;> exact ⟨_, rfl⟩
      · exact .inr rfl

/-- **How an action ends does not depend on when it is started**, nor on what is live then. -/
theorem launch_spec {s₀ s : Sandbox} (h : s₀.Alike s) (limits : Limits) (start : Instant) (i : Nat)
    (c : Change) :
    (launch limits start i c s).1.index = i ∧
      (launch limits start i c s).1.outcome = (endOf limits s₀ c).1 ∧
      (launch limits start i c s).1.effect = (endOf limits s₀ c).2 := by
  unfold endOf launch
  simp only [h.serves, h.delay]
  split
  · exact ⟨rfl, rfl, rfl⟩
  · split
    · exact ⟨rfl, rfl, rfl⟩
    · simp [Sandbox.perform, Sandbox.log, h.failure, Sandbox.answerOf, h.answer]

/-- Starting an action does nothing to a sandbox but log a call. -/
theorem launch_calls (limits : Limits) (start : Instant) (i : Nat) (c : Change) (s : Sandbox) :
    ∃ calls, (launch limits start i c s).2 = { s with calls } := by
  unfold launch
  simp only
  split
  · exact ⟨s.calls, rfl⟩
  · split <;> exact ⟨_, rfl⟩

theorem exists_firstEnd? {flights : List Flight} {i : Instant} (h : firstEnd? flights = some i) :
    ∃ f ∈ flights, f.ends = i := by
  cases flights with
  | nil => cases h
  | cons f rest =>
    have hfold : ∀ (rest : List Flight) (start : Instant),
        rest.foldl (fun i g => i.min g.ends) start = start ∨
          ∃ g ∈ rest, g.ends = rest.foldl (fun i g => i.min g.ends) start := by
      intro rest
      induction rest with
      | nil => exact fun start => .inl rfl
      | cons g rest ih =>
        intro start
        rw [List.foldl_cons]
        rcases ih (start.min g.ends) with h | ⟨g', hg', h⟩
        · rw [h]
          unfold Instant.min
          split
          · exact .inr ⟨g, by simp, rfl⟩
          · exact .inl rfl
        · exact .inr ⟨g', List.mem_cons_of_mem _ hg', h⟩
    simp only [firstEnd?, Option.some.injEq] at h
    rcases hfold rest f.ends with h' | ⟨g, hg, h'⟩
    · exact ⟨f, by simp, h'.symm.trans h⟩
    · exact ⟨g, List.mem_cons_of_mem _ hg, h'.trans h⟩

/-- An action that ends first has ended when the execution wakes up. -/
theorem endsBy_later (f : Flight) : f.endsBy (f.ends.later 2) = true := by
  simp [endsBy, Instant.later]

end Flight

namespace Schedule

/-- How the action at a position ends in a sandbox. -/
def outcomes (s : Schedule) (limits : Limits) (sandbox : Sandbox) (i : Nat) : Outcome :=
  match s.actions[i]? with
  | some c => (Flight.endOf limits sandbox c).1
  | none => .failed ""

/-- What the action at a position does to the live resources of a sandbox. -/
def effects (s : Schedule) (limits : Limits) (sandbox : Sandbox) (i : Nat) : Effect :=
  match s.actions[i]? with
  | some c => (Flight.endOf limits sandbox c).2
  | none => .none

/-- What the backend answered for an action that succeeded. -/
theorem answerOf_of_succeeded {s : Schedule} {limits : Limits} {sandbox : Sandbox} {i : Nat}
    {c : Change} {returned : Option Resource} (hc : s.actions[i]? = some c)
    (h : s.outcomes limits sandbox i = .succeeded returned) : sandbox.answerOf c = returned := by
  simp only [outcomes, hc] at h
  rcases Flight.endOf_cases limits sandbox c with ⟨text, hend⟩ | hend
  · rw [hend] at h
    cases h
  · rw [hend, Outcome.succeeded.injEq] at h
    exact h

end Schedule

namespace Execution

/-! ## Steps in a sandbox -/

/-- A step of a run together with the sandbox: starting an action adds calls to its log, and an
action that ends takes its effect. -/
inductive Step (s : Schedule) (limits : Limits) (start : Sandbox) :
    Run × Sandbox → Run × Sandbox → Prop
  | start {run : Run} {sandbox : Sandbox} (now : DateTime) (calls : List (Call × String)) {i : Nat}
      (ready : Run.isReady s run i = true)
      (room : (run.running.length : Int) < limits.concurrency) :
      Step s limits start (run, sandbox) (run.start now i, { sandbox with calls })
  | settle {run : Run} {sandbox : Sandbox} (now : DateTime) {i : Nat} (running : i ∈ run.running) :
      Step s limits start (run, sandbox)
        (run.settle s now (i, s.outcomes limits start i),
          sandbox.affect (s.effects limits start i))

/-- What an execution that begins in a sandbox can come to. -/
def Reached (s : Schedule) (limits : Limits) (start : Sandbox) (at_ : Run × Sandbox) : Prop :=
  ReflTransGen (Step s limits start) (Run.init s, start) at_

variable {s : Schedule} {limits : Limits} {start : Sandbox}

theorem Reached.run {at_ : Run × Sandbox} (h : Reached s limits start at_) :
    Run.Reached s limits.concurrency (s.outcomes limits start) at_.1 := by
  induction h with
  | refl => exact .refl
  | tail _ hstep ih =>
    cases hstep with
    | start now _ ready room => exact ih.tail (.start now ready room)
    | settle now running => exact ih.tail (.settle now running)

theorem Reached.alike {at_ : Run × Sandbox} (h : Reached s limits start at_) :
    start.Alike at_.2 := by
  induction h with
  | refl => exact .refl start
  | tail _ hstep ih =>
    cases hstep with
    | start _ _ _ _ => exact ⟨ih.serves, ih.apart, ih.delay, ih.failure, ih.answer⟩
    | settle _ _ => exact ih.affect _

/-! ## The executor takes such steps -/

/-- An execution has gone on: what it executes is the same, and it has taken steps. -/
structure Follows (start : Sandbox) (e : Execution) (sandbox : Sandbox) (e' : Execution)
    (sandbox' : Sandbox) : Prop where
  plan : e'.plan = e.plan
  baseline : e'.baseline = e.baseline
  schedule : e'.schedule = e.schedule
  limits : e'.limits = e.limits
  interrupts : e'.interrupts = e.interrupts
  path : ReflTransGen (Step e.schedule e.limits start) (e.run, sandbox) (e'.run, sandbox')

/-- An execution under way, and the sandbox it is in. -/
structure Inv (start : Sandbox) (e : Execution) (sandbox : Sandbox) : Prop where
  lawful : e.schedule.Lawful
  reached : Reached e.schedule e.limits start (e.run, sandbox)
  nodup : (e.flights.map Flight.index).Nodup
  mem_running : ∀ i, i ∈ e.run.running ↔ i ∈ e.flights.map Flight.index
  outcome : ∀ f ∈ e.flights, f.outcome = e.schedule.outcomes e.limits start f.index
  effect : ∀ f ∈ e.flights, f.effect = e.schedule.effects e.limits start f.index

/-- No further action is started until something changes. -/
def Saturated (e : Execution) : Prop :=
  e.stopped = true ∨ e.limits.concurrency ≤ (e.run.running.length : Int) ∨
    ∀ i, Run.isReady e.schedule e.run i = false

variable {e e' e'' : Execution} {sandbox sandbox' sandbox'' : Sandbox}

theorem Follows.refl (start : Sandbox) (e : Execution) (sandbox : Sandbox) :
    Follows start e sandbox e sandbox := ⟨rfl, rfl, rfl, rfl, rfl, .refl⟩

theorem Follows.trans (h : Follows start e sandbox e' sandbox')
    (h' : Follows start e' sandbox' e'' sandbox'') : Follows start e sandbox e'' sandbox'' :=
  ⟨h'.plan.trans h.plan, h'.baseline.trans h.baseline, h'.schedule.trans h.schedule,
    h'.limits.trans h.limits, h'.interrupts.trans h.interrupts,
    h.path.trans (h.schedule ▸ h.limits ▸ h'.path)⟩

theorem Inv.run (h : Inv start e sandbox) :
    Run.Inv e.schedule (e.schedule.outcomes e.limits start) e.run :=
  h.reached.run.inv h.lawful

/-- Whether an execution is stopped makes no difference to what holds of it. -/
theorem Inv.stopped (h : Inv start e sandbox) (stopped : Bool) :
    Inv start { e with stopped } sandbox :=
  ⟨h.lawful, h.reached, h.nodup, h.mem_running, h.outcome, h.effect⟩

theorem Inv.dropCancel (h : Inv start e sandbox) : Inv start e.dropCancel sandbox :=
  ⟨h.lawful, h.reached, h.nodup, h.mem_running, h.outcome, h.effect⟩

theorem Inv.running_eq_nil (h : Inv start e sandbox) (hflights : e.flights = []) :
    e.run.running = [] := by
  refine List.eq_nil_iff_forall_not_mem.mpr fun i hi => ?_
  have := (h.mem_running i).mp hi
  rw [hflights] at this
  cases this

/-! ### Starting actions -/

theorem ready?_eq_none_iff (hsize : e.run.records.length = e.schedule.size) :
    e.run.ready? e.schedule = none ↔ ∀ i, Run.isReady e.schedule e.run i = false := by
  unfold Run.ready?
  rw [List.find?_eq_none]
  constructor
  · intro h i
    refine Bool.eq_false_iff.mpr fun hready => ?_
    have hlt := Run.lt_of_status? (Run.isReady_iff.mp hready).1
    exact h i (List.mem_range.mpr (hsize ▸ hlt)) hready
  · intro h i _
    simp [h i]

theorem launchNext_of_saturated (h : Inv start e sandbox) (hsat : Saturated e)
    (clock : DateTime) : launchNext clock (e, sandbox) = (e, sandbox) := by
  unfold launchNext
  rcases hsat with hstop | hfull | hready
  · simp [hstop]
  · simp [hfull]
  · simp [(ready?_eq_none_iff h.run.size).mpr hready]

/-- Unless nothing more can be started, one action is. -/
theorem launchNext_spec (h : Inv start e sandbox) (hsat : ¬ Saturated e) (clock : DateTime) :
    Inv start (launchNext clock (e, sandbox)).1 (launchNext clock (e, sandbox)).2 ∧
      Follows start e sandbox (launchNext clock (e, sandbox)).1 (launchNext clock (e, sandbox)).2 ∧
      (launchNext clock (e, sandbox)).1.stopped = e.stopped ∧
      Run.pendings e.schedule (launchNext clock (e, sandbox)).1.run
        < Run.pendings e.schedule e.run := by
  simp only [Saturated, not_or, not_le, Bool.not_eq_true] at hsat
  obtain ⟨hstop, hroom, hready⟩ := hsat
  cases hnext : e.run.ready? e.schedule with
  | none => exact absurd ((ready?_eq_none_iff h.run.size).mp hnext) hready
  | some i =>
    have hready' : Run.isReady e.schedule e.run i = true := by
      simpa using List.find?_some hnext
    have hp := (Run.isReady_iff.mp hready').1
    obtain ⟨c, hc⟩ := e.schedule.exists_action (h.run.size ▸ Run.lt_of_status? hp)
    obtain ⟨hindex, houtcome, heffect⟩ := Flight.launch_spec h.reached.alike e.limits e.now i c
    obtain ⟨calls, hcalls⟩ := Flight.launch_calls e.limits e.now i c sandbox
    have hi : i ∉ e.run.running := fun hi => by
      rw [(h.run.mem_running i).mp hi] at hp
      cases hp
    have hstep : Step e.schedule e.limits start (e.run, sandbox)
        (e.run.start clock i, (Flight.launch e.limits e.now i c sandbox).2) :=
      hcalls ▸ .start clock calls hready' hroom
    have hfull : (e.stopped || decide (e.limits.concurrency ≤ (e.run.running.length : Int)))
        = false := by
      simp [hstop, hroom]
    simp only [launchNext, hfull, hnext, hc, Bool.false_eq_true, if_false]
    refine ⟨⟨h.lawful, h.reached.tail hstep, ?_, fun j => ?_, ?_, ?_⟩,
      ⟨rfl, rfl, rfl, rfl, rfl, .single hstep⟩, trivial, (h.run.count_start hp clock).1⟩
    · rw [List.map_append, List.map_singleton, hindex]
      exact List.nodup_append.mpr ⟨h.nodup, by simp, fun a ha b hb hab => by
        rw [List.mem_singleton] at hb
        exact hi ((h.mem_running i).mpr (hb ▸ hab ▸ ha))⟩
    · simp only [Run.start, List.mem_append, List.map_append, List.map_singleton, hindex]
      exact or_congr_left (h.mem_running j)
    · intro f hf
      rcases List.mem_append.mp hf with hf | hf
      · exact h.outcome f hf
      · rw [List.mem_singleton.mp hf, hindex, houtcome]
        simp only [Schedule.outcomes, hc]
    · intro f hf
      rcases List.mem_append.mp hf with hf | hf
      · exact h.effect f hf
      · rw [List.mem_singleton.mp hf, hindex, heffect]
        simp only [Schedule.effects, hc]

theorem Inv.launchNext (h : Inv start e sandbox) (clock : DateTime) :
    Inv start (Execution.launchNext clock (e, sandbox)).1
      (Execution.launchNext clock (e, sandbox)).2 := by
  by_cases hsat : Saturated e
  · rw [launchNext_of_saturated h hsat]
    exact h
  · exact (launchNext_spec h hsat clock).1

/-- As often as it is tried, actions are started until nothing more can be. -/
theorem foldl_launchNext_spec (clock : DateTime) : ∀ (tries : List Change) (e : Execution)
    (sandbox : Sandbox), Inv start e sandbox →
      let state := tries.foldl (fun state _ => launchNext clock state) (e, sandbox)
      Inv start state.1 state.2 ∧ Follows start e sandbox state.1 state.2 ∧
        state.1.stopped = e.stopped ∧
        (Saturated state.1 ∨
          Run.pendings e.schedule state.1.run + tries.length ≤ Run.pendings e.schedule e.run)
  | [], e, sandbox, h => ⟨h, .refl start e sandbox, rfl, .inr (Nat.le_refl _)⟩
  | c :: tries, e, sandbox, h => by
    rw [List.foldl_cons]
    by_cases hsat : Saturated e
    · rw [launchNext_of_saturated h hsat]
      obtain ⟨hinv, hfollows, hstopped, hend⟩ := foldl_launchNext_spec clock tries e sandbox h
      refine ⟨hinv, hfollows, hstopped, .inl ?_⟩
      have hfixed : ∀ tries : List Change,
          tries.foldl (fun state _ => launchNext clock state) (e, sandbox) = (e, sandbox) := by
        intro tries
        induction tries with
        | nil => rfl
        | cons c tries ih => rw [List.foldl_cons, launchNext_of_saturated h hsat, ih]
      rw [hfixed]
      exact hsat
    · obtain ⟨hinv, hfollows, hstopped, hlt⟩ := launchNext_spec h hsat clock
      generalize launchNext clock (e, sandbox) = state at *
      obtain ⟨e', sandbox'⟩ := state
      obtain ⟨hinv', hfollows', hstopped', hend⟩ := foldl_launchNext_spec clock tries _ _ hinv
      refine ⟨hinv', hfollows.trans hfollows', hstopped'.trans hstopped, hend.imp_right ?_⟩
      rw [hfollows.schedule, List.length_cons]
      simp only at hlt ⊢
      omega

/-- **Starting actions is a matter of steps, and ends when nothing more can be started.** -/
theorem launch_spec (h : Inv start e sandbox) (clock : DateTime) :
    Inv start (e.launch clock sandbox).1 (e.launch clock sandbox).2 ∧
      Follows start e sandbox (e.launch clock sandbox).1 (e.launch clock sandbox).2 ∧
      Saturated (e.launch clock sandbox).1 ∧
      (e.interrupts.stopAt = none → (e.launch clock sandbox).1.stopped = e.stopped) := by
  have hstop : ∃ stopped, e.stopInTime = { e with stopped } ∧
      (e.interrupts.stopAt = none → stopped = e.stopped) := by
    unfold stopInTime
    cases ht : e.interrupts.stopAt with
    | none => exact ⟨e.stopped, rfl, fun _ => rfl⟩
    | some t => exact ⟨_, rfl, fun h => by cases h⟩
  obtain ⟨stopped, heq, hnone⟩ := hstop
  have hinv : Inv start e.stopInTime sandbox := heq ▸ h.stopped stopped
  have hfollows : Follows start e sandbox e.stopInTime sandbox := by
    rw [heq]
    exact ⟨rfl, rfl, rfl, rfl, rfl, .refl⟩
  have hlaunch : e.launch clock sandbox = e.schedule.actions.foldl
      (fun state _ => launchNext clock state) (e.stopInTime, sandbox) := rfl
  rw [hlaunch]
  obtain ⟨hinv', hfollows', hstopped, hend⟩ :=
    foldl_launchNext_spec clock e.schedule.actions e.stopInTime sandbox hinv
  refine ⟨hinv', hfollows.trans hfollows', ?_, fun ht => hstopped.trans (by rw [heq, hnone ht])⟩
  rcases hend with hsat | hle
  · exact hsat
  · have hsize := Run.pendings_le_size e.schedule e.stopInTime.run
    rw [hfollows.schedule] at hle
    have hlen : e.schedule.size = e.schedule.actions.length := rfl
    refine .inr (.inr (Run.isReady_eq_false_of_pendings hinv'.run.size ?_))
    rw [hfollows'.schedule, hfollows.schedule]
    omega

/-! ### Ending actions -/

/-- Ending actions one after the other is a matter of steps. -/
theorem settleAll_spec {s : Schedule} {limits : Limits} (hs : s.Lawful) (clock : DateTime) :
    ∀ (ended : List Flight) (run : Run) (sandbox : Sandbox),
      Reached s limits start (run, sandbox) → (ended.map Flight.index).Nodup →
      (∀ f ∈ ended, f.index ∈ run.running ∧ f.outcome = s.outcomes limits start f.index ∧
        f.effect = s.effects limits start f.index) →
      ReflTransGen (Step s limits start) (run, sandbox)
        (run.settleAll s clock (Flight.outcomes ended), Flight.land ended sandbox) ∧
      (∀ i, i ∈ (run.settleAll s clock (Flight.outcomes ended)).running ↔
        i ∈ run.running ∧ i ∉ ended.map Flight.index) ∧
      Run.unsettled s (run.settleAll s clock (Flight.outcomes ended)) + ended.length
        ≤ Run.unsettled s run
  | [], run, sandbox, _, _, _ => ⟨.refl, fun i => by simp [Run.settleAll, Flight.outcomes],
      Nat.le_refl _⟩
  | f :: ended, run, sandbox, hreached, hnodup, hflights => by
    obtain ⟨hf, houtcome, heffect⟩ := hflights f (by simp)
    obtain ⟨hnot, hnodup⟩ := List.nodup_cons.mp hnodup
    have hinv := hreached.run.inv hs
    have hstep : Step s limits start (run, sandbox)
        (run.settle s clock (f.index, f.outcome), sandbox.affect f.effect) := by
      rw [houtcome, heffect]
      exact .settle clock hf
    have hmem : ∀ i, i ∈ (run.settle s clock (f.index, f.outcome)).running ↔
        i ≠ f.index ∧ i ∈ run.running := fun i => by
      rw [Run.settle_running, hinv.nodup.mem_erase_iff]
    obtain ⟨hpath, hrunning, hcount⟩ := settleAll_spec hs clock ended _ _ (hreached.tail hstep)
      hnodup fun g hg => by
        obtain ⟨hg', hrest⟩ := hflights g (List.mem_cons_of_mem _ hg)
        refine ⟨(hmem g.index).mpr ⟨fun h => hnot ?_, hg'⟩, hrest⟩
        exact h ▸ List.mem_map_of_mem hg
    refine ⟨.head hstep hpath, fun i => (hrunning i).trans ?_, ?_⟩
    · rw [hmem, List.map_cons, List.mem_cons, not_or]
      constructor
      · rintro ⟨⟨hne, hi⟩, hnot⟩
        exact ⟨hi, hne, hnot⟩
      · rintro ⟨hi, hne, hnot⟩
        exact ⟨⟨hne, hi⟩, hnot⟩
    · have hlt := (hinv.count_settle hf clock f.outcome).2
      rw [List.length_cons]
      exact (Nat.succ_le_succ hcount).trans hlt

theorem Inv.flight (h : Inv start e sandbox) {f : Flight} (hf : f ∈ e.flights) :
    f.index ∈ e.run.running ∧ f.outcome = e.schedule.outcomes e.limits start f.index ∧
      f.effect = e.schedule.effects e.limits start f.index :=
  ⟨(h.mem_running _).mpr (List.mem_map_of_mem hf), h.outcome f hf, h.effect f hf⟩

/-- What has ended when an execution wakes up is settled; each of it leaves one less to settle. -/
theorem settleEnded_spec (h : Inv start e sandbox) (clock : DateTime) (wake : Instant) :
    Inv start (e.settleEnded clock wake sandbox).1 (e.settleEnded clock wake sandbox).2 ∧
      Follows start e sandbox (e.settleEnded clock wake sandbox).1
        (e.settleEnded clock wake sandbox).2 ∧
      Run.unsettled e.schedule (e.settleEnded clock wake sandbox).1.run
        + (e.flights.filter (Flight.endsBy wake)).length ≤ Run.unsettled e.schedule e.run := by
  have hsub : (e.flights.filter (Flight.endsBy wake)).Sublist e.flights := List.filter_sublist
  obtain ⟨hpath, hrunning, hcount⟩ := settleAll_spec h.lawful clock
    (e.flights.filter (Flight.endsBy wake)) e.run sandbox h.reached
    (h.nodup.sublist (hsub.map _)) fun f hf => h.flight (hsub.subset hf)
  have hsub' : (e.flights.filter fun f => !f.endsBy wake).Sublist e.flights := List.filter_sublist
  refine ⟨⟨h.lawful, h.reached.trans hpath, h.nodup.sublist (hsub'.map _), fun i => ?_,
    fun f hf => h.outcome f (hsub'.subset hf), fun f hf => h.effect f (hsub'.subset hf)⟩,
    ⟨rfl, rfl, rfl, rfl, rfl, hpath⟩, hcount⟩
  have hkept : ∀ f, f ∈ (e.settleEnded clock wake sandbox).1.flights ↔
      f ∈ e.flights ∧ f.endsBy wake = false := fun f => by simp [settleEnded]
  refine (hrunning i).trans ?_
  rw [h.mem_running]
  simp only [List.mem_map, List.mem_filter, hkept]
  constructor
  · rintro ⟨⟨f, hf, rfl⟩, hnot⟩
    exact ⟨f, ⟨hf, Bool.eq_false_iff.mpr fun hends => hnot ⟨f, ⟨hf, hends⟩, rfl⟩⟩, rfl⟩
  · rintro ⟨f, ⟨hf, hends⟩, rfl⟩
    refine ⟨⟨f, hf, rfl⟩, ?_⟩
    rintro ⟨g, ⟨hg, hgends⟩, hindex⟩
    rw [List.inj_on_of_nodup_map h.nodup hg hf hindex, hends] at hgends
    cases hgends

/-- All that is running can be settled at once. -/
theorem settleFlights_spec (h : Inv start e sandbox) (clock : DateTime) :
    Reached e.schedule e.limits start (e.settleFlights clock, Flight.land e.flights sandbox) ∧
      (e.settleFlights clock).running = [] := by
  obtain ⟨hpath, hrunning, _⟩ := settleAll_spec h.lawful clock e.flights e.run sandbox h.reached
    h.nodup fun f hf => h.flight hf
  refine ⟨h.reached.trans hpath, List.eq_nil_iff_forall_not_mem.mpr fun i hi => ?_⟩
  obtain ⟨hi, hnot⟩ := (hrunning i).mp hi
  exact hnot ((h.mem_running i).mp hi)

/-! ## How executions end -/

/-- The ways in which an execution can end: nothing is running any more, or its task was cancelled
while it waited for what is running. -/
inductive Ends (e : Execution) (start : Sandbox) : Ending → Sandbox → Prop
  | finished {run : Run} {sandbox : Sandbox}
      (reached : Reached e.schedule e.limits start (run, sandbox)) (idle : run.running = []) :
      Ends e start (.finished (run.cancelPending.result e.plan e.baseline run.anyPending)) sandbox
  | interrupted {run : Run} {sandbox : Sandbox} (cause : Failure)
      (reached : Reached e.schedule e.limits start (run, sandbox)) (idle : run.running = []) :
      Ends e start
        (.interrupted cause (some (run.cancelPending.result e.plan e.baseline true)) []) sandbox
  | dropped {e' : Execution} {sandbox : Sandbox} (cause : Failure)
      (schedule : e'.schedule = e.schedule) (limits : e'.limits = e.limits)
      (inv : Inv start e' sandbox) :
      Ends e start (.interrupted cause none e'.flights) sandbox

theorem Ends.congr {ending : Ending} (h : Ends e' start ending sandbox) (hplan : e'.plan = e.plan)
    (hbaseline : e'.baseline = e.baseline) (hschedule : e'.schedule = e.schedule)
    (hlimits : e'.limits = e.limits) : Ends e start ending sandbox := by
  cases h with
  | finished reached idle =>
    rw [hschedule, hlimits] at reached
    rw [hplan, hbaseline]
    exact .finished reached idle
  | interrupted cause reached idle =>
    rw [hschedule, hlimits] at reached
    rw [hplan, hbaseline]
    exact .interrupted cause reached idle
  | dropped cause schedule limits inv =>
    exact .dropped cause (schedule.trans hschedule) (limits.trans hlimits) inv

theorem Ends.of_follows {ending : Ending} (hf : Follows start e sandbox e' sandbox')
    (h : Ends e' start ending sandbox'') : Ends e start ending sandbox'' :=
  h.congr hf.plan hf.baseline hf.schedule hf.limits

theorem finish_ends (h : Inv start e sandbox) (hflights : e.flights = []) :
    Ends e start e.finish sandbox :=
  .finished h.reached (h.running_eq_nil hflights)

/-- Interrupted, an execution keeps what it has done, unless its task is to be cancelled again. -/
theorem interrupt_spec (h : Inv start e sandbox) (clock : DateTime) (cause : Failure) :
    Ends e start (e.interrupt clock cause sandbox).1 (e.interrupt clock cause sandbox).2 ∧
      (e.interrupts.cancelAt = [] →
        ∃ left, (e.interrupt clock cause sandbox).1 = .interrupted cause (some left) []) := by
  unfold interrupt
  split
  · rename_i last hlast
    split
    · rename_i hcancel
      refine ⟨.dropped _ rfl rfl h, fun hnil => ?_⟩
      simp [cancelledBefore, hnil] at hcancel
    · obtain ⟨hreached, hidle⟩ := settleFlights_spec h clock
      exact ⟨.interrupted cause hreached hidle, fun _ => ⟨_, rfl⟩⟩
  · rename_i hlast
    have hflights : e.flights = [] := by
      cases hf : e.flights with
      | nil => rfl
      | cons f rest => simp [hf, Flight.lastEnd?] at hlast
    exact ⟨.interrupted cause h.reached (h.running_eq_nil hflights), fun _ => ⟨_, rfl⟩⟩

variable {σ : Type} {report : ExecutionResult → σ → Reception × σ} {context : σ}

/-- What one wait of an execution comes to: nothing was running; or its task was cancelled; or its
progress was reported, and it was cut short or goes on. -/
inductive Advanced (start : Sandbox) (report : ExecutionResult → σ → Reception × σ) (e : Execution)
    (sandbox : Sandbox) (context : σ) : (Execution ⊕ Ending) × Sandbox × σ → Prop
  | idle (flights : e.flights = []) :
      Advanced start report e sandbox context (.inr e.finish, sandbox, context)
  | cancelled {ending : Ending} {sandbox' : Sandbox} (cancel : e.interrupts.cancelAt ≠ [])
      (ends : Ends e start ending sandbox')
      (kept : e.interrupts.cancelAt.length ≤ 1 →
        ∃ left, ending = .interrupted (.cancelled "") (some left) []) :
      Advanced start report e sandbox context (.inr ending, sandbox', context)
  | refused {run : Run} {before sandbox' : Sandbox} {ending : Ending} {cause : Failure}
      (reached : Reached e.schedule e.limits start (run, before))
      (failure : (report (run.result e.plan e.baseline false) context).1.failure? = some cause)
      (ends : Ends e start ending sandbox') :
      Advanced start report e sandbox context
        (.inr ending, sandbox', (report (run.result e.plan e.baseline false) context).2)
  | goesOn {run : Run} {before sandbox' : Sandbox} {e' : Execution}
      (reached : Reached e.schedule e.limits start (run, before))
      (success : (report (run.result e.plan e.baseline false) context).1.failure? = none)
      (inv : Inv start e' sandbox') (follows : Follows start e sandbox e' sandbox')
      (saturated : Saturated e')
      (fewer : Run.unsettled e.schedule e'.run < Run.unsettled e.schedule e.run)
      (stopped : e.interrupts.stopAt = none →
        e'.stopped = (e.stopped || (report (run.result e.plan e.baseline false) context).1.stop)) :
      Advanced start report e sandbox context
        (.inl e', sandbox', (report (run.result e.plan e.baseline false) context).2)

/-- Further steps leave no more to settle. -/
theorem unsettled_le_of_path {s : Schedule} {limits : Limits} (hs : s.Lawful)
    {first last : Run × Sandbox} (hfirst : Reached s limits start first)
    (h : ReflTransGen (Step s limits start) first last) :
    Run.unsettled s last.1 ≤ Run.unsettled s first.1 := by
  induction h with
  | refl => exact Nat.le_refl _
  | tail hpath hstep ih =>
    have hinv := (Reached.run (hfirst.trans hpath)).inv hs
    cases hstep with
    | start now _ ready _ =>
      exact (hinv.count_start (Run.isReady_iff.mp ready).1 now).2.trans ih
    | settle now running => exact (hinv.count_settle running now _).2.le.trans ih

theorem flights_of_wake?_eq_none (h : e.wake? = none) : e.flights = [] := by
  cases hf : e.flights with
  | nil => rfl
  | cons f rest => simp [wake?, hf, Flight.firstEnd?] at h

/-- The action that ends first has ended when an execution wakes up. -/
theorem endsBy_wake_pos {wake : Instant} (h : e.wake? = some wake) :
    0 < (e.flights.filter (Flight.endsBy wake)).length := by
  unfold wake? at h
  cases hfirst : Flight.firstEnd? e.flights with
  | none => simp [hfirst] at h
  | some i =>
    obtain ⟨f, hf, hends⟩ := Flight.exists_firstEnd? hfirst
    simp only [hfirst, Option.map_some, Option.some.injEq] at h
    refine List.length_pos_of_mem (List.mem_filter.mpr ⟨hf, ?_⟩)
    rw [← h, ← hends]
    exact f.endsBy_later

/-- Cancelled while it waits, an execution keeps what it has done, unless it is cancelled again. -/
theorem cancel_spec (h : Inv start e sandbox) (clock : DateTime) :
    Ends e start (e.dropCancel.interrupt clock (.cancelled "") sandbox).1
        (e.dropCancel.interrupt clock (.cancelled "") sandbox).2 ∧
      (e.interrupts.cancelAt.length ≤ 1 → ∃ left,
        (e.dropCancel.interrupt clock (.cancelled "") sandbox).1 =
          .interrupted (.cancelled "") (some left) []) := by
  obtain ⟨hends, hkept⟩ := interrupt_spec h.dropCancel clock (.cancelled "")
  exact ⟨hends.congr rfl rfl rfl rfl, fun hlen => hkept (List.drop_eq_nil_of_le hlen)⟩

/-- **One wait of an execution.** -/
theorem advance_spec (h : Inv start e sandbox) (clock : DateTime)
    (report : ExecutionResult → σ → Reception × σ) (context : σ) :
    Advanced start report e sandbox context (e.advance clock report sandbox context) := by
  unfold advance
  split
  · rename_i hwake
    exact .idle (flights_of_wake?_eq_none hwake)
  · rename_i wake hwake
    split
    · rename_i hcancel
      obtain ⟨hends, hkept⟩ := cancel_spec h clock
      refine .cancelled (fun hnil => ?_) hends hkept
      simp [cancelledBefore, hnil] at hcancel
    · obtain ⟨hinv, hfollows, hcount⟩ := settleEnded_spec h clock wake
      have hreached := hinv.reached
      have hrun : (e.settleEnded clock wake sandbox).1.run.result
          (e.settleEnded clock wake sandbox).1.plan (e.settleEnded clock wake sandbox).1.baseline
          false = (e.settleEnded clock wake sandbox).1.run.result e.plan e.baseline false := rfl
      simp only [hrun]
      cases hfail : (report ((e.settleEnded clock wake sandbox).1.run.result e.plan e.baseline
          false) context).1.failure? with
      | some cause =>
        exact .refused hreached hfail ((interrupt_spec hinv clock cause).1.of_follows hfollows)
      | none =>
        have hinv' := hinv.stopped (e.stopped || (report ((e.settleEnded clock wake
          sandbox).1.run.result e.plan e.baseline false) context).1.stop)
        obtain ⟨hinv'', hfollows', hsat, hstop⟩ := launch_spec hinv' clock
        have hle := unsettled_le_of_path hinv'.lawful hinv'.reached hfollows'.path
        refine .goesOn hreached hfail hinv''
          (hfollows.trans ⟨hfollows'.plan, hfollows'.baseline, hfollows'.schedule,
            hfollows'.limits, hfollows'.interrupts, hfollows'.path⟩) hsat ?_ hstop
        refine lt_of_le_of_lt hle ?_
        exact lt_of_lt_of_le (Nat.lt_add_of_pos_right (endsBy_wake_pos hwake)) hcount

/-! ## Whole executions -/

theorem loop_ends (clock : DateTime) (report : ExecutionResult → σ → Reception × σ) :
    ∀ (steps : Nat) (e : Execution) (sandbox : Sandbox) (context : σ), Inv start e sandbox →
      Run.unsettled e.schedule e.run < steps →
      Ends e start (loop clock report steps e sandbox context).1
        (loop clock report steps e sandbox context).2.1
  | 0, _, _, _, _, hsteps => absurd hsteps (Nat.not_lt_zero _)
  | steps + 1, e, sandbox, context, h, hsteps => by
    have hadvanced := advance_spec h clock report context
    rw [loop]
    generalize e.advance clock report sandbox context = answer at *
    cases hadvanced with
    | idle flights => exact finish_ends h flights
    | cancelled _ ends _ => exact ends
    | refused _ _ ends => exact ends
    | goesOn _ _ inv follows _ fewer _ =>
      exact (loop_ends clock report steps _ _ _ inv (by rw [follows.schedule]; omega)).of_follows
        follows

/-- Where every report is received, an execution ends by itself, or by the cancelling of its task. -/
theorem loop_received {s : Schedule} {limits : Limits} {plan : Plan} {baseline : List Resource}
    (clock : DateTime) (report : ExecutionResult → σ → Reception × σ) {Good : σ → Prop}
    (hreport : ∀ run sandbox context, Reached s limits start (run, sandbox) → Good context →
      (report (run.result plan baseline false) context).1.failure? = none ∧
      Good (report (run.result plan baseline false) context).2) :
    ∀ (steps : Nat) (e : Execution) (sandbox : Sandbox) (context : σ), Inv start e sandbox →
      e.schedule = s → e.limits = limits → e.plan = plan → e.baseline = baseline →
      Good context → e.interrupts.cancelAt.length ≤ 1 →
      Good (loop clock report steps e sandbox context).2.2 ∧
        ((∃ result, (loop clock report steps e sandbox context).1 = .finished result) ∨
          e.interrupts.cancelAt ≠ [] ∧ ∃ left, (loop clock report steps e sandbox context).1 =
            .interrupted (.cancelled "") (some left) [])
  | 0, _, _, _, _, _, _, _, _, hgood, _ => ⟨hgood, .inl ⟨_, rfl⟩⟩
  | steps + 1, e, sandbox, context, h, hs, hl, hp, hb, hgood, hcancel => by
    have hadvanced := advance_spec h clock report context
    rw [loop]
    generalize e.advance clock report sandbox context = answer at *
    cases hadvanced with
    | idle _ => exact ⟨hgood, .inl ⟨_, rfl⟩⟩
    | cancelled cancel _ kept => exact ⟨hgood, .inr ⟨cancel, kept hcancel⟩⟩
    | refused reached failure _ =>
      rw [hs, hl] at reached
      rw [hp, hb, (hreport _ _ _ reached hgood).1] at failure
      cases failure
    | goesOn reached _ inv follows _ _ _ =>
      rw [hs, hl] at reached
      rw [hp, hb]
      rw [← follows.interrupts] at hcancel ⊢
      exact loop_received clock report hreport steps _ _ _ inv (follows.schedule.trans hs)
        (follows.limits.trans hl) (follows.plan.trans hp) (follows.baseline.trans hb)
        (hreport _ _ _ reached hgood).2 hcancel

/-- What every report keeps of its context is kept, however the execution ends. -/
theorem loop_keeps {s : Schedule} {limits : Limits} {plan : Plan} {baseline : List Resource}
    (clock : DateTime) (report : ExecutionResult → σ → Reception × σ) {Good : σ → Prop}
    (hreport : ∀ run sandbox context, Reached s limits start (run, sandbox) → Good context →
      Good (report (run.result plan baseline false) context).2) :
    ∀ (steps : Nat) (e : Execution) (sandbox : Sandbox) (context : σ), Inv start e sandbox →
      e.schedule = s → e.limits = limits → e.plan = plan → e.baseline = baseline →
      Good context → Good (loop clock report steps e sandbox context).2.2
  | 0, _, _, _, _, _, _, _, _, hgood => hgood
  | steps + 1, e, sandbox, context, h, hs, hl, hp, hb, hgood => by
    have hadvanced := advance_spec h clock report context
    rw [loop]
    generalize e.advance clock report sandbox context = answer at *
    cases hadvanced with
    | idle _ => exact hgood
    | cancelled _ _ _ => exact hgood
    | refused reached _ _ =>
      rw [hs, hl] at reached
      rw [hp, hb]
      exact hreport _ _ _ reached hgood
    | goesOn reached _ inv follows _ _ _ =>
      rw [hs, hl] at reached
      rw [hp, hb]
      exact loop_keeps clock report hreport steps _ _ _ inv (follows.schedule.trans hs)
        (follows.limits.trans hl) (follows.plan.trans hp) (follows.baseline.trans hb)
        (hreport _ _ _ reached hgood)

/-- Where nothing stops or interrupts an execution, it ends when no action can be started. -/
theorem loop_ended (clock : DateTime) {report : ExecutionResult → σ → Reception × σ}
    (hreport : ∀ result context, (report result context).1.failure? = none ∧
      (report result context).1.stop = false) :
    ∀ (steps : Nat) (e : Execution) (sandbox : Sandbox) (context : σ), Inv start e sandbox →
      Saturated e → e.stopped = false → e.interrupts.stopAt = none → e.interrupts.cancelAt = [] →
      0 < e.limits.concurrency → Run.unsettled e.schedule e.run < steps →
      ∃ run sandbox', Reached e.schedule e.limits start (run, sandbox') ∧
        Run.Ended e.schedule e.limits.concurrency (e.schedule.outcomes e.limits start) run ∧
        (loop clock report steps e sandbox context).1
          = .finished (run.result e.plan e.baseline false)
  | 0, _, _, _, _, _, _, _, _, _, hsteps => absurd hsteps (Nat.not_lt_zero _)
  | steps + 1, e, sandbox, context, h, hsat, hstopped, hstop, hcancel, hlimit, hsteps => by
    have hadvanced := advance_spec h clock report context
    rw [loop]
    generalize e.advance clock report sandbox context = answer at *
    cases hadvanced with
    | idle flights =>
      have hidle := h.running_eq_nil flights
      have hready : ∀ i, Run.isReady e.schedule e.run i = false := by
        rcases hsat with hs | hfull | hready
        · rw [hstopped] at hs
          cases hs
        · rw [hidle] at hfull
          exact absurd hlimit (by simpa using hfull)
        · exact hready
      have hdecided := h.run.decided h.lawful hidle hready
      refine ⟨e.run, sandbox, h.reached, (Run.ended_iff hlimit).mpr ⟨hidle, hready⟩, ?_⟩
      rw [finish, hdecided.cancelPending_eq, hdecided.anyPending_eq_false]
    | cancelled cancel _ _ => exact absurd hcancel cancel
    | refused _ failure _ =>
      rw [(hreport _ _).1] at failure
      cases failure
    | @goesOn run _ _ _ _ _ inv follows saturated fewer stopped =>
      have hstopped' := stopped hstop
      rw [hstopped, (hreport _ _).2] at hstopped'
      rw [← follows.interrupts] at hstop hcancel
      have := loop_ended clock hreport steps _ _
        (report (run.result e.plan e.baseline false) context).2 inv saturated hstopped' hstop
        hcancel (follows.limits ▸ hlimit) (by rw [follows.schedule]; omega)
      rwa [follows.schedule, follows.limits, follows.plan, follows.baseline] at this

theorem complete_eq (clock : DateTime) (report : ExecutionResult → σ → Reception × σ)
    (e : Execution) (sandbox : Sandbox) (context : σ) :
    e.complete clock report sandbox context =
      loop clock report ((e.launch clock sandbox).1.schedule.size + 1) (e.launch clock sandbox).1
        (e.launch clock sandbox).2 context := rfl

variable {s : Schedule} {limits : Limits} (hs : s.Lawful) (plan : Plan) (baseline : List Resource)
  (start : Sandbox) (now : Instant) (clock : DateTime)

include hs

theorem init_inv (interrupts : Interrupts) (stopped : Bool) :
    Inv start (init plan baseline s limits interrupts stopped now) start :=
  ⟨hs, .refl, by simp [init], fun i => by simp [init, Run.init], fun f hf => by simp [init] at hf,
    fun f hf => by simp [init] at hf⟩

/-- **An execution goes through steps of its schedule until nothing is running**, unless its task is
cancelled once more while it waits. -/
theorem complete_ends (interrupts : Interrupts) (stopped : Bool)
    (report : ExecutionResult → σ → Reception × σ) (context : σ) :
    Ends (init plan baseline s limits interrupts stopped now) start
      ((init plan baseline s limits interrupts stopped now).complete clock report start context).1
      ((init plan baseline s limits interrupts stopped now).complete clock report start
        context).2.1 := by
  have hinit : Inv start (init plan baseline s limits interrupts stopped now) start :=
    init_inv hs plan baseline start now interrupts stopped
  obtain ⟨hinv, hfollows, _, _⟩ := launch_spec hinit clock
  refine (loop_ends clock report _ _ _ context hinv ?_).of_follows hfollows
  exact Nat.lt_succ_of_le (Run.unsettled_le_size _ _)

/-- **What every report keeps of its context an execution keeps**, however it ends. -/
theorem complete_keeps (interrupts : Interrupts) (stopped : Bool)
    (report : ExecutionResult → σ → Reception × σ) (Good : σ → Prop)
    (hreport : ∀ run sandbox context, Reached s limits start (run, sandbox) → Good context →
      Good (report (run.result plan baseline false) context).2)
    {context : σ} (hgood : Good context) :
    Good ((init plan baseline s limits interrupts stopped now).complete clock report start
      context).2.2 := by
  have hinit : Inv start (init plan baseline s limits interrupts stopped now) start :=
    init_inv hs plan baseline start now interrupts stopped
  obtain ⟨hinv, hfollows, _, _⟩ := launch_spec hinit clock
  exact loop_keeps clock report hreport _ _ _ context hinv hfollows.schedule hfollows.limits
    hfollows.plan hfollows.baseline hgood

/-- **Where every report is received, an execution finishes**, or keeps what it has done when its
task is cancelled. -/
theorem complete_received {interrupts : Interrupts} (stopped : Bool)
    {report : ExecutionResult → σ → Reception × σ} {Good : σ → Prop}
    (hreport : ∀ run sandbox context, Reached s limits start (run, sandbox) → Good context →
      (report (run.result plan baseline false) context).1.failure? = none ∧
      Good (report (run.result plan baseline false) context).2)
    {context : σ} (hgood : Good context) (hcancel : interrupts.cancelAt.length ≤ 1) :
    let answer :=
      (init plan baseline s limits interrupts stopped now).complete clock report start context
    Good answer.2.2 ∧ ((∃ result, answer.1 = .finished result) ∨
      interrupts.cancelAt ≠ [] ∧ ∃ left, answer.1 = .interrupted (.cancelled "") (some left) []) := by
  have hinit : Inv start (init plan baseline s limits interrupts stopped now) start :=
    init_inv hs plan baseline start now interrupts stopped
  obtain ⟨hinv, hfollows, _, _⟩ := launch_spec hinit clock
  have := loop_received clock report hreport (s.size + 1) _ _ context hinv hfollows.schedule
    hfollows.limits hfollows.plan hfollows.baseline hgood
    (by rw [hfollows.interrupts]; exact hcancel)
  rw [hfollows.interrupts] at this
  intro answer
  have hanswer : answer = _ := complete_eq clock report _ start context
  rw [hanswer, hfollows.schedule]
  exact this

/-- **An execution that nothing stops or interrupts goes on until no action can be started.** -/
theorem complete_ended (hlimit : 0 < limits.concurrency)
    {report : ExecutionResult → σ → Reception × σ}
    (hreport : ∀ result context, (report result context).1.failure? = none ∧
      (report result context).1.stop = false) (context : σ) :
    ∃ run sandbox, Reached s limits start (run, sandbox) ∧
      Run.Ended s limits.concurrency (s.outcomes limits start) run ∧
      ((init plan baseline s limits {} false now).complete clock report start context).1
        = .finished (run.result plan baseline false) := by
  have hinit : Inv start (init plan baseline s limits {} false now) start :=
    init_inv hs plan baseline start now {} false
  obtain ⟨hinv, hfollows, hsat, hstopped⟩ := launch_spec hinit clock
  have := loop_ended clock hreport (s.size + 1) _ _ context hinv hsat (hstopped rfl)
    (by rw [hfollows.interrupts]; rfl) (by rw [hfollows.interrupts]; rfl)
    (by rw [hfollows.limits]; exact hlimit)
    (by rw [hfollows.schedule]; exact Nat.lt_succ_of_le (Run.unsettled_le_size _ _))
  rw [hfollows.schedule, hfollows.limits, hfollows.plan, hfollows.baseline] at this
  rw [complete_eq, hfollows.schedule]
  exact this

end Execution

end Rollout
