import Rollout.Execution.Executor
import Rollout.Proofs.Execution.Replan

/-!
# What was reported last

The end of every action is reported.  To start an action, or to give one up, confirms nothing; so what
an execution finishes with is what it has reported last, or what was recorded before it.

* `Run.Confirms` : a run in which no more has succeeded than in another one;
* `Plan.resultingState_congr` : a state tells only what has succeeded;
* `Execution.Waits`, `Execution.advance_waits` : one wait of an execution;
* `Execution.complete_told` : what a report leaves behind holds of what the execution finishes with.
-/

set_option autoImplicit false

namespace Rollout

namespace Plan

variable {p : Plan} {baseline : List Resource} {statuses statuses' : List Status} {c : Change}

/-- **A state tells only what has succeeded.** -/
theorem resultingState_congr (hkeys : (p.changes.map Change.key).Nodup)
    (h : ∀ i : Nat, statuses'[i]? = some .succeeded ↔ statuses[i]? = some .succeeded)
    (baseline : List Resource) (applied : List (Nat × Resource)) :
    p.resultingState baseline statuses' applied = p.resultingState baseline statuses applied := by
  have hconfirmed : ∀ c ∈ p.changes, c.action ≠ .noChange →
      p.confirmed statuses' c = p.confirmed statuses c := by
    intro c hc hno
    obtain ⟨i, hi⟩ := List.mem_iff_getElem?.mp (mem_actions_iff.mpr ⟨hc, hno⟩)
    rw [Bool.eq_iff_iff, confirmed_iff hkeys hi, confirmed_iff hkeys hi]
    exact h i
  have hremaining : p.remaining baseline statuses' = p.remaining baseline statuses := by
    unfold remaining
    refine List.filter_congr fun entry _ => congrArg not ?_
    rw [Bool.eq_iff_iff, List.any_eq_true, List.any_eq_true]
    refine exists_congr fun c => and_congr_right fun hc => ?_
    obtain ⟨hc, hdelete⟩ := List.mem_filter.mp hc
    rw [hconfirmed c hc (by rw [of_decide_eq_true hdelete]; decide)]
  have hkept : ∀ c ∈ p.changes, p.keptVersion statuses' (p.results applied)
      (p.remaining baseline statuses) c
        = p.keptVersion statuses (p.results applied) (p.remaining baseline statuses) c := by
    intro c hc
    unfold keptVersion
    cases hsides : c.sides with
    | delete r | noChange r d => rfl
    | create d | update r d =>
      have hno : c.action ≠ .noChange := by simp [Change.action, hsides, Sides.action]
      simp only [hconfirmed c hc hno]
  unfold resultingState
  simp only [hremaining]
  congr 1
  exact List.filterMap_congr fun c hc => hkept c (List.mem_of_mem_filter hc)

end Plan

namespace Run

variable {run run' run'' : Run} {s : Schedule} {i : Nat}

/-- A run in which the same actions have succeeded as in another one, with the same answers. -/
structure Confirms (run run' : Run) : Prop where
  applied : run'.applied = run.applied
  succeeded : ∀ i, run'.status? i = some .succeeded ↔ run.status? i = some .succeeded

theorem Confirms.refl (run : Run) : Confirms run run := ⟨rfl, fun _ => Iff.rfl⟩

theorem Confirms.trans (h : Confirms run run') (h' : Confirms run' run'') : Confirms run run'' :=
  ⟨h'.applied.trans h.applied, fun i => (h'.succeeded i).trans (h.succeeded i)⟩

/-- The state is the same in both. -/
theorem Confirms.state_eq (h : Confirms run run') {plan : Plan}
    (hkeys : (plan.changes.map Change.key).Nodup) (baseline : List Resource)
    (cancelled cancelled' : Bool) :
    (run'.result plan baseline cancelled').state = (run.result plan baseline cancelled).state := by
  have hstatuses : ∀ i : Nat, run'.statuses[i]? = some .succeeded ↔
      run.statuses[i]? = some .succeeded := by
    simpa only [statuses_getElem?] using h.succeeded
  simp only [result, h.applied]
  exact Plan.resultingState_congr hkeys hstatuses baseline run.applied

/-- To start an action confirms nothing. -/
theorem confirms_start (hready : isReady s run i = true) (now : DateTime) :
    Confirms run (run.start now i) := by
  have hpending : run.status? i = some .pending := (isReady_iff.mp hready).1
  have hi : i < run.records.length := by
    obtain ⟨r, hr, _⟩ := Option.map_eq_some_iff.mp hpending
    exact (List.getElem?_eq_some_iff.mp hr).1
  refine ⟨rfl, fun j => ?_⟩
  rw [status?_start now hi]
  split
  · rename_i hji
    simp [hji, hpending]
  · rfl

/-- To give actions up confirms nothing. -/
theorem confirms_cancelPending (run : Run) : Confirms run run.cancelPending :=
  ⟨rfl, fun i => by simpa only [statuses_getElem?] using cancelPending_succeeded run i⟩

end Run

namespace Execution

variable {σ : Type}

theorem confirms_launchNext (clock : DateTime) (state : Execution × Sandbox) :
    state.1.run.Confirms (launchNext clock state).1.run := by
  unfold launchNext
  simp only
  split
  · exact .refl _
  · split
    · exact .refl _
    · rename_i i hready
      split
      · exact .refl _
      · exact Run.confirms_start (List.find?_some hready) clock

/-- To start actions confirms nothing. -/
theorem confirms_launch (clock : DateTime) {e : Execution} {run : Run} (hrun : e.run = run)
    (s : Sandbox) : run.Confirms (e.launch clock s).1.run := by
  have hstop : e.stopInTime.run = run := by
    unfold stopInTime
    split <;> exact hrun
  unfold launch
  generalize e.schedule.actions = actions
  rw [← hstop]
  generalize e.stopInTime = first
  induction actions generalizing first s with
  | nil => exact .refl _
  | cons c rest ih =>
    exact (confirms_launchNext clock (first, s)).trans (ih (launchNext clock (first, s)).2 _)

theorem launch_origin (clock : DateTime) (e : Execution) (s : Sandbox) :
    (e.launch clock s).1.plan = e.plan ∧ (e.launch clock s).1.baseline = e.baseline := by
  have hnext : ∀ state : Execution × Sandbox, (launchNext clock state).1.plan = state.1.plan ∧
      (launchNext clock state).1.baseline = state.1.baseline := by
    intro state
    unfold launchNext
    simp only
    repeat' split
    all_goals exact ⟨rfl, rfl⟩
  have hstop : e.stopInTime.plan = e.plan ∧ e.stopInTime.baseline = e.baseline := by
    unfold stopInTime
    split <;> exact ⟨rfl, rfl⟩
  unfold launch
  generalize e.schedule.actions = actions
  rw [← hstop.1, ← hstop.2]
  generalize e.stopInTime = first
  induction actions generalizing first s with
  | nil => exact ⟨rfl, rfl⟩
  | cons c rest ih =>
    obtain ⟨hplan, hbaseline⟩ := ih (launchNext clock (first, s)).2 (launchNext clock (first, s)).1
    exact ⟨hplan.trans (hnext _).1, hbaseline.trans (hnext _).2⟩

theorem interrupt_ne_finished (clock : DateTime) (cause : Failure) (e : Execution) (s : Sandbox)
    (result : ExecutionResult) : (e.interrupt clock cause s).1 ≠ .finished result := by
  unfold interrupt
  repeat' split
  all_goals exact Ending.noConfusion

/-- **One wait**: nothing is running, or the execution is interrupted, or what has ended is reported, and
further actions may be started. -/
inductive Waits (report : ExecutionResult → σ → Reception × σ) (e : Execution) (s : Sandbox)
    (context : σ) : (Execution ⊕ Ending) × Sandbox × σ → Prop
  | idle : Waits report e s context (.inr e.finish, s, context)
  | interrupted {ending : Ending} {s' : Sandbox} {context' : σ}
      (unfinished : ∀ result, ending ≠ .finished result) :
      Waits report e s context (.inr ending, s', context')
  | reported {run : Run} {e' : Execution} {s' : Sandbox}
      (received : (report (run.result e.plan e.baseline false) context).1.failure? = none)
      (confirms : run.Confirms e'.run) (plan : e'.plan = e.plan)
      (baseline : e'.baseline = e.baseline) :
      Waits report e s context
        (.inl e', s', (report (run.result e.plan e.baseline false) context).2)

theorem advance_waits (clock : DateTime) (report : ExecutionResult → σ → Reception × σ)
    (e : Execution) (s : Sandbox) (context : σ) :
    Waits report e s context (e.advance clock report s context) := by
  unfold advance
  split
  · exact .idle
  split
  · exact .interrupted (interrupt_ne_finished clock _ _ _)
  · simp only
    split
    · exact .interrupted (interrupt_ne_finished clock _ _ _)
    · rename_i hreceived
      refine .reported hreceived (confirms_launch clock ?_ _) (launch_origin clock _ _).1
        (launch_origin clock _ _).2
      rfl

section

variable {plan : Plan} {baseline : List Resource} {report : ExecutionResult → σ → Reception × σ}
  {Told : Run → σ → Prop} {result : ExecutionResult}
  (hconfirms : ∀ run run' context, run.Confirms run' → Told run context → Told run' context)
  (hreport : ∀ run run' context, Told run context →
    (report (run'.result plan baseline false) context).1.failure? = none →
    Told run' (report (run'.result plan baseline false) context).2)

include hconfirms

theorem finish_told {e : Execution} {context : σ} (hplan : e.plan = plan)
    (hbaseline : e.baseline = baseline) (htold : Told e.run context)
    (h : e.finish = .finished result) :
    ∃ run cancelled, result = run.result plan baseline cancelled ∧ Told run context := by
  cases h
  exact ⟨_, _, by rw [hplan, hbaseline], hconfirms _ _ _ (Run.confirms_cancelPending e.run) htold⟩

include hreport

theorem loop_told (clock : DateTime) : ∀ (steps : Nat) (e : Execution) (s : Sandbox) (context : σ),
    e.plan = plan → e.baseline = baseline → Told e.run context →
    (loop clock report steps e s context).1 = .finished result →
      ∃ run cancelled, result = run.result plan baseline cancelled ∧
        Told run (loop clock report steps e s context).2.2
  | 0, _, _, _, hplan, hbaseline, htold, h => finish_told hconfirms hplan hbaseline htold h
  | steps + 1, e, s, context, hplan, hbaseline, htold, h => by
    have hwaits := advance_waits clock report e s context
    rw [loop] at h ⊢
    generalize e.advance clock report s context = answer at *
    cases hwaits with
    | idle => exact finish_told hconfirms hplan hbaseline htold h
    | interrupted unfinished => exact absurd h (unfinished result)
    | @reported run e' s' received confirms hplan' hbaseline' =>
      rw [hplan, hbaseline] at received h ⊢
      refine loop_told clock steps e' s' _ (hplan'.trans hplan) (hbaseline'.trans hbaseline) ?_ h
      exact hconfirms _ _ _ confirms (hreport _ run context htold received)

/-- **What a report leaves behind holds of what the execution finishes with**: of the state that was
reported last, or of the one that was recorded before. -/
theorem complete_told (schedule : Schedule) (limits : Limits) (interrupts : Interrupts)
    (stopped : Bool) (now : Instant) (clock : DateTime) (s : Sandbox) {context : σ}
    (htold : Told (.init schedule) context)
    (h : ((init plan baseline schedule limits interrupts stopped now).complete clock report s
      context).1 = .finished result) :
    ∃ run cancelled, result = run.result plan baseline cancelled ∧
      Told run ((init plan baseline schedule limits interrupts stopped now).complete clock report s
        context).2.2 := by
  have horigin := launch_origin clock
    (init plan baseline schedule limits interrupts stopped now) s
  exact loop_told hconfirms hreport clock _ _ _ context horigin.1 horigin.2
    (hconfirms _ _ _ (confirms_launch clock rfl s) htold) h

end

end Execution

end Rollout
