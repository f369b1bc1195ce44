import Rollout.Proofs.Execution.Course

/-!
# When an execution starts its actions

* `Execution.Leaves`, `Reported`, `Timely`, `Event.call?` : what can be seen of a course: how the
  execution ends, what it reports and how that is received, when things happen, and the calls on the
  backends;
* `Execution.Past`, `Execution.Took` : the course that an execution under way, or a whole one, has
  taken;
* `Past.launch`, `Past.settleEnded`, `Past.advance` : the executor goes on along a course;
* `Execution.starts_guarded` : whatever happens, every execution takes a course, and no course starts
  an action too early, twice, or after it was stopped or interrupted.
-/

set_option autoImplicit false

namespace Rollout

namespace Event

/-- The call that an event makes on a backend of a sandbox: starting an action makes one, if there is
a backend for it. -/
def call? (s : Schedule) (start : Sandbox) : Event → Option (Call × String)
  | .start i _ => (s.actions[i]?).bind fun c =>
    if start.serves.contains c.resource.backend then some (Sandbox.callOf c, c.resource.id) else none
  | _ => none

/-- What an event makes of the actions in flight. -/
def fly (s : Schedule) (limits : Limits) (start : Sandbox) (flights : List Flight) :
    Event → List Flight
  | .start i at_ =>
    flights ++ ((s.actions[i]?).map fun c => (Flight.launch limits at_ i c start).1).toList
  | .settle i => flights.filter fun f => f.index ≠ i
  | _ => flights

/-- What an event makes of the time: waking up moves it on. -/
def time (now : Instant) : Event → Instant
  | .wake at_ => at_
  | _ => now

/-- Whether an event comes at its time: an action starts at once, and an execution wakes up when the
first action in flight has ended. -/
def IsTimely (flights : List Flight) (now : Instant) : Event → Prop
  | .start _ at_ => at_ = now
  | .wake at_ => (Flight.firstEnd? flights).map (Instant.later 2) = some at_
  | _ => True

end Event

/-- Events that come at their times, with the actions in flight and the time after them. -/
inductive Timely (s : Schedule) (limits : Limits) (start : Sandbox) (first : Instant) :
    List Event → List Flight → Instant → Prop
  | init : Timely s limits start first [] [] first
  | snoc {events : List Event} {flights : List Flight} {now : Instant} {e : Event}
      (before : Timely s limits start first events flights now) (timely : e.IsTimely flights now) :
      Timely s limits start first (events ++ [e]) (e.fly s limits start flights) (e.time now)

variable {σ : Type}

/-- Reports that have been made one after the other, each with its reception, and what has become of
the context. -/
inductive Reported (report : ExecutionResult → σ → Reception × σ) (context : σ) :
    List (ExecutionResult × Reception) → σ → Prop
  | init : Reported report context [] context
  | snoc {made : List (ExecutionResult × Reception)} {context' : σ}
      (before : Reported report context made context') (result : ExecutionResult) :
      Reported report context (made ++ [(result, (report result context').1)])
        (report result context').2

section Events

variable {s : Schedule} {limits : Limits} {start : Sandbox} {first now : Instant}
  {events more : List Event} {flights : List Flight}

/-- Only starting an action makes a call. -/
theorem filterMap_call?_of_started? (h : ∀ e ∈ more, e.started? = none) :
    more.filterMap (Event.call? s start) = [] := by
  refine List.filterMap_eq_nil_iff.mpr fun e he => ?_
  have := h e he
  cases e with
  | start i at_ => cases this
  | _ => rfl

theorem start_notMem_of_started? (h : ∀ e ∈ more, e.started? = none) (i : Nat) (at_ : Instant) :
    .start i at_ ∉ more := by
  intro hmem
  cases h _ hmem

/-- The call that starting an action makes. -/
theorem filterMap_call?_start {i : Nat} {c : Change} (hc : s.actions[i]? = some c) (at_ : Instant) :
    [Event.start i at_].filterMap (Event.call? s start) =
      (if start.serves.contains c.resource.backend then
        some (Sandbox.callOf c, c.resource.id) else none).toList := by
  have hcall : Event.call? s start (.start i at_) =
      if start.serves.contains c.resource.backend then
        some (Sandbox.callOf c, c.resource.id) else none := by
    rw [Event.call?, hc, Option.bind_some]
  rw [← hcall]
  cases h : Event.call? s start (.start i at_) with
  | none => rw [List.filterMap_cons_none h, List.filterMap_nil, Option.toList_none]
  | some call => rw [List.filterMap_cons_some h, List.filterMap_nil, Option.toList_some]

/-- The ends of some actions are no starts, no reports, and close nothing. -/
theorem settles_spec (ended : List Flight) :
    ∀ e ∈ ended.map fun f => Event.settle f.index,
      e.started? = none ∧ e.report? = none ∧ e.closes = false := by
  intro e he
  obtain ⟨f, _, rfl⟩ := List.mem_map.mp he
  exact ⟨rfl, rfl, rfl⟩

/-- Once some actions have ended, the others are in flight. -/
theorem Timely.settles (h : Timely s limits start first events flights now) :
    ∀ ended : List Flight, Timely s limits start first
      (events ++ ended.map fun f => .settle f.index)
      (flights.filter fun f => f.index ∉ ended.map Flight.index) now := by
  intro ended
  induction ended using List.reverseRecOn with
  | nil => simpa using h
  | append_singleton ended f ih =>
    have hone := ih.snoc (e := .settle f.index) trivial
    have hfly : (flights.filter fun g => g.index ∉ (ended ++ [f]).map Flight.index) =
        Event.fly s limits start (flights.filter fun g => g.index ∉ ended.map Flight.index)
          (.settle f.index) := by
      rw [Event.fly, List.filter_filter]
      refine List.filter_congr fun g _ => ?_
      rw [Bool.eq_iff_iff]
      simp only [List.map_append, List.map_cons, List.map_nil, List.mem_append, List.mem_singleton,
        not_or, ne_eq, Bool.and_eq_true, decide_eq_true_eq]
      exact and_comm
    rw [hfly, List.map_append, ← List.append_assoc]
    exact hone

end Events

/-- Actions that run can all end, one after the other. -/
theorem Course.settles {plan : Plan} {baseline : List Resource} {s : Schedule} {limit : Int}
    {outcome : Nat → Outcome} (clock : DateTime) : ∀ (ended : List Flight) (events : List Event)
      (run : Run), Course plan baseline s limit outcome events run →
      (ended.map Flight.index).Nodup →
      (∀ f ∈ ended, f.index ∈ run.running ∧ f.outcome = outcome f.index) →
      Course plan baseline s limit outcome (events ++ ended.map fun f => .settle f.index)
        (run.settleAll s clock (Flight.outcomes ended))
  | [], events, run, h, _, _ => by
    rw [List.map_nil, List.append_nil]
    exact h
  | f :: ended, events, run, h, hnodup, hflights => by
    obtain ⟨hnot, hnodup⟩ := List.nodup_cons.mp hnodup
    obtain ⟨hf, houtcome⟩ := hflights f (by simp)
    have hone : Course plan baseline s limit outcome (events ++ [.settle f.index])
        (run.settle s clock (f.index, f.outcome)) := by
      rw [houtcome]
      exact h.snoc (.settle clock hf)
    have hrest := settles clock ended _ _ hone hnodup fun g hg => by
      obtain ⟨hg', hgoutcome⟩ := hflights g (List.mem_cons_of_mem _ hg)
      refine ⟨?_, hgoutcome⟩
      rw [Run.settle_running]
      have hne : g.index ≠ f.index := fun heq => hnot (heq ▸ List.mem_map_of_mem hg)
      exact (List.mem_erase_of_ne hne).mpr hg'
    rw [List.append_assoc, List.singleton_append] at hrest
    exact hrest

namespace Flight

/-- Starting an action in a sandbox that behaves alike makes the same flight of it, and logs the call
that is made for it. -/
theorem launch_log {start s : Sandbox} (h : start.Alike s) (limits : Limits) (now : Instant)
    (i : Nat) (c : Change) :
    (launch limits now i c s).1 = (launch limits now i c start).1 ∧
      (launch limits now i c s).2.calls = s.calls ++
        (if start.serves.contains c.resource.backend then
          some (Sandbox.callOf c, c.resource.id) else none).toList := by
  unfold launch
  simp only [h.serves, h.delay]
  by_cases hserves : start.serves.contains c.resource.backend = true
  · simp only [hserves, Bool.not_true, Bool.false_eq_true, if_false, if_true, Option.toList_some]
    split
    · exact ⟨rfl, rfl⟩
    · refine ⟨?_, rfl⟩
      simp [Sandbox.perform, Sandbox.log, h.failure, Sandbox.answerOf, h.answer]
  · simp only [Bool.not_eq_true] at hserves
    simp only [hserves, Bool.not_false, if_true, Bool.false_eq_true, if_false, Option.toList_none,
      List.append_nil, and_self]

/-- Actions that take effect make no calls. -/
theorem land_calls : ∀ (flights : List Flight) (s : Sandbox), (land flights s).calls = s.calls
  | [], _ => rfl
  | f :: flights, s => by
    have haffect : (s.affect f.effect).calls = s.calls := by
      unfold Sandbox.affect Sandbox.changeHeld
      split
      · rfl
      · split <;> rfl
      · split <;> rfl
    rw [← haffect]
    exact land_calls flights (s.affect f.effect)

end Flight

namespace Execution

/-- What an execution leaves of a run: the result of all actions, those given up that were not
started; or, where its task was cancelled once more, nothing but the actions that are running. -/
def Leaves (plan : Plan) (baseline : List Resource) (run : Run) : Ending → Prop
  | .finished result => result = run.cancelPending.result plan baseline run.anyPending
  | .interrupted _ (some left) adrift =>
    left = run.cancelPending.result plan baseline true ∧ adrift = []
  | .interrupted _ none adrift => ∀ i, i ∈ run.running ↔ i ∈ adrift.map Flight.index

/-- No action is started by these events that the execution `e₀` was to keep from starting: not if it
is stopped from the beginning, not after the time at which it is to be stopped, and not after the time
at which its task is to be cancelled. -/
structure Heeds (e₀ : Execution) (events : List Event) : Prop where
  stopped : e₀.stopped = true → ∀ i at_, .start i at_ ∉ events
  stop : ∀ t, e₀.interrupts.stopAt = some t → ∀ i at_, .start i at_ ∈ events →
    (Instant.mk t 0).before at_ = false
  cancel : ∀ t, e₀.interrupts.cancelAt.head? = some t → (Instant.mk t 0).before e₀.now = false →
    ∀ i at_, .start i at_ ∈ events → (Instant.mk t 0).before at_ = false

/-- The course that an execution under way has taken since its beginning `e₀`. -/
structure Past (e₀ : Execution) (start : Sandbox) (report : ExecutionResult → σ → Reception × σ)
    (context₀ : σ) (e : Execution) (sandbox : Sandbox) (context : σ) (events : List Event) :
    Prop where
  inv : Inv start e sandbox
  follows : Follows start e₀ start e sandbox
  course : Course e₀.plan e₀.baseline e₀.schedule e₀.limits.concurrency
    (e₀.schedule.outcomes e₀.limits start) events e.run
  timely : Timely e₀.schedule e₀.limits start e₀.now events e.flights e.now
  calls : sandbox.calls = start.calls ++ events.filterMap (Event.call? e₀.schedule start)
  reports : Reported report context₀ (events.filterMap Event.report?) context
  closed : ∀ event ∈ events, event.closes = true → e.stopped = true
  stopped : e₀.stopped = true → e.stopped = true
  uncancelled : ∀ t, e₀.interrupts.cancelAt.head? = some t → (Instant.mk t 0).before e₀.now = false →
    (Instant.mk t 0).before e.now = false
  heeds : Heeds e₀ events

/-- The course that a whole execution has taken: it accounts for how the execution ended, for the
times of what happened, for the calls that were made and for the reports, and heeds every request to
start nothing more. -/
structure Took (e₀ : Execution) (start : Sandbox) (report : ExecutionResult → σ → Reception × σ)
    (context₀ : σ) (answer : Ending × Sandbox × σ) (events : List Event) : Prop where
  course : ∃ run, Course e₀.plan e₀.baseline e₀.schedule e₀.limits.concurrency
    (e₀.schedule.outcomes e₀.limits start) events run ∧ Leaves e₀.plan e₀.baseline run answer.1
  timely : ∃ flights now, Timely e₀.schedule e₀.limits start e₀.now events flights now
  calls : answer.2.1.calls = start.calls ++ events.filterMap (Event.call? e₀.schedule start)
  reports : Reported report context₀ (events.filterMap Event.report?) answer.2.2
  interrupted : ∀ cause left adrift, answer.1 = .interrupted cause left adrift →
    ∃ event ∈ events, event.interrupts = true
  heeds : Heeds e₀ events

variable {e₀ e e' : Execution} {start sandbox sandbox' : Sandbox}
  {report : ExecutionResult → σ → Reception × σ} {context₀ context context' : σ}
  {events more : List Event}

/-- Events that start nothing keep heeding. -/
theorem Heeds.append (h : Heeds e₀ events) (hstart : ∀ event ∈ more, event.started? = none) :
    Heeds e₀ (events ++ more) := by
  have hold : ∀ {i : Nat} {at_ : Instant}, .start i at_ ∈ events ++ more → .start i at_ ∈ events := by
    intro i at_ hmem
    rcases List.mem_append.mp hmem with hmem | hmem
    · exact hmem
    · exact absurd hmem (start_notMem_of_started? hstart i at_)
  exact ⟨fun h₀ i at_ hmem => h.stopped h₀ i at_ (hold hmem),
    fun t ht i at_ hmem => h.stop t ht i at_ (hold hmem),
    fun t ht hlate i at_ hmem => h.cancel t ht hlate i at_ (hold hmem)⟩

/-- An execution goes on with events that start nothing. -/
theorem Past.append (h : Past e₀ start report context₀ e sandbox context events)
    (hinv : Inv start e' sandbox') (hfollows : Follows start e sandbox e' sandbox')
    (hcourse : Course e₀.plan e₀.baseline e₀.schedule e₀.limits.concurrency
      (e₀.schedule.outcomes e₀.limits start) (events ++ more) e'.run)
    (htimely : Timely e₀.schedule e₀.limits start e₀.now (events ++ more) e'.flights e'.now)
    (hstart : ∀ event ∈ more, event.started? = none) (hcalls : sandbox'.calls = sandbox.calls)
    (hreports : Reported report context₀ ((events ++ more).filterMap Event.report?) context')
    (hclosed : ∀ event ∈ more, event.closes = true → e'.stopped = true)
    (hstopped : e.stopped = true → e'.stopped = true)
    (hcancel : ∀ t, e₀.interrupts.cancelAt.head? = some t →
      (Instant.mk t 0).before e.now = false → (Instant.mk t 0).before e'.now = false) :
    Past e₀ start report context₀ e' sandbox' context' (events ++ more) := by
  refine ⟨hinv, h.follows.trans hfollows, hcourse, htimely, ?_, hreports, fun event hevent hcloses => ?_,
    fun h₀ => hstopped (h.stopped h₀), fun t ht hlate => hcancel t ht (h.uncancelled t ht hlate),
    h.heeds.append hstart⟩
  · rw [hcalls, h.calls, List.filterMap_append, filterMap_call?_of_started? hstart, List.append_nil]
  · rcases List.mem_append.mp hevent with hevent | hevent
    · exact hstopped (h.closed event hevent hcloses)
    · exact hclosed event hevent hcloses

/-- Events that are no reports leave the reports as they are. -/
theorem Past.reports_append (h : Past e₀ start report context₀ e sandbox context events)
    (hreport : ∀ event ∈ more, event.report? = none) :
    Reported report context₀ ((events ++ more).filterMap Event.report?) context := by
  rw [List.filterMap_append, List.filterMap_eq_nil_iff.mpr hreport, List.append_nil]
  exact h.reports

/-! ## Starting actions -/

/-- Nothing is started, or the next action that is ready. -/
theorem launchNext_cases (e : Execution) (sandbox : Sandbox) (clock : DateTime) :
    launchNext clock (e, sandbox) = (e, sandbox) ∨
      ∃ i c, e.stopped = false ∧ (e.run.running.length : Int) < e.limits.concurrency ∧
        Run.isReady e.schedule e.run i = true ∧ e.schedule.actions[i]? = some c ∧
        launchNext clock (e, sandbox) =
          ({ e with
              run := e.run.start clock i
              flights := e.flights ++ [(Flight.launch e.limits e.now i c sandbox).1] },
            (Flight.launch e.limits e.now i c sandbox).2) := by
  unfold launchNext
  simp only
  split
  · exact .inl rfl
  · rename_i hopen
    simp only [Bool.or_eq_true, decide_eq_true_eq, not_or, Bool.not_eq_true, not_le] at hopen
    cases hready : e.run.ready? e.schedule with
    | none => exact .inl rfl
    | some i =>
      cases hc : e.schedule.actions[i]? with
      | none => exact .inl (by simp only [hc])
      | some c =>
        refine .inr ⟨i, c, hopen.1, hopen.2, ?_, hc, by simp only [hc]⟩
        simpa using List.find?_some hready

theorem launchNext_inv (h : Inv start e sandbox) (clock : DateTime) :
    Inv start (launchNext clock (e, sandbox)).1 (launchNext clock (e, sandbox)).2 ∧
      Follows start e sandbox (launchNext clock (e, sandbox)).1
        (launchNext clock (e, sandbox)).2 := by
  by_cases hsat : Saturated e
  · rw [launchNext_of_saturated h hsat]
    exact ⟨h, .refl start e sandbox⟩
  · obtain ⟨hinv, hfollows, _⟩ := launchNext_spec h hsat clock
    exact ⟨hinv, hfollows⟩

/-- Once an execution is to be stopped, it is. -/
def InTime (e : Execution) : Prop :=
  ∀ t, e.interrupts.stopAt = some t → (Instant.mk t 0).before e.now = true → e.stopped = true

/-- What an execution that is not stopped starts at once, it may start. -/
theorem Past.heeds_start (h : Past e₀ start report context₀ e sandbox context events)
    (htime : InTime e) (hopen : e.stopped = false) (i : Nat) :
    Heeds e₀ (events ++ [.start i e.now]) := by
  have hnow : ∀ {j : Nat} {at_ : Instant}, .start j at_ ∈ events ++ [.start i e.now] →
      .start j at_ ∈ events ∨ at_ = e.now := by
    intro j at_ hmem
    rcases List.mem_append.mp hmem with hmem | hmem
    · exact .inl hmem
    · rw [List.mem_singleton, Event.start.injEq] at hmem
      exact .inr hmem.2
  constructor
  case stopped =>
    intro h₀
    rw [h.stopped h₀] at hopen
    cases hopen
  case stop =>
    intro t ht j at_ hmem
    rcases hnow hmem with hmem | rfl
    · exact h.heeds.stop t ht j at_ hmem
    · refine Bool.eq_false_iff.mpr fun hdue => ?_
      rw [htime t (by rw [h.follows.interrupts, ht]) hdue] at hopen
      cases hopen
  case cancel =>
    intro t ht hlate j at_ hmem
    rcases hnow hmem with hmem | rfl
    · exact h.heeds.cancel t ht hlate j at_ hmem
    · exact h.uncancelled t ht hlate

/-- **Starting the next action goes on along a course.** -/
theorem Past.launchNext (h : Past e₀ start report context₀ e sandbox context events)
    (htime : InTime e) (clock : DateTime) :
    ∃ all, Past e₀ start report context₀ (launchNext clock (e, sandbox)).1
        (launchNext clock (e, sandbox)).2 context all ∧
      InTime (launchNext clock (e, sandbox)).1 := by
  obtain ⟨hinv, hfollows⟩ := launchNext_inv h.inv clock
  rcases launchNext_cases e sandbox clock with heq | ⟨i, c, hopen, hroom, hready, hc, heq⟩
  · rw [heq]
    exact ⟨events, h, htime⟩
  · rw [heq] at hinv hfollows ⊢
    obtain ⟨hflight, hlog⟩ := Flight.launch_log h.inv.reached.alike e.limits e.now i c
    rw [h.follows.schedule] at hready hc
    have hcourse : Course e₀.plan e₀.baseline e₀.schedule e₀.limits.concurrency
        (e₀.schedule.outcomes e₀.limits start) (events ++ [.start i e.now])
        (e.run.start clock i) := by
      refine h.course.snoc (.start clock e.now (fun event hevent => ?_) hready ?_)
      · refine Bool.eq_false_iff.mpr fun hcloses => ?_
        rw [h.closed event hevent hcloses] at hopen
        cases hopen
      · rw [← h.follows.limits]
        exact hroom
    have htimely := h.timely.snoc (e := .start i e.now) rfl
    have hfly : Event.fly e₀.schedule e₀.limits start e.flights (.start i e.now) =
        e.flights ++ [(Flight.launch e.limits e.now i c sandbox).1] := by
      rw [Event.fly, hc, Option.map_some, Option.toList_some, hflight, h.follows.limits]
    rw [hfly] at htimely
    refine ⟨events ++ [.start i e.now], ⟨hinv, h.follows.trans hfollows, hcourse, htimely, ?_,
      h.reports_append (by simp [Event.report?]), fun event hevent hcloses => ?_, h.stopped,
      h.uncancelled, h.heeds_start htime hopen i⟩, htime⟩
    · rw [hlog, h.calls, List.append_assoc, List.filterMap_append, filterMap_call?_start hc]
    · rcases List.mem_append.mp hevent with hevent | hevent
      · exact h.closed event hevent hcloses
      · rw [List.mem_singleton.mp hevent] at hcloses
        cases hcloses

/-- As often as it is tried, starting actions goes on along a course. -/
theorem Past.foldl_launchNext (clock : DateTime) : ∀ (tries : List Change) {e : Execution}
    {sandbox : Sandbox} {events : List Event},
    Past e₀ start report context₀ e sandbox context events → InTime e →
      let state := tries.foldl (fun state _ => Execution.launchNext clock state) (e, sandbox)
      ∃ all, Past e₀ start report context₀ state.1 state.2 context all
  | [], _, _, events, h, _ => ⟨events, h⟩
  | _ :: tries, e, sandbox, _, h, htime => by
    obtain ⟨_, hone, htime'⟩ := h.launchNext htime clock
    rw [List.foldl_cons]
    generalize Execution.launchNext clock (e, sandbox) = state at *
    exact Past.foldl_launchNext clock tries hone htime'

/-- An execution is stopped in time, or goes on as it is. -/
theorem stopInTime_eq (e : Execution) : ∃ stopped, e.stopInTime = { e with stopped } ∧
    (e.stopped = true → stopped = true) ∧ InTime { e with stopped } := by
  unfold stopInTime
  cases ht : e.interrupts.stopAt with
  | none =>
    refine ⟨e.stopped, rfl, id, fun t ht' => ?_⟩
    rw [ht] at ht'
    cases ht'
  | some t =>
    refine ⟨_, rfl, fun hstopped => by simp [hstopped], fun t' ht' hdue => ?_⟩
    rw [ht, Option.some.injEq] at ht'
    subst ht'
    simp [hdue]

/-- **Starting all actions that may start goes on along a course**, which is stopped first if its time
has come. -/
theorem Past.launch (h : Past e₀ start report context₀ e sandbox context events)
    (clock : DateTime) :
    ∃ all, Past e₀ start report context₀ (e.launch clock sandbox).1 (e.launch clock sandbox).2
      context all := by
  have hlaunch : e.launch clock sandbox = e.schedule.actions.foldl
      (fun state _ => Execution.launchNext clock state) (e.stopInTime, sandbox) := rfl
  obtain ⟨stopped, heq, hkept, htime⟩ := stopInTime_eq e
  rw [hlaunch, heq]
  have hinv : Inv start { e with stopped } sandbox :=
    ⟨h.inv.lawful, h.inv.reached, h.inv.nodup, h.inv.mem_running, h.inv.outcome, h.inv.effect⟩
  have hfollows : Follows start e sandbox { e with stopped } sandbox :=
    ⟨rfl, rfl, rfl, rfl, rfl, .refl⟩
  by_cases hnew : stopped = true
  · have hpast : Past e₀ start report context₀ { e with stopped } sandbox context
        (events ++ [.stop]) :=
      h.append hinv hfollows (h.course.snoc .stop) (h.timely.snoc (e := .stop) trivial)
        (by simp [Event.started?]) rfl (h.reports_append (by simp [Event.report?]))
        (fun _ _ _ => hnew) hkept fun _ _ hlate => hlate
    exact hpast.foldl_launchNext clock e.schedule.actions htime
  · have hpast : Past e₀ start report context₀ { e with stopped } sandbox context events := by
      have hsame : { e with stopped } = e := by
        have hopen : e.stopped = stopped := by
          cases hs : e.stopped with
          | false => simpa using (Bool.eq_false_iff.mpr hnew).symm
          | true => exact absurd (hkept hs) hnew
        rw [← hopen]
      rw [hsame]
      exact h
    exact hpast.foldl_launchNext clock e.schedule.actions htime

/-! ## Ending actions -/

/-- An execution wakes up along its course. -/
theorem Past.wake (h : Past e₀ start report context₀ e sandbox context events) {wake : Instant}
    (hwake : e.wake? = some wake) (hcancel : e.cancelledBefore wake = false) :
    Past e₀ start report context₀ { e with now := wake } sandbox context
      (events ++ [.wake wake]) := by
  refine h.append
    ⟨h.inv.lawful, h.inv.reached, h.inv.nodup, h.inv.mem_running, h.inv.outcome, h.inv.effect⟩
    ⟨rfl, rfl, rfl, rfl, rfl, .refl⟩ (h.course.snoc (.wake wake))
    (h.timely.snoc (e := .wake wake) hwake) (by simp [Event.started?]) rfl
    (h.reports_append (by simp [Event.report?])) (by simp [Event.closes]) id fun t ht _ => ?_
  rw [← h.follows.interrupts] at ht
  obtain ⟨rest, hrest⟩ := List.head?_eq_some_iff.mp ht
  simpa [cancelledBefore, hrest] using hcancel

/-- What has ended when an execution wakes up is what its flights end by. -/
theorem filter_endsBy (h : Inv start e sandbox) (wake : Instant) :
    (e.flights.filter fun f =>
      f.index ∉ (e.flights.filter (Flight.endsBy wake)).map Flight.index) =
      e.flights.filter fun f => !f.endsBy wake := by
  refine List.filter_congr fun f hf => ?_
  have hiff : f.index ∈ (e.flights.filter (Flight.endsBy wake)).map Flight.index ↔
      f.endsBy wake = true := by
    constructor
    · intro hmem
      obtain ⟨g, hg, hindex⟩ := List.mem_map.mp hmem
      obtain ⟨hg, hends⟩ := List.mem_filter.mp hg
      rw [← List.inj_on_of_nodup_map h.nodup hg hf hindex]
      exact hends
    · intro hends
      exact List.mem_map_of_mem (List.mem_filter.mpr ⟨hf, hends⟩)
  cases hends : f.endsBy wake with
  | true => simp [hiff.mpr hends]
  | false =>
    have hnot := mt hiff.mp (Bool.eq_false_iff.mp hends)
    simp [hnot]

/-- **What has ended when an execution wakes up ends along its course.** -/
theorem Past.settleEnded (h : Past e₀ start report context₀ e sandbox context events)
    (clock : DateTime) {wake : Instant} (hnow : e.now = wake) :
    ∃ all, Past e₀ start report context₀ (e.settleEnded clock wake sandbox).1
      (e.settleEnded clock wake sandbox).2 context all := by
  obtain ⟨hinv, hfollows, _⟩ := settleEnded_spec h.inv clock wake
  have hsub : (e.flights.filter (Flight.endsBy wake)).Sublist e.flights := List.filter_sublist
  have hcourse := Course.settles clock (e.flights.filter (Flight.endsBy wake)) events e.run h.course
    (h.inv.nodup.sublist (hsub.map _)) fun f hf => by
      obtain ⟨hrunning, houtcome, _⟩ := h.inv.flight (hsub.subset hf)
      rw [h.follows.schedule, h.follows.limits] at houtcome
      exact ⟨hrunning, houtcome⟩
  have hrun : (e.settleEnded clock wake sandbox).1.run = e.run.settleAll e₀.schedule clock
      (Flight.outcomes (e.flights.filter (Flight.endsBy wake))) := by
    rw [← h.follows.schedule]
    rfl
  rw [← hrun] at hcourse
  have htimely := h.timely.settles (e.flights.filter (Flight.endsBy wake))
  rw [filter_endsBy h.inv, hnow] at htimely
  have hsettles := settles_spec (e.flights.filter (Flight.endsBy wake))
  refine ⟨_, h.append hinv hfollows hcourse htimely (fun event hevent => (hsettles event hevent).1)
    (Flight.land_calls _ sandbox) (h.reports_append fun event hevent => (hsettles event hevent).2.1)
    (fun event hevent hcloses => ?_) id fun t _ hlate => ?_⟩
  · rw [(hsettles event hevent).2.2] at hcloses
    cases hcloses
  · rw [hnow] at hlate
    exact hlate

/-- A report goes on along a course, unless it fails; it may stop the execution. -/
theorem Past.reported (h : Past e₀ start report context₀ e sandbox context events) {stopped : Bool}
    (hsuccess : (report (e.run.result e₀.plan e₀.baseline false) context).1.failure? = none)
    (hstopped : stopped =
      (e.stopped || (report (e.run.result e₀.plan e₀.baseline false) context).1.stop)) :
    Past e₀ start report context₀ { e with stopped } sandbox
      (report (e.run.result e₀.plan e₀.baseline false) context).2
      (events ++ [.report (e.run.result e₀.plan e₀.baseline false)
        (report (e.run.result e₀.plan e₀.baseline false) context).1]) := by
  refine h.append
    ⟨h.inv.lawful, h.inv.reached, h.inv.nodup, h.inv.mem_running, h.inv.outcome, h.inv.effect⟩
    ⟨rfl, rfl, rfl, rfl, rfl, .refl⟩ (h.course.snoc (.report _)) (h.timely.snoc trivial)
    (by simp [Event.started?]) rfl ?_ (fun event hevent hcloses => ?_) (fun hs => by simp [hstopped, hs])
    fun _ _ hlate => hlate
  · rw [List.filterMap_append]
    exact h.reports.snoc _
  · rw [List.mem_singleton.mp hevent, Event.closes, hsuccess] at hcloses
    simp only [Option.isSome_none, Bool.false_or] at hcloses
    simp [hstopped, hcloses]

/-! ## The end -/

/-- Cut short, an execution ends what is running, or drops it; it starts nothing any more. -/
theorem exists_interrupt (h : Inv start e sandbox) (hschedule : e.schedule = e₀.schedule)
    (hlimits : e.limits = e₀.limits) (hplan : e.plan = e₀.plan) (hbaseline : e.baseline = e₀.baseline)
    (hcourse : Course e₀.plan e₀.baseline e₀.schedule e₀.limits.concurrency
      (e₀.schedule.outcomes e₀.limits start) events e.run)
    {first now : Instant} {flights : List Flight}
    (htimely : Timely e₀.schedule e₀.limits start first events flights now) (clock : DateTime)
    (cause : Failure) :
    ∃ more run, Course e₀.plan e₀.baseline e₀.schedule e₀.limits.concurrency
        (e₀.schedule.outcomes e₀.limits start) (events ++ more) run ∧
      (∃ flights' now', Timely e₀.schedule e₀.limits start first (events ++ more) flights' now') ∧
      (∀ event ∈ more, event.started? = none ∧ event.report? = none) ∧
      Leaves e₀.plan e₀.baseline run (e.interrupt clock cause sandbox).1 ∧
      (e.interrupt clock cause sandbox).2.calls = sandbox.calls := by
  unfold interrupt
  rw [hplan, hbaseline]
  split
  · split
    · exact ⟨[.cancel], e.run, hcourse.snoc .cancel, ⟨_, _, htimely.snoc (e := .cancel) trivial⟩,
        by simp [Event.started?, Event.report?], h.mem_running, rfl⟩
    · refine ⟨e.flights.map fun f => .settle f.index, e.settleFlights clock, ?_,
        ⟨_, _, htimely.settles e.flights⟩, fun event hevent => ?_, ⟨rfl, rfl⟩,
        Flight.land_calls _ sandbox⟩
      · rw [settleFlights, hschedule]
        refine Course.settles clock e.flights events e.run hcourse h.nodup fun f hf => ?_
        obtain ⟨hrunning, houtcome, _⟩ := h.flight hf
        rw [hschedule, hlimits] at houtcome
        exact ⟨hrunning, houtcome⟩
      · obtain ⟨hstart, hreport, _⟩ := settles_spec e.flights event hevent
        exact ⟨hstart, hreport⟩
  · exact ⟨[], e.run, by rwa [List.append_nil], ⟨_, _, by rwa [List.append_nil]⟩, by simp,
      ⟨rfl, rfl⟩, rfl⟩

/-- An execution that is cut short has taken a course, on which an event has interrupted it. -/
theorem Past.interrupt {event : Event}
    (h : Past e₀ start report context₀ e sandbox context events) (hinv : Inv start e' sandbox)
    (hsame : e' = e ∨ e' = e.dropCancel)
    (hcourse : Course e₀.plan e₀.baseline e₀.schedule e₀.limits.concurrency
      (e₀.schedule.outcomes e₀.limits start) (events ++ [event]) e'.run)
    (htimely : event.IsTimely e.flights e.now) (hinterrupts : event.interrupts = true)
    (hreports : Reported report context₀ ((events ++ [event]).filterMap Event.report?) context')
    (clock : DateTime) (cause : Failure) :
    ∃ all, Took e₀ start report context₀ ((e'.interrupt clock cause sandbox).1,
      (e'.interrupt clock cause sandbox).2, context') all := by
  obtain ⟨hschedule, hlimits, hplan, hbaseline⟩ : e'.schedule = e₀.schedule ∧
      e'.limits = e₀.limits ∧ e'.plan = e₀.plan ∧ e'.baseline = e₀.baseline := by
    rcases hsame with rfl | rfl <;>
      exact ⟨h.follows.schedule, h.follows.limits, h.follows.plan, h.follows.baseline⟩
  obtain ⟨more, run, hmore, htime, hquiet, hleaves, hcalls⟩ := exists_interrupt hinv hschedule hlimits
    hplan hbaseline hcourse (h.timely.snoc htimely) clock cause
  have hstart : ∀ x ∈ event :: more, x.started? = none := by
    intro x hx
    rcases List.mem_cons.mp hx with rfl | hx
    · cases x with
      | start i at_ => cases hinterrupts
      | _ => rfl
    · exact (hquiet x hx).1
  rw [List.append_assoc, List.singleton_append] at hmore htime
  refine ⟨events ++ event :: more, ⟨⟨run, hmore, hleaves⟩, htime, ?_, ?_, fun _ _ _ _ =>
    ⟨event, by simp, hinterrupts⟩, h.heeds.append hstart⟩⟩
  · rw [hcalls, h.calls, List.filterMap_append, filterMap_call?_of_started? hstart, List.append_nil]
  · have hsplit : events ++ event :: more = events ++ [event] ++ more := by simp
    rw [hsplit, List.filterMap_append,
      List.filterMap_eq_nil_iff.mpr fun x hx => (hquiet x hx).2, List.append_nil]
    exact hreports

/-- An execution that ends by itself has taken a course. -/
theorem Past.finish (h : Past e₀ start report context₀ e sandbox context events) :
    Took e₀ start report context₀ (e.finish, sandbox, context) events := by
  refine ⟨⟨e.run, h.course, ?_⟩, ⟨_, _, h.timely⟩, h.calls, h.reports, fun _ _ _ hending => ?_,
    h.heeds⟩
  · rw [Execution.finish, h.follows.plan, h.follows.baseline]
    rfl
  · cases hending

/-- An execution goes on along a course, or has taken one. -/
def Along (e₀ : Execution) (start : Sandbox) (report : ExecutionResult → σ → Reception × σ)
    (context₀ : σ) : (Execution ⊕ Ending) × Sandbox × σ → Prop
  | (.inl e, sandbox, context) => ∃ events, Past e₀ start report context₀ e sandbox context events
  | (.inr ending, sandbox, context) =>
    ∃ events, Took e₀ start report context₀ (ending, sandbox, context) events

/-- **One wait of an execution goes on along its course, or ends it.** -/
theorem Past.advance (h : Past e₀ start report context₀ e sandbox context events)
    (clock : DateTime) :
    Along e₀ start report context₀ (e.advance clock report sandbox context) := by
  unfold Execution.advance
  split
  · exact ⟨events, h.finish⟩
  · rename_i wake hwake
    split
    · have hdrop : Inv start e.dropCancel sandbox :=
        ⟨h.inv.lawful, h.inv.reached, h.inv.nodup, h.inv.mem_running, h.inv.outcome, h.inv.effect⟩
      exact h.interrupt hdrop (.inr rfl) (h.course.snoc .cancel) trivial rfl
        (h.reports_append (by simp [Event.report?])) clock _
    · rename_i hcancel
      obtain ⟨all, hsettled⟩ :=
        (h.wake hwake (Bool.eq_false_iff.mpr hcancel)).settleEnded clock rfl
      have hsame : ({ e with now := wake } : Execution).settleEnded clock wake sandbox =
          e.settleEnded clock wake sandbox := rfl
      rw [hsame] at hsettled
      generalize e.settleEnded clock wake sandbox = state at *
      obtain ⟨e', sandbox'⟩ := state
      simp only at hsettled ⊢
      have hresult : e'.run.result e'.plan e'.baseline false =
          e'.run.result e₀.plan e₀.baseline false := by
        rw [hsettled.follows.plan, hsettled.follows.baseline]
      rw [hresult]
      cases hfail : (report (e'.run.result e₀.plan e₀.baseline false) context).1.failure? with
      | some cause =>
        refine hsettled.interrupt hsettled.inv (.inl rfl) (hsettled.course.snoc
          (.report (report (e'.run.result e₀.plan e₀.baseline false) context).1)) trivial ?_ ?_ clock
          cause
        · exact Option.isSome_iff_exists.mpr ⟨cause, hfail⟩
        · rw [List.filterMap_append]
          exact hsettled.reports.snoc _
      | none => exact (hsettled.reported hfail rfl).launch clock

/-! ## Whole executions -/

/-- However often an execution goes on, it has taken a course. -/
theorem Past.loop (clock : DateTime) : ∀ (steps : Nat) {e : Execution} {sandbox : Sandbox}
    {context : σ} {events : List Event},
    Past e₀ start report context₀ e sandbox context events →
      ∃ all, Took e₀ start report context₀ (loop clock report steps e sandbox context) all
  | 0, _, _, _, events, h => ⟨events, h.finish⟩
  | steps + 1, e, sandbox, context, _, h => by
    have hadvance := h.advance clock
    rw [Execution.loop]
    generalize e.advance clock report sandbox context = answer at hadvance
    obtain ⟨e' | ending, sandbox', context'⟩ := answer
    · obtain ⟨_, hpast⟩ := hadvance
      exact hpast.loop clock steps
    · exact hadvance

/-- **Every execution takes a course.** -/
theorem exists_took {plan : Plan} {baseline : List Resource} {s : Schedule} (hs : s.Lawful)
    (limits : Limits) (interrupts : Interrupts) (stopped : Bool) (now : Instant) (clock : DateTime)
    (report : ExecutionResult → σ → Reception × σ) (start : Sandbox) (context : σ) :
    ∃ events, Took (init plan baseline s limits interrupts stopped now) start report context
      ((init plan baseline s limits interrupts stopped now).complete clock report start context)
      events := by
  have hinit : Past (init plan baseline s limits interrupts stopped now) start report context
      (init plan baseline s limits interrupts stopped now) start context [] :=
    ⟨init_inv hs plan baseline start now interrupts stopped, .refl _ _ _, .init, .init, by simp,
      .init, by simp, id, fun t _ hlate => hlate, by simp, by simp, by simp⟩
  obtain ⟨_, hlaunched⟩ := hinit.launch clock
  rw [complete_eq]
  exact hlaunched.loop clock _

/-- **An execution never starts an action too early, twice, or after a stop.**  Whatever the backends
answer, whenever actions end, and whenever the execution is stopped or interrupted: no course of the
plan's schedule starts an action twice, with no room for it, after it was closed, or before what the
action needs has happened; and every execution takes such a course. -/
theorem starts_guarded {desired baseline : List Resource} {plan : Plan} {s : Schedule}
    (hcompute : Plan.compute desired baseline = .ok plan)
    (hschedule : Schedule.of? plan baseline = .ok s) :
    (∀ (limit : Int) (outcome : Nat → Outcome) (events : List Event) (run : Run),
      Course plan baseline s limit outcome events run →
      Course.Guarded plan baseline s limit outcome events) ∧
    ∀ {σ : Type} (limits : Limits) (interrupts : Interrupts) (stopped : Bool) (now : Instant)
      (clock : DateTime) (report : ExecutionResult → σ → Reception × σ) (start : Sandbox)
      (context : σ),
      ∃ events, Took (init plan baseline s limits interrupts stopped now) start report context
        ((init plan baseline s limits interrupts stopped now).complete clock report start context)
        events :=
  ⟨fun _ _ _ _ h => h.guarded hcompute hschedule, fun limits interrupts stopped now clock report
    start context => exists_took (Schedule.lawful_of hschedule) limits interrupts stopped now clock
      report start context⟩

end Execution

/-! ### A handover

The resource `r` no longer needs `x`, which is dropped, but `a`, which moves to another backend. -/

namespace Handover

/-- The recorded resources. -/
def recorded : List Resource :=
  [{ id := "x", backend := .kubernetes },
    { id := "r", backend := .kubernetes, attributes := [("n", .int 1)], dependsOn := ["x"] },
    { id := "a", backend := .kubernetes }]

/-- The desired ones. -/
def desired : List Resource :=
  [{ id := "r", backend := .kubernetes, attributes := [("n", .int 2)], dependsOn := ["a"] },
    { id := "a", backend := .terraform }]

/-- The plan. -/
def plan : Plan :=
  ⟨[{ id := "a", sides := .delete { id := "a", backend := .kubernetes }, replacement := true },
    { id := "x", sides := .delete { id := "x", backend := .kubernetes } },
    { id := "a", sides := .create { id := "a", backend := .terraform }, replacement := true },
    { id := "r", differences := [("n", ⟨.int 1, .int 2⟩)],
      sides := .update
        { id := "r", backend := .kubernetes, attributes := [("n", .int 1)], dependsOn := ["x"] }
        { id := "r", backend := .kubernetes, attributes := [("n", .int 2)], dependsOn := ["a"] } }]⟩

/-- Its schedule: `a` moves, then `r` is updated, then `x` is dropped. -/
def schedule : Schedule := ⟨plan.changes, [[], [3], [0], [2]], [0, 2, 3, 1]⟩

end Handover

namespace Execution

/-- The calls of the handover are those of a guarded course, although two actions may run at once. -/
theorem starts_guarded_handover :
    Plan.compute Handover.desired Handover.recorded = .ok Handover.plan ∧
      Schedule.of? Handover.plan Handover.recorded = .ok Handover.schedule ∧
      ∃ outcome events, Course.Guarded Handover.plan Handover.recorded Handover.schedule 2 outcome
          events ∧
        events.filterMap (Event.call? Handover.schedule {}) =
          [(.delete, "a"), (.apply, "a"), (.apply, "r"), (.delete, "x")] := by
  have hcompute : Plan.compute Handover.desired Handover.recorded = .ok Handover.plan := rfl
  have hschedule : Schedule.of? Handover.plan Handover.recorded = .ok Handover.schedule := rfl
  obtain ⟨hguarded, htook⟩ := starts_guarded hcompute hschedule
  obtain ⟨events, hevents⟩ := htook ⟨.whole 1, 2⟩ {} false default default
    (fun _ _ => (({} : Reception), ())) {} ()
  obtain ⟨run, hcourse, _⟩ := hevents.course
  exact ⟨hcompute, hschedule, _, events, hguarded 2 _ events run hcourse, hevents.calls.symm⟩

end Execution

end Rollout
