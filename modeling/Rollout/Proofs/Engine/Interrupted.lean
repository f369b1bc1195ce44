import Rollout.Proofs.Engine.History
import Rollout.Proofs.Execution.Applied

/-!
# Operations whose progress cannot be saved

An operation saves its release when it starts, after every wait, and when it ends.  When it cannot be
saved after one of the waits, the operation is interrupted: nothing more is started, what is running
comes to its end, and the release is saved once more, as failed, with what is left.

* `Engine.Ahead` : a release is under way whose store will fail at a later attempt to save it;
* `Engine.prepare_ahead` : how far an operation gets before it has to wait;
* `Engine.Ahead.checkpoint_cases` : a progress that is saved, and one that is not;
* `Execution.CutShort`, `Release.Interrupted` : what is left of the execution, and on the release;
* `Engine.perform_interrupted` : an operation whose progress cannot be saved ends so.
-/

set_option autoImplicit false

namespace Rollout

/-- What is left of an execution that was cut short when its records were the reported ones: no
action was started after that, and every action that was started came to its end. -/
structure Execution.CutShort (plan : Plan) (baseline : List Resource) (s : Schedule)
    (limits : Limits) (start sandbox : Sandbox) (reported : List ActionRecord)
    (left : ExecutionResult) : Prop where
  reached : ∃ run, Execution.Reached s limits start (run, sandbox) ∧ run.running = [] ∧
    left = run.cancelPending.result plan baseline true
  unstarted : left.records.map ActionRecord.origin = reported.map ActionRecord.origin
  accounted : Accounted plan baseline (s.outcomes limits start) left.records
  applies : plan.AppliesSucceeded baseline (s.answer? (s.outcomes limits start)) left.records
    left.state

/-- What is left is finite, if what was recorded, desired and answered is. -/
theorem Execution.CutShort.finite {plan : Plan} {desired baseline : List Resource} {s : Schedule}
    {limits : Limits} {start sandbox : Sandbox} {reported : List ActionRecord}
    {left : ExecutionResult} (h : CutShort plan baseline s limits start sandbox reported left)
    (hcompute : Plan.compute desired baseline = .ok plan)
    (hschedule : Schedule.of? plan baseline = .ok s) (hbase : ∀ x ∈ baseline, x.Finite)
    (hdesired : ∀ d ∈ desired, d.Finite)
    (hanswers : ∀ id x, start.answer? id = some (some x) → x.Finite) :
    ∀ x ∈ left.state, x.Finite := by
  obtain ⟨run, hreached, _, rfl⟩ := h.reached
  have hplan := Plan.compares_of hcompute
  exact forall_resultingState hcompute hschedule hbase
    (fun c hc x hd => hdesired x (hplan.of_desired hc hd).1) hanswers hreached _

/-- A release that records an operation that was interrupted, with what was left of it. -/
structure Release.Interrupted (t : Triple) (cause : Failure) (left : ExecutionResult)
    (r : Release) : Prop where
  triple : r.triple = t
  phase : r.phase = .failed
  error : r.error = some ("operation interrupted: " ++ cause.label)
  actions : r.actions = left.records
  state : r.state = some left.state

/-- So does its record, if the state that was left is finite. -/
theorem Release.Interrupted.dumped {t : Triple} {cause : Failure} {left : ExecutionResult}
    {r : Release} (h : r.Interrupted t cause left)
    (hfinite : left.state.map Resource.dumped = left.state) : r.dumped.Interrupted t cause left := by
  refine ⟨h.triple, h.phase, h.error, h.actions, ?_⟩
  simp only [Release.dumped, h.state, Option.map_some, hfinite]

namespace Engine

variable {σ : Type} [Keeper σ] {inner : Keeper.Reliable σ} {engine : Engine}
  {request : Request (WatchedStore σ)} {before : Kept} {t : Triple} {number : Nat}
  {cause : Failure} {r : Release} {s : WatchedStore σ} {plan : Plan}
  {spec baseline : List Resource} {schedule : Schedule} {sandbox sandbox' : Sandbox}

/-! ## A failure ahead -/

/-- A release is under way whose store will fail at one later attempt to save it. -/
structure Ahead (inner : Keeper.Reliable σ) (before : Kept) (t : Triple) (number : Nat)
    (cause : Failure) (context : Release × WatchedStore σ) : Prop where
  holds : inner.Holds before context.1 context.2.store
  triple : context.1.triple = t
  phase : context.1.phase.isMutating = true
  faults : context.2.faults = [number]
  fault : context.2.fault = cause
  early : context.2.attempts.length < number

/-- A release that is saved before the failure. -/
theorem Ahead.of_save {saved : Release} (hholds : inner.Holds before saved s.store)
    (hcontinues : saved.Continues r) (hproblems : r.problems = [])
    (hphase : r.phase.isMutating = true) (hfaults : s.faults = [number])
    (hearly : s.attempts.length + 1 < number) :
    ∃ s', Keeper.save r s = (.ok (), s') ∧
      Ahead inner before saved.triple number s.fault (r, s') ∧
      s'.attempts.length = s.attempts.length + 1 := by
  obtain ⟨store, hsave, hgood, hkept⟩ := hholds.save hcontinues hproblems
  have hnumber : s.attempts.length + 1 ∉ s.faults := by
    rw [hfaults, List.mem_singleton]
    omega
  refine ⟨_, WatchedStore.save_of_notMem hnumber hsave, ?_, by simp [WatchedStore.record]⟩
  have hopen := Release.isTerminal_of_isMutating hphase
  exact {
    holds := ⟨hgood, hkept, hopen⟩
    triple := hcontinues.triple
    phase := hphase
    faults := hfaults
    fault := rfl
    early := by simpa [WatchedStore.record] using hearly }

/-! ## Preparation -/

/-- A new release is under way, and starts with the state of the one before it. -/
theorem create_holds (hready : inner.Ready t s.store) (now : DateTime) :
    ∃ created store, Keeper.create now t s = (.ok created, { s with store }) ∧
      inner.Holds (inner.kept s.store) created store ∧ created.triple = t ∧
      created.phase = .generating ∧
      created.state = some (Release.lastState (inner.kept s.store t)) := by
  obtain ⟨revision, store, hcreate, hgood', hkept⟩ := WatchedStore.create_eq inner hready now
  exact ⟨_, store, hcreate, Keeper.Reliable.holds_new hgood' hkept, rfl, rfl, rfl⟩

/-- An operation gets ready to execute its plan, or has ended without another attempt to save. -/
inductive Prepares (inner : Keeper.Reliable σ) (engine : Engine)
    (request : Request (WatchedStore σ)) (plan : Plan) (schedule : Schedule) (number : Nat)
    (s : WatchedStore σ) : Prepared × WatchedStore σ → Prop
  | ended {made : Option Plan} {verdict : Verdict} {s' : WatchedStore σ}
      (attempts : s'.attempts.length ≤ s.attempts.length + 1) :
      Prepares inner engine request plan schedule number s (.ended made verdict, s')
  | executing {r : Release} {stopped : Bool} {now : Instant} {s' : WatchedStore σ}
      (ahead : Ahead inner (inner.kept s.store) request.triple number s.fault (r, s'))
      (resources : r.resources = Release.lastState (inner.kept s.store request.triple)) :
      Prepares inner engine request plan schedule number s
        (.executing r plan (.init plan r.resources schedule engine.limits request.interrupts
          stopped now), s')

/-- A new release whose operation is started, and saved, gets ready to execute its plan. -/
theorem prepares_of_created (engine : Engine) {created : Release} {store : σ} {r : Release}
    (hholds : inner.Holds (inner.kept s.store) created store)
    (htriple : created.triple = request.triple)
    (hresources : r.resources = Release.lastState (inner.kept s.store request.triple))
    (hcontinues : created.Continues r) (hproblems : r.problems = [])
    (hphase : r.phase.isMutating = true) (hfaults : s.faults = [number])
    (hearly : s.attempts.length + 1 < number)
    (hschedule : Schedule.of? plan (Release.lastState (inner.kept s.store request.triple))
      = .ok schedule) (now : Instant) :
    ∃ s', saveStarted (.ok r) { s with store } = (.ok r, s') ∧
      Prepares inner engine request plan schedule number s
        (engine.schedule request r plan now s') := by
  obtain ⟨s', hsave, hahead, hattempts⟩ :=
    Ahead.of_save (s := { s with store }) hholds hcontinues hproblems hphase hfaults hearly
  refine ⟨s', by simp only [saveStarted, hsave], ?_⟩
  unfold Engine.schedule
  cases engine.limits.check with
  | error e => exact .ended hattempts.le
  | ok _ =>
    simp only [hresources, hschedule]
    rw [← hresources]
    rw [htriple] at hahead
    exact .executing hahead hresources

/-- An operation ends where there is no room for its release. -/
theorem prepare_refused (engine : Engine) (hgood : inner.Good s.store)
    (hroom : ¬ inner.Room request.triple s.store) (htask : ∀ p live, request.task ≠ .preview p live)
    (now : Instant) :
    Prepares inner engine request plan schedule number s (engine.prepare request now s) := by
  obtain ⟨e, store, hcreate, _, _⟩ := inner.refuse engine.clock request.triple s.store hgood hroom
  have hcreate : Keeper.create engine.clock request.triple s = (.error e, { s with store }) := by
    simp [Keeper.create, hcreate]
  unfold prepare
  cases hrequest : request.task with
  | preview p live => exact absurd hrequest (htask p live)
  | apply p =>
    simp only [prepareSpec, hcreate]
    exact .ended (Nat.le_succ _)
  | destroy =>
    simp only [prepareDestroy]
    cases Keeper.latest request.triple s with
    | error e => exact .ended (Nat.le_succ _)
    | ok latest =>
      cases latest with
      | none => exact .ended (Nat.le_succ _)
      | some _ =>
        simp only [hcreate]
        exact .ended (Nat.le_succ _)

/-- **How far an operation gets before it has to wait**, if its plan can be executed. -/
theorem prepare_ahead (engine : Engine) (hgood : inner.Good s.store)
    (htask : ∀ p live, request.task ≠ .preview p live)
    (hdesired : request.task.desired = .ok spec)
    (hcompute : Plan.compute spec (Release.lastState (inner.kept s.store request.triple)) = .ok plan)
    (hschedule : Schedule.of? plan (Release.lastState (inner.kept s.store request.triple))
      = .ok schedule) (hfaults : s.faults = [number]) (hearly : s.attempts.length + 1 < number)
    (now : Instant) :
    Prepares inner engine request plan schedule number s (engine.prepare request now s) := by
  by_cases hroom : inner.Room request.triple s.store
  case neg => exact prepare_refused engine hgood hroom htask now
  obtain ⟨created, store, hcreate, hholds, htriple, hphase, hstate⟩ :=
    create_holds ⟨hgood, hroom⟩ engine.clock
  have hresources : created.resources
      = Release.lastState (inner.kept s.store request.triple) := by
    rw [Release.resources, hstate, Option.getD_some]
  unfold prepare
  cases hrequest : request.task with
  | preview p live => exact absurd hrequest (htask p live)
  | apply p =>
    have hrun : p.run = .ok spec := by
      rw [hrequest] at hdesired
      exact hdesired
    obtain ⟨⟨spec', hrun', _, _, hnamed⟩, _⟩ := plans_of_compute hrun hcompute
    rw [hrun, Except.ok.injEq] at hrun'
    subst hrun'
    obtain ⟨s', hsaved, hprepares⟩ := prepares_of_created engine (r := { created with
        spec := some spec, phase := Operation.apply.phase, modifiedTime := engine.clock })
      hholds htriple hresources ⟨rfl, rfl⟩
      (Release.problems_of_spec hholds.readable hnamed rfl rfl rfl) rfl hfaults hearly hschedule now
    have hstart := startWith_eq engine spec .apply hphase
    simp only [prepareSpec, hcreate, generate, hrun, hresources, hcompute, hstart, hsaved]
    exact hprepares
  | destroy =>
    have hspec : spec = [] := by
      rw [hrequest] at hdesired
      cases hdesired
      rfl
    subst hspec
    obtain ⟨s', hsaved, hprepares⟩ := prepares_of_created engine (r := { created with
        phase := .destroying, modifiedTime := engine.clock })
      hholds htriple hresources ⟨rfl, rfl⟩
      (Release.problems_congr hholds.readable rfl rfl rfl) rfl hfaults hearly hschedule now
    have hstart := startDestroy_eq engine.clock hphase
    simp only [prepareDestroy]
    cases Keeper.latest request.triple s with
    | error e => exact .ended (Nat.le_succ _)
    | ok latest =>
      cases latest with
      | none => exact .ended (Nat.le_succ _)
      | some _ =>
        simp only [hcreate, hresources, hcompute, hstart, hsaved]
        exact hprepares

/-! ## Progress -/

/-- **A progress is saved, unless its attempt is the one to fail.** -/
theorem Ahead.checkpoint_cases (h : Ahead inner before t number cause (r, s))
    {result : ExecutionResult} (hnamed : ∀ x ∈ result.state, x.id ≠ "") :
    (engine.checkpoint request result (r, s)).1.failure? = none ∧
        Ahead inner before t number cause (engine.checkpoint request result (r, s)).2 ∨
      s.attempts.length + 1 = number ∧ engine.checkpoint request result (r, s)
        = ({ failure? := some cause }, r.withProgress engine.clock result,
          s.record (r.withProgress engine.clock result) false) := by
  have hproblems : (r.withProgress engine.clock result).problems = [] :=
    Release.problems_of_state h.holds.readable hnamed rfl rfl rfl
  have hphase : (r.withProgress engine.clock result).phase.isMutating = true := h.phase
  by_cases hearly : s.attempts.length + 1 < number
  · have hholds : inner.Holds before r s.store := h.holds
    obtain ⟨s', hsave, hahead, _⟩ := Ahead.of_save (r := r.withProgress engine.clock result)
      hholds ⟨rfl, rfl⟩ hproblems hphase h.faults hearly
    rw [h.triple, h.fault] at hahead
    rw [checkpoint_saved h.phase hsave]
    exact .inl ⟨rfl, hahead⟩
  · have hnumber : s.attempts.length + 1 = number := by
      have := h.early
      simp only at this
      omega
    have hfails : s.attempts.length + 1 ∈ s.faults := by
      rw [h.faults, hnumber]
      exact List.mem_singleton_self number
    have hsave := WatchedStore.save_of_mem hfails (r.withProgress engine.clock result)
    rw [h.fault] at hsave
    rw [checkpoint_refused h.phase hsave]
    exact .inr ⟨hnumber, rfl⟩

/-- A progress that is saved leaves the failure ahead. -/
theorem keeps_ahead (engine : Engine) (request : Request (WatchedStore σ)) (limits : Limits)
    (interrupts : Interrupts) (stopped : Bool) (now : Instant)
    (hnamed : ∀ run sandbox', Execution.Reached schedule limits sandbox (run, sandbox') →
      ∀ x ∈ (run.result plan baseline false).state, x.id ≠ "") :
    Execution.Keeps (.init plan baseline schedule limits interrupts stopped now) sandbox
      (engine.checkpoint request) (Ahead inner before t number cause) := by
  rintro run sandbox' ⟨stored, s₀⟩ hreached hahead hsuccess
  rcases hahead.checkpoint_cases (hnamed run sandbox' hreached) with ⟨_, hahead'⟩ | ⟨_, hrefused⟩
  · exact hahead'
  · simp only [Execution.init, hrefused] at hsuccess
    cases hsuccess

/-! ## Ends -/

theorem finish_snd (r : Release) (deliver : Release → Delivery) (s : WatchedStore σ) :
    (finish (.ok r) deliver s).2 = (Keeper.save r s).2 := by
  simp only [finish]
  cases Keeper.save r s with
  | mk answer s' => cases answer <;> rfl

/-- An execution that ends by itself is followed by one attempt to save, of a release that is
finished. -/
theorem settle_attempts (engine : Engine) (hphase : r.phase.isMutating = true) (plan : Plan)
    (result : ExecutionResult) (s : WatchedStore σ) :
    ∃ attempt : SaveAttempt, attempt.release.isTerminal = true ∧
      (engine.settle r plan result s).2.attempts = s.attempts ++ [attempt] := by
  have hphase' : ({ r with actions := result.records } : Release).phase.isMutating = true := hphase
  have hsaved : ∀ (x : Release) (deliver : Release → Delivery), x.isTerminal = true →
      ∃ attempt : SaveAttempt, attempt.release.isTerminal = true ∧
        (finish (.ok x) deliver s).2.attempts = s.attempts ++ [attempt] := by
    intro x deliver hterminal
    obtain ⟨stored, hattempts⟩ := WatchedStore.save_attempts x s
    exact ⟨⟨x, stored⟩, hterminal, by rw [finish_snd, hattempts]⟩
  unfold settle
  simp only
  split
  · rw [Release.succeed_some _ hphase']
    exact hsaved _ _ rfl
  · rw [Release.fail_some _ _ hphase']
    exact hsaved _ _ rfl

/-- Where an execution ends by itself before the attempt that would fail, an attempt with its number
can only be the last one. -/
theorem Ahead.isTerminal_of_settled {context : Release × WatchedStore σ} {n : Nat}
    (h : Ahead inner before t (n + 1) cause context) (plan : Plan) (result : ExecutionResult)
    {attempt : SaveAttempt}
    (hattempt : (engine.settle context.1 plan result context.2).2.attempts[n]? = some attempt) :
    attempt.release.isTerminal = true := by
  obtain ⟨last, hterminal, hattempts⟩ := settle_attempts engine h.phase plan result context.2
  have hearly : context.2.attempts.length ≤ n := Nat.le_of_lt_succ h.early
  rw [hattempts, List.getElem?_append_right hearly] at hattempt
  rw [List.mem_singleton.mp (List.mem_of_getElem? hattempt)]
  exact hterminal

/-- After the failure the release is saved once more, with what is left of the execution. -/
theorem Ahead.record_spec (h : Ahead inner before t number cause (r, s))
    (hnumber : s.attempts.length + 1 = number) (result : ExecutionResult) {left : ExecutionResult}
    (hnamed : ∀ x ∈ left.state, x.id ≠ "") :
    ∃ s', ∃ final : Release, engine.record (r.withProgress engine.clock result) cause left
        (s.record (r.withProgress engine.clock result) false) = (.error cause, s') ∧
      s'.attempts[s.attempts.length]? = some ⟨r.withProgress engine.clock result, false⟩ ∧
      inner.Good s'.store ∧ inner.kept s'.store = before.with final.dumped ∧
      final.Interrupted t cause left := by
  let reported := r.withProgress engine.clock result
  let final := reported.interrupted engine.clock cause left
  have hphase : reported.phase.isMutating = true := h.phase
  have hproblems : final.problems = [] :=
    Release.problems_of_state h.holds.readable hnamed rfl rfl rfl
  obtain ⟨store, hsave, hgood, hkept⟩ := h.holds.save (r := final) ⟨rfl, rfl⟩ hproblems
  have hlater : (s.record reported false).attempts.length + 1
      ∉ (s.record reported false).faults := by
    have hfaults : (s.record reported false).faults = [number] := h.faults
    rw [hfaults, List.mem_singleton]
    simp only [WatchedStore.record, List.length_append, List.length_singleton]
    omega
  have hsaved := WatchedStore.save_of_notMem (s := s.record reported false) hlater hsave
  refine ⟨_, final, record_eq hphase cause hsaved, ?_, hgood, hkept, ?_⟩
  · simp [WatchedStore.record, reported]
  · exact ⟨h.triple, rfl, rfl, rfl, rfl⟩

/-- **An execution under way whose progress cannot be saved at one attempt** is cut short there, and
the release is saved with what is left. -/
theorem Ahead.complete_spec {n : Nat} {e : StoreError} (request : Request (WatchedStore σ))
    (h : Ahead inner before t (n + 1) (.store e) (r, s)) (hresources : r.resources = baseline)
    (hcompute : Plan.compute spec baseline = .ok plan)
    (hschedule : Schedule.of? plan baseline = .ok schedule) (hanswers : sandbox.Named)
    {interrupts : Interrupts} (hcancel : interrupts.cancelAt = []) (stopped : Bool) (now : Instant)
    {answer : Ending × Sandbox × Release × WatchedStore σ}
    (hanswer : (Execution.init plan baseline schedule engine.limits interrupts stopped now).complete
      engine.clock (engine.checkpoint request) sandbox (r, s) = answer)
    {verdict : Verdict} {s' : WatchedStore σ}
    (hconclude : engine.conclude answer.2.2.1 plan answer.1 answer.2.2.2 = (verdict, s'))
    {attempt : SaveAttempt} (hattempt : s'.attempts[n]? = some attempt)
    (hopen : attempt.release.isTerminal = false) :
    verdict = .error (.store e) ∧ attempt.stored = false ∧ ∃ left, ∃ final : Release,
      answer.1 = .interrupted (.store e) (some left) [] ∧
      Execution.CutShort plan baseline schedule engine.limits sandbox answer.2.1
        attempt.release.actions left ∧
      inner.Good s'.store ∧ inner.kept s'.store = before.with final.dumped ∧
      final.Interrupted t (.store e) left := by
  have hs := Schedule.lawful_of hschedule
  have hbase : ∀ x ∈ baseline, x.id ≠ "" := by
    rw [← hresources]
    exact (Release.problems_eq_nil_iff.mp h.holds.readable).2.2.2
  have hnamed : ∀ run final sandbox' cancelled,
      Execution.Reached schedule engine.limits sandbox (run, sandbox') →
      final = run ∨ final = run.cancelPending →
      ∀ x ∈ (Run.result plan baseline cancelled final).state, x.id ≠ "" := by
    rintro run final sandbox' cancelled hreached (rfl | rfl) <;>
    exact named_resultingState hcompute hschedule hbase hanswers hreached _
  have hkeeps : Execution.Keeps (.init plan baseline schedule engine.limits interrupts stopped now)
      sandbox (engine.checkpoint request) (Ahead inner before t (n + 1) (.store e)) :=
    keeps_ahead engine request engine.limits interrupts stopped now fun run sandbox' hreached =>
      hnamed run run sandbox' false hreached (.inl rfl)
  have hcompleted := Execution.complete_completed hs plan baseline sandbox now engine.clock hcancel
    stopped hkeeps h
  rw [hanswer] at hcompleted
  cases hcompleted with
  | @finished run sandbox' context reached idle good =>
    have hsettled : (engine.settle context.1 plan
        (run.cancelPending.result plan baseline run.anyPending) context.2).2 = s' :=
      congrArg Prod.snd hconclude
    rw [← hsettled] at hattempt
    rw [good.isTerminal_of_settled plan _ hattempt] at hopen
    cases hopen
  | @refused reported run _ sandbox' context _ reached good failure path origins idle =>
    obtain ⟨stored, s₀⟩ := context
    have hall : Execution.Reached schedule engine.limits sandbox (run, sandbox') :=
      Relation.ReflTransGen.trans reached path
    rcases good.checkpoint_cases (hnamed reported reported _ false reached (.inl rfl)) with
      ⟨hsuccess, _⟩ | ⟨hnumber, hrefused⟩
    · rw [Execution.init, hsuccess] at failure
      cases failure
    rw [Execution.init] at failure hconclude
    rw [hrefused] at failure hconclude
    cases failure
    obtain ⟨s'', final, hrecord, hattempts, hgood, hkept, hfinal⟩ :=
      good.record_spec hnumber (reported.result plan baseline false)
        (hnamed run run.cancelPending sandbox' true hall (.inr rfl))
    simp only [conclude] at hconclude
    rw [hrecord, Prod.mk.injEq] at hconclude
    obtain ⟨rfl, rfl⟩ := hconclude
    have hlength : s₀.attempts.length = n := Nat.succ.inj hnumber
    rw [← hlength, hattempts, Option.some.injEq] at hattempt
    subst hattempt
    refine ⟨rfl, rfl, run.cancelPending.result plan baseline true, final, rfl, ?_, hgood, hkept,
      hfinal⟩
    have hrun := Execution.Reached.run hall
    exact {
      reached := ⟨run, hall, idle, rfl⟩
      unstarted := (Run.cancelPending_origins run).trans origins
      accounted := Run.accounted_cancelPending hschedule hrun idle
      applies := hrun.appliesSucceeded hcompute hschedule (.inr rfl) true }

/-- **An operation whose progress cannot be saved at one attempt, and whose release can be saved at
every other, is recorded faithfully.**  The attempt is the one after the `k`-th wait.  The store's
failure is the answer; after it nothing was started, and all that had been started came to its end;
the release has failed, with the records of the interrupted execution, and its state is the recorded
one with exactly the actions applied that succeeded.  It is stored as its record holds it, and the next
operation starts from that: from the very state if what was desired and answered has finite numbers
only. -/
theorem perform_interrupted (hgood : inner.Good s.store)
    (htask : ∀ p live, request.task ≠ .preview p live)
    (hbaseline : Release.lastState (inner.kept s.store request.triple) = baseline)
    (hdesired : request.task.desired = .ok spec) (hcompute : Plan.compute spec baseline = .ok plan)
    (hschedule : Schedule.of? plan baseline = .ok schedule) (hanswers : sandbox.Named)
    (hcancel : request.interrupts.cancelAt = []) {k : Nat} (hk : 0 < k) {e : StoreError}
    (hfaults : s.faults = [s.attempts.length + k + 1]) (hfault : s.fault = .store e)
    {verdict : Verdict} {s' : WatchedStore σ}
    (hperform : engine.perform request sandbox s = (verdict, sandbox', s'))
    {attempt : SaveAttempt} (hattempt : s'.attempts[s.attempts.length + k]? = some attempt)
    (hopen : attempt.release.isTerminal = false) :
    verdict = .error (.store e) ∧ attempt.stored = false ∧ ∃ left, ∃ final : Release,
      (∃ r execution s₁ context,
        engine.prepare request ⟨0, 0⟩ s = (.executing r plan execution, s₁) ∧
        execution.complete engine.clock (engine.checkpoint request) sandbox (r, s₁)
          = (.interrupted (.store e) (some left) [], sandbox', context)) ∧
      Execution.CutShort plan baseline schedule engine.limits sandbox sandbox'
        attempt.release.actions left ∧
      inner.kept s'.store = (inner.kept s.store).with final.dumped ∧
      final.Interrupted request.triple (.store e) left ∧
      ((∀ d ∈ spec, d.Finite) → (∀ id x, sandbox.answer? id = some (some x) → x.Finite) →
        left.state.map Resource.dumped = left.state) ∧
      (inner.Room request.triple s'.store → ∀ now, ∃ next s'',
        Keeper.create now request.triple s' = (.ok next, s'') ∧
          next.state = some (left.state.map Resource.dumped)) := by
  have hfew : ¬ s'.attempts.length ≤ s.attempts.length + 1 := by
    obtain ⟨hlt, _⟩ := List.getElem?_eq_some_iff.mp hattempt
    omega
  unfold perform at hperform
  cases hconfig : checkConfig request with
  | error e' =>
    simp only [hconfig] at hperform
    cases hperform
    exact absurd (Nat.le_succ _) hfew
  | ok _ =>
    rw [← hbaseline] at hcompute hschedule
    have hprepared := prepare_ahead engine hgood htask hdesired hcompute hschedule
      hfaults (by omega) ⟨0, 0⟩
    rw [hbaseline] at hcompute hschedule
    simp only [hconfig] at hperform
    generalize engine.prepare request ⟨0, 0⟩ s = answer at hprepared hperform
    cases hprepared with
    | ended attempts =>
      cases hperform
      exact absurd attempts hfew
    | @executing r stopped now s₁ ahead resources =>
      rw [hbaseline] at resources
      rw [hfault] at ahead
      simp only [complete, resources] at hperform
      generalize hcomplete : Execution.complete _ _ _ _ _ = answer at hperform
      rw [Prod.mk.injEq, Prod.mk.injEq] at hperform
      obtain ⟨hverdict, hsandbox, hs'⟩ := hperform
      obtain ⟨herror, hstored, left, final, hending, hcut, hgood', hkept, hfinal⟩ :=
        ahead.complete_spec request resources hcompute hschedule hanswers hcancel stopped now
          hcomplete (Prod.ext hverdict hs') hattempt hopen
      obtain ⟨ending, sandbox'', r', s₂⟩ := answer
      simp only at hending
      subst hending
      have hlanded : sandbox'' = sandbox' := hsandbox
      subst hlanded
      have hbase : ∀ x ∈ baseline, x.Finite :=
        hbaseline ▸ Keeper.Reliable.finite_lastState hgood' hkept request.triple
      refine ⟨herror, hstored, left, final, ?_, hcut, hkept, hfinal, fun hspec hfound => ?_, ?_⟩
      · refine ⟨r, _, s₁, (r', s₂), rfl, ?_⟩
        rw [resources]
        exact hcomplete
      · exact Resource.map_dumped_eq_self_iff.mpr
          (hcut.finite hcompute hschedule hbase hspec hfound)
      · intro hroom now
        obtain ⟨next, store, hcreate, _, _, _, hstate⟩ := create_holds ⟨hgood', hroom⟩ now
        refine ⟨next, _, hcreate, ?_⟩
        have hself : (inner.kept s.store).with final.dumped request.triple
            = inner.kept s.store request.triple ++ [final.dumped] := by
          rw [← hfinal.triple]
          exact Kept.with_self final.dumped _
        rw [hstate, hkept, hself, Release.lastState_append, Release.dumped_resources,
          Release.resources, hfinal.state, Option.getD_some]

/-! ## A disk that is full

The three resources of `Halt` are created.  When `a` has been created, `c` is still on its way, and
`b` could be started; but the progress cannot be saved. -/

namespace Full

/-- The three resources. -/
def resources : List Resource := [Halt.a, Halt.b, Halt.c]

/-- They are to be created. -/
def creation : Request (WatchedStore MemoryStore) :=
  { triple := Swap.triple, task := .apply (Swap.generating resources) }

/-- Backends that take longer to create `c`. -/
def backends : Sandbox := { delay := fun _ id => if id = "c" then 2000 else 0 }

/-- An empty store that will fail at the first progress. -/
def store : WatchedStore MemoryStore := { store := {}, faults := [2] }

/-- The release when its operation is started. -/
def started : Release where
  triple := Swap.triple
  revision := 1
  spec := some resources
  phase := .applying
  createTime := default
  modifiedTime := default

/-- The release with the progress that cannot be saved. -/
def reported : Release :=
  { started with
    state := some [Halt.a]
    actions := [⟨"a", .create, .succeeded, none, some default, some default⟩,
      ⟨"b", .create, .pending, none, none, none⟩,
      ⟨"c", .create, .running, none, some default, none⟩] }

/-- The release as it is left. -/
def failed : Release :=
  { started with
    state := some [Halt.a, Halt.c]
    phase := .failed
    actions := [⟨"a", .create, .succeeded, none, some default, some default⟩,
      ⟨"b", .create, .cancelled, some "operation cancelled", none, none⟩,
      ⟨"c", .create, .succeeded, none, some default, some default⟩]
    error := some "operation interrupted: disk full" }

theorem create_store : Keeper.create default Swap.triple store =
    (.ok (Release.new default Swap.triple 1 []),
      { store with store := Swap.store [Release.new default Swap.triple 1 []] }) := by cbv

theorem perform_creation : Swap.create.engine.perform creation backends store =
    (.error (.store (.reported "disk full")),
      { backends with
        objects := [("a", Halt.a), ("c", Halt.c)], calls := [(.apply, "a"), (.apply, "c")] },
      { store with
        store := Swap.store [failed]
        attempts := [⟨started, true⟩, ⟨reported, false⟩, ⟨failed, true⟩] }) := by
  simp only [Swap.create, Swap.operation, perform, checkConfig, prepare, prepareSpec, creation,
    create_store]
  rfl

end Full

/-- What was on its way when the disk was full is recorded, and what could have been started was
not. -/
theorem perform_interrupted_full :
    ∃ verdict sandbox' s', Swap.create.engine.perform Full.creation Full.backends Full.store
        = (verdict, sandbox', s') ∧ verdict = .error (.store (.reported "disk full")) ∧
      ∃ left, left.records.map ActionRecord.status = [.succeeded, .cancelled, .succeeded] ∧
        Execution.CutShort Halt.plan [] Halt.schedule Swap.create.engine.limits Full.backends
          sandbox' Full.reported.actions left ∧
        Full.failed.Interrupted Swap.triple (.store (.reported "disk full")) left ∧
        ∃ next s'', Keeper.create default Swap.triple s' = (.ok next, s'') ∧
          next.state = some [Halt.a, Halt.c] := by
  have hanswers : Full.backends.Named := by
    intro id r h
    cases h
  have htask : ∀ p live, Full.creation.task ≠ .preview p live := by
    intro p live h
    cases h
  have hcompute : Plan.compute Full.resources [] = .ok Halt.plan := rfl
  have hschedule : Schedule.of? Halt.plan [] = .ok Halt.schedule := rfl
  have hgood : MemoryStore.reliable.Good Full.store.store := MemoryStore.good_empty
  obtain ⟨hverdict, _, left, final, _, hcut, hkept, hinterrupted, hfinite, hnext⟩ :=
    perform_interrupted hgood htask rfl rfl hcompute hschedule hanswers rfl Nat.one_pos rfl rfl
      Full.perform_creation rfl rfl
  have hsame := hfinite (Resource.map_dumped_eq_self_iff.mp rfl) (fun _ _ h => by cases h)
  have hfinal := hinterrupted.dumped hsame
  have hfailed : final.dumped = Full.failed := by
    have htriple : final.dumped.triple = Swap.triple := hfinal.triple
    have hself := congrFun hkept final.dumped.triple
    rw [Kept.with_self, htriple] at hself
    exact (List.singleton_inj.mp hself).symm
  rw [hfailed] at hfinal
  obtain ⟨next, s'', hcreate, hstate⟩ := hnext trivial default
  refine ⟨_, _, _, Full.perform_creation, hverdict, left, ?_, hcut, hfinal, next, s'', hcreate, ?_⟩
  · rw [← hfinal.actions]
    rfl
  · rw [hstate, hsame, ← hfinal.state]
    rfl

namespace Full

/-- One resource is to be created. -/
def creationOf (r : Resource) : Request (WatchedStore MemoryStore) :=
  { triple := Swap.triple, task := .apply (Swap.generating [r]) }

/-- Backends that answer a resource without an identifier. -/
def nameless : Sandbox := { answer? := fun _ => some (some { id := "", backend := .kubernetes }) }

/-- The record of the release once the creation has failed. -/
def failedWith (desired left : Resource) : Release where
  triple := Swap.triple
  revision := 1
  spec := some [desired]
  state := some [left]
  phase := .failed
  createTime := default
  modifiedTime := default
  actions := [⟨"a", .create, .succeeded, none, some default, some default⟩]
  error := some "operation interrupted: disk full"

theorem perform_endless : ∃ sandbox s,
    Swap.create.engine.perform (creationOf Endless.resource) {} store =
      (.error (.store (.reported "disk full")), sandbox, s) ∧
    sandbox.objects = [("a", Endless.resource)] ∧
    s.store = Swap.store [failedWith Endless.recorded Endless.recorded] := by
  simp only [Swap.create, Swap.operation, perform, checkConfig, prepare, prepareSpec, creationOf,
    create_store]
  exact ⟨_, _, rfl, rfl, rfl⟩

theorem perform_nameless : ∃ sandbox s,
    Swap.create.engine.perform (creationOf Halt.a) nameless store =
      (.error (.store (.reported "disk full")), sandbox, s) ∧
    s.store = Swap.store [failedWith Halt.a { id := "", backend := .kubernetes }] := by
  simp only [Swap.create, Swap.operation, perform, checkConfig, prepare, prepareSpec, creationOf,
    create_store]
  exact ⟨_, _, rfl, rfl⟩

end Full

/-- **What is recorded need not be what was left**: an infinite number is null in the state that is
stored and that the next operation starts from; and where a backend has answered a resource without an
identifier, no operation can start. -/
theorem perform_interrupted_unfaithful :
    (∃ sandbox s r next, Swap.create.engine.perform (Full.creationOf Endless.resource) {} Full.store =
        (.error (.store (.reported "disk full")), sandbox, s) ∧
      sandbox.objects = [("a", Endless.resource)] ∧
      MemoryStore.reliable.kept s.store Swap.triple = [r] ∧ r.phase = .failed ∧
      r.state ≠ some [Endless.resource] ∧
      (Keeper.create default Swap.triple s.store).1 = .ok next ∧
      next.state ≠ some [Endless.resource]) ∧
    ∃ sandbox s r problems,
      Swap.create.engine.perform (Full.creationOf Halt.a) Full.nameless Full.store =
        (.error (.store (.reported "disk full")), sandbox, s) ∧
      MemoryStore.reliable.kept s.store Swap.triple = [r] ∧ r.phase = .failed ∧
      (Keeper.create default Swap.triple s.store).1 = .error (.invalid problems) := by
  obtain ⟨sandbox, s, hperform, hobjects, hs⟩ := Full.perform_endless
  obtain ⟨sandbox', s', hperform', hs'⟩ := Full.perform_nameless
  refine ⟨⟨sandbox, s, _, Release.new default Swap.triple 2 [Endless.recorded], hperform, hobjects,
    by rw [hs]; rfl, rfl, by decide, by rw [hs]; cbv, by decide⟩, sandbox', s', _, _, hperform',
    by rw [hs']; rfl, rfl, by rw [hs']; cbv⟩

end Engine

end Rollout
