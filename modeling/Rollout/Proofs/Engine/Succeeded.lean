import Rollout.Proofs.Engine.Journal
import Rollout.Proofs.Execution.Succeeded

/-!
# Operations that succeed

An operation that succeeds has executed its plan to the end, so that its release records the desired
resources and nothing else, whatever was recorded before.  To apply them once more then finds nothing
to do.

* `Engine.perform_executed`, `Engine.perform_exact` : what an operation that succeeds has done, and what
  its release records;
* `Keeper.Fails` : a store fails to keep a new release; a reliable store does not;
* `Engine.Idle`, `Engine.perform_idle` : an operation that finds nothing to do;
* `Engine.perform_converges` : the two together.
-/

set_option autoImplicit false

namespace Rollout

open Relation

/-! ## Steps of a release -/

namespace Release

variable {now : DateTime} {r r' : Release}

theorem start_inv {operation : Operation} (h : r.start now operation = .ok r') :
    r' = { r with phase := operation.phase, modifiedTime := now } := by
  unfold start at h
  split at h
  · cases h
  · exact (move_inv h).1

theorem fail_inv {reason : String} {state : Option (List Resource)}
    (h : r.fail now reason state = .ok r') : r'.phase = .failed := by
  unfold fail at h
  split at h
  · cases h
  · split at h
    · rw [(move_inv h).1]
    · cases h

theorem succeed_inv {state : List Resource} (h : r.succeed now (some state) = .ok r') :
    r' = { r with state := some state, phase := .succeeded, modifiedTime := now } := by
  unfold succeed at h
  split at h
  · rename_i settled hsettled
    unfold settle at hsettled
    simp only at hsettled
    split at hsettled
    · cases hsettled
      exact (move_inv h).1
    · cases hsettled
  · cases h

/-- What an execution leaves as it is of a release. -/
structure Retains (r x : Release) : Prop where
  triple : x.triple = r.triple
  spec : x.spec = r.spec

theorem Retains.refl (r : Release) : Retains r r := ⟨rfl, rfl⟩

theorem Retains.trans {x : Release} (h : Retains r r') (h' : Retains r' x) : Retains r x :=
  ⟨h'.triple.trans h.triple, h'.spec.trans h.spec⟩

/-- A release that records the end of an execution without actions. -/
def rested (now : DateTime) (state : List Resource) (r : Release) : Release :=
  { r with state := some state, phase := .succeeded, modifiedTime := now, actions := [] }

/-- A later version of a release, which can be read back if the release can. -/
structure Version (r x : Release) : Prop extends Continues r x where
  readable : r.problems = [] → x.problems = []

theorem Version.refl (r : Release) : Version r r := ⟨⟨rfl, rfl⟩, id⟩

end Release

/-! ## Stores that fail -/

section

variable {σ : Type} [Keeper σ]

/-- A store saves a version of a release that is not finished. -/
def Keeper.Saves (r : Release) (s s' : σ) : Prop :=
  ∃ x, r.Version x ∧ x.isTerminal = false ∧ Keeper.save x s = (.ok (), s')

/-- **A store fails to keep a new release**: to create it, or to save a version of it later on. -/
inductive Keeper.Fails (now : DateTime) (t : Triple) (s : σ) (e : Failure) : Prop
  | create {s₁ : σ} (refused : Keeper.create now t s = (.error e, s₁)) : Fails now t s e
  | save {r x : Release} {s₁ s₂ s₃ : σ} (created : Keeper.create now t s = (.ok r, s₁))
      (saves : ReflTransGen (Keeper.Saves r) s₁ s₂) (version : r.Version x)
      (refused : Keeper.save x s₂ = (.error e, s₃)) : Fails now t s e

/-- **A reliable store keeps every release.** -/
theorem Keeper.Reliable.not_fails (st : Keeper.Reliable σ) {t : Triple} {s : σ} (hready : st.Ready t s)
    (now : DateTime) (e : Failure) : ¬ Keeper.Fails now t s e := by
  obtain ⟨revision, s', hcreate, hgood', hkept⟩ := st.create now t s hready.good hready.room
  rintro (⟨refused⟩ | ⟨created, saves, version, refused⟩)
  · rw [hcreate] at refused
    cases refused
  · rw [hcreate] at created
    cases created
    have hcreated := Keeper.Reliable.holds_new hgood' hkept
    have hlast : ∀ {s₂ : σ}, ReflTransGen (Keeper.Saves (Release.new now t revision
        (Release.lastState (st.kept s t)))) s' s₂ → ∃ last, st.Holds (st.kept s) last s₂ ∧
          (Release.new now t revision (Release.lastState (st.kept s t))).Version last := by
      intro s₂ hsaves
      induction hsaves with
      | refl => exact ⟨_, hcreated, .refl _⟩
      | tail _ hsave ih =>
        obtain ⟨last, hholds, hlast⟩ := ih
        obtain ⟨x, hx, hopen, hsave⟩ := hsave
        obtain ⟨s₃, hs₃, hgood₃, hkept₃⟩ := hholds.save (r := x)
          ⟨hx.triple.trans hlast.triple.symm, hx.revision.trans hlast.revision.symm⟩
          (hx.readable hcreated.readable)
        rw [hs₃] at hsave
        cases hsave
        exact ⟨x, ⟨hgood₃, hkept₃, hopen⟩, hx⟩
    obtain ⟨last, hholds, hlast⟩ := hlast saves
    obtain ⟨s₃, hs₃, _⟩ := hholds.save
      ⟨version.triple.trans hlast.triple.symm, version.revision.trans hlast.revision.symm⟩
      (version.readable hcreated.readable)
    rw [hs₃] at refused
    cases refused

/-- What is created is the first record of the next revision. -/
theorem Journal.begins_of_create {recording : Keeper.Recording σ} {j j' : Journal σ}
    (h : Journal.InOrder recording j) {now : DateTime} {t : Triple} {r : Release}
    (hcreate : Keeper.create now t j = (.ok r, j')) : Release.Begins j.writes r := by
  simp only [Keeper.create] at hcreate
  rcases recording.create now t h.keeps with ⟨e, s, hs, _⟩ | ⟨created, s, hs, hbegins, _⟩
  · rw [hs] at hcreate
    cases hcreate
  · rw [hs] at hcreate
    cases hcreate
    exact hbegins

/-- A journal fails no more than its store. -/
def Journal.reliable (inner : Keeper.Reliable σ) : Keeper.Reliable (Journal σ) where
  Good j := inner.Good j.store
  Room t j := inner.Room t j.store
  kept j := inner.kept j.store
  sound := fun j t h => inner.sound j.store t h
  latest := fun j t h => inner.latest j.store t h
  create := by
    intro now t j h hroom
    obtain ⟨revision, s, hcreate, hgood, hkept⟩ := inner.create now t j.store h hroom
    let r := Release.new now t revision (Release.lastState (inner.kept j.store t))
    exact ⟨revision, ⟨s, j.writes ++ [r]⟩, by simp only [Keeper.create, hcreate, r], hgood, hkept⟩
  refuse := by
    intro now t j h hroom
    obtain ⟨e, s, hcreate, hgood, hkept⟩ := inner.refuse now t j.store h hroom
    exact ⟨e, ⟨s, j.writes⟩, by simp only [Keeper.create, hcreate], hgood, hkept⟩
  save := by
    intro j before stored r h hkept hopen htriple hrevision hproblems
    obtain ⟨s, hsave, hgood, hkept'⟩ :=
      inner.save j.store before stored r h hkept hopen htriple hrevision hproblems
    exact ⟨⟨s, j.writes ++ [r.dumped]⟩, by simp only [Keeper.save, hsave], hgood, hkept'⟩

end

namespace Engine

/-! ## Operations that succeed -/

section

variable {σ : Type} [Keeper σ] {engine : Engine} {request : Request σ} {r : Release} {s s' : σ}
  {d : Delivery} {plan : Plan} {sandbox sandbox' : Sandbox}

/-- What is delivered was saved. -/
theorem finish_inv {finished : Except LifecycleError Release} {deliver : Release → Delivery}
    (h : finish finished deliver s = (.ok d, s')) :
    ∃ r, finished = .ok r ∧ Keeper.save r s = (.ok (), s') ∧ d = deliver r := by
  unfold finish at h
  split at h
  · cases h
  · rename_i r
    cases hsave : Keeper.save r s with
    | mk answer s₁ =>
      rw [hsave] at h
      cases answer with
      | error e => cases h
      | ok u =>
        cases h
        exact ⟨r, rfl, hsave, rfl⟩

/-- A release that is given up has not succeeded. -/
theorem giveUp_failed {found : Option Plan} {text : String}
    (h : engine.giveUp r found text s = (.ok d, s')) : d.succeeded = false := by
  obtain ⟨failed, hfail, _, rfl⟩ := finish_inv h
  simp [Delivery.succeeded, Release.fail_inv hfail]

/-- A release succeeds where every action has, and records what the execution left. -/
theorem settle_succeeded {result : ExecutionResult}
    (h : engine.settle r plan result s = (.ok d, s')) (hd : d.succeeded = true) :
    result.succeeded = true ∧
      ({ r with actions := result.records } : Release).succeed engine.clock (some result.state)
        = .ok d.release ∧
      Keeper.save d.release s = (.ok (), s') := by
  unfold settle at h
  simp only at h
  split at h
  · rename_i hsucceeded
    obtain ⟨final, hfinal, hsave, rfl⟩ := finish_inv h
    exact ⟨hsucceeded, hfinal, hsave⟩
  · obtain ⟨failed, hfail, _, rfl⟩ := finish_inv h
    simp [Delivery.succeeded, Release.fail_inv hfail] at hd

/-- An operation that was interrupted delivers nothing. -/
theorem record_ne {cause : Failure} {left : ExecutionResult} :
    engine.record r cause left s ≠ (.ok d, s') := by
  unfold record
  intro h
  split at h
  · cases h
  · simp only at h
    split at h
    · cases h
    · split at h <;> cases h

/-- An operation that succeeds has executed its plan to the end. -/
theorem conclude_succeeded {ending : Ending} (h : engine.conclude r plan ending s = (.ok d, s'))
    (hd : d.succeeded = true) :
    ∃ result, ending = .finished result ∧ engine.settle r plan result s = (.ok d, s') := by
  unfold conclude at h
  split at h
  · exact ⟨_, rfl, h⟩
  · rw [giveUp_failed h] at hd
    cases hd
  · cases h
  · exact absurd h record_ne

/-- How an operation that changes its stack is prepared: it has not succeeded, or its plan is to be
executed. -/
inductive Prepared.ToExecute (engine : Engine) (request : Request σ) (s : σ) : Prepared → Prop
  | ended {made : Option Plan} {verdict : Verdict}
      (unfinished : ∀ d, verdict = .ok d → d.succeeded = false) :
      ToExecute engine request s (.ended made verdict)
  | executing {created r : Release} {spec : List Resource} {plan : Plan} {schedule : Schedule}
      {stopped : Bool} {now : Instant}
      (creates : (Keeper.create engine.clock request.triple s).1 = .ok created)
      (triple : r.triple = created.triple)
      (desired : request.task.desired = .ok spec)
      (specified : ∀ p, request.task = .apply p → r.spec = some spec)
      (computed : Plan.compute spec r.resources = .ok plan)
      (limits : engine.limits.check = .ok ())
      (scheduled : Schedule.of? plan r.resources = .ok schedule) :
      ToExecute engine request s
        (.executing r plan (.init plan r.resources schedule engine.limits request.interrupts stopped
          now))

theorem schedule_toExecute {created : Release} {spec : List Resource} (now : Instant) (s₁ : σ)
    (creates : (Keeper.create engine.clock request.triple s).1 = .ok created)
    (triple : r.triple = created.triple) (desired : request.task.desired = .ok spec)
    (specified : ∀ p, request.task = .apply p → r.spec = some spec)
    (computed : Plan.compute spec r.resources = .ok plan) :
    Prepared.ToExecute engine request s (engine.schedule request r plan now s₁).1 := by
  unfold schedule
  cases hlimits : engine.limits.check with
  | error e => exact .ended fun d hd => by cases hd
  | ok u =>
    simp only
    cases hschedule : Schedule.of? plan r.resources with
    | error e => exact .ended fun d hd => giveUp_failed (Prod.ext hd rfl)
    | ok schedule => exact .executing creates triple desired specified computed hlimits hschedule

/-- What was saved is what was started. -/
theorem saveStarted_inv {started : Except LifecycleError Release}
    (h : saveStarted started s = (.ok r, s')) : started = .ok r := by
  unfold saveStarted at h
  split at h
  · cases h
  · split at h
    · cases h
    · cases h
      rfl

theorem startWith_inv {r' : Release} {spec : List Resource} {operation : Operation}
    (h : engine.startWith spec operation r = .ok r') :
    r'.spec = some spec ∧ r'.state = r.state ∧ r'.triple = r.triple := by
  unfold startWith Release.attachSpec at h
  split at h
  · cases h
  · rename_i specified hattach
    split at hattach
    · cases hattach
      rw [Release.start_inv h]
      exact ⟨rfl, rfl, rfl⟩
    · cases hattach

theorem prepareSpec_toExecute {pipeline : Pipeline} {operation : Operation}
    {next : Release → Plan → σ → Prepared × σ} (hdesired : request.task.desired = pipeline.run)
    (hnext : ∀ created r spec plan s₁, (Keeper.create engine.clock request.triple s).1 = .ok created →
      r.triple = created.triple → request.task.desired = .ok spec → r.spec = some spec →
      Plan.compute spec r.resources = .ok plan →
      Prepared.ToExecute engine request s (next r plan s₁).1) :
    Prepared.ToExecute engine request s (engine.prepareSpec request pipeline operation next s).1 := by
  unfold prepareSpec
  split
  · exact .ended fun d hd => by cases hd
  · rename_i created s₁ hcreate
    have hcreates : (Keeper.create engine.clock request.triple s).1 = .ok created := by rw [hcreate]
    unfold generate
    cases hrun : pipeline.run with
    | error e =>
      simp only
      split
      · exact .ended fun d hd => giveUp_failed (Prod.ext hd rfl)
      · exact .ended fun d hd => by cases hd
    | ok spec =>
      cases hcompute : Plan.compute spec created.resources with
      | error e =>
        simp only [hcompute]
        split
        · exact .ended fun d hd => giveUp_failed (Prod.ext hd rfl)
        · exact .ended fun d hd => by cases hd
      | ok plan =>
        simp only [hcompute]
        split
        · exact .ended fun d hd => by cases hd
        · rename_i r s₂ hsaved
          obtain ⟨hspec, hstate, htriple⟩ := startWith_inv (saveStarted_inv hsaved)
          refine hnext created r spec plan s₂ hcreates htriple (hdesired.trans hrun) hspec ?_
          rw [Release.resources, hstate]
          exact hcompute

theorem prepareDestroy_toExecute (htask : request.task = .destroy) (now : Instant) :
    Prepared.ToExecute engine request s (engine.prepareDestroy request now s).1 := by
  unfold prepareDestroy
  split
  · exact .ended fun d hd => by cases hd
  · exact .ended fun d hd => by cases hd
  · split
    · exact .ended fun d hd => by cases hd
    · rename_i created s₁ hcreate
      cases hcompute : Plan.compute [] created.resources with
      | error e => exact .ended fun d hd => by cases hd
      | ok plan =>
        simp only
        split
        · exact .ended fun d hd => by cases hd
        · rename_i r s₂ hsaved
          have hr := Release.start_inv (saveStarted_inv hsaved)
          have hdesired : request.task.desired = .ok [] := by
            rw [htask]
            rfl
          refine schedule_toExecute now s₂ (by rw [hcreate]) ?_ hdesired ?_ ?_
          · rw [hr]
          · intro p hp
            rw [htask] at hp
            cases hp
          · rw [hr]
            exact hcompute

/-- **Nothing has succeeded before its plan is executed**, but a preview. -/
theorem prepare_toExecute (htask : ∀ p live, request.task ≠ .preview p live) (now : Instant) (s : σ) :
    Prepared.ToExecute engine request s (engine.prepare request now s).1 := by
  unfold prepare
  cases htask' : request.task with
  | preview p live => exact absurd htask' (htask p live)
  | destroy => exact prepareDestroy_toExecute htask' now
  | apply pipeline =>
    refine prepareSpec_toExecute (by rw [htask']; rfl) ?_
    intro created r spec plan s₁ creates triple desired specified computed
    exact schedule_toExecute now s₁ creates triple desired (fun _ _ => specified) computed

/-- **An operation that succeeds** has executed its plan to the end. -/
theorem perform_executed (htask : ∀ p live, request.task ≠ .preview p live)
    (hperform : engine.perform request sandbox s = (.ok d, sandbox', s')) (hd : d.succeeded = true) :
    checkConfig request = .ok () ∧ ∃ r plan execution s₁ result sandbox₂ r₂ s₂,
      engine.prepare request ⟨0, 0⟩ s = (.executing r plan execution, s₁) ∧
      Prepared.ToExecute engine request s (.executing r plan execution) ∧
      execution.complete engine.clock (engine.checkpoint request) sandbox (r, s₁)
        = (.finished result, sandbox₂, r₂, s₂) ∧
      engine.settle r₂ plan result s₂ = (.ok d, s') := by
  unfold perform at hperform
  cases hconfig : checkConfig request with
  | error e =>
    rw [hconfig] at hperform
    cases hperform
  | ok u =>
    refine ⟨rfl, ?_⟩
    rw [hconfig] at hperform
    have hprepared : Prepared.ToExecute engine request s (engine.prepare request ⟨0, 0⟩ s).1 :=
      prepare_toExecute htask ⟨0, 0⟩ s
    cases hprepare : engine.prepare request ⟨0, 0⟩ s with
    | mk prepared s₁ =>
      rw [hprepare] at hprepared
      simp only [hprepare] at hperform
      cases hprepared with
      | @ended _ verdict unfinished =>
        have hverdict : verdict = .ok d := (Prod.mk.inj hperform).1
        rw [unfinished d hverdict] at hd
        cases hd
      | @executing created r spec plan schedule stopped now creates triple desired specified computed
          limits scheduled =>
        simp only [complete] at hperform
        generalize hcomplete : Execution.complete _ _ _ _ _ = answer at hperform
        obtain ⟨ending, sandbox₂, r₂, s₂⟩ := answer
        have hconclude : engine.conclude r₂ plan ending s₂ = (.ok d, s') :=
          Prod.ext (Prod.mk.inj hperform).1 (Prod.mk.inj (Prod.mk.inj hperform).2).2
        obtain ⟨result, rfl, hsettle⟩ := conclude_succeeded hconclude hd
        exact ⟨r, plan, _, s₁, result, sandbox₂, r₂, s₂, rfl,
          .executing creates triple desired specified computed limits scheduled, hcomplete, hsettle⟩

/-- A report of progress touches neither the triple of a release nor its spec. -/
theorem checkpoint_retains (result : ExecutionResult) (context : Release × σ) :
    context.1.Retains (engine.checkpoint request result context).2.1 := by
  unfold checkpoint
  split
  · exact .refl _
  · rename_i r hcheckpoint
    unfold Release.checkpoint at hcheckpoint
    split at hcheckpoint
    · cases hcheckpoint
      simp only
      split <;> exact ⟨rfl, rfl⟩
    · cases hcheckpoint

/-- Nor does a whole execution. -/
theorem complete_retains {execution : Execution} {ending : Ending} {r₂ : Release} {s₁ s₂ : σ}
    (hcomplete : execution.complete engine.clock (engine.checkpoint request) sandbox (r, s₁)
      = (ending, sandbox', r₂, s₂)) : r.Retains r₂ := by
  have hkept := @Execution.complete_context _ (fun context => r.Retains context.1)
    (engine.checkpoint request) engine.clock
    (fun result context h => h.trans (checkpoint_retains result context)) execution sandbox (r, s₁)
    (.refl r)
  rwa [hcomplete] at hkept

/-- **The release of an operation that succeeds records the desired resources**, in apply order, and
nothing else. -/
theorem perform_exact (htask : ∀ p live, request.task ≠ .preview p live)
    (hechoes : ∀ spec, request.task.desired = .ok spec → sandbox.Echoes spec)
    (hperform : engine.perform request sandbox s = (.ok d, sandbox', s')) (hd : d.succeeded = true) :
    ∃ created spec g, (Keeper.create engine.clock request.triple s).1 = .ok created ∧
      d.release.triple = created.triple ∧ request.task.desired = .ok spec ∧
      (∀ p, request.task = .apply p → d.release.spec = some spec) ∧
      Graph.build true spec = .ok g ∧ d.release.state = some g.ordered ∧
      engine.limits.check = .ok () ∧
      ((∀ x ∈ spec, Value.Comparable (.object x.attributes)) →
        ∃ next, Plan.compute spec g.ordered = .ok next ∧ next.isEmpty = true) := by
  obtain ⟨_, r, plan, execution, s₁, result, sandbox₂, r₂, s₂, _, hexecute, hcomplete, hsettle⟩ :=
    perform_executed htask hperform hd
  cases hexecute with
  | @executing created _ spec _ schedule stopped now creates triple desired specified computed limits
      scheduled =>
    obtain ⟨g, _, hgraph, _, _, _⟩ := Plan.compute_inv computed
    have hs := Schedule.lawful_of scheduled
    have hfaith := Schedule.faithful_of_echoes (Plan.compares_of computed)
      (Schedule.of?_inv scheduled).1 (hechoes spec desired) engine.limits
    have hretains := complete_retains hcomplete
    -- the execution finishes with the result of a run
    have hends : Execution.Ends (.init plan r.resources schedule engine.limits request.interrupts
        stopped now) sandbox _ _ := Execution.complete_ends hs plan r.resources sandbox now engine.clock
      request.interrupts stopped (engine.checkpoint request) (r, s₁)
    rw [hcomplete] at hends
    obtain ⟨hsucceeded, hfinal, _⟩ := settle_succeeded hsettle hd
    cases hends with
    | finished reached _ =>
      have hstate := (Execution.Reached.run reached).state_of_succeeded computed hgraph scheduled hfaith
        (.inr rfl) hsucceeded
      have hrelease := Release.succeed_inv hfinal
      rw [hrelease]
      refine ⟨created, spec, g, creates, hretains.triple.trans triple, desired,
        fun p hp => hretains.spec.trans (specified p hp), hgraph, congrArg some hstate, limits, ?_⟩
      intro hvalues
      rw [← hstate]
      exact (Execution.Reached.run reached).compute_of_succeeded computed scheduled hfaith (.inr rfl)
        hsucceeded hvalues

end

/-! ## Operations that find nothing to do -/

section

variable {σ : Type} [Keeper σ] {engine : Engine} {request : Request σ} {r : Release} {s s' : σ}
  {d : Delivery} {plan : Plan} {sandbox : Sandbox} {spec : List Resource} {g : Graph}
  {pipeline : Pipeline}

/-- **An operation that finds nothing to do**: its plan is empty, no backend is called, and it succeeds
with the state that is given.  Only the store can fail. -/
inductive Idle (engine : Engine) (request : Request σ) (state : List Resource) (sandbox : Sandbox)
    (s : σ) : Verdict × Sandbox × σ → Prop
  | delivered {d : Delivery} {plan : Plan} {s' : σ} (planned : d.plan = some plan)
      (empty : plan.isEmpty = true) (succeeded : d.succeeded = true)
      (unchanged : d.release.state = some state) :
      Idle engine request state sandbox s (.ok d, sandbox, s')
  | failed {e : Failure} {s' : σ} (fails : Keeper.Fails engine.clock request.triple s e) :
      Idle engine request state sandbox s (.error e, sandbox, s')

/-- A release is saved and delivered, or refused. -/
theorem finish_cases (r : Release) (deliver : Release → Delivery) (s : σ) :
    (∃ s', finish (.ok r) deliver s = (.ok (deliver r), s')) ∨
      ∃ e s', Keeper.save r s = (.error e, s') ∧ finish (.ok r) deliver s = (.error e, s') := by
  unfold finish
  simp only
  cases Keeper.save r s with
  | mk answer s' =>
    cases answer with
    | error e => exact .inr ⟨e, s', rfl, rfl⟩
    | ok u => exact .inl ⟨s', rfl⟩

/-- An operation whose plan is empty is over once it has started: what is left is to save its
release. -/
theorem complete_schedule (request : Request σ) (hlimits : engine.limits.check = .ok ())
    (hgraph : Graph.build true spec = .ok g) (hcompute : Plan.compute spec r.resources = .ok plan)
    (hempty : plan.isEmpty = true) (hphase : r.phase.isMutating = true) (now : Instant)
    (sandbox : Sandbox) (s : σ) :
    engine.complete request (engine.schedule request r plan now s).1 sandbox
        (engine.schedule request r plan now s).2
      = let (verdict, s') := finish (.ok (r.rested engine.clock g.ordered))
          (fun release => { release, plan := some plan }) s
        (verdict, sandbox, s') := by
  have hschedule : Schedule.of? plan r.resources = .ok ⟨[], [], []⟩ := Schedule.of?_isEmpty hempty _
  have hleft : plan.resultingState r.resources [] [] = g.ordered :=
    Plan.resultingState_of_done hcompute hgraph (by rintro i x ⟨⟩) (Plan.done_of_isEmpty hempty)
  have hsettle : engine.settle r plan ⟨[], g.ordered, false⟩ s
      = finish (.ok (r.rested engine.clock g.ordered)) (fun release => { release, plan := some plan })
        s := by
    unfold settle
    simp only
    rw [Release.succeed_some (r := { r with actions := [] }) _ hphase]
    rfl
  simp only [Engine.schedule, hlimits, hschedule, complete, Execution.complete_idle, hleft, conclude,
    hsettle, adrift]
  rfl

/-- **To apply what is recorded already** is to find nothing to do. -/
theorem perform_idle {base : List Resource} (hconfig : checkConfig request = .ok ())
    (hlimits : engine.limits.check = .ok ()) (htask : request.task = .apply pipeline)
    (hrun : pipeline.run = .ok spec) (hgraph : Graph.build true spec = .ok g)
    (hcompute : Plan.compute spec base = .ok plan) (hempty : plan.isEmpty = true)
    (hcreate : ∀ r s₁, Keeper.create engine.clock request.triple s = (.ok r, s₁) →
      r.phase = .generating ∧ r.state = some base) (sandbox : Sandbox) :
    Idle engine request g.ordered sandbox s (engine.perform request sandbox s) := by
  obtain ⟨⟨spec', hspec', _, _, hnamed⟩, _⟩ := plans_of_compute hrun hcompute
  rw [hrun] at hspec'
  cases hspec'
  have hordered : ∀ x ∈ g.ordered, x.id ≠ "" := by
    intro x hx hid
    exact hnamed (hid ▸ Resource.mem_ids_of_mem ((Graph.mem_ordered hgraph).mp hx))
  unfold perform prepare prepareSpec
  rw [hconfig]
  simp only [htask]
  cases hcreated : Keeper.create engine.clock request.triple s with
  | mk answer s₁ =>
    cases answer with
    | error e => exact .failed (.create hcreated)
    | ok r =>
      obtain ⟨hphase, hstate⟩ := hcreate r s₁ hcreated
      have hresources : r.resources = base := by
        rw [Release.resources, hstate]
        rfl
      have hgenerate : generate pipeline r.resources = .ok (spec, plan) := by
        unfold generate
        rw [hrun, hresources]
        simp only [hcompute]
      let started : Release :=
        { r with spec := some spec, phase := .applying, modifiedTime := engine.clock }
      have hstart : engine.startWith spec .apply r = .ok started :=
        startWith_eq engine spec .apply hphase
      have hstarted : r.Version started :=
        ⟨⟨rfl, rfl⟩, fun h => Release.problems_of_spec h hnamed rfl rfl rfl⟩
      simp only [hgenerate, hstart, saveStarted]
      cases hsaved : Keeper.save started s₁ with
      | mk answer s₂ =>
        cases answer with
        | error e => exact .failed (.save hcreated .refl hstarted hsaved)
        | ok u =>
          have hrested : r.Version (started.rested engine.clock g.ordered) :=
            ⟨⟨rfl, rfl⟩, fun h => Release.problems_of_state (hstarted.readable h) hordered rfl rfl rfl⟩
          have hcompleted := complete_schedule (r := started) request hlimits hgraph
            (hresources ▸ hcompute) hempty rfl ⟨0, 0⟩ sandbox s₂
          simp only [hcompleted]
          rcases finish_cases (started.rested engine.clock g.ordered)
            (fun release => { release, plan := some plan }) s₂ with ⟨s₃, hs₃⟩ | ⟨e, s₃, hrefused, hs₃⟩
          · rw [hs₃]
            exact .delivered rfl hempty rfl rfl
          · rw [hs₃]
            exact .failed (.save hcreated (.single ⟨started, hstarted, rfl, hsaved⟩) hrested hrefused)

end

/-! ## Whole operations, in histories -/

section

variable {σ : Type} [Backing σ] {recording : Keeper.Recording σ} {engine : Engine}
  {request : Request (Journal σ)} {j j' : Journal σ} {sandbox sandbox' : Sandbox} {d : Delivery}

/-- A release is created under the triple that is asked for. -/
theorem create_triple {now : DateTime} {t : Triple} {r : Release}
    (h : (Keeper.create now t j).1 = .ok r) : r.triple = t := by
  have hstore : (Store.create now t j.store).1 = .ok r := by
    simp only [Keeper.create] at h
    cases hcreate : Store.create now t j.store with
    | mk answer s =>
      rw [hcreate] at h
      cases answer <;> exact h
  exact Store.create_triple hstore

/-- The release of an operation that succeeds is the newest one of its triple. -/
theorem perform_newest (hj : Journal.InOrder recording j)
    (htask : ∀ p live, request.task ≠ .preview p live)
    (hperform : engine.perform request sandbox j = (.ok d, sandbox', j')) (hd : d.succeeded = true) :
    Journal.UnderWay recording j' d.release := by
  obtain ⟨_, r, plan, execution, j₁, result, sandbox₂, r₂, j₂, hprepare, _, hcomplete, hsettle⟩ :=
    perform_executed htask hperform hd
  have hprepared : Prepared.InOrder recording (engine.prepare request ⟨0, 0⟩ j) :=
    prepare_inOrder hj ⟨0, 0⟩
  rw [hprepare] at hprepared
  have hstart : AtHand recording (r, j₁) := ⟨r, hprepared, .refl r⟩
  have hend : AtHand recording
      (execution.complete engine.clock (engine.checkpoint request) sandbox (r, j₁)).2.2 :=
    Execution.complete_context engine.clock checkpoint_inOrder execution sandbox hstart
  rw [hcomplete] at hend
  obtain ⟨last, hlast, hcarries⟩ := hend
  obtain ⟨_, hfinal, hsave⟩ := settle_succeeded hsettle hd
  have hfollows : Release.Follows last d.release :=
    Release.succeed_follows (hcarries.actions result.records) hfinal
  rcases Journal.save_cases hlast hfollows with ⟨e, j₃, hrefused, _⟩ | ⟨j₃, hsaved, hnewest⟩
  · rw [hrefused] at hsave
    cases hsave
  · rw [hsaved] at hsave
    cases hsave
    exact hnewest

/-- An operation is asked for again: with what it generated before, and under the same limits. -/
structure Repeats (engine again : Engine) (request request' : Request (Journal σ))
    (spec : List Resource) : Prop where
  limits : again.limits = engine.limits
  triple : request'.triple = request.triple
  config : request'.config = request.config
  task : ∃ pipeline, request'.task = .apply pipeline ∧ pipeline.run = .ok spec

/-- **Success means the desired resources, exactly.**  Whatever was recorded before, and whatever failed,
was stopped or delayed on the way: where backends answer what they are given, or nothing, an operation
that succeeds records what its pipeline generated, in apply order, or nothing where it destroyed; and to
apply the same once more, as the next operation on the stack, finds nothing to do, if the attributes are
such that the store can hold them. -/
theorem perform_converges (recording : Keeper.Recording σ)
    (hechoes : ∀ spec, request.task.desired = .ok spec → sandbox.Echoes spec)
    (hperform : engine.perform request sandbox j = (.ok d, sandbox', j')) (hd : d.succeeded = true) :
    (request.task = .destroy → d.release.state = some []) ∧
    ∀ pipeline, request.task = .apply pipeline → ∃ spec state,
      pipeline.run = .ok spec ∧ d.release.spec = some spec ∧ d.release.state = some state ∧
      Graph.Arranged spec state ∧
      (Journal.InOrder recording j → Journal.UnderWay recording j' d.release) ∧
      ((∀ x ∈ spec, Value.Comparable (.object x.attributes) ∧ Value.FiniteFields x.attributes) →
        ∀ (again : Engine) (request' : Request (Journal σ)) (later : Journal σ) (sandbox'' : Sandbox),
          Repeats engine again request request' spec → Journal.UnderWay recording later d.release →
          Idle again request' state sandbox'' later (again.perform request' sandbox'' later) ∧
          ∀ st : Keeper.Reliable σ, st.Ready request.triple later.store →
            ∃ d', (again.perform request' sandbox'' later).1 = .ok d') := by
  constructor
  · intro htask
    have hmutates : ∀ p live, request.task ≠ .preview p live := fun p live h => by cases htask ▸ h
    obtain ⟨_, spec, g, _, _, hdesired, _, hgraph, hstate, _⟩ :=
      perform_exact hmutates hechoes hperform hd
    rw [htask] at hdesired
    cases hdesired
    rw [hstate, List.perm_nil.mp (Graph.ordered_perm hgraph)]
  · intro pipeline htask
    have hmutates : ∀ p live, request.task ≠ .preview p live := fun p live h => by cases htask ▸ h
    obtain ⟨created, spec, g, hcreated, htriple, hdesired, hspec, hgraph, hstate, hlimits, hnext⟩ :=
      perform_exact hmutates hechoes hperform hd
    have hconfig := (perform_executed hmutates hperform hd).1
    have hrun : pipeline.run = .ok spec := by
      rw [htask] at hdesired
      exact hdesired
    refine ⟨spec, g.ordered, hrun, hspec pipeline htask, hstate, Graph.arranged_ordered hgraph,
      fun hj => perform_newest hj hmutates hperform hd, ?_⟩
    intro hvalues again request' later sandbox'' hrepeats hlater
    have hfinite : ∀ x ∈ g.ordered, Value.FiniteFields x.attributes := fun x hx =>
      (hvalues x ((Graph.mem_ordered hgraph).mp hx)).2
    obtain ⟨_, hfound, hnothing⟩ := hnext fun x hx => (hvalues x hx).1
    obtain ⟨next, hcompute, hempty⟩ := Plan.compute_map_dumped hfound hnothing hfinite
    obtain ⟨pipeline', htask', hrun'⟩ := hrepeats.task
    -- the next release of the stack starts with the state of this one
    have hcreate : ∀ r j₁, Keeper.create again.clock request'.triple later = (.ok r, j₁) →
        r.phase = .generating ∧ r.state = some (g.ordered.map Resource.dumped) := by
      intro r j₁ hcreate
      have hbegins := Journal.begins_of_create hlater.inOrder hcreate
      have hsame : r.triple = d.release.triple := by
        rw [htriple, create_triple hcreated, create_triple (congrArg Prod.fst hcreate), hrepeats.triple]
      have htakes := hbegins.state_eq hlater.inOrder.lives hlater.newest hsame
      exact ⟨hbegins.phase, htakes.trans (congrArg (Option.map (List.map Resource.dumped)) hstate)⟩
    have hconfig' : checkConfig request' = .ok () := by
      unfold checkConfig at hconfig ⊢
      rw [hrepeats.config]
      exact hconfig
    have hidle : Idle again request' g.ordered sandbox'' later
        (again.perform request' sandbox'' later) :=
      perform_idle hconfig' (hrepeats.limits ▸ hlimits) htask' hrun' hgraph hcompute hempty hcreate
        sandbox''
    refine ⟨hidle, fun st hready => ?_⟩
    rw [← hrepeats.triple] at hready
    generalize again.perform request' sandbox'' later = answer at hidle
    cases hidle with
    | @delivered d' _ _ _ _ _ _ => exact ⟨d', rfl⟩
    | failed fails => exact absurd fails ((Journal.reliable st).not_fails ⟨hready.good, hready.room⟩ _ _)

end

namespace Swap

/-- Backends that answer nothing. -/
def silent : Sandbox := { answer? := fun _ => some none }

/-- The resources are to be created, and are generated in the reverse of their order. -/
def reversed : Request (Journal MemoryStore) :=
  { triple, task := .apply (generating Run.Swap.recorded.reverse) }

/-- The engine that creates them. -/
def limited : Engine := ⟨⟨.whole 300, 4⟩, default⟩

theorem perform_reversed : ∃ d, (limited.perform reversed silent ⟨{}, []⟩).1 = .ok d ∧
    d.succeeded = true ∧ d.release.state = some Run.Swap.recorded := by
  have hcreate : Keeper.create default triple (⟨{}, []⟩ : Journal MemoryStore) =
      (.ok (Release.new default triple 1 []),
        ⟨store [Release.new default triple 1 []], [Release.new default triple 1 []]⟩) := by cbv
  simp only [limited, reversed, perform, checkConfig, prepare, prepareSpec, hcreate]
  exact ⟨_, rfl, rfl, rfl⟩

end Swap

/-- The resources are recorded in apply order, and to apply them again does nothing. -/
theorem perform_converges_reversed :
    Journal.InOrder MemoryStore.recording ⟨{}, []⟩ ∧ ∃ d sandbox' j',
      Swap.limited.perform Swap.reversed Swap.silent ⟨{}, []⟩ = (.ok d, sandbox', j') ∧
      d.succeeded = true ∧ d.release.state = some Run.Swap.recorded ∧ ∃ d' plan j'',
        Swap.limited.perform Swap.reversed sandbox' j' = (.ok d', sandbox', j'') ∧
        d'.plan = some plan ∧ plan.isEmpty = true ∧ d'.succeeded = true ∧
        d'.release.state = some Run.Swap.recorded := by
  have hj : Journal.InOrder MemoryStore.recording ⟨{}, []⟩ :=
    ⟨MemoryStore.keeps_empty, Release.lives_nil⟩
  obtain ⟨d, hverdict, hd, hrecorded⟩ := Swap.perform_reversed
  obtain ⟨sandbox', j', hperform⟩ : ∃ sandbox' j',
      Swap.limited.perform Swap.reversed Swap.silent ⟨{}, []⟩ = (.ok d, sandbox', j') :=
    ⟨_, _, Prod.ext hverdict rfl⟩
  have hechoes : ∀ spec, Swap.reversed.task.desired = .ok spec → Swap.silent.Echoes spec := by
    rintro spec _ x _ r ⟨⟩
  obtain ⟨_, happly⟩ := perform_converges MemoryStore.recording hechoes hperform hd
  obtain ⟨spec, state, hspec, _, hstate, _, hnewest, hagain⟩ := happly _ rfl
  have hspec' : spec = Run.Swap.recorded.reverse := by
    cases hspec
    rfl
  have hvalues : ∀ x ∈ spec,
      Value.Comparable (.object x.attributes) ∧ Value.FiniteFields x.attributes := by
    rw [hspec']
    simp [Run.Swap.recorded, Value.Comparable, Value.ComparableFields, Value.FiniteFields, Value.Finite]
  have hsame : state = Run.Swap.recorded := Option.some.inj (hstate.symm.trans hrecorded)
  -- the store has no failure to offer
  have hgood : MemoryStore.reliable.Good j'.store := by
    have hempty : (Journal.reliable MemoryStore.reliable).Good ⟨{}, []⟩ := MemoryStore.good_empty
    have hordinary : Swap.reversed.task.Ordinary := Swap.ordinary_generating _
    have hsandbox : Swap.silent.Ordinary := ⟨by rintro _ _ _ ⟨⟩, by rintro _ _ ⟨⟩⟩
    have hperformed : Performed (Journal.reliable MemoryStore.reliable) Swap.limited Swap.reversed
        Swap.silent ⟨{}, []⟩ _ := perform_spec hempty hordinary hsandbox (Nat.zero_le 1)
    rw [hperform] at hperformed
    exact hperformed.good
  obtain ⟨hidle, hreliable⟩ := hagain hvalues Swap.limited Swap.reversed j' sandbox'
    ⟨rfl, rfl, rfl, _, rfl, hspec⟩ (hnewest hj)
  obtain ⟨d', hd'⟩ := hreliable MemoryStore.reliable ⟨hgood, trivial⟩
  refine ⟨hj, d, sandbox', j', hperform, hd, hrecorded, d', ?_⟩
  generalize Swap.limited.perform Swap.reversed sandbox' j' = answer at hidle hd'
  cases hidle with
  | @delivered _ plan j'' planned empty succeeded unchanged =>
    cases hd'
    exact ⟨plan, j'', rfl, planned, empty, succeeded, hsame ▸ unchanged⟩
  | failed fails => cases hd'

/-- **Where the record cannot hold the desired resources, to apply them again does not find them**: an
infinite number is null there, so that the second operation updates the resource that it has. -/
theorem perform_converges_endless :
    let spec := [Endless.resource]
    (∀ x ∈ spec, Value.Comparable (.object x.attributes)) ∧
    Sandbox.Echoes spec {} ∧ Endless.backends.Echoes spec ∧
    ∃ d, Endless.create.engine.perform Endless.create.request {} ({} : MemoryStore) =
        (.ok d, Endless.backends, Swap.store [Endless.created]) ∧
      d.succeeded = true ∧ d.release.state = some spec ∧
      ∃ d' plan sandbox s, Endless.create.engine.perform Endless.create.request Endless.backends
          (Swap.store [Endless.created]) = (.ok d', sandbox, s) ∧
        d'.plan = some plan ∧ plan.isEmpty = false ∧
        sandbox.calls = Endless.backends.calls ++ [(.apply, "a")] := by
  have hfirst : Keeper.create default Swap.triple ({} : MemoryStore) =
      (.ok (Release.new default Swap.triple 1 []),
        Swap.store [Release.new default Swap.triple 1 []]) := by cbv
  have hsecond : Keeper.create default Swap.triple (Swap.store [Endless.created]) =
      (.ok (Release.new default Swap.triple 2 [Endless.recorded]),
        Swap.store [Endless.created, Release.new default Swap.triple 2 [Endless.recorded]]) := by cbv
  refine ⟨by simp [Endless.resource, Value.Comparable, Value.ComparableFields, Assoc.keys],
    by rintro x _ r ⟨⟩, by rintro x _ r ⟨⟩, ?_⟩
  simp only [Endless.create, Swap.operation, perform, checkConfig, prepare, prepareSpec, hfirst,
    hsecond]
  exact ⟨_, rfl, rfl, rfl, _, _, _, _, rfl, rfl, rfl, rfl⟩

end Engine

end Rollout
