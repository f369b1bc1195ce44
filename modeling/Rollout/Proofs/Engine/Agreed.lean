import Rollout.Proofs.Engine.Succeeded
import Rollout.Proofs.Execution.Explained
import Rollout.Proofs.Execution.Reported
import Rollout.Proofs.Store.Faithful

/-!
# What an operation delivers

An operation that has executed its plan delivers a release whose phase and error say what its records
say.  What its store holds from then on is the record of that release.

* `Delivery.Agrees` : phase, error and records of a delivery agree;
* `Delivery.Stored` : the release is read from the store as its record holds it;
* `Engine.Ongoing` : a release whose plan is being executed, with what is stored of it;
* `Engine.Legible`, `Engine.Executes.legible` : what is stored of it can be read only if its resources
  are named;
* `Engine.prepare_executes` : an operation that gets as far as an execution has such a release;
* `Engine.settle_agrees`, `Engine.settle_stored` : how an execution that came to its end is settled;
* `Engine.perform_agrees` : so it is for every run that is settled, and for every operation;
* `Engine.perform_disagrees` : an error that repeats the note, and a number that no record holds.
-/

set_option autoImplicit false

namespace Rollout

/-- **What a delivery says of an executed plan agrees**: it has one record an action, it has succeeded
exactly if every action has, and then there is no error; otherwise it has failed, with an error that
tells why. -/
structure Delivery.Agrees (plan : Plan) (d : Delivery) : Prop where
  listed : d.release.actions.map ActionRecord.subject = plan.actions.map fun c => (c.id, c.action)
  succeeded : d.release.phase = .succeeded ↔ ∀ r ∈ d.release.actions, r.status = .succeeded
  unerring : d.release.phase = .succeeded → d.release.error = none
  failed : d.release.phase ≠ .succeeded → d.release.phase = .failed ∧ ∃ text,
    d.release.error = some text ∧ ActionRecord.Explain d.release.actions text
  answered : d.error = d.release.error

/-- **The release of a delivery is read from the store as its record holds it**, if its resources are
named, and as it is if it is finite besides. -/
structure Delivery.Stored {σ : Type} [Backing σ] (d : Delivery) (s : σ) : Prop where
  reread : Store.get d.release.triple d.release.revision s = d.release.dumped.reread
  named : (∀ x ∈ d.release.resources, x.id ≠ "") →
    Store.get d.release.triple d.release.revision s = .ok d.release.dumped
  finite : (∀ x ∈ d.release.resources, x.id ≠ "") → d.release.Finite →
    Store.get d.release.triple d.release.revision s = .ok d.release

namespace Delivery

variable {plan : Plan} {d : Delivery}
  (hlisted : d.release.actions.map ActionRecord.subject = plan.actions.map fun c => (c.id, c.action))

include hlisted

theorem agrees_of_succeeded (hall : ∀ r ∈ d.release.actions, r.status = .succeeded)
    (hphase : d.release.phase = .succeeded) (hnone : d.release.error = none) (herror : d.error = none) :
    d.Agrees plan where
  listed := hlisted
  succeeded := iff_of_true hphase hall
  unerring _ := hnone
  failed hne := absurd hphase hne
  answered := herror.trans hnone.symm

theorem agrees_of_failed (hnotall : ¬ ∀ r ∈ d.release.actions, r.status = .succeeded)
    (hphase : d.release.phase = .failed) {text : String} (hsome : d.release.error = some text)
    (herror : d.error = some text) (hexplain : ActionRecord.Explain d.release.actions text) :
    d.Agrees plan where
  listed := hlisted
  succeeded := iff_of_false (by rw [hphase]; decide) hnotall
  unerring hsucceeded := by
    rw [hphase] at hsucceeded
    cases hsucceeded
  failed _ := ⟨hphase, text, hsome, hexplain⟩
  answered := herror.trans hsome.symm

end Delivery

namespace Engine

section

variable {σ : Type} [Backing σ] {engine : Engine} {request : Request σ} {r : Release} {s s' : σ}
  {plan : Plan} {d : Delivery} {t : Triple} {now : Instant}

/-! ## Ongoing releases -/

/-- The plan of a release is being executed.  It has no error so far, and the record of a version of it
is stored that has the same spec. -/
structure Ongoing (context : Release × σ) : Prop where
  mutating : context.1.phase.isMutating = true
  clean : context.1.error = none
  stored : ∃ last : Release,
    Backing.load context.1.triple context.1.revision context.2 = .ok (some last.dumped) ∧
    last.revision = context.1.revision ∧ last.spec = context.1.spec

theorem store_of_save (h : Keeper.save r s = (.ok (), s')) : Store.save r s = .ok s' := by
  cases hsave : Store.save r s with
  | error e =>
    simp only [Keeper.save, hsave] at h
    cases h
  | ok s'' =>
    simp only [Keeper.save, hsave] at h
    cases h
    rfl

/-- A progress that is refused leaves the store as it was. -/
theorem store_of_refused {e : Failure} (h : Keeper.save r s = (.error e, s')) :
    Store.save r s = .error e ∧ s' = s := by
  cases hsave : Store.save r s with
  | error e' =>
    simp only [Keeper.save, hsave] at h
    cases h
    exact ⟨rfl, rfl⟩
  | ok s'' =>
    simp only [Keeper.save, hsave] at h
    cases h

section

variable (faithful : Backing.Faithful σ)

include faithful

theorem ongoing_of_save (hmutating : r.phase.isMutating = true) (hclean : r.error = none)
    (hsave : Keeper.save r s = (.ok (), s')) : Ongoing (r, s') :=
  ⟨hmutating, hclean, r, Store.load_of_save faithful (store_of_save hsave), rfl, rfl⟩

/-- A report of progress leaves a release ongoing, whether it is saved or refused. -/
theorem checkpoint_ongoing (result : ExecutionResult) (context : Release × σ) (h : Ongoing context) :
    Ongoing (engine.checkpoint request result context).2 := by
  obtain ⟨r, s⟩ := context
  obtain ⟨hmutating, hclean, last, hload, hrevision, hspec⟩ := h
  cases hsave : Keeper.save (r.withProgress engine.clock result) s with
  | mk answer s' =>
    cases answer with
    | ok u =>
      rw [checkpoint_saved hmutating hsave]
      exact ongoing_of_save faithful hmutating hclean hsave
    | error e =>
      rw [checkpoint_refused hmutating hsave, (store_of_refused hsave).2]
      exact ⟨hmutating, hclean, last, hload, hrevision, hspec⟩

/-- No report of progress fails for want of an order. -/
theorem checkpoint_isGraph (result : ExecutionResult) (context : Release × σ) :
    ∀ e ∈ (engine.checkpoint request result context).1.failure?, e.isGraph = false := by
  intro e he
  unfold checkpoint at he
  split at he
  · cases he
    rfl
  · simp only at he
    split at he
    · rename_i hsave
      cases he
      exact faithful.failure (store_of_refused hsave).1
    · cases he

/-- A release that was started is ongoing. -/
theorem saveStarted_ongoing {started : Except LifecycleError Release}
    (hstarted : ∀ r, started = .ok r → r.phase.isMutating = true ∧ r.error = none)
    (h : saveStarted started s = (.ok r, s')) : Ongoing (r, s') := by
  obtain ⟨hmutating, hclean⟩ := hstarted r (saveStarted_inv h)
  unfold saveStarted at h
  split at h
  · cases h
  · split at h
    · cases h
    · rename_i hsave
      cases h
      exact ongoing_of_save faithful hmutating hclean hsave

end

/-! ## Preparation -/

/-- An execution is prepared: of a plan for the resources of an ongoing release of a triple, and of its
schedule. -/
structure Executes (engine : Engine) (t : Triple) (now : Instant) (r : Release) (plan : Plan)
    (execution : Execution) (s : σ) : Prop where
  triple : r.triple = t
  ongoing : Ongoing (r, s)
  named : ∀ x ∈ r.resources, x.id ≠ ""
  computed : ∃ spec, Plan.compute spec r.resources = .ok plan
  scheduled : ∃ schedule interrupts stopped, Schedule.of? plan r.resources = .ok schedule ∧
    execution = .init plan r.resources schedule engine.limits interrupts stopped now

section

variable {r' : Release} {plan' : Plan} {execution : Execution}

theorem schedule_executes (htriple : r.triple = t) (hongoing : Ongoing (r, s))
    (hnamed : ∀ x ∈ r.resources, x.id ≠ "")
    (hcompute : ∃ spec, Plan.compute spec r.resources = .ok plan)
    (h : engine.schedule request r plan now s = (.executing r' plan' execution, s')) :
    Executes engine t now r' plan' execution s' := by
  unfold schedule at h
  split at h
  · cases h
  · split at h
    · cases h
    · rename_i schedule hschedule
      cases h
      exact ⟨htriple, hongoing, hnamed, hcompute, schedule, _, _, hschedule, rfl⟩

/-- Where a spec was generated and planned, the operation was started, and went on. -/
theorem prepareSpec_inv {pipeline : Pipeline} {operation : Operation}
    {next : Release → Plan → σ → Prepared × σ}
    (h : engine.prepareSpec request pipeline operation next s = (.executing r plan execution, s')) :
    ∃ created s₀ spec plan' started s₁,
      Keeper.create engine.clock request.triple s = (.ok created, s₀) ∧
      Plan.compute spec created.resources = .ok plan' ∧
      saveStarted (engine.startWith spec operation created) s₀ = (.ok started, s₁) ∧
      next started plan' s₁ = (.executing r plan execution, s') := by
  unfold prepareSpec at h
  split at h
  · cases h
  · rename_i created s₀ hcreate
    split at h
    · split at h
      · cases h
      · cases h
    · rename_i spec plan' hgenerate
      split at h
      · cases h
      · rename_i started s₁ hsaved
        exact ⟨created, s₀, spec, plan', started, s₁, hcreate, (generate_inv hgenerate).2, hsaved, h⟩

variable (faithful : Backing.Faithful σ)

include faithful

theorem prepareDestroy_executes
    (h : engine.prepareDestroy request now s = (.executing r plan execution, s')) :
    Executes engine request.triple now r plan execution s' := by
  unfold prepareDestroy at h
  split at h
  · cases h
  · cases h
  · split at h
    · cases h
    · rename_i created s₀ hcreate
      obtain ⟨⟨k, state, rfl, hnamed⟩, -⟩ := Store.created_of_create faithful hcreate
      split at h
      · cases h
      · rename_i plan' hcompute
        split at h
        · cases h
        · rename_i started s₁ hsaved
          rw [startDestroy_eq engine.clock rfl] at hsaved
          have hongoing : Ongoing (started, s₁) := by
            refine saveStarted_ongoing faithful ?_ hsaved
            rintro r ⟨⟩
            exact ⟨rfl, rfl⟩
          cases saveStarted_inv hsaved
          exact schedule_executes rfl hongoing hnamed ⟨[], hcompute⟩ h

/-- **An operation that gets as far as an execution** has an ongoing release. -/
theorem prepare_executes (h : engine.prepare request now s = (.executing r plan execution, s')) :
    Executes engine request.triple now r plan execution s' := by
  unfold prepare at h
  split at h
  · rename_i pipeline _
    obtain ⟨created, s₀, spec, plan', started, s₁, hcreate, hcompute, hsaved, hnext⟩ :=
      prepareSpec_inv h
    obtain ⟨⟨k, state, rfl, hnamed⟩, -⟩ := Store.created_of_create faithful hcreate
    rw [startWith_eq engine spec .apply rfl] at hsaved
    have hongoing : Ongoing (started, s₁) := by
      refine saveStarted_ongoing faithful ?_ hsaved
      rintro r ⟨⟩
      exact ⟨rfl, rfl⟩
    cases saveStarted_inv hsaved
    exact schedule_executes rfl hongoing hnamed ⟨spec, hcompute⟩ hnext
  · obtain ⟨_, _, _, _, _, _, _, _, _, hnext⟩ := prepareSpec_inv h
    cases hnext
  · obtain ⟨_, _, _, _, _, _, _, _, _, hnext⟩ := prepareSpec_inv h
    cases hnext
  · exact prepareDestroy_executes faithful h

end

/-! ## Settled executions -/

/-- A release that records the end of an execution. -/
def concluded (now : DateTime) (result : ExecutionResult) (r : Release) : Release :=
  { r with
    actions := result.records, state := some result.state, modifiedTime := now,
    phase := if result.succeeded then .succeeded else .failed,
    error := if result.succeeded then r.error else some (result.errorSummary.getD "") }

/-- **What an execution is settled with**: the release that records its end, as it was saved. -/
theorem settle_inv {result : ExecutionResult} (hmutating : r.phase.isMutating = true)
    (h : engine.settle r plan result s = (.ok d, s')) :
    Keeper.save (concluded engine.clock result r) s = (.ok (), s') ∧
      d.release = concluded engine.clock result r ∧
      d.error = if result.succeeded then none else some (result.errorSummary.getD "") := by
  unfold settle at h
  unfold concluded
  simp only at h
  split at h
  · rename_i hsucceeded
    rw [Release.succeed_some (r := { r with actions := result.records }) _ hmutating] at h
    obtain ⟨_, ⟨⟩, hsave, rfl⟩ := finish_inv h
    simp only [if_pos hsucceeded]
    exact ⟨hsave, trivial, trivial⟩
  · rename_i hfails
    rw [Release.fail_some (r := { r with actions := result.records }) _ _ hmutating] at h
    obtain ⟨_, ⟨⟩, hsave, rfl⟩ := finish_inv h
    simp only [if_neg hfails]
    exact ⟨hsave, trivial, trivial⟩

/-- **What was delivered is read from then on**, as its record holds it. -/
theorem settle_stored {result : ExecutionResult} (faithful : Backing.Faithful σ)
    (hongoing : Ongoing (r, s)) (h : engine.settle r plan result s = (.ok d, s')) : d.Stored s' := by
  obtain ⟨hmutating, -, stored, hload, hrevision, hspec⟩ := hongoing
  obtain ⟨hsave, hrelease, -⟩ := settle_inv hmutating h
  have hsave := store_of_save hsave
  have hget : Store.get d.release.triple d.release.revision s' = d.release.dumped.reread := by
    rw [hrelease]
    unfold Store.get
    simp only [Store.load_of_save faithful hsave]
  have hnamed : (∀ x ∈ d.release.resources, x.id ≠ "") → d.release.problems = [] := by
    intro hnamed
    -- what was stored before could be read, or nothing would have been saved in its place
    have hreadable : stored.problems = [] :=
      stored.problems_dumped ▸ Store.readable_of_save hsave hload
    rw [hrelease] at hnamed ⊢
    exact Release.problems_of_state hreadable hnamed hrevision.symm hspec.symm rfl
  have hread : (∀ x ∈ d.release.resources, x.id ≠ "") →
      Store.get d.release.triple d.release.revision s' = .ok d.release.dumped := fun h =>
    hget.trans (Release.reread_eq (d.release.problems_dumped.trans (hnamed h)))
  exact ⟨hget, hread, fun h hfinite => (hread h).trans (congrArg Except.ok hfinite.dumped_eq)⟩

theorem settle_resources {result : ExecutionResult} (hmutating : r.phase.isMutating = true)
    (h : engine.settle r plan result s = (.ok d, s')) : d.release.resources = result.state := by
  rw [(settle_inv hmutating h).2.1]
  rfl

/-- **What was delivered agrees**, wherever the execution was stopped and in whatever order its actions
ended. -/
theorem settle_agrees {baseline : List Resource} {schedule : Schedule} {limit : Int}
    {outcome : Nat → Outcome} {run : Run} (hschedule : Schedule.of? plan baseline = .ok schedule)
    (hreached : Run.Reached schedule limit outcome run) (hidle : run.running = [])
    (hongoing : Ongoing (r, s))
    (h : engine.settle r plan (run.cancelPending.result plan baseline run.anyPending) s
      = (.ok d, s')) : d.Agrees plan := by
  obtain ⟨hmutating, hclean, -⟩ := hongoing
  obtain ⟨-, hrelease, herror⟩ := settle_inv hmutating h
  have hactions : d.release.actions = run.cancelPending.records := by
    rw [hrelease]
    rfl
  have hlisted := hreached.listed_left hschedule (.inr rfl)
  rw [← hactions] at hlisted
  cases hsucceeded : (run.cancelPending.result plan baseline run.anyPending).succeeded with
  | true =>
    have hall : ∀ r ∈ run.cancelPending.records, r.status = .succeeded := by
      simpa [ExecutionResult.succeeded, Run.result] using hsucceeded
    rw [hsucceeded] at herror
    refine Delivery.agrees_of_succeeded hlisted (hactions ▸ hall) ?_ ?_ herror
    · rw [hrelease, concluded, hsucceeded]
      rfl
    · rw [hrelease, concluded, hsucceeded]
      exact hclean
  | false =>
    have hnotall : ¬ ∀ r ∈ run.cancelPending.records, r.status = .succeeded := by
      simpa [ExecutionResult.succeeded, Run.result] using hsucceeded
    obtain ⟨text, htext, hexplain⟩ :=
      hreached.explained (Schedule.lawful_of hschedule) hidle hsucceeded
    rw [hsucceeded, htext] at herror
    refine Delivery.agrees_of_failed hlisted (hactions ▸ hnotall) ?_ ?_ herror (hactions ▸ hexplain)
    · rw [hrelease, concluded, hsucceeded]
      rfl
    · rw [hrelease, concluded, hsucceeded, htext]
      rfl

/-! ## Whole operations -/

/-- An execution delivers only what it has settled: whatever cuts it short escapes. -/
theorem conclude_ok {ending : Ending} (hcause : ∀ c ∈ ending.cause?, c.isGraph = false)
    (h : engine.conclude r plan ending s = (.ok d, s')) :
    ∃ result, ending = .finished result ∧ engine.settle r plan result s = (.ok d, s') := by
  unfold conclude at h
  split at h
  · exact ⟨_, rfl, h⟩
  · cases hcause _ rfl
  · cases h
  · exact absurd h record_ne

/-- An ongoing release records a run, if what is stored of it can be read: the resources are named. -/
structure Legible (plan : Plan) (baseline : List Resource) (run : Run) (context : Release × σ) :
    Prop where
  ongoing : Ongoing context
  named : ∀ stored, Backing.load context.1.triple context.1.revision context.2 = .ok (some stored) →
    stored.problems = [] → ∀ x ∈ (run.result plan baseline false).state, x.id ≠ ""

/-- A report that is received is stored. -/
theorem checkpoint_legible (faithful : Backing.Faithful σ) {baseline : List Resource} {run run' : Run}
    {context : Release × σ} (h : Legible plan baseline run context)
    (hreceived : (engine.checkpoint request (run'.result plan baseline false) context).1.failure?
      = none) :
    Legible plan baseline run'
      (engine.checkpoint request (run'.result plan baseline false) context).2 := by
  refine ⟨checkpoint_ongoing faithful _ _ h.ongoing, ?_⟩
  obtain ⟨r, s⟩ := context
  have hmutating := h.ongoing.mutating
  cases hsave : Keeper.save (r.withProgress engine.clock (run'.result plan baseline false)) s with
  | mk answer s' =>
    cases answer with
    | error e =>
      rw [checkpoint_refused hmutating hsave] at hreceived
      cases hreceived
    | ok u =>
      rw [checkpoint_saved hmutating hsave]
      intro stored hload hreadable
      have hstored := Store.load_of_save faithful (store_of_save hsave)
      rw [show Backing.load _ _ s' = _ from hload, Except.ok.injEq, Option.some.injEq] at hstored
      rw [hstored, Release.problems_dumped] at hreadable
      exact (Release.problems_eq_nil_iff.mp hreadable).2.2.2

/-- **What an execution finishes with can be read**, if it is settled: else nothing could be saved in
the place of what was reported last. -/
theorem Executes.legible {execution : Execution} {sandbox : Sandbox} (faithful : Backing.Faithful σ)
    (h : Executes engine t now r plan execution s) {result : ExecutionResult} {context : Release × σ}
    {sandbox' : Sandbox}
    (hanswer : execution.complete engine.clock (engine.checkpoint request) sandbox (r, s)
      = (.finished result, sandbox', context))
    (hsettle : engine.settle context.1 plan result context.2 = (.ok d, s')) :
    ∀ x ∈ d.release.resources, x.id ≠ "" := by
  obtain ⟨_, hongoing, hbase, ⟨spec, hcompute⟩, schedule, interrupts, stopped, hschedule, rfl⟩ := h
  have hkeys := (Plan.compares_of hcompute).nodup
  have hbegin : Legible plan r.resources (.init schedule) (r, s) := by
    have hnone : ({} : Sandbox).Named := by rintro _ _ ⟨⟩
    have hinit : Execution.Reached schedule engine.limits {} (.init schedule, {}) := .refl
    exact ⟨hongoing, fun _ _ _ => named_resultingState hcompute hschedule hbase hnone hinit _⟩
  have hconfirms : ∀ (run run' : Run) (context : Release × σ), run.Confirms run' →
      Legible plan r.resources run context → Legible plan r.resources run' context := by
    intro run run' context hconfirms h
    refine ⟨h.ongoing, fun stored hload hreadable => ?_⟩
    rw [hconfirms.state_eq hkeys r.resources false false]
    exact h.named stored hload hreadable
  obtain ⟨run, cancelled, rfl, hlegible⟩ : ∃ run cancelled,
      result = run.result plan r.resources cancelled ∧ Legible plan r.resources run context := by
    have htold := Execution.complete_told hconfirms (fun _ _ _ h => checkpoint_legible faithful h)
      schedule engine.limits interrupts stopped now engine.clock sandbox hbegin
      (congrArg Prod.fst hanswer)
    rwa [hanswer] at htold
  obtain ⟨hmutating, -, last, hload, -⟩ := hlegible.ongoing
  rw [settle_resources hmutating hsettle]
  exact hlegible.named _ hload
    (Store.readable_of_save (store_of_save (settle_inv hmutating hsettle).1) hload)

/-- What is delivered of an execution is what it is settled with. -/
theorem Executes.agrees {execution : Execution} {sandbox : Sandbox} (faithful : Backing.Faithful σ)
    (h : Executes engine t now r plan execution s)
    {answer : Ending × Sandbox × Release × σ}
    (hanswer : execution.complete engine.clock (engine.checkpoint request) sandbox (r, s) = answer)
    (hconclude : engine.conclude answer.2.2.1 plan answer.1 answer.2.2.2 = (.ok d, s')) :
    d.Agrees plan ∧ d.release.triple = t ∧ d.Stored s' ∧ ∀ x ∈ d.release.resources, x.id ≠ "" := by
  have hongoing' : Ongoing answer.2.2 := by
    rw [← hanswer]
    exact Execution.complete_context engine.clock (checkpoint_ongoing faithful) execution sandbox
      h.ongoing
  have hcause : ∀ c ∈ answer.1.cause?, c.isGraph = false := by
    rw [← hanswer]
    refine Execution.complete_cause ?_ ?_ engine.clock execution sandbox (r, s)
    · rfl
    · exact checkpoint_isGraph faithful
  have hretains : r.Retains answer.2.2.1 := complete_retains hanswer
  have hexecutes := h
  obtain ⟨htriple, -, -, -, schedule, interrupts, stopped, hschedule, rfl⟩ := h
  have hends : Execution.Ends (.init plan r.resources schedule engine.limits interrupts stopped now)
      sandbox answer.1 answer.2.1 := by
    rw [← hanswer]
    exact Execution.complete_ends (Schedule.lawful_of hschedule) plan r.resources sandbox now
      engine.clock interrupts stopped (engine.checkpoint request) (r, s)
  obtain ⟨ending, sandbox', r', s''⟩ := answer
  obtain ⟨result, rfl, hsettle⟩ := conclude_ok hcause hconclude
  have hrelease : d.release.triple = r'.triple := by
    rw [(settle_inv hongoing'.mutating hsettle).2.1]
    rfl
  cases hends with
  | finished reached idle =>
    exact ⟨settle_agrees hschedule (Execution.Reached.run reached) idle hongoing' hsettle,
      hrelease.trans (hretains.triple.trans htriple), settle_stored faithful hongoing' hsettle,
      hexecutes.legible faithful hanswer hsettle⟩

/-- **Outcome, error and records of an operation agree.**  Whatever the plan, in whatever order its
actions end and however they do, and wherever the execution is stopped: what is delivered of a run that
came to its end has succeeded exactly if all its actions have, and otherwise has failed with a text that
lists the error of every action that failed, and holds a note exactly if some action was cancelled or one
of these errors repeats it.  What is read from the store from then on is what the record of the release
holds, if its resources are named.  So it is for every operation that executes a plan and returns, where
they always are. -/
theorem perform_agrees (faithful : Backing.Faithful σ) (engine : Engine) :
    (∀ plan baseline schedule, Schedule.of? plan baseline = .ok schedule →
      ∀ limit outcome run, Run.Reached schedule limit outcome run → run.running = [] →
      ∀ (r : Release) (s : σ) d s', Ongoing (r, s) →
        engine.settle r plan (run.cancelPending.result plan baseline run.anyPending) s = (.ok d, s') →
        d.Agrees plan ∧ d.Stored s') ∧
    ∀ (request : Request σ) sandbox (s : σ) r plan execution s₁ d sandbox' s',
      engine.prepare request ⟨0, 0⟩ s = (.executing r plan execution, s₁) →
      engine.perform request sandbox s = (.ok d, sandbox', s') →
      d.Agrees plan ∧ d.release.triple = request.triple ∧
        Store.get d.release.triple d.release.revision s' = .ok d.release.dumped ∧
        (d.release.Finite → Store.get d.release.triple d.release.revision s' = .ok d.release) := by
  constructor
  · intro plan baseline schedule hschedule limit outcome run hreached hidle r s d s' hongoing hsettle
    exact ⟨settle_agrees hschedule hreached hidle hongoing hsettle,
      settle_stored faithful hongoing hsettle⟩
  · intro request sandbox s r plan execution s₁ d sandbox' s' hprepare hperform
    unfold perform at hperform
    split at hperform
    · cases hperform
    · simp only [hprepare, complete] at hperform
      obtain ⟨hagrees, htriple, hstored, hnamed⟩ :=
        (prepare_executes faithful hprepare).agrees faithful rfl
          (Prod.ext (Prod.mk.inj hperform).1 (Prod.mk.inj (Prod.mk.inj hperform).2).2)
      exact ⟨hagrees, htriple, hstored.named hnamed, hstored.finite hnamed⟩

end

/-! ### A stop after a failure, recorded

The three resources of `Halt` are created, one at a time.  The creation of `a` takes two microseconds
and fails; no action is started later than one. -/

namespace Halted

/-- The request to create them. -/
def request : Request MemoryStore where
  triple := Swap.triple
  task := .apply (Swap.generating [Halt.a, Halt.b, Halt.c])
  interrupts := { stopAt := some 1000 }

/-- The backends, which fail to create `a`. -/
def backends : Sandbox where
  delay _ _ := 2000
  failure? _ id := if id = "a" then some (.general "boom") else none

/-- An engine that runs one action at a time. -/
def engine : Engine := ⟨⟨.whole 300, 1⟩, default⟩

theorem create : Keeper.create default Swap.triple ({} : MemoryStore) =
    (.ok (Release.new default Swap.triple 1 []), Swap.store [Release.new default Swap.triple 1 []]) := by
  cbv

/-- The release when its operation is started. -/
def started : Release where
  triple := Swap.triple
  revision := 1
  spec := some [Halt.a, Halt.b, Halt.c]
  phase := .applying
  createTime := default
  modifiedTime := default

theorem prepare_request : ∃ execution, engine.prepare request ⟨0, 0⟩ ({} : MemoryStore) =
    (.executing started Halt.plan execution, Swap.store [started]) := by
  simp only [engine, request, prepare, prepareSpec, create]
  exact ⟨_, rfl⟩

theorem settle_stopped : ∃ d s, engine.settle started Halt.plan
      (Halt.stopped.cancelPending.result Halt.plan [] Halt.stopped.anyPending) (Swap.store [started]) =
    (.ok d, s) := ⟨_, _, rfl⟩

theorem perform_request : ∃ d sandbox s, engine.perform request backends ({} : MemoryStore) =
      (.ok d, sandbox, s) ∧
    d.release.actions.map ActionRecord.status = [.failed, .skipped, .cancelled] ∧
    d.error = some "create a failed: boom; operation cancelled before all actions started" := by
  simp only [engine, request, perform, checkConfig, prepare, prepareSpec, create]
  exact ⟨_, _, _, rfl, rfl, rfl⟩

end Halted

/-- One action failed, one was skipped and one cancelled; the release says so, and is read again. -/
theorem perform_agrees_halted :
    (∃ d s, Halted.engine.settle Halted.started Halt.plan
          (Halt.stopped.cancelPending.result Halt.plan [] Halt.stopped.anyPending)
          (Swap.store [Halted.started]) = (.ok d, s) ∧
        d.Agrees Halt.plan ∧ d.Stored s) ∧
      ∃ d sandbox s,
        Halted.engine.perform Halted.request Halted.backends ({} : MemoryStore) = (.ok d, sandbox, s) ∧
        d.release.actions.map ActionRecord.status = [.failed, .skipped, .cancelled] ∧
        d.release.error
          = some "create a failed: boom; operation cancelled before all actions started" ∧
        d.Agrees Halt.plan ∧ Store.get d.release.triple d.release.revision s = .ok d.release.dumped := by
  obtain ⟨execution, hprepare⟩ := Halted.prepare_request
  have hexecutes := prepare_executes MemoryStore.faithful hprepare
  obtain ⟨hruns, hperforms⟩ := perform_agrees MemoryStore.faithful Halted.engine
  constructor
  · obtain ⟨d, s, hsettle⟩ := Halted.settle_stopped
    have hschedule : Schedule.of? Halt.plan [] = .ok Halt.schedule := rfl
    exact ⟨d, s, hsettle, hruns Halt.plan [] Halt.schedule hschedule 1 Halt.outcome Halt.stopped
      Halt.reached rfl Halted.started _ d s hexecutes.ongoing hsettle⟩
  · obtain ⟨d, sandbox, s, hperform, hstatuses, herror⟩ := Halted.perform_request
    obtain ⟨hagrees, -, hget, -⟩ := hperforms Halted.request Halted.backends {} Halted.started Halt.plan
      execution _ d sandbox s hprepare hperform
    exact ⟨d, sandbox, s, hperform, hstatuses, hagrees.answered.symm.trans herror, hagrees, hget⟩

/-! ### A note that is repeated, and a number that is not recorded -/

namespace Halted

/-- One resource is created. -/
def creates (r : Resource) : Request MemoryStore :=
  { triple := Swap.triple, task := .apply (Swap.generating [r]) }

/-- Backends whose error is the note. -/
def repeating : Sandbox where
  failure? _ _ := some (.general cancellationNote)

theorem perform_repeating : ∃ d sandbox s,
    engine.perform (creates Halt.a) repeating ({} : MemoryStore) = (.ok d, sandbox, s) ∧
    d.release.actions.map ActionRecord.status = [.failed] ∧
    d.release.error = some ("create a failed: " ++ cancellationNote) := by
  simp only [engine, creates, perform, checkConfig, prepare, prepareSpec, create]
  exact ⟨_, _, _, rfl, rfl, rfl⟩

theorem perform_endless : ∃ d sandbox s,
    engine.perform (creates Endless.resource) {} ({} : MemoryStore) = (.ok d, sandbox, s) ∧
    d.release.state = some [Endless.resource] ∧
    Store.get d.release.triple d.release.revision s = .ok Endless.created := by
  simp only [engine, creates, perform, checkConfig, prepare, prepareSpec, create]
  exact ⟨_, _, _, rfl, rfl, rfl⟩

end Halted

/-- **What is delivered need not be what is read, nor is the note always meant**: a backend's error may
repeat the note where nothing was cancelled, and a release with an infinite number is read without it. -/
theorem perform_disagrees :
    (∃ d sandbox s, Halted.engine.perform (Halted.creates Halt.a) Halted.repeating ({} : MemoryStore)
        = (.ok d, sandbox, s) ∧ (∀ r ∈ d.release.actions, r.status ≠ .cancelled) ∧
      ∃ text, d.release.error = some text ∧ Text.Within cancellationNote text) ∧
    ∃ d sandbox s, Halted.engine.perform (Halted.creates Endless.resource) {} ({} : MemoryStore)
        = (.ok d, sandbox, s) ∧
      Store.get d.release.triple d.release.revision s ≠ .ok d.release := by
  constructor
  · obtain ⟨d, sandbox, s, hperform, hstatuses, herror⟩ := Halted.perform_repeating
    refine ⟨d, sandbox, s, hperform, fun r hr hcancelled => ?_, _, herror, "create a failed: ", "", ?_⟩
    · have hmem := List.mem_map_of_mem (f := ActionRecord.status) hr
      rw [hstatuses, hcancelled] at hmem
      exact absurd hmem (by decide)
    · simp
  · obtain ⟨d, sandbox, s, hperform, hstate, hget⟩ := Halted.perform_endless
    refine ⟨d, sandbox, s, hperform, fun hsame => ?_⟩
    rw [hget, Except.ok.injEq] at hsame
    rw [← hsame] at hstate
    exact absurd hstate (by decide)

end Engine

end Rollout
