import Rollout.Proofs.Engine.Unordered
import Rollout.Proofs.Execution.Destroyed

/-!
# Destroying a stack

A destroy of a recorded state that has a graph is always executed, and the release records what is
left by then, also if the operation is cancelled so often that only its progress was saved.

* `Engine.LeftBy` : a state that a run of a plan has left;
* `Engine.execute_leaves` : what an execution leaves in the store;
* `Engine.prepare_destroy` : the preparation of a destroy;
* `Engine.destroyed` : what a destroy leaves.
-/

set_option autoImplicit false

namespace Rollout.Engine

section

variable {σ : Type} [Keeper σ] {st : Keeper.Reliable σ} {engine : Engine} {request : Request σ}
  {before : Kept} {r : Release} {s : σ} {t : Triple} {plan : Plan} {baseline : List Resource}
  {schedule : Schedule} {sandbox : Sandbox}

/-! ## What executions leave -/

/-- A result that a run has come to, under way or given up. -/
def LeftBy (plan : Plan) (baseline : List Resource) (schedule : Schedule) (limits : Limits)
    (sandbox : Sandbox) (result : ExecutionResult) : Prop :=
  ∃ run final cancelled,
    Run.Reached schedule limits.concurrency (schedule.outcomes limits sandbox) run ∧
    (final = run ∨ final = run.cancelPending) ∧ result = final.result plan baseline cancelled

/-- The release of an execution is under way, and its state is one that a run has left. -/
structure Leaving (st : Keeper.Reliable σ) (before : Kept) (t : Triple)
    (result : ExecutionResult → Prop) (context : Release × σ) : Prop where
  begun : Begun st before t context
  left : ∃ x, result x ∧ context.1.state = some x.state

theorem Leaving.checkpoint {result : ExecutionResult → Prop} {context : Release × σ}
    (h : Leaving st before t result context) {x : ExecutionResult} (hx : result x)
    (hnamed : ∀ r ∈ x.state, r.id ≠ "") :
    (engine.checkpoint request x context).1.failure? = none ∧
      Leaving st before t result (engine.checkpoint request x context).2 := by
  have hspec : (engine.checkpoint request x context).1.failure? = none ∧
      Begun st before t (engine.checkpoint request x context).2 := checkpoint_spec h.begun hnamed
  obtain ⟨hreceived, hbegun⟩ := hspec
  refine ⟨hreceived, hbegun, x, hx, ?_⟩
  obtain ⟨r, s⟩ := context
  obtain ⟨hholds, hphase, _⟩ := h.begun
  obtain ⟨s', hsave, _⟩ := hholds.save (r := r.withProgress engine.clock x) ⟨rfl, rfl⟩
    (Release.problems_of_state hholds.readable hnamed rfl rfl rfl)
  rw [checkpoint_saved hphase hsave]
  rfl

/-- An execution that is cut short is recorded, if anything is left of it, but for a cycle. -/
theorem conclude_interrupted {cause : Failure} (hcause : ∀ e, cause ≠ .graph e)
    (left : Option ExecutionResult) (adrift : List Flight) :
    engine.conclude r plan (.interrupted cause left adrift) s =
      match left with
      | none => (.error cause, s)
      | some left => engine.record r cause left s := by
  cases cause <;> cases left <;> first | rfl | exact absurd rfl (hcause _)

variable (engine plan) in
/-- **What the end of an execution leaves in the store**: the release, with a state that was left, as
records hold it. -/
theorem Leaving.conclude {result : ExecutionResult → Prop} {context : Release × σ} {ending : Ending}
    (h : Leaving st before t result context)
    (hleft : ∀ x ∈ Execution.left? ending, result x ∧ ∀ r ∈ x.state, r.id ≠ "") :
    ∃ r x, st.kept (engine.conclude context.1 plan ending context.2).2 = before.with r ∧
      r.triple = t ∧ result x ∧ r.state = some (x.state.map Resource.dumped) ∧
      ((∃ x, Execution.left? ending = some x) → r.isTerminal = true) := by
  obtain ⟨r, s⟩ := context
  obtain ⟨⟨hholds, hphase, htriple⟩, x₀, hx₀, hstate₀⟩ := h
  simp only at hholds hphase htriple hstate₀
  have hclose : ∀ x s', result x → st.Closed before r.triple (some x.state) s' →
      ∃ r x, st.kept s' = before.with r ∧ r.triple = t ∧ result x ∧
        r.state = some (x.state.map Resource.dumped) ∧
        ((∃ x, Execution.left? ending = some x) → r.isTerminal = true) := by
    rintro x s' hx ⟨_, r', hkept, htriple', hterminal, hstate⟩
    exact ⟨r'.dumped, x, hkept, htriple'.trans htriple, hx, by simp [Release.dumped, hstate],
      fun _ => hterminal⟩
  cases ending with
  | finished x =>
    obtain ⟨hx, hnamed⟩ := hleft x rfl
    exact hclose x _ hx (settle_closed hholds ⟨rfl, rfl⟩ hholds.readable hphase plan hnamed)
  | interrupted cause left adrift =>
    by_cases hcause : ∃ e, cause = .graph e
    · obtain ⟨e, rfl⟩ := hcause
      refine hclose x₀ _ hx₀ ?_
      rw [← hstate₀]
      exact giveUp_closed hholds (some plan) e.message
    · simp only [conclude_interrupted (not_exists.mp hcause)]
      cases left with
      | none =>
        refine ⟨r.dumped, x₀, hholds.kept, htriple, hx₀, by simp [Release.dumped, hstate₀],
          fun hleft => ?_⟩
        obtain ⟨x, hx⟩ := hleft
        cases hx
      | some x =>
        obtain ⟨hx, hnamed⟩ := hleft x rfl
        exact hclose x _ hx
          (record_closed hholds ⟨rfl, rfl⟩ hholds.readable hphase cause hnamed)

/-- **What an execution leaves in the store**, however it ends: the release, with a state that a run
has left, as records hold it.  It is finished unless the task is cancelled more than once. -/
theorem execute_leaves (request : Request σ) (h : st.Holds before r s)
    (hphase : r.phase.isMutating = true) (hs : schedule.Lawful)
    (hnamed : ∀ x, LeftBy plan r.resources schedule engine.limits sandbox x →
      ∀ y ∈ x.state, y.id ≠ "")
    (hstart : ∃ x, LeftBy plan r.resources schedule engine.limits sandbox x ∧
      r.state = some x.state)
    {interrupts : Interrupts} (stopped : Bool) (now : Instant)
    {answer : Ending × Sandbox × Release × σ}
    (hanswer : (Execution.init plan r.resources schedule engine.limits interrupts stopped now).complete
      engine.clock (engine.checkpoint request) sandbox (r, s) = answer) :
    ∃ r' x, st.kept (engine.conclude answer.2.2.1 plan answer.1 answer.2.2.2).2 = before.with r' ∧
      r'.triple = r.triple ∧ LeftBy plan r.resources schedule engine.limits sandbox x ∧
      r'.state = some (x.state.map Resource.dumped) ∧
      (interrupts.cancelAt.length ≤ 1 → r'.isTerminal = true) := by
  have hreport : ∀ run sandbox' context,
      Execution.Reached schedule engine.limits sandbox (run, sandbox') →
      Leaving st before r.triple (LeftBy plan r.resources schedule engine.limits sandbox) context →
      (engine.checkpoint request (run.result plan r.resources false) context).1.failure? = none ∧
        Leaving st before r.triple (LeftBy plan r.resources schedule engine.limits sandbox)
          (engine.checkpoint request (run.result plan r.resources false) context).2 := by
    intro run sandbox' context hreached hleaving
    have hrun : LeftBy plan r.resources schedule engine.limits sandbox
        (run.result plan r.resources false) := ⟨run, run, false, hreached.run, .inl rfl, rfl⟩
    exact hleaving.checkpoint hrun (hnamed _ hrun)
  have hbegun : Leaving st before r.triple
      (LeftBy plan r.resources schedule engine.limits sandbox) (r, s) := ⟨⟨h, hphase, rfl⟩, hstart⟩
  have hleaving := Execution.complete_keeps hs plan r.resources sandbox now engine.clock interrupts
    stopped (engine.checkpoint request) _ (fun run sandbox' context hreached hleaving =>
      (hreport run sandbox' context hreached hleaving).2) hbegun
  have hends : Execution.Ends
      (.init plan r.resources schedule engine.limits interrupts stopped now) sandbox answer.1
      answer.2.1 := by
    rw [← hanswer]
    exact Execution.complete_ends hs plan r.resources sandbox now engine.clock interrupts stopped
      (engine.checkpoint request) (r, s)
  have hkept : interrupts.cancelAt.length ≤ 1 → ∃ x, Execution.left? answer.1 = some x := by
    intro hcancel
    obtain ⟨_, ⟨result, hresult⟩ | ⟨_, left, hleft⟩⟩ := Execution.complete_received hs plan
      r.resources sandbox now engine.clock stopped hreport hbegun hcancel
    · rw [hanswer] at hresult
      exact ⟨result, by rw [hresult]; rfl⟩
    · rw [hanswer] at hleft
      exact ⟨left, by rw [hleft]; rfl⟩
  rw [hanswer] at hleaving
  have hleft : ∀ x ∈ Execution.left? answer.1,
      LeftBy plan r.resources schedule engine.limits sandbox x ∧ ∀ y ∈ x.state, y.id ≠ "" := by
    intro x hx
    obtain ⟨run, cancelled, hreached, hresult⟩ := hends.exists_run_of_left hx
    have hrun : LeftBy plan r.resources schedule engine.limits sandbox x :=
      ⟨run, _, cancelled, hreached, .inr rfl, hresult⟩
    exact ⟨hrun, hnamed x hrun⟩
  obtain ⟨r', x, hkept', htriple, hx, hstate, hterminal⟩ :=
    hleaving.conclude engine plan hleft
  exact ⟨r', x, hkept', htriple, hx, hstate, fun hcancel => hterminal (hkept hcancel)⟩

/-! ## Destroys -/

/-- **A destroy of what can be destroyed is executed.** -/
theorem prepare_destroy (hready : st.Ready request.triple s) (htask : request.task = .destroy)
    (hlimits : engine.limits.check = .ok ()) (hkept : st.kept s request.triple ≠ [])
    (hlast : Release.lastState (st.kept s request.triple) = baseline)
    (hcompute : Plan.compute [] baseline = .ok plan)
    (hschedule : Schedule.of? plan baseline = .ok schedule) :
    ∃ r stopped s', engine.prepare request ⟨0, 0⟩ s =
        (.executing r plan (.init plan r.resources schedule engine.limits request.interrupts stopped
          ⟨0, 0⟩), s') ∧
      Started st request (st.kept s) r s' ∧ r.phase.isMutating = true := by
  subst hlast
  obtain ⟨latest, hlatest⟩ := Option.ne_none_iff_exists'.mp
    (mt List.getLast?_eq_none_iff.mp hkept)
  obtain ⟨created, s₁, hcreate, hcreated, hphase, _⟩ := create_spec request hready engine.clock
  obtain ⟨s₂, hsaved, hstarted⟩ := hcreated.saveStarted
    { created with phase := .destroying, modifiedTime := engine.clock } ⟨rfl, rfl⟩
    (Release.problems_congr hcreated.holds.readable rfl rfl rfl) rfl rfl
  refine ⟨_, request.stopped || request.stopWhen s₂, s₂, ?_, hstarted, rfl⟩
  simp only [prepare, htask, prepareDestroy, st.latest s request.triple hready.good hready.room,
    hlatest, hcreate,
    hcreated.resources, hcompute, startDestroy_eq engine.clock hphase, hsaved, Engine.schedule,
    hlimits, hstarted.resources, hschedule]

/-- What a destroy leaves in the store. -/
theorem perform_destroy (hready : st.Ready request.triple s) (hconfig : checkConfig request = .ok ())
    (htask : request.task = .destroy) (hlimits : engine.limits.check = .ok ())
    (hkept : st.kept s request.triple ≠ [])
    (hlast : Release.lastState (st.kept s request.triple) = baseline)
    (hcompute : Plan.compute [] baseline = .ok plan)
    (hschedule : Schedule.of? plan baseline = .ok schedule) (sandbox : Sandbox) :
    ∃ r x, st.kept (engine.perform request sandbox s).2.2 = (st.kept s).with r ∧
      r.triple = request.triple ∧ r.state = some x.state ∧
      LeftBy plan baseline schedule engine.limits sandbox x ∧ x.Remains baseline ∧
      (request.interrupts.cancelAt.length ≤ 1 → r.isTerminal = true) := by
  obtain ⟨r, stopped, s', hprepare, hstarted, hphase⟩ :=
    prepare_destroy hready htask hlimits hkept hlast hcompute hschedule
  have hresources : r.resources = baseline := hstarted.resources.trans hlast
  have hs := Schedule.lawful_of hschedule
  have hremains : ∀ x, LeftBy plan r.resources schedule engine.limits sandbox x →
      x.Remains baseline := by
    rw [hresources]
    rintro x ⟨run, final, cancelled, hreached, hfinal, rfl⟩
    exact hreached.remains hcompute hschedule hfinal cancelled
  have hnamed : ∀ x, LeftBy plan r.resources schedule engine.limits sandbox x →
      ∀ y ∈ x.state, y.id ≠ "" := by
    intro x hx y hy
    rw [(hremains x hx).state] at hy
    exact hstarted.named y (hlast ▸ (List.mem_filter.mp hy).1)
  -- before the first report, the release has the state of a run that has not begun
  have hinit : LeftBy plan r.resources schedule engine.limits sandbox
      ((Run.init schedule).result plan r.resources false) := ⟨_, _, _, .refl, .inl rfl, rfl⟩
  have hstart : r.state = some ((Run.init schedule).result plan r.resources false).state := by
    rw [(hremains _ hinit).state, hstarted.state, hlast, Option.some.injEq, eq_comm,
      List.filter_eq_self]
    intro y _
    rw [Bool.not_eq_true', ← Bool.not_eq_true, Run.deleted_iff]
    rintro ⟨i, record, hi, -, hst⟩
    have hpending := Run.status?_init (Run.status?_eq_some_iff.mpr ⟨record, hi, hst⟩)
    cases hpending
  obtain ⟨r', x, hkept', htriple, hx, hstate, hterminal⟩ := execute_leaves request hstarted.holds
    hphase hs hnamed ⟨_, hinit, hstart⟩ stopped ⟨0, 0⟩ rfl
  have hfinite : ∀ y ∈ x.state, y.Finite := by
    intro y hy
    rw [(hremains x hx).state] at hy
    exact Release.finite_lastState (fun r hr => (st.sound s request.triple hready.good r hr).finite) y
      (hlast ▸ (List.mem_filter.mp hy).1)
  rw [Resource.map_dumped_eq_self_iff.mpr hfinite] at hstate
  refine ⟨r', x, ?_, htriple.trans hstarted.triple, hstate, hresources ▸ hx, hremains x hx,
    hterminal⟩
  simp only [perform, hconfig, hprepare, complete]
  exact hkept'

end

/-- **A destroy leaves nothing that needs what is gone.**  What has a graph can be destroyed, and of
every run of its deletes, however they end, in whatever order and however many at once, and wherever
the run is given up, exactly the resources are left whose delete is not confirmed, and with each of
them all that it needs.  So are the states that an execution reports and the one it ends with, however
it is stopped, interrupted or refused, and the one that is stored with the release. -/
theorem destroyed {baseline : List Resource} {g : Graph}
    (hgraph : Graph.build false baseline = .ok g) :
    ((∀ r ∈ baseline, r.id ≠ "") →
      ∃ plan schedule, Plan.compute [] baseline = .ok plan ∧
        Schedule.of? plan baseline = .ok schedule) ∧
    ∀ plan schedule, Plan.compute [] baseline = .ok plan →
      Schedule.of? plan baseline = .ok schedule →
      (∀ limit outcome run final cancelled, Run.Reached schedule limit outcome run →
        (final = run ∨ final = run.cancelPending) →
        (final.result plan baseline cancelled).Remains baseline) ∧
      (∀ {τ : Type} (report : ExecutionResult → τ → Reception × τ) (context : τ) (limits : Limits)
        (interrupts : Interrupts) (stopped : Bool) (now : Instant) (clock : DateTime)
        (sandbox : Sandbox), ∀ result ∈ Execution.shown
          ((Execution.init plan baseline schedule limits interrupts stopped now).complete clock
            (Execution.logged report) sandbox (context, [])), result.Remains baseline) ∧
      ∀ (σ : Type) [Keeper σ] (st : Keeper.Reliable σ) (engine : Engine) (request : Request σ)
        (sandbox : Sandbox) (s : σ), st.Ready request.triple s → checkConfig request = .ok () →
        request.task = .destroy → engine.limits.check = .ok () →
        st.kept s request.triple ≠ [] →
        Release.lastState (st.kept s request.triple) = baseline →
        ∃ r x, st.kept (engine.perform request sandbox s).2.2 = (st.kept s).with r ∧
          r.triple = request.triple ∧ r.state = some x.state ∧
          LeftBy plan baseline schedule engine.limits sandbox x ∧ x.Remains baseline ∧
          (request.interrupts.cancelAt.length ≤ 1 → r.isTerminal = true) := by
  refine ⟨Plan.exists_ordered_deletes hgraph, fun plan schedule hcompute hschedule => ⟨?_, ?_, ?_⟩⟩
  · intro limit outcome run final cancelled hreached hfinal
    exact hreached.remains hcompute hschedule hfinal cancelled
  · intro τ report context limits interrupts stopped now clock sandbox result hresult
    obtain ⟨run, final, cancelled, hreached, hfinal, rfl⟩ := Execution.exists_run_of_shown
      (Schedule.lawful_of hschedule) report context interrupts stopped now clock hresult
    exact hreached.remains hcompute hschedule hfinal cancelled
  · intro σ _ st engine request sandbox s hready hconfig htask hlimits hkept hlast
    exact perform_destroy hready hconfig htask hlimits hkept hlast hcompute hschedule sandbox

/-! ## A disk that is busy

The volume is deleted; the disk it needed is not, since its backend is busy. -/

namespace Busy

/-- The plan that deletes the volume and its disk. -/
def plan : Plan :=
  ⟨[{ id := "volume",
      sides := .delete { id := "volume", backend := .kubernetes, dependsOn := ["disk"] } },
    { id := "disk", sides := .delete { id := "disk", backend := .kubernetes } }]⟩

/-- The disk waits for the volume. -/
def schedule : Schedule := ⟨plan.changes, [[], [0]], [0, 1]⟩

/-- How the deletes end. -/
def outcome (i : Nat) : Outcome := if i = 0 then .succeeded none else .failed "busy"

/-- The run of both deletes. -/
def run : Run :=
  ((((Run.init schedule).start default 0).settle schedule default (0, outcome 0)).start
    default 1).settle schedule default (1, outcome 1)

theorem reached : Run.Reached schedule 1 outcome run :=
  .tail (.tail (.tail (.single (.start default rfl (by decide)))
    (.settle default (List.mem_singleton_self 0))) (.start default rfl (by decide)))
    (.settle default (List.mem_singleton_self 1))

/-- The request to destroy the stack. -/
def request : Request MemoryStore := { triple := Swap.triple, task := .destroy }

/-- The backends, which cannot delete the disk. -/
def backends : Sandbox :=
  { Knot.created.1 with
    failure? := fun call id => if call = .delete ∧ id = "disk" then some (.general "busy") else none }

end Busy

/-- The disk is left, alone: nothing is recorded that needs the volume. -/
theorem destroyed_busy :
    (∃ g, Graph.build false Knot.recorded = .ok g) ∧
      Plan.compute [] Knot.recorded = .ok Busy.plan ∧
      Schedule.of? Busy.plan Knot.recorded = .ok Busy.schedule ∧
      (Busy.run.result Busy.plan Knot.recorded false).state =
        [{ id := "disk", backend := .kubernetes }] ∧
      (Busy.run.result Busy.plan Knot.recorded false).Remains Knot.recorded ∧
      ∃ (r : Release) (x : ExecutionResult), MemoryStore.reliable.kept
          (Knot.move.engine.perform Busy.request Busy.backends Knot.created.2).2.2 =
            (MemoryStore.reliable.kept Knot.created.2).with r ∧
        r.state = some x.state ∧ x.Remains Knot.recorded ∧ r.isTerminal = true := by
  have hcompute : Plan.compute [] Knot.recorded = .ok Busy.plan := rfl
  have hschedule : Schedule.of? Busy.plan Knot.recorded = .ok Busy.schedule := rfl
  obtain ⟨g, hgraph⟩ : ∃ g, Graph.build false Knot.recorded = .ok g := ⟨_, rfl⟩
  obtain ⟨hruns, -, hstores⟩ := (destroyed hgraph).2 _ _ hcompute hschedule
  have hkept : MemoryStore.reliable.kept Knot.created.2 Busy.request.triple ≠ [] := by
    intro hnone
    have hlast := Knot.lastState_created
    rw [show Swap.triple = Busy.request.triple from rfl, hnone] at hlast
    cases hlast
  obtain ⟨r, x, hkept', _, hstate, _, hremains, hterminal⟩ := hstores MemoryStore
    MemoryStore.reliable Knot.move.engine Busy.request Busy.backends Knot.created.2
    ⟨Knot.good_created, trivial⟩ rfl rfl rfl hkept Knot.lastState_created
  exact ⟨⟨g, hgraph⟩, hcompute, hschedule, rfl,
    hruns 1 Busy.outcome Busy.run Busy.run false Busy.reached (.inl rfl), r, x, hkept', hstate,
    hremains, hterminal (Nat.zero_le 1)⟩

end Rollout.Engine
