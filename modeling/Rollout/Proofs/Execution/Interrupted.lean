import Rollout.Proofs.Execution.Executor
import Rollout.Proofs.Execution.Records

/-!
# Executions that are cut short

An execution whose task nobody cancels comes to its end by itself, or with the first report that
fails.  After a failed report it starts nothing more: it waits for what is running, lets it take
effect, and gives up the rest.

* `Execution.interrupt_eq` : what cutting an execution short comes to;
* `Execution.Completed` : the two ways in which such an execution ends;
* `Execution.complete_completed` : it ends in one of them.
-/

set_option autoImplicit false

namespace Rollout.Execution

open Relation

variable {start sandbox sandbox' : Sandbox} {e e' : Execution}

/-- **Cut short, an execution waits for what is running**, and gives up the rest. -/
theorem interrupt_eq (hcancel : e.interrupts.cancelAt = []) (clock : DateTime) (cause : Failure)
    (sandbox : Sandbox) :
    e.interrupt clock cause sandbox =
      (.interrupted cause
        (some ((e.settleFlights clock).cancelPending.result e.plan e.baseline true)) [],
        Flight.land e.flights sandbox) := by
  unfold interrupt
  cases hlast : Flight.lastEnd? e.flights with
  | none =>
    have hflights : e.flights = [] := by
      cases hf : e.flights with
      | nil => rfl
      | cons f rest =>
        rw [hf, Flight.lastEnd?] at hlast
        cases hlast
    rw [settleFlights, hflights]
    rfl
  | some last =>
    have hon : e.cancelledBefore (last.later 2) = false := by
      rw [cancelledBefore, hcancel]
    simp only [hon, Bool.false_eq_true, if_false]

/-- What an execution has come to is settled without starting anything more. -/
theorem settleFlights_path (h : Inv start e sandbox) (clock : DateTime) :
    ReflTransGen (Step e.schedule e.limits start) (e.run, sandbox)
        (e.settleFlights clock, Flight.land e.flights sandbox) ∧
      (e.settleFlights clock).records.map ActionRecord.origin
        = e.run.records.map ActionRecord.origin ∧
      (e.settleFlights clock).running = [] := by
  obtain ⟨hpath, _, _⟩ := settleAll_spec h.lawful clock e.flights e.run sandbox h.reached h.nodup
    fun f hf => h.flight hf
  obtain ⟨_, hidle⟩ := settleFlights_spec h clock
  exact ⟨hpath, Run.settleAll_origins _ _ _ _, hidle⟩

variable {σ : Type}

/-- How an execution ends whose task nobody cancels: by itself, or with the first report that fails,
after which nothing is started and all that is running comes to its end. -/
inductive Completed (e : Execution) (start : Sandbox)
    (report : ExecutionResult → σ → Reception × σ) (Good : σ → Prop) :
    Ending × Sandbox × σ → Prop
  | finished {run : Run} {sandbox : Sandbox} {context : σ}
      (reached : Reached e.schedule e.limits start (run, sandbox)) (idle : run.running = [])
      (good : Good context) :
      Completed e start report Good
        (.finished (run.cancelPending.result e.plan e.baseline run.anyPending), sandbox, context)
  | refused {reported run : Run} {before sandbox : Sandbox} {context : σ} {cause : Failure}
      (reached : Reached e.schedule e.limits start (reported, before)) (good : Good context)
      (failure : (report (reported.result e.plan e.baseline false) context).1.failure?
        = some cause)
      (path : ReflTransGen (Step e.schedule e.limits start) (reported, before) (run, sandbox))
      (origins : run.records.map ActionRecord.origin
        = reported.records.map ActionRecord.origin)
      (idle : run.running = []) :
      Completed e start report Good
        (.interrupted cause (some (run.cancelPending.result e.plan e.baseline true)) [], sandbox,
          (report (reported.result e.plan e.baseline false) context).2)

/-- A report that succeeds keeps the context as it has to be. -/
def Keeps (e : Execution) (start : Sandbox) (report : ExecutionResult → σ → Reception × σ)
    (Good : σ → Prop) : Prop :=
  ∀ run sandbox context, Reached e.schedule e.limits start (run, sandbox) → Good context →
    (report (run.result e.plan e.baseline false) context).1.failure? = none →
    Good (report (run.result e.plan e.baseline false) context).2

variable {report : ExecutionResult → σ → Reception × σ} {Good : σ → Prop} {context context' : σ}

theorem Keeps.follows (h : Keeps e start report Good) (hf : Follows start e sandbox e' sandbox') :
    Keeps e' start report Good := by
  unfold Keeps
  rw [hf.schedule, hf.limits, hf.plan, hf.baseline]
  exact h

theorem Completed.of_follows {answer : Ending × Sandbox × σ}
    (hf : Follows start e sandbox e' sandbox') (h : Completed e' start report Good answer) :
    Completed e start report Good answer := by
  cases h with
  | finished reached idle good =>
    rw [hf.schedule, hf.limits] at reached
    rw [hf.plan, hf.baseline]
    exact .finished reached idle good
  | refused reached good failure path origins idle =>
    rw [hf.schedule, hf.limits] at reached path
    rw [hf.plan, hf.baseline] at failure ⊢
    exact .refused reached good failure path origins idle

/-- The wait in which an execution ends. -/
theorem advance_completed (h : Inv start e sandbox) (hcancel : e.interrupts.cancelAt = [])
    (clock : DateTime) (hgood : Good context) {ending : Ending}
    (heq : e.advance clock report sandbox context = (.inr ending, sandbox', context')) :
    Completed e start report Good (ending, sandbox', context') := by
  unfold advance at heq
  split at heq
  · rename_i hwake
    cases heq
    exact .finished h.reached (h.running_eq_nil (flights_of_wake?_eq_none hwake)) hgood
  · rename_i wake hwake
    have hon : e.cancelledBefore wake = false := by
      rw [cancelledBefore, hcancel]
    simp only [hon, Bool.false_eq_true, if_false] at heq
    obtain ⟨hinv, hfollows, _⟩ := settleEnded_spec h clock wake
    generalize e.settleEnded clock wake sandbox = settled at *
    obtain ⟨e', before⟩ := settled
    simp only at hinv hfollows heq
    split at heq
    · rename_i cause hfailure
      have hcancel' : e'.interrupts.cancelAt = [] := by
        rw [hfollows.interrupts, hcancel]
      rw [interrupt_eq hcancel'] at heq
      cases heq
      obtain ⟨hpath, horigins, hidle⟩ := settleFlights_path hinv clock
      exact Completed.of_follows hfollows
        (.refused hinv.reached hgood hfailure hpath horigins hidle)
    · cases heq

theorem loop_completed (clock : DateTime) : ∀ (steps : Nat) (e : Execution) (sandbox : Sandbox)
    (context : σ), Inv start e sandbox → e.interrupts.cancelAt = [] →
      Keeps e start report Good → Good context → Run.unsettled e.schedule e.run < steps →
      Completed e start report Good (loop clock report steps e sandbox context)
  | 0, _, _, _, _, _, _, _, hsteps => absurd hsteps (Nat.not_lt_zero _)
  | steps + 1, e, sandbox, context, h, hcancel, hkeeps, hgood, hsteps => by
    have hadvanced := advance_spec h clock report context
    rw [loop]
    cases hanswer : e.advance clock report sandbox context with
    | mk answer rest =>
      obtain ⟨sandbox', context'⟩ := rest
      cases answer with
      | inr ending => exact advance_completed h hcancel clock hgood hanswer
      | inl e' =>
        rw [hanswer] at hadvanced
        cases hadvanced with
        | goesOn reached success inv follows _ fewer _ =>
          have hgood' := hkeeps _ _ _ reached hgood success
          apply Completed.of_follows follows
          apply loop_completed clock steps _ _ _ inv _ (hkeeps.follows follows) hgood'
          · rw [follows.schedule]
            omega
          · rw [follows.interrupts, hcancel]

/-- **An execution whose task nobody cancels** ends by itself, or with the first report that fails;
then nothing more is started, and what is running comes to its end. -/
theorem complete_completed {s : Schedule} {limits : Limits} (hs : s.Lawful) (plan : Plan)
    (baseline : List Resource) (start : Sandbox) (now : Instant) (clock : DateTime)
    {interrupts : Interrupts} (hcancel : interrupts.cancelAt = []) (stopped : Bool)
    (hkeeps : Keeps (init plan baseline s limits interrupts stopped now) start report Good)
    (hgood : Good context) :
    Completed (init plan baseline s limits interrupts stopped now) start report Good
      ((init plan baseline s limits interrupts stopped now).complete clock report start
        context) := by
  have hinit : Inv start (init plan baseline s limits interrupts stopped now) start :=
    init_inv hs plan baseline start now interrupts stopped
  obtain ⟨hinv, hfollows, _, _⟩ := launch_spec hinit clock
  rw [complete_eq]
  apply Completed.of_follows hfollows
  apply loop_completed clock _ _ _ _ hinv _ (hkeeps.follows hfollows) hgood
  · exact Nat.lt_succ_of_le (Run.unsettled_le_size _ _)
  · rw [hfollows.interrupts]
    exact hcancel

end Rollout.Execution
