import Rollout.Proofs.Execution.Executor

/-!
# Executions are confluent

Given how every action ends, it does not matter which action is started first, how many run at once,
or in which order they end.

* `Execution.confluent` : all executions of a schedule end, and end alike.
-/

set_option autoImplicit false

namespace Rollout

open Relation

namespace Run

variable {s : Schedule} {limit : Int} {outcome outcome' : Nat → Outcome} {run run' : Run}

theorem Sound.lt_of_running {i : Nat} (h : Sound s outcome run) (hi : i ∈ run.running) :
    i < s.size := h.size ▸ lt_of_status? ((h.mem_running i).mp hi)

/-- Only the outcomes of actions matter. -/
theorem Step.congr (heq : ∀ i < s.size, outcome i = outcome' i) (h : Sound s outcome run)
    (hstep : Step s limit outcome run run') : Step s limit outcome' run run' := by
  cases hstep with
  | start now ready room => exact .start now ready room
  | @settle now i running =>
    rw [heq i (h.lt_of_running running)]
    exact .settle now running

theorem Reached.congr (hs : s.Lawful) (heq : ∀ i < s.size, outcome i = outcome' i)
    (h : Reached s limit outcome run) : Reached s limit outcome' run := by
  induction h with
  | refl => exact .refl
  | tail hpath hstep ih => exact ih.tail (hstep.congr heq (Reached.inv hs hpath).toSound)

theorem Ended.congr (hlimit : 0 < limit) (h : Ended s limit outcome run) :
    Ended s limit outcome' run := (ended_iff hlimit).mpr ((ended_iff hlimit).mp h)

end Run

namespace Execution

/-- **Executions are confluent.**  Let every action of a plan have a given outcome.  Then no
execution goes on forever or gets stuck before its end; where two executions have ended, whatever
they started first, waited for, and allowed to run at once, the statuses are decided, and they and
the resulting states are the same; and what the executor does in a sandbox, as long as nobody stops
or interrupts it, is such an execution. -/
theorem confluent {plan : Plan} {baseline : List Resource} {s : Schedule}
    (h : Schedule.of? plan baseline = .ok s) (outcome : Nat → Outcome) :
    (∀ limit : Int,
      (∀ runs : Nat → Run, runs 0 = Run.init s →
        ¬ ∀ k, Run.Step s limit outcome (runs k) (runs (k + 1))) ∧
      ∀ run, Run.Reached s limit outcome run →
        ∃ run', ReflTransGen (Run.Step s limit outcome) run run' ∧
          Run.Ended s limit outcome run') ∧
    (∀ (limit limit' : Int) (run run' : Run), 0 < limit → 0 < limit' →
      Run.Reached s limit outcome run → Run.Ended s limit outcome run →
      Run.Reached s limit' outcome run' → Run.Ended s limit' outcome run' →
        Run.Decided s outcome run ∧ run.statuses = run'.statuses ∧
          (run.result plan baseline false).state = (run'.result plan baseline false).state) ∧
    ∀ (σ : Type) (limits : Limits) (sandbox : Sandbox) (now : Instant) (clock : DateTime)
      (report : ExecutionResult → σ → Reception × σ) (context : σ), 0 < limits.concurrency →
      (∀ i < s.size, s.outcomes limits sandbox i = outcome i) →
      (∀ result context, (report result context).1.failure? = none ∧
        (report result context).1.stop = false) →
        ∃ run, Run.Reached s limits.concurrency outcome run ∧
          Run.Ended s limits.concurrency outcome run ∧
          ((init plan baseline s limits {} false now).complete clock report sandbox context).1
            = .finished (run.result plan baseline false) := by
  have hs := Schedule.lawful_of h
  refine ⟨fun limit => ⟨fun runs => Run.no_endless hs runs, fun run => Run.exists_ended hs⟩, ?_, ?_⟩
  · intro limit limit' run run' hlimit hlimit' hreached hended hreached' hended'
    have hdecided := hreached.decided hs hlimit hended
    have hstatuses := hdecided.unique hs (hreached'.decided hs hlimit' hended')
    exact ⟨hdecided, hstatuses, (hreached.inv hs).toSound.state_eq (hreached'.inv hs).toSound
      hstatuses plan baseline false false⟩
  · intro σ limits sandbox now clock report context hlimit houtcome hreport
    obtain ⟨run, sandbox', hreached, hended, hfinished⟩ :=
      complete_ended hs plan baseline sandbox now clock hlimit hreport context
    exact ⟨run, hreached.run.congr hs houtcome, hended.congr hlimit, hfinished⟩

/-- One resource that needs another one: if the other one fails, it is skipped. -/
theorem confluent_pair :
    ∃ plan s,
      Plan.compute [{ id := "b", backend := .kubernetes, dependsOn := ["a"] },
        { id := "a", backend := .kubernetes }] [] = .ok plan ∧
      Schedule.of? plan [] = .ok s ∧
      ∀ (limit : Int) (run : Run), 0 < limit →
        Run.Reached s limit (fun i => if i = 0 then .failed "boom" else .succeeded none) run →
        Run.Ended s limit (fun i => if i = 0 then .failed "boom" else .succeeded none) run →
          run.statuses = [.failed, .skipped] := by
  let a : Resource := { id := "a", backend := .kubernetes }
  let b : Resource := { id := "b", backend := .kubernetes, dependsOn := ["a"] }
  let actions : List Change :=
    [{ id := "a", sides := .create a }, { id := "b", sides := .create b }]
  have hs : Schedule.of? ⟨actions⟩ [] = .ok ⟨actions, [[], [0]], [0, 1]⟩ := rfl
  refine ⟨_, _, rfl, hs, fun limit run hlimit hreached hended => ?_⟩
  obtain ⟨hdecided, _, _⟩ :=
    (confluent hs _).2.1 limit limit run run hlimit hlimit hreached hended hreached hended
  have hfirst : run.status? 0 = some .failed :=
    (hdecided.failed 0 (by decide)).mpr
      ⟨fun j hj => (List.not_mem_nil hj).elim, "boom", rfl⟩
  have hsecond : run.status? 1 = some .skipped :=
    (hdecided.skipped 1 (by decide)).mpr ⟨0, List.mem_singleton_self 0, by simp [hfirst]⟩
  have hlen : run.records.length = 2 := hdecided.size
  match hrecords : run.records, hlen with
  | [r, r'], _ =>
    simp only [Run.status?, hrecords] at hfirst hsecond
    simp_all [Run.statuses]

end Execution

end Rollout
