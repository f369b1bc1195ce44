import Rollout.Proofs.Execution.Interrupted
import Rollout.Proofs.Execution.Replan

/-!
# Every action is accounted for

Wherever an execution is stopped or cut short, what is running is waited for, and every action ends
up in one of four ways: it succeeded or failed, if it was started; it was skipped, if it waits for one
that failed, directly or through others; or else it was cancelled.

* `Run.Inv.skipped_iff` : at any time, the actions that are skipped are those that wait for a failed
  one;
* `Accounted` : what the records of a run have to tell once nothing is running;
* `Run.accounted_cancelPending` : so it is for every run that is given up when nothing is running;
* `accounted` : and for every execution of a plan, whether it is stopped or a report fails.
-/

set_option autoImplicit false

namespace Rollout

open Relation

/-! ## What is skipped -/

namespace Run

variable {s : Schedule} {limit : Int} {outcome : Nat → Outcome} {run : Run} {i j : Nat}

/-- An action that waits for one that is lost is skipped. -/
theorem Inv.skipped_of_lost (hs : s.Lawful) (h : Inv s outcome run) (hj : j ∈ s.waits i)
    {st : Status} (hst : run.status? j = some st) (hlost : st.IsLost) :
    run.status? i = some .skipped := by
  -- had the action been started, all it waits for would have succeeded
  have hunstarted : ∀ st', run.status? i = some st' → ¬ st'.IsBegun := by
    intro st' hi hbegun
    have hgranted := h.granted i st' hi hbegun j hj
    rw [hst, Option.some.injEq] at hgranted
    subst hgranted
    rcases hlost with hlost | hlost <;> cases hlost
  have hlt : i < run.records.length := by
    rw [h.size]
    exact (hs.below i j hj).1
  obtain ⟨st', hst'⟩ := status?_isSome hlt
  cases st' with
  | skipped => exact hst'
  | pending =>
    have hblocked := isBlocked_iff.mpr ⟨hst', j, hj, st, hst, hlost⟩
    rw [h.unblocked i] at hblocked
    cases hblocked
  | cancelled => exact absurd hst' (h.uncancelled i)
  | running => exact absurd (.inl rfl) (hunstarted _ hst')
  | succeeded => exact absurd (.inr (.inl rfl)) (hunstarted _ hst')
  | failed => exact absurd (.inr (.inr rfl)) (hunstarted _ hst')

/-- An action is skipped for one that failed. -/
theorem Sound.exists_failed (hs : s.Lawful) (h : Sound s outcome run) :
    ∀ i < s.size, run.status? i = some .skipped →
      ∃ j, TransGen (Walk.Edge s.waits) i j ∧ run.status? j = some .failed := by
  refine hs.orders.induction ?_
  intro i _ ih hskipped
  obtain ⟨j, hj, st, hst, hlost⟩ := h.skipped i hskipped
  rcases hlost with rfl | rfl
  · exact ⟨j, .single hj, hst⟩
  · obtain ⟨k, hpath, hk⟩ := ih j hj (hs.below i j hj).2 hst
    exact ⟨k, .head hj hpath, hk⟩

/-- **At any time, the actions that are skipped are those that wait for a failed one**, directly or
through others. -/
theorem Inv.skipped_iff (hs : s.Lawful) (h : Inv s outcome run) :
    run.status? i = some .skipped ↔
      ∃ j, TransGen (Walk.Edge s.waits) i j ∧ run.status? j = some .failed := by
  constructor
  · intro hskipped
    have hlt : i < s.size := by
      rw [← h.size]
      exact lt_of_status? hskipped
    exact h.toSound.exists_failed hs i hlt hskipped
  · rintro ⟨j, hpath, hfailed⟩
    induction hpath using TransGen.head_induction_on with
    | single e => exact h.skipped_of_lost hs e hfailed (.inl rfl)
    | head e _ ih => exact h.skipped_of_lost hs e ih (.inr rfl)

/-! ## Giving up -/

/-- Giving up a run changes no status but that of an action that was not started. -/
theorem status?_cancelPending (run : Run) (i : Nat) :
    run.cancelPending.status? i =
      (run.status? i).map fun st => if st = .pending then .cancelled else st := by
  simp only [status?, cancelPending, List.getElem?_map, Option.map_map]
  apply Option.map_congr
  intro r _
  simp only [Function.comp_apply]
  split <;> rfl

theorem status?_cancelPending_iff {st : Status} (hpending : st ≠ .pending)
    (hcancelled : st ≠ .cancelled) :
    run.cancelPending.status? i = some st ↔ run.status? i = some st := by
  rw [status?_cancelPending, Option.map_eq_some_iff]
  constructor
  · rintro ⟨st', hst', hif⟩
    split at hif
    · exact absurd hif.symm hcancelled
    · rw [hst', hif]
  · intro hst
    exact ⟨st, hst, if_neg hpending⟩

/-- Whether actions were kept from starting can be read off the records. -/
theorem Sound.anyPending_iff (h : Sound s outcome run) :
    run.anyPending = true ↔ ∃ r ∈ run.cancelPending.records, r.status = .cancelled := by
  unfold anyPending
  rw [List.any_eq_true]
  constructor
  · rintro ⟨r, hr, hpending⟩
    have hstatus : r.status = .pending := by simpa using hpending
    refine ⟨_, List.mem_map_of_mem hr, ?_⟩
    rw [if_pos hstatus]
  · rintro ⟨_, hr, hcancelled⟩
    obtain ⟨x, hx, rfl⟩ := List.mem_map.mp hr
    refine ⟨x, hx, ?_⟩
    split at hcancelled
    · rename_i hpending
      simpa using hpending
    · obtain ⟨i, hi⟩ := List.mem_iff_getElem?.mp hx
      exact absurd (status?_eq_some_iff.mpr ⟨x, hi, hcancelled⟩) (h.uncancelled i)

end Run

/-! ## Accounts -/

/-- The action at a position waits for one that failed, directly or through others. -/
def Plan.WaitsForFailed (p : Plan) (baseline : List Resource) (records : List ActionRecord)
    (i : Nat) : Prop :=
  ∃ j failed, TransGen (p.Waits baseline) i j ∧ records[j]? = some failed ∧
    failed.status = .failed

/-- **The records account for every action of a plan**, given how each action ends: there is one an
action, in the order of the plan, and its status tells whether the action was started and how it
ended, or else why it was not started. -/
structure Accounted (p : Plan) (baseline : List Resource) (outcome : Nat → Outcome)
    (records : List ActionRecord) : Prop where
  listed : records.map ActionRecord.subject = p.actions.map fun c => (c.id, c.action)
  settled : ∀ r ∈ records, r.status ≠ .pending ∧ r.status ≠ .running
  succeeded : ∀ i r, records[i]? = some r → (r.status = .succeeded ↔
    r.startedAt.isSome = true ∧ ∃ returned, outcome i = .succeeded returned)
  failed : ∀ i r, records[i]? = some r → (r.status = .failed ↔
    r.startedAt.isSome = true ∧ ∃ text, outcome i = .failed text)
  skipped : ∀ i r, records[i]? = some r → (r.status = .skipped ↔
    r.startedAt = none ∧ p.WaitsForFailed baseline records i)
  cancelled : ∀ i r, records[i]? = some r → (r.status = .cancelled ↔
    r.startedAt = none ∧ ¬ p.WaitsForFailed baseline records i)

namespace Run

variable {plan : Plan} {baseline : List Resource} {s : Schedule} {limit : Int}
  {outcome : Nat → Outcome} {run : Run} {i : Nat}

/-- Which actions of a run wait for a failed one can be read off the records that are left of it. -/
theorem Inv.waitsForFailed_iff (hschedule : Schedule.of? plan baseline = .ok s)
    (h : Inv s outcome run) :
    plan.WaitsForFailed baseline run.cancelPending.records i ↔ run.status? i = some .skipped := by
  rw [h.skipped_iff (Schedule.lawful_of hschedule), Schedule.edge_eq hschedule]
  unfold Plan.WaitsForFailed
  apply exists_congr
  intro j
  rw [← status?_cancelPending_iff (by decide) (by decide), status?_eq_some_iff]
  constructor
  · rintro ⟨f, hpath, hf, hfailed⟩
    exact ⟨hpath, f, hf, hfailed⟩
  · rintro ⟨hpath, f, hf, hfailed⟩
    exact ⟨f, hpath, hf, hfailed⟩

section

variable (hs : s.Lawful) (hreached : Reached s limit outcome run) (hidle : run.running = [])
  {r : ActionRecord}

theorem status_cancelPending_iff (hr : run.cancelPending.records[i]? = some r) {st : Status}
    (hpending : st ≠ .pending) (hcancelled : st ≠ .cancelled) :
    r.status = st ↔ run.status? i = some st := by
  rw [← status?_cancelPending_iff hpending hcancelled, status?, hr, Option.map_some,
    Option.some.injEq]

include hs hreached

theorem started_cancelPending_iff (hr : run.cancelPending.records[i]? = some r) :
    r.startedAt.isSome = true ↔ r.status.IsBegun :=
  ((hreached.recorded hs).cancelPending.stamped r (List.mem_of_getElem? hr)).started

theorem unstarted_cancelPending_iff (hr : run.cancelPending.records[i]? = some r) :
    r.startedAt = none ↔ ¬ r.status.IsBegun := by
  rw [← started_cancelPending_iff hs hreached hr, Option.not_isSome_iff_eq_none]

include hidle

/-- Given up when nothing is running, no action is left without an end. -/
theorem settled_cancelPending (hr : run.cancelPending.records[i]? = some r) :
    r.status ≠ .pending ∧ r.status ≠ .running := by
  constructor
  · intro hpending
    have hgiven := status?_eq_some_iff.mpr ⟨r, hr, hpending⟩
    rw [status?_cancelPending, Option.map_eq_some_iff] at hgiven
    obtain ⟨st, _, hif⟩ := hgiven
    split at hif
    · cases hif
    · rename_i hne
      exact hne hif
  · intro hrunning
    have hstatus := (status_cancelPending_iff hr (by decide) (by decide)).mp hrunning
    have hmem := ((hreached.inv hs).mem_running i).mpr hstatus
    rw [hidle] at hmem
    cases hmem

/-- What was started has ended, as its outcome says. -/
theorem ended_of_started (hr : run.cancelPending.records[i]? = some r)
    (hstarted : r.startedAt.isSome = true) :
    r.status = .succeeded ∧ (∃ returned, outcome i = .succeeded returned) ∨
      r.status = .failed ∧ ∃ text, outcome i = .failed text := by
  have hinv := hreached.inv hs
  rcases (started_cancelPending_iff hs hreached hr).mp hstarted with hst | hst | hst
  · exact absurd hst (settled_cancelPending hs hreached hidle hr).2
  · have hstatus := (status_cancelPending_iff hr (by decide) (by decide)).mp hst
    exact .inl ⟨hst, hinv.succeeded i hstatus⟩
  · have hstatus := (status_cancelPending_iff hr (by decide) (by decide)).mp hst
    exact .inr ⟨hst, hinv.failed i hstatus⟩

end

/-- **A run that is given up when nothing is running accounts for every action.** -/
theorem accounted_cancelPending (hschedule : Schedule.of? plan baseline = .ok s)
    (hreached : Reached s limit outcome run) (hidle : run.running = []) :
    Accounted plan baseline outcome run.cancelPending.records := by
  have hs := Schedule.lawful_of hschedule
  have hinv := hreached.inv hs
  have hrecorded := (hreached.recorded hs).cancelPending
  constructor
  case listed => rw [hrecorded.listed, (Schedule.of?_inv hschedule).1]
  case settled =>
    intro r hr
    obtain ⟨i, hi⟩ := List.mem_iff_getElem?.mp hr
    exact settled_cancelPending hs hreached hidle hi
  case succeeded =>
    intro i r hr
    constructor
    · intro hst
      have hstatus := (status_cancelPending_iff hr (by decide) (by decide)).mp hst
      exact ⟨(started_cancelPending_iff hs hreached hr).mpr (.inr (.inl hst)),
        hinv.succeeded i hstatus⟩
    · rintro ⟨hstarted, returned, hreturned⟩
      rcases ended_of_started hs hreached hidle hr hstarted with ⟨hst, _⟩ | ⟨_, text, htext⟩
      · exact hst
      · rw [hreturned] at htext
        cases htext
  case failed =>
    intro i r hr
    constructor
    · intro hst
      have hstatus := (status_cancelPending_iff hr (by decide) (by decide)).mp hst
      exact ⟨(started_cancelPending_iff hs hreached hr).mpr (.inr (.inr hst)),
        hinv.failed i hstatus⟩
    · rintro ⟨hstarted, text, htext⟩
      rcases ended_of_started hs hreached hidle hr hstarted with ⟨_, returned, hreturned⟩ | ⟨hst, _⟩
      · rw [htext] at hreturned
        cases hreturned
      · exact hst
  case skipped =>
    intro i r hr
    rw [unstarted_cancelPending_iff hs hreached hr, hinv.waitsForFailed_iff hschedule,
      ← status_cancelPending_iff hr (by decide) (by decide)]
    constructor
    · intro hst
      refine ⟨?_, hst⟩
      rw [hst]
      rintro (h | h | h) <;> cases h
    · exact And.right
  case cancelled =>
    intro i r hr
    rw [unstarted_cancelPending_iff hs hreached hr, hinv.waitsForFailed_iff hschedule,
      ← status_cancelPending_iff hr (by decide) (by decide)]
    constructor
    · intro hst
      rw [hst]
      refine ⟨?_, by decide⟩
      rintro (h | h | h) <;> cases h
    · rintro ⟨hbegun, hskipped⟩
      obtain ⟨hpending, hrunning⟩ := settled_cancelPending hs hreached hidle hr
      cases hst : r.status with
      | cancelled => rfl
      | pending => exact absurd hst hpending
      | running => exact absurd hst hrunning
      | skipped => exact absurd hst hskipped
      | succeeded => exact absurd (.inr (.inl hst)) hbegun
      | failed => exact absurd (.inr (.inr hst)) hbegun

end Run

/-! ### A stop after a failure

Of three resources to be created, `b` needs `a` and `c` needs none.  The creation of `a` fails, and
the execution is stopped before that of `c` is started. -/

namespace Halt

/-- The resource whose creation fails. -/
def a : Resource := { id := "a", backend := .kubernetes }

/-- The resource that needs it. -/
def b : Resource := { id := "b", backend := .kubernetes, dependsOn := ["a"] }

/-- The resource whose creation is kept from starting. -/
def c : Resource := { id := "c", backend := .kubernetes }

/-- The plan that creates the three. -/
def plan : Plan :=
  ⟨[{ id := "a", sides := .create a }, { id := "b", sides := .create b },
    { id := "c", sides := .create c }]⟩

/-- Their schedule. -/
def schedule : Schedule := ⟨plan.changes, [[], [0], []], [0, 1, 2]⟩

/-- Every creation fails that is started. -/
def outcome : Nat → Outcome := fun _ => .failed "boom"

/-- The execution, when `a` has failed. -/
def stopped : Run :=
  ((Run.init schedule).start default 0).settle schedule default (0, outcome 0)

theorem reached : Run.Reached schedule 1 outcome stopped :=
  .tail (.single (.start default rfl (by decide))) (.settle default (List.mem_singleton_self 0))

end Halt

namespace Execution

variable {plan : Plan} {baseline : List Resource}

/-- **Every action of an execution is accounted for**, for a plan no action of which waits for
itself: whatever order the actions end in and wherever the execution is given up, and whenever the
executor is told to stop or a report of its progress fails.  Where it is not cut short, it says that
it was cancelled exactly if some action was. -/
theorem accounted (hacyclic : ∀ i, ¬ TransGen (plan.Waits baseline) i i) :
    ∃ s, Schedule.of? plan baseline = .ok s ∧
      (∀ limit outcome run, Run.Reached s limit outcome run → run.running = [] →
        Accounted plan baseline outcome run.cancelPending.records ∧
          (run.anyPending = true ↔
            ∃ r ∈ run.cancelPending.records, r.status = .cancelled)) ∧
      ∀ (σ : Type) (report : ExecutionResult → σ → Reception × σ) (context : σ) (limits : Limits)
        (interrupts : Interrupts) (stopped : Bool) (now : Instant) (clock : DateTime)
        (start : Sandbox), interrupts.cancelAt = [] →
        ∃ ending sandbox context' run result,
          (init plan baseline s limits interrupts stopped now).complete clock report start context
            = (ending, sandbox, context') ∧
          Reached s limits start (run, sandbox) ∧ run.running = [] ∧
          result.records = run.cancelPending.records ∧
          result.state = (run.cancelPending.result plan baseline result.cancelled).state ∧
          Accounted plan baseline (s.outcomes limits start) result.records ∧
          (ending = .finished result ∧
              (result.cancelled = true ↔ ∃ r ∈ result.records, r.status = .cancelled) ∨
            ∃ cause, ending = .interrupted cause (some result) [] ∧
              ∃ progress before, (report progress before).1.failure? = some cause) := by
  obtain ⟨s, hschedule⟩ := Schedule.exists_iff.mpr hacyclic
  have hs := Schedule.lawful_of hschedule
  refine ⟨s, hschedule, ?_, ?_⟩
  · intro limit outcome run hreached hidle
    exact ⟨Run.accounted_cancelPending hschedule hreached hidle,
      (hreached.inv hs).toSound.anyPending_iff⟩
  · intro σ report context limits interrupts stopped now clock start hcancel
    have hkeeps : Keeps (init plan baseline s limits interrupts stopped now) start report
        fun _ => True := fun _ _ _ _ _ _ => trivial
    have hcompleted : Completed (init plan baseline s limits interrupts stopped now) start report
        (fun _ => True) ((init plan baseline s limits interrupts stopped now).complete clock report
          start context) :=
      complete_completed hs plan baseline start now clock hcancel stopped hkeeps trivial
    generalize (init plan baseline s limits interrupts stopped now).complete clock report start
      context = answer at *
    have hgiven : ∀ run sandbox, Reached s limits start (run, sandbox) → run.running = [] →
        Accounted plan baseline (s.outcomes limits start) run.cancelPending.records :=
      fun run sandbox hreached => Run.accounted_cancelPending hschedule (Reached.run hreached)
    cases hcompleted with
    | @finished run sandbox context' reached idle _ =>
      have hinv := (Reached.run reached).inv hs
      exact ⟨_, sandbox, context', run, run.cancelPending.result plan baseline run.anyPending, rfl,
        reached, idle, rfl, rfl, hgiven run sandbox reached idle,
        .inl ⟨rfl, hinv.toSound.anyPending_iff⟩⟩
    | @refused progress run before sandbox context' cause reached _ failure path _ idle =>
      have hall : Reached s limits start (run, sandbox) := ReflTransGen.trans reached path
      exact ⟨_, sandbox, _, run, run.cancelPending.result plan baseline true, rfl, hall, idle, rfl,
        rfl, hgiven run sandbox hall idle, .inr ⟨cause, rfl, _, context', failure⟩⟩

/-- One action of the stopped execution failed, one was skipped and one cancelled. -/
theorem accounted_halt :
    (∀ i, ¬ TransGen (Halt.plan.Waits []) i i) ∧
      Halt.stopped.cancelPending.statuses = [.failed, .skipped, .cancelled] ∧
      Accounted Halt.plan [] Halt.outcome Halt.stopped.cancelPending.records ∧
      ∃ r ∈ Halt.stopped.cancelPending.records, r.status = .cancelled := by
  have hschedule : Schedule.of? Halt.plan [] = .ok Halt.schedule := rfl
  have hacyclic := Schedule.exists_iff.mp ⟨_, hschedule⟩
  obtain ⟨s, hs, hgiven, _⟩ := accounted hacyclic
  rw [hschedule, Except.ok.injEq] at hs
  subst hs
  obtain ⟨haccounted, hcancelled⟩ := hgiven 1 Halt.outcome Halt.stopped Halt.reached rfl
  exact ⟨hacyclic, rfl, haccounted, hcancelled.mp rfl⟩

end Execution

end Rollout
