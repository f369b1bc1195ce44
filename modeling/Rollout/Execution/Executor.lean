import Rollout.Execution.Flight

/-!
# Executing a plan

An execution starts every action that is ready, the first of the plan first, as long as few enough
are running; then it waits until some action ends, settles all that have ended by then in the order
in which they were started, and reports its progress.

An execution may be stopped, which keeps further actions from starting, or interrupted, by a failed
report or by cancelling its task.  Interrupted, it waits for the actions that are running and gives
up the rest; when its task is cancelled once more while it waits, nothing of it is kept.

* `Execution.advance` : one wait, with all that follows until the next one;
* `Execution.complete` : the whole execution.
-/

set_option autoImplicit false

namespace Rollout

/-- When an execution is to be stopped, and when its task is to be cancelled, in ascending order. -/
structure Interrupts where
  stopAt : Option Nat := none
  cancelAt : List Nat := []
deriving Repr

/-- Points of time in ascending order; those that coincide count once. -/
def Interrupts.inOrder (times : List Nat) : List Nat := times.mergeSort.eraseDups

/-- How a report of progress was received. -/
structure Reception where
  failure? : Option Failure := none
  /-- Whether the execution is to be stopped. -/
  stop : Bool := false
deriving Repr

/-- How an execution ended. -/
inductive Ending where
  | finished (result : ExecutionResult)
  /-- Cut short: what is left of it, if anything, and the actions that nobody waits for. -/
  | interrupted (cause : Failure) (left : Option ExecutionResult) (adrift : List Flight)
deriving Repr

/-- An execution under way. -/
structure Execution where
  plan : Plan
  baseline : List Resource
  schedule : Schedule
  limits : Limits
  interrupts : Interrupts
  run : Run
  /-- The actions that are running, in the order in which they were started. -/
  flights : List Flight
  now : Instant
  stopped : Bool

namespace Execution

/-- An execution before its first action. -/
def init (plan : Plan) (baseline : List Resource) (schedule : Schedule) (limits : Limits)
    (interrupts : Interrupts) (stopped : Bool) (now : Instant) : Execution :=
  { plan, baseline, schedule, limits, interrupts, run := .init schedule, flights := [], now,
    stopped }

/-- Stops an execution whose time has come. -/
def stopInTime (e : Execution) : Execution :=
  match e.interrupts.stopAt with
  | some t => { e with stopped := e.stopped || (Instant.mk t 0).before e.now }
  | none => e

/-- Starts the next action, if one may start. -/
def launchNext (clock : DateTime) (state : Execution × Sandbox) : Execution × Sandbox :=
  let (e, s) := state
  if e.stopped || decide (e.limits.concurrency ≤ (e.run.running.length : Int)) then (e, s)
  else
    match e.run.ready? e.schedule with
    | none => (e, s)
    | some i =>
      match e.schedule.actions[i]? with
      | none => (e, s)
      | some c =>
        let (flight, s) := Flight.launch e.limits e.now i c s
        ({ e with run := e.run.start clock i, flights := e.flights ++ [flight] }, s)

/-- Starts every action that may start. -/
def launch (clock : DateTime) (e : Execution) (s : Sandbox) : Execution × Sandbox :=
  e.schedule.actions.foldl (fun state _ => launchNext clock state) (e.stopInTime, s)

/-- When the execution wakes up next; it has ended if nothing is running. -/
def wake? (e : Execution) : Option Instant := (Flight.firstEnd? e.flights).map (Instant.later 2)

/-- The first point at which the task of an execution is to be cancelled, if it comes before another
point of time. -/
def cancelledBefore (e : Execution) (i : Instant) : Bool :=
  match e.interrupts.cancelAt with
  | t :: _ => (Instant.mk t 0).before i
  | [] => false

/-- Drops the first point at which the task is to be cancelled. -/
def dropCancel (e : Execution) : Execution :=
  { e with interrupts := { e.interrupts with cancelAt := e.interrupts.cancelAt.drop 1 } }

/-- Ends an execution in which nothing is running. -/
def finish (e : Execution) : Ending :=
  .finished (e.run.cancelPending.result e.plan e.baseline e.run.anyPending)

/-- Settles all actions that are running. -/
def settleFlights (clock : DateTime) (e : Execution) : Run :=
  e.run.settleAll e.schedule clock (Flight.outcomes e.flights)

/-- Cuts an execution short: it waits for the actions that are running. -/
def interrupt (clock : DateTime) (cause : Failure) (e : Execution) (s : Sandbox) :
    Ending × Sandbox :=
  match Flight.lastEnd? e.flights with
  | some last =>
    if e.cancelledBefore (last.later 2) then (.interrupted (.cancelled "") none e.flights, s)
    else
      let run := (e.settleFlights clock).cancelPending
      (.interrupted cause (some (run.result e.plan e.baseline true)) [], Flight.land e.flights s)
  | none => (.interrupted cause (some (e.run.cancelPending.result e.plan e.baseline true)) [], s)

/-- Settles the actions that have ended when the execution wakes up. -/
def settleEnded (clock : DateTime) (wake : Instant) (e : Execution) (s : Sandbox) :
    Execution × Sandbox :=
  let ended := e.flights.filter (Flight.endsBy wake)
  ({ e with
      run := e.run.settleAll e.schedule clock (Flight.outcomes ended)
      flights := e.flights.filter fun f => !f.endsBy wake
      now := wake },
    Flight.land ended s)

variable {σ : Type}

/-- One wait of an execution, and all that follows until the next one. -/
def advance (clock : DateTime) (report : ExecutionResult → σ → Reception × σ) (e : Execution)
    (s : Sandbox) (context : σ) : (Execution ⊕ Ending) × Sandbox × σ :=
  match e.wake? with
  | none => (.inr e.finish, s, context)
  | some wake =>
    if e.cancelledBefore wake then
      let (ending, s) := e.dropCancel.interrupt clock (.cancelled "") s
      (.inr ending, s, context)
    else
      let (e, s) := e.settleEnded clock wake s
      let (reception, context) := report (e.run.result e.plan e.baseline false) context
      match reception.failure? with
      | some cause =>
        let (ending, s) := e.interrupt clock cause s
        (.inr ending, s, context)
      | none =>
        let (e, s) := { e with stopped := e.stopped || reception.stop }.launch clock s
        (.inl e, s, context)

/-- Advances an execution until it ends, at most so many times. -/
def loop (clock : DateTime) (report : ExecutionResult → σ → Reception × σ) :
    Nat → Execution → Sandbox → σ → Ending × Sandbox × σ
  | 0, e, s, context => (e.finish, s, context)
  | steps + 1, e, s, context =>
    match e.advance clock report s context with
    | (.inr ending, s, context) => (ending, s, context)
    | (.inl e, s, context) => loop clock report steps e s context

/-- Executes a plan.  Every wait but the last one settles an action, so there are at most as many
waits as there are actions, and one more. -/
def complete (clock : DateTime) (report : ExecutionResult → σ → Reception × σ) (e : Execution)
    (s : Sandbox) (context : σ) : Ending × Sandbox × σ :=
  let (e, s) := e.launch clock s
  loop clock report (e.schedule.size + 1) e s context

end Execution

end Rollout
