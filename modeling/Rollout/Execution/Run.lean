import Rollout.Execution.Schedule
import Rollout.Execution.State

/-!
# Runs

A run is the execution of a schedule as far as it has come.  It changes by three steps: an action is
started, an action ends, or the run is cut short.  When an action fails, every action that waits for
it, directly or through others, is skipped.

* `Run.ready?` : the first action that may start;
* `Run.start`, `Run.settle`, `Run.cancelPending` : the steps;
* `Run.result` : the records and the state that a run amounts to.
-/

set_option autoImplicit false

namespace Rollout

/-- How an action ended. -/
inductive Outcome where
  /-- The backend did it, and may have answered with the resource as it now is. -/
  | succeeded (returned : Option Resource)
  | failed (text : String)
deriving DecidableEq, Repr

/-- What an execution amounts to. -/
structure ExecutionResult where
  records : List ActionRecord
  state : List Resource
  /-- Whether actions were kept from starting. -/
  cancelled : Bool
deriving DecidableEq, Repr

namespace ExecutionResult

/-- Whether every action succeeded. -/
def succeeded (r : ExecutionResult) : Bool := r.records.all fun record => record.status = .succeeded

/-- The records of the actions that failed. -/
def failures (r : ExecutionResult) : List ActionRecord :=
  r.records.filter fun record => record.status = .failed

/-- The errors of the failed actions, and a note when actions were kept from starting. -/
def errorSummary (r : ExecutionResult) : Option String :=
  let lines := (r.failures.filterMap ActionRecord.error).filter (· ≠ "")
    ++ (if r.cancelled then ["operation cancelled before all actions started"] else [])
  if lines.isEmpty then none else some (Text.join "; " lines)

end ExecutionResult

/-- The execution of a schedule as far as it has come. -/
structure Run where
  /-- One record an action, in the order of the plan. -/
  records : List ActionRecord
  /-- What the backends answered, by position. -/
  applied : List (Nat × Resource)
  /-- The actions that have been started and have not ended, in the order in which they started. -/
  running : List Nat
deriving DecidableEq, Repr

namespace Run

/-- A run that has not begun. -/
def init (s : Schedule) : Run :=
  ⟨s.actions.map fun c => { resourceId := c.id, action := c.action }, [], []⟩

/-- The status of the action at a position. -/
def status? (run : Run) (i : Nat) : Option Status := (run.records[i]?).map ActionRecord.status

/-- Whether an action has not been started, and everything it waits for has succeeded. -/
def isReady (s : Schedule) (run : Run) (i : Nat) : Bool :=
  run.status? i = some .pending
    && (s.waits i).all fun j => run.status? j = some .succeeded

/-- The first action that may start. -/
def ready? (s : Schedule) (run : Run) : Option Nat :=
  (List.range s.size).find? (isReady s run)

/-- Changes the record at a position. -/
def record (i : Nat) (f : ActionRecord → ActionRecord) (run : Run) : Run :=
  { run with records := run.records.modify i f }

/-- Starts an action. -/
def start (now : DateTime) (i : Nat) (run : Run) : Run :=
  { run.record i fun r => { r with status := .running, startedAt := some now } with
    running := run.running ++ [i] }

/-- Whether an action has not been started and waits for one that failed or was skipped. -/
def isBlocked (s : Schedule) (run : Run) (i : Nat) : Bool :=
  run.status? i = some .pending
    && (s.waits i).any fun j =>
      run.status? j = some .failed || run.status? j = some .skipped

/-- Skips an action if it is blocked. -/
def skipIfBlocked (s : Schedule) (reason : String) (run : Run) (i : Nat) : Run :=
  if isBlocked s run i then
    run.record i fun r => { r with status := .skipped, error := some reason }
  else run

/-- Skips every blocked action.  Visiting them in an order of the schedule reaches those that are
blocked through others. -/
def skipBlocked (s : Schedule) (reason : String) (run : Run) : Run :=
  s.order.foldl (skipIfBlocked s reason) run

/-- Why the actions that wait for a failed one are skipped. -/
def skipReason (c : Change) : String :=
  "skipped because " ++ c.action.name ++ " " ++ c.id ++ " failed"

/-- The error of a failed action. -/
def errorText (c : Change) (text : String) : String :=
  (ActionError.mk c.id c.action.name text).message

/-- What a confirmed action records: what the backend answered, or else the desired version. -/
def confirmedVersion (c : Change) (returned : Option Resource) : Option Resource :=
  match c.sides with
  | .delete _ => none
  | sides => some (returned.getD sides.resource)

/-- Ends an action. -/
def settle (s : Schedule) (now : DateTime) (run : Run) (ended : Nat × Outcome) : Run :=
  let (i, outcome) := ended
  let run := { run with running := run.running.erase i }
  match s.actions[i]? with
  | none => run
  | some c =>
    match outcome with
    | .succeeded returned =>
      let run := run.record i fun r => { r with status := .succeeded, finishedAt := some now }
      let version := (confirmedVersion c returned).map fun r => (i, r)
      { run with applied := run.applied ++ version.toList }
    | .failed text =>
      let run := run.record i fun r =>
        { r with status := .failed, error := some (errorText c text), finishedAt := some now }
      skipBlocked s (skipReason c) run

/-- Ends several actions, one after the other. -/
def settleAll (s : Schedule) (now : DateTime) (ended : List (Nat × Outcome)) (run : Run) : Run :=
  ended.foldl (settle s now) run

/-- Whether an action was never started and is not skipped. -/
def anyPending (run : Run) : Bool := run.records.any fun r => r.status = .pending

/-- Gives up the actions that have not been started. -/
def cancelPending (run : Run) : Run :=
  { run with
    records := run.records.map fun r =>
      if r.status = .pending then
        { r with status := .cancelled, error := some "operation cancelled" }
      else r }

/-- The statuses of all actions. -/
def statuses (run : Run) : List Status := run.records.map ActionRecord.status

/-- What a run amounts to. -/
def result (plan : Plan) (baseline : List Resource) (cancelled : Bool) (run : Run) :
    ExecutionResult :=
  ⟨run.records, plan.resultingState baseline run.statuses run.applied, cancelled⟩

end Run

end Rollout
