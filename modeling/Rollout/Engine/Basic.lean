import Rollout.Execution.Executor
import Rollout.Generation.Pipeline
import Rollout.Plan.Drift
import Rollout.Release.Lifecycle
import Rollout.Store.Keeper
import Rollout.Workspace.Validation

/-!
# Operations

An engine carries out operations on stacks: to apply what a pipeline generates, to preview it, or to
destroy what is there.  Every operation makes a release.

* `Request` : what is asked for;
* `Delivery` : the release in its last phase, with the plan, the drift that was found, and the error.
-/

set_option autoImplicit false

namespace Rollout

/-- The limits that an engine keeps, and its clock. -/
structure Engine where
  limits : Limits
  clock : DateTime

/-- What is to be done with a stack. -/
inductive Task where
  | apply (pipeline : Pipeline)
  /-- Plans only; on request the recorded resources are compared with the live ones. -/
  | preview (pipeline : Pipeline) (live : Bool)
  | destroy

/-- What an engine is asked to do. -/
structure Request (σ : Type) where
  triple : Triple
  task : Task
  /-- The workspace to be checked first. -/
  config : Option Workspace := none
  interrupts : Interrupts := {}
  /-- Whether no action may be started from the beginning. -/
  stopped : Bool := false
  /-- Whether no further action may be started; asked after each save. -/
  stopWhen : σ → Bool := fun _ => false

/-- What an operation amounts to. -/
structure Delivery where
  release : Release
  plan : Option Plan := none
  drift : List DriftReport := []
  error : Option String := none

/-- Whether an operation succeeded. -/
def Delivery.succeeded (d : Delivery) : Bool := d.release.phase = .succeeded

/-- How an operation ended. -/
abbrev Verdict := Except Failure Delivery

/-- Whether a failure to generate or to plan is recorded on the release; any other escapes. -/
def Failure.isRecorded : Failure → Bool
  | .generation _ | .patch _ | .secret _ | .graph _ => true
  | _ => false

end Rollout
