import Rollout.Execution.Limits

/-!
# Settings

What holds where nothing else is said.
-/

set_option autoImplicit false

namespace Rollout

/-- The settings of an installation. -/
structure Settings where
  logLevel : String := "INFO"
  /-- The root of the directory store. -/
  stateDir : String := ".shipyard/releases"
  /-- How many seconds one backend action may take. -/
  timeout : Double := .ofInt 300
  /-- How many backend actions may run at once. -/
  concurrency : Int := 4
deriving DecidableEq, Repr

namespace Settings

/-- The limits of executions: what is absent or zero is taken from the settings. -/
def limits (s : Settings) (timeout : Option Seconds) (concurrency : Option Int) : Limits where
  timeout :=
    match timeout with
    | some t => if t.isZero then .double s.timeout else t
    | none => .double s.timeout
  concurrency :=
    match concurrency with
    | some n => if n = 0 then s.concurrency else n
    | none => s.concurrency

end Settings

end Rollout
