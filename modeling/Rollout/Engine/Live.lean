import Rollout.Execution.Limits
import Rollout.Execution.Sandbox
import Rollout.Plan.Drift

/-!
# Reading live resources

The recorded resources are read one after the other, each within the limit of time.  The first read
that fails ends the reading.
-/

set_option autoImplicit false

namespace Rollout

/-- A read under way. -/
structure LiveRead where
  resource : Resource
  /-- How many nanoseconds it takes. -/
  takes : Nat
  /-- What it ends with, if it fails. -/
  failure? : Option Failure
deriving Repr

namespace LiveRead

/-- The failure of a read. -/
def failed (r : Resource) (text : String) : Failure := .action ⟨r.id, "read", text⟩

/-- What the failure of a backend means for a read.  The task that is cancelled is the reader's. -/
def failedWith (limits : Limits) (r : Resource) : Failure → Failure
  | .timedOut _ => failed r limits.timeoutText
  | .cancelled text => .cancelled text
  | e => failed r e.message

/-- Starts a read.  There has to be a backend, and some time. -/
def launch (limits : Limits) (r : Resource) (s : Sandbox) : LiveRead × Sandbox :=
  if !s.serves.contains r.backend then
    (⟨r, 0, some (failed r (ConfigurationError.noAdapter r.backend).message)⟩, s)
  else if !limits.timeout.isPositive then (⟨r, 0, some (failed r limits.timeoutText)⟩, s)
  else
    let s := s.log .read r.id
    let delay := s.delay .read r.id
    if limits.expires delay then
      (⟨r, limits.timeout.nanoseconds, some (failed r limits.timeoutText)⟩, s)
    else (⟨r, delay, (s.failure? .read r.id).map (failedWith limits r)⟩, s)

/-- Ends a read. -/
def finish (read : LiveRead) (s : Sandbox) : Except Failure (Option Resource) :=
  match read.failure? with
  | some e => .error e
  | none => .ok (s.live read.resource)

end LiveRead

/-- Reads resources, in addition to those that were read. -/
def readLive (limits : Limits) :
    List Resource → List (String × Option Resource) → Sandbox →
      Except Failure (List (String × Option Resource)) × Sandbox
  | [], live, s => (.ok live, s)
  | r :: rest, live, s =>
    let (read, s) := LiveRead.launch limits r s
    match read.finish s with
    | .error e => (.error e, s)
    | .ok found => readLive limits rest (Assoc.put r.id found live) s

end Rollout
