import Rollout.Execution.Limits
import Rollout.Execution.Sandbox

/-!
# Actions in flight

A sandbox answers in virtual time, which moves only when nothing else can happen, straight to the
next end of an action.  Within one moment of time, what happens is ordered by ticks: an action for
which there is no backend ends one tick after it starts, any other four ticks after its delay, and an
execution that waits wakes up two ticks after the first end.
-/

set_option autoImplicit false

namespace Rollout

/-- A point of virtual time: nanoseconds, and ticks within the moment. -/
structure Instant where
  time : Nat
  tick : Nat := 0
deriving DecidableEq, Repr, Inhabited

namespace Instant

/-- Whether a point of time lies before another. -/
def before (a b : Instant) : Bool := a.time < b.time || (a.time = b.time && a.tick < b.tick)

/-- So many ticks later. -/
def later (ticks : Nat) (a : Instant) : Instant := { a with tick := a.tick + ticks }

/-- So many nanoseconds later, or the same moment if there are none. -/
def after (nanoseconds : Nat) (a : Instant) : Instant :=
  if nanoseconds = 0 then a else ⟨a.time + nanoseconds, 0⟩

/-- The earlier of two points of time. -/
def min (a b : Instant) : Instant := if b.before a then b else a

/-- The later of two points of time. -/
def max (a b : Instant) : Instant := if a.before b then b else a

/-- Ends that are at most so many nanoseconds apart fall into one moment. -/
def resolution : Nat := 1000

end Instant

/-- An action that has been started, and how it will end. -/
structure Flight where
  /-- The position of the action. -/
  index : Nat
  ends : Instant
  outcome : Outcome
  effect : Effect
deriving DecidableEq, Repr

namespace Flight

/-- Whether an action has ended when an execution wakes up. -/
def endsBy (wake : Instant) (f : Flight) : Bool :=
  f.ends.time ≤ wake.time + Instant.resolution && f.ends.tick ≤ wake.tick

/-- Starts an action. -/
def launch (limits : Limits) (start : Instant) (index : Nat) (c : Change) (s : Sandbox) :
    Flight × Sandbox :=
  let backend := c.resource.backend
  if !s.serves.contains backend then
    let text := (ConfigurationError.noAdapter backend).message
    (⟨index, start.later 1, .failed text, .none⟩, s)
  else
    let call := Sandbox.callOf c
    let delay := s.delay call c.resource.id
    let s := s.log call c.resource.id
    if limits.expires delay then
      (⟨index, (start.after limits.timeout.nanoseconds).later 4, .failed limits.timeoutText, .none⟩, s)
    else
      let (outcome, effect) := s.perform limits.timeoutText c
      (⟨index, (start.after delay).later 4, outcome, effect⟩, s)

/-- The first end of several actions. -/
def firstEnd? : List Flight → Option Instant
  | [] => none
  | f :: rest => some (rest.foldl (fun i g => i.min g.ends) f.ends)

/-- The last end of several actions, if there are any. -/
def lastEnd? : List Flight → Option Instant
  | [] => none
  | f :: rest => some (rest.foldl (fun i g => i.max g.ends) f.ends)

/-- The positions and outcomes of several actions. -/
def outcomes (flights : List Flight) : List (Nat × Outcome) :=
  flights.map fun f => (f.index, f.outcome)

/-- Lets several actions take effect. -/
def land (flights : List Flight) (s : Sandbox) : Sandbox :=
  flights.foldl (fun s f => s.affect f.effect) s

end Flight

end Rollout
