import Rollout.Failure
import Rollout.Number.Shortest

/-!
# Limits of an execution

How long one backend action may take, and how many may run at once.  A number of seconds is written
in texts as it was given, as an integer or as a double.
-/

set_option autoImplicit false

namespace Rollout

/-- A number of seconds, as it was given. -/
inductive Seconds where
  | whole (n : Int)
  | double (x : Double)
deriving DecidableEq, Repr

namespace Seconds

/-- The text of a number of seconds. -/
def text : Seconds → String
  | .whole n => toString n
  | .double x => x.text

/-- Whether a number of seconds is more than none. -/
def isPositive : Seconds → Bool
  | .whole n => 0 < n
  | .double x => x.isPositive

/-- Whether a number of seconds is none. -/
def isZero : Seconds → Bool
  | .whole n => n = 0
  | .double x => x.isZero

/-- A time that no execution reaches. -/
def never : Nat := Nat.pow 10 30

/-- A number of seconds in whole nanoseconds; a negative one counts as none. -/
def nanoseconds : Seconds → Nat
  | .whole n => n.toNat * 1000000000
  | .double (.finite negative m q) =>
    if negative then 0 else Double.roundScaled (m * 1000000000) 1 (-q)
  | .double (.infinite negative) => if negative then 0 else never
  | .double .nan => 0

/-- A number of seconds as a value. -/
def toValue : Seconds → Value
  | .whole n => .int n
  | .double x => .double x

/-- The number of seconds that a value is, if it is a number. -/
def ofValue? : Value → Option Seconds
  | .int n => some (.whole n)
  | .double x => some (.double x)
  | _ => none

end Seconds

/-- The limits of an execution. -/
structure Limits where
  /-- How long one backend action may take. -/
  timeout : Seconds
  /-- How many backend actions may run at once. -/
  concurrency : Int
deriving DecidableEq, Repr

namespace Limits

/-- Refuses limits under which nothing could run. -/
def check (l : Limits) : Except LimitError Unit :=
  if !l.timeout.isPositive then .error .timeout
  else if l.concurrency ≤ 0 then .error .concurrency
  else .ok ()

/-- Whether the time is up before an answer comes that takes so many nanoseconds: of a limit and an
answer that fall due together, the limit counts.  An answer that takes no time is always in time. -/
def expires (l : Limits) (delay : Nat) : Bool := delay != 0 && decide (l.timeout.nanoseconds ≤ delay)

/-- The error text of an action that ran out of time. -/
def timeoutText (l : Limits) : String := "timed out after " ++ l.timeout.text ++ "s"

end Limits

end Rollout
