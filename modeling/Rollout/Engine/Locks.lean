import Rollout.Release.Basic

/-!
# Locks

Operations on one triple are carried out one after the other.  Each holds the lock of the triple
while it works.  The lock is made when the first caller comes, is kept as long as somebody holds or
awaits it, and is given to the callers in the order in which they came.

* `Locks.enter` : a caller comes, and awaits the lock of its triple;
* `Locks.next?`, `Locks.take` : the next caller takes a lock that is free;
* `Locks.leave` : a caller leaves, whether it held the lock or gave up waiting.
-/

set_option autoImplicit false

namespace Rollout

/-- Somebody who holds or awaits a lock. -/
structure Caller where
  /-- The number of its operation. -/
  number : Nat
  triple : Triple
  /-- The number of the lock it was given when it came. -/
  lock : Nat
  holds : Bool := false
deriving DecidableEq, Repr

/-- A caller after the one with a given number has taken its lock. -/
def Caller.afterTake (number : Nat) (c : Caller) : Caller :=
  if c.number = number then { c with holds := true } else c

/-- The locks of an engine. -/
structure Locks where
  /-- The lock of each triple. -/
  current : List (Triple × Nat) := []
  /-- How many hold or await the lock of each triple. -/
  users : List (Triple × Nat) := []
  /-- Those who do, in the order in which they came. -/
  callers : List Caller := []
  /-- How many locks were made. -/
  made : Nat := 0
deriving DecidableEq, Repr

namespace Locks

/-- Whether no triple has a lock. -/
def isIdle (l : Locks) : Bool := l.current.isEmpty && l.users.isEmpty

/-- A caller comes: it awaits the lock of its triple, or else the one that it brings along. -/
def enter (t : Triple) (number : Nat) (l : Locks) : Locks :=
  let lock := (Assoc.lookup t l.current).getD l.made
  { current := Assoc.put t lock l.current
    users := Assoc.put t ((Assoc.lookup t l.users).getD 0 + 1) l.users
    callers := l.callers ++ [{ number, triple := t, lock }]
    made := l.made + 1 }

/-- Whether somebody holds a lock. -/
def isHeld (lock : Nat) (l : Locks) : Bool := l.callers.any fun c => c.lock = lock && c.holds

/-- The caller that is given the lock of a triple next, if it is free. -/
def next? (t : Triple) (l : Locks) : Option Nat :=
  match Assoc.lookup t l.current with
  | none => none
  | some lock =>
    if l.isHeld lock then none
    else (l.callers.find? fun c => c.lock = lock).map Caller.number

/-- A caller takes its lock. -/
def take (number : Nat) (l : Locks) : Locks :=
  { l with callers := l.callers.map (Caller.afterTake number) }

/-- A caller leaves, and the last one of a triple drops its lock. -/
def leave (number : Nat) (l : Locks) : Locks :=
  match l.callers.find? fun c => c.number = number with
  | none => l
  | some c =>
    let callers := l.callers.erase c
    let users := (Assoc.lookup c.triple l.users).getD 0 - 1
    if users = 0 then
      { l with
        current := Assoc.erase c.triple l.current
        users := Assoc.erase c.triple l.users
        callers }
    else { l with users := Assoc.put c.triple users l.users, callers }

end Locks

end Rollout
