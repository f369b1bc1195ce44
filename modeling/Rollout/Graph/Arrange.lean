/-!
# Arranging items by their prerequisites

Items are numbered; each waits for the items in front of it.  Arranging places, again and again, the
first remaining item whose prerequisites have all been placed.  What cannot be placed is stuck: every
stuck item waits for a stuck one.

* `arrange before n` : the items below `n` in order, and the stuck ones.
-/

set_option autoImplicit false

namespace Rollout

/-- Items in the order in which they were placed, and those that cannot be placed. -/
structure Arrangement where
  placed : List Nat
  stuck : List Nat
deriving DecidableEq, Repr

namespace Arrangement

/-- The first remaining item none of whose prerequisites remains. -/
def ready? (before : Nat → List Nat) (remaining : List Nat) : Option Nat :=
  remaining.find? fun i => (before i).all fun j => !remaining.contains j

/-- Places items until none is ready, at most so many. -/
def place (before : Nat → List Nat) : Nat → List Nat → Arrangement
  | 0, remaining => ⟨[], remaining⟩
  | steps + 1, remaining =>
    match ready? before remaining with
    | none => ⟨[], remaining⟩
    | some i =>
      let rest := place before steps (remaining.erase i)
      ⟨i :: rest.placed, rest.stuck⟩

end Arrangement

/-- Arranges the items below `n`. -/
def arrange (before : Nat → List Nat) (n : Nat) : Arrangement :=
  Arrangement.place before n (List.range n)

end Rollout
