import Rollout.Release.Stored

/-!
# What a store is made of

A store keeps every release of every triple and hands out revisions.  A revision is reserved before
anything is stored at it, and a reservation is never handed out twice.  A `Backing` is a way of
keeping records and reservations; what a store does with them is the same for all backings.
-/

set_option autoImplicit false

namespace Rollout

/-- A way of keeping the releases of all triples, and the reserved revisions. -/
class Backing (σ : Type) where
  /-- Reserves the revision after the last one that is stored or reserved. -/
  reserve (t : Triple) (s : σ) : Except Failure Int × σ
  /-- Whether a revision is reserved. -/
  isReserved (t : Triple) (revision : Int) (s : σ) : Except Failure Bool
  /-- Forgets the reservation of a revision. -/
  dropReservation (t : Triple) (revision : Int) (s : σ) : σ
  /-- Stores a release at a revision that has none. -/
  insert (r : Release) (s : σ) : Except Failure σ
  /-- Stores a release at a revision that has one. -/
  replace (r : Release) (s : σ) : Except Failure σ
  /-- What is stored at a revision. -/
  load (t : Triple) (revision : Int) (s : σ) : Except Failure (Option Release)
  /-- The stored revisions, in ascending order. -/
  revisions (t : Triple) (s : σ) : Except Failure (List Int)

/-- A list of revisions in ascending order. -/
def ascending (revisions : List Int) : List Int := revisions.mergeSort fun a b => decide (a ≤ b)

/-- The greatest of several revisions, or zero. -/
def lastRevision (revisions : List Int) : Int := revisions.foldl max 0

end Rollout
