import Rollout.Store.Basic

/-!
# Keepers of releases

What an operation needs of a store: to create a release, to save it, and to find the latest one.
Every store is a keeper.  A watched store is one that records which releases were saved, and that
fails at the saves it is told to fail at.
-/

set_option autoImplicit false

namespace Rollout

/-- What an operation needs of a store. -/
class Keeper (σ : Type) where
  /-- Stores a new release at the next revision. -/
  create (now : DateTime) (t : Triple) (s : σ) : Except Failure Release × σ
  /-- Stores a release at its revision. -/
  save (r : Release) (s : σ) : Except Failure Unit × σ
  /-- The release with the highest revision. -/
  latest (t : Triple) (s : σ) : Except Failure (Option Release)

/-- Every store is a keeper. -/
instance {σ : Type} [Backing σ] : Keeper σ where
  create now t s := Store.create now t s
  save r s :=
    match Store.save r s with
    | .ok s => (.ok (), s)
    | .error e => (.error e, s)
  latest t s := Store.latest t s

/-- One attempt to save a release, and whether it was stored. -/
structure SaveAttempt where
  release : Release
  stored : Bool
deriving Repr

/-- A store with a record of all attempts to save. -/
structure WatchedStore (σ : Type) where
  store : σ
  attempts : List SaveAttempt := []
  /-- The numbers of the attempts that fail, counted from one. -/
  faults : List Nat := []
  /-- What an attempt fails with. -/
  fault : Failure := .store (.reported "disk full")

namespace WatchedStore

variable {σ : Type} [Keeper σ]

/-- Adds an attempt to the record. -/
def record (r : Release) (stored : Bool) (s : WatchedStore σ) : WatchedStore σ :=
  { s with attempts := s.attempts ++ [⟨r, stored⟩] }

/-- Saves a release, unless the attempt is one that fails. -/
def save (r : Release) (s : WatchedStore σ) : Except Failure Unit × WatchedStore σ :=
  if s.faults.contains (s.attempts.length + 1) then (.error s.fault, s.record r false)
  else
    match Keeper.save r s.store with
    | (.ok _, store) => (.ok (), { s.record r true with store })
    | (.error e, store) => (.error e, { s.record r false with store })

/-- Whether the attempt with a number, counted from one, was stored. -/
def hasStored (number : Nat) (s : WatchedStore σ) : Bool :=
  match number with
  | 0 => false
  | n + 1 => (s.attempts[n]?).any SaveAttempt.stored

instance : Keeper (WatchedStore σ) where
  create now t s :=
    let (answer, store) := Keeper.create now t s.store
    (answer, { s with store })
  save r s := s.save r
  latest t s := Keeper.latest t s.store

end WatchedStore

end Rollout
