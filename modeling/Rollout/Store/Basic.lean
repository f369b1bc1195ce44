import Rollout.Release.Lifecycle
import Rollout.Store.Backing

/-!
# Stores

What a store does, whatever its backing.  It keeps releases as their records hold them:

* `Store.allocate` reserves a revision for a release that is saved later;
* `Store.create` reserves a revision and stores a new release at it, whose state is that of the
  latest release;
* `Store.save` stores a release at a reserved revision, or anew; a stored release that is finished
  never changes;
* `Store.get`, `Store.latest` and `Store.list` read.
-/

set_option autoImplicit false

namespace Rollout.Store

variable {σ : Type} [Backing σ]

/-- Reserves the next revision of a triple. -/
def allocate (t : Triple) (s : σ) : Except Failure Int × σ := Backing.reserve t s

/-- The release at a revision. -/
def get (t : Triple) (revision : Int) (s : σ) : Except Failure Release :=
  match Backing.load t revision s with
  | .error e => .error e
  | .ok none => .error (.notFound (.missing (t.at revision)))
  | .ok (some r) => r.reread

/-- The release with the highest revision. -/
def latest (t : Triple) (s : σ) : Except Failure (Option Release) :=
  match Backing.revisions t s with
  | .error e => .error e
  | .ok revisions =>
    match revisions.getLast? with
    | none => .ok none
    | some revision =>
      match get t revision s with
      | .ok r => .ok (some r)
      | .error e => .error e

/-- The releases at several revisions. -/
def getAll (t : Triple) (s : σ) : List Int → Except Failure (List Release)
  | [] => .ok []
  | revision :: rest =>
    match get t revision s with
    | .error e => .error e
    | .ok r =>
      match getAll t s rest with
      | .error e => .error e
      | .ok found => .ok (r :: found)

/-- All releases of a triple, in ascending order of their revisions. -/
def list (t : Triple) (s : σ) : Except Failure (List Release) :=
  match Backing.revisions t s with
  | .error e => .error e
  | .ok revisions => getAll t s revisions

/-- Stores a new release at a reserved revision. -/
def createAt (now : DateTime) (t : Triple) (revision : Int) (s : σ) : Except Failure Release × σ :=
  match latest t s with
  | .error e => (.error e, s)
  | .ok before =>
    let state := match before with
      | some r => r.resources
      | none => []
    let release := Release.new now t revision state
    match Backing.insert release.dumped s with
    | .error e => (.error e, s)
    | .ok s => (.ok release, s)

/-- Reserves a revision and stores a new release at it.  The reservation is gone afterwards, also
when nothing could be stored. -/
def create (now : DateTime) (t : Triple) (s : σ) : Except Failure Release × σ :=
  match Backing.reserve t s with
  | (.error e, s) => (.error e, s)
  | (.ok revision, s) =>
    let (answer, s) := createAt now t revision s
    (answer, Backing.dropReservation t revision s)

/-- Stores a release at its revision. -/
def save (r : Release) (s : σ) : Except Failure σ :=
  match Backing.load r.triple r.revision s with
  | .error e => .error e
  | .ok none =>
    match Backing.isReserved r.triple r.revision s with
    | .error e => .error e
    | .ok false => .error (.notFound (.neverCreated r.label))
    | .ok true =>
      match Backing.insert r.dumped s with
      | .error e => .error e
      | .ok s => .ok (Backing.dropReservation r.triple r.revision s)
  | .ok (some stored) =>
    match stored.reread with
    | .error e => .error e
    | .ok stored =>
      if stored.isTerminal then .error (.lifecycle (.immutable r.label))
      else Backing.replace r.dumped s

end Rollout.Store
