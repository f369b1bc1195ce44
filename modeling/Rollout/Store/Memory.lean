import Rollout.Store.Basic

/-!
# Stores in memory

For every triple: the stored releases, the last revision that was handed out, and the revisions that
are reserved.

A release that was read from such a store shares with it what is inside the attributes and extensions
of its resources.  Whoever changes a list or an object there changes what is stored, be the release
finished or not; the attributes and extensions themselves, and all else, are the reader's own.

* `Release.edit`, `MemoryStore.edit` : a change inside a release that was read, and what it does to the
  store.
-/

set_option autoImplicit false

namespace Rollout

/-- What is kept of one triple. -/
structure Shelf where
  releases : List (Int × Release) := []
  /-- The last revision that was handed out. -/
  allocated : Int := 0
  reserved : List Int := []
deriving Repr

/-- A store in memory. -/
structure MemoryStore where
  shelves : List (Triple × Shelf) := []
deriving Repr

namespace MemoryStore

/-- What is kept of a triple. -/
def shelf (t : Triple) (s : MemoryStore) : Shelf := (Assoc.lookup t s.shelves).getD {}

/-- Changes what is kept of a triple. -/
def update (t : Triple) (f : Shelf → Shelf) (s : MemoryStore) : MemoryStore :=
  ⟨Assoc.put t (f (s.shelf t)) s.shelves⟩

/-- Reserves the revision after the last one that was handed out. -/
def reserve (t : Triple) (s : MemoryStore) : Int × MemoryStore :=
  let revision := (s.shelf t).allocated + 1
  (revision, s.update t fun shelf =>
    { shelf with allocated := revision, reserved := shelf.reserved ++ [revision] })

/-- Forgets a reservation. -/
def dropReservation (t : Triple) (revision : Int) (s : MemoryStore) : MemoryStore :=
  s.update t fun shelf => { shelf with reserved := shelf.reserved.filter (· ≠ revision) }

/-- Stores a release, in place of the one at its revision if there is one. -/
def put (r : Release) (s : MemoryStore) : MemoryStore :=
  s.update r.triple fun shelf => { shelf with releases := Assoc.put r.revision r shelf.releases }

/-- Stores a release at a revision that has none. -/
def insert (r : Release) (s : MemoryStore) : Except Failure MemoryStore :=
  if Assoc.has r.revision (s.shelf r.triple).releases then
    .error (.conflict (.taken r.revision r.triple.label))
  else .ok (s.put r)

instance : Backing MemoryStore where
  reserve t s :=
    let (revision, s) := s.reserve t
    (.ok revision, s)
  isReserved t revision s := .ok ((s.shelf t).reserved.contains revision)
  dropReservation t revision s := s.dropReservation t revision
  insert r s := s.insert r
  replace r s := .ok (s.put r)
  load t revision s := .ok (Assoc.lookup revision (s.shelf t).releases)
  revisions t s := .ok (ascending (Assoc.keys (s.shelf t).releases))

end MemoryStore

/-! ## Changes inside releases that were read -/

/-- An attribute or extension of a resource in the spec or the state of a release. -/
structure Place where
  inSpec : Bool
  index : Nat
  inExtensions : Bool
  key : String
deriving DecidableEq, Repr

/-- Whether a change inside one value can lead to another: lists stay lists, objects stay objects, and
nothing else can be changed. -/
def Value.isEditOf : Value → Value → Bool
  | .list _, .list _ | .object _, .object _ => true
  | _, _ => false

/-- Changes the value of a key, if that can be. -/
def Fields.edit (key : String) (v : Value) (fs : Fields) : Fields :=
  match Assoc.lookup key fs with
  | some old => if v.isEditOf old then Assoc.put key v fs else fs
  | none => fs

/-- Changes a value inside a resource. -/
def Resource.edit (p : Place) (v : Value) (r : Resource) : Resource :=
  if p.inExtensions then { r with extensions := Fields.edit p.key v r.extensions }
  else { r with attributes := Fields.edit p.key v r.attributes }

/-- Changes a value inside a release. -/
def Release.edit (p : Place) (v : Value) (r : Release) : Release :=
  if p.inSpec then { r with spec := r.spec.map fun rs => rs.modify p.index (Resource.edit p v) }
  else { r with state := r.state.map fun rs => rs.modify p.index (Resource.edit p v) }

/-- What a change inside a release that was read at a revision does to the store. -/
def MemoryStore.edit (t : Triple) (revision : Int) (p : Place) (v : Value) (s : MemoryStore) :
    MemoryStore :=
  match Assoc.lookup revision (s.shelf t).releases with
  | some r => s.update t fun shelf =>
      { shelf with releases := Assoc.put revision (r.edit p v) shelf.releases }
  | none => s

end Rollout
