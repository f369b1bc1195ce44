import Rollout.Release.Lifecycle

/-!
# Calls on a release

The steps of a release as calls that change it in place.  A call writes one field after the other: when
a later part of it refuses, what the parts before it have written stays.

* `Release.Edit` : a change in place, which may refuse;
* `Release.Call` : the calls with their arguments;
* `Call.perform` : the answer of a call, and the release after it.
-/

set_option autoImplicit false

namespace Rollout.Release

/-- A change of a release in place, which may refuse halfway. -/
abbrev Edit := ExceptT LifecycleError (StateM Release)

namespace Edit

/-- Writes the time of the change. -/
def stamp (now : DateTime) : Edit Unit := modify fun r => { r with modifiedTime := now }

/-- Moves to another phase. -/
def move (now : DateTime) (target : Phase) : Edit Unit := do
  let r ← get
  unless r.phase.canMove target do throw (.move r.label r.phase target)
  modify fun r => { r with phase := target }
  stamp now

/-- Attaches the generated spec. -/
def attachSpec (now : DateTime) (spec : List Resource) : Edit Unit := do
  let r ← get
  unless r.phase = .generating do throw (.specFrozen r.label r.phase)
  modify fun r => { r with spec := some spec }
  stamp now

/-- Starts the operation. -/
def start (now : DateTime) (operation : Operation) : Edit Unit := do
  let r ← get
  if operation.needsSpec ∧ r.spec = none then throw (.noSpec r.label operation)
  move now operation.phase

/-- Records the state reached so far. -/
def checkpoint (now : DateTime) (state : Option (List Resource)) : Edit Unit := do
  let r ← get
  unless r.phase.isMutating do throw (.stateFixed r.label r.phase)
  modify fun r => { r with state }
  stamp now

/-- Records the last state, if one is given. -/
def settle (state : Option (List Resource)) (required : Bool) : Edit Unit := do
  let r ← get
  match state with
  | none => if required then throw (.stateRequired r.label r.phase)
  | some state =>
    unless r.phase.isMutating do throw (.stateFixed r.label r.phase)
    modify fun r => { r with state := some state }

/-- Finishes successfully. -/
def succeed (now : DateTime) (state : Option (List Resource)) : Edit Unit := do
  let r ← get
  settle state r.phase.isMutating
  move now .succeeded

/-- Finishes as failed. -/
def fail (now : DateTime) (reason : String) (state : Option (List Resource)) : Edit Unit := do
  let r ← get
  if r.isTerminal then throw (.finished r.label r.phase)
  settle state false
  modify fun r => { r with error := some reason }
  move now .failed

end Edit

/-- A call of the lifecycle. -/
inductive Call where
  | move (target : Phase)
  | attachSpec (spec : List Resource)
  | start (operation : Operation)
  | checkpoint (state : Option (List Resource))
  | succeed (state : Option (List Resource))
  | fail (reason : String) (state : Option (List Resource))
deriving DecidableEq, Repr

namespace Call

/-- What a call does at the time `now`. -/
def edit (now : DateTime) : Call → Edit Unit
  | move target => .move now target
  | attachSpec spec => .attachSpec now spec
  | start operation => .start now operation
  | checkpoint state => .checkpoint now state
  | succeed state => .succeed now state
  | fail reason state => .fail now reason state

/-- Makes a call: its answer, and the release after it. -/
def perform (now : DateTime) (call : Call) (r : Release) : Except LifecycleError Unit × Release :=
  (call.edit now).run.run r

end Call

end Rollout.Release
